/-
The commands.
-/
import StakeRegistry.Command.MissedSlots
import StakeRegistry.Command.Migrate
import StakeRegistry.Command.OptedInSlots
import StakeRegistry.Command.OptedInValidators
import StakeRegistry.Command.Query
import StakeRegistry.Command.Stake
import StakeRegistry.Command.Store
import StakeRegistry.Command.Unstake

namespace StakeRegistry.Command

/-- The commands by name. -/
inductive Name where
  | stake
  | unstake
  | store
  | query
  | migrate
  | optedInValidators
  | optedInSlots
  | missedSlots
  deriving Repr, DecidableEq

namespace Name

/-- All commands. -/
def all : List Name :=
  [stake, unstake, store, query, migrate, optedInValidators, optedInSlots, missedSlots]

/-- The name of a command as it is written. -/
def text : Name → String
  | stake => "stake"
  | unstake => "unstake"
  | store => "store"
  | query => "query"
  | migrate => "migrate"
  | optedInValidators => "opted_in_validators"
  | optedInSlots => "opted_in_slots"
  | missedSlots => "missed_slots"

/-- The command of a written name. -/
def ofText? (s : String) : Option Name :=
  all.find? fun c => c.text = s

/-- The written names tell the commands apart. -/
theorem ofText?_text (c : Name) : ofText? c.text = some c := by
  cases c <;> decide

/-- What the command line of a command may hold. -/
def table : Name → OptionTable
  | stake => Stake.table
  | unstake => Unstake.table
  | store => Store.table
  | query => Query.table
  | migrate => Migrate.table
  | optedInValidators => OptedInValidators.table
  | optedInSlots => OptedInSlots.table
  | missedSlots => MissedSlots.table

/-- What a command does with its settings. -/
def act (s : Settings) : Name → Act Failure Unit
  | stake => Stake.run (.ofSettings s)
  | unstake => Unstake.run (.ofSettings s)
  | store => Store.run (.ofSettings s)
  | query => Query.run (.ofSettings s)
  | migrate => Migrate.run (.ofSettings s)
  | optedInValidators => OptedInValidators.run (.ofSettings s)
  | optedInSlots => OptedInSlots.run (.ofSettings s)
  | missedSlots => MissedSlots.run (.ofSettings s)

end Name

/-- A command that is ready to run. -/
structure Invocation where
  /-- Are all records of the log shown? -/
  verbose : Bool
  act : Act Failure Unit

/-- The invocation of a command by its arguments. -/
def Name.invoke (c : Name) (args : List String) : Except UsageError Invocation := do
  let s ← c.table.settings args
  return { verbose := s.flag verboseOption.name, act := c.act s }

end StakeRegistry.Command
