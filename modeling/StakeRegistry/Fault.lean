/-
How a call to the surroundings fails.

A failure is told by its text. Putting the text together may fail as well: then that failure takes
the place of whatever was to be told.
-/
import StakeRegistry.ReadError

namespace StakeRegistry

/-- The kinds of failure that a node, a signer or a web service reports. -/
inductive FaultKind where
  | value
  | runtime
  | connection
  | system
  | inclusionTimeout
  | transaction
  | invalidFee
  | timeExhausted
  | transactionNotFound
  /-- Any other kind, by its name. -/
  | other (name : String)
  deriving Repr, DecidableEq

/-- What a failure says about itself. -/
inductive Wording where
  | text (words : String)
  /-- Asked for its text, it fails in its turn, with a failure of this kind. -/
  | fails (kind : FaultKind)
  deriving Repr, DecidableEq

instance : Coe String Wording := ⟨.text⟩

/-- Why a call to the surroundings gave no answer. -/
inductive Fault where
  /-- The other side reported a failure. -/
  | reported (kind : FaultKind) (wording : Wording)
  /-- The node gave up waiting for a transaction. -/
  | notIncluded (hash : String) (timeout : String)
  /-- The other side answered with something that cannot be read. -/
  | unreadable (e : ReadError)
  deriving Repr, DecidableEq

namespace Fault

/-- What is told about a fault, unless its wording is that of the platform or it cannot be told. -/
def message : Fault → Option String
  | reported _ (.text m) => some m
  | reported _ (.fails _) => none
  | notIncluded hash timeout => some (hash ++ " not included within " ++ timeout ++ "s")
  | unreadable e => e.message

/-- A fault as part of a longer message, or the kind of the failure that takes its place. -/
def text : Fault → Except FaultKind String
  | reported _ (.fails kind) => .error kind
  | f => .ok (f.message.getD "<cause>")

/-- Does a fault tell a text with a property? One that cannot be told tells none. -/
def tells (f : Fault) (p : String → Bool) : Bool :=
  f.text.toOption.any p

theorem tells_iff {f : Fault} {p : String → Bool} :
    f.tells p = true ↔ ∃ text, f.text = .ok text ∧ p text = true := by
  unfold tells
  cases f.text <;> simp [Except.toOption]

/-- Does the fault say that a transaction was not included in time? -/
def isTimeout : Fault → Bool
  | reported .inclusionTimeout _ => true
  | notIncluded _ _ => true
  | _ => false

end Fault

/-- An unreadable value as part of a longer message. -/
def ReadError.text (e : ReadError) : String :=
  e.message.getD "<cause>"

end StakeRegistry
