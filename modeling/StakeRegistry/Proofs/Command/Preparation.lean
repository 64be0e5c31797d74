/-
The commands that send transactions, taken apart into what prepares a job and what sends it.

Each of them first prepares a `Job`, unless there is nothing to send or nothing is to be sent, and
then sends it (`SendCommand.run_eq`). A job is a value, which holds the payloads of all
transactions: none of them is left to be made when the first transaction is built. The preparation
sends nothing (`SendCommand.quiet_prepare`).

* `Unstake.selection o`, `Migrate.selection o`: what is selected from the snapshots;
* `Unstake.prepareJob`, `Migrate.prepareJob`, `Stake.prepareJob`: what makes a job of it.
-/
import StakeRegistry.Proofs.Command.Inputs
import StakeRegistry.Proofs.Command.Jobs
import StakeRegistry.Proofs.Command.Staking

namespace StakeRegistry.Command

open Node Program Registry Tx

/-! ### Staking -/

namespace Stake

/-- The job of a plan, once the balance covers it. -/
def prepareJob (o : Options) : Act Failure Job := do
  let p ← prepare o
  ensureBalance p.account (o.stakePerValidator * p.keys.length)
  let registry ← openRegistry p.network.registryAddress
  sayLines (heading p.network o p.chainId p.account p.keys.length p.batches.length)
  return {
    account := p.account
    sends := .stake { sender := p.account.address, gasLimit := o.gasLimit } (p.payload registry)
      p.batches o.stakePerValidator
    closing := "All staking batches completed!" }

lemma run_eq_job (o : Options) : Stake.run o = prepareJob o >>= Job.send := by
  rw [run_eq, prepareJob, LawfulMonad.bind_assoc]
  refine bind_congr fun p => ?_
  rw [LawfulMonad.bind_assoc]
  refine bind_congr fun _ => ?_
  rw [LawfulMonad.bind_assoc, sendPlan]
  refine bind_congr fun registry => ?_
  rw [LawfulMonad.bind_assoc]
  refine bind_congr fun _ => ?_
  rw [pure_bind]
  rfl

end Stake

/-! ### Unstaking -/

namespace Unstake

/-- What is selected, with the registry that it is staked with. -/
structure Selection where
  network : Config.Network
  registry : String
  keys : List String

/-- Select the keys to act on. -/
def selection (o : Options) : Act Failure Selection := do
  let network ← setUp o.network
  let staked ← snapshot (Path.ofText o.artifacts) .staked
  let unstaked ← snapshot (Path.ofText o.artifacts) .unstaked
  let withdrawn ← snapshot (Path.ofText o.artifacts) .withdraw
  reach network
  let registry ← openRegistry network.registryAddress
  let onChain ← onChainKeys o registry
  return { network, registry, keys := select o onChain staked unstaked withdrawn }

/-- The job for selected keys. -/
def prepareJob (o : Options) (s : Selection) : Act Failure Job := do
  let account ← signer s.network
  let chainId ← chainIdOf s.network
  ensureBalance account minBalance
  let keys ← Act.orElse .plan (s.keys.mapM keyBytes)
  match splitBatches keys o.batchSize with
  | none => throw .batchSizeNotPositive
  | some batches =>
    let payload := fun batch =>
      { call := { contract := s.registry, method := o.action, arguments := [.keys batch] },
        account := account.address, chainId : Payload }
    return {
      account
      sends := .act { sender := account.address, gasLimit := o.gasLimit } payload batches o.action
      closing := "All " ++ o.action ++ " batches completed!" }

lemma run_eq_job (o : Options) : Unstake.run o = (do
    let s ← selection o
    Act.say ("Number of validators to " ++ o.action ++ ": " ++ toString s.keys.length)
    if o.dryRun || s.keys.isEmpty then sayLines (s.keys.map ("  0x" ++ ·))
    else prepareJob o s >>= Job.send) := by
  have send_eq : ∀ network registry keys, Unstake.send o network registry keys =
      prepareJob o { network, registry, keys } >>= Job.send := by
    intro network registry keys
    unfold Unstake.send prepareJob
    rw [LawfulMonad.bind_assoc]
    refine bind_congr fun account => ?_
    rw [LawfulMonad.bind_assoc]
    refine bind_congr fun chainId => ?_
    rw [LawfulMonad.bind_assoc]
    refine bind_congr fun _ => ?_
    rw [LawfulMonad.bind_assoc]
    refine bind_congr fun keys => ?_
    cases splitBatches keys o.batchSize with
    | none => rfl
    | some batches =>
      rw [pure_bind]
      rfl
  -- what follows the selection is the same in both programs
  unfold Unstake.run selection
  simp only [LawfulMonad.bind_assoc, pure_bind, send_eq]

end Unstake

/-! ### Migrating -/

namespace Migrate

/-- What is selected, with the network that it is migrated on. -/
structure Selection where
  network : Config.Network
  events : List Event

/-- Select the stakes to migrate. -/
def selection (o : Options) : Act Failure Selection := do
  let network ← setUp o.network
  let staked ← snapshot (Path.ofText o.artifacts) .staked
  let unstaked ← snapshot (Path.ofText o.artifacts) .unstaked
  let withdrawn ← snapshot (Path.ofText o.artifacts) .withdraw
  let active := activeStakes staked unstaked withdrawn
  Act.say ("Active stakes in artifacts: " ++ toString active.length)
  let events ← select network.explorerApiUrl active o.excluded
  return { network, events }

/-- The job for a plan. -/
def prepareJob (o : Options) (n : Config.Network) (plan : List PlannedBatch) : Act Failure Job := do
  let account ← signer n
  reach n
  let chainId ← chainIdOf n
  ensureBalance account minBalance
  let registry ← openRegistry (targetOf o n)
  let plan ← Act.orElse .unreadable (plan.mapM (withPayload registry account chainId))
  return {
    account
    sends := .migrate { sender := account.address, gasLimit := o.gasLimit } plan o.valuePerValidator
    closing := "All batches completed!" }

lemma run_eq_job (o : Options) : Migrate.run o = (do
    let s ← selection o
    let plan ← Act.orElse .plan (planBatches s.events o.batchSize)
    sayLines (planText s.network (targetOf o s.network) s.events.length plan)
    if !o.dryRun && !plan.isEmpty then prepareJob o s.network plan >>= Job.send) := by
  have send_eq :
    ∀ n plan, Migrate.send o n (targetOf o n) plan = prepareJob o n plan >>= Job.send := by
    intro n plan
    unfold Migrate.send prepareJob
    simp only [LawfulMonad.bind_assoc, pure_bind]
    rfl
  unfold Migrate.run selection
  simp only [LawfulMonad.bind_assoc, pure_bind, send_eq]

end Migrate

/-! ### All commands that send -/

/-- A command that sends transactions, with what the command line says. -/
inductive SendCommand where
  | stake (o : Stake.Options)
  | unstake (o : Unstake.Options)
  | migrate (o : Migrate.Options)

namespace SendCommand

/-- Carry out the command. -/
def run : SendCommand → Act Failure Unit
  | stake o => Stake.run o
  | unstake o => Unstake.run o
  | migrate o => Migrate.run o

/-- Prepare the job of the command, if it has one. -/
def prepare : SendCommand → Act Failure (Option Job)
  | stake o => do return some (← Stake.prepareJob o)
  | unstake o => do
    let s ← Unstake.selection o
    Act.say ("Number of validators to " ++ o.action ++ ": " ++ toString s.keys.length)
    if o.dryRun || s.keys.isEmpty then
      sayLines (s.keys.map ("  0x" ++ ·))
      return none
    else return some (← Unstake.prepareJob o s)
  | migrate o => do
    let s ← Migrate.selection o
    let plan ← Act.orElse .plan (planBatches s.events o.batchSize)
    sayLines (Migrate.planText s.network (Migrate.targetOf o s.network) s.events.length plan)
    if !o.dryRun && !plan.isEmpty then return some (← Migrate.prepareJob o s.network plan)
    else return none

/-- Send a job, if there is one. -/
def sendAny : Option Job → Act Failure Unit
  | none => pure ()
  | some job => job.send

/-- Every command prepares its job before it sends anything. -/
theorem run_eq (c : SendCommand) : c.run = c.prepare >>= sendAny := by
  have some_bind : ∀ p : Act Failure Job,
      (p >>= fun job => pure (some job)) >>= sendAny = p >>= Job.send := by
    intro p
    simp only [LawfulMonad.bind_assoc, pure_bind]
    rfl
  cases c with
  | stake o =>
    rw [run, prepare, Stake.run_eq_job, some_bind]
  | unstake o =>
    rw [run, prepare, Unstake.run_eq_job, LawfulMonad.bind_assoc]
    refine bind_congr fun s => ?_
    rw [LawfulMonad.bind_assoc]
    refine bind_congr fun _ => ?_
    split
    · rw [LawfulMonad.bind_assoc]
      simp only [pure_bind, sendAny, bind_pure_unit]
    · rw [some_bind]
  | migrate o =>
    rw [run, prepare, Migrate.run_eq_job, LawfulMonad.bind_assoc]
    refine bind_congr fun s => ?_
    rw [LawfulMonad.bind_assoc]
    refine bind_congr fun plan => ?_
    rw [LawfulMonad.bind_assoc]
    refine bind_congr fun _ => ?_
    split
    · rw [some_bind]
    · rw [pure_bind]
      rfl

/-! ### Preparations send nothing -/

/-- Nothing is asked about transactions. -/
abbrev Quiet (c : Host.Call) : Prop :=
  isTransaction c = false

lemma quiet_of_preliminary {α : Type} {p : Program Host α} (h : Uses IsPreliminary p) :
    Uses Quiet p :=
  h.mono fun _ hc => hc.2

lemma quiet_ensureBalance (account : Account) (needed : Int) :
    Uses Quiet (ensureBalance account needed).run := by
  refine uses_run_bind (uses_run_adapt ?_) fun _ => uses_run_pure
  refine uses_run_bind Act.uses_orElse fun address =>
    uses_run_bind (Act.uses_ask rfl) fun answer => ?_
  refine uses_run_bind Act.uses_orElse fun balance => ?_
  split
  · refine uses_run_bind Act.uses_orElse fun _ => uses_run_bind Act.uses_orElse fun _ => ?_
    exact uses_run_bind uses_run_throw fun _ => uses_run_pure
  · exact uses_run_pure

lemma quiet_prepareJob_stake (o : Stake.Options) : Uses Quiet (Stake.prepareJob o).run := by
  refine uses_run_bind (quiet_of_preliminary (Stake.preliminary_prepare o)) fun p => ?_
  refine uses_run_bind (quiet_ensureBalance _ _) fun _ => ?_
  refine uses_run_bind (quiet_of_preliminary (preliminary_openRegistry _)) fun registry => ?_
  exact uses_run_bind (quiet_of_preliminary (preliminary_sayLines _)) fun _ => uses_run_pure

lemma quiet_selection_unstake (o : Unstake.Options) : Uses Quiet (Unstake.selection o).run := by
  refine quiet_of_preliminary (uses_run_bind (preliminary_setUp _) fun n => ?_)
  refine uses_run_bind (preliminary_snapshot _ _) fun staked => ?_
  refine uses_run_bind (preliminary_snapshot _ _) fun unstaked => ?_
  refine uses_run_bind (preliminary_snapshot _ _) fun withdrawn => ?_
  refine uses_run_bind (preliminary_reach _) fun _ => ?_
  refine uses_run_bind (preliminary_openRegistry _) fun registry => ?_
  exact uses_run_bind (Unstake.preliminary_onChainKeys _ _) fun onChain => uses_run_pure

lemma quiet_prepareJob_unstake (o : Unstake.Options) (s : Unstake.Selection) :
    Uses Quiet (Unstake.prepareJob o s).run := by
  refine uses_run_bind (quiet_of_preliminary (preliminary_signer _)) fun account => ?_
  refine uses_run_bind (quiet_of_preliminary (preliminary_chainIdOf _)) fun chainId => ?_
  refine uses_run_bind (quiet_ensureBalance _ _) fun _ => ?_
  refine uses_run_bind Act.uses_orElse fun keys => ?_
  split
  · exact uses_run_throw
  · exact uses_run_pure

lemma quiet_selection_migrate (o : Migrate.Options) : Uses Quiet (Migrate.selection o).run := by
  refine quiet_of_preliminary (uses_run_bind (preliminary_setUp _) fun n => ?_)
  refine uses_run_bind (preliminary_snapshot _ _) fun staked => ?_
  refine uses_run_bind (preliminary_snapshot _ _) fun unstaked => ?_
  refine uses_run_bind (preliminary_snapshot _ _) fun withdrawn => ?_
  refine uses_run_bind (preliminary_say _) fun _ => ?_
  exact uses_run_bind (Migrate.preliminary_select _ _ _) fun events => uses_run_pure

lemma quiet_prepareJob_migrate (o : Migrate.Options) (n : Config.Network)
    (plan : List PlannedBatch) :
    Uses Quiet (Migrate.prepareJob o n plan).run := by
  refine uses_run_bind (quiet_of_preliminary (preliminary_signer _)) fun account => ?_
  refine uses_run_bind (quiet_of_preliminary (preliminary_reach _)) fun _ => ?_
  refine uses_run_bind (quiet_of_preliminary (preliminary_chainIdOf _)) fun chainId => ?_
  refine uses_run_bind (quiet_ensureBalance _ _) fun _ => ?_
  refine uses_run_bind (quiet_of_preliminary (preliminary_openRegistry _)) fun registry => ?_
  exact uses_run_bind Act.uses_orElse fun entries => uses_run_pure

/-- A preparation asks nothing about transactions. -/
theorem quiet_prepare (c : SendCommand) : Uses Quiet c.prepare.run := by
  cases c with
  | stake o => exact uses_run_bind (quiet_prepareJob_stake o) fun job => uses_run_pure
  | unstake o =>
    refine uses_run_bind (quiet_selection_unstake o) fun s => ?_
    refine uses_run_bind (quiet_of_preliminary (preliminary_say _)) fun _ => ?_
    split
    · exact uses_run_bind (quiet_of_preliminary (preliminary_sayLines _)) fun _ => uses_run_pure
    · exact uses_run_bind (quiet_prepareJob_unstake o s) fun job => uses_run_pure
  | migrate o =>
    refine uses_run_bind (quiet_selection_migrate o) fun s => ?_
    refine uses_run_bind Act.uses_orElse fun plan => ?_
    refine uses_run_bind (quiet_of_preliminary (preliminary_sayLines _)) fun _ => ?_
    split
    · exact uses_run_bind (quiet_prepareJob_migrate o _ plan) fun job => uses_run_pure
    · exact uses_run_pure

end SendCommand
end StakeRegistry.Command
