/-
What the commands ask before they send anything.

A call is preliminary if it neither asks for a balance nor concerns a transaction. The parts of a
command's preparation make preliminary calls only, but for the check of the balance, which asks for
it once (`checksBalance_of_runs`). Even less is asked where a command only comes to the registry:
its network is set up with local calls alone, which neither leave the machine nor change its files,
and then the node is reached and asked for its chain (`IsOpening`).
-/
import StakeRegistry.Command.Setup
import StakeRegistry.Proofs.Account.Address
import StakeRegistry.Proofs.Host.Files
import StakeRegistry.Proofs.Node.Broadcast
import StakeRegistry.Proofs.Program.Uses

namespace StakeRegistry

open Program FileTree

/-- Does the call ask for a balance? -/
def Node.asksBalance : Host.Call → Bool
  | .node (.balance _) => true
  | _ => false

/-- The call neither asks for a balance nor concerns a transaction. -/
def IsPreliminary (c : Host.Call) : Prop :=
  Node.asksBalance c = false ∧ Node.isTransaction c = false

/-- The call is local, or it reaches the node, asks it for its chain or prepares calls of a
contract. -/
def IsOpening : Host.Call → Prop
  | .node (.connect _ _) => True
  | .node .chainId => True
  | .node (.contract _ _) => True
  | c => IsLocal c

lemma opening_of_isLocal {c : Host.Call} (h : IsLocal c) : IsOpening c := by
  cases c with
  | node c => exact absurd h id
  | _ => exact h

lemma IsOpening.isPreliminary {c : Host.Call} (h : IsOpening c) : IsPreliminary c := by
  cases c with
  | node c =>
    cases c with
    | connect | chainId | contract => exact ⟨rfl, rfl⟩
    | _ => exact absurd h id
  | _ => exact ⟨rfl, rfl⟩

namespace Config

lemma local_firstThere (paths : List Path) : Uses IsLocal (firstThere paths).run := by
  induction paths with
  | nil => exact uses_run_pure
  | cons p rest ih =>
    refine uses_run_bind (Act.uses_ask trivial) fun x =>
      uses_run_bind Act.uses_orElse fun there => ?_
    split
    · exact uses_run_pure
    · exact ih

lemma local_envFileText (path : Path) : Uses IsLocal (envFileText path).run := by
  refine uses_run_bind (Act.uses_ask trivial) fun x => ?_
  split
  · exact uses_run_pure
  · exact uses_run_throw
  · exact Act.uses_orElse

lemma local_noteEnvFile (level : LogLevel) (message : String) :
    Uses IsLocal (noteEnvFile level message).run :=
  Act.uses_ask trivial

lemma local_variablesOfFile (path : Path) (env : Keyed String String) :
    Uses IsLocal (variablesOfFile path env).run := by
  rw [variablesOfFile]
  split
  · exact uses_run_bind (local_noteEnvFile _ _) fun _ => uses_run_pure
  · refine uses_run_bind (local_envFileText path) fun text => ?_
    refine uses_run_bind (uses_run_forM fun _ => local_noteEnvFile _ _) fun _ => ?_
    exact Act.uses_orElse

lemma local_loadEnvFile (start : Path) (env : Keyed String String) :
    Uses IsLocal (loadEnvFile start env).run := by
  refine uses_run_bind (local_firstThere _) fun found => ?_
  split
  · exact uses_run_pure
  · exact uses_run_bind (local_variablesOfFile _ _) fun _ => uses_run_pure

lemma preliminary_decrypt (path : Path) (password : String) :
    Uses IsPreliminary (decrypt path password).run := by
  refine uses_run_bind (Act.uses_ask ⟨rfl, rfl⟩) fun x =>
    uses_run_bind Act.uses_orElse fun bytes => ?_
  split
  · exact uses_run_throw
  · refine uses_run_bind (Act.uses_ask ⟨rfl, rfl⟩) fun key => ?_
    split
    · exact uses_run_pure
    · exact uses_run_throw
    · exact uses_run_throw

lemma preliminary_accountOfKeystore (file : String) (password : Option String) :
    Uses IsPreliminary (accountOfKeystore file password).run := by
  cases password with
  | none => exact uses_run_throw
  | some password =>
    refine uses_run_bind (Act.uses_ask ⟨rfl, rfl⟩) fun x =>
      uses_run_bind Act.uses_orElse fun there => ?_
    split
    · exact uses_run_bind uses_run_throw fun _ =>
        uses_run_bind (preliminary_decrypt _ _) fun _ => Act.uses_orElse
    · exact uses_run_bind (preliminary_decrypt _ _) fun _ => Act.uses_orElse

lemma preliminary_loadAccount (n : Network) : Uses IsPreliminary (loadAccount n).run := by
  unfold loadAccount
  split
  case h_1 key _ =>
    -- otherwise the account of the key would be computed to compare the programs
    generalize accountOfVariable key = account
    exact Act.uses_orElse
  case h_2 file _ _ => exact preliminary_accountOfKeystore file _
  case h_3 => exact uses_run_throw

lemma checkedAddress_of_accountOfVariable {text : String} {account : Account}
    (h : accountOfVariable text = .ok account) :
    checkedAddress account.address = .ok account.address := by
  unfold accountOfVariable at h
  extract_lets key at h
  split at h
  case h_1 read =>
    cases h
    exact Account.checkedAddress_of_ofKey read
  case h_2 => cases h

lemma checkedAddress_of_accountOfKeystore {file : String} {password : Option String}
    {account : Account} {es : List (Program.Event Host)}
    (run : Runs (accountOfKeystore file password).run es (.ok account)) :
    checkedAddress account.address = .ok account.address := by
  cases password with
  | none =>
    obtain ⟨-, ended⟩ := runs_run_throw_iff.1 run
    cases ended
  | some password =>
    obtain ⟨there, es₁, rfl, run₁⟩ := Act.runs_ask_bind_iff.1 run
    obtain ⟨isThere, rfl, run₂⟩ := Act.runs_orElse_bind_ok_iff.1 run₁
    obtain ⟨-, run₃⟩ := runs_run_guard_ok_iff.1 run₂
    obtain ⟨own, es₂, key, rfl, -, run₄⟩ := runs_run_bind_ok_iff.1 run₃
    obtain ⟨-, ended⟩ := Act.runs_orElse_iff.1 run₄
    exact Account.checkedAddress_of_ofKey (mapError_eq_ok_iff.1 ended.symm)

end Config

namespace Command

open Config

lemma local_setUp (network : String) : Uses IsLocal (setUp network).run := by
  refine uses_run_bind (Act.uses_ask trivial) fun start => ?_
  refine uses_run_bind (Act.uses_ask trivial) fun env => ?_
  refine uses_run_bind (uses_run_adapt (local_loadEnvFile _ _)) fun loaded => ?_
  exact Act.uses_orElse

lemma preliminary_setUp (network : String) : Uses IsPreliminary (setUp network).run :=
  (local_setUp network).mono fun _ h => (opening_of_isLocal h).isPreliminary

lemma preliminary_signer (n : Network) : Uses IsPreliminary (signer n).run :=
  uses_run_adapt (preliminary_loadAccount n)

/-- An account that signs is that of a key, and so its address can be checked. -/
lemma checkedAddress_of_runs {n : Network} {account : Account} {es : List (Program.Event Host)}
    (run : Runs (signer n).run es (.ok account)) :
    checkedAddress account.address = .ok account.address := by
  obtain ⟨x, loads, hx⟩ := Act.runs_withError_iff.1 run
  obtain rfl := mapError_eq_ok_iff.1 hx.symm
  unfold loadAccount at loads
  split at loads
  · obtain ⟨-, ended⟩ := Act.runs_orElse_iff.1 loads
    exact checkedAddress_of_accountOfVariable (mapError_eq_ok_iff.1 ended.symm)
  · exact checkedAddress_of_accountOfKeystore loads
  · obtain ⟨-, ended⟩ := runs_run_throw_iff.1 loads
    cases ended

lemma opening_reach (n : Network) : Uses IsOpening (reach n).run := by
  refine uses_run_adapt (uses_run_bind (Act.uses_ask trivial) fun reached => ?_)
  split
  · exact uses_run_throw
  · exact uses_run_pure

lemma preliminary_reach (n : Network) : Uses IsPreliminary (reach n).run :=
  (opening_reach n).mono fun _ => IsOpening.isPreliminary

lemma opening_chainIdOf (n : Network) : Uses IsOpening (chainIdOf n).run := by
  have asked : Uses IsOpening (Act.ask (.node .chainId) >>= fun x => Act.orElse .fault x :
      Act Node.NodeError Int).run :=
    uses_run_bind (Act.uses_ask trivial) fun _ => Act.uses_orElse
  refine uses_run_adapt ?_
  unfold Node.chainId
  split
  · split
    · exact uses_run_pure
    · exact asked
  · exact asked

lemma preliminary_chainIdOf (n : Network) : Uses IsPreliminary (chainIdOf n).run :=
  (opening_chainIdOf n).mono fun _ => IsOpening.isPreliminary

lemma opening_openRegistry (address : String) : Uses IsOpening (openRegistry address).run := by
  refine uses_run_adapt (uses_run_bind Act.uses_orElse fun checked => ?_)
  exact uses_run_bind (Act.uses_ask trivial) fun _ => uses_run_pure

lemma preliminary_openRegistry (address : String) : Uses IsPreliminary (openRegistry address).run :=
  (opening_openRegistry address).mono fun _ => IsOpening.isPreliminary

/-- A registry that is opened has an address, which is told to the node. -/
lemma contract_of_runs {address registry : String} {es : List (Program.Event Host)}
    (run : Runs (openRegistry address).run es (.ok registry)) :
    checkedAddress address = .ok registry ∧
    es = [⟨.node (.contract registry Registry.interfaceValue), ()⟩] := by
  obtain ⟨x, opens, hx⟩ := Act.runs_withError_iff.1 run
  obtain rfl := mapError_eq_ok_iff.1 hx.symm
  obtain ⟨checked, haddress, told⟩ := Act.runs_orElse_bind_ok_iff.1 opens
  obtain ⟨⟨⟩, rest, rfl, ended⟩ := Act.runs_ask_bind_iff.1 told
  obtain ⟨rfl, hregistry⟩ := runs_run_pure_iff.1 ended
  obtain rfl := Except.ok.inj hregistry
  exact ⟨haddress, rfl⟩

/-- A registry whose address can be checked is opened. -/
lemma ok_of_runs_openRegistry {address registry : String} {es : List (Program.Event Host)}
    {r : Except Failure String} (checked : checkedAddress address = .ok registry)
    (run : Runs (openRegistry address).run es r) : r = .ok registry := by
  obtain ⟨x, opens, rfl⟩ := Act.runs_withError_iff.1 run
  rw [Node.openRegistry, checked, Act.orElse_ok_bind] at opens
  obtain ⟨⟨⟩, rest, -, ended⟩ := Act.runs_ask_bind_iff.1 opens
  obtain ⟨-, rfl⟩ := runs_run_pure_iff.1 ended
  rfl

lemma preliminary_say (line : String) : Uses IsPreliminary (Act.say line : Act Failure Unit).run :=
  Act.uses_ask ⟨rfl, rfl⟩

lemma preliminary_sayLines (lines : List String) : Uses IsPreliminary (sayLines lines).run :=
  uses_run_forM preliminary_say

/-- The transactions of an account are a run on the node, of which only the outcome is told. -/
lemma runBatch_of_runs {α : Type} {account : Account} {p : Tx.BatchRun Node.Payload α}
    {es : List (Program.Event Host)} {r : Except Failure Unit}
    (run : Runs (sendAll account p).run es r) :
    ∃ x, Runs (Node.runBatch account.address p).run es x ∧ (∀ u, r = .ok u → ∃ a, x = .ok a) ∧
      ∀ e, r = .error e → ∃ e', x = .error e' := by
  obtain ⟨y, mapped, rfl⟩ := runs_run_map_iff.1 run
  obtain ⟨x, batches, rfl⟩ := Act.runs_withError_iff.1 mapped
  refine ⟨x, batches, ?_⟩
  cases x with
  | ok a => exact ⟨fun _ _ => ⟨a, rfl⟩, nofun⟩
  | error e' => exact ⟨nofun, fun _ _ => ⟨e', rfl⟩⟩

/-- How the balance of an account is checked: it is asked for once, and everything below what is
needed ends the command. -/
inductive ChecksBalance (account : Account) (needed : Int) :
    List (Program.Event Host) → Except Failure Unit → Prop where
  | unasked {e : Failure} (unchecked : ∀ address, checkedAddress account.address ≠ .ok address) :
      ChecksBalance account needed [] (.error e)
  | short {address : String} {answer : Except Fault Int} {e : Failure}
      (checked : checkedAddress account.address = .ok address)
      (short : ∀ balance, answer = .ok balance → balance < needed) :
      ChecksBalance account needed [⟨.node (.balance address), answer⟩] (.error e)
  | enough {address : String} {balance : Int}
      (checked : checkedAddress account.address = .ok address) (enough : needed ≤ balance) :
      ChecksBalance account needed [⟨.node (.balance address), Except.ok balance⟩] (.ok ())

lemma checksBalance_of_runs {account : Account} {needed : Int} {es : List (Program.Event Host)}
    {r : Except Failure Unit} (run : Runs (ensureBalance account needed).run es r) :
    ChecksBalance account needed es r := by
  obtain ⟨x, mapped, rfl⟩ := runs_run_map_iff.1 run
  obtain ⟨x, checks, rfl⟩ := Act.runs_withError_iff.1 mapped
  unfold Node.ensureBalance at checks
  cases checked : checkedAddress account.address with
  | error e =>
    rw [checked, Act.orElse_error_bind] at checks
    obtain ⟨rfl, rfl⟩ := runs_run_throw_iff.1 checks
    exact .unasked (by simp [checked])
  | ok address =>
    rw [checked, Act.orElse_ok_bind] at checks
    obtain ⟨answer, rest, rfl, answered⟩ := Act.runs_ask_bind_iff.1 checks
    rcases answer with f | balance
    · rw [Act.orElse_error_bind] at answered
      obtain ⟨rfl, rfl⟩ := runs_run_throw_iff.1 answered
      exact .short checked (by simp)
    rw [Act.orElse_ok_bind] at answered
    by_cases short : balance < needed
    · rw [if_pos short] at answered
      -- both amounts are told, or cannot be told; either way the command ends
      obtain ⟨e, rfl, rfl⟩ : ∃ e, rest = [] ∧ x = .error e := by
        generalize amountText needed = neededText at answered
        generalize amountText balance = balanceText at answered
        cases neededText <;> cases balanceText <;> exact ⟨_, Runs.done_iff.1 answered⟩
      exact .short checked fun b hb => Except.ok.inj hb ▸ short
    · rw [if_neg short] at answered
      obtain ⟨rfl, rfl⟩ := runs_run_pure_iff.1 answered
      exact .enough checked (Int.not_lt.1 short)

end Command
end StakeRegistry
