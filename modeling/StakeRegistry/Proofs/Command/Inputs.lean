/-
What the commands read before they send anything.

The snapshots of events, the staked keys of the registry and what a block explorer knows are all
read with preliminary calls: none asks for a balance or concerns a transaction.
-/
import StakeRegistry.Command.Migrate
import StakeRegistry.Command.Unstake
import StakeRegistry.Proofs.Command.Setup
import StakeRegistry.Proofs.Registry.Paging

namespace StakeRegistry

open Program

namespace Act

variable {ε : Type}

lemma preliminary_entriesOf (p : Path) : Uses IsPreliminary (entriesOf p : Act ε _).run := by
  refine uses_run_bind (uses_ask ⟨rfl, rfl⟩) fun answer => ?_
  split
  · exact uses_run_pure
  · exact uses_run_pure

lemma preliminary_entriesLike (pattern : NamePattern) (p : Path) :
    Uses IsPreliminary (entriesLike pattern p : Act ε _).run :=
  uses_run_bind (preliminary_entriesOf p) fun _ => uses_run_pure

lemma preliminary_directoriesFrom (depth : Nat) (p : Path) :
    Uses IsPreliminary (directoriesFrom depth p : Act ε _).run := by
  induction depth generalizing p with
  | zero => exact uses_run_pure
  | succ depth ih =>
    rw [directoriesFrom]
    refine uses_run_bind (preliminary_entriesOf p) fun entries => ?_
    exact uses_run_bind (uses_run_mapM fun e => ih (p.child e.name)) fun below => uses_run_pure

lemma preliminary_search (steps : List PathStep) (p : Path) :
    Uses IsPreliminary (search steps p : Act ε _).run := by
  fun_induction search steps p with
  | case1 p => exact uses_run_pure
  | case2 pattern p =>
    exact uses_run_bind (preliminary_entriesLike pattern p) fun _ => uses_run_pure
  | case3 pattern steps p more ih =>
    refine uses_run_bind (preliminary_entriesLike pattern p) fun entries => ?_
    exact uses_run_bind (uses_run_mapM fun e => ih e) fun found => uses_run_pure
  | case4 steps p ih => exact ih
  | case5 steps p ih =>
    refine uses_run_bind (preliminary_directoriesFrom _ p) fun directories => ?_
    exact uses_run_bind (uses_run_mapM fun d => ih d) fun found => uses_run_pure

end Act

namespace Registry

lemma preliminary_latestArtifact (directory : Path) (type : String) :
    Uses IsPreliminary (latestArtifact directory type).run := by
  refine uses_run_bind Act.uses_orElse fun steps => ?_
  refine uses_run_bind (Act.uses_ask ⟨rfl, rfl⟩) fun answer => ?_
  split
  · exact uses_run_throw
  · exact uses_run_throw
  · refine uses_run_bind (Act.preliminary_search steps directory) fun found => ?_
    split
    · exact uses_run_pure
    · exact uses_run_throw

lemma preliminary_readEvents (directory : Path) (type : String) :
    Uses IsPreliminary (readEvents directory type).run := by
  refine uses_run_bind (preliminary_latestArtifact directory type) fun path => ?_
  refine uses_run_bind (Act.uses_ask ⟨rfl, rfl⟩) fun _ => ?_
  refine uses_run_bind (Act.uses_ask ⟨rfl, rfl⟩) fun answer => ?_
  refine uses_run_bind Act.uses_orElse fun bytes => uses_run_bind Act.uses_orElse fun text => ?_
  split
  · exact Act.uses_orElse
  · exact uses_run_throw
  · exact uses_run_throw

lemma preliminary_stakedKeys (registry : String) (pageSize : Int) :
    Uses IsPreliminary (stakedKeys registry pageSize).run := by
  refine uses_stakedKeys.mono fun c ask => ?_
  cases c with
  | node c =>
    cases c with
    | stakedCount | stakedPage => exact ⟨rfl, rfl⟩
    | _ => exact absurd ask id
  | _ => exact absurd ask id

end Registry

namespace Beacon

lemma preliminary_isRegistered (explorer pubkey : String) :
    Uses IsPreliminary (isRegistered explorer pubkey).run := by
  refine uses_run_bind ?_ fun response => uses_run_guard ?_
  · exact uses_run_bind (Act.uses_ask ⟨rfl, rfl⟩) fun _ => Act.uses_orElse
  · exact uses_run_bind Act.uses_orElse fun body => Act.uses_orElse

end Beacon

namespace Command

open Registry

lemma preliminary_snapshot (directory : Path) (type : EventType) :
    Uses IsPreliminary (snapshot directory type).run :=
  uses_run_adapt (preliminary_readEvents directory type.name)

lemma Unstake.preliminary_onChainKeys (o : Unstake.Options) (registry : String) :
    Uses IsPreliminary (Unstake.onChainKeys o registry).run := by
  rw [Unstake.onChainKeys]
  split
  · exact uses_run_pure
  · exact uses_run_bind (preliminary_say _) fun _ =>
      uses_run_adapt (preliminary_stakedKeys registry _)

lemma Migrate.preliminary_select (explorer : String) (active : Keyed String Event)
    (excluded : List String) :
    Uses IsPreliminary (Migrate.select explorer active excluded).run := by
  refine uses_run_adapt (uses_expand fun c => ?_)
  cases c with
  | isRegistered pubkey => exact Beacon.preliminary_isRegistered explorer pubkey
  | say line => exact ⟨⟨rfl, rfl⟩, fun _ => trivial⟩

end Command
end StakeRegistry
