/-
Plans of batches that exist.

A plan exists only if all keys are hexadecimal, and there is a batch in it only if the size is
positive.
-/
import StakeRegistry.Proofs.Program.Failing
import StakeRegistry.Proofs.Registry.Batches
import StakeRegistry.Proofs.Registry.Grouping
import StakeRegistry.Registry.Selection

namespace StakeRegistry.Registry

variable {es : List Event} {size : Int} {plan : List PlannedBatch}

/-- The batches of one account exist only for a positive size, and for keys that are hexadecimal. -/
lemma of_planGroup_eq_ok {group : String × List String} (h : planGroup size group = .ok plan) :
    0 < size ∧ ∀ key ∈ group.2, ∃ bytes, keyBytes key = .ok bytes := by
  rw [planGroup] at h
  cases split : splitBatches group.2 size with
  | none =>
    rw [split] at h
    cases h
  | some batches =>
    rw [split] at h
    refine ⟨size_pos_of_splitBatches split, fun key hkey => ?_⟩
    rw [← (divides_of_splitBatches split).flatten_eq] at hkey
    obtain ⟨batch, hbatch, hkey⟩ := List.mem_flatten.1 hkey
    obtain ⟨planned, -, hplanned⟩ := exists_of_mapM_eq_ok h hbatch
    obtain ⟨bytes, hbytes, -⟩ := bind_eq_ok_iff.1 hplanned
    obtain ⟨b, -, hb⟩ := exists_of_mapM_eq_ok hbytes hkey
    exact ⟨b, hb⟩

/-- The groups of a plan are planned, and it holds nothing else. -/
lemma exists_of_planBatches_eq_ok (h : planBatches es size = .ok plan) :
    ∃ groups, (groupByOriginator es).mapM (planGroup size) = .ok groups ∧
      plan = groups.flatten := by
  obtain ⟨groups, hgroups, ended⟩ := bind_eq_ok_iff.1 h
  exact ⟨groups, hgroups, (Except.ok.inj ended).symm⟩

lemma hex_of_planBatches_eq_ok (h : planBatches es size = .ok plan) :
    ∀ e ∈ es, ∃ bytes, keyBytes e.pubkey = .ok bytes := by
  intro e he
  obtain ⟨groups, hgroups, -⟩ := exists_of_planBatches_eq_ok h
  have hkey : e.pubkey ∈ (groupByOriginator es).flatMap Prod.snd :=
    groupByOriginator_perm.mem_iff.2 (List.mem_map.2 ⟨e, he, rfl⟩)
  obtain ⟨group, hgroup, hkey⟩ := List.mem_flatMap.1 hkey
  obtain ⟨planned, -, hplanned⟩ := exists_of_mapM_eq_ok hgroups hgroup
  exact (of_planGroup_eq_ok hplanned).2 e.pubkey hkey

lemma size_pos_of_planBatches_eq_ok (h : planBatches es size = .ok plan) (ne_nil : plan ≠ []) :
    0 < size := by
  obtain ⟨groups, hgroups, rfl⟩ := exists_of_planBatches_eq_ok h
  -- without events there are no groups, and the size is not looked at
  obtain ⟨group, hgroup⟩ : ∃ group, group ∈ groupByOriginator es := by
    refine List.exists_mem_of_ne_nil _ fun none => ne_nil ?_
    rw [none, List.mapM_nil] at hgroups
    rw [← Except.ok.inj hgroups, List.flatten_nil]
  obtain ⟨planned, -, hplanned⟩ := exists_of_mapM_eq_ok hgroups hgroup
  exact (of_planGroup_eq_ok hplanned).1

end StakeRegistry.Registry
