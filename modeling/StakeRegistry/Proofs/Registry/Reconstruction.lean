/-
What is looked up in the stakes that are made of lists of events.

The three lists may be any lists. The main results say what stands under a key:

* `find?_latest`: its last event in the list;
* `find?_activeStakes`: its last staked event, unless one of the other two lists has the key;
* `find?_pendingWithdrawals`: its last staked event, if only the unstaked list has the key as well.

Each key stands once in each of them, under the key of its event. Sorted, the keys increase
(`sortedTexts_increasing`).
-/
import Mathlib.Data.String.Basic
import StakeRegistry.Proofs.Keyed
import StakeRegistry.Registry.LifeCycle

namespace StakeRegistry.Registry

/-- The last event of a key. -/
def latestOf? (es : List Event) (pubkey : String) : Option Event :=
  (es.filter fun e => e.pubkey = pubkey).getLast?

variable {es staked unstaked withdrawn : List Event} {e : Event} {pubkey originator : String}

lemma pubkey_of_latestOf? (h : latestOf? es pubkey = some e) : e.pubkey = pubkey := by
  simpa using List.of_mem_filter (List.mem_of_getLast? h)

lemma mem_of_latestOf? (h : latestOf? es pubkey = some e) : e ∈ es :=
  List.mem_of_mem_filter (List.mem_of_getLast? h)

lemma hasKey_iff : hasKey es pubkey = true ↔ ∃ e ∈ es, e.pubkey = pubkey := by
  simp [hasKey]

lemma exists_latestOf?_iff : (∃ e, latestOf? es pubkey = some e) ↔ hasKey es pubkey = true := by
  rw [hasKey_iff]
  constructor
  · rintro ⟨e, h⟩
    exact ⟨e, mem_of_latestOf? h, pubkey_of_latestOf? h⟩
  · rintro ⟨e, he, hk⟩
    have hne : (es.filter fun e => e.pubkey = pubkey) ≠ [] :=
      List.ne_nil_of_mem (List.mem_filter.2 ⟨he, by simpa using hk⟩)
    exact ⟨_, List.getLast?_eq_some_getLast hne⟩

/-! ### What stands under a key -/

lemma find?_latest : (latest es).find? pubkey = latestOf? es pubkey :=
  Keyed.find?_foldl_put Event.pubkey es

lemma find?_withoutKeysOf {m : Keyed String Event} :
    (withoutKeysOf es m).find? pubkey = if hasKey es pubkey then none else m.find? pubkey := by
  induction es generalizing m with
  | nil => simp [withoutKeysOf, hasKey]
  | cons e es ih =>
    have hstep : withoutKeysOf (e :: es) m = withoutKeysOf es (m.erase e.pubkey) := rfl
    rw [hstep, ih, Keyed.find?_erase]
    by_cases h : e.pubkey = pubkey <;> simp [hasKey, h]

lemma find?_activeStakes : (activeStakes staked unstaked withdrawn).find? pubkey =
    if hasKey unstaked pubkey ∨ hasKey withdrawn pubkey then none else latestOf? staked pubkey := by
  rw [activeStakes, find?_withoutKeysOf, find?_withoutKeysOf, find?_latest]
  by_cases hu : hasKey unstaked pubkey = true <;> by_cases hw : hasKey withdrawn pubkey = true <;>
    simp [hu, hw]

lemma find?_pendingWithdrawals : (pendingWithdrawals staked unstaked withdrawn).find? pubkey =
    if hasKey unstaked pubkey ∧
    ¬ hasKey withdrawn pubkey then latestOf? staked pubkey else none := by
  rw [pendingWithdrawals,
    Keyed.find?_restrict (P := fun k => hasKey unstaked k && !hasKey withdrawn k), find?_latest]
  by_cases hu : hasKey unstaked pubkey = true <;> by_cases hw : hasKey withdrawn pubkey = true <;>
    simp [hu, hw]

/-! ### Each key once -/

lemma nodup_keys_latest : (latest es).keys.Nodup :=
  Keyed.nodup_keys_foldl_put Event.pubkey es

lemma withoutKeysOf_sublist {m : Keyed String Event} : (withoutKeysOf es m).Sublist m := by
  induction es generalizing m with
  | nil => exact List.Sublist.refl m
  | cons e es ih => exact ih.trans List.filter_sublist

lemma nodup_keys_activeStakes : (activeStakes staked unstaked withdrawn).keys.Nodup :=
  Keyed.nodup_keys_of_sublist (withoutKeysOf_sublist.trans withoutKeysOf_sublist) nodup_keys_latest

lemma nodup_keys_pendingWithdrawals : (pendingWithdrawals staked unstaked withdrawn).keys.Nodup :=
  Keyed.nodup_keys_of_sublist List.filter_sublist nodup_keys_latest

lemma mem_keysOf_iff {pubkeys : List String} {events : Keyed String Event} :
    pubkey ∈ keysOf originator pubkeys events ↔ pubkey ∈ pubkeys ∧
      ∃ e, events.find? pubkey = some e ∧ Text.lower e.originator = Text.lower originator := by
  rw [keysOf, List.mem_filter]
  refine and_congr_right fun _ => ?_
  cases events.find? pubkey <;> simp

/-! ### Sorted keys -/

lemma not_decide_lt_iff {s t : String} [Decidable (t < s)] : (!decide (t < s)) = true ↔ s ≤ t := by
  rw [Bool.not_eq_true', decide_eq_false_iff_not, not_lt]

lemma sortedTexts_perm {ss : List String} : (sortedTexts ss).Perm ss :=
  List.mergeSort_perm _ _

/-- Distinct texts increase once they are sorted. -/
lemma sortedTexts_increasing {ss : List String} (nodup : ss.Nodup) :
    (sortedTexts ss).Pairwise (· < ·) := by
  have sorted : (sortedTexts ss).Pairwise (· ≤ ·) := by
    refine (List.pairwise_mergeSort ?_ ?_ ss).imp ?_
    · intro s t u hst htu
      rw [not_decide_lt_iff] at hst htu ⊢
      exact hst.trans htu
    · intro s t
      rw [Bool.or_eq_true, not_decide_lt_iff, not_decide_lt_iff]
      exact le_total s t
    · intro s t hst
      exact not_decide_lt_iff.1 hst
  have distinct : (sortedTexts ss).Nodup := sortedTexts_perm.nodup_iff.2 nodup
  exact (sorted.and distinct).imp fun h => lt_of_le_of_ne h.1 h.2

section Entries

variable {α : Type} {entries : Keyed String α}

lemma sortedByKey_perm : (sortedByKey entries).Perm entries :=
  List.mergeSort_perm _ _

lemma keys_sortedByKey : (sortedByKey entries).keys = sortedTexts entries.keys :=
  List.map_mergeSort fun _ _ _ _ => rfl

lemma keys_sortedByKey_increasing (nodup : entries.keys.Nodup) :
    (sortedByKey entries).keys.Pairwise (· < ·) := by
  rw [keys_sortedByKey]
  exact sortedTexts_increasing nodup

/-- Entries whose keys increase are what their sorting gives, in whatever order they are met. -/
lemma sortedByKey_eq {sorted : Keyed String α} (perm : sorted.Perm entries)
    (increasing : sorted.keys.Pairwise (· < ·)) : sortedByKey entries = sorted := by
  have increasing' := keys_sortedByKey_increasing ((perm.map Prod.fst).nodup_iff.1
    (increasing.imp fun h => ne_of_lt h))
  exact List.Perm.eq_of_pairwise (fun _ _ _ _ h h' => absurd h' (lt_asymm h))
    (List.pairwise_map.1 increasing') (List.pairwise_map.1 increasing)
    (sortedByKey_perm.trans perm.symm)

end Entries

end StakeRegistry.Registry
