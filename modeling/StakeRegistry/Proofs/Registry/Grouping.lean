/-
Keys grouped by the account that staked them.

The groups hold what the events hold, in another order (`groupByOriginator_perm`), and the group of
an account is what `keysFrom` takes from the events in their order.
-/
import Mathlib.Data.List.Induction
import StakeRegistry.Proofs.Keyed
import StakeRegistry.Registry.LifeCycle

namespace StakeRegistry.Registry

variable {es : List Event} {e : Event} {originator : String}

/-- The keys of the events of an account. -/
def keysFrom (es : List Event) (originator : String) : List String :=
  (es.filter fun e => e.originator = originator).map Event.pubkey

lemma groupByOriginator_concat :
    groupByOriginator (es ++ [e]) = (groupByOriginator es).put e.originator
    (((groupByOriginator es).find? e.originator).getD [] ++ [e.pubkey]) := by
  simp [groupByOriginator, List.foldl_append]

lemma nodup_keys_groupByOriginator : (groupByOriginator es).keys.Nodup := by
  induction es using List.reverseRecOn with
  | nil => exact List.nodup_nil
  | append_singleton es e ih =>
    rw [groupByOriginator_concat]
    exact Keyed.nodup_keys_put ih

lemma getD_find?_groupByOriginator :
    ((groupByOriginator es).find? originator).getD [] = keysFrom es originator := by
  induction es using List.reverseRecOn with
  | nil => rfl
  | append_singleton es e ih =>
    rw [groupByOriginator_concat, Keyed.find?_put]
    by_cases ho : e.originator = originator
    · subst ho
      simp [ih, keysFrom, List.filter_append]
    · simp [ih, keysFrom, List.filter_append, ho]

/-- The keys of a group are those of the events of its account. -/
lemma eq_keysFrom_of_mem {group : String × List String} (h : group ∈ groupByOriginator es) :
    group.2 = keysFrom es group.1 := by
  rw [← getD_find?_groupByOriginator,
    (Keyed.find?_eq_some_iff nodup_keys_groupByOriginator).2 h, Option.getD_some]

/-- Grouping loses, adds and doubles no key. -/
lemma groupByOriginator_perm :
    ((groupByOriginator es).flatMap Prod.snd).Perm (es.map Event.pubkey) := by
  induction es using List.reverseRecOn with
  | nil => exact .refl _
  | append_singleton es e ih =>
    rw [groupByOriginator_concat, List.map_append]
    exact Keyed.flatMap_put_concat_perm.trans (ih.append_right _)

end StakeRegistry.Registry
