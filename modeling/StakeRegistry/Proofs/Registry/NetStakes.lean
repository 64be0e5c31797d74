/-
The stakes of the keys once withdrawals are taken off.

What stands under a key in `netStakes` is the sum of its staked amounts less the sum of its
withdrawn amounts, if it was staked at all (`find?_netStakes`). Two accounts of stakes are therefore
the same exactly if the same keys were staked, with the same sum each (`sameStakes_netStakes_iff`).
The order of the events does not matter for that, nor do withdrawals of keys that were never staked
(`SameUpToOrder.sameNet`).
-/
import Mathlib.Algebra.BigOperators.Group.List.Basic
import Mathlib.Algebra.Order.Group.Int
import Mathlib.Algebra.Ring.Int.Defs
import Mathlib.Data.List.Perm.Subperm
import StakeRegistry.Proofs.Registry.Reconstruction

namespace StakeRegistry.Registry

variable {es staked withdrawn staked' withdrawn' : List Event} {e : Event} {pubkey : String}

/-- The sum of the amounts of a key. -/
def amountOf (es : List Event) (pubkey : String) : Int :=
  ((es.filter fun e => e.pubkey = pubkey).map Event.amount).sum

lemma amountOf_cons : amountOf (e :: es) pubkey =
    (if e.pubkey = pubkey then e.amount else 0) + amountOf es pubkey := by
  by_cases h : e.pubkey = pubkey <;> simp [amountOf, h]

lemma hasKey_cons : hasKey (e :: es) pubkey = true ↔
    e.pubkey = pubkey ∨ hasKey es pubkey = true := by
  simp [hasKey]

lemma amountOf_of_not_hasKey (h : ¬ hasKey es pubkey = true) : amountOf es pubkey = 0 := by
  have none : (es.filter fun e => e.pubkey = pubkey) = [] :=
    List.filter_eq_nil_iff.2 fun e he own => h (hasKey_iff.2 ⟨e, he, by simpa using own⟩)
  rw [amountOf, none]
  rfl

/-- The stake of a key grows by the amounts of its events. -/
lemma find?_addStakes {m : Keyed String Int} : (es.foldl addStake m).find? pubkey =
    if hasKey es pubkey then some ((m.find? pubkey).getD 0 + amountOf es pubkey) else m.find?
      pubkey := by
  induction es generalizing m with
  | nil => simp [hasKey]
  | cons e es ih =>
    rw [List.foldl_cons, ih, addStake, Keyed.find?_put, amountOf_cons]
    by_cases own : e.pubkey = pubkey <;> by_cases later : hasKey es pubkey = true <;>
      simp [hasKey_cons, own, later, amountOf_of_not_hasKey, Int.add_assoc]

/-- The stake of a key that has one shrinks by the amounts of its events. -/
lemma find?_takeStakes {m : Keyed String Int} : (es.foldl takeStake m).find? pubkey =
    (m.find? pubkey).map fun stake => stake - amountOf es pubkey := by
  induction es generalizing m with
  | nil => simp [amountOf]
  | cons e es ih =>
    have step : (takeStake m e).find? pubkey =
        (m.find? pubkey).map fun stake =>
        if e.pubkey = pubkey then stake - e.amount else stake := by
      rw [takeStake]
      by_cases own : e.pubkey = pubkey
      · subst own
        rcases held : m.find? e.pubkey with _ | stake <;> simp [held]
      · rcases m.find? e.pubkey with _ | stake
        · simp [own]
        · simp [Keyed.find?_put, own]
    rw [List.foldl_cons, ih, step, amountOf_cons, Option.map_map]
    refine congrArg (fun f => (m.find? pubkey).map f) (funext fun stake => ?_)
    by_cases own : e.pubkey = pubkey <;> simp [own]
    omega

lemma find?_netStakes : (netStakes staked withdrawn).find? pubkey =
    if hasKey staked
      pubkey then some (amountOf staked pubkey - amountOf withdrawn pubkey) else none := by
  rw [netStakes, find?_takeStakes, find?_addStakes]
  split <;> simp [Keyed.find?]

lemma nodup_keys_netStakes : (netStakes staked withdrawn).keys.Nodup := by
  have added {m : Keyed String Int} (hm : m.keys.Nodup) : (staked.foldl addStake m).keys.Nodup := by
    induction staked generalizing m with
    | nil => exact hm
    | cons e es ih => exact ih (Keyed.nodup_keys_put hm)
  have taken {m : Keyed String Int} (hm : m.keys.Nodup) :
    (withdrawn.foldl takeStake m).keys.Nodup := by
    induction withdrawn generalizing m with
    | nil => exact hm
    | cons e es ih =>
      refine ih ?_
      rw [takeStake]
      split
      · exact Keyed.nodup_keys_put hm
      · exact hm
  exact taken (added List.nodup_nil)

/-- Accounts of stakes are the same exactly if the same stake is found under each key. -/
lemma sameStakes_iff {a b : Keyed String Int} (ha : a.keys.Nodup) (hb : b.keys.Nodup) :
    sameStakes a b = true ↔ ∀ k, a.find? k = b.find? k := by
  have lengths : ∀ m : Keyed String Int, m.length = m.keys.length := fun m =>
    (List.length_map _).symm
  rw [sameStakes, Bool.and_eq_true, decide_eq_true_eq, List.all_eq_true, lengths a, lengths b]
  constructor
  · rintro ⟨count, held⟩ k
    have held : ∀ k v, a.find? k = some v → b.find? k = some v := fun k v h => by
      simpa using held (k, v) (Keyed.mem_of_find? h)
    -- as many keys as the other one has, all of them among its keys, are all its keys
    have inside : a.keys ⊆ b.keys := fun k mem => by
      obtain ⟨v, hv⟩ := Keyed.mem_keys_iff.1 mem
      exact Keyed.mem_keys_iff.2 ⟨v, held k v hv⟩
    have perm := (ha.subperm inside).perm_of_length_le count.ge
    rcases hk : a.find? k with _ | v
    · rw [Keyed.find?_eq_none_iff, perm.mem_iff, ← Keyed.find?_eq_none_iff] at hk
      exact hk.symm
    · exact (held k v hk).symm
  · intro same
    have perm : a.keys.Perm b.keys := (List.perm_ext_iff_of_nodup ha hb).2 fun k => by
      rw [Keyed.mem_keys_iff, Keyed.mem_keys_iff, same]
    refine ⟨perm.length_eq, fun p mem => ?_⟩
    rw [← same, (Keyed.find?_eq_some_iff ha).2 mem, decide_eq_true_eq]

/-- Two pairs of lists have the same keys staked, with the same stake each once withdrawals are
taken off. -/
structure SameNet (staked withdrawn staked' withdrawn' : List Event) : Prop where
  keys : ∀ k, hasKey staked k = true ↔ hasKey staked' k = true
  stakes : ∀ k, hasKey staked k = true →
    amountOf staked k - amountOf withdrawn k = amountOf staked' k - amountOf withdrawn' k

lemma sameStakes_netStakes_iff :
    sameStakes (netStakes staked withdrawn) (netStakes staked' withdrawn') = true ↔
      SameNet staked withdrawn staked' withdrawn' := by
  rw [sameStakes_iff nodup_keys_netStakes nodup_keys_netStakes]
  simp only [find?_netStakes]
  constructor
  · intro same
    have keys (k : String) : hasKey staked k = true ↔ hasKey staked' k = true := by
      have := same k
      split_ifs at this <;> simp_all
    refine ⟨keys, fun k staked => ?_⟩
    simpa [staked, (keys k).1 staked] using same k
  · intro h k
    by_cases own : hasKey staked k = true
    · rw [if_pos own, if_pos ((h.keys k).1 own), h.stakes k own]
    · rw [if_neg own, if_neg fun own' => own ((h.keys k).2 own')]

namespace SameNet

variable {staked'' withdrawn'' : List Event}

lemma symm (h : SameNet staked withdrawn staked' withdrawn') :
    SameNet staked' withdrawn' staked withdrawn :=
  ⟨fun k => (h.keys k).symm, fun k own => (h.stakes k ((h.keys k).2 own)).symm⟩

lemma trans (h : SameNet staked withdrawn staked' withdrawn')
    (h' : SameNet staked' withdrawn' staked'' withdrawn'') :
    SameNet staked withdrawn staked'' withdrawn'' :=
  ⟨fun k => (h.keys k).trans (h'.keys k),
    fun k own => (h.stakes k own).trans (h'.stakes k ((h.keys k).1 own))⟩

end SameNet

/-! ### What does not matter -/

lemma hasKey_perm {es' : List Event} (perm : es.Perm es') : hasKey es pubkey = hasKey es' pubkey :=
  perm.any_eq

lemma amountOf_perm {es' : List Event} (perm : es.Perm es') :
    amountOf es pubkey = amountOf es' pubkey :=
  ((perm.filter _).map _).sum_eq

/-- The withdrawals of keys that were staked. -/
def withdrawnOf (staked withdrawn : List Event) : List Event :=
  withdrawn.filter fun e => hasKey staked e.pubkey

/-- Two pairs of lists differ in the order of their events, and in withdrawals of keys that were
never staked. -/
structure SameUpToOrder (staked withdrawn staked' withdrawn' : List Event) : Prop where
  stakings : staked.Perm staked'
  withdrawals : (withdrawnOf staked withdrawn).Perm (withdrawnOf staked' withdrawn')

lemma amountOf_withdrawnOf (own : hasKey staked pubkey = true) :
    amountOf (withdrawnOf staked withdrawn) pubkey = amountOf withdrawn pubkey := by
  rw [amountOf, withdrawnOf, List.filter_filter, amountOf]
  refine congrArg (fun es => (es.map Event.amount).sum) (List.filter_congr fun e _ => ?_)
  by_cases same : e.pubkey = pubkey
  · rw [same, own, Bool.and_true]
  · rw [decide_eq_false same, Bool.false_and]

lemma SameUpToOrder.of_perm (hs : staked.Perm staked') (hw : withdrawn.Perm withdrawn') :
    SameUpToOrder staked withdrawn staked' withdrawn' := by
  refine ⟨hs, ?_⟩
  have same : (fun e : Event => hasKey staked e.pubkey) = fun e => hasKey staked' e.pubkey :=
    funext fun e => hasKey_perm hs
  rw [withdrawnOf, withdrawnOf, same]
  exact hw.filter _

/-- The order of the events and withdrawals of keys that were never staked do not matter. -/
lemma SameUpToOrder.sameNet (h : SameUpToOrder staked withdrawn staked' withdrawn') :
    SameNet staked withdrawn staked' withdrawn' := by
  have keys (k : String) : hasKey staked k = hasKey staked' k := hasKey_perm h.stakings
  refine ⟨fun k => by rw [keys], fun k own => ?_⟩
  have taken : amountOf withdrawn k = amountOf withdrawn' k :=
    calc amountOf withdrawn k
      _ = amountOf (withdrawnOf staked withdrawn) k := (amountOf_withdrawnOf own).symm
      _ = amountOf (withdrawnOf staked' withdrawn') k := amountOf_perm h.withdrawals
      _ = amountOf withdrawn' k := amountOf_withdrawnOf ((keys k).symm.trans own)
  rw [amountOf_perm h.stakings, taken]

end StakeRegistry.Registry
