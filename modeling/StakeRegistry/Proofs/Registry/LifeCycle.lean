/-
Active and pending stakes along the life of a key.

A `History` is a list of events of all types in their order; the reconstruction of stakes gets its
events of each type as a list of their own. In a history that `FollowsLifeCycle`, each key goes from
`Stage.out` to `staked`, perhaps several times, then to `unstaked`, and with the withdrawal out
again, from where it may be staked anew: it `CameBack`.

The order between the three lists is lost, so that a withdrawal counts for good. The main statement,
`stakes_follow_lifeCycle`, says what follows: the stakes tell a key by its last event exactly if the
key has not come back, and a key that has come back is neither active nor pending.
-/
import StakeRegistry.Proofs.Registry.Reconstruction

namespace StakeRegistry.Registry

/-! ### Histories -/

/-- The events of a registry, each with its type, in their order. -/
abbrev History : Type := List (EventType × Event)

/-- What has become of a key. -/
inductive Stage where
  /-- The key was never staked, or its stake was withdrawn. -/
  | out
  | staked
  | unstaked
  deriving Repr, DecidableEq

namespace Stage

/-- The stage after a step, if the life of a key has the step. -/
def next : Stage → EventType → Option Stage
  | out, .staked => some staked
  | staked, .staked => some staked
  | staked, .unstaked => some unstaked
  | unstaked, .withdraw => some out
  | _, _ => none

/-- The stage after some steps from the beginning, if the life of a key has them. -/
def after (steps : List EventType) : Option Stage :=
  steps.foldlM next out

end Stage

namespace History

/-- The events of a type. -/
def ofType (h : History) (t : EventType) : List Event :=
  (h.filter fun x => x.1 = t).map Prod.snd

/-- The steps that a key has made. -/
def stepsOf (h : History) (pubkey : String) : List EventType :=
  (h.filter fun x => x.2.pubkey = pubkey).map Prod.fst

/-- The last step that a key has made. -/
def lastStep? (h : History) (pubkey : String) : Option EventType :=
  (h.stepsOf pubkey).getLast?

/-- The events stand in the order of their blocks. -/
def InBlockOrder (h : History) : Prop :=
  h.Pairwise fun x y => x.2.block ≤ y.2.block

/-- Every key makes the steps of its life in their order. -/
def FollowsLifeCycle (h : History) : Prop :=
  ∀ pubkey, (Stage.after (h.stepsOf pubkey)).isSome

/-- The stake of the key was withdrawn, and the key was staked again since. -/
def CameBack (h : History) (pubkey : String) : Prop :=
  .withdraw ∈ h.stepsOf pubkey ∧ h.lastStep? pubkey ≠ some .withdraw

/-- The last staked event of the key was made by the account, in any letter case. -/
def StakedBy (h : History) (originator pubkey : String) : Prop :=
  ∃ e, latestOf? (h.ofType .staked) pubkey = some e ∧
    Text.lower e.originator = Text.lower originator

/-- The active stakes that are made of the events of each type. -/
def active (h : History) : Keyed String Event :=
  activeStakes (h.ofType .staked) (h.ofType .unstaked) (h.ofType .withdraw)

/-- The pending withdrawals that are made of the events of each type. -/
def pending (h : History) : Keyed String Event :=
  pendingWithdrawals (h.ofType .staked) (h.ofType .unstaked) (h.ofType .withdraw)

/-- The keys to unstake, given the keys that are staked now. -/
def toUnstake (h : History) (originator : String) (onChain : List String) : List String :=
  keysToUnstake originator onChain (h.ofType .staked) (h.ofType .unstaked) (h.ofType .withdraw)

/-- The keys whose stake is to be withdrawn. -/
def toWithdraw (h : History) (originator : String) : List String :=
  keysToWithdraw originator (h.ofType .staked) (h.ofType .unstaked) (h.ofType .withdraw)

/-- A key is active exactly if its last event staked it, and pending exactly if its last event
unstaked it; either way it is told with its last staked event. -/
structure ToldByLast (h : History) (pubkey : String) : Prop where
  active_iff : ∀ e, h.active.find? pubkey = some e ↔
    h.lastStep? pubkey = some .staked ∧ latestOf? (h.ofType .staked) pubkey = some e
  pending_iff : ∀ e, h.pending.find? pubkey = some e ↔
    h.lastStep? pubkey = some .unstaked ∧ latestOf? (h.ofType .staked) pubkey = some e

/-- What the stakes tell of the keys of a history, and which keys are selected from them. -/
structure StakesTold (h : History) : Prop where
  /-- A key is told by its last event exactly if it has not come back. -/
  toldByLast_iff : ∀ pubkey, h.ToldByLast pubkey ↔ ¬ h.CameBack pubkey
  /-- A key that has come back is not told at all. -/
  of_cameBack : ∀ pubkey, h.CameBack pubkey →
    h.active.find? pubkey = none ∧ h.pending.find? pubkey = none
  /-- Of the keys that are staked now, those of the account are unstaked that have not come back. -/
  mem_toUnstake_iff : ∀ originator onChain pubkey,
    (∀ k ∈ onChain, h.lastStep? k = some .staked) →
    (pubkey ∈ h.toUnstake originator onChain ↔
      pubkey ∈ onChain ∧ h.StakedBy originator pubkey ∧ ¬ h.CameBack pubkey)
  /-- Of the keys that are unstaked now, the stakes of those of the account are withdrawn that have
  not come back. -/
  mem_toWithdraw_iff : ∀ originator pubkey, pubkey ∈ h.toWithdraw originator ↔
    h.lastStep? pubkey = some .unstaked ∧ h.StakedBy originator pubkey ∧ ¬ h.CameBack pubkey

variable {h : History} {pubkey originator : String} {t : EventType}

lemma hasKey_ofType_iff : hasKey (h.ofType t) pubkey = true ↔ t ∈ h.stepsOf pubkey := by
  simp only [hasKey_iff, ofType, stepsOf, List.mem_map, List.mem_filter, decide_eq_true_eq]
  constructor
  · rintro ⟨e, ⟨x, ⟨hx, rfl⟩, rfl⟩, hk⟩
    exact ⟨x, ⟨hx, hk⟩, rfl⟩
  · rintro ⟨x, ⟨hx, hk⟩, rfl⟩
    exact ⟨x.2, ⟨x, ⟨hx, rfl⟩, rfl⟩, hk⟩

lemma stepsOf_eq_nil (hk : ∀ x ∈ h, x.2.pubkey ≠ pubkey) : h.stepsOf pubkey = [] := by
  simpa [stepsOf] using hk

/-- Only the keys that have events have to be looked at. -/
lemma followsLifeCycle_iff :
    h.FollowsLifeCycle ↔ ∀ x ∈ h, (Stage.after (h.stepsOf x.2.pubkey)).isSome := by
  refine ⟨fun follows x _ => follows _, fun each pubkey => ?_⟩
  by_cases hk : ∃ x ∈ h, x.2.pubkey = pubkey
  · obtain ⟨x, hx, rfl⟩ := hk
    exact each x hx
  · rw [stepsOf_eq_nil fun x hx he => hk ⟨x, hx, he⟩]
    rfl

instance : Decidable h.FollowsLifeCycle :=
  decidable_of_iff _ followsLifeCycle_iff.symm

instance : Decidable h.InBlockOrder :=
  inferInstanceAs (Decidable (h.Pairwise _))

end History

/-! ### Steps of a life -/

namespace Stage

/-- The stage that a step leads to. -/
def ofStep : EventType → Stage
  | .staked => staked
  | .unstaked => unstaked
  | .withdraw => out

variable {steps : List EventType} {s s' : Stage} {t : EventType}

lemma eq_ofStep_of_next (h : s.next t = some s') : s' = ofStep t := by
  cases s <;> cases t <;> simp_all [next, ofStep]

lemma after_concat : after (steps ++ [t]) = (after steps).bind (next · t) := by
  simp only [after, List.foldlM_append]
  cases steps.foldlM next out with
  | none => rfl
  | some s => simp

/-- The last step tells the stage. -/
lemma eq_of_after (h : after steps = some s) : s = steps.getLast?.elim out ofStep := by
  induction steps using List.reverseRecOn with
  | nil =>
    cases h
    rfl
  | append_singleton steps t _ =>
    obtain ⟨s₀, -, hs⟩ := Option.bind_eq_some_iff.1 (after_concat ▸ h)
    rw [List.getLast?_concat]
    exact eq_ofStep_of_next hs

lemma eq_unstaked_iff (h : after steps = some s) :
    s = unstaked ↔ steps.getLast? = some .unstaked := by
  rw [eq_of_after h]
  rcases steps.getLast? with _ | _ | _ | _ <;> simp [ofStep]

/-- The first step of a life stakes the key. -/
lemma staked_mem (h : (after steps).isSome) (hne : steps ≠ []) : .staked ∈ steps := by
  cases steps with
  | nil => exact absurd rfl hne
  | cons t steps =>
    cases t with
    | staked => exact List.mem_cons_self
    | unstaked => simp [after, next] at h
    | withdraw => simp [after, next] at h

/-- Without a withdrawal, a key that was unstaked is unstaked for good. -/
lemma eq_unstaked_iff_mem (h : after steps = some s) (hw : .withdraw ∉ steps) :
    s = unstaked ↔ .unstaked ∈ steps := by
  induction steps using List.reverseRecOn generalizing s with
  | nil =>
    cases h
    simp
  | append_singleton steps t ih =>
    obtain ⟨s₀, h₀, hs⟩ := Option.bind_eq_some_iff.1 (after_concat ▸ h)
    obtain ⟨hw₀, ht⟩ : .withdraw ∉ steps ∧ .withdraw ≠ t := by simpa using hw
    have before := ih h₀ hw₀
    obtain rfl := eq_ofStep_of_next hs
    cases t with
    | withdraw => exact absurd rfl ht
    | unstaked => simp [ofStep]
    | staked =>
      -- a key that is staked once more was not unstaked before
      have hne : s₀ ≠ unstaked := by
        rintro rfl
        simp [next] at hs
      simpa [ofStep] using fun hu => hne (before.2 hu)

end Stage

/-! ### Keys that have come back, and all others -/

namespace History

variable {h : History} {pubkey originator : String} {t : EventType}

lemma mem_stepsOf_of_lastStep? (hl : h.lastStep? pubkey = some t) : t ∈ h.stepsOf pubkey :=
  List.mem_of_getLast? hl

/-- A key with events was staked. -/
lemma exists_latestOf? (follows : h.FollowsLifeCycle) (ht : t ∈ h.stepsOf pubkey) :
    ∃ e, latestOf? (h.ofType .staked) pubkey = some e :=
  exists_latestOf?_iff.2
    (hasKey_ofType_iff.2 (Stage.staked_mem (follows pubkey) (List.ne_nil_of_mem ht)))

lemma find?_active_of_withdrawn (hw : .withdraw ∈ h.stepsOf pubkey) :
    h.active.find? pubkey = none := by
  simp [active, find?_activeStakes, hasKey_ofType_iff, hw]

lemma find?_pending_of_withdrawn (hw : .withdraw ∈ h.stepsOf pubkey) :
    h.pending.find? pubkey = none := by
  simp [pending, find?_pendingWithdrawals, hasKey_ofType_iff, hw]

/-- A key whose stake was never withdrawn is told by its last event. -/
lemma toldByLast_of_not_withdrawn (follows : h.FollowsLifeCycle)
    (hw : .withdraw ∉ h.stepsOf pubkey) : h.ToldByLast pubkey := by
  obtain ⟨s, hs⟩ := Option.isSome_iff_exists.1 (follows pubkey)
  have unstaked_iff : h.lastStep? pubkey = some .unstaked ↔ .unstaked ∈ h.stepsOf pubkey :=
    (Stage.eq_unstaked_iff hs).symm.trans (Stage.eq_unstaked_iff_mem hs hw)
  constructor
  case active_iff =>
    intro e
    rw [active, find?_activeStakes]
    simp only [hasKey_ofType_iff, hw, or_false, ← unstaked_iff]
    cases hl : h.lastStep? pubkey with
    | none =>
      have hn : h.stepsOf pubkey = [] := List.getLast?_eq_none_iff.1 hl
      have none : ¬ ∃ e, latestOf? (h.ofType .staked) pubkey = some e := by
        rw [exists_latestOf?_iff, hasKey_ofType_iff, hn]
        exact List.not_mem_nil
      simpa using fun he => none ⟨e, he⟩
    | some t =>
      cases t with
      | staked => simp
      | unstaked => simp
      | withdraw => exact absurd (mem_stepsOf_of_lastStep? hl) hw
  case pending_iff =>
    intro e
    rw [pending, find?_pendingWithdrawals]
    simp only [hasKey_ofType_iff, hw, not_false_eq_true, and_true, ← unstaked_iff]
    by_cases hl : h.lastStep? pubkey = some .unstaked <;> simp [hl]

/-- A key whose stake was withdrawn is told by its last event only if that is the withdrawal. -/
lemma toldByLast_iff_of_withdrawn (follows : h.FollowsLifeCycle)
    (hw : .withdraw ∈ h.stepsOf pubkey) :
    h.ToldByLast pubkey ↔ h.lastStep? pubkey = some .withdraw := by
  obtain ⟨e, he⟩ := exists_latestOf? follows hw
  constructor
  · intro told
    have active := told.active_iff e
    have pending := told.pending_iff e
    rw [find?_active_of_withdrawn hw] at active
    rw [find?_pending_of_withdrawn hw] at pending
    cases hl : h.lastStep? pubkey with
    | none => simp [List.getLast?_eq_none_iff.1 hl] at hw
    | some t =>
      cases t with
      | staked => simp [hl, he] at active
      | unstaked => simp [hl, he] at pending
      | withdraw => rfl
  · intro hl
    refine ⟨fun e => ?_, fun e => ?_⟩
    · simp [find?_active_of_withdrawn hw, hl]
    · simp [find?_pending_of_withdrawn hw, hl]

lemma toldByLast_iff (follows : h.FollowsLifeCycle) :
    h.ToldByLast pubkey ↔ ¬ h.CameBack pubkey := by
  by_cases hw : .withdraw ∈ h.stepsOf pubkey
  · rw [toldByLast_iff_of_withdrawn follows hw]
    simp [CameBack, hw]
  · simp [CameBack, hw, toldByLast_of_not_withdrawn follows hw]

lemma find?_active_iff (follows : h.FollowsLifeCycle) {e : Event} :
    h.active.find? pubkey = some e ↔
      (h.lastStep? pubkey = some .staked ∧ latestOf? (h.ofType .staked) pubkey = some e) ∧
        ¬ h.CameBack pubkey := by
  by_cases hb : h.CameBack pubkey
  · simp [find?_active_of_withdrawn hb.1, hb]
  · simp [((toldByLast_iff follows).2 hb).active_iff, hb]

lemma find?_pending_iff (follows : h.FollowsLifeCycle) {e : Event} :
    h.pending.find? pubkey = some e ↔
      (h.lastStep? pubkey = some .unstaked ∧ latestOf? (h.ofType .staked) pubkey = some e) ∧
        ¬ h.CameBack pubkey := by
  by_cases hb : h.CameBack pubkey
  · simp [find?_pending_of_withdrawn hb.1, hb]
  · simp [((toldByLast_iff follows).2 hb).pending_iff, hb]

/-! ### Keys that are selected -/

lemma mem_toUnstake_iff (follows : h.FollowsLifeCycle) {onChain : List String}
    (now : ∀ k ∈ onChain, h.lastStep? k = some .staked) :
    pubkey ∈ h.toUnstake originator onChain ↔
      pubkey ∈ onChain ∧ h.StakedBy originator pubkey ∧ ¬ h.CameBack pubkey := by
  have selected : h.toUnstake originator onChain = keysOf originator onChain h.active := rfl
  rw [selected, mem_keysOf_iff]
  refine and_congr_right fun hk => ?_
  simp only [find?_active_iff follows, now pubkey hk, true_and, StakedBy]
  constructor
  · rintro ⟨e, ⟨he, hb⟩, ho⟩
    exact ⟨⟨e, he, ho⟩, hb⟩
  · rintro ⟨⟨e, he, ho⟩, hb⟩
    exact ⟨e, ⟨he, hb⟩, ho⟩

lemma mem_toWithdraw_iff (follows : h.FollowsLifeCycle) : pubkey ∈ h.toWithdraw originator ↔
    h.lastStep? pubkey = some .unstaked ∧ h.StakedBy originator pubkey ∧ ¬ h.CameBack pubkey := by
  have selected :
    h.toWithdraw originator = keysOf originator (sortedTexts h.pending.keys) h.pending :=
    rfl
  rw [selected, mem_keysOf_iff, sortedTexts, List.mem_mergeSort, Keyed.mem_keys_iff]
  simp only [find?_pending_iff follows, StakedBy]
  constructor
  · rintro ⟨-, e, ⟨⟨hl, he⟩, hb⟩, ho⟩
    exact ⟨hl, ⟨e, he, ho⟩, hb⟩
  · rintro ⟨hl, ⟨e, he, ho⟩, hb⟩
    exact ⟨⟨e, ⟨hl, he⟩, hb⟩, e, ⟨⟨hl, he⟩, hb⟩, ho⟩

end History

/-- What the stakes tell of the keys of a registry, and which keys are selected from them. -/
theorem stakes_follow_lifeCycle {h : History} (follows : h.FollowsLifeCycle) : h.StakesTold where
  toldByLast_iff _ := History.toldByLast_iff follows
  of_cameBack _ hb :=
    ⟨History.find?_active_of_withdrawn hb.1, History.find?_pending_of_withdrawn hb.1⟩
  mem_toUnstake_iff _ _ _ now := History.mem_toUnstake_iff follows now
  mem_toWithdraw_iff _ _ := History.mem_toWithdraw_iff follows

/-- A history of four keys: one is staked twice, one was unstaked, one was withdrawn, and one came
back. -/
theorem stakes_follow_lifeCycle_of_four_keys :
    let e (pubkey : String) (block : Int) : Event :=
      { originator := "0xAb", pubkey, amount := 5, block }
    let h : History := [
      (.staked, e "aa" 1), (.staked, e "bb" 1), (.staked, e "cc" 2), (.staked, e "dd" 2),
      (.unstaked, e "bb" 3), (.staked, e "aa" 3), (.unstaked, e "cc" 4), (.unstaked, e "dd" 4),
      (.withdraw, e "cc" 5), (.withdraw, e "dd" 6), (.staked, e "dd" 7)]
    h.FollowsLifeCycle ∧ h.InBlockOrder ∧
      h.active = [("aa", e "aa" 3)] ∧ h.pending = [("bb", e "bb" 1)] ∧
      h.toUnstake "0xaB" ["dd", "aa"] = ["aa"] ∧ h.toWithdraw "0xaB" = ["bb"] ∧ h.StakesTold :=
  ⟨by decide +kernel, by decide +kernel, by decide +kernel, by decide +kernel, by decide +kernel,
    by decide +kernel, stakes_follow_lifeCycle (by decide +kernel)⟩

/-- A key that came back is not active although its last event staked it, and once it is unstaked
again its withdrawal is not pending. -/
theorem returned_key_not_told :
    let e (block : Int) : Event := { originator := "0xAb", pubkey := "aa", amount := 5, block }
    let h : History :=
      [(.staked, e 1), (.unstaked, e 2), (.withdraw, e 3), (.staked, e 4)]
    let h' : History := h ++ [(.unstaked, e 5)]
    (h.InBlockOrder ∧ h.FollowsLifeCycle ∧ h.lastStep? "aa" = some .staked ∧
      h.active.find? "aa" = none ∧ h.StakedBy "0xab" "aa" ∧ h.toUnstake "0xab" ["aa"] = []) ∧
    (h'.InBlockOrder ∧ h'.FollowsLifeCycle ∧ h'.lastStep? "aa" = some .unstaked ∧
      h'.pending.find? "aa" = none ∧ h'.StakedBy "0xab" "aa" ∧ h'.toWithdraw "0xab" = []) := by
  refine ⟨⟨?_, ?_, ?_, ?_, ⟨_, rfl, ?_⟩, ?_⟩, ⟨?_, ?_, ?_, ?_, ⟨_, rfl, ?_⟩, ?_⟩⟩ <;> decide +kernel

end StakeRegistry.Registry
