/-
Which keys are selected to be unstaked, and which to be withdrawn.

Both selections are made of three lists of events, which may be any lists. A key is `Active` for an
account if it was staked, at last by that account, and neither unstaked nor withdrawn; it is
`Pending` if it was also unstaked. The main statement is `selections_exact`: one selection holds the
active ones among the keys of a given list, the other one all pending keys, and no key is in both.
-/
import StakeRegistry.Command.Unstake
import StakeRegistry.Proofs.Registry.Reconstruction

namespace StakeRegistry.Command.Unstake

open Registry

/-- The last staked event of the key was made by the account, in any letter case. -/
def StakedAtLastBy (staked : List Event) (originator pubkey : String) : Prop :=
  ∃ e, latestOf? staked pubkey = some e ∧ Text.lower e.originator = Text.lower originator

/-- The key is among those of the events. -/
def IsKeyIn (es : List Event) (pubkey : String) : Prop :=
  ∃ e ∈ es, e.pubkey = pubkey

/-- The account has staked the key, and nothing has come of it. -/
structure Active (staked unstaked withdrawn : List Event) (originator pubkey : String) : Prop where
  staked : StakedAtLastBy staked originator pubkey
  not_unstaked : ¬ IsKeyIn unstaked pubkey
  not_withdrawn : ¬ IsKeyIn withdrawn pubkey

/-- The account has staked the key, which was unstaked but not withdrawn. -/
structure Pending (staked unstaked withdrawn : List Event) (originator pubkey : String) : Prop where
  staked : StakedAtLastBy staked originator pubkey
  unstaked : IsKeyIn unstaked pubkey
  not_withdrawn : ¬ IsKeyIn withdrawn pubkey

section Decidable

variable {es staked unstaked withdrawn : List Event} {originator pubkey : String}

lemma stakedAtLastBy_iff : StakedAtLastBy staked originator pubkey ↔
    (latestOf? staked pubkey).any (fun e => Text.lower e.originator = Text.lower originator) =
      true := by
  unfold StakedAtLastBy
  cases latestOf? staked pubkey <;> simp

lemma active_iff : Active staked unstaked withdrawn originator pubkey ↔
    StakedAtLastBy staked originator pubkey ∧ ¬ IsKeyIn unstaked pubkey ∧
      ¬ IsKeyIn withdrawn pubkey := by
  constructor
  · intro h
    exact ⟨h.staked, h.not_unstaked, h.not_withdrawn⟩
  · rintro ⟨staked, not_unstaked, not_withdrawn⟩
    exact ⟨staked, not_unstaked, not_withdrawn⟩

lemma pending_iff : Pending staked unstaked withdrawn originator pubkey ↔
    StakedAtLastBy staked originator pubkey ∧ IsKeyIn unstaked pubkey ∧
      ¬ IsKeyIn withdrawn pubkey := by
  constructor
  · intro h
    exact ⟨h.staked, h.unstaked, h.not_withdrawn⟩
  · rintro ⟨staked, unstaked, not_withdrawn⟩
    exact ⟨staked, unstaked, not_withdrawn⟩

instance : Decidable (StakedAtLastBy staked originator pubkey) :=
  decidable_of_iff _ stakedAtLastBy_iff.symm

instance : Decidable (IsKeyIn es pubkey) :=
  inferInstanceAs (Decidable (∃ e ∈ es, e.pubkey = pubkey))

instance : Decidable (Active staked unstaked withdrawn originator pubkey) :=
  decidable_of_iff _ active_iff.symm

instance : Decidable (Pending staked unstaked withdrawn originator pubkey) :=
  decidable_of_iff _ pending_iff.symm

end Decidable

/-- What is selected from three lists of events, whatever else the command line says. -/
structure SelectionsExact (staked unstaked withdrawn : List Event) : Prop where
  /-- To be unstaked are the active keys of the given list, as they stand there. -/
  unstake_eq : ∀ (o : Options) (onChain : List String),
    select { o with withdraw := false } onChain staked unstaked withdrawn =
      onChain.filter fun k => Active staked unstaked withdrawn o.originator k
  /-- To be withdrawn are the pending keys, whatever the given list. -/
  mem_withdraw_iff : ∀ (o : Options) (onChain : List String) (pubkey : String),
    pubkey ∈ select { o with withdraw := true } onChain staked unstaked withdrawn ↔
      Pending staked unstaked withdrawn o.originator pubkey
  withdraw_increasing : ∀ (o : Options) (onChain : List String),
    (select { o with withdraw := true } onChain staked unstaked withdrawn).Pairwise (· < ·)
  /-- No key is unstaked for one account and withdrawn for another one or the same. -/
  disjoint : ∀ (o o' : Options) (onChain onChain' : List String),
    (select { o with withdraw := false } onChain staked unstaked withdrawn).Disjoint
      (select { o' with withdraw := true } onChain' staked unstaked withdrawn)
  /-- In whatever order keys were unstaked and withdrawn, the same ones are selected. -/
  order_irrelevant : ∀ (o : Options) (onChain : List String) {unstaked' withdrawn' : List Event},
    unstaked.Perm unstaked' → withdrawn.Perm withdrawn' →
    select o onChain staked unstaked withdrawn = select o onChain staked unstaked' withdrawn'

variable {staked unstaked withdrawn unstaked' withdrawn' : List Event} {originator pubkey : String}
  {onChain : List String}

/-! ### The two selections -/

lemma isKeyIn_iff {es : List Event} : IsKeyIn es pubkey ↔ hasKey es pubkey = true :=
  hasKey_iff.symm

/-- The account of the last staked event is told by the active stakes of a key. -/
lemma active_iff_find? : Active staked unstaked withdrawn originator pubkey ↔
    ∃ e, (activeStakes staked unstaked withdrawn).find? pubkey = some e ∧
      Text.lower e.originator = Text.lower originator := by
  rw [find?_activeStakes, active_iff, isKeyIn_iff, isKeyIn_iff, ← not_or]
  by_cases gone : hasKey unstaked pubkey = true ∨ hasKey withdrawn pubkey = true
  · rw [if_pos gone]
    exact iff_of_false (fun h => h.2 gone) (by simp)
  · rw [if_neg gone]
    exact and_iff_left gone

lemma pending_iff_find? : Pending staked unstaked withdrawn originator pubkey ↔
    ∃ e, (pendingWithdrawals staked unstaked withdrawn).find? pubkey = some e ∧
      Text.lower e.originator = Text.lower originator := by
  rw [find?_pendingWithdrawals, pending_iff, isKeyIn_iff, isKeyIn_iff]
  by_cases waiting : hasKey unstaked pubkey = true ∧ ¬ hasKey withdrawn pubkey = true
  · rw [if_pos waiting]
    exact and_iff_left waiting
  · rw [if_neg waiting]
    exact iff_of_false (fun h => waiting h.2) (by simp)

/-- Keys are kept as they stand, those of whose events the account made the last one. -/
lemma keysToUnstake_eq : keysToUnstake originator onChain staked unstaked withdrawn =
    onChain.filter fun k => Active staked unstaked withdrawn originator k := by
  rw [keysToUnstake, keysOf]
  refine List.filter_congr fun k _ => ?_
  rw [Bool.eq_iff_iff, decide_eq_true_iff, active_iff_find?]
  cases (activeStakes staked unstaked withdrawn).find? k <;> simp

lemma mem_keysToWithdraw_iff : pubkey ∈ keysToWithdraw originator staked unstaked withdrawn ↔
    Pending staked unstaked withdrawn originator pubkey := by
  rw [keysToWithdraw, mem_keysOf_iff, sortedTexts_perm.mem_iff, Keyed.mem_keys_iff,
    pending_iff_find?]
  constructor
  · rintro ⟨-, h⟩
    exact h
  · rintro ⟨e, found, account⟩
    exact ⟨⟨e, found⟩, e, found, account⟩

lemma keysToWithdraw_increasing :
    (keysToWithdraw originator staked unstaked withdrawn).Pairwise (· < ·) :=
  (sortedTexts_increasing nodup_keys_pendingWithdrawals).sublist List.filter_sublist

/-! ### The order of the events -/

lemma hasKey_of_perm {es es' : List Event} (h : es.Perm es') : hasKey es = hasKey es' :=
  funext fun _ => h.any_eq

lemma keysToUnstake_of_perm (hu : unstaked.Perm unstaked') (hw : withdrawn.Perm withdrawn') :
    keysToUnstake originator onChain staked unstaked withdrawn =
      keysToUnstake originator onChain staked unstaked' withdrawn' := by
  rw [keysToUnstake_eq, keysToUnstake_eq]
  refine List.filter_congr fun k _ => ?_
  simp only [active_iff, isKeyIn_iff, hasKey_of_perm hu, hasKey_of_perm hw]

lemma keysToWithdraw_of_perm (hu : unstaked.Perm unstaked') (hw : withdrawn.Perm withdrawn') :
    keysToWithdraw originator staked unstaked withdrawn =
      keysToWithdraw originator staked unstaked' withdrawn' := by
  have same : pendingWithdrawals staked unstaked withdrawn =
      pendingWithdrawals staked unstaked' withdrawn' := by
    simp only [pendingWithdrawals, hasKey_of_perm hu, hasKey_of_perm hw]
  simp only [keysToWithdraw, same]

/-- The keys to unstake and the keys to withdraw are told apart exactly, whatever the three lists of
events. -/
theorem selections_exact (staked unstaked withdrawn : List Event) :
    SelectionsExact staked unstaked withdrawn where
  unstake_eq _ _ := keysToUnstake_eq
  mem_withdraw_iff _ _ _ := mem_keysToWithdraw_iff
  withdraw_increasing _ _ := keysToWithdraw_increasing
  disjoint := by
    intro o o' onChain onChain' k unstake withdraw
    have chosen : k ∈ keysToUnstake o.originator onChain staked unstaked withdrawn := unstake
    rw [keysToUnstake_eq, List.mem_filter, decide_eq_true_iff] at chosen
    have waiting : Pending staked unstaked withdrawn o'.originator k :=
      mem_keysToWithdraw_iff.1 withdraw
    exact chosen.2.not_unstaked waiting.unstaked
  order_irrelevant := by
    intro o onChain unstaked' withdrawn' hu hw
    unfold select
    split
    · exact keysToWithdraw_of_perm hu hw
    · exact keysToUnstake_of_perm hu hw

/-- A key counts for the account that staked it at last, in any letters, and for each time that it
is given. -/
example :
    let e (originator pubkey : String) : Event := { originator, pubkey, amount := 1, block := 1 }
    let staked :=
    [e "0xA" "cc", e "0xB" "aa", e "0xA" "bb", e "0xA" "aa", e "0xa" "dd", e "0xA" "ee"]
    let unstaked := [e "0xA" "ee", e "0xA" "cc", e "0xA" "dd"]
    let withdrawn := [e "0xA" "dd"]
    keysToUnstake "0xa" ["bb", "aa", "bb", "ff"] staked unstaked withdrawn = ["bb", "aa", "bb"] ∧
      keysToWithdraw "0xa" staked unstaked withdrawn = ["cc", "ee"] :=
  ⟨by decide +kernel, by cbv⟩

end StakeRegistry.Command.Unstake
