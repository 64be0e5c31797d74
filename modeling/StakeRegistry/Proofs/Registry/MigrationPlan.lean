/-
What a plan of a migration holds.

A `Migration` is given by the events of a registry, the accounts that are left out and an oracle
that confirms keys. `PlanFaithful` says what the oracle is asked and what the batches hold; the main
statement is `plan_faithful`. The way from the events to the batches is followed step by step:

* `candidates`: the entries that the oracle is asked about, in the increasing order of their keys;
* `chosen`: the events of those that it confirms;
* `planned`: the batches, as the groups of `chosen` divide.
-/
import StakeRegistry.Proofs.Hex
import StakeRegistry.Proofs.Program.Failing
import StakeRegistry.Proofs.Registry.Batches
import StakeRegistry.Proofs.Registry.Grouping
import StakeRegistry.Proofs.Registry.Reconstruction
import StakeRegistry.Registry.Selection

namespace StakeRegistry.Registry

/-- The events of a registry, the accounts whose stakes are not migrated, and the keys that the
oracle confirms. -/
structure Migration where
  staked : List Event
  unstaked : List Event
  withdrawn : List Event
  excluded : List String
  confirms : String → Bool

namespace Migration

variable (m : Migration)

/-- The last staked event of a key that is active and not left out. -/
structure Candidate (pubkey : String) (e : Event) : Prop where
  latest : latestOf? m.staked pubkey = some e
  not_unstaked : ∀ u ∈ m.unstaked, u.pubkey ≠ pubkey
  not_withdrawn : ∀ w ∈ m.withdrawn, w.pubkey ≠ pubkey
  not_excluded : ∀ x ∈ m.excluded, Text.lower x ≠ Text.lower e.originator

/-- The key is migrated: it is active, not left out and confirmed. -/
def Migrates (pubkey : String) : Prop :=
  (∃ e, m.Candidate pubkey e) ∧ m.confirms pubkey = true

/-- The selection of the stakes to migrate. -/
def selection (ε : Type) : Program (Explorer ε) (Except ε (List Event)) :=
  (selectEvents (activeStakes m.staked m.unstaked m.withdrawn) m.excluded).run

/-- An explorer that answers what the oracle says. -/
def explorer (ε : Type) : (c : Explorer.Call) → Unit → Explorer.Answer ε c × Unit
  | .isRegistered pubkey, _ => (Except.ok (m.confirms pubkey), ())
  | .say _, _ => ((), ())

end Migration

/-- The keys that the explorer was asked about. -/
def asked {ε : Type} (es : List (Program.Event (Explorer ε))) : List String :=
  es.filterMap fun e =>
    match e.1 with
    | .isRegistered pubkey => some pubkey
    | .say _ => none

/-- The keys of a batch in hexadecimal. -/
def PlannedBatch.keys (b : PlannedBatch) : List String :=
  b.pubkeys.map Bytes.toHex

/-- The batches of an account. -/
def batchesFrom (plan : List PlannedBatch) (originator : String) : List PlannedBatch :=
  plan.filter fun b => b.originator = originator

/-- A plan with batches of a size loses, doubles and misattributes nothing. -/
structure PlanFaithful (m : Migration) (size : Int) (asked : List String)
    (plan : List PlannedBatch) : Prop where
  /-- The oracle is asked about the active keys that are not left out, about each of them once. -/
  mem_asked_iff : ∀ pubkey, pubkey ∈ asked ↔ ∃ e, m.Candidate pubkey e
  asked_increasing : asked.Pairwise (· < ·)
  /-- What is migrated stands once in one batch. -/
  count_eq_one : ∀ pubkey, m.Migrates pubkey → (plan.flatMap PlannedBatch.keys).count pubkey = 1
  /-- Nothing else is migrated. -/
  migrates : ∀ b ∈ plan, ∀ pubkey ∈ b.keys, m.Migrates pubkey
  /-- A key stands in a batch of the account of its last staked event. -/
  originator_eq : ∀ b ∈ plan, ∀ pubkey ∈ b.keys, ∀ e, latestOf? m.staked pubkey = some e →
    b.originator = e.originator
  length : ∀ b ∈ plan, 1 ≤ b.pubkeys.length ∧ (b.pubkeys.length : Int) ≤ size
  /-- Only the last batch of an account may be short. -/
  full : ∀ originator, ∀ b ∈ (batchesFrom plan originator).dropLast, (b.pubkeys.length : Int) = size
  /-- The keys of an account increase through its batches. -/
  increasing : ∀ originator,
    ((batchesFrom plan originator).flatMap PlannedBatch.keys).Pairwise (· < ·)

/-! ### What the oracle is asked -/

section Selection

variable {ε : Type} {es : List (Program.Event (Explorer ε))}

/-- The selection goes on with what the explorer tells, or ends with the failure of the explorer. -/
lemma runs_askRegistered_bind_iff {β : Type} {pubkey : String}
    {f : Bool → ExceptT ε (Program (Explorer ε)) β} {r : Except ε β} :
    Program.Runs (askRegistered pubkey >>= f).run es r ↔
      ∃ (x : Except ε Bool) (rest : List (Program.Event (Explorer ε))),
        es = ⟨.isRegistered pubkey, x⟩ :: rest ∧
          Program.Runs (x.casesOn (fun e => .done (.error e)) fun b => (f b).run) rest r := by
  have unfolded : (askRegistered pubkey >>= f).run =
      .ask (.isRegistered pubkey) fun x : Except ε Bool =>
        x.casesOn (fun e => .done (.error e)) fun b => (f b).run := by
    refine congrArg (Program.ask (I := Explorer ε) (.isRegistered pubkey)) (funext fun x => ?_)
    cases x <;> rfl
  rw [unfolded]
  exact Program.Runs.ask_iff (I := Explorer ε)

lemma of_runs_sayUnregistered {β : Type} {pubkey : String}
    {f : Unit → ExceptT ε (Program (Explorer ε)) β} {r : Except ε β}
    (h : Program.Runs (sayUnregistered pubkey >>= f).run es r) :
    ∃ line rest, es = ⟨.say line, ()⟩ :: rest ∧ Program.Runs (f ()).run rest r := by
  obtain ⟨_, rest, rfl, later⟩ := (Program.runs_run_call_bind_iff (I := Explorer ε)).1 h
  exact ⟨_, rest, rfl, later⟩

/-- All keys are asked about, in their order, and the events of those that are confirmed are
selected. -/
lemma selected_of_runs {m : Migration} {entries : Keyed String Event} {r : Except ε (List Event)}
    (run : Program.Runs (selectRegistered entries).run es r)
    (answered : Program.AnsweredBy (m.explorer ε) () es) :
    asked es = entries.keys ∧
      r = .ok ((entries.filter fun p => m.confirms p.1).map Prod.snd) := by
  induction entries generalizing es r with
  | nil =>
    obtain ⟨rfl, rfl⟩ := Program.runs_run_pure_iff.1 run
    exact ⟨rfl, rfl⟩
  | cons p entries ih =>
    obtain ⟨pubkey, e⟩ := p
    rw [selectRegistered, runs_askRegistered_bind_iff] at run
    obtain ⟨x, es, rfl, run⟩ := run
    obtain ⟨hx, later⟩ := Program.answeredBy_cons_iff.1 answered
    obtain rfl : x = .ok (m.confirms pubkey) := hx
    dsimp only at run
    cases hc : m.confirms pubkey with
    | true =>
      rw [hc, if_pos rfl] at run
      obtain ⟨r, others, rfl⟩ := Program.runs_run_map_iff.1 run
      obtain ⟨hasked, rfl⟩ := ih others later
      exact ⟨congrArg (pubkey :: ·) hasked, by simp [hc, Except.map]⟩
    | false =>
      rw [hc, if_neg Bool.false_ne_true] at run
      obtain ⟨line, es, rfl, others⟩ := of_runs_sayUnregistered run
      obtain ⟨-, later⟩ := Program.answeredBy_cons_iff.1 later
      obtain ⟨hasked, rfl⟩ := ih others later
      exact ⟨congrArg (pubkey :: ·) hasked, by simp [hc]⟩

end Selection

/-! ### From the events to what is asked -/

section Candidates

variable {m : Migration} {pubkey : String} {e : Event}

/-- The entries that the oracle is asked about. -/
def Migration.candidates (m : Migration) : Keyed String Event :=
  (sortedByKey (activeStakes m.staked m.unstaked m.withdrawn)).filter
    fun p => !isExcluded m.excluded p.2.originator

lemma isExcluded_iff {excluded : List String} {originator : String} :
    isExcluded excluded originator = true ↔
    ∃ x ∈ excluded, Text.lower x = Text.lower originator := by
  simp [isExcluded]

lemma mem_candidates_iff : (pubkey, e) ∈ m.candidates ↔ m.Candidate pubkey e := by
  rw [Migration.candidates, List.mem_filter, sortedByKey_perm.mem_iff,
    ← Keyed.find?_eq_some_iff nodup_keys_activeStakes, find?_activeStakes]
  have included : (!isExcluded m.excluded e.originator) = true ↔
      ∀ x ∈ m.excluded, Text.lower x ≠ Text.lower e.originator := by
    rw [Bool.not_eq_true', ← Bool.not_eq_true, isExcluded_iff]
    simp
  simp only [included, hasKey_iff]
  constructor
  · rintro ⟨found, included⟩
    split_ifs at found with gone
    rw [not_or] at gone
    exact ⟨found, fun u hu hk => gone.1 ⟨u, hu, hk⟩, fun w hw hk => gone.2 ⟨w, hw, hk⟩, included⟩
  · rintro ⟨latest, not_unstaked, not_withdrawn, included⟩
    rw [if_neg]
    · exact ⟨latest, included⟩
    · rintro (⟨u, hu, hk⟩ | ⟨w, hw, hk⟩)
      · exact not_unstaked u hu hk
      · exact not_withdrawn w hw hk

lemma keys_candidates_increasing : m.candidates.keys.Pairwise (· < ·) :=
  (keys_sortedByKey_increasing nodup_keys_activeStakes).sublist (List.filter_sublist.map Prod.fst)

lemma Migration.Candidate.pubkey_eq (h : m.Candidate pubkey e) : e.pubkey = pubkey :=
  pubkey_of_latestOf? h.latest

/-- The events of the candidates that the oracle confirms. -/
def Migration.chosen (m : Migration) : List Event :=
  (m.candidates.filter fun p => m.confirms p.1).map Prod.snd

lemma mem_chosen_iff :
    e ∈ m.chosen ↔ m.Candidate e.pubkey e ∧ m.confirms e.pubkey = true := by
  simp only [Migration.chosen, List.mem_map, List.mem_filter]
  constructor
  · rintro ⟨⟨pubkey, e⟩, ⟨entry, confirmed⟩, rfl⟩
    have candidate := mem_candidates_iff.1 entry
    rw [candidate.pubkey_eq]
    exact ⟨candidate, confirmed⟩
  · rintro ⟨candidate, confirmed⟩
    exact ⟨(e.pubkey, e), ⟨mem_candidates_iff.2 candidate, confirmed⟩, rfl⟩

lemma chosen_increasing : m.chosen.Pairwise fun e e' => e.pubkey < e'.pubkey := by
  have increasing := List.pairwise_map.1 (keys_candidates_increasing (m := m))
  refine List.pairwise_map.2 ((increasing.filter _).imp_of_mem ?_)
  intro p q hp hq less
  have hp := mem_candidates_iff.1 (List.mem_of_mem_filter hp)
  have hq := mem_candidates_iff.1 (List.mem_of_mem_filter hq)
  rw [hp.pubkey_eq, hq.pubkey_eq]
  exact less

/-- The keys of the chosen events are the keys that are migrated. -/
lemma mem_keys_chosen_iff : pubkey ∈ m.chosen.map Event.pubkey ↔ m.Migrates pubkey := by
  rw [List.mem_map]
  constructor
  · rintro ⟨e, he, rfl⟩
    obtain ⟨candidate, confirmed⟩ := mem_chosen_iff.1 he
    exact ⟨⟨e, candidate⟩, confirmed⟩
  · rintro ⟨⟨e, candidate⟩, confirmed⟩
    obtain rfl := candidate.pubkey_eq
    exact ⟨e, mem_chosen_iff.2 ⟨candidate, confirmed⟩, rfl⟩

end Candidates

/-! ### From what is chosen to the batches -/

section Plan

variable {es : List Event} {size : Int} {group : String × List String} {originator : String}

/-- The bytes of a key. -/
def bytesOf (pubkey : String) : Bytes :=
  (hexBytes? pubkey.toList).getD []

lemma keyBytes_eq {pubkey : String} (hex : IsLowerHex pubkey) :
    keyBytes pubkey = .ok (bytesOf pubkey) := by
  obtain ⟨bs, read, -⟩ := hex.exists_bytes
  simp [keyBytes, bytesOf, read]

lemma toHex_bytesOf {pubkey : String} (hex : IsLowerHex pubkey) :
    (bytesOf pubkey).toHex = pubkey := by
  obtain ⟨bs, read, written⟩ := hex.exists_bytes
  simp [bytesOf, read, written]

/-- The batches of a group. -/
def groupBatches (size : Int) (group : String × List String) : List PlannedBatch :=
  ((splitBatches group.2 size).getD []).map fun batch =>
    { originator := group.1, pubkeys := batch.map bytesOf }

/-- The batches of events. -/
def planned (size : Int) (es : List Event) : List PlannedBatch :=
  (groupByOriginator es).flatMap (groupBatches size)

lemma mapM_eq_ok {α β ε : Type} {f : α → Except ε β} {g : α → β} {as : List α}
    (h : ∀ a ∈ as, f a = .ok (g a)) : as.mapM f = .ok (as.map g) := by
  induction as with
  | nil => rfl
  | cons a as ih =>
    rw [List.mapM_cons, h a List.mem_cons_self, ih fun b hb => h b (List.mem_cons_of_mem a hb)]
    rfl

lemma exists_divides (size_pos : 1 ≤ size) (keys : List String) :
    ∃ batches, splitBatches keys size = some batches ∧ Divides keys size batches := by
  cases h : splitBatches keys size with
  | none =>
    have := splitBatches_eq_none_iff.1 h
    omega
  | some batches => exact ⟨batches, rfl, divides_of_splitBatches h⟩

lemma hex_of_mem_keysFrom (hex : ∀ e ∈ es, IsLowerHex e.pubkey) :
    ∀ k ∈ keysFrom es originator, IsLowerHex k := by
  intro k hk
  obtain ⟨e, he, rfl⟩ := List.mem_map.1 hk
  exact hex e (List.mem_of_mem_filter he)

lemma hex_of_mem_group (hex : ∀ e ∈ es, IsLowerHex e.pubkey) (h : group ∈ groupByOriginator es) :
    ∀ k ∈ group.2, IsLowerHex k := by
  rw [eq_keysFrom_of_mem h]
  exact hex_of_mem_keysFrom hex

lemma planGroup_eq (size_pos : 1 ≤ size) (hex : ∀ k ∈ group.2, IsLowerHex k) :
    planGroup size group = .ok (groupBatches size group) := by
  obtain ⟨batches, split, divides⟩ := exists_divides size_pos group.2
  rw [planGroup, groupBatches, split, Option.getD_some]
  refine mapM_eq_ok fun batch hbatch => ?_
  have read : batch.mapM keyBytes = .ok (batch.map bytesOf) :=
    mapM_eq_ok fun k hk => keyBytes_eq (hex k (divides.mem_of_mem hbatch hk))
  rw [read]
  rfl

lemma planBatches_eq (size_pos : 1 ≤ size) (hex : ∀ e ∈ es, IsLowerHex e.pubkey) :
    planBatches es size = .ok (planned size es) := by
  have groups : (groupByOriginator es).mapM (planGroup size) =
      .ok ((groupByOriginator es).map (groupBatches size)) :=
    mapM_eq_ok fun group hgroup => planGroup_eq size_pos (hex_of_mem_group hex hgroup)
  rw [planBatches, groups, planned, List.flatMap_def]
  rfl

lemma flatMap_keys_groupBatches (size_pos : 1 ≤ size) (hex : ∀ k ∈ group.2, IsLowerHex k) :
    (groupBatches size group).flatMap PlannedBatch.keys = group.2 := by
  obtain ⟨batches, split, divides⟩ := exists_divides size_pos group.2
  have keys : ∀ batch ∈ batches, (batch.map bytesOf).map Bytes.toHex = batch := by
    intro batch hbatch
    calc (batch.map bytesOf).map Bytes.toHex
        = batch.map (fun k => (bytesOf k).toHex) := List.map_map
      _ = batch.map id :=
        List.map_congr_left fun k hk => toHex_bytesOf (hex k (divides.mem_of_mem hbatch hk))
      _ = batch := List.map_id batch
  rw [groupBatches, split, Option.getD_some, List.flatMap_map, List.flatMap_def]
  calc (batches.map fun batch => (batch.map bytesOf).map Bytes.toHex).flatten
      = (batches.map id).flatten := congrArg _ (List.map_congr_left keys)
    _ = group.2 := by rw [List.map_id, divides.flatten_eq]

/-- The batches hold the keys of the events, in another order. -/
lemma planned_perm (size_pos : 1 ≤ size) (hex : ∀ e ∈ es, IsLowerHex e.pubkey) :
    ((planned size es).flatMap PlannedBatch.keys).Perm (es.map Event.pubkey) := by
  have keys : ∀ group ∈ groupByOriginator es,
      (groupBatches size group).flatMap PlannedBatch.keys = group.2 :=
    fun group hgroup => flatMap_keys_groupBatches size_pos (hex_of_mem_group hex hgroup)
  have flat :
    (planned size es).flatMap PlannedBatch.keys = (groupByOriginator es).flatMap Prod.snd := by
    rw [planned, List.flatMap_assoc, List.flatMap_def, List.flatMap_def, List.map_congr_left keys]
  rw [flat]
  exact groupByOriginator_perm

lemma groupBatches_nil : groupBatches size (originator, []) = [] := by
  rw [groupBatches, splitBatches]
  split <;> simp [pieces]

lemma originator_of_mem_groupBatches {b : PlannedBatch} (h : b ∈ groupBatches size group) :
    b.originator = group.1 := by
  obtain ⟨batch, -, rfl⟩ := List.mem_map.1 h
  rfl

/-- The batches of an account are those of the keys of its events. -/
lemma batchesFrom_planned : batchesFrom (planned size es) originator =
    groupBatches size (originator, keysFrom es originator) := by
  have own : batchesFrom (planned size es) originator =
      (((groupByOriginator es).find? originator).map fun ks =>
        groupBatches size (originator, ks)).getD [] :=
    Keyed.filter_flatMap nodup_keys_groupByOriginator fun _ _ => originator_of_mem_groupBatches
  rw [own, ← getD_find?_groupByOriginator]
  cases (groupByOriginator es).find? originator with
  | none => exact groupBatches_nil.symm
  | some ks => rfl

lemma mem_groupBatches_of_mem {b : PlannedBatch} (h : b ∈ planned size es) :
    b ∈ groupBatches size (b.originator, keysFrom es b.originator) := by
  rw [← batchesFrom_planned]
  exact List.mem_filter.2 ⟨h, by simp⟩

lemma length_of_mem_groupBatches (size_pos : 1 ≤ size) {b : PlannedBatch}
    (h : b ∈ groupBatches size group) :
    1 ≤ b.pubkeys.length ∧ (b.pubkeys.length : Int) ≤ size := by
  obtain ⟨batches, split, divides⟩ := exists_divides size_pos group.2
  rw [groupBatches, split, Option.getD_some] at h
  obtain ⟨batch, hbatch, rfl⟩ := List.mem_map.1 h
  rw [List.length_map]
  exact divides.length batch hbatch

lemma length_of_mem_dropLast_groupBatches (size_pos : 1 ≤ size) {b : PlannedBatch}
    (h : b ∈ (groupBatches size group).dropLast) : (b.pubkeys.length : Int) = size := by
  obtain ⟨batches, split, divides⟩ := exists_divides size_pos group.2
  rw [groupBatches, split, Option.getD_some, ← List.map_dropLast] at h
  obtain ⟨batch, hbatch, rfl⟩ := List.mem_map.1 h
  rw [List.length_map]
  exact divides.full batch hbatch

/-- The keys of an account increase if those of the events do. -/
lemma keysFrom_increasing (increasing : es.Pairwise fun e e' => e.pubkey < e'.pubkey) :
    (keysFrom es originator).Pairwise (· < ·) :=
  List.pairwise_map.2 (increasing.filter _)

/-- A key of a batch is that of an event of its account. -/
lemma exists_event_of_mem_keys (size_pos : 1 ≤ size) (hex : ∀ e ∈ es, IsLowerHex e.pubkey)
    {b : PlannedBatch} (hb : b ∈ planned size es) {pubkey : String} (hk : pubkey ∈ b.keys) :
    ∃ e ∈ es, e.originator = b.originator ∧ e.pubkey = pubkey := by
  have keys : pubkey ∈ (groupBatches size (b.originator, keysFrom es b.originator)).flatMap
      PlannedBatch.keys := List.mem_flatMap.2 ⟨b, mem_groupBatches_of_mem hb, hk⟩
  rw [flatMap_keys_groupBatches size_pos (hex_of_mem_keysFrom hex)] at keys
  obtain ⟨e, he, rfl⟩ := List.mem_map.1 keys
  obtain ⟨he, ho⟩ := List.mem_filter.1 he
  exact ⟨e, he, by simpa using ho, rfl⟩

end Plan

/-- The plan of a migration loses, doubles and misattributes nothing, whatever its events, the
excluded accounts and the oracle. -/
theorem plan_faithful {ε : Type} {m : Migration} {size : Int} (size_pos : 1 ≤ size)
    (hex : ∀ e ∈ m.staked, IsLowerHex e.pubkey) :
    ∃ events plan, ((m.selection ε).run (m.explorer ε) ()).1 = .ok events ∧
      planBatches events size = .ok plan ∧
      PlanFaithful m size (asked ((m.selection ε).trace (m.explorer ε) ())) plan := by
  obtain ⟨hasked, selected⟩ :=
    selected_of_runs (Program.runs_trace (m.explorer ε) (m.selection ε) ())
    (Program.answeredBy_trace _ _ _)
  have hex' : ∀ e ∈ m.chosen, IsLowerHex e.pubkey := fun e he =>
    hex e (mem_of_latestOf? (mem_chosen_iff.1 he).1.latest)
  refine ⟨m.chosen, planned size m.chosen, selected, planBatches_eq size_pos hex', ?_⟩
  have perm := planned_perm size_pos hex'
  constructor
  case mem_asked_iff =>
    intro pubkey
    rw [hasked]
    constructor
    · intro h
      obtain ⟨⟨pubkey, e⟩, he, rfl⟩ := List.mem_map.1 h
      exact ⟨e, mem_candidates_iff.1 he⟩
    · rintro ⟨e, candidate⟩
      exact List.mem_map_of_mem (mem_candidates_iff.2 candidate)
  case asked_increasing =>
    rw [hasked]
    exact keys_candidates_increasing
  case count_eq_one =>
    intro pubkey migrates
    rw [perm.count_eq]
    have distinct : (m.chosen.map Event.pubkey).Nodup :=
      List.pairwise_map.2 (chosen_increasing.imp fun less => less.ne)
    exact List.count_eq_one_of_mem distinct (mem_keys_chosen_iff.2 migrates)
  case migrates =>
    intro b hb pubkey hk
    exact mem_keys_chosen_iff.1 (perm.mem_iff.1 (List.mem_flatMap.2 ⟨b, hb, hk⟩))
  case originator_eq =>
    intro b hb pubkey hk e latest
    obtain ⟨e', he', ho, rfl⟩ := exists_event_of_mem_keys size_pos hex' hb hk
    obtain rfl : e' = e := Option.some.inj ((mem_chosen_iff.1 he').1.latest.symm.trans latest)
    exact ho.symm
  case length =>
    exact fun b hb => length_of_mem_groupBatches size_pos (mem_groupBatches_of_mem hb)
  case full =>
    intro originator b hb
    rw [batchesFrom_planned] at hb
    exact length_of_mem_dropLast_groupBatches size_pos hb
  case increasing =>
    intro originator
    rw [batchesFrom_planned, flatMap_keys_groupBatches size_pos (hex_of_mem_keysFrom hex')]
    exact keysFrom_increasing chosen_increasing

/-- Two accounts of which one is excluded in other letters: one of its own keys was staked by the
other account at last, one key was unstaked and one is not confirmed. -/
theorem plan_faithful_of_two_accounts :
    let e (originator pubkey : String) : Event := { originator, pubkey, amount := 5, block := 1 }
    let m : Migration := {
      staked := [e "0xB" "0f", e "0xA" "0a", e "0xB" "0c", e "0xA" "0b", e "0xA" "0e", e "0xA" "0c",
        e "0xA" "0d"]
      unstaked := [e "0xA" "0e"]
      withdrawn := []
      excluded := ["0xb"]
      confirms := fun k => k ≠ "0b" }
    let selection := m.selection Empty
    asked (selection.trace (m.explorer Empty) ()) = ["0a", "0b", "0c", "0d"] ∧
      (selection.run (m.explorer Empty) ()).1 =
        .ok [e "0xA" "0a", e "0xA" "0c", e "0xA" "0d"] ∧
      planBatches [e "0xA" "0a", e "0xA" "0c", e "0xA" "0d"] 2 =
        .ok [⟨"0xA", [[10], [12]]⟩, ⟨"0xA", [[13]]⟩] ∧
      ∃ events plan, (selection.run (m.explorer Empty) ()).1 = .ok events ∧
        planBatches events 2 = .ok plan ∧
        PlanFaithful m 2 (asked (selection.trace (m.explorer Empty) ())) plan := by
  intro e m selection
  have sorted : sortedByKey (activeStakes m.staked m.unstaked m.withdrawn) =
      [("0a", e "0xA" "0a"), ("0b", e "0xA" "0b"), ("0c", e "0xA" "0c"), ("0d", e "0xA" "0d"),
        ("0f", e "0xB" "0f")] :=
    sortedByKey_eq (by decide +kernel) (by decide)
  refine ⟨?_, ?_, by decide +kernel, plan_faithful (by decide) (by decide +kernel)⟩
  all_goals
    simp only [selection, Migration.selection, selectEvents, sorted]
    decide +kernel

end StakeRegistry.Registry
