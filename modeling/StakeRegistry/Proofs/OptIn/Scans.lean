/-
What a scan of epochs finds.

A scan that ends without an error has dealt with every duty of every epoch, one after another:

* `Dealing web api validators`: what is made of one duty, the entry that it has if it counts
  (`Counts`), and the lookup of its block if the key of its proposer is known;
* `EpochScan web api validators`: the dealings with the duties that are told for an epoch.

The main statements are `exists_epochScans_of_runs`, that the slots and the addresses of a scan are
those of such dealings in their order, and `agree_scanFrom`, that two scans of the same epochs agree
if the web answers alike.
-/
import StakeRegistry.OptIn.Scan
import StakeRegistry.Proofs.Beacon

namespace StakeRegistry.OptIn

open Program Host Beacon

/-- The number of the slot that a duty is for. -/
def numberOf (duty : Json.Value) : Except ReadError Int :=
  duty.field "slot" >>= Json.Value.toInteger

section

variable (web : String → Except Fault WebResponse) (api : String)
  (validators : Keyed String Validator)

/-- A duty counts as a slot: its proposer is known, and the slot has a block, which is not before
the one from which on the proposer counts. -/
structure Counts (duty : Json.Value) (slot : Slot) : Prop where
  known : ∃ key, proposerOf duty = .ok key ∧ validators.find? key = some slot.validator
  number : numberOf duty = .ok slot.number
  proposed : TellsBlock web api slot.number slot.block
  inTime : slot.validator.block ≤ slot.block

/-- What is made of a duty. -/
structure Dealing where
  duty : Json.Value
  entry : Option Slot
  /-- The addresses that are asked for. -/
  lookups : List String
  key : String
  proposer : proposerOf duty = .ok key
  entry_iff : ∀ slot, entry = some slot ↔ Counts web api validators duty slot
  lookups_of_known : ∀ validator, validators.find? key = some validator →
    ∃ number, numberOf duty = .ok number ∧ lookups = [blockUrl api number]
  lookups_of_unknown : validators.find? key = none → lookups = []

/-- The dealings with the duties that are told for an epoch, in their order. -/
structure EpochScan where
  epoch : Int
  dealings : List (Dealing web api validators)
  told : TellsDuties web api epoch (dealings.map Dealing.duty)

end

variable {web : String → Except Fault WebResponse} {api : String}
  {validators : Keyed String Validator} {es : List (Event Host)}

/-- The entries of the duties of an epoch that count. -/
def EpochScan.slots (s : EpochScan web api validators) : List Slot :=
  s.dealings.filterMap Dealing.entry

/-- The addresses that are asked for in an epoch. -/
def EpochScan.urls (s : EpochScan web api validators) : List String :=
  dutiesUrl api s.epoch :: s.dealings.flatMap Dealing.lookups

/-! ### One duty -/

/-- The duty of a known proposer counts if its slot has a block that is not too early. -/
lemma counts_iff_of_known {duty : Json.Value} {key : String} {validator : Validator} {number : Int}
    {slot : Slot} (proposer : proposerOf duty = .ok key)
    (found : validators.find? key = some validator) (numbered : numberOf duty = .ok number) :
    Counts web api validators duty slot ↔ slot.number = number ∧ slot.validator = validator ∧
      TellsBlock web api number slot.block ∧ validator.block ≤ slot.block := by
  constructor
  · intro h
    obtain ⟨key', proposer', found'⟩ := h.known
    obtain rfl : key = key' := Except.ok.inj (proposer.symm.trans proposer')
    obtain rfl : number = slot.number := Except.ok.inj (numbered.symm.trans h.number)
    obtain rfl : validator = slot.validator := Option.some.inj (found.symm.trans found')
    exact ⟨rfl, rfl, h.proposed, h.inTime⟩
  · rintro ⟨rfl, rfl, proposed, inTime⟩
    exact ⟨⟨key, proposer, found⟩, numbered, proposed, inTime⟩

/-- Dealing with a duty of a stranger: nothing is asked. -/
def Dealing.stranger {duty : Json.Value} {key : String} (proposer : proposerOf duty = .ok key)
    (unknown : validators.find? key = none) : Dealing web api validators where
  duty := duty
  entry := none
  lookups := []
  key := key
  proposer := proposer
  entry_iff slot := by
    constructor
    · intro h
      cases h
    · intro h
      obtain ⟨key', proposer', found⟩ := h.known
      obtain rfl : key = key' := Except.ok.inj (proposer.symm.trans proposer')
      rw [unknown] at found
      cases found
  lookups_of_known validator found := by
    rw [unknown] at found
    cases found
  lookups_of_unknown _ := rfl

/-- Dealing with a duty of a known proposer. -/
def Dealing.known {duty : Json.Value} {key : String} {validator : Validator} {number : Int}
    {entry : Option Slot} (proposer : proposerOf duty = .ok key)
    (found : validators.find? key = some validator) (numbered : numberOf duty = .ok number)
    (entry_iff : ∀ slot, entry = some slot ↔ Counts web api validators duty slot) :
    Dealing web api validators where
  duty := duty
  entry := entry
  lookups := [blockUrl api number]
  key := key
  proposer := proposer
  entry_iff := entry_iff
  lookups_of_known _ _ := ⟨number, numbered, rfl⟩
  lookups_of_unknown unknown := by
    rw [unknown] at found
    cases found

/-- A duty that is dealt with without an error. -/
lemma exists_dealing_of_runs {duty : Json.Value} {entry : Option Slot}
    (run : Runs (slotOfDuty api validators duty).run es (.ok entry))
    (answered : AnsweredByUrl web es) :
    ∃ d : Dealing web api validators, d.duty = duty ∧ d.entry = entry ∧
      d.lookups = requestedUrls es := by
  rw [slotOfDuty] at run
  obtain ⟨key, proposer, next⟩ := Act.runs_orElse_bind_ok_iff.1 run
  cases found : validators.find? key with
  | none =>
    simp only [found] at next
    obtain ⟨rfl, ended⟩ := runs_run_pure_iff.1 next
    cases ended
    exact ⟨.stranger proposer found, rfl, rfl, rfl⟩
  | some validator =>
    simp only [found] at next
    obtain ⟨number, numbered, next⟩ := Act.runs_orElse_bind_ok_iff.1 next
    obtain ⟨asked, rest, block?, rfl, looked, next⟩ := runs_run_bind_ok_iff.1 next
    obtain ⟨x, looked, hx⟩ := Act.runs_withError_iff.1 looked
    obtain rfl := mapError_eq_ok_iff.1 hx.symm
    rw [answeredByUrl_append_iff] at answered
    obtain ⟨tells, urls⟩ := tells_of_runs_blockOfSlot looked answered.1
    rw [requestedUrls_append, urls]
    rcases tells with ⟨rfl, missed⟩ | ⟨block, rfl, told⟩
    · -- the slot has no block
      obtain ⟨rfl, ended⟩ := Act.runs_say_pure_iff.1 next
      cases ended
      refine ⟨.known proposer found numbered fun slot => ?_, rfl, rfl, rfl⟩
      rw [counts_iff_of_known proposer found numbered]
      constructor
      · intro h
        cases h
      · rintro ⟨-, -, proposed, -⟩
        exact absurd missed proposed.not_tellsMissed
    · -- the slot has a block, which may be too early
      by_cases early : block < validator.block
      · simp only [if_pos early] at next
        obtain ⟨rfl, ended⟩ := runs_run_pure_iff.1 next
        cases ended
        refine ⟨.known proposer found numbered fun slot => ?_, rfl, rfl, rfl⟩
        rw [counts_iff_of_known proposer found numbered]
        constructor
        · intro h
          cases h
        · rintro ⟨-, -, proposed, inTime⟩
          rw [proposed.eq told] at inTime
          omega
      · simp only [if_neg early] at next
        obtain ⟨rfl, ended⟩ := Act.runs_say_pure_iff.1 next
        cases ended
        refine ⟨.known proposer found numbered fun slot => ?_, rfl, rfl, rfl⟩
        rw [counts_iff_of_known proposer found numbered]
        constructor
        · intro h
          cases h
          exact ⟨rfl, rfl, told, Int.not_lt.1 early⟩
        · rintro ⟨rfl, rfl, proposed, -⟩
          rw [told.eq proposed]

/-! ### The duties of an epoch -/

lemma exists_dealings_of_runs {duties : List Json.Value} {entries : List (Option Slot)}
    (run : Runs (duties.mapM (slotOfDuty api validators)).run es (.ok entries))
    (answered : AnsweredByUrl web es) :
    ∃ ds : List (Dealing web api validators), ds.map Dealing.duty = duties ∧
      ds.map Dealing.entry = entries ∧ ds.flatMap Dealing.lookups = requestedUrls es := by
  induction duties generalizing es entries with
  | nil =>
    obtain ⟨rfl, ended⟩ := runs_run_pure_iff.1 run
    cases ended
    exact ⟨[], rfl, rfl, rfl⟩
  | cons duty duties ih =>
    rw [List.mapM_cons] at run
    obtain ⟨own, rest, entry, rfl, dealt, next⟩ := runs_run_bind_ok_iff.1 run
    obtain ⟨entries, later, rfl⟩ := runs_run_map_ok_iff.1 next
    rw [answeredByUrl_append_iff] at answered
    obtain ⟨d, rfl, rfl, urls⟩ := exists_dealing_of_runs dealt answered.1
    obtain ⟨ds, rfl, rfl, urls'⟩ := ih later answered.2
    refine ⟨d :: ds, rfl, rfl, ?_⟩
    rw [requestedUrls_append, List.flatMap_cons, urls, urls']

/-- An epoch that is scanned without an error. -/
lemma exists_epochScan_of_runs {epoch : Int} {slots : List Slot}
    (run : Runs (scanEpoch api validators epoch).run es (.ok slots))
    (answered : AnsweredByUrl web es) :
    ∃ s : EpochScan web api validators, s.epoch = epoch ∧ s.slots = slots ∧
      s.urls = requestedUrls es := by
  rw [scanEpoch] at run
  obtain ⟨start, _, rfl, afterStart⟩ := Act.runs_ask_bind_iff.1 run
  obtain ⟨⟨⟩, _, rfl, afterLine⟩ := Act.runs_ask_bind_iff.1 afterStart
  obtain ⟨asked, _, data, rfl, told, afterDuties⟩ := runs_run_bind_ok_iff.1 afterLine
  obtain ⟨x, told, hx⟩ := Act.runs_withError_iff.1 told
  obtain rfl := mapError_eq_ok_iff.1 hx.symm
  obtain ⟨duties, elements, afterElements⟩ := Act.runs_orElse_bind_ok_iff.1 afterDuties
  obtain ⟨dealt, _, found, rfl, deals, afterDeals⟩ := runs_run_bind_ok_iff.1 afterElements
  obtain ⟨finished, _, rfl, afterFinish⟩ := Act.runs_ask_bind_iff.1 afterDeals
  obtain ⟨rfl, ended⟩ := Act.runs_say_pure_iff.1 afterFinish
  cases ended
  obtain ⟨entries, dealings, rfl⟩ := runs_run_map_ok_iff.1 deals
  have answered := answered.of_cons.of_cons
  rw [answeredByUrl_append_iff, answeredByUrl_append_iff] at answered
  obtain ⟨answeredDuties, answeredDealings, -⟩ := answered
  obtain ⟨ds, rfl, rfl, urls⟩ := exists_dealings_of_runs dealings answeredDealings
  obtain ⟨tells, urls'⟩ := tellsDuties_of_runs told elements answeredDuties
  refine ⟨⟨epoch, ds, tells⟩, rfl, ?_, ?_⟩
  · rw [EpochScan.slots, List.filterMap_map]
    rfl
  · -- beside the duties and their blocks, only the clock was asked
    change _ = requestedUrls (asked ++ (dealt ++ _))
    rw [requestedUrls_append, requestedUrls_append, urls', ← urls]
    exact congrArg _ (List.append_nil _).symm

/-! ### Epochs one after another -/

/-- The next `count` epochs from an epoch on. -/
def epochsFrom (epoch : Int) (count : Nat) : List Int :=
  (List.range count).map fun i : Nat => epoch + i

lemma epochsFrom_succ {epoch : Int} {count : Nat} :
    epochsFrom epoch (count + 1) = epoch :: epochsFrom (epoch + 1) count := by
  rw [epochsFrom, epochsFrom, List.range_succ_eq_map, List.map_cons, List.map_map]
  congr 1
  · simp
  · refine List.map_congr_left fun i _ => ?_
    simp only [Function.comp_apply, Int.natCast_succ]
    omega

/-- Epochs that are scanned without an error: each is scanned once, in their order. -/
theorem exists_epochScans_of_runs {epoch : Int} {count : Nat} {slots : List Slot}
    (run : Runs (scanFrom api validators epoch count).run es (.ok slots))
    (answered : AnsweredByUrl web es) :
    ∃ scans :
      List (EpochScan web api validators), scans.map EpochScan.epoch = epochsFrom epoch count ∧
      scans.flatMap EpochScan.slots = slots ∧ scans.flatMap EpochScan.urls = requestedUrls es := by
  induction count generalizing epoch es slots with
  | zero =>
    obtain ⟨rfl, ended⟩ := runs_run_pure_iff.1 run
    cases ended
    exact ⟨[], rfl, rfl, rfl⟩
  | succ count ih =>
    rw [scanFrom] at run
    obtain ⟨own, rest, slots, rfl, scanned, next⟩ := runs_run_bind_ok_iff.1 run
    obtain ⟨slots', later, rfl⟩ := runs_run_map_ok_iff.1 next
    rw [answeredByUrl_append_iff] at answered
    obtain ⟨s, hs, rfl, urls⟩ := exists_epochScan_of_runs scanned answered.1
    obtain ⟨scans, epochs, rfl, urls'⟩ := ih later answered.2
    refine ⟨s :: scans, ?_, rfl, ?_⟩
    · rw [List.map_cons, epochsFrom_succ, epochs, hs]
    · rw [requestedUrls_append, List.flatMap_cons, urls, urls']

/-! ### Two scans -/

lemma agree_slotOfDuty {duty : Json.Value} :
    Agree web (slotOfDuty api validators duty).run (slotOfDuty api validators duty).run := by
  refine Agree.run_bind Agree.run_orElse fun key => ?_
  cases validators.find? key with
  | none => exact Agree.done
  | some validator =>
    refine Agree.run_bind Agree.run_orElse fun number => ?_
    refine Agree.run_bind (Agree.run_withError agree_blockOfSlot) fun block? => ?_
    cases block? with
    | none => exact Agree.run_bind Agree.run_say fun _ => Agree.done
    | some block =>
      dsimp only
      split
      · exact Agree.done
      · exact Agree.run_bind Agree.run_say fun _ => Agree.done

lemma agree_scanEpoch {epoch : Int} :
    Agree web (scanEpoch api validators epoch).run (scanEpoch api validators epoch).run := by
  refine Agree.run_clock_bind fun start start' => ?_
  refine Agree.run_bind Agree.run_say fun _ => ?_
  refine Agree.run_bind (Agree.run_withError agree_proposerDuties) fun data => ?_
  refine Agree.run_bind Agree.run_orElse fun duties => ?_
  refine Agree.run_bind ?_ fun slots => ?_
  · exact Agree.run_bind (Agree.run_mapM fun _ => agree_slotOfDuty) fun _ => Agree.done
  · refine Agree.run_clock_bind fun finished finished' => ?_
    exact Agree.run_bind Agree.run_say fun _ => Agree.done

/-- Two scans of the same epochs find and ask the same, if the web answers alike. -/
theorem agree_scanFrom {epoch : Int} {count : Nat} :
    Agree web (scanFrom api validators epoch count).run
      (scanFrom api validators epoch count).run := by
  induction count generalizing epoch with
  | zero => exact Agree.done
  | succ count ih =>
    exact Agree.run_bind agree_scanEpoch fun slots => Agree.run_bind ih fun _ => Agree.done

/-- To scan epochs in two parts is to scan them. -/
lemma scanFrom_add {epoch : Int} {count later : Nat} :
    scanFrom api validators epoch (count + later) = (do
      let slots ← scanFrom api validators epoch count
      return slots ++ (← scanFrom api validators (epoch + count) later)) := by
  induction count generalizing epoch with
  | zero => simp [scanFrom]
  | succ count ih =>
    have hlater : epoch + 1 + count = epoch + (count + 1 : Nat) := by omega
    rw [Nat.add_right_comm, scanFrom, scanFrom, ih, hlater]
    simp only [LawfulMonad.bind_assoc, pure_bind, List.append_assoc]

end StakeRegistry.OptIn
