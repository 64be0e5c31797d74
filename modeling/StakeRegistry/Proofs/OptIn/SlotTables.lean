/-
Tables of slots that are written, read and checked.

A row of a slot is read as the slot (`Slot.ofRecord_row`), so that a table of slots is read as it
was written as long as its texts are kept (`runs_exportSlots`, `runs_loadSlots`). Of rows with one
block the last one stays (`find?_underBlocks`). What is reported of slots is one row for each of
them, by their numbers (`runs_report`).
-/
import Mathlib.Data.List.Induction
import StakeRegistry.OptIn.Missed
import StakeRegistry.Proofs.Keyed
import StakeRegistry.Proofs.OptIn.Report
import StakeRegistry.Proofs.OptIn.TableFiles

namespace StakeRegistry.OptIn

open Program FileTree Analytics

variable {ss : List Slot} {s : Slot} {rows : List (List String)}
  {header : List String} {path : Path} {slots : Keyed Int Slot} {commits : Keyed Int OpenedCommit}
  {t t' : FileTree} {trace : List (Event Host)} {block : Int}

/-! ### Rows -/

/-- The numbers of a slot can be read once they are written. -/
structure Slot.IsReadable (s : Slot) : Prop where
  number : Numeral.IsReadable s.number
  block : Numeral.IsReadable s.block
  optIn : Numeral.IsReadable s.validator.block

/-- The texts in the row of a slot. -/
def Slot.texts (s : Slot) : List String :=
  [s.validator.pubkey, s.validator.kind, s.validator.podOwner, s.validator.vault,
    s.validator.operator, s.validator.withdrawalAddress]

/-- The row of a slot is read as the slot. -/
lemma Slot.ofRecord_row (h : s.IsReadable) : Slot.ofRecord s.row = .ok (some s) := by
  rw [Slot.row, Validator.row, Slot.ofRecord, readInteger_toString h.number,
    readInteger_toString h.block, readInteger_toString h.optIn]
  rfl

lemma Slot.isReadable_of_ofRecord {row : List String} (h : Slot.ofRecord row = .ok (some s)) :
    s.IsReadable := by
  rw [Slot.ofRecord.eq_def] at h
  split at h
  · obtain ⟨number, readNumber, h⟩ := bind_eq_ok_iff.1 h
    obtain ⟨block, readBlock, h⟩ := bind_eq_ok_iff.1 h
    obtain ⟨optIn, readOptIn, h⟩ := bind_eq_ok_iff.1 h
    obtain rfl := Option.some.inj (Except.ok.inj h)
    exact ⟨isReadable_of_readInteger readNumber, isReadable_of_readInteger readBlock,
      isReadable_of_readInteger readOptIn⟩
  · cases h

/-- The fields of a row are kept exactly if its texts are. -/
lemma Slot.isKept_row_iff (h : s.IsReadable) :
    (∀ f ∈ s.row, Csv.IsKept f) ↔ ∀ text ∈ s.texts, Csv.IsKept text := by
  simp only [Slot.row, Validator.row, Slot.texts, List.forall_mem_cons, isKept_toString h.number,
    isKept_toString h.block, isKept_toString h.optIn, true_and]

/-! ### Slots under their blocks -/

/-- Slots under their blocks, a later one in the place of an earlier one. -/
def underBlocks (ss : List Slot) : Keyed Int Slot :=
  ss.foldl (fun m s => m.put s.block s) []

/-- The last of some slots with a block. -/
def lastWith? (ss : List Slot) (block : Int) : Option Slot :=
  (ss.filter fun s => s.block = block).getLast?

/-- Under a block stands the last slot with it. -/
lemma find?_underBlocks : (underBlocks ss).find? block = lastWith? ss block :=
  Keyed.find?_foldl_put Slot.block ss

lemma nodup_keys_underBlocks : (underBlocks ss).keys.Nodup :=
  Keyed.nodup_keys_foldl_put Slot.block ss

lemma mem_underBlocks_iff : (block, s) ∈ underBlocks ss ↔ lastWith? ss block = some s := by
  rw [← Keyed.find?_eq_some_iff nodup_keys_underBlocks, find?_underBlocks]

lemma block_of_lastWith? (h : lastWith? ss block = some s) : s ∈ ss ∧ s.block = block := by
  simpa using List.mem_filter.1 (List.mem_of_getLast? h)

/-- Slots with distinct blocks stand under their blocks in their order. -/
lemma underBlocks_of_nodup (distinct : (ss.map Slot.block).Nodup) :
    underBlocks ss = ss.map fun s => (s.block, s) :=
  Keyed.foldl_put_of_nodup Slot.block distinct

/-! ### Reading a table -/

lemma slotsOfRows_eq {file : String} {line : Nat} {found : Keyed Int Slot}
    (each : List.Forall₂ (fun row s => Slot.ofRecord row = .ok (some s)) rows ss) :
    slotsOfRows file found line rows = .ok (ss.foldl (fun m s => m.put s.block s) found) := by
  induction each generalizing found line with
  | nil => rfl
  | cons own _ ih =>
    rw [slotsOfRows, own]
    exact ih

lemma local_loadSlots : Uses IsLocal (loadSlots path).run :=
  local_reading fun _ => uses_run_bind Act.uses_orElse fun _ =>
    uses_run_bind local_checkStopped fun _ =>
    uses_run_bind (Act.uses_ask trivial) fun _ => uses_run_pure

lemma looks_loadSlots : Uses Looks (loadSlots path).run :=
  local_loadSlots.mono fun _ => IsLocal.looks

/-- What a table gives is what its rows behind the header give. -/
lemma runs_loadSlots {r : Except TableError (Keyed Int Slot)} {bytes : ByteArray}
    (run : Runs (loadSlots path).run trace r) (answers : ∀ e ∈ trace, t.Answers e)
    (held : t.read path = .ok bytes)
    (read : Csv.records (.ofBytes bytes) = { records := header :: rows }) :
    r = slotsOfRows path.text [] 2 rows := by
  obtain ⟨rest, rfl, afterHeader⟩ := runs_reading run answers held read
  rw [List.tail_cons] at afterHeader
  rcases found : slotsOfRows path.text [] 2 rows with e | slots <;> rw [found] at afterHeader
  · exact (runs_run_throw_iff.1 afterHeader).2
  · exact (Act.runs_say_pure_iff.1 afterHeader).2

/-! ### Writing a table -/

/-- The slots are written in their order, unless the files refuse it. -/
lemma runs_exportSlots {r : Except TableError Unit} (run : Runs (exportSlots path ss).run trace r)
    (files : OnFiles t trace t') :
    (r = .ok () ∧ t'.read path =
      .ok (Csv.ofRecords (slotHeader :: (ss.mergeSort Slot.before).map Slot.row)).toUTF8) ∨
      ∃ f, r = .error (.file f) := by
  rw [exportSlots] at run
  obtain ⟨⟨⟩, rest, rfl, afterLine⟩ := Act.runs_ask_bind_iff.1 run
  obtain ⟨time, -, -, writing⟩ := onFiles_cons_iff.1 files
  rcases runs_writeTable_say afterLine writing with ⟨done, held, -⟩ | refused
  · exact .inl ⟨done, held⟩
  · exact .inr refused

/-! ### Reports -/

/-- The row of a slot in a report. -/
def reportRow (commits : Keyed Int OpenedCommit) (s : Slot) : List String :=
  s.row ++ [if (commits.find? s.block).isSome then "false" else "true"]

/-- The slots are in the report in the file, and it is told how many of them are missed. -/
structure Reported (t : FileTree) (path : Path) (commits : Keyed Int OpenedCommit) (ss : List Slot)
    (trace : List (Event Host)) : Prop where
  sorted : ss.Pairwise fun s u => s.number ≤ u.number
  rows : ∃ bytes, t.read path = .ok bytes ∧
    Csv.records (.ofBytes bytes) = { records := checkedHeader :: ss.map (reportRow commits) }
  told : trace.getLast? = some ⟨.say ("Wrote " ++ toString ss.length ++ " slots (" ++
    toString ((ss.map (reportRow commits)).countP fun row => row.getLast? = some "true") ++
    " missed) to " ++ path.text), ()⟩

/-- The findings about slots. -/
def checkedSlots (commits : Keyed Int OpenedCommit) (slots : Keyed Int Slot) : List CheckedSlot :=
  slots.map fun p => ⟨p.2, isMissed commits p.1⟩

lemma row_checked : CheckedSlot.row ⟨s, isMissed commits s.block⟩ = reportRow commits s := by
  rw [CheckedSlot.row, reportRow, isMissed]
  cases commits.find? s.block <;> rfl

/-- Checking slots gives a finding for each of them, by their numbers, and leaves the files. -/
lemma runs_markMissed {r : Except TableError (List CheckedSlot)}
    (run : Runs (markMissed slots commits).run trace r) :
    r = .ok (checkedSlots commits (bySlot slots)) ∧ ∀ e ∈ trace, NotOnFiles e.1 := by
  rw [markMissed, checkedSlots] at *
  generalize bySlot slots = sorted at run ⊢
  induction sorted generalizing trace r with
  | nil =>
    obtain ⟨rfl, rfl⟩ := runs_run_pure_iff.1 run
    exact ⟨rfl, List.forall_mem_nil _⟩
  | cons p sorted ih =>
    rw [List.mapM_cons] at run
    rcases runs_run_bind_iff.1 run with ⟨e, rfl, failed⟩ | ⟨own, rest, c, rfl, checked, afterFirst⟩
    · cases (Act.runs_say_pure_iff.1 failed).2
    obtain ⟨rfl, hc⟩ := Act.runs_say_pure_iff.1 checked
    obtain rfl := Except.ok.inj hc
    obtain ⟨x, others, rfl⟩ := runs_run_map_iff.1 afterFirst
    obtain ⟨rfl, silent⟩ := ih others
    exact ⟨rfl, List.forall_mem_cons.2 ⟨trivial, silent⟩⟩

lemma pairwise_bySlot : (bySlot slots).Pairwise fun p q => p.2.number ≤ q.2.number := by
  have trans (p q u : Int × Slot) (h : decide (p.2.number ≤ q.2.number) = true)
      (h' : decide (q.2.number ≤ u.2.number) = true) : decide (p.2.number ≤ u.2.number) = true := by
    rw [decide_eq_true_eq] at h h' ⊢
    exact Int.le_trans h h'
  have total (p q : Int × Slot) :
      (decide (p.2.number ≤ q.2.number) || decide (q.2.number ≤ p.2.number)) = true := by
    rw [Bool.or_eq_true, decide_eq_true_eq, decide_eq_true_eq]
    exact Int.le_total _ _
  exact (List.pairwise_mergeSort trans total slots).imp of_decide_eq_true

lemma length_filter_missed :
    ((checkedSlots commits slots).filter CheckedSlot.missed).length =
      ((checkedSlots commits slots).map CheckedSlot.row).countP fun row =>
      row.getLast? = some "true" := by
  rw [← List.countP_eq_length_filter, List.countP_map]
  refine congrArg (fun p => List.countP p _) (funext fun c => ?_)
  cases h : c.missed <;> simp [CheckedSlot.row, h]

lemma isKept_reportRow (kept : ∀ f ∈ s.row, Csv.IsKept f) :
    ∀ f ∈ reportRow commits s, Csv.IsKept f := by
  intro f mem
  rcases List.mem_append.1 mem with mem | mem
  · exact kept f mem
  · rw [List.mem_singleton.1 mem]
    split <;> exact ⟨by decide, by decide⟩

/-- A report has a row for each slot, by their numbers, unless the files refuse it. -/
lemma runs_report {r : Except TableError Unit} (own : ∀ p ∈ slots, p.1 = p.2.block)
    (kept : ∀ p ∈ slots, ∀ f ∈ p.2.row, Csv.IsKept f)
    (run : Runs (markMissed slots commits >>= exportChecked path).run trace r)
    (files : OnFiles t trace t') :
    (r = .ok () ∧ Reported t' path commits ((bySlot slots).map Prod.snd) trace) ∨
      ∃ f, r = .error (.file f) := by
  have perm : (bySlot slots).Perm slots := List.mergeSort_perm _ _
  rcases runs_run_bind_iff.1 run with
    ⟨e, rfl, failed⟩ | ⟨first, rest, cs, rfl, checked, afterChecked⟩
  · cases (runs_markMissed failed).1
  obtain ⟨found, silent⟩ := runs_markMissed checked
  obtain rfl := Except.ok.inj found
  obtain ⟨between, -, writing⟩ := onFiles_append_iff.1 files
  have rows : (checkedSlots commits (bySlot slots)).map CheckedSlot.row =
      ((bySlot slots).map Prod.snd).map (reportRow commits) := by
    rw [checkedSlots, List.map_map, List.map_map]
    refine List.map_congr_left fun p mem => ?_
    simp only [Function.comp, own p (perm.mem_iff.1 mem), row_checked]
  rcases runs_writeTable_say afterChecked writing with ⟨done, held, told⟩ | refused
  · refine .inl ⟨done, ?_, ⟨_, held, ?_⟩, ?_⟩
    · exact List.pairwise_map.2 pairwise_bySlot
    · rw [SeenText.ofBytes_toUTF8, rows]
      refine Csv.records_ofRecords (List.forall_mem_cons.2 ⟨isKept_checkedHeader, ?_⟩)
      simp only [List.forall_mem_map]
      exact fun p mem => isKept_reportRow (kept p (perm.mem_iff.1 mem))
    · have count :
        (checkedSlots commits (bySlot slots)).length = ((bySlot slots).map Prod.snd).length := by
        rw [checkedSlots, List.length_map, List.length_map]
      rw [List.getLast?_append, told, count, length_filter_missed, rows]
      rfl
  · exact .inr refused

/-! ### Tables that are written -/

lemma exists_runs_exportSlots {parts : List String} (path : Path) (ss : List Slot)
    (located : t.locate path = .ok parts) (file : t.find? parts ≠ some .directory) :
    ∃ trace, Runs (exportSlots path ss).run trace (.ok ()) ∧ OnFiles t trace (t.putNode parts
      (.file (Csv.ofRecords (slotHeader :: (ss.mergeSort Slot.before).map Slot.row)).toUTF8
        t.clock)) := by
  obtain ⟨trace, run, files⟩ := exists_runs_writeTable_say path slotHeader
    ((ss.mergeSort Slot.before).map Slot.row)
    ("Exported " ++ toString ss.length ++ " opted-in slots to " ++ path.text) located file
  exact ⟨_ :: trace, Act.runs_ask_bind_iff.2 ⟨(), trace, rfl, run⟩,
    .cons (Int.le_refl _) trivial files⟩

lemma exists_runs_report {parts : List String} (path : Path) (slots : Keyed Int Slot)
    (commits : Keyed Int OpenedCommit) (located : t.locate path = .ok parts)
    (file : t.find? parts ≠ some .directory) :
    ∃ trace t', Runs (markMissed slots commits >>= exportChecked path).run trace (.ok ()) ∧
      OnFiles t trace t' := by
  have checking := runs_trace (Host.onTree NodeCall.offline)
    (markMissed slots commits : Act TableError (List CheckedSlot)).run t
  obtain ⟨found, silent⟩ := runs_markMissed checking
  rw [found] at checking
  have quiet : OnFiles t _ t :=
    onFiles_of_looks (fun e he => (silent e he).looks) fun e he =>
      answers_of_notOnFiles (silent e he)
  obtain ⟨trace, run, files⟩ := exists_runs_writeTable_say path checkedHeader _ _ located file
  exact ⟨_, _, runs_run_bind_iff.2 (.inr ⟨_, trace, _, rfl, checking, run⟩),
    onFiles_append_iff.2 ⟨t, quiet, files⟩⟩

/-! ### From one table to the other -/

/-- A table of slots is read as it was written exactly if its texts are kept. -/
lemma records_slotTable_iff (readable : ∀ s ∈ ss, s.IsReadable) :
    Csv.records (.ofBytes (Csv.ofRecords (slotHeader :: ss.map Slot.row)).toUTF8) =
      { records := slotHeader :: ss.map Slot.row } ↔
      ∀ s ∈ ss, ∀ text ∈ s.texts, Csv.IsKept text := by
  exact records_table_iff isKept_slotHeader fun s mem => Slot.isKept_row_iff (readable s mem)

lemma forall₂_ofRecord_row (readable : ∀ s ∈ ss, s.IsReadable) :
    List.Forall₂ (fun row s => Slot.ofRecord row = .ok (some s)) (ss.map Slot.row) ss := by
  rw [List.forall₂_map_left_iff, List.forall₂_same]
  exact fun s mem => Slot.ofRecord_row (readable s mem)

lemma readable_of_forall₂
    (each : List.Forall₂ (fun row s => Slot.ofRecord row = .ok (some s)) rows ss) :
    ∀ s ∈ ss, s.IsReadable := by
  induction each with
  | nil => exact List.forall_mem_nil _
  | cons own _ ih => exact List.forall_mem_cons.2 ⟨Slot.isReadable_of_ofRecord own, ih⟩

/-- Slots are kept from one table to the other, but for texts with a carriage return that are not
put between quotes.

* The rows of a table are read as they were written exactly if the texts in them are kept.
* Slots with kept texts and distinct blocks are loaded as they were exported, each under its own
  block.
* A report on a table has one row for each block in it, that of the last row with this block, by the
  numbers of the slots. A row is marked as missed exactly if there is no commitment for its block,
  and the number of rows that are marked is told. -/
theorem slots_kept_and_reported (ss : List Slot) (path : Path) :
    ((∀ s ∈ ss, s.IsReadable) →
      (Csv.records (.ofBytes (Csv.ofRecords (slotHeader :: ss.map Slot.row)).toUTF8) =
        { records := slotHeader :: ss.map Slot.row } ↔
        ∀ s ∈ ss, ∀ text ∈ s.texts, Csv.IsKept text)) ∧
    (∀ {t t' : FileTree} {trace : List (Event Host)} {r : Except TableError Unit},
      (∀ s ∈ ss, s.IsReadable) → (∀ s ∈ ss, ∀ text ∈ s.texts, Csv.IsKept text) →
      (ss.map Slot.block).Nodup → Runs (exportSlots path ss).run trace r → OnFiles t trace t' →
      (∃ f, r = .error (.file f)) ∨ r = .ok () ∧
        ∀ {later later' : FileTree} {trace' : List (Event Host)}
          {r' : Except TableError (Keyed Int Slot)},
          later.read path = t'.read path → Runs (loadSlots path).run trace' r' →
            OnFiles later trace' later' →
            r' = .ok ((ss.mergeSort Slot.before).map fun s => (s.block, s))) ∧
    ∀ {header : List String} {rows : List (List String)} {output : Path}
        {commits : Keyed Int OpenedCommit} {bytes : ByteArray} {t t' : FileTree}
        {trace : List (Event Host)} {r : Except TableError (Keyed Int Slot)},
        t.read path = .ok bytes → Csv.records (.ofBytes bytes) = { records := header :: rows } →
      List.Forall₂ (fun row s => Slot.ofRecord row = .ok (some s)) rows ss →
      (∀ s ∈ ss, ∀ text ∈ s.texts, Csv.IsKept text) →
      Runs (loadSlots path).run trace r → OnFiles t trace t' → ∃ slots, r = .ok slots ∧
        ∀ {later later' : FileTree} {trace' : List (Event Host)} {r' : Except TableError Unit},
          Runs (markMissed slots commits >>= exportChecked output).run trace' r' →
          OnFiles later trace' later' → (∃ f, r' = .error (.file f)) ∨ r' = .ok () ∧
            ∃ reported, Reported later' output commits reported trace' ∧
              (reported.map Slot.block).Nodup ∧
              (∀ s, s ∈ reported ↔ lastWith? ss s.block = some s) ∧
              ((ss.map Slot.block).Nodup → reported.Perm ss) := by
  refine ⟨records_slotTable_iff, ?_, ?_⟩
  · intro t t' trace r readable kept distinct run files
    rcases runs_exportSlots run files with ⟨rfl, held⟩ | refused
    · refine .inr ⟨rfl, fun {later later' trace' r'} still run' files' => ?_⟩
      have perm := List.mergeSort_perm ss Slot.before
      have readable' : ∀ s ∈ ss.mergeSort Slot.before, s.IsReadable :=
        fun s mem => readable s (perm.mem_iff.1 mem)
      have kept' : ∀ s ∈ ss.mergeSort Slot.before, ∀ text ∈ s.texts, Csv.IsKept text :=
        fun s mem => kept s (perm.mem_iff.1 mem)
      obtain ⟨answers, -⟩ := answers_of_looks files' (allowed_of_runs looks_loadSlots run')
      have loaded := runs_loadSlots run' answers (still.trans held)
        ((records_slotTable_iff readable').2 kept')
      rw [loaded, slotsOfRows_eq (forall₂_ofRecord_row readable')]
      exact congrArg Except.ok (underBlocks_of_nodup ((perm.map Slot.block).nodup_iff.2 distinct))
    · exact .inl refused
  · intro header rows output commits bytes t t' trace r held read each kept run files
    obtain ⟨answers, -⟩ := answers_of_looks files (allowed_of_runs looks_loadSlots run)
    have loaded := runs_loadSlots run answers held read
    rw [slotsOfRows_eq each] at loaded
    refine ⟨underBlocks ss, loaded, fun {later later' trace' r'} run' files' => ?_⟩
    -- every slot stands under its own block, and is one of the table
    have own : ∀ p ∈ underBlocks ss, p.2 ∈ ss ∧ p.2.block = p.1 :=
      fun p mem => block_of_lastWith? (mem_underBlocks_iff.1 mem)
    have keptRows : ∀ p ∈ underBlocks ss, ∀ f ∈ p.2.row, Csv.IsKept f := by
      intro p mem
      have inside := (own p mem).1
      exact (Slot.isKept_row_iff (readable_of_forall₂ each _ inside)).2 (kept _ inside)
    rcases runs_report (fun p mem => ((own p mem).2).symm) keptRows run' files' with
      ⟨rfl, reported⟩ | refused
    · have perm : ((bySlot (underBlocks ss)).map Prod.snd).Perm ((underBlocks ss).map Prod.snd) :=
        (List.mergeSort_perm _ _).map _
      refine .inr ⟨rfl, _, reported, ?_, fun s => ?_, fun distinct => ?_⟩
      · have keys : ((underBlocks ss).map Prod.snd).map Slot.block = (underBlocks ss).keys := by
          rw [List.map_map]
          exact List.map_congr_left fun p mem => (own p mem).2
        rw [(perm.map Slot.block).nodup_iff, keys]
        exact nodup_keys_underBlocks
      · rw [perm.mem_iff, List.mem_map, ← mem_underBlocks_iff]
        constructor
        · rintro ⟨p, mem, rfl⟩
          exact (own p mem).2 ▸ mem
        · exact fun mem => ⟨_, mem, rfl⟩
      · have all : (underBlocks ss).map Prod.snd = ss := by
          rw [underBlocks_of_nodup distinct, List.map_map]
          exact List.map_id ss
        rwa [all] at perm
    · exact .inl refused

/-- A slot of a validator whose kind is the given text. -/
def slotOfKind (number block : Int) (kind : String) : Slot :=
  ⟨number, block, ⟨"aa", 1, kind, "p", "v", "o", "w"⟩⟩

/-- A slot whose kind stands between quotes, an earlier one of the same block, and one of another
block. -/
def threeSlots : List Slot :=
  [slotOfKind 10 100 "Va,\r\nnilla", slotOfKind 9 100 "Vanilla", slotOfKind 11 101 "Vanilla"]

lemma threeSlots_kept : (∀ s ∈ threeSlots, s.IsReadable) ∧
    ∀ s ∈ threeSlots, ∀ text ∈ s.texts, Csv.IsKept text := by
  have small : ∀ s ∈ threeSlots,
      s.number.natAbs < 1000 ∧ s.block.natAbs < 1000 ∧ s.validator.block.natAbs < 1000 := by decide
  refine ⟨fun s mem => ?_, by decide⟩
  obtain ⟨number, block, optIn⟩ := small s mem
  exact ⟨isReadable_of_lt number, isReadable_of_lt block, isReadable_of_lt optIn⟩

/-- The slots are read as they were written. Those with distinct blocks are loaded as they were
exported. A report on all of them is on the last one with each block. -/
theorem slots_kept_and_reported_of_threeSlots :
    Csv.records (.ofBytes (Csv.ofRecords (slotHeader :: threeSlots.map Slot.row)).toUTF8) =
      { records := slotHeader :: threeSlots.map Slot.row } ∧
    (∃ t', ((loadSlots (Path.ofText "a")).run.run (Host.onTree NodeCall.offline) t').1 =
      .ok [(100, slotOfKind 9 100 "Vanilla"), (101, slotOfKind 11 101 "Vanilla")]) ∧
    ∃ t' trace reported,
      Reported t' (Path.ofText "a") [(101, ⟨101, .int 1, .int 2⟩)] reported trace ∧
      slotOfKind 9 100 "Vanilla" ∈ reported ∧ slotOfKind 11 101 "Vanilla" ∈ reported ∧
      slotOfKind 10 100 "Va,\r\nnilla" ∉ reported := by
  obtain ⟨readable, kept⟩ := threeSlots_kept
  have free : ({ nodes := [] } : FileTree).find? ["a"] ≠ some .directory := nofun
  have rows := ((slots_kept_and_reported threeSlots (Path.ofText "a")).1 readable).2 kept
  refine ⟨rows, ?_, ?_⟩
  · have tail : ∀ s ∈ threeSlots.tail, s ∈ threeSlots := fun s => List.mem_of_mem_tail
    have readableTail : ∀ s ∈ threeSlots.tail, s.IsReadable := fun s mem => readable s (tail s mem)
    have keptTail : ∀ s ∈ threeSlots.tail, ∀ text ∈ s.texts, Csv.IsKept text :=
      fun s mem => kept s (tail s mem)
    obtain ⟨trace, run, files⟩ :=
      exists_runs_exportSlots (Path.ofText "a") threeSlots.tail emptyTree_located free
    rcases (slots_kept_and_reported threeSlots.tail (Path.ofText "a")).2.1 readableTail
        keptTail (by decide) run files with ⟨f, refused⟩ | ⟨-, loads⟩
    · cases refused
    · have sorted : threeSlots.tail.mergeSort Slot.before = threeSlots.tail :=
        List.mergeSort_of_pairwise (by decide)
      refine ⟨_, (loads rfl (runs_trace _ _ _) (onFiles_trace _ _ _)).trans ?_⟩
      rw [sorted]
      rfl
  · let t : FileTree := ({ nodes := [] } : FileTree).putNode ["a"]
      (.file (Csv.ofRecords (slotHeader :: threeSlots.map Slot.row)).toUTF8 0)
    have held : t.read (Path.ofText "a") = .ok _ :=
      read_eq_ok_iff.2 ⟨["a"], 0, locate_of_keeps (keeps_putNode free) emptyTree_located, rfl⟩
    have loading := runs_trace (Host.onTree NodeCall.offline) (loadSlots (Path.ofText "a")).run t
    obtain ⟨slots, -, report⟩ :=
      (slots_kept_and_reported threeSlots (Path.ofText "a")).2.2 held rows
      (forall₂_ofRecord_row readable) kept loading (onFiles_trace _ _ _)
    obtain ⟨trace, t', run, files⟩ := exists_runs_report (Path.ofText "a") slots
      [(101, ⟨101, .int 1, .int 2⟩)] emptyTree_located free
    rcases report run files with ⟨f, refused⟩ | ⟨-, reported, isReport, -, members, -⟩
    · cases refused
    · exact ⟨t', trace, reported, isReport, (members _).2 (by decide), (members _).2 (by decide),
        fun mem => absurd ((members _).1 mem) (by decide)⟩

/-- A text with a carriage return alone is not kept: the record ends there, and the table cannot be
loaded. -/
theorem exported_slot_not_loaded :
    ¬ ∀ {ss : List Slot} {path : Path} {t t' later later' : FileTree}
        {trace trace' : List (Event Host)} {r : Except TableError (Keyed Int Slot)},
        (∀ s ∈ ss, s.IsReadable) →
      (∀ s ∈ ss, ∀ text ∈ s.texts, text.length ≤ Csv.maxField) → (ss.map Slot.block).Nodup →
      Runs (exportSlots path ss).run trace (.ok ()) → OnFiles t trace t' →
      later.read path = t'.read path →
      Runs (loadSlots path).run trace' r → OnFiles later trace' later' →
        r = .ok ((ss.mergeSort Slot.before).map fun s => (s.block, s)) := by
  intro loads
  have free : ({ nodes := [] } : FileTree).find? ["a"] ≠ some .directory := nofun
  let ss := [slotOfKind 10 100 "Va\rnilla"]
  let t' := ({ nodes := [] } : FileTree).putNode ["a"]
    (.file (Csv.ofRecords (slotHeader :: (ss.mergeSort Slot.before).map Slot.row)).toUTF8 0)
  obtain ⟨trace, run, files⟩ := exists_runs_exportSlots (Path.ofText "a") ss emptyTree_located free
  have readable : ∀ s ∈ ss, s.IsReadable := by
    refine List.forall_mem_singleton.2 ⟨?_, ?_, ?_⟩ <;> exact isReadable_of_lt (by decide)
  have loading := runs_trace (Host.onTree NodeCall.offline) (loadSlots (Path.ofText "a")).run t'
  have expected :=
    loads readable (by decide) (by decide) run files rfl loading (onFiles_trace _ _ _)
  -- the table has two records for the one slot
  have held : t'.read (Path.ofText "a") = .ok _ :=
    read_eq_ok_iff.2 ⟨["a"], 0, locate_of_keeps (keeps_putNode free) emptyTree_located, rfl⟩
  have read : Csv.records (.ofBytes (Csv.ofRecords (slotHeader ::
      (ss.mergeSort Slot.before).map Slot.row)).toUTF8) =
        { records :=
          slotHeader :: [["10", "100", "aa", "1", "Va"], ["nilla", "p", "v", "o", "w"]] } := by
    rw [SeenText.ofBytes_toUTF8, List.mergeSort_singleton]
    decide +kernel
  obtain ⟨answers, -⟩ :=
    answers_of_looks (onFiles_trace _ _ t') (allowed_of_runs looks_loadSlots loading)
  rw [runs_loadSlots loading answers held read] at expected
  cases expected

end StakeRegistry.OptIn
