/-
The table of slots that is written.

Slots with distinct numbers have one order in which each precedes those after it, by the block of
its validator and then by its number (`Slot.Precedes`). The table of such slots is therefore the
same in whatever order they were found (`writes_of_runs_exportSlots`,
`mergeSort_before_eq_of_perm`).
-/
import Mathlib.Data.List.Sort
import StakeRegistry.OptIn.Tables
import StakeRegistry.Proofs.Host.Acts

namespace StakeRegistry.OptIn

open Program

/-! ### The order of slots -/

/-- A slot precedes another: by the block of its validator, then by its number. -/
def Slot.Precedes (s t : Slot) : Prop :=
  s.validator.block < t.validator.block ∨ s.validator.block = t.validator.block ∧
    s.number < t.number

lemma Slot.before_iff {s t : Slot} : s.before t ↔ s.validator.block < t.validator.block ∨
    s.validator.block = t.validator.block ∧ s.number ≤ t.number := by
  simp [Slot.before]

lemma Slot.before_trans (s t u : Slot) (h : s.before t) (h' : t.before u) : s.before u := by
  rw [Slot.before_iff] at h h' ⊢
  omega

lemma Slot.before_total (s t : Slot) : s.before t || t.before s := by
  rw [Bool.or_eq_true, Slot.before_iff, Slot.before_iff]
  omega

/-- No two slots precede each other. -/
lemma Slot.Precedes.asymm {s t : Slot} (h : s.Precedes t) : ¬ t.Precedes s := by
  rw [Slot.Precedes] at h ⊢
  omega

/-- Sorted slots with distinct numbers precede one another. -/
lemma pairwise_precedes_mergeSort {slots : List Slot} (distinct : (slots.map Slot.number).Nodup) :
    (slots.mergeSort Slot.before).Pairwise Slot.Precedes := by
  have sorted := List.pairwise_mergeSort Slot.before_trans Slot.before_total slots
  -- sorting keeps the numbers distinct, which rules out the case of equal numbers
  have perm := (List.mergeSort_perm slots Slot.before).map Slot.number
  have distinct : (slots.mergeSort Slot.before).Pairwise fun s t => s.number ≠ t.number :=
    List.pairwise_map.1 (perm.nodup_iff.2 distinct)
  refine (sorted.and distinct).imp fun ⟨before, ne⟩ => ?_
  rw [Slot.before_iff] at before
  rw [Slot.Precedes]
  omega

/-- The order in which slots with distinct numbers are found does not matter once they are
sorted. -/
lemma mergeSort_before_eq_of_perm {slots slots' : List Slot} (perm : slots'.Perm slots)
    (distinct : (slots.map Slot.number).Nodup) :
    slots'.mergeSort Slot.before = slots.mergeSort Slot.before := by
  have distinct' : (slots'.map Slot.number).Nodup := (perm.map Slot.number).nodup_iff.2 distinct
  refine List.Perm.eq_of_pairwise (fun s t _ _ h h' => absurd h' h.asymm)
    (pairwise_precedes_mergeSort distinct') (pairwise_precedes_mergeSort distinct) ?_
  exact ((List.mergeSort_perm _ _).trans perm).trans (List.mergeSort_perm _ _).symm

/-! ### What is written -/

/-- The texts that are written to files, with their paths. -/
def writes (es : List (Event Host)) : List (Path × String) :=
  es.filterMap fun e =>
    match e.1 with
    | .file (.write path text) => some (path, text)
    | _ => none

lemma writes_of_runs_writeTable {path : Path} {header : List String} {rows : List (List String)}
    {es : List (Event Host)} {r : Except TableError Unit}
    (run : Runs (writeTable path header rows).run es r) :
    writes es = [(path, Csv.ofRecords (header :: rows))] := by
  obtain ⟨answer, rest, rfl, next⟩ := Act.runs_ask_bind_iff.1 run
  obtain ⟨rfl, -⟩ := Act.runs_orElse_iff.1 next
  rfl

/-- The table of slots is one text that is written to one file. -/
lemma writes_of_runs_exportSlots {path : Path} {slots : List Slot} {es : List (Event Host)}
    {r : Except TableError Unit} (run : Runs (exportSlots path slots).run es r) :
    writes es =
      [(path, Csv.ofRecords (slotHeader :: (slots.mergeSort Slot.before).map Slot.row))] := by
  rw [exportSlots] at run
  obtain ⟨⟨⟩, later, rfl, afterLine⟩ := Act.runs_ask_bind_iff.1 run
  change writes later = _
  rcases runs_run_bind_iff.1 afterLine with ⟨e, rfl, failed⟩ | ⟨own, _, _, rfl, written, afterTable⟩
  · exact writes_of_runs_writeTable failed
  · obtain ⟨⟨⟩, rfl, -⟩ := Act.runs_ask_iff.1 afterTable
    have table := writes_of_runs_writeTable written
    rw [writes, List.filterMap_append, ← writes, table]
    rfl

end StakeRegistry.OptIn
