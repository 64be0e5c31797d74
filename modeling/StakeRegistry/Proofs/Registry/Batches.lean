/-
How a list is divided into batches.

`Divides xs size batches` says that the batches are the list in pieces: nothing is lost, added or
moved, no batch is empty or longer than the size, and only the last one may be shorter. Any list can
be divided for a positive size, and for no other (`splitBatches_eq_none_iff`).
-/
import Mathlib.Data.List.Basic
import Mathlib.Tactic.Lemma
import StakeRegistry.Registry.Batches

namespace StakeRegistry.Registry

variable {α : Type} {n : Nat} {size : Int} {xs piece : List α} {batches : List (List α)}

/-- The batches are the list in pieces of the size, the last of them perhaps shorter. -/
structure Divides (xs : List α) (size : Int) (batches : List (List α)) : Prop where
  flatten_eq : batches.flatten = xs
  length : ∀ b ∈ batches, 1 ≤ b.length ∧ (b.length : Int) ≤ size
  full : ∀ b ∈ batches.dropLast, (b.length : Int) = size

lemma Divides.mem_of_mem (h : Divides xs size batches) {b : List α} {a : α} (hb : b ∈ batches)
    (ha : a ∈ b) : a ∈ xs :=
  h.flatten_eq ▸ List.mem_flatten.2 ⟨b, hb, ha⟩

lemma Divides.ne_nil (h : Divides xs size batches) (some_elements : xs ≠ []) : batches ≠ [] := by
  rintro rfl
  exact some_elements h.flatten_eq.symm

lemma length_of_mem_pieces (h : piece ∈ pieces n xs) : 1 ≤ piece.length ∧ piece.length ≤ n + 1 := by
  fun_induction pieces n xs with
  | case1 => simp at h
  | case2 a r ih =>
    rcases List.mem_cons.1 h with rfl | later
    · rw [List.length_cons, List.length_take]
      omega
    · exact ih later

lemma pieces_ne_nil (h : xs ≠ []) : pieces n xs ≠ [] := by
  fun_cases pieces n xs with
  | case1 => exact absurd rfl h
  | case2 a r => exact List.cons_ne_nil _ _

/-- A piece that is followed by another one is full. -/
lemma length_of_mem_dropLast_pieces (h : piece ∈ (pieces n xs).dropLast) :
    piece.length = n + 1 := by
  fun_induction pieces n xs with
  | case1 => simp at h
  | case2 a r ih =>
    by_cases more : r.drop n = []
    · simp [more, pieces] at h
    · rw [List.dropLast_cons_of_ne_nil (pieces_ne_nil more)] at h
      rcases List.mem_cons.1 h with rfl | later
      · have long : n < r.length := by simpa using more
        rw [List.length_cons, List.length_take]
        omega
      · exact ih later

lemma splitBatches_eq_none_iff : splitBatches xs size = none ↔ size ≤ 0 := by
  unfold splitBatches
  split <;> simp <;> omega

lemma size_pos_of_splitBatches (h : splitBatches xs size = some batches) : 0 < size := by
  refine Int.not_le.1 fun le => ?_
  rw [splitBatches_eq_none_iff.2 le] at h
  cases h

lemma divides_of_splitBatches (h : splitBatches xs size = some batches) :
    Divides xs size batches := by
  unfold splitBatches at h
  split at h
  · cases h
  next n hn =>
    obtain rfl : pieces n xs = batches := Option.some.inj h
    refine ⟨flatten_pieces n xs, fun b hb => ?_, fun b hb => ?_⟩
    · have := length_of_mem_pieces hb
      omega
    · have := length_of_mem_dropLast_pieces hb
      omega

end StakeRegistry.Registry
