/-
Dividing a list into batches.
-/
namespace StakeRegistry.Registry

variable {α : Type}

/-- The list in pieces of `n + 1` elements, the last of them perhaps shorter. -/
def pieces (n : Nat) : List α → List (List α)
  | [] => []
  | a :: r => (a :: r.take n) :: pieces n (r.drop n)
  termination_by xs => xs.length
  decreasing_by simp only [List.length_drop, List.length_cons]; omega

/-- No element is lost, added or moved. -/
theorem flatten_pieces (n : Nat) (xs : List α) : (pieces n xs).flatten = xs := by
  fun_induction pieces n xs with
  | case1 => rfl
  | case2 a r ih => simp [ih]

/-- Batches of a positive size. -/
def splitBatches (xs : List α) (size : Int) : Option (List (List α)) :=
  match size.toNat with
  | 0 => none
  | n + 1 => some (pieces n xs)

end StakeRegistry.Registry
