/-
Lists of values under keys.

The keys stand in the order of their first appearance. `put` replaces the value of a key in its
place and adds a new key at the end; `erase` takes a key out, so that putting it again adds it at
the end.
-/
namespace StakeRegistry

/-- Values under keys, in the order in which the keys first appeared. -/
abbrev Keyed (κ α : Type) : Type := List (κ × α)

namespace Keyed

variable {κ α : Type} [DecidableEq κ]

/-- The value under a key. -/
def find? (key : κ) : Keyed κ α → Option α
  | [] => none
  | (k, v) :: r => if k = key then some v else find? key r

/-- Put a value under a key: in the place of the value that stood there, or else at the end. -/
def put (key : κ) (v : α) : Keyed κ α → Keyed κ α
  | [] => [(key, v)]
  | (k, w) :: r => if k = key then (key, v) :: r else (k, w) :: put key v r

/-- Take a key out. -/
def erase (key : κ) (m : Keyed κ α) : Keyed κ α :=
  m.filter fun p => p.1 ≠ key

/-- The keys, in their order. -/
def keys (m : Keyed κ α) : List κ :=
  m.map Prod.fst

@[simp] theorem find?_put_self (key : κ) (v : α) (m : Keyed κ α) :
    (m.put key v).find? key = some v := by
  induction m with
  | nil => simp [put, find?]
  | cons p r ih =>
    obtain ⟨k, w⟩ := p
    by_cases h : k = key <;> simp [put, find?, h, ih]

theorem find?_put_of_ne {key other : κ} (h : key ≠ other) (v : α) (m : Keyed κ α) :
    (m.put key v).find? other = m.find? other := by
  induction m with
  | nil => simp [put, find?, h]
  | cons p r ih =>
    obtain ⟨k, w⟩ := p
    by_cases hk : k = key
    · subst hk; simp [put, find?, h]
    · simp [put, find?, hk, ih]

@[simp] theorem find?_erase_self (key : κ) (m : Keyed κ α) : (m.erase key).find? key = none := by
  induction m with
  | nil => rfl
  | cons p r ih =>
    obtain ⟨k, w⟩ := p
    by_cases h : k = key
    · simpa [erase, h] using ih
    · simpa [erase, find?, h] using ih

theorem find?_erase_of_ne {key other : κ} (h : key ≠ other) (m : Keyed κ α) :
    (m.erase key).find? other = m.find? other := by
  induction m with
  | nil => rfl
  | cons p r ih =>
    obtain ⟨k, w⟩ := p
    by_cases hk : k = key
    · subst hk
      simpa [erase, find?, h] using ih
    · by_cases ho : k = other
      · subst ho; simp [erase, find?, hk]
      · simpa [erase, find?, hk, ho] using ih

end Keyed
end StakeRegistry
