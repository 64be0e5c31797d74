/-
Integers as they are written in decimal.

An integer is written as its digits, behind a minus sign if it is negative. The digits are ASCII
digits, and the first of them is zero only for the number zero. The main statement is
`readInteger_toString`: an integer with no more digits than are read (`IsReadable`) is read as
itself.
-/
import Mathlib.Algebra.Group.Nat.Defs
import Mathlib.Data.List.Basic
import Mathlib.Data.List.TakeWhile
import Mathlib.Tactic.SplitIfs
import StakeRegistry.ReadError

namespace StakeRegistry

namespace Numeral

/-- An integer has at most as many digits as are read. -/
def IsReadable (i : Int) : Prop :=
  i.natAbs < 10 ^ maxDigits

/-- What can be read can be written, and the other way round. -/
lemma isWritable_iff {i : Int} : isWritable i = true ↔ IsReadable i := by
  have bound : leastTooLong = 10 ^ maxDigits := by
    unfold leastTooLong
    generalize maxDigits = digits
    exact Nat.pow_eq
  rw [isWritable, decide_eq_true_iff, bound, IsReadable]

/-- The digits of a natural number. -/
def digitsOf (n : Nat) : List Char :=
  Nat.toDigits 10 n

variable {n : Nat} {i : Int} {c : Char}

lemma toList_toString (i : Int) : (toString i).toList =
    if i < 0 then '-' :: digitsOf i.natAbs else digitsOf i.natAbs := by
  rw [Int.toString_eq_repr, Int.repr_eq_if]
  split_ifs with nonneg neg neg
  · omega
  · rw [Nat.toList_repr, digitsOf, show i.toNat = i.natAbs by omega]
  · rw [String.toList_append, Nat.toList_repr, digitsOf, show (-i).toNat = i.natAbs by omega]
    rfl
  · omega

lemma isDigit_of_mem (h : c ∈ digitsOf n) : c.isDigit = true :=
  Nat.isDigit_of_mem_toDigits (by decide) (by decide) h

lemma digitsOf_ne_nil : digitsOf n ≠ [] :=
  Nat.toDigits_ne_nil

lemma exists_digitsOf (n : Nat) : ∃ d ds, digitsOf n = d :: ds ∧ d.isDigit = true := by
  cases h : digitsOf n with
  | nil => exact absurd h digitsOf_ne_nil
  | cons d ds => exact ⟨d, ds, rfl, isDigit_of_mem (h ▸ List.mem_cons_self)⟩

lemma digitsOf_zero : digitsOf 0 = ['0'] :=
  Nat.toDigits_zero 10

/-- Only the number zero begins with the digit zero. -/
lemma eq_zero_of_head? (h : (digitsOf n).head? = some '0') : n = 0 := by
  induction n using Nat.strongRecOn with
  | _ n ih =>
    rw [digitsOf, Nat.toDigits_eq_if (by decide)] at h
    split_ifs at h with small
    · simpa using h
    · -- the first digit is that of a tenth, which is not zero
      rw [List.head?_append_of_ne_nil _ Nat.toDigits_ne_nil] at h
      have tenth := ih (n / 10) (by omega) h
      omega

lemma length_digitsOf (h : IsReadable i) : (digitsOf i.natAbs).length ≤ maxDigits :=
  (Nat.length_toDigits_le_iff (by decide) (by decide)).2 h

/-! ### Digits as they are read -/

lemma toNat_of_isDigit (h : c.isDigit = true) : 48 ≤ c.toNat ∧ c.toNat ≤ 57 := by
  simpa [Char.isDigit, UInt32.le_iff_toNat_le] using h

lemma not_isNumeralBlank_of_isDigit (h : c.isDigit = true) : Text.isNumeralBlank c = false := by
  have range := toNat_of_isDigit h
  simp only [Text.isNumeralBlank, Bool.or_eq_false_iff, Bool.and_eq_false_iff,
    decide_eq_false_iff_not, beq_eq_false_iff_ne]
  omega

lemma ne_of_isDigit {d : Char} (h : c.isDigit = true) (hd : d.isDigit = false) : c ≠ d := by
  rintro rfl
  rw [h] at hd
  cases hd

/-- Nothing of a written integer is trimmed. -/
lemma trimWith_toString :
    Text.trimWith Text.isNumeralBlank (toString i).toList = (toString i).toList := by
  have each : ∀ c ∈ (toString i).toList, Text.isNumeralBlank c = false := by
    intro c hc
    rw [toList_toString] at hc
    split_ifs at hc with neg
    · rcases List.mem_cons.1 hc with rfl | hc
      · decide
      · exact not_isNumeralBlank_of_isDigit (isDigit_of_mem hc)
    · exact not_isNumeralBlank_of_isDigit (isDigit_of_mem hc)
  exact Text.trimWith_eq_self (fun c hc => each c (List.mem_of_head? hc))
    fun c hc => each c (List.mem_of_getLast? hc)

lemma splitSign_toString : splitSign (toString i).toList = (decide (i < 0), digitsOf i.natAbs) := by
  rw [toList_toString]
  split_ifs with neg
  · rw [splitSign, decide_eq_true neg]
  · rw [decide_eq_false neg]
    -- the first character is a digit and no sign
    cases h : digitsOf i.natAbs with
    | nil => exact absurd h digitsOf_ne_nil
    | cons c r =>
      have digit : c.isDigit = true := isDigit_of_mem (h ▸ List.mem_cons_self)
      unfold splitSign
      split
      next he => exact absurd (List.cons.inj he).1 (ne_of_isDigit digit (by decide))
      next he => exact absurd (List.cons.inj he).1 (ne_of_isDigit digit (by decide))
      next => rfl

lemma wellDivided_of_digits {ds : List Char} {afterDigit : Bool} (h : ∀ c ∈ ds, c.isDigit = true)
    (begun : afterDigit = true ∨ ds ≠ []) : wellDivided afterDigit ds = true := by
  induction ds generalizing afterDigit with
  | nil => simpa [wellDivided] using begun
  | cons c ds ih =>
    rw [wellDivided, if_neg (ne_of_isDigit (h c List.mem_cons_self) (by decide))]
    exact ih (fun d hd => h d (List.mem_cons_of_mem _ hd)) (.inl rfl)

lemma digitValues_of_digits {ds : List Char} (h : ∀ c ∈ ds, c.isDigit = true) :
    digitValues ds = ds.map (·.toNat - 48) := by
  induction ds with
  | nil => rfl
  | cons c ds ih =>
    rw [digitValues, List.filterMap_cons, Text.digitValue?_of_isDigit (h c List.mem_cons_self),
      List.map_cons, ← ih fun d hd => h d (List.mem_cons_of_mem _ hd)]
    rfl

lemma takeWhile_digitsOf : (digitsOf n).takeWhile isDigitPart = digitsOf n :=
  List.takeWhile_eq_self_iff.2 fun c hc => by
    simp [isDigitPart, Text.digitValue?_of_isDigit (isDigit_of_mem hc)]

lemma ofDigitValues_digitsOf : ofDigitValues ((digitsOf n).map (·.toNat - 48)) = n := by
  rw [ofDigitValues, List.foldl_map]
  exact Nat.ofDigitChars_ten_toDigits

/-- The sign and the digits of an integer make up the integer. -/
lemma signed_natAbs : (if i < 0 then -(i.natAbs : Int) else i.natAbs) = i := by
  split_ifs <;> omega

lemma integer_toString (h : IsReadable i) : integer (toString i) = .ok i := by
  have digits : ∀ c ∈ digitsOf i.natAbs, c.isDigit = true := fun c => isDigit_of_mem
  simp only [integer, trimWith_toString, splitSign_toString, takeWhile_digitsOf,
    wellDivided_of_digits digits (.inr digitsOf_ne_nil), digitValues_of_digits digits,
    List.length_map, ofDigitValues_digitsOf, decide_eq_true_eq, signed_natAbs]
  rw [if_neg (by decide), if_neg (Nat.not_lt.2 (length_digitsOf h)), if_neg (Nat.lt_irrefl _)]

/-! ### Integers that were read -/

lemma foldl_digits_lt {ds : List Nat} (h : ∀ d ∈ ds, d < 10) :
    ds.foldl (fun n d => 10 * n + d) n < (n + 1) * 10 ^ ds.length := by
  induction ds generalizing n with
  | nil => simp
  | cons d ds ih =>
    obtain ⟨own, others⟩ := List.forall_mem_cons.1 h
    calc (d :: ds).foldl (fun n d => 10 * n + d) n
      _ < (10 * n + d + 1) * 10 ^ ds.length := ih others
      _ ≤ ((n + 1) * 10) * 10 ^ ds.length := Nat.mul_le_mul_right _ (by omega)
      _ = (n + 1) * 10 ^ (d :: ds).length := by rw [List.length_cons, Nat.pow_succ', Nat.mul_assoc]

lemma digitValue?_lt {d : Nat} (h : Text.digitValue? c = some d) : d < 10 := by
  rw [Text.digitValue?] at h
  split_ifs at h with ascii digit
  · have bounds := toNat_of_isDigit digit
    obtain rfl := Option.some.inj h
    omega
  · obtain ⟨z, hz, rfl⟩ := Option.map_eq_some_iff.1 h
    have row : z ≤ c.toNat ∧ c.toNat < z + 10 := by simpa using List.find?_some hz
    omega

lemma ofDigitValues_lt {cs : List Char} (few : (digitValues cs).length ≤ maxDigits) :
    ofDigitValues (digitValues cs) < 10 ^ maxDigits := by
  have small : ∀ d ∈ digitValues cs, d < 10 := by
    intro d hd
    obtain ⟨c, -, hc⟩ := List.mem_filterMap.1 hd
    exact digitValue?_lt hc
  calc ofDigitValues (digitValues cs)
    _ < (0 + 1) * 10 ^ (digitValues cs).length := foldl_digits_lt small
    _ = 10 ^ (digitValues cs).length := by rw [Nat.zero_add, Nat.one_mul]
    _ ≤ 10 ^ maxDigits := Nat.pow_le_pow_right (by decide) few

/-- What is read as an integer has at most as many digits as are read. -/
lemma isReadable_of_integer {s : String} (h : integer s = .ok i) : IsReadable i := by
  simp only [integer] at h
  split_ifs at h with divided long behind negative
  · rw [← Except.ok.inj h, IsReadable, Int.natAbs_neg, Int.natAbs_natCast]
    exact ofDigitValues_lt (Nat.not_lt.1 long)
  · rw [← Except.ok.inj h, IsReadable, Int.natAbs_natCast]
    exact ofDigitValues_lt (Nat.not_lt.1 long)

end Numeral

/-- A written integer is read as itself. -/
theorem readInteger_toString {i : Int} (h : Numeral.IsReadable i) :
    readInteger (toString i) = .ok i := by
  rw [readInteger, readRawInteger, RawText.toString_ofString, Numeral.integer_toString h]

/-- What is read as an integer can be written and read again. -/
lemma isReadable_of_readInteger {s : String} {i : Int} (h : readInteger s = .ok i) :
    Numeral.IsReadable i := by
  rw [readInteger, readRawInteger, RawText.toString_ofString] at h
  split at h
  next j hj => exact Except.ok.inj h ▸ Numeral.isReadable_of_integer hj
  all_goals cases h

end StakeRegistry
