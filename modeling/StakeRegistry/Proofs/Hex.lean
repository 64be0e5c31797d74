/-
Texts that are the hexadecimal digits of bytes.
-/
import Mathlib.Tactic.Lemma
import StakeRegistry.Hex

namespace StakeRegistry

/-- The text is made of small hexadecimal digits, two for each byte. -/
structure IsLowerHex (s : String) : Prop where
  even : s.length % 2 = 0
  digits : ∀ c ∈ s.toList, c ∈ "0123456789abcdef".toList

instance {s : String} : Decidable (IsLowerHex s) :=
  decidable_of_iff (s.length % 2 = 0 ∧ s.toList.all "0123456789abcdef".toList.contains)
    ⟨fun h => ⟨h.1, by simpa using h.2⟩, fun h => ⟨h.even, by simpa using h.digits⟩⟩

lemma hexValue?_of_mem : ∀ c ∈ "0123456789abcdef".toList,
    Text.isAsciiBlank c = false ∧ ∃ n < 16, Text.hexValue? c = some n ∧ Text.hexDigit n = c := by
  -- the sixteen digits one by one, not all characters
  have all : ("0123456789abcdef".toList.all fun c => !Text.isAsciiBlank c &&
      (List.range 16).any fun n => Text.hexValue? c = some n && Text.hexDigit n = c) = true := by
    decide
  simpa only [List.all_eq_true, List.any_eq_true, Bool.and_eq_true, Bool.not_eq_true',
    List.mem_range, decide_eq_true_eq] using all

/-- Bytes are written in small digits. -/
lemma mem_toHex {bs : Bytes} : ∀ c ∈ bs.toHex.toList, c ∈ "0123456789abcdef".toList := by
  have digit : ∀ n : Fin 16, Text.hexDigit n ∈ "0123456789abcdef".toList := by decide
  rw [Bytes.toHex, String.toList_ofList]
  intro c mem
  obtain ⟨b, -, mem⟩ := List.mem_flatMap.1 mem
  have small := b.toNat_lt
  rcases List.mem_cons.1 mem with rfl | mem
  · exact digit ⟨b.toNat / 16, by omega⟩
  · rw [List.mem_singleton.1 mem]
    exact digit ⟨b.toNat % 16, by omega⟩

/-- The byte of two digits is written with these digits. -/
lemma byteDigits_ofNat {high low : Nat} (hh : high < 16) (hl : low < 16) :
    byteDigits (UInt8.ofNat (16 * high + low)) = [Text.hexDigit high, Text.hexDigit low] := by
  have small : 16 * high + low < 256 := by omega
  have value : (UInt8.ofNat (16 * high + low)).toNat = 16 * high + low := by
    simpa using small
  have quotient : (16 * high + low) / 16 = high := by omega
  have rest : (16 * high + low) % 16 = low := by omega
  rw [byteDigits, value, quotient, rest]

lemma exists_strictHexBytes? {cs : List Char} (even : cs.length % 2 = 0)
    (digits : ∀ c ∈ cs, c ∈ "0123456789abcdef".toList) :
    ∃ bs, strictHexBytes? cs = some bs ∧ bs.flatMap byteDigits = cs := by
  fun_induction strictHexBytes? cs with
  | case1 => exact ⟨[], rfl, rfl⟩
  | case2 c => simp at even
  | case3 c d r b hb ih =>
    have even' : r.length % 2 = 0 := by
      simp only [List.length_cons] at even
      omega
    obtain ⟨bs, hbs, hr⟩ := ih even' fun x hx => digits x (by simp [hx])
    obtain ⟨-, high, hh, hc, rfl⟩ := hexValue?_of_mem c (digits c (by simp))
    obtain ⟨-, low, hl, hd, rfl⟩ := hexValue?_of_mem d (digits d (by simp))
    obtain rfl : UInt8.ofNat (16 * high + low) = b := by simpa [hexPair?, hc, hd] using hb
    refine ⟨UInt8.ofNat (16 * high + low) :: bs, by rw [hbs, Option.map_some], ?_⟩
    rw [List.flatMap_cons, byteDigits_ofNat hh hl, hr, List.cons_append, List.singleton_append]
  | case4 c d r hb =>
    obtain ⟨-, high, hh, hc, rfl⟩ := hexValue?_of_mem c (digits c (by simp))
    obtain ⟨-, low, hl, hd, rfl⟩ := hexValue?_of_mem d (digits d (by simp))
    simp [hexPair?, hc, hd] at hb

/-- Such a text is read as the bytes that are written like it. -/
theorem IsLowerHex.exists_bytes {s : String} (h : IsLowerHex s) :
    ∃ bs, hexBytes? s.toList = some bs ∧ bs.toHex = s := by
  obtain ⟨bs, hbs, hs⟩ :=
    exists_strictHexBytes? (by rw [String.length_toList]; exact h.even) h.digits
  refine ⟨bs, ?_, by rw [Bytes.toHex, hs, String.ofList_toList]⟩
  rw [hexBytes?_eq_strict fun c hc => (hexValue?_of_mem c (h.digits c hc)).1, hbs]

end StakeRegistry
