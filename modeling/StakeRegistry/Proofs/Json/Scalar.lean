/-
Texts and numbers of a document are read as they were written.

* `textRest_escaped`: a text of characters, each written by itself, by an escape or by a pair of
  halves, is read as these characters;
* `numberRest_digitsOf`: the digits of a number are read as the number, if what follows cannot go on
  with it (`EndsNumber`).
-/
import StakeRegistry.Json.Reader
import StakeRegistry.Json.Writer
import StakeRegistry.Proofs.Numeral.Decimal

namespace StakeRegistry.Json

/-! ### Texts -/

/-- The points that are read for a character: halves where it is written as a pair. -/
def readPoints (c : Char) : List Point :=
  if c.toNat < 0x10000 then [.char c]
  else [.half (0xd800 + (c.toNat - 0x10000) / 0x400), .half (0xdc00 + (c.toNat - 0x10000) % 0x400)]

variable {c : Char} {read : List Point} {r : List Char} {n : Nat}

lemma toNat_range (c : Char) : c.toNat < 0xd800 ∨ 0xdfff < c.toNat ∧ c.toNat < 0x110000 :=
  c.valid

lemma textRest_unitEscape (h : n < 0x10000) :
    textRest read (unitEscape n ++ r) = textRest (pointOfUnit n :: read) r := by
  have quad : hexQuad? (Text.hexDigit (n / 16 / 16 / 16 % 16)) (Text.hexDigit (n / 16 / 16 % 16))
      (Text.hexDigit (n / 16 % 16)) (Text.hexDigit (n % 16)) = some n := by
    simp only [hexQuad?, Text.hexValue?_hexDigit (Nat.mod_lt _ (by decide : 16 > 0)),
      Option.bind_eq_bind, Option.bind_some, Option.some.injEq]
    omega
  simp only [unitEscape, Text.hexDigits, List.nil_append, List.cons_append]
  rw [textRest, quad]

lemma textRest_plain (quote : c ≠ '"') (backslash : c ≠ '\\') (visible : 0x20 ≤ c.toNat) :
    textRest read (c :: r) = textRest (.char c :: read) r := by
  have shown : ¬ (c.toNat < 0x20 ∨ c = '\\') := not_or.2 ⟨Nat.not_lt.2 visible, backslash⟩
  rw [textRest, if_neg shown]
  · exact quote
  · exact fun _ _ _ _ _ slash => absurd slash backslash
  · exact fun _ _ slash => absurd slash backslash

lemma textRest_escapeChar : textRest read (escapeChar c ++ r) =
    textRest ((readPoints c).reverse ++ read) r := by
  have range := toNat_range c
  fun_cases escapeChar c with
  | case8 _ quote backslash _ _ _ _ _ n visible =>
    rw [readPoints, if_pos (by omega)]
    exact textRest_plain quote backslash visible.1
  | case9 _ _ _ _ _ _ _ _ n _ small =>
    have point : pointOfUnit n = .char c := by
      rw [pointOfUnit, if_neg (by omega), Char.ofNat_toNat]
    rw [textRest_unitEscape small, readPoints, if_pos small, point]
    rfl
  | case10 _ _ _ _ _ _ _ _ n _ large =>
    have half : ∀ m, 0xd800 ≤ m → m ≤ 0xdfff → pointOfUnit m = .half m := fun m low high =>
      if_pos ⟨low, high⟩
    rw [List.append_assoc, textRest_unitEscape (by omega),
      textRest_unitEscape (by omega), readPoints, if_neg large, half _ (by omega) (by omega),
      half _ (by omega) (by omega)]
    rfl
  | _ => rfl

/-- Halves that are written for a character are put together to the character. -/
lemma joinPairs_readPoints (ps : List Point) :
    joinPairs (readPoints c ++ ps) = .char c :: joinPairs ps := by
  have range := toNat_range c
  rw [readPoints]
  split_ifs with small
  · rw [List.cons_append, List.nil_append, joinPairs]
    simp
  · have pair :
        ofPair (0xd800 + (c.toNat - 0x10000) / 0x400)
          (0xdc00 + (c.toNat - 0x10000) % 0x400) = c := by
      rw [ofPair, show 0x10000 + (0xd800 + (c.toNat - 0x10000) / 0x400 - 0xd800) * 0x400 +
        (0xdc00 + (c.toNat - 0x10000) % 0x400 - 0xdc00) = c.toNat by omega, Char.ofNat_toNat]
    rw [List.cons_append, List.cons_append, List.nil_append, joinPairs, pair, if_pos (by omega)]

lemma joinPairs_flatMap_readPoints (cs : List Char) :
    joinPairs (cs.flatMap readPoints) = cs.map .char := by
  induction cs with
  | nil => rfl
  | cons c cs ih => rw [List.flatMap_cons, joinPairs_readPoints, ih, List.map_cons]

lemma textRest_flatMap_escapeChar (cs : List Char) :
    textRest read (cs.flatMap escapeChar ++ '"' :: r) =
      some (⟨joinPairs (read.reverse ++ cs.flatMap readPoints)⟩, r) := by
  induction cs generalizing read with
  | nil => simp [textRest]
  | cons c cs ih =>
    rw [List.flatMap_cons, List.append_assoc, textRest_escapeChar, ih]
    simp

/-- A written text of characters is read as itself. -/
lemma textRest_escaped (s : String) : ∃ body, escaped s = '"' :: body ∧
    textRest [] (body ++ r) = some ((s : RawText), r) := by
  refine ⟨s.toList.flatMap escapeChar ++ ['"'], ?_, ?_⟩
  · simp [escaped, RawText.ofString, List.flatMap_map, escapePoint]
  · rw [List.append_assoc, List.singleton_append, textRest_flatMap_escapeChar, List.reverse_nil,
      List.nil_append, joinPairs_flatMap_readPoints]
    rfl

/-! ### Numbers -/

/-- The characters cannot go on with a number. -/
def EndsNumber (r : List Char) : Prop :=
  ∀ c ∈ r.head?, c.isDigit = false ∧ c ≠ '.' ∧ c ≠ 'e' ∧ c ≠ 'E'

lemma endsNumber_nil : EndsNumber [] :=
  fun _ h => nomatch h

lemma endsNumber_cons (h : c.isDigit = false ∧ c ≠ '.' ∧ c ≠ 'e' ∧ c ≠ 'E') :
    EndsNumber (c :: r) := by
  rintro _ ⟨⟩
  exact h

lemma digitRun_append {ds : List Char} (digits : ∀ c ∈ ds, c.isDigit = true) (ends : EndsNumber r) :
    digitRun (ds ++ r) = (ds, r) := by
  rw [digitRun, List.takeWhile_append_of_pos digits, List.dropWhile_append_of_pos digits]
  cases r with
  | nil => simp
  | cons c r => simp [(ends c rfl).1]

lemma wholePart_digitsOf (ends : EndsNumber r) :
    wholePart (Numeral.digitsOf n ++ r) = some (Numeral.digitsOf n, r) := by
  rcases Nat.eq_zero_or_pos n with rfl | pos
  · rw [Numeral.digitsOf_zero]
    rfl
  · have run := digitRun_append (fun c => Numeral.isDigit_of_mem (n := n)) ends
    unfold wholePart
    split
    next r' first =>
      -- a number above zero does not begin with zero
      have kept : (Numeral.digitsOf n ++ r).head? = (Numeral.digitsOf n).head? :=
        List.head?_append_of_ne_nil _ Numeral.digitsOf_ne_nil
      have head : (Numeral.digitsOf n).head? = some '0' := by rw [← kept, first, List.head?_cons]
      exact absurd (Numeral.eq_zero_of_head? head) pos.ne'
    next => simp [run, Numeral.digitsOf_ne_nil]

lemma fraction_of_endsNumber (ends : EndsNumber r) : fraction r = ([], r) := by
  unfold fraction
  split
  next => exact absurd rfl (ends '.' rfl).2.1
  next => rfl

lemma exponent?_of_endsNumber (ends : EndsNumber r) : exponent? r = none := by
  cases r with
  | nil => rfl
  | cons c r => simp [exponent?, (ends c rfl).2.2]

lemma runValue_digitsOf : runValue (Numeral.digitsOf n) = n :=
  Nat.ofDigitChars_ten_toDigits

lemma numberRest_digitsOf (negative : Bool)
    (readable : (Numeral.digitsOf n).length ≤ Numeral.maxDigits)
    (ends : EndsNumber r) : numberRest negative (Numeral.digitsOf n ++ r) =
      .ok (.int (if negative then -(n : Int) else n), r) := by
  simp [numberRest, wholePart_digitsOf ends, fraction_of_endsNumber ends,
    exponent?_of_endsNumber ends, Nat.not_lt.2 readable, runValue_digitsOf]

/-! ### Words -/

lemma word?_eq_none_of_isDigit (h : c.isDigit = true) :
    word? (c :: r) = none ∧ word? ('-' :: c :: r) = none := by
  have ne : ∀ d : Char, d.isDigit = false → d ≠ c := fun d hd => (Numeral.ne_of_isDigit h hd).symm
  constructor
  · simp [word?, afterWord?, ne 'n' (by decide), ne 't' (by decide), ne 'f' (by decide),
      ne 'N' (by decide), ne 'I' (by decide), ne '-' (by decide)]
  · simp [word?, afterWord?, ne 'I' (by decide)]

end StakeRegistry.Json
