/-
What trimming, small letters and lines make of a text.

* `exists_trimWith`, `trimWith_append`: a text is trimmed to what stands between blanks;
* `ascii_of_lowerFrom`: a text whose small letters are those of keys is ASCII, since no other
  character becomes one of them;
* `splitLines_unlines`: lines that are written with line feeds are the lines of the text;
* `textFile_toUTF8`: a text without carriage returns is read from a text file as it is.
-/
import Mathlib.Data.List.TakeWhile
import Mathlib.Tactic.Lemma
import StakeRegistry.Files.Text
import StakeRegistry.Text.Blank
import StakeRegistry.Text.Digit
import StakeRegistry.Text.Lines
import StakeRegistry.Text.Lower

namespace StakeRegistry.Text

variable {p : Char → Bool} {cs front back line rest before : List Char} {c d : Char}

/-! ### Trimming -/

/-- A text is trimmed to what stands between characters that are dropped. -/
lemma exists_trimWith (p : Char → Bool) (cs : List Char) :
    ∃ front back, cs = front ++ trimWith p cs ++ back ∧
    (∀ c ∈ front, p c = true) ∧ ∀ c ∈ back, p c = true := by
  refine ⟨cs.takeWhile p, ((cs.dropWhile p).reverse.takeWhile p).reverse, ?_, ?_, ?_⟩
  · rw [trimWith, List.append_assoc, ← List.reverse_append, List.takeWhile_append_dropWhile,
      List.reverse_reverse, List.takeWhile_append_dropWhile]
  · exact fun c mem => List.mem_takeWhile_imp mem
  · exact fun c mem => List.mem_takeWhile_imp (List.mem_reverse.1 mem)

/-- The last character of what a text is trimmed to is not dropped. -/
lemma trimWith_getLast? : ∀ c ∈ (trimWith p cs).getLast?, p c = false := by
  intro c last
  rw [trimWith, List.getLast?_reverse] at last
  have kept := List.head?_dropWhile_not p (cs.dropWhile p).reverse
  rw [Option.mem_def.1 last] at kept
  simpa using kept

/-- Characters that are dropped do not matter around a text. -/
lemma trimWith_append (dropped : ∀ c ∈ front, p c = true) (dropped' : ∀ c ∈ back, p c = true)
    (first : ∀ c ∈ cs.head?, p c = false) (last : ∀ c ∈ cs.getLast?, p c = false) :
    trimWith p (front ++ cs ++ back) = cs := by
  rw [trimWith, List.append_assoc, List.dropWhile_append_of_pos dropped]
  cases cs with
  | nil =>
    rw [List.nil_append, List.dropWhile_eq_nil_iff.2 dropped']
    rfl
  | cons c r =>
    have kept : ((c :: r) ++ back).dropWhile p = (c :: r) ++ back := by
      rw [List.cons_append, List.dropWhile_cons_of_neg (by simp [first c rfl])]
    have dropped'' : ∀ c ∈ back.reverse, p c = true := fun c mem =>
      dropped' c (List.mem_reverse.1 mem)
    rw [kept, List.reverse_append, List.dropWhile_append_of_pos dropped'']
    have self := trimWith_eq_self first last
    rwa [trimWith, List.dropWhile_cons_of_neg (by simp [first c rfl])] at self

/-! ### Hexadecimal digits and blanks -/

/-- What holds of all ASCII characters holds of each of them. -/
lemma forall_ascii {P : Char → Prop} (all : ∀ n : Fin 128, P (Char.ofNat n))
    (ascii : c.toNat < 128) : P c := by
  have own := all ⟨c.toNat, ascii⟩
  rwa [Char.ofNat_toNat] at own

lemma ascii_of_hexValue? {n : Nat} (digit : hexValue? c = some n) : c.toNat < 128 := by
  rw [hexValue?] at digit
  split_ifs at digit with decimal small capital
  · exact Nat.lt_of_le_of_lt (UInt32.le_iff_toNat_le.1 decimal.2) (by decide)
  · exact Nat.lt_of_le_of_lt (UInt32.le_iff_toNat_le.1 small.2) (by decide)
  · exact Nat.lt_of_le_of_lt (UInt32.le_iff_toNat_le.1 capital.2) (by decide)

lemma ascii_of_isAsciiBlank (blank : isAsciiBlank c = true) : c.toNat < 128 := by
  simp only [isAsciiBlank, Bool.or_eq_true, Bool.and_eq_true, decide_eq_true_eq,
    beq_iff_eq] at blank
  omega

/-- A hexadecimal digit is no blank. -/
lemma isBlank_of_hexValue? {n : Nat} (digit : hexValue? c = some n) : isBlank c = false := by
  have all : ∀ n : Fin 128, (hexValue? (Char.ofNat n)).isSome = true →
    isBlank (Char.ofNat n) = false := by decide
  exact forall_ascii (P := fun c => (hexValue? c).isSome = true → isBlank c = false) all
    (ascii_of_hexValue? digit) (by rw [digit]; rfl)

lemma isBlank_of_isAsciiBlank (blank : isAsciiBlank c = true) : isBlank c = true := by
  simp only [isAsciiBlank, isBlank, isNumeralBlank, Bool.or_eq_true, Bool.and_eq_true,
    decide_eq_true_eq, beq_iff_eq] at blank ⊢
  omega

/-- Characters beyond ASCII are no capitals of the plain alphabet. -/
lemma toLower_of_not_ascii (beyond : 128 ≤ c.toNat) : c.toLower = c :=
  dif_neg fun capital =>
    absurd (UInt32.le_iff_toNat_le.1 capital.2)
      (Nat.not_le.2 (Nat.lt_of_lt_of_le (by decide) beyond))

/-- What holds of every character with its small letter in ASCII holds of all characters, if it
holds of those that are their own small letters. -/
lemma forall_toLower {P : Char → Char → Prop}
    (all : ∀ n : Fin 128, P (Char.ofNat n) (Char.ofNat n).toLower)
    (self : ∀ c, P c c) (c : Char) : P c c.toLower := by
  rcases Nat.lt_or_ge c.toNat 128 with ascii | beyond
  · exact forall_ascii (P := fun c => P c c.toLower) all ascii
  · rw [toLower_of_not_ascii beyond]
    exact self c

/-- Letter case is not told apart in hexadecimal digits, nor in blanks. -/
lemma hexValue?_toLower (c : Char) :
    hexValue? c.toLower = hexValue? c ∧ isAsciiBlank c.toLower = isAsciiBlank c :=
  forall_toLower
      (P := fun c small => hexValue? small = hexValue? c ∧ isAsciiBlank small = isAsciiBlank c)
    (by decide) (fun _ => ⟨rfl, rfl⟩) c

lemma isBlank_toLower (c : Char) : isBlank c.toLower = isBlank c :=
  forall_toLower (P := fun c small => isBlank small = isBlank c) (by decide) (fun _ => rfl) c

lemma ascii_toLower_iff : c.toLower.toNat < 128 ↔ c.toNat < 128 :=
  forall_toLower (P := fun c small => small.toNat < 128 ↔ c.toNat < 128) (by decide)
    (fun _ => .rfl) c

/-! ### Small letters -/

/-- The small letters of characters beyond ASCII are beyond ASCII but for `k`, which is that of the
Kelvin sign; a point that is no character gives NUL. -/
lemma smallLetter_of_not_ascii (beyond : 128 ≤ c.toNat) :
    128 ≤ (smallLetter c).toNat ∨ smallLetter c = 'k' ∨ smallLetter c = '\x00' := by
  have runs : ∀ r ∈ smallLetterRuns, r.last < 128 ∨ 128 ≤ r.first + r.offset ∨
      (r.last = 0x212a ∧ r.first = 0x212a ∧ r.offset = -8383) := by decide +kernel
  rw [smallLetter, if_neg (by omega), throughRuns]
  split
  next r found =>
    have member := List.find?_some found
    simp only [LetterRun.has, Bool.and_eq_true, decide_eq_true_eq] at member
    rcases runs r (List.mem_of_find?_eq_some found) with ascii | high | ⟨last, first, offset⟩
    · omega
    · by_cases valid : (c.toNat + r.offset).toNat.isValidChar
      · have large : 128 ≤ (c.toNat + r.offset).toNat := by omega
        rw [Char.ofNat, dif_pos valid]
        exact .inl large
      · rw [Char.ofNat, dif_neg valid]
        exact .inr (.inr rfl)
    · have same : (c.toNat + r.offset).toNat = 0x6b := by omega
      rw [same]
      exact .inr (.inl rfl)
  next => exact .inl beyond

/-- A text is ASCII if its small letters are, and none of them is that of another character. -/
lemma ascii_of_lowerFrom (before : List Char)
    (own : ∀ d ∈ lowerFrom before cs, d.toNat < 128 ∧ d ≠ 'i' ∧ d ≠ 'k' ∧ d ≠ '\x00') :
    ∀ c ∈ cs, c.toNat < 128 := by
  induction cs generalizing before with
  | nil => exact List.forall_mem_nil _
  | cons c r ih =>
    rw [lowerFrom] at own
    obtain ⟨small, others⟩ := List.forall_mem_append.1 own
    refine List.forall_mem_cons.2 ⟨Nat.lt_of_not_le fun beyond => ?_, ih _ others⟩
    split_ifs at small with dotted sigma final
    · exact absurd rfl (small 'i' List.mem_cons_self).2.1
    · exact absurd (small 'ς' List.mem_cons_self).1 (by decide)
    · exact absurd (small 'σ' List.mem_cons_self).1 (by decide)
    · obtain ⟨ascii, -, notK, notNul⟩ := small _ List.mem_cons_self
      rcases smallLetter_of_not_ascii beyond with high | k | nul
      · omega
      · exact notK k
      · exact notNul nul

/-! ### Lines -/

/-- A line that is open is closed by a line feed. -/
lemma splitLinesFrom_append (plain : ∀ c ∈ cs, isLineBoundary c = false) :
    splitLinesFrom line (cs ++ '\n' :: rest) = (line.reverse ++ cs) :: splitLinesFrom [] rest := by
  induction cs generalizing line with
  | nil => simp [splitLinesFrom, isLineBoundary]
  | cons c cs ih =>
    obtain ⟨own, others⟩ := List.forall_mem_cons.1 plain
    have noReturn : c ≠ '\r' := by
      rintro rfl
      exact absurd own (by decide)
    rw [List.cons_append, splitLinesFrom, own, if_neg Bool.false_ne_true, ih others,
      List.reverse_cons, List.append_assoc, List.singleton_append]
    exact fun _ same => absurd same noReturn

/-- Lines that are written with line feeds are the lines of the text. -/
lemma splitLines_unlines {lines : List String}
    (plain : ∀ l ∈ lines, ∀ c ∈ l.toList, isLineBoundary c = false) :
    splitLines (String.join (lines.map (· ++ "\n"))) = lines := by
  induction lines with
  | nil => rfl
  | cons l lines ih =>
    obtain ⟨own, others⟩ := List.forall_mem_cons.1 plain
    have text : (String.join ((l :: lines).map (· ++ "\n"))).toList =
        l.toList ++ '\n' :: (String.join (lines.map (· ++ "\n"))).toList := by
      rw [List.map_cons, String.join_cons, String.toList_append, String.toList_append,
        List.append_assoc]
      rfl
    rw [splitLines, text, splitLinesFrom_append own, List.map_cons, List.reverse_nil,
      List.nil_append, String.ofList_toList, ← splitLines, ih others]

lemma universalNewlines_of_notMem (none : '\r' ∉ cs) : universalNewlines cs = cs := by
  fun_induction universalNewlines cs with
  | case1 => rfl
  | case2 | case3 => simp at none
  | case4 c r _ _ ih => rw [ih fun h => none (List.mem_cons_of_mem _ h)]

/-- A text without carriage returns is read from a text file as it is. -/
lemma textFile_toUTF8 {s : String} (none : '\r' ∉ s.toList) : textFile s.toUTF8 = .ok s := by
  rw [textFile, textOfBytes_toUTF8]
  simp only [bind, Except.bind, pure, Except.pure]
  rw [universalNewlines_of_notMem none, String.ofList_toList]

end StakeRegistry.Text
