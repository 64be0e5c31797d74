/-
Lower case of a text, and the capital at its beginning.

Every character has its small letter from the table. Two rules go beyond single characters: `İ`
becomes `i` followed by the combining dot above, and a capital sigma that ends a word becomes `ς`.
-/
import StakeRegistry.Text.CapitalTable

namespace StakeRegistry.Text

/-- The letter that a character becomes by the first of the runs that has it, or the character
itself. -/
def throughRuns (runs : List LetterRun) (c : Char) : Char :=
  match runs.find? (·.has c.toNat) with
  | some r => Char.ofNat (c.toNat + r.offset).toNat
  | none => c

/-- The small letter of a single character, or the character itself. -/
def smallLetter (c : Char) : Char :=
  if c.toNat < 128 then c.toLower else throughRuns smallLetterRuns c

/-- Does the search for a letter, passing over ignorable characters, meet a letter with case? -/
def meetsCased : List Char → Bool
  | [] => false
  | c :: r =>
    if inRanges caseIgnorableRanges c.toNat then meetsCased r else inRanges casedRanges c.toNat

/-- The lower case of the characters `after`, where `before` holds those already passed, the nearest
first. -/
def lowerFrom (before : List Char) : List Char → List Char
  | [] => []
  | c :: after =>
    let small :=
      if c = 'İ' then ['i', '\u0307']
      else if c = 'Σ' then
        [if meetsCased before && !meetsCased after then 'ς' else 'σ']
      else [smallLetter c]
    small ++ lowerFrom (c :: before) after

/-- A text in lower case. -/
def lower (s : String) : String :=
  String.ofList (lowerFrom [] s.toList)

/-- On ASCII, lower case is taken character by character. -/
theorem lowerFrom_of_ascii (before : List Char) {cs : List Char} (h : ∀ c ∈ cs, c.toNat < 128) :
    lowerFrom before cs = cs.map Char.toLower := by
  induction cs generalizing before with
  | nil => rfl
  | cons c r ih =>
    have hc : c.toNat < 128 := h c (by simp)
    have h1 : c ≠ 'İ' := by rintro rfl; exact absurd hc (by decide)
    have h2 : c ≠ 'Σ' := by rintro rfl; exact absurd hc (by decide)
    simp [lowerFrom, h1, h2, smallLetter, hc, ih _ fun d hd => h d (by simp [hd])]

/-- The capital of a character at the beginning of a word, or the character itself. -/
def capital (c : Char) : List Char :=
  match longCapitals.lookup c.toNat with
  | some ns => ns.map Char.ofNat
  | none => [throughRuns capitalRuns c]

/-- A text with its first character as a capital and the rest in lower case. -/
def capitalize (s : String) : String :=
  match s.toList with
  | [] => ""
  | c :: r => String.ofList (capital c ++ lowerFrom [c] r)

end StakeRegistry.Text
