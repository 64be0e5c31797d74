/-
Blank characters and trimming.

A text is trimmed of every blank character of Unicode and of the four separators
`U+001C` to `U+001F`; an integer numeral is trimmed of the first kind only
(`isNumeralBlank`).
-/

namespace StakeRegistry.Text

/-- White space of the Unicode standard. -/
def isNumeralBlank (c : Char) : Bool :=
  let n := c.toNat
  (0x9 ≤ n && n ≤ 0xd) || n == 0x20 || n == 0x85 || n == 0xa0 || n == 0x1680 ||
    (0x2000 ≤ n && n ≤ 0x200a) || n == 0x2028 || n == 0x2029 || n == 0x202f || n == 0x205f ||
    n == 0x3000

/-- White space of the Unicode standard, or one of the four information separators. -/
def isBlank (c : Char) : Bool :=
  isNumeralBlank c || (0x1c ≤ c.toNat && c.toNat ≤ 0x1f)

/-- The ASCII blanks that may stand between two bytes written in hexadecimal. -/
def isAsciiBlank (c : Char) : Bool :=
  (0x9 ≤ c.toNat && c.toNat ≤ 0xd) || c.toNat == 0x20

/-- Drop the leading characters that satisfy `p`, then the trailing ones. -/
def trimWith (p : Char → Bool) (cs : List Char) : List Char :=
  ((cs.dropWhile p).reverse.dropWhile p).reverse

/-- A text without its leading and trailing blanks. -/
def trim (s : String) : String :=
  String.ofList (trimWith isBlank s.toList)

/-- A text without its trailing characters `c`. -/
def dropTrailing (c : Char) (s : String) : String :=
  String.ofList (s.toList.reverse.dropWhile (· == c)).reverse

/-- Does `t` begin with `s`? -/
def hasLeading (s t : String) : Bool :=
  s.toList.isPrefixOf t.toList

/-- A text without one leading `s`, or the text itself if it does not begin with `s`. -/
def dropLeading (s t : String) : String :=
  if hasLeading s t then String.ofList (t.toList.drop s.length) else t

/-- Does the list hold `s` as a block of consecutive characters? -/
def hasBlock (s : List Char) : List Char → Bool
  | [] => s.isEmpty
  | c :: r => s.isPrefixOf (c :: r) || hasBlock s r

/-- Does `t` contain `s`? -/
def contains (s t : String) : Bool :=
  hasBlock s.toList t.toList

/-- A text contains another one if the characters of the other one stand in it side by side. -/
theorem contains_iff {s t : String} : contains s t = true ↔ s.toList <:+: t.toList := by
  have key : ∀ cs ds : List Char, hasBlock cs ds = true ↔ cs <:+: ds := by
    intro cs ds
    induction ds with
    | nil => simp [hasBlock]
    | cons d ds ih =>
      rw [hasBlock, Bool.or_eq_true, List.isPrefixOf_iff_prefix, ih, List.infix_cons_iff]
  exact key _ _

@[simp] theorem trimWith_nil (p : Char → Bool) : trimWith p [] = [] := rfl

/-- A text whose ends do not satisfy `p` is already trimmed. -/
theorem trimWith_eq_self {p : Char → Bool} {cs : List Char}
    (hfirst : ∀ c ∈ cs.head?, p c = false) (hlast : ∀ c ∈ cs.getLast?, p c = false) :
    trimWith p cs = cs := by
  have hd : ∀ ds : List Char, (∀ c ∈ ds.head?, p c = false) → ds.dropWhile p = ds := by
    intro ds h
    cases ds with
    | nil => rfl
    | cons c r => simp [h c (by simp)]
  unfold trimWith
  rw [hd cs hfirst, hd cs.reverse (by simpa using hlast), List.reverse_reverse]

end StakeRegistry.Text
