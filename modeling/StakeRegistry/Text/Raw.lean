/-
Texts of documents.

A document can write half of a pair of surrogates by itself. Such a half is no character, so the
text of a document is a sequence of points, each a character or a lone half.
-/
import StakeRegistry.Text.Quoted

namespace StakeRegistry

/-- A character, or half of a pair of surrogates that stands by itself. -/
inductive Point where
  | char (c : Char)
  | half (unit : Nat)
  deriving Repr, DecidableEq

/-- A text that may hold lone halves. -/
structure RawText where
  points : List Point
  deriving Repr, DecidableEq, Inhabited

namespace RawText

/-- A text of characters. -/
def ofString (s : String) : RawText :=
  ⟨s.toList.map .char⟩

instance : Coe String RawText := ⟨ofString⟩

/-- The first of the private characters that stand for lone halves. -/
def firstPrivate : Nat := 0x100000

/-- A point as a character. A lone half is given by the private character with the same last sixteen
bits, so that different halves stay different. -/
def charOf : Point → Char
  | .char c => c
  | .half unit => Char.ofNat (firstPrivate + unit)

/-- The text as one of characters. -/
def toString (t : RawText) : String :=
  String.ofList (t.points.map charOf)

/-- A text of characters is given back. -/
@[simp] theorem toString_ofString (s : String) : (ofString s).toString = s := by
  have h : charOf ∘ Point.char = id := rfl
  simp [toString, ofString, h]

/-- Has the text no points? -/
def isEmpty (t : RawText) : Bool :=
  t.points.isEmpty

/-- One point between quotes; a lone half is written by its four hexadecimal digits. -/
def quotePoint (quote : Char) : Point → List Char
  | .char c => Text.quoteChar quote c
  | .half unit => '\\' :: 'u' :: Text.hexDigits 4 unit

/-- The quoted form of a text. -/
def quoted (t : RawText) : String :=
  let quote := Text.chooseQuote t.toString.toList
  String.ofList (quote :: t.points.flatMap (quotePoint quote) ++ [quote])

end RawText
end StakeRegistry
