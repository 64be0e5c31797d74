/-
Quoted forms of a text and of a byte string.

A text is written between quotes. The quote is `'` unless the text holds a `'` and no `"`. The
chosen quote and the backslash are escaped by a backslash, tab, line feed and carriage return are
written `\t`, `\n` and `\r`, and every other character without a visible form by its code point in
hexadecimal: `\x` and two digits, `\u` and four, or `\U` and eight.
-/
import StakeRegistry.Text.Digit
import StakeRegistry.Text.Printable

namespace StakeRegistry.Text

/-- The `width` last hexadecimal digits of `n`, the highest first. -/
def hexDigits : (width : Nat) → (n : Nat) → List Char
  | 0, _ => []
  | w + 1, n => hexDigits w (n / 16) ++ [hexDigit (n % 16)]

/-- The quote to write a text with. -/
def chooseQuote (cs : List Char) : Char :=
  if cs.contains '\'' && !cs.contains '"' then '"' else '\''

/-- One character between quotes. -/
def quoteChar (quote c : Char) : List Char :=
  if c = quote || c = '\\' then ['\\', c]
  else if c = '\t' then ['\\', 't']
  else if c = '\n' then ['\\', 'n']
  else if c = '\r' then ['\\', 'r']
  else if isPrintable c then [c]
  else if c.toNat < 0x100 then '\\' :: 'x' :: hexDigits 2 c.toNat
  else if c.toNat < 0x10000 then '\\' :: 'u' :: hexDigits 4 c.toNat
  else '\\' :: 'U' :: hexDigits 8 c.toNat

/-- The quoted form of a text. -/
def quoted (s : String) : String :=
  let quote := chooseQuote s.toList
  String.ofList (quote :: s.toList.flatMap (quoteChar quote) ++ [quote])

/-- One byte between quotes: a byte has a visible form if it is that of an ASCII character. -/
def quoteByte (quote : Char) (b : UInt8) : List Char :=
  if b.toNat < 0x80 then quoteChar quote (Char.ofNat b.toNat) else '\\' :: 'x' ::
    hexDigits 2 b.toNat

/-- The quoted form of a byte string, marked by a leading `b`. -/
def quotedBytes (bs : List UInt8) : String :=
  let quote := chooseQuote (bs.map fun b => Char.ofNat b.toNat)
  String.ofList ('b' :: quote :: bs.flatMap (quoteByte quote) ++ [quote])

end StakeRegistry.Text
