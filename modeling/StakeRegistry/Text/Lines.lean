/-
Lines of a text.

`universalNewlines` is how a text file is read: a carriage return, alone or before a line feed,
counts as a line feed. `splitLines` cuts a text at every line boundary of Unicode.
-/

namespace StakeRegistry.Text

/-- Read `\r\n` and `\r` as `\n`. -/
def universalNewlines : List Char → List Char
  | [] => []
  | '\r' :: '\n' :: r => '\n' :: universalNewlines r
  | '\r' :: r => '\n' :: universalNewlines r
  | c :: r => c :: universalNewlines r

/-- Is the character a line feed or a carriage return? -/
def isLineEnd (c : Char) : Bool :=
  c = '\n' || c = '\r'

/-- The characters that end a line. -/
def isLineBoundary (c : Char) : Bool :=
  let n := c.toNat
  (0xa ≤ n && n ≤ 0xd) || (0x1c ≤ n && n ≤ 0x1e) || n == 0x85 || n == 0x2028 || n == 0x2029

/-- The lines of the rest of a text, where `line` holds the characters of the open line, the last
first. A boundary at the very end opens no further line. -/
def splitLinesFrom (line : List Char) : List Char → List (List Char)
  | [] => if line.isEmpty then [] else [line.reverse]
  | '\r' :: '\n' :: r => line.reverse :: splitLinesFrom [] r
  | c :: r =>
    if isLineBoundary c then line.reverse :: splitLinesFrom [] r else splitLinesFrom (c :: line) r

/-- The lines of a text, without the characters that end them. -/
def splitLines (s : String) : List String :=
  (splitLinesFrom [] s.toList).map String.ofList

end StakeRegistry.Text
