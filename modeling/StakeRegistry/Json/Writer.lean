/-
Writing JSON documents.

A document is written in ASCII: every other character of a text by its UTF-16 code units. Lists and
objects that are not empty spread over lines, each level indented by two blanks. A value with an
integer that has more digits than a numeral may have is not written.
-/
import StakeRegistry.Json.Value

namespace StakeRegistry.Json

/-- A UTF-16 code unit as an escape. -/
def unitEscape (n : Nat) : List Char :=
  '\\' :: 'u' :: Text.hexDigits 4 n

/-- One character of a text in a document. -/
def escapeChar (c : Char) : List Char :=
  match c with
  | '"' => ['\\', '"']
  | '\\' => ['\\', '\\']
  | '\n' => ['\\', 'n']
  | '\r' => ['\\', 'r']
  | '\t' => ['\\', 't']
  | '\x08' => ['\\', 'b']
  | '\x0c' => ['\\', 'f']
  | c =>
    let n := c.toNat
    if 0x20 ≤ n ∧ n < 0x7f then [c]
    else if n < 0x10000 then unitEscape n
    else unitEscape (0xd800 + (n - 0x10000) / 0x400) ++ unitEscape (0xdc00 + (n - 0x10000) % 0x400)

/-- One point of a text in a document. -/
def escapePoint : Point → List Char
  | .char c => escapeChar c
  | .half unit => unitEscape unit

/-- A text in a document. -/
def escaped (s : RawText) : List Char :=
  '"' :: s.points.flatMap escapePoint ++ ['"']

/-- The end of a line and the indentation of the next. -/
def lineBreak (depth : Nat) : List Char :=
  '\n' :: List.replicate (2 * depth) ' '

/-- A floating-point number in a document. -/
def realText : Numeral.Binary64 → String
  | .notANumber => "NaN"
  | .infinite negative => if negative then "-Infinity" else "Infinity"
  | x => x.toText

mutual

/-- A value in a document, where `depth` is the number of lists and objects around it. -/
def written (depth : Nat) : Value → List Char
  | .null => "null".toList
  | .bool b => if b then "true".toList else "false".toList
  | .int i => (toString i).toList
  | .real x => (realText x).toList
  | .text s => escaped s
  | .list [] => ['[', ']']
  | .list (v :: r) =>
    '[' :: lineBreak (depth + 1) ++ written (depth + 1) v ++ writtenElements (depth + 1) r ++
      lineBreak depth ++ [']']
  | .object [] => ['\x7b', '\x7d']
  | .object ((k, v) :: r) =>
    '\x7b' :: lineBreak (depth + 1) ++ escaped k ++ ':' :: ' ' :: written (depth + 1) v ++
      writtenMembers (depth + 1) r ++ lineBreak depth ++ ['\x7d']

/-- The further elements of a list, each after a comma. -/
def writtenElements (depth : Nat) : List Value → List Char
  | [] => []
  | v :: r => ',' :: lineBreak depth ++ written depth v ++ writtenElements depth r

/-- The further members of an object, each after a comma. -/
def writtenMembers (depth : Nat) : List (RawText × Value) → List Char
  | [] => []
  | (k, v) :: r =>
    ',' :: lineBreak depth ++ escaped k ++ ':' :: ' ' :: written depth v ++ writtenMembers depth r

end

mutual

/-- Has no integer in a value too many digits? -/
def fits : Value → Bool
  | .int i => Numeral.isWritable i
  | .list vs => fitElements vs
  | .object ms => fitMembers ms
  | _ => true

/-- Has no integer in the elements too many digits? -/
def fitElements : List Value → Bool
  | [] => true
  | v :: r => fits v && fitElements r

/-- Has no integer in the members too many digits? -/
def fitMembers : List (RawText × Value) → Bool
  | [] => true
  | (_, v) :: r => fits v && fitMembers r

end

/-- The document of a value, if all its integers fit in. -/
def Value.toText? (v : Value) : Option String :=
  if fits v then some (String.ofList (written 0 v)) else none

end StakeRegistry.Json
