/-
Reading JSON documents.

`Value.ofText` accepts a document with blanks around it. The documents are those of the standard
and, for numbers, the words `NaN`, `Infinity` and `-Infinity`. A number without fraction and
exponent is an integer; every other one is rounded to a floating-point number. Of several members
under one key the last counts. A byte order mark, a control character inside a text or a comma
before a closing bracket is refused, and so is a document with too many lists and objects inside
each other.
-/
import StakeRegistry.Json.Value

namespace StakeRegistry.Json

/-- The rest of a document after its leading blanks. -/
def skipBlanks (cs : List Char) : List Char :=
  cs.dropWhile fun c => c == ' ' || c == '\t' || c == '\n' || c == '\r'

/-- The number of four hexadecimal digits. -/
def hexQuad? (a b c d : Char) : Option Nat := do
  let a ← Text.hexValue? a
  let b ← Text.hexValue? b
  let c ← Text.hexValue? c
  let d ← Text.hexValue? d
  some (((a * 16 + b) * 16 + c) * 16 + d)

/-- The character that a backslash and one letter stand for. -/
def simpleEscape? : Char → Option Char
  | '"' => some '"'
  | '\\' => some '\\'
  | '/' => some '/'
  | 'b' => some '\x08'
  | 'f' => some '\x0c'
  | 'n' => some '\n'
  | 'r' => some '\r'
  | 't' => some '\t'
  | _ => none

/-- The point of a code unit. -/
def pointOfUnit (n : Nat) : Point :=
  if 0xd800 ≤ n ∧ n ≤ 0xdfff then .half n else .char (Char.ofNat n)

/-- The character of a pair of surrogates. -/
def ofPair (high low : Nat) : Char :=
  Char.ofNat (0x10000 + (high - 0xd800) * 0x400 + (low - 0xdc00))

/-- The points with each pair of surrogates put together. -/
def joinPairs : List Point → List Point
  | .half n :: .half m :: r =>
    if n < 0xdc00 ∧ 0xdc00 ≤ m then .char (ofPair n m) :: joinPairs r
    else .half n :: joinPairs (.half m :: r)
  | p :: r => p :: joinPairs r
  | [] => []

/-- The text up to its closing quote, and the rest; `read` holds the points already read, the last
first. -/
def textRest (read : List Point) : List Char → Option (RawText × List Char)
  | [] => none
  | '"' :: r => some (⟨joinPairs read.reverse⟩, r)
  | '\\' :: 'u' :: a :: b :: c :: d :: r =>
    match hexQuad? a b c d with
    | some n => textRest (pointOfUnit n :: read) r
    | none => none
  | '\\' :: e :: r =>
    match simpleEscape? e with
    | some c => textRest (.char c :: read) r
    | none => none
  | c :: r => if c.toNat < 0x20 ∨ c = '\\' then none else textRest (.char c :: read) r

/-- The longest leading run of ASCII digits, and the rest. -/
def digitRun (cs : List Char) : List Char × List Char :=
  (cs.takeWhile Char.isDigit, cs.dropWhile Char.isDigit)

/-- The number that a run of ASCII digits denotes. -/
def runValue (ds : List Char) : Nat :=
  ds.foldl (fun n d => 10 * n + (d.toNat - 48)) 0

/-- A fraction with at least one digit: its digits, and the rest. -/
def fraction (cs : List Char) : List Char × List Char :=
  match cs with
  | '.' :: r =>
    let (ds, r) := digitRun r
    if ds.isEmpty then ([], cs) else (ds, r)
  | _ => ([], cs)

/-- An exponent with at least one digit, and the rest. -/
def exponent? (cs : List Char) : Option (Int × List Char) :=
  match cs with
  | c :: r =>
    if c = 'e' ∨ c = 'E' then
      let (negative, r) := match r with
        | '-' :: r => (true, r)
        | '+' :: r => (false, r)
        | r => (false, r)
      let (ds, r) := digitRun r
      if ds.isEmpty then none
      else
        let n : Int := runValue ds
        some (if negative then -n else n, r)
    else none
  | [] => none

/-- The whole part of a number: a single zero, or digits that do not begin with one. -/
def wholePart (cs : List Char) : Option (List Char × List Char) :=
  match cs with
  | '0' :: r => some (['0'], r)
  | _ =>
    let (ds, r) := digitRun cs
    if ds.isEmpty then none else some (ds, r)

/-- Why a document is refused. -/
inductive Refusal where
  | malformed
  /-- An integer has more digits than are read. -/
  | tooManyDigits
  /-- Too many lists and objects stand inside each other. -/
  | tooDeep
  deriving Repr, DecidableEq

/-- The number nearest to `± ds * 10 ^ exponent`. -/
def realOf (negative : Bool) (ds : List Char) (exponent : Int) : Numeral.Binary64 :=
  .ofDecimal negative (runValue ds) (ds.dropWhile (· = '0')).length exponent

/-- A number after its sign, and the rest. -/
def numberRest (negative : Bool) (cs : List Char) : Except Refusal (Value × List Char) :=
  match wholePart cs with
  | none => .error .malformed
  | some (whole, r) =>
    let (frac, r) := fraction r
    match exponent? r with
    | none =>
      if frac.isEmpty then
        if Numeral.maxDigits < whole.length then .error .tooManyDigits
        else
          let n : Int := runValue whole
          .ok (.int (if negative then -n else n), r)
      else
        .ok (.real (realOf negative (whole ++ frac) (-frac.length)), r)
    | some (e, r) => .ok (.real (realOf negative (whole ++ frac) (e - frac.length)), r)

/-- The rest after a word that has to stand here. -/
def afterWord? (word : String) (cs : List Char) : Option (List Char) :=
  if word.toList.isPrefixOf cs then some (cs.drop word.length) else none

/-- A literal word, and the rest. -/
def word? (cs : List Char) : Option (Value × List Char) :=
  let at? (w : String) (v : Value) := (afterWord? w cs).map fun r => (v, r)
  at? "null" .null <|> at? "true" (.bool true) <|> at? "false" (.bool false) <|>
    at? "NaN" (.real .notANumber) <|> at? "Infinity" (.real (.infinite false)) <|>
    at? "-Infinity" (.real (.infinite true))

mutual

/-- The value at the head of a document, and the rest; lists and objects may stand inside each other
`depth` deep. -/
def value (fuel depth : Nat) (cs : List Char) : Except Refusal (Value × List Char) :=
  match fuel with
  | 0 => .error .malformed
  | fuel + 1 =>
    match cs with
    | '"' :: r =>
      match textRest [] r with
      | some (s, r) => .ok (.text s, r)
      | none => .error .malformed
    | '[' :: r =>
      match depth, skipBlanks r with
      | 0, _ => .error .tooDeep
      | _ + 1, ']' :: r => .ok (.list [], r)
      | depth + 1, r => elements fuel depth [] r
    | '\x7b' :: r =>
      match depth, skipBlanks r with
      | 0, _ => .error .tooDeep
      | _ + 1, '\x7d' :: r => .ok (.object [], r)
      | depth + 1, r => members fuel depth [] r
    | _ =>
      match word? cs with
      | some (v, r) => .ok (v, r)
      | none =>
        match cs with
        | '-' :: r => numberRest true r
        | r => numberRest false r

/-- The elements of a list up to the closing bracket, and the rest; `read` holds those already read,
the last first. -/
def elements (fuel depth : Nat) (read : List Value) (cs : List Char) :
    Except Refusal (Value × List Char) :=
  match fuel with
  | 0 => .error .malformed
  | fuel + 1 =>
    match value fuel depth cs with
    | .error e => .error e
    | .ok (v, r) =>
      match skipBlanks r with
      | ',' :: r => elements fuel depth (v :: read) (skipBlanks r)
      | ']' :: r => .ok (.list (v :: read).reverse, r)
      | _ => .error .malformed

/-- The members of an object up to the closing brace, and the rest; `read` holds those already
read. -/
def members (fuel depth : Nat) (read : List (RawText × Value)) (cs : List Char) :
    Except Refusal (Value × List Char) :=
  match fuel with
  | 0 => .error .malformed
  | fuel + 1 =>
    match cs with
    | '"' :: r =>
      match textRest [] r with
      | none => .error .malformed
      | some (key, r) =>
        match skipBlanks r with
        | ':' :: r =>
          match value fuel depth (skipBlanks r) with
          | .error e => .error e
          | .ok (v, r) =>
            match skipBlanks r with
            | ',' :: r => members fuel depth (Keyed.put key v read) (skipBlanks r)
            | '\x7d' :: r => .ok (.object (Keyed.put key v read), r)
            | _ => .error .malformed
        | _ => .error .malformed
    | _ => .error .malformed

end

/-- How many lists and objects of a document may stand inside each other. -/
def maxDepth : Nat := 9997

/-- Read a document. -/
def Value.ofText (s : String) : Except ReadError Value :=
  let cs := skipBlanks s.toList
  match value (2 * cs.length + 1) maxDepth cs with
  | .error .malformed => .error .notJson
  | .error .tooDeep => .error .tooDeep
  | .error .tooManyDigits => .error .tooManyDigits
  | .ok (v, r) => if (skipBlanks r).isEmpty then .ok v else .error .notJson

end StakeRegistry.Json
