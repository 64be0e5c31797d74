/-
JSON values.

An object keeps its members in the order of their first appearance, and of several values under one
key the last. Integers and floating-point numbers are kept apart, as a document tells them apart by
their spelling.
-/
import StakeRegistry.Keyed
import StakeRegistry.Numeral.Binary64
import StakeRegistry.ReadError

namespace StakeRegistry.Json

/-- A JSON value. -/
inductive Value where
  | null
  | bool (b : Bool)
  | int (i : Int)
  | real (x : Numeral.Binary64)
  | text (s : RawText)
  | list (vs : List Value)
  | object (members : List (RawText × Value))
  deriving Repr, Inhabited

namespace Value

/-- A text of characters. -/
def string (s : String) : Value :=
  text s

/-- An object whose keys are texts of characters. -/
def record (members : List (String × Value)) : Value :=
  object (members.map fun m => (m.1, m.2))

/-- Does a value count as present? Null, `false`, zero and everything empty do not. -/
def isTruthy : Value → Bool
  | null => false
  | bool b => b
  | int i => i != 0
  | real x => !x.isZero
  | text s => !s.isEmpty
  | list vs => !vs.isEmpty
  | object ms => !ms.isEmpty

/-- The integer that a value stands for: a number without its fraction, the number a numeral
denotes, or one and zero for the truth values. -/
def toInteger : Value → Except ReadError Int
  | int i => .ok i
  | bool b => .ok (if b then 1 else 0)
  | real .notANumber => .error .noIntegerPart
  | real (.infinite _) => .error .infinite
  | real (.finite negative m e) => .ok (Numeral.Binary64.truncate negative m e)
  | text s => readRawInteger s
  | null => .error .wrongKind
  | list _ => .error .wrongKind
  | object _ => .error .wrongKind

/-- The value under a key that has to be there. -/
def field (v : Value) (key : String) : Except ReadError Value :=
  match v with
  | object ms =>
    match Keyed.find? (key : RawText) ms with
    | some w => .ok w
    | none => .error (.missingKey key)
  | _ => .error .wrongKind

/-- The value under a key that may be missing. -/
def member? (v : Value) (key : String) : Except ReadError (Option Value) :=
  match v with
  | object ms => .ok (Keyed.find? (key : RawText) ms)
  | _ => .error .noMembers

/-- The value under a key, or the default if it is missing. -/
def member (v : Value) (key : String) (default : Value) : Except ReadError Value :=
  (v.member? key).map (·.getD default)

/-- The values that a walk through a value meets: the elements of a list, the keys of an object, the
characters of a text. -/
def elements : Value → Except ReadError (List Value)
  | list vs => .ok vs
  | object ms => .ok (ms.map fun m => text m.1)
  | text s => .ok (s.points.map fun p => text ⟨[p]⟩)
  | _ => .error .wrongKind

mutual

/-- The value as it is told in a message: texts quoted, members and elements between brackets. -/
def quoted : Value → String
  | null => "None"
  | bool b => if b then "True" else "False"
  | int i => toString i
  | real x => x.toText
  | text s => s.quoted
  | list vs => "[" ++ ", ".intercalate (quotedElements vs) ++ "]"
  | object ms => "\x7b" ++ ", ".intercalate (quotedMembers ms) ++ "\x7d"

/-- The elements of a list as they are told. -/
def quotedElements : List Value → List String
  | [] => []
  | v :: r => quoted v :: quotedElements r

/-- The members of an object as they are told. -/
def quotedMembers : List (RawText × Value) → List String
  | [] => []
  | (k, v) :: r => (k.quoted ++ ": " ++ quoted v) :: quotedMembers r

end

/-- A value as a text: a text is itself, everything else is written as it is told in a message. -/
def asText : Value → String
  | text s => s.toString
  | v => v.quoted

end Value

end StakeRegistry.Json
