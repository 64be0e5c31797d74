/-
Files of environment variables.

Each statement binds a name to a value: `NAME=value`, perhaps after the word `export`. A value is
bare, up to the end of the line or to a comment, or stands between single or double quotes and may
then go over several lines. A comment begins with `#`, in a bare value only behind a blank. A
statement of another form binds nothing. A name without `=` has no value. In a value, `${NAME}` and
`${NAME:-default}` stand for the value of another variable. A byte order mark at the start of the
file is passed over.
-/
import StakeRegistry.Keyed
import StakeRegistry.Path
import StakeRegistry.Text.Blank
import StakeRegistry.Text.Lines
import StakeRegistry.Text.Lower

namespace StakeRegistry.Config

/-- The characters of a text. -/
abbrev Chars : Type := List Char

/-- A name with its value, if it has one. -/
abbrev Binding : Type := String × Option String

/-- What was read, with the rest of the text; or the rest at the place where reading failed. -/
abbrev Scan (α : Type) : Type := Except Chars (α × Chars)

/-- Is the character a blank within a line? -/
def isInlineBlank (c : Char) : Bool :=
  Text.isBlank c && !Text.isLineEnd c

/-- The characters up to the first one that passes a test, and the rest. -/
def upTo (p : Char → Bool) (cs : Chars) : Chars × Chars :=
  (cs.takeWhile (! p ·), cs.dropWhile (! p ·))

/-- The text without the word `export` and the blanks behind it. -/
def skipExport (cs : Chars) : Chars :=
  if "export".toList.isPrefixOf cs then
    let rest := cs.drop 6
    match rest with
    | c :: _ => if isInlineBlank c then rest.dropWhile isInlineBlank else cs
    | [] => cs
  else cs

/-- The name at the start of a binding; none before a comment. -/
def scanName : Chars → Scan (Option String)
  | '\'' :: r =>
    match upTo (· = '\'') r with
    | ([], _) => .error ('\'' :: r)
    | (_, []) => .error ('\'' :: r)
    | (name, _ :: rest) => .ok (some (String.ofList name), rest)
  | '#' :: r => .ok (none, '#' :: r)
  | cs =>
    match upTo (fun c => c = '=' || c = '#' || Text.isBlank c) cs with
    | ([], _) => .error cs
    | (name, rest) => .ok (some (String.ofList name), rest)

/-- The text between quotes, behind the opening one. What stands behind a backslash does not close
the text. -/
def scanQuoted (quote : Char) : Chars → Option (Chars × Chars)
  | [] => none
  | '\\' :: [] => none
  | '\\' :: c :: r => (scanQuoted quote r).map fun (text, rest) => ('\\' :: c :: text, rest)
  | c :: r =>
    if c = quote then some ([], r)
    else (scanQuoted quote r).map fun (text, rest) => (c :: text, rest)

/-- The character that a letter stands for behind a backslash. -/
def escape? (quote c : Char) : Option Char :=
  if c = '\\' || c = '\'' then some c
  else if quote = '\'' then none
  else match c with
    | '"' => some '"'
    | 'a' => some '\x07'
    | 'b' => some '\x08'
    | 'f' => some '\x0c'
    | 'n' => some '\n'
    | 'r' => some '\r'
    | 't' => some '\t'
    | 'v' => some '\x0b'
    | _ => none

/-- The text with what stands behind a backslash replaced. -/
def unescape (quote : Char) : Chars → Chars
  | [] => []
  | '\\' :: c :: r =>
    match escape? quote c with
    | some d => d :: unescape quote r
    | none => '\\' :: unescape quote (c :: r)
  | c :: r => c :: unescape quote r

/-- A bare value without a comment behind a blank. -/
def withoutComment : Chars → Chars
  | [] => []
  | c :: r =>
    if Text.isBlank c && ((c :: r).dropWhile Text.isBlank).head? = some '#' then []
    else c :: withoutComment r

/-- A text without the blanks at its end. -/
def trimEnd (cs : Chars) : Chars :=
  (cs.reverse.dropWhile Text.isBlank).reverse

/-- A bare value, which goes up to a comment or to the end of the line. -/
def scanBare (cs : Chars) : String × Chars :=
  let (part, rest) := upTo Text.isLineEnd cs
  (String.ofList ((trimEnd (withoutComment part)).dropWhile isInlineBlank), rest)

/-- The value behind the `=` of a binding. -/
def scanValue (cs : Chars) : Scan String :=
  match cs.dropWhile isInlineBlank with
  | [] => .ok ("", [])
  | c :: r =>
    if c = '\'' || c = '"' then
      match scanQuoted c r with
      | some (text, rest) => .ok (String.ofList (unescape c text), rest)
      | none => .error (c :: r)
    else .ok (scanBare cs)

/-- The text behind a comment, if there is one. -/
def skipComment (cs : Chars) : Chars :=
  let rest := cs.dropWhile isInlineBlank
  match rest with
  | '#' :: _ => rest.dropWhile (! Text.isLineEnd ·)
  | _ => cs

/-- The text behind the end of a line. -/
def scanLineEnd (cs : Chars) : Scan Unit :=
  match cs.dropWhile isInlineBlank with
  | [] => .ok ((), [])
  | '\r' :: '\n' :: r => .ok ((), r)
  | c :: r => if Text.isLineEnd c then .ok ((), r) else .error cs

/-- The text behind the line that it begins with. -/
def skipLine (cs : Chars) : Chars :=
  match cs.dropWhile (! Text.isLineEnd ·) with
  | [] => []
  | _ :: r => r

/-- The value behind a name, if there is an `=`. -/
def scanAssigned : Chars → Scan (Option String)
  | '=' :: r => (scanValue r).map fun (v, rest) => (some v, rest)
  | cs => .ok (none, cs)

/-- One binding, up to the end of its line. -/
def scanBinding (cs : Chars) : Except Chars (Option Binding × Chars) := do
  let (name, rest) ← scanName (skipExport cs)
  let rest := rest.dropWhile isInlineBlank
  let (value, rest) ← scanAssigned rest
  let (_, rest) ← scanLineEnd (skipComment rest)
  return (name.map fun n => (n, value), rest)

/-- A statement of a text. -/
inductive Statement where
  | binding (b : Binding)
  /-- A statement of another form, which counts from the line behind the statement before it, blank
  lines included. -/
  | malformed (line : Nat)
  deriving Repr, DecidableEq

/-- The statements of the rest of a text that has the given number of line ends, at most `fuel` of
them. -/
def statementsFrom (lineEnds : Nat) : (fuel : Nat) → Chars → List Statement
  | 0, _ => []
  | fuel + 1, cs =>
    match cs.dropWhile Text.isBlank with
    | [] => []
    | start =>
      match scanBinding start with
      | .ok (some b, rest) => .binding b :: statementsFrom lineEnds fuel rest
      | .ok (none, rest) => statementsFrom lineEnds fuel rest
      | .error rest =>
        .malformed (lineEnds - cs.count '\n' + 1) :: statementsFrom lineEnds fuel (skipLine rest)

/-- The text without a byte order mark in front. -/
def withoutMark : Chars → Chars
  | '\ufeff' :: r => r
  | cs => cs

/-- The statements of a text, in their order. Each takes up at least one character. -/
def statements (s : String) : List Statement :=
  let cs := withoutMark s.toList
  statementsFrom (cs.count '\n') (cs.length + 1) cs

/-- The binding of a statement, if it is of the right form. -/
def Statement.binding? : Statement → Option Binding
  | binding b => some b
  | malformed _ => none

/-- What is told about a statement of another form. -/
def Statement.warning? : Statement → Option String
  | binding _ => none
  | malformed line =>
    some ("python-dotenv could not parse statement starting at line " ++ toString line)

/-- A name between `${` and `}`, with the default behind `:-`, and the rest of the text. -/
def scanVariable (cs : Chars) : Option (String × String × Chars) :=
  let (name, rest) := upTo (fun c => c = '\x7d' || c = ':') cs
  match rest with
  | '\x7d' :: r => some (String.ofList name, "", r)
  | ':' :: '-' :: r =>
    match upTo (· = '\x7d') r with
    | (default, _ :: rest) => some (String.ofList name, String.ofList default, rest)
    | _ => none
  | _ => none

/-- The text with the variables in it replaced by what `value?` gives for them, or by their
defaults. -/
def interpolateFrom (value? : String → Option String) : (fuel : Nat) → Chars → Chars
  | 0, cs => cs
  | _ + 1, [] => []
  | fuel + 1, '$' :: '\x7b' :: r =>
    match scanVariable r with
    | some (name, default, rest) =>
      ((value? name).getD default).toList ++ interpolateFrom value? fuel rest
    | none => '$' :: interpolateFrom value? fuel ('\x7b' :: r)
  | fuel + 1, c :: r => c :: interpolateFrom value? fuel r

/-- The text with the variables in it replaced. -/
def interpolate (value? : String → Option String) (s : String) : String :=
  String.ofList (interpolateFrom value? s.length s.toList)

/-- What a name stands for: the variable of the environment, or else what is bound before; a name
that is bound without a value stands for nothing. -/
def valueOf (env : Keyed String String) (bound : Keyed String (Option String)) (name : String) :
    Option String :=
  match env.find? name with
  | some v => some v
  | none => (bound.find? name).map (·.getD "")

/-- Each bound name with its last value, the variables in it replaced. -/
def resolveBindings (env : Keyed String String) (bs : List Binding) :
    Keyed String (Option String) :=
  bs.foldl (fun bound b => bound.put b.1 (b.2.map (interpolate (valueOf env bound)))) []

/-- Why a variable cannot be put into an environment. -/
inductive VariableError where
  /-- The name or the value holds the character NUL. -/
  | hasNul
  /-- The name holds the character `=`. -/
  | badName
  deriving Repr, DecidableEq

/-- What is told about a variable that cannot be put into an environment. -/
def VariableError.message : VariableError → String
  | hasNul => Path.nulText
  | badName => "illegal environment variable name"

/-- A variable, if it can be put into an environment. -/
def checkVariable (v : String × String) : Except VariableError (String × String) :=
  if v.1.contains '\x00' || v.2.contains '\x00' then .error .hasNul
  else if v.1.contains '=' then .error .badName
  else .ok v

/-- The variables that statements add to an environment; those that are already there stay. -/
def additions (env : Keyed String String) (ss : List Statement) :
    Except VariableError (Keyed String String) :=
  let bound := resolveBindings env (ss.filterMap Statement.binding?)
  (bound.filterMap fun (name, value) =>
    match env.find? name, value with
    | none, some v => some (name, v)
    | _, _ => none).mapM checkVariable

/-- The variable that has files of environment variables left alone. -/
def switchName : String := "PYTHON_DOTENV_DISABLED"

/-- The words that set the switch, in any letter case. -/
def switchWords : List String := ["1", "true", "t", "yes", "y"]

/-- Does an environment say that files of variables are left alone? The long s counts as an s. -/
def isSwitchedOff (env : Keyed String String) : Bool :=
  match env.find? switchName with
  | some word => switchWords.contains (Text.lower (word.map fun c => if c = 'ſ' then 's' else c))
  | none => false

/-- What is told when a file of variables is left alone. -/
def switchedOffText : String :=
  "python-dotenv: .env loading disabled by " ++ switchName ++ " environment variable"

end StakeRegistry.Config
