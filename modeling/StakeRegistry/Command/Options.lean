/-
The options of a command line.

An option is written `--name value` or `--name=value`, a flag `--name`. A name may be cut short as
long as it is that of one option only. The arguments are read in two passes.

* The first tells for each argument what it is. An argument that does not begin with a dash is a
  value, and so are a negative number and a text with a space in it, unless they name an option;
  every argument behind `--` is a value as well.
* The second takes the values of the options. A value that belongs to no option is an error, unless
  the command has subcommands: then it has to be one of them, and nothing may follow it.

`-h` and `--help` ask for help, which ends the reading unless an error comes before.
-/
import StakeRegistry.Json.Value
import StakeRegistry.Text.Digit

namespace StakeRegistry.Command

/-- What an option takes. -/
inductive OptionKind where
  /-- A text. -/
  | text
  /-- A text, each time that it is given. -/
  | texts
  /-- An integer numeral. -/
  | integer
  /-- One of some texts. -/
  | choice (among : List String)
  /-- Nothing. -/
  | flag
  deriving Repr, DecidableEq

/-- An option. -/
structure OptionSpec where
  /-- The name without the dashes. -/
  name : String
  kind : OptionKind
  required : Bool := false
  /-- What the option counts as given if it is not. -/
  default : Json.Value := .null
  deriving Repr

/-- What a command line may hold. -/
structure OptionTable where
  options : List OptionSpec
  /-- The subcommands, of which one has to be given if there are any. -/
  subcommands : List String := []

/-- What an option was given. -/
inductive Given where
  | text (s : String)
  | integer (n : Int)
  | present
  deriving Repr, DecidableEq

/-- A command line that was read: what its options were given, in the order of the arguments, and
the subcommand. -/
structure Parsed where
  given : List (String × Given) := []
  subcommand : Option String := none
  deriving Repr, DecidableEq

/-- Why a command line was not read. -/
inductive UsageError where
  /-- It is not as the command expects it. -/
  | usage
  /-- It asks for help. -/
  | help
  deriving Repr, DecidableEq

/-- What an argument is. -/
inductive Piece where
  | value (s : String)
  /-- The argument behind which everything is a value. -/
  | dashes
  | option (spec : OptionSpec) (value : Option String)
  /-- A question for help, with what it comes to. -/
  | help (outcome : UsageError)
  /-- The argument looks like an option, but names none. -/
  | unknown
  deriving Repr

/-- The text before the first `=` and the one behind it, if there is one. -/
def splitAssigned (s : String) : String × Option String :=
  match s.toList.dropWhile (· ≠ '=') with
  | [] => (s, none)
  | _ :: r => (String.ofList (s.toList.takeWhile (· ≠ '=')), some (String.ofList r))

/-- Is it a negative number in digits, perhaps with a point before the last of them? -/
def isNegativeNumber (s : String) : Bool :=
  let isDigit := fun c => (Text.digitValue? c).isSome
  match s.toList with
  | '-' :: r =>
    let r := if r.getLast? = some '\n' then r.dropLast else r
    match r.dropWhile isDigit with
    | [] => !r.isEmpty
    | '.' :: ds => !ds.isEmpty && ds.all isDigit
    | _ => false
  | _ => false

/-- The options that an argument may name: those of the table and help. -/
def OptionTable.names (t : OptionTable) : List (String × Option OptionSpec) :=
  ("--help", none) :: t.options.map fun o => ("--" ++ o.name, some o)

/-- The piece that names an option. Help takes no value. -/
def pieceOf (value : Option String) : Option OptionSpec → Piece
  | some spec => .option spec value
  | none => .help (if value.isSome then .usage else .help)

/-- What `-h` comes to with more behind it: a question for help, if that is the letter again. -/
def shortHelp (cs : List Char) : UsageError :=
  if !cs.isEmpty && cs.all (· = 'h') then .help else .usage

/-- What an argument is that begins with a dash and is not just that. -/
def OptionTable.classifyDashed (t : OptionTable) (s : String) : Except UsageError Piece :=
  let (name, value) := splitAssigned s
  if s = "-h" then .ok (.help .help)
  else
    match t.names.lookup s with
    | some spec => .ok (pieceOf none spec)
    | none =>
      if value.isSome && name = "-h" then .ok (.help (shortHelp (s.toList.drop 3)))
      else
        match if value.isSome then t.names.lookup name else none with
        | some spec => .ok (pieceOf value spec)
        | none =>
          match if "--".isPrefixOf s then t.names.filter fun o => name.isPrefixOf o.1 else [] with
          | [o] => .ok (pieceOf value o.2)
          | _ :: _ :: _ => .error .usage
          | [] =>
            if "-h".isPrefixOf s then .ok (.help (shortHelp (s.toList.drop 2)))
            else if isNegativeNumber s || s.contains ' ' then .ok (.value s)
            else .ok .unknown

/-- What an argument is. -/
def OptionTable.classify (t : OptionTable) (s : String) : Except UsageError Piece :=
  match s.toList with
  | '-' :: _ :: _ => t.classifyDashed s
  | _ => .ok (.value s)

/-- What the arguments are. -/
def OptionTable.pieces (t : OptionTable) : List String → Except UsageError (List Piece)
  | [] => .ok []
  | s :: r =>
    if s = "--" then .ok (.dashes :: r.map .value)
    else do return (← t.classify s) :: (← t.pieces r)

/-- What an option is given by a value. -/
def OptionSpec.take (spec : OptionSpec) (s : String) : Except UsageError Given :=
  match spec.kind with
  | .text | .texts => .ok (.text s)
  | .integer =>
    match readInteger s with
    | .ok n => .ok (.integer n)
    | .error _ => .error .usage
  | .choice among => if among.contains s then .ok (.text s) else .error .usage
  | .flag => .error .usage

/-- Read what follows a subcommand: it may only be a question for help. -/
def afterSubcommand : List Piece → Except UsageError Unit
  | [] => .ok ()
  | .help outcome :: _ => .error outcome
  | _ :: r => do
    afterSubcommand r
    .error .usage

/-- Read the arguments behind a subcommand. -/
def readRest (rest : List String) : Except UsageError Unit := do
  afterSubcommand (← OptionTable.pieces { options := [] } rest)

/-- Take the values of the options. `stray` tells whether there was something that belongs nowhere;
`rest` holds the arguments from the first piece on. -/
def OptionTable.read (t : OptionTable) (got : Parsed) (stray : Bool) (rest : List String) :
    List Piece → Except UsageError (Parsed × Bool)
  | [] => .ok (got, stray)
  | .value s :: r =>
    if t.subcommands.isEmpty then t.read got true rest.tail r
    else if t.subcommands.contains s then do
      readRest rest.tail
      .ok ({ got with subcommand := some s }, stray)
    else .error .usage
  | .dashes :: _ => .error .usage
  | .unknown :: r => t.read got true rest.tail r
  | .help outcome :: _ => .error outcome
  | .option spec value :: r =>
    match spec.kind, value, r with
    | .flag, none, r =>
      t.read { got with given := got.given ++ [(spec.name, .present)] } stray rest.tail r
    | _, some s, r => do
      let g ← spec.take s
      t.read { got with given := got.given ++ [(spec.name, g)] } stray rest.tail r
    | _, none, .value s :: r => do
      let g ← spec.take s
      t.read { got with given := got.given ++ [(spec.name, g)] } stray (rest.drop 2) r
    | _, none, _ => .error .usage

/-- Was an option given? -/
def Parsed.has (p : Parsed) (name : String) : Bool :=
  p.given.any fun g => g.1 = name

/-- Is everything there that the table requires? -/
def OptionTable.isComplete (t : OptionTable) (p : Parsed) : Bool :=
  t.options.all (fun o => !o.required || p.has o.name) &&
    (t.subcommands.isEmpty || p.subcommand.isSome)

/-- Read a command line. -/
def OptionTable.parse (t : OptionTable) (args : List String) : Except UsageError Parsed := do
  let (p, stray) ← t.read {} false args (← t.pieces args)
  if stray || !t.isComplete p then .error .usage else .ok p

/-- Everything that an option was given. -/
def Parsed.all (p : Parsed) (name : String) : List Given :=
  (p.given.filter fun g => g.1 = name).map Prod.snd

/-- What was given as a JSON value. -/
def Given.toValue : Given → Json.Value
  | .text s => .text s
  | .integer n => .int n
  | .present => .bool true

/-- The setting of an option: what it was given last, or its default. -/
def Parsed.setting (p : Parsed) (o : OptionSpec) : Json.Value :=
  match o.kind with
  | .flag => .bool (p.has o.name)
  | .texts => .list ((p.all o.name).map Given.toValue)
  | _ => ((p.all o.name).getLast?.map Given.toValue).getD o.default

/-- The settings of all options, and the subcommand if there are any. -/
structure Settings where
  values : Keyed String Json.Value
  subcommand : Option String := none

/-- The settings that a command line gives. -/
def OptionTable.settings (t : OptionTable) (args : List String) : Except UsageError Settings := do
  let p ← t.parse args
  return { values := t.options.map fun o => (o.name, p.setting o), subcommand := p.subcommand }

namespace Settings

/-- The text of a setting that may be missing. -/
def text? (s : Settings) (name : String) : Option String :=
  match s.values.find? name with
  | some (.text t) => some t.toString
  | _ => none

/-- The text of a setting. -/
def text (s : Settings) (name : String) : String :=
  (s.text? name).getD ""

/-- The integer of a setting that may be missing. -/
def integer? (s : Settings) (name : String) : Option Int :=
  match s.values.find? name with
  | some (.int n) => some n
  | _ => none

/-- The integer of a setting. -/
def integer (s : Settings) (name : String) : Int :=
  (s.integer? name).getD 0

/-- Is a flag set? -/
def flag (s : Settings) (name : String) : Bool :=
  match s.values.find? name with
  | some v => v.isTruthy
  | none => false

/-- All texts of a setting. -/
def texts (s : Settings) (name : String) : List String :=
  match s.values.find? name with
  | some (.list vs) => vs.map Json.Value.asText
  | _ => []

end Settings
end StakeRegistry.Command
