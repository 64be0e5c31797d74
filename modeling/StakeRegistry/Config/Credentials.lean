/-
The account that signs, and the variables of the environment.
-/
import StakeRegistry.Account.PrivateKey
import StakeRegistry.Config.EnvFile
import StakeRegistry.Config.Network
import StakeRegistry.Files.Text
import StakeRegistry.Host.Call

namespace StakeRegistry.Config

/-- Why a run cannot be set up. -/
inductive SetupError where
  | config (e : ConfigError)
  | envVariable (e : VariableError)
  | file (e : FileError)
  | fault (f : Fault)
  | unreadable (e : ReadError)
  deriving Repr, DecidableEq

/-- What is told about a run that cannot be set up. -/
def SetupError.message : SetupError → Option String
  | config e => e.message
  | envVariable e => some e.message
  | file _ => none
  | fault f => f.message
  | unreadable e => e.message

/-- The account of a private key from the environment. -/
def accountOfVariable (text : String) : Except ConfigError Account :=
  let key := Text.trim text
  match Account.ofKey (if Text.hasLeading "0x" key then key else "0x" ++ key) with
  | .ok a => .ok a
  | .error e => .error (.badPrivateKey e)

/-- The private key in a keystore. -/
def decrypt (path : Path) (password : String) : Act SetupError String := do
  let bytes ← Act.orElse .file (← Act.ask (.file (.read path)))
  match textFile bytes with
  | .error e => throw (.config (.undecryptable path.text (.unreadable e)))
  | .ok text =>
    match ← Act.ask (.decrypt text password) with
    | .ok key => return key
    | .error (.reported .value m) => throw (.config (.undecryptable path.text (.reported .value m)))
    | .error f => throw (.fault f)

/-- The account of a keystore. -/
def accountOfKeystore (file : String) (password : Option String) : Act SetupError Account := do
  match password with
  | none => throw (.config .noPassphrase)
  | some password =>
    let path := Path.ofText file
    if !(← Act.orElse .file (← Act.ask (.file (.isThere path)))) then
      throw (.config (.keystoreMissing path.text))
    let key ← decrypt path password
    Act.orElse .unreadable (Account.ofKey key)

/-- The account that signs: that of the private key, or else that of the keystore. -/
def loadAccount (n : Network) : Act SetupError Account := do
  match n.privateKey, n.keystoreFile with
  | some key, _ => Act.orElse .config (accountOfVariable key)
  | none, some file => accountOfKeystore file n.keystorePassword
  | none, none => throw (.config .noCredentials)

/-- The directories above a directory, the nearest first. -/
def above : (count : Nat) → Path → List Path
  | 0, _ => []
  | count + 1, p => p.parent :: above count p.parent

/-- The name of a file of environment variables. -/
def envFileName : String := ".env"

/-- The first of the paths at which something is. -/
def firstThere : List Path → Act SetupError (Option Path)
  | [] => return none
  | p :: rest => do
    if ← Act.orElse .file (← Act.ask (.file (.isThere p))) then return some p
    firstThere rest

/-- The path of the file of environment variables: in the working directory, or else in one of the
five directories above the one given. -/
def findEnvFile (start : Path) : Act SetupError (Option Path) :=
  firstThere (Path.ofText envFileName :: (above 5 start).map fun p => p.child envFileName)

/-- The text of a file of environment variables. A directory in its place holds no text. -/
def envFileText (path : Path) : Act SetupError String := do
  match ← Act.ask (.file (.read path)) with
  | .error .isDirectory => return ""
  | .error e => throw (.file e)
  | .ok bytes => Act.orElse .unreadable (textFile bytes)

/-- Keep a record about a file of environment variables. -/
def noteEnvFile (level : LogLevel) (message : String) : Act SetupError Unit :=
  Act.ask (.log { level, source := .envFile, message })

/-- The variables that a file adds to those of the run. What cannot be read in it is told. -/
def variablesOfFile (path : Path) (env : Keyed String String) :
    Act SetupError (Keyed String String) := do
  if isSwitchedOff env then
    noteEnvFile .debug switchedOffText
    return []
  let ss := statements (← envFileText path)
  (ss.filterMap Statement.warning?).forM (noteEnvFile .warning)
  Act.orElse .envVariable (additions env ss)

/-- The file of environment variables, and the variables that it adds to those of the run. -/
def loadEnvFile (start : Path) (env : Keyed String String) :
    Act SetupError (Option Path × Keyed String String) := do
  match ← findEnvFile start with
  | none => return (none, [])
  | some path => return (some path, ← variablesOfFile path env)

end StakeRegistry.Config
