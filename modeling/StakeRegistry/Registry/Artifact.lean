/-
Snapshots of the registry's events in files.

A snapshot holds the events of one type up to a block and is named for the type, the time and the
block. Of the snapshots of a type in a directory, the one that was changed last is read.

The block stands in the name in full. It is taken for granted that it has at most
`Numeral.maxDigits` digits; the contents are written only if all of their numbers can be
(`Json.Value.toText?`).
-/
import StakeRegistry.Files.Text
import StakeRegistry.Host.Search
import StakeRegistry.Json.Reader
import StakeRegistry.Json.Writer
import StakeRegistry.Registry.Event

namespace StakeRegistry.Registry

/-- Why a snapshot cannot be written or read. -/
inductive ArtifactError where
  /-- The name is that of no type of events. -/
  | unknownType (name : String)
  | file (e : FileError)
  /-- The type makes no pattern of a path. -/
  | pattern (e : PatternError)
  /-- There is no snapshot of the type in the directory. -/
  | noArtifact (type directory : String)
  /-- The file is no JSON document. -/
  | undecodable (path : String) (cause : ReadError)
  | unreadable (e : ReadError)
  deriving Repr, DecidableEq

/-- What is told about a snapshot that cannot be written or read. -/
def ArtifactError.message : ArtifactError → Option String
  | unknownType name => some ("unknown event type: " ++ name)
  | file _ => none
  | pattern _ => none
  | noArtifact type directory =>
    some ("no " ++ type ++ " event files found in " ++ directory)
  | undecodable path cause =>
    some ("failed to decode events from file " ++ path ++ ": " ++ cause.text)
  | unreadable e => e.message

/-- The name of a snapshot. -/
def artifactName (type : String) (block : Int) (time : Moment) : String :=
  type ++ "_events_" ++ time.stamp ++ "_block_" ++ toString block ++ ".json"

/-- The pattern of the paths of the snapshots of a type, as it is seen from their directory. -/
def artifactPattern (type : String) : Except PatternError (List PathStep) :=
  readPathPattern (type ++ "_events_*.json")

/-- The events as a JSON document, if their numbers fit in. -/
def eventsText? (es : List Event) : Option String :=
  (Json.Value.list (es.map Event.toValue)).toText?

/-- Write a snapshot of events of a type and tell its path. -/
def writeEvents (directory : Path) (type : EventType) (es : List Event) (block : Int) :
    Act ArtifactError Path := do
  Act.orElse .file (← Act.ask (.file (.makeDirectory directory)))
  let path := directory.child (artifactName type.name block (← Act.ask .now))
  match eventsText? es with
  | none => throw (.unreadable .tooManyDigits)
  | some text =>
    Act.orElse .file (← Act.ask (.file (.write path text)))
    return path

/-- Write a snapshot of events of a type that is given by its name. -/
def writeNamed (directory : Path) (name : String) (es : List Event) (block : Int) :
    Act ArtifactError Path := do
  match EventType.ofName? name with
  | some type => writeEvents directory type es block
  | none => throw (.unknownType name)

/-- The first of the files that were changed last. -/
def newest? (files : List Found) : Option Path :=
  let later (best : Option Found) (f : Found) : Option Found :=
    match best with
    | none => some f
    | some b => if b.changed < f.changed then some f else some b
  (files.foldl later none).map Found.path

/-- The path of the newest snapshot of a type. A directory that is not there holds none. -/
def latestArtifact (directory : Path) (type : String) : Act ArtifactError Path := do
  let steps ← Act.orElse .pattern (artifactPattern type)
  match ← Act.ask (.file (.entries directory)) with
  | .error .tooLong => throw (.file .tooLong)
  | .error _ => throw (.noArtifact type directory.text)
  | .ok _ =>
    match newest? (← Act.search steps directory) with
    | some path => return path
    | none => throw (.noArtifact type directory.text)

/-- The events in a JSON document. A document without content holds none. -/
def eventsOfValue (v : Json.Value) : Except ReadError (List Event) := do
  if !v.isTruthy then return []
  (← v.elements).mapM Event.ofValue

/-- The events in the newest snapshot of a type. -/
def readEvents (directory : Path) (type : String) : Act ArtifactError (List Event) := do
  let path ← latestArtifact directory type
  Act.say ("Using artifact file: " ++ path.text)
  let bytes ← Act.orElse .file (← Act.ask (.file (.read path)))
  let text ← Act.orElse .unreadable (textFile bytes)
  match Json.Value.ofText text with
  | .ok v => Act.orElse .unreadable (eventsOfValue v)
  | .error .notJson => throw (.undecodable path.text .notJson)
  | .error e => throw (.unreadable e)

end StakeRegistry.Registry
