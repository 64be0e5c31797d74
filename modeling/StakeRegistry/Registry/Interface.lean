/-
The interface of the registry contract: its methods and its events.

A node prepares calls of a contract with the interface of it, as a JSON document (`interfaceValue`).
-/
import StakeRegistry.Registry.Event

namespace StakeRegistry.Registry

/-- A value that a method takes or gives. -/
structure Parameter where
  name : String
  type : String
  deriving Repr, DecidableEq

/-- How a method deals with the state of the contract. -/
inductive Mutability where
  | payable
  | nonpayable
  | view
  deriving Repr, DecidableEq

/-- The name of a way to deal with the state. -/
def Mutability.name : Mutability → String
  | payable => "payable"
  | nonpayable => "nonpayable"
  | view => "view"

/-- A method. -/
structure Method where
  name : String
  inputs : List Parameter
  outputs : List Parameter := []
  mutability : Mutability
  deriving Repr, DecidableEq

/-- The methods of the registry. -/
def methods : List Method := [
  { name := "stake", inputs := [⟨"valBLSPubKeys", "bytes[]"⟩], mutability := .payable },
  { name := "delegateStake", mutability := .payable
    inputs := [⟨"valBLSPubKeys", "bytes[]"⟩, ⟨"stakeOriginator", "address"⟩] },
  { name := "unstake", inputs := [⟨"valBLSPubKeys", "bytes[]"⟩], mutability := .nonpayable },
  { name := "withdraw", inputs := [⟨"valBLSPubKeys", "bytes[]"⟩], mutability := .nonpayable },
  { name := "getNumberOfStakedValidators", inputs := [], mutability := .view
    outputs := [⟨"", "uint256"⟩, ⟨"", "uint256"⟩] },
  { name := "getStakedValidators", mutability := .view
    inputs := [⟨"start", "uint256"⟩, ⟨"end", "uint256"⟩]
    outputs := [⟨"", "bytes[]"⟩, ⟨"", "uint256"⟩] }]

/-- The values of an event, with the mark of those that events can be searched by. -/
def eventInputs : List (Parameter × Bool) := [
  (⟨"txOriginator", "address"⟩, true),
  (⟨"valBLSPubKey", "bytes"⟩, false),
  (⟨"amount", "uint256"⟩, false)]

/-- A parameter as a JSON object. -/
def Parameter.toValue (p : Parameter) : Json.Value :=
  .object [("name", .text p.name), ("type", .text p.type)]

/-- A method as a JSON object. -/
def Method.toValue (m : Method) : Json.Value :=
  .object [
    ("inputs", .list (m.inputs.map Parameter.toValue)),
    ("name", .text m.name),
    ("outputs", .list (m.outputs.map Parameter.toValue)),
    ("stateMutability", .text m.mutability.name),
    ("type", .text "function")]

/-- A type of events as a JSON object. -/
def eventInterface (t : EventType) : Json.Value :=
  .object [
    ("anonymous", .bool false),
    ("inputs", .list (eventInputs.map fun (p, indexed) =>
      .object [("indexed", .bool indexed), ("name", .text p.name), ("type", .text p.type)])),
    ("name", .text t.logName),
    ("type", .text "event")]

/-- The interface as a JSON document. -/
def interfaceValue : Json.Value :=
  .list (methods.map Method.toValue ++ EventType.all.map eventInterface)

end StakeRegistry.Registry
