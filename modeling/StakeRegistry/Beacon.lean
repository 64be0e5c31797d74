/-
What the consensus layer knows: the proposers of an epoch, the block of a slot, and whether a
validator is registered.
-/
import StakeRegistry.Host.Call
import StakeRegistry.Json.Reader
import StakeRegistry.Text.Blank

namespace StakeRegistry.Beacon

/-- Why a question to the consensus layer has no answer. -/
inductive BeaconError where
  | fault (f : Fault)
  | unreadable (e : ReadError)
  /-- The proposers of the epoch are not known yet. -/
  | futureEpoch (epoch : Int)
  /-- The proposers were refused with a status. -/
  | dutiesRefused (status : Int) (body : String)
  /-- A block was refused with a status. -/
  | blockRefused (status : Int)
  /-- The block of a slot tells no number. -/
  | noBlockNumber (slot : Int)
  /-- A validator was refused with a status. -/
  | validatorRefused (status : Int)
  deriving Repr, DecidableEq

/-- What a node answers about an epoch that is not known yet. -/
def futureEpochText : String :=
  "Proposer duties were requested for a future epoch"

/-- What is told about an unanswered question. -/
def BeaconError.message : BeaconError → Option String
  | fault f => f.message
  | unreadable e => e.message
  | futureEpoch epoch => some (futureEpochText ++ ": " ++ toString epoch)
  | dutiesRefused status body =>
    some ("unexpected status code: " ++ toString status ++ ", response: " ++ body)
  | blockRefused status => some ("unexpected status code: " ++ toString status)
  | noBlockNumber slot => some ("no execution payload in block for slot " ++ toString slot)
  | validatorRefused status => some ("failed to get validator status: " ++ toString status)

/-- The address of a resource of a service. -/
def resource (service path : String) : String :=
  Text.dropTrailing '/' service ++ path

/-- Get a resource. -/
def get (url : String) (headers : Keyed String String) : Act BeaconError WebResponse := do
  Act.orElse .fault (← Act.ask (.web { method := .get, url, headers }))

/-- The headers of a request for JSON. -/
def acceptJson : Keyed String String := [("Accept", "application/json")]

/-- The proposers of an epoch as the node tells them. -/
def proposerDuties (api : String) (epoch : Int) : Act BeaconError Json.Value := do
  let r ← get (resource api ("/eth/v1/validator/duties/proposer/" ++ toString epoch)) acceptJson
  if r.status ≠ 200 then
    if Text.contains futureEpochText r.text then throw (.futureEpoch epoch)
    throw (.dutiesRefused r.status r.text)
  let body ← Act.orElse .unreadable (Json.Value.ofText r.text)
  Act.orElse .unreadable (body.member "data" (.list []))

/-- The block number in the answer about a slot. -/
def blockNumberIn (body : Json.Value) : Except ReadError (Option Json.Value) := do
  let data ← body.member "data" (.object [])
  let message ← data.member "message" (.object [])
  let body ← message.member "body" (.object [])
  let payload ← body.member "execution_payload" (.object [])
  match ← payload.member "block_number" .null with
  | .null => return none
  | v => return some v

/-- The number of the block that was proposed in a slot; none if the slot was missed. -/
def blockOfSlot (api : String) (slot : Int) : Act BeaconError (Option Int) := do
  let r ← get (resource api ("/eth/v2/beacon/blocks/" ++ toString slot)) acceptJson
  if r.status = 404 then return none
  if r.status ≠ 200 then throw (.blockRefused r.status)
  let body ← Act.orElse .unreadable (Json.Value.ofText r.text)
  match ← Act.orElse .unreadable (blockNumberIn body) with
  | none => throw (.noBlockNumber slot)
  | some v => return some (← Act.orElse .unreadable v.toInteger)

/-- Does the answer about a validator say that it exists? -/
def tellsRegistered (body : Json.Value) : Except ReadError Bool := do
  match ← body.member "status" .null with
  | .text "OK" => return (← body.member "data" .null).isTruthy
  | _ => return false

/-- Does a block explorer know a validator? -/
def isRegistered (explorer pubkey : String) : Act BeaconError Bool := do
  let key := if Text.hasLeading "0x" pubkey then pubkey else "0x" ++ pubkey
  let r ← get (resource explorer ("/validator/" ++ key)) []
  if r.status ≠ 200 then throw (.validatorRefused r.status)
  let body ← Act.orElse .unreadable (Json.Value.ofText r.text)
  Act.orElse .unreadable (tellsRegistered body)

end StakeRegistry.Beacon
