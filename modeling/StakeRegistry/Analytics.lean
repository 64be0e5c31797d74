/-
Opened commitments, as the analytics service tells them.

The service answers with rows, each with the number of a block. Of several rows with one number the
last counts.
-/
import StakeRegistry.Host.Call
import StakeRegistry.Json.Reader

namespace StakeRegistry.Analytics

/-- A commitment that was opened for a block. -/
structure OpenedCommit where
  blockNumber : Int
  bid : Json.Value
  hash : Json.Value
  deriving Repr

/-- Why there are no commitments. -/
inductive AnalyticsError where
  | fault (f : Fault)
  /-- The service refused the request with a status. -/
  | refused (status : Int) (body : String)
  /-- The answer holds no rows. -/
  | unexpected (cause : ReadError)
  /-- A row has no block number. -/
  | badRow (row : String)
  /-- The rows, or a block number, are of a kind that is not provided for. -/
  | unreadable (e : ReadError)
  deriving Repr, DecidableEq

/-- What is told about missing commitments. -/
def AnalyticsError.message : AnalyticsError → Option String
  | fault f => f.message
  | refused status body => some ("analytics API returned " ++ toString status ++ ": " ++ body)
  | unexpected cause => some ("unexpected analytics API response: " ++ cause.text)
  | badRow row => some ("bad blockNumber in analytics row " ++ row)
  | unreadable e => e.message

/-- The rows in the text of an answer. -/
def rowsIn (text : String) : Except ReadError Json.Value := do
  let body ← Json.Value.ofText text
  let response ← body.field "syncSqlResponse"
  let result ← response.field "result"
  result.field "rows"

/-- The commitment in a row. -/
def commitOfRow (row : Json.Value) : Except AnalyticsError OpenedCommit := do
  match row.field "blockNumber" >>= Json.Value.toInteger with
  | .error .infinite => throw (.unreadable .infinite)
  | .error _ => throw (.badRow row.quoted)
  | .ok blockNumber =>
    match row.member "bidAmt" (.text ""), row.member "transaction_hash" (.text "") with
    | .ok bid, .ok hash => return { blockNumber, bid, hash }
    | _, _ => throw (.unreadable .noMembers)

/-- The commitments in rows, each under its block number. -/
def commitsOfRows (rows : Json.Value) : Except AnalyticsError (Keyed Int OpenedCommit) := do
  if !rows.isTruthy then return []
  match rows.elements with
  | .error e => throw (.unreadable e)
  | .ok rows =>
    let commits ← rows.mapM commitOfRow
    return commits.foldl (fun m c => m.put c.blockNumber c) []

/-- Why an answer without rows is refused: one that is too deep is not looked at any further. -/
def AnalyticsError.ofAnswer : ReadError → AnalyticsError
  | .tooDeep => .unreadable .tooDeep
  | e => .unexpected e

/-- The opened commitments, each under its block number. -/
def openedCommits (api key : String) : Act AnalyticsError (Keyed Int OpenedCommit) := do
  let r ← Act.orElse .fault (← Act.ask (.web {
    method := .post, url := api, headers := [("api-key", key)], body := some (.object []) }))
  if r.status ≠ 200 then throw (.refused r.status r.text)
  let rows ← Act.orElse .ofAnswer (rowsIn r.text)
  Act.orElse id (commitsOfRows rows)

end StakeRegistry.Analytics
