/-
Why a command fails.
-/
import StakeRegistry.Analytics
import StakeRegistry.Beacon
import StakeRegistry.Config.Credentials
import StakeRegistry.Node.Client
import StakeRegistry.Node.Connection
import StakeRegistry.OptIn.Scan
import StakeRegistry.OptIn.Tables
import StakeRegistry.Registry.Pubkey
import StakeRegistry.Registry.Selection
import StakeRegistry.Registry.Store

namespace StakeRegistry.Command

/-- Why a command fails. -/
inductive Failure where
  | setup (e : Config.SetupError)
  | node (e : Node.NodeError)
  | query (e : Registry.QueryError)
  | store (e : Registry.StoreError)
  | batch (e : Tx.BatchError)
  | table (e : OptIn.TableError)
  | scan (e : OptIn.ScanError)
  | beacon (e : Beacon.BeaconError)
  | analytics (e : Analytics.AnalyticsError)
  | pubkey (e : Registry.PubkeyError)
  | plan (e : Registry.PlanError)
  | file (e : FileError)
  | unreadable (e : ReadError)
  | keysFileMissing (path : String)
  | keysFileHasNul
  | noPubkeys (path : String)
  | batchSizeNotPositive
  | snapshotsDiffer (directory : String)
  deriving Repr, DecidableEq

/-- What is told about batches of no positive size. -/
def batchSizeText : String := "batch size must be positive"

/-- What is told about a failed command, unless the wording is that of the platform. -/
def Failure.message : Failure → Option String
  | setup e => e.message
  | node e => e.message
  | query e => e.message
  | store e => e.message
  | batch e => e.message
  | table e => e.message
  | scan e => e.message
  | beacon e => e.message
  | analytics e => e.message
  | pubkey e => some e.message
  | plan .sizeNotPositive => some batchSizeText
  | plan .notHex => none
  | file _ => none
  | unreadable e => e.message
  | keysFileMissing path => some ("keys file not found: " ++ path)
  | keysFileHasNul => some Path.nulText
  | noPubkeys path => some ("no BLS pubkeys found in " ++ path)
  | batchSizeNotPositive => some batchSizeText
  | snapshotsDiffer directory =>
    some ("event artifacts in " ++ directory ++ " do not match chain logs")

end StakeRegistry.Command
