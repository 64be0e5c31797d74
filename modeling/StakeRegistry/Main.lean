/-
The program: a command named by its first argument, carried out on this machine.

Files, the environment and the clock are those of the machine. There is no connection to a node or
to a web service and no key store; what needs one fails.
-/
import StakeRegistry.Command.Dispatch

namespace StakeRegistry

/-- The failure of everything that needs a connection. -/
def noConnection {α : Type} : Except Fault α :=
  .error (.reported .connection "no connection")

/-- The answers of a machine without a connection to a node. -/
def offlineNode : (c : NodeCall) → c.Answer
  | .connect _ _ => false
  | .chainId => noConnection
  | .blockNumber => noConnection
  | .priorityFee => noConnection
  | .gasPrice => noConnection
  | .balance _ => noConnection
  | .transactionCount _ => noConnection
  | .contract _ _ => ()
  | .stakedCount _ => noConnection
  | .stakedPage _ _ _ => noConnection
  | .logs _ _ _ _ => noConnection
  | .build _ _ => noConnection
  | .sign _ _ => noConnection
  | .send _ => noConnection
  | .wait _ _ _ => noConnection
  | .receipt _ => noConnection

/-- What an error of the machine says about a file. -/
def fileErrorOf : IO.Error → FileError
  | .alreadyExists .. => .alreadyThere
  | .inappropriateType .. => .isDirectory
  | .resourceBusy .. => .isDirectory
  | _ => .notFound

/-- The files of the machine. -/
def machineFile : (c : FileCall) → IO c.Answer
  | .isThere p => do
    let there ← (do let _ ← (← IO.FS.realPath p.text).metadata; return true) <|> return false
    return (.ok there : Except FileError Bool)
  | .read p => do
    try return (.ok (← IO.FS.readBinFile p.text) : Except FileError ByteArray)
    catch e => return (.error (fileErrorOf e) : Except FileError ByteArray)
  | .write p text => do
    try
      IO.FS.writeFile p.text text
      return (.ok () : Except FileError Unit)
    catch e => return (.error (fileErrorOf e) : Except FileError Unit)
  | .makeDirectory p => do
    try
      IO.FS.createDirAll p.text
      return (.ok () : Except FileError Unit)
    catch e => return (.error (fileErrorOf e) : Except FileError Unit)
  | .entries p => do
    let read := do
      (← (← IO.FS.realPath p.text).readDir).toList.mapM fun e => do
        let data ← e.path.metadata
        return { name := e.fileName
                 isDirectory := data.type matches .dir
                 changed := data.modified.sec * 1000000000 + data.modified.nsec.toNat :
                 DirectoryEntry }
    try return (.ok (← read) : Except FileError (List DirectoryEntry))
    catch e => return (.error (fileErrorOf e) : Except FileError (List DirectoryEntry))
  | .workingDirectory => return Path.ofText (← IO.currentDir).toString
  | .programDirectory => return Path.ofText (← IO.appDir).toString

/-- The variables of the environment that the configuration looks at. -/
def machineEnvironment : IO (Keyed String String) := do
  let names := ["RPC_URL", "REGISTRY_ADDRESS", "CHAIN_ID", "BEACON_API_URL", "EXPLORER_API_URL",
    "ANALYTICS_API_URL", "ANALYTICS_API_KEY", "PRIVATE_KEY", "KEYSTORE_FILE", "PASSPHRASE",
    Config.switchName]
  let found ← names.mapM fun n => do return (← IO.getEnv n).map fun v => (n, v)
  return found.filterMap id

/-- The time: that of the last change of the machine's record of this process. -/
def machineTime : IO (Moment × Nat) := do
  let process ← IO.FS.realPath "/proc/self"
  let t := (← process.metadata).modified
  return (Moment.ofSeconds t.sec.toNat, t.nsec.toNat / 1000000)

/-- The answers of this machine. -/
def machine (verbose : Bool) : (c : Host.Call) → IO (Host.Answer c)
  | .say line => IO.println line
  | .log r => do
    if r.level.isShown verbose then
      let (time, milliseconds) ← machineTime
      IO.eprintln (r.line (time.logText milliseconds))
  | .now => return (← machineTime).1
  | .clock => return (← IO.monoNanosNow) / 1000
  | .sleep t =>
    match t with
    | .whole n => IO.sleep (UInt32.ofNat (n.toNat * 1000))
    | .fractional (.finite false m e) =>
      IO.sleep (UInt32.ofNat (Numeral.Binary64.truncate false (m * 1000) e).toNat)
    | .fractional _ => return ()
  | .workers count => return FinishingOrder.inTurn count
  | .environment => machineEnvironment
  | .decrypt _ _ => return (noConnection : Except Fault String)
  | .file c => machineFile c
  | .node c => return offlineNode c
  | .web _ => return (noConnection : Except Fault WebResponse)

/-- Carry out a command and tell the exit code. -/
def runCommand (i : Command.Invocation) : IO UInt32 := do
  match ← Program.interpret (I := Host) (machine i.verbose) i.act.run with
  | .ok () => return 0
  | .error e =>
    IO.eprintln ("Error: " ++ e.message.getD "the input cannot be used")
    return 1

end StakeRegistry

open StakeRegistry in
/-- Run the command that the first argument names. -/
def main (args : List String) : IO UInt32 := do
  match args with
  | [] => return 2
  | name :: rest =>
    match Command.Name.ofText? name with
    | none => return 2
    | some c =>
      match c.invoke rest with
      | .error .help => return 0
      | .error .usage => return 2
      | .ok i => runCommand i
