/-
Surroundings of a host's programs.
-/
import StakeRegistry.Host.Call

namespace StakeRegistry

/-- The failure of what cannot be reached. -/
def unreached {α : Type} : Except Fault α :=
  .error (.reported .connection "unreached")

/-- The answers of a node that cannot be reached. -/
def NodeCall.offline : (c : NodeCall) → c.Answer
  | .connect _ _ => false
  | .chainId => unreached
  | .blockNumber => unreached
  | .priorityFee => unreached
  | .gasPrice => unreached
  | .balance _ => unreached
  | .transactionCount _ => unreached
  | .contract _ _ => ()
  | .stakedCount _ => unreached
  | .stakedPage _ _ _ => unreached
  | .logs _ _ _ _ => unreached
  | .build _ _ => unreached
  | .sign _ _ => unreached
  | .send _ => unreached
  | .wait _ _ _ => unreached
  | .receipt _ => unreached

/-- The answers of files of which there are none. -/
def FileCall.offline : (c : FileCall) → c.Answer
  | .isThere _ => Except.ok false
  | .read _ => Except.error .notFound
  | .write _ _ => Except.error .notFound
  | .makeDirectory _ => Except.error .notFound
  | .entries _ => Except.error .notFound
  | .workingDirectory => Path.ofText "/"
  | .programDirectory => Path.ofText "/"

/-- The answers of a host that has no files and reaches nothing. -/
def Host.offline : (c : Host.Call) → Host.Answer c
  | .say _ => ()
  | .log _ => ()
  | .now => Moment.ofSeconds 0
  | .clock => Nat.zero
  | .sleep _ => ()
  | .workers count => FinishingOrder.inTurn count
  | .environment => List.nil
  | .decrypt _ _ => unreached
  | .file c => c.offline
  | .node c => c.offline
  | .web _ => unreached

/-- A host that has no files and reaches only a node, which answers from a state. -/
def Host.onNode {σ : Type} (node : (c : NodeCall) → σ → c.Answer × σ) :
    (c : Host.Call) → σ → Host.Answer c × σ
  | .node c, s => node c s
  | c, s => (Host.offline c, s)

/-- A host that has no files and reaches only web services, which answer by their addresses; tasks
are finished in the given orders. -/
def Host.onWeb (web : String → Except Fault WebResponse)
    (order : (count : Nat) → FinishingOrder count) :
    (c : Host.Call) → Unit → Host.Answer c × Unit
  | .web request, _ => (web request.url, ())
  | .workers count, _ => (order count, ())
  | c, _ => (Host.offline c, ())

end StakeRegistry
