/-
Runs of transactions that may share an allocator.

A run uses its allocator at two places only: it takes the next nonce, and it makes the allocator
forget its count when it fails. `Desk ω` has these two calls beside those of the chain, so that runs
can take turns at one allocator:

* `shareAll s report intents`: the run of `submitAll` at a desk;
* `serve p`: a program at a desk that it has to itself.

The main statement is `serve_shareAll`: at a desk that it has to itself, a run is that of
`submitAll`.
-/
import Mathlib.Tactic.Lemma
import StakeRegistry.Tx.Batch

namespace StakeRegistry.Tx

/-- What can be asked at a desk. -/
inductive Desk.Call (ω : Type) where
  /-- Ask the chain. -/
  | chain (c : Chain.Call ω)
  /-- Take the next nonce. -/
  | allocate
  /-- Make the allocator forget its count. -/
  | reset

/-- What is answered at a desk. -/
abbrev Desk.Answer {ω : Type} : Desk.Call ω → Type
  | .chain c => Chain.Answer c
  | .allocate => Except BatchError Int
  | .reset => Unit

/-- The interface of a chain beside which nonces are handed out. -/
abbrev Desk (ω : Type) : Interface where
  Call := Desk.Call ω
  Answer := Desk.Answer

variable {ω α β : Type}

/-- A program at a desk that may end with an error. -/
abbrev AtDesk (ω : Type) : Type → Type := ExceptT BatchError (Program (Desk ω))

/-- A program over a chain, at a desk. -/
def atDesk (p : Program (Chain ω) α) : Program (Desk ω) α :=
  p.expand fun c => Program.call (I := Desk ω) (.chain c)

/-! ### Runs at a desk -/

/-- Get a transaction included at a nonce, the first attempt with the fees that the node
suggests. -/
def submitAt (s : Submitter) (intent : Intent ω) (nonce : Int) : OnChain ω TxError Receipt := do
  let suggestion ← suggestFees
  let fees ← orInvalid
    ({ tip := suggestion.tip, feeCap := suggestion.feeCap, gasLimit := intent.gasLimit,
       nonce : Fees }.check)
  submit s intent fees

/-- Submit one transaction at the next nonce. -/
def shareNext (s : Submitter) (intent : Intent ω) : AtDesk ω Receipt := do
  let nonce ← ExceptT.mk (Program.call (I := Desk ω) .allocate)
  ExceptT.adapt .tx (ExceptT.mk (atDesk (submitAt s intent nonce).run))

/-- Make the allocator forget its count if a program fails. -/
def resetAtDesk (p : AtDesk ω α) : AtDesk ω α :=
  tryCatch p fun e => do
    ExceptT.lift (Program.call (I := Desk ω) .reset)
    throw e

/-- Submit the transactions from a place on. -/
def shareFrom (s : Submitter) (report : Report ω) (index : Nat) :
    List (Intent ω) → AtDesk ω (List Receipt)
  | [] => return []
  | intent :: rest => do
    let receipt ← resetAtDesk (shareNext s intent)
    if !Numeral.isWritable receipt.blockNumber then throw (.unwritable receipt.blockNumber)
    ExceptT.lift (atDesk (Chain.say (intent.includedLine receipt)))
    if !receipt.succeeded then throw (.reverted index intent.description receipt)
    ExceptT.adapt .fault (ExceptT.mk (atDesk (report index receipt)))
    return receipt :: (← shareFrom s report (index + 1) rest)

/-- Submit transactions one after another, up to the first that fails. -/
def shareAll (s : Submitter) (report : Report ω) (intents : List (Intent ω)) :
    AtDesk ω (List Receipt) :=
  shareFrom s report 1 intents

/-! ### A desk for one run -/

/-- A program at a desk that it has to itself. -/
def serve : Program (Desk ω) α → StateT Allocator (Program (Chain ω)) α
  | .done x => pure x
  | .ask (.chain c) next => do
    let x ← StateT.lift (Program.call (I := Chain ω) c)
    serve (next x)
  | .ask .allocate next => do
    let r ← (allocate : BatchRun ω Int).run
    serve (next r)
  | .ask .reset next => do
    modify Allocator.reset
    serve (next ())

lemma serve_bind (p : Program (Desk ω) α) (f : α → Program (Desk ω) β) :
    serve (p >>= f) = serve p >>= fun x => serve (f x) := by
  induction p with
  | done x => simp [serve]
  | ask c next ih => cases c <;> simp [serve, ih]

/-- What only asks the chain does so at a desk, too. -/
lemma serve_atDesk (p : Program (Chain ω) α) : serve (atDesk p) = StateT.lift p := by
  induction p with
  | done x => rfl
  | ask c next ih =>
    change StateT.lift (Program.call (I := Chain ω) c) >>= (fun x => serve (atDesk (next x))) = _
    simp only [ih]
    rfl

/-- A program at a desk that it has to itself, and that may end with an error. -/
def serveRun (p : AtDesk ω α) : BatchRun ω α :=
  ExceptT.mk (serve p.run)

lemma serveRun_bind (p : AtDesk ω α) (f : α → AtDesk ω β) :
    serveRun (p >>= f) = serveRun p >>= fun x => serveRun (f x) := by
  apply ExceptT.ext
  change serve (p >>= f).run = _
  rw [ExceptT.run_bind, ExceptT.run_bind, serve_bind]
  refine bind_congr fun x => ?_
  cases x <;> rfl

/-- A failure goes to the handler. -/
lemma run_tryCatch {ε : Type} {m : Type → Type} [Monad m] (p : ExceptT ε m α)
    (f : ε → ExceptT ε m α) :
    (tryCatch p f).run = p.run >>= fun x =>
      match x with
      | .ok v => pure (.ok v)
      | .error e => (f e).run := by
  refine congrArg (p.run >>= ·) (funext fun x => ?_)
  cases x <;> rfl

lemma serveRun_tryCatch (p : AtDesk ω α) (f : BatchError → AtDesk ω α) :
    serveRun (tryCatch p f) = tryCatch (serveRun p) fun e => serveRun (f e) := by
  apply ExceptT.ext
  change serve (tryCatch p f).run = _
  rw [run_tryCatch, run_tryCatch, serve_bind]
  refine bind_congr fun x => ?_
  cases x <;> rfl

/-! ### The parts of a run -/

/-- A step that may fail is a question, whose answer is a value or an error. -/
lemma run_ofSubmission (p : OnChain ω TxError α) :
    (ofSubmission p).run = StateT.lift p.run >>= fun x => pure (x.mapError .tx) := by
  rw [ofSubmission, told, ExceptT.run_bind_lift]
  refine bind_congr fun x => ?_
  cases x <;> rfl

lemma run_ofCall (p : Program (Chain ω) (Except Fault α)) :
    (ofCall p).run = StateT.lift p >>= fun x => pure (x.mapError .fault) := by
  rw [ofCall, told, ExceptT.run_bind_lift]
  refine bind_congr fun x => ?_
  cases x <;> rfl

lemma lift_bind (p : Program (Chain ω) α) (f : α → Program (Chain ω) β) :
    (StateT.lift (p >>= f) : StateT Allocator (Program (Chain ω)) β) =
      StateT.lift p >>= fun x => StateT.lift (f x) := by
  funext a
  change p >>= f >>= _ = p >>= _ >>= _
  simp only [bind_assoc]
  rfl

lemma ofSubmission_bind (p : OnChain ω TxError α) (f : α → OnChain ω TxError β) :
    ofSubmission (p >>= f) = ofSubmission p >>= fun x => ofSubmission (f x) := by
  apply ExceptT.ext
  rw [run_ofSubmission, ExceptT.run_bind, ExceptT.run_bind, run_ofSubmission, lift_bind, bind_assoc,
    bind_assoc]
  refine bind_congr fun x => ?_
  cases x with
  | ok v => exact (run_ofSubmission (f v)).symm
  | error e => rfl

/-- What a program asks the chain at a desk that it has to itself, and what comes of it. -/
lemma serve_atDesk_map (p : Program (Chain ω) α) (f : α → β) :
    serve (atDesk p >>= fun x => .done (f x)) = StateT.lift p >>= fun x => pure (f x) := by
  rw [serve_bind, serve_atDesk]
  rfl

lemma serveRun_told (p : Program (Chain ω) α) : serveRun (ExceptT.lift (atDesk p)) = told p :=
  ExceptT.ext (serve_atDesk_map p Except.ok)

lemma serveRun_ofSubmission (p : OnChain ω TxError α) :
    serveRun (ExceptT.adapt .tx (ExceptT.mk (atDesk p.run))) = ofSubmission p :=
  ExceptT.ext ((serve_atDesk_map p.run _).trans (run_ofSubmission p).symm)

lemma serveRun_ofCall (p : Program (Chain ω) (Except Fault α)) :
    serveRun (ExceptT.adapt .fault (ExceptT.mk (atDesk p))) = ofCall p :=
  ExceptT.ext ((serve_atDesk_map p _).trans (run_ofCall p).symm)

lemma serveRun_allocate :
    serveRun (ExceptT.mk (Program.call (I := Desk ω) .allocate)) = allocate :=
  ExceptT.ext (bind_pure _)

lemma serveRun_shareNext (s : Submitter) (intent : Intent ω) :
    serveRun (shareNext s intent) = submitNext s intent := by
  rw [shareNext, serveRun_bind, serveRun_allocate, submitNext]
  refine bind_congr fun nonce => ?_
  rw [serveRun_ofSubmission, submitAt, prepareFees, ofSubmission_bind, bind_assoc]
  refine bind_congr fun suggestion => ?_
  rw [ofSubmission_bind]

lemma serveRun_resetAtDesk (p : AtDesk ω α) :
    serveRun (resetAtDesk p) = resetOnError (serveRun p) := by
  rw [resetAtDesk, serveRun_tryCatch, resetOnError]
  congr 1

lemma serveRun_shareFrom (s : Submitter) (report : Report ω) (index : Nat)
    (intents : List (Intent ω)) :
    serveRun (shareFrom s report index intents) = submitFrom s report index intents := by
  induction intents generalizing index with
  | nil => rfl
  | cons intent rest ih =>
    rw [shareFrom, submitFrom, serveRun_bind, serveRun_resetAtDesk, serveRun_shareNext]
    refine bind_congr fun receipt => ?_
    cases writable : Numeral.isWritable receipt.blockNumber with
    | false =>
      simp only [Bool.not_false, if_true]
      rfl
    | true =>
      simp only [Bool.not_true, Bool.false_eq_true, if_false]
      rw [serveRun_bind, serveRun_told]
      refine bind_congr fun _ => ?_
      split
      · rfl
      · rw [serveRun_bind, serveRun_ofCall]
        refine bind_congr fun _ => ?_
        rw [serveRun_bind, ih]
        rfl

/-- At a desk that it has to itself, a run is that of `submitAll`. -/
theorem serve_shareAll (s : Submitter) (report : Report ω) (intents : List (Intent ω))
    (a : Allocator) :
    serve (shareAll s report intents).run a = (submitAll s report intents).run.run a := by
  rw [submitAll, ← serveRun_shareFrom]
  rfl

end StakeRegistry.Tx
