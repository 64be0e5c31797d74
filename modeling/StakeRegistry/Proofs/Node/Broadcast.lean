/-
What the submission of transactions asks of a node.

The calls of a chain are programs that ask the node (`Node.answer`), and a run over the chain is
carried by the events on the host (`Carries`). What the exchanges of the run tell can be read off
these events:

* `receiptsIn es`: the receipts that were obtained, each with its hash;
* `hashesIn es`: the hashes that were broadcast;
* `sends_of_carries`: what is sent was built and signed just before, for a submission of the run.
-/
import StakeRegistry.Node.Client
import StakeRegistry.Proofs.Program.Expansion
import StakeRegistry.Proofs.Program.Uses
import StakeRegistry.Proofs.Tx.CallDiscipline
import StakeRegistry.Proofs.Tx.Obtained

namespace StakeRegistry.Node

open Tx

/-- Does the call build, sign, send, await or look up a transaction? -/
def isTransaction : Host.Call → Bool
  | .node (.build _ _) => true
  | .node (.sign _ _) => true
  | .node (.send _) => true
  | .node (.wait _ _ _) => true
  | .node (.receipt _) => true
  | _ => false

/-- The receipt that an answer tells, with the hash that was asked for. -/
def toldReceipt? : (c : Host.Call) → Host.Answer c → Option (String × Receipt)
  | .node (.wait hash _ _), x =>
    match (x : Except Fault RawReceipt) with
    | .ok raw => (Receipt.ofRaw raw).toOption.map (hash, ·)
    | .error _ => none
  | .node (.receipt hash), x =>
    match (x : Except Fault (Option RawReceipt)) with
    | .ok (some raw) => (Receipt.ofRaw raw).toOption.map (hash, ·)
    | _ => none
  | _, _ => none

/-- The hash under which a transaction was broadcast. -/
def toldHash? : (c : Host.Call) → Host.Answer c → Option String
  | .node (.send _), x => (x : Except Fault Bytes).toOption.map fun hash => "0x" ++ hash.toHex
  | _, _ => none

/-- The receipts that were obtained, each with the hash that was asked for. -/
def receiptsIn (es : List (Program.Event Host)) : List (String × Receipt) :=
  es.filterMap fun e => toldReceipt? e.1 e.2

/-- The hashes that were broadcast. -/
def hashesIn (es : List (Program.Event Host)) : List String :=
  es.filterMap fun e => toldHash? e.1 e.2

/-- The calls of a contract for which transactions were built. -/
def builtCalls (es : List (Program.Event Host)) : List ContractCall :=
  es.filterMap fun e =>
    match e.1 with
    | .node (.build call _) => some call
    | _ => none

lemma builtCalls_append (es es' : List (Program.Event Host)) :
    builtCalls (es ++ es') = builtCalls es ++ builtCalls es' :=
  List.filterMap_append

/-- The hash of a submission, if it was broadcast. -/
def submittedHash? (x : Params × Except Fault String) : Option String :=
  x.2.toOption

section Quiet

variable {c : Host.Call} {x : Host.Answer c} {es : List (Program.Event Host)}

lemma toldReceipt?_eq_none (h : isTransaction c = false) : toldReceipt? c x = none := by
  unfold toldReceipt?
  split
  · cases h
  · cases h
  · rfl

lemma toldHash?_eq_none (h : isTransaction c = false) : toldHash? c x = none := by
  unfold toldHash?
  split
  · cases h
  · rfl

lemma builtCalls_eq_nil (quiet : ∀ e ∈ es, isTransaction e.1 = false) : builtCalls es = [] := by
  refine List.filterMap_eq_nil_iff.2 fun e he => ?_
  have other := quiet e he
  split
  next call params h =>
    rw [h] at other
    cases other
  next => rfl

lemma receiptsIn_eq_nil (quiet : ∀ e ∈ es, isTransaction e.1 = false) : receiptsIn es = [] :=
  List.filterMap_eq_nil_iff.2 fun e he => toldReceipt?_eq_none (quiet e he)

lemma hashesIn_eq_nil (quiet : ∀ e ∈ es, isTransaction e.1 = false) : hashesIn es = [] :=
  List.filterMap_eq_nil_iff.2 fun e he => toldHash?_eq_none (quiet e he)

end Quiet

/-! ### Single calls of the chain -/

/-- The events of a submission: a transaction is built, signed and sent, up to the first failure. -/
inductive Submits (p : Payload) (params : Keyed String Json.Value) :
    List (Program.Event Host) → Except Fault String → Prop where
  | notBuilt {f : Fault} :
    Submits p params [⟨.node (.build p.call params), Except.error f⟩] (.error f)
  | notSigned {transaction : Transaction} {f : Fault} :
      Submits p params [⟨.node (.build p.call params), Except.ok transaction⟩,
        ⟨.node (.sign p.account transaction), Except.error f⟩] (.error f)
  | sent {transaction : Transaction} {signed : Signed} {x : Except Fault Bytes} :
      Submits p params [⟨.node (.build p.call params), Except.ok transaction⟩,
        ⟨.node (.sign p.account transaction), Except.ok signed⟩, ⟨.node (.send signed), x⟩]
        (x.map fun hash => "0x" ++ hash.toHex)

section Calls

variable {poll : Seconds} {own : List (Program.Event Host)}

lemma runs_ask_bind_iff {β : Type} {c : NodeCall} {f : c.Answer → Program Host β} {b : β} :
    Program.Runs (Node.ask c >>= f) own b ↔
      ∃ (x : c.Answer) (rest : List (Program.Event Host)), own = ⟨.node c, x⟩ :: rest ∧
        Program.Runs (f x) rest b :=
  Program.Runs.ask_iff (I := Host)

lemma submits_of_runs {p : Payload} {params : Keyed String Json.Value} {x : Except Fault String}
    (run : Program.Runs (submit p params) own x) :
    Submits p (params.put "chainId" (.int p.chainId)) own x := by
  obtain ⟨built, rest, rfl, afterBuild⟩ := runs_ask_bind_iff.1 run
  rcases built with f | transaction
  · obtain ⟨rfl, rfl⟩ := Program.Runs.done_iff.1 afterBuild
    exact .notBuilt
  obtain ⟨signed, rest, rfl, afterSign⟩ := runs_ask_bind_iff.1 afterBuild
  rcases signed with f | signed
  · obtain ⟨rfl, rfl⟩ := Program.Runs.done_iff.1 afterSign
    exact .notSigned
  obtain ⟨y, rest, rfl, afterSend⟩ := runs_ask_bind_iff.1 afterSign
  obtain ⟨rfl, rfl⟩ := Program.Runs.done_iff.1 afterSend
  exact .sent

/-- A receipt is obtained by a wait exactly if the node tells one that can be read. -/
lemma receiptsIn_of_runs_wait {hash : String} {timeout : Seconds} {x : Except Fault Receipt}
    (run : Program.Runs (wait poll hash timeout) own x) :
    receiptsIn own = obtained [(.wait hash timeout x : Exchange Payload)] ∧ hashesIn own = [] := by
  obtain ⟨y, rest, rfl, ends⟩ := runs_ask_bind_iff.1 run
  obtain ⟨rfl, rfl⟩ := Program.Runs.done_iff.1 ends
  refine ⟨?_, rfl⟩
  rcases y with f | raw
  · cases f with
    | reported kind message => cases kind <;> rfl
    | notIncluded hash timeout => rfl
    | unreadable e => rfl
  · cases h : Receipt.ofRaw raw <;> simp [receiptsIn, toldReceipt?, h, readable, Except.toOption]

lemma receiptsIn_of_runs_receipt {hash : String} {x : Except Fault (Option Receipt)}
    (run : Program.Runs (receipt hash) own x) :
    receiptsIn own = obtained [(.receipt hash x : Exchange Payload)] ∧ hashesIn own = [] := by
  obtain ⟨y, rest, rfl, ends⟩ := runs_ask_bind_iff.1 run
  obtain ⟨rfl, rfl⟩ := Program.Runs.done_iff.1 ends
  refine ⟨?_, rfl⟩
  rcases y with f | _ | raw
  · cases f with
    | reported kind message => cases kind <;> rfl
    | notIncluded hash timeout => rfl
    | unreadable e => rfl
  · rfl
  · cases h : Receipt.ofRaw raw <;>
      simp [receiptsIn, toldReceipt?, h, readable, Except.toOption, Except.map]

/-- Does a question of the chain concern a transaction? -/
def asksTransaction : Chain.Call Payload → Bool
  | .submit _ _ => true
  | .wait _ _ => true
  | .receipt _ => true
  | _ => false

lemma uses_answer {c : Chain.Call Payload} (h : asksTransaction c = false) :
    Program.Uses (isTransaction · = false) (answer poll c) := by
  cases c with
  | submit payload params => cases h
  | wait hash timeout => cases h
  | receipt hash => cases h
  | pendingNonce address =>
    simp only [answer, pendingNonce]
    split
    · exact ⟨rfl, fun _ => trivial⟩
    · trivial
  | priorityFee => exact ⟨rfl, fun _ => trivial⟩
  | feeCap => exact ⟨rfl, fun _ => trivial⟩
  | included index r => trivial
  | say line => exact ⟨rfl, fun _ => trivial⟩
  | log record => exact ⟨rfl, fun _ => trivial⟩

/-- Of the calls of a chain only a submission builds, and it builds for its payload. -/
lemma built_of_runs {c : Chain.Call Payload} {x : Chain.Answer c} {call : ContractCall}
    (run : Program.Runs (answer poll c) own x) (built : call ∈ builtCalls own) :
    ∃ payload params, c = .submit payload params ∧ payload.call = call := by
  by_cases other : asksTransaction c = false
  · have quiet := Program.allowed_of_runs (uses_answer other) run
    rw [builtCalls_eq_nil quiet] at built
    cases built
  cases c with
  | submit payload params =>
    refine ⟨payload, params, rfl, ?_⟩
    cases submits_of_runs run with
    | notBuilt => simpa [builtCalls, eq_comm] using built
    | notSigned => simpa [builtCalls, eq_comm] using built
    | sent => simpa [builtCalls, eq_comm] using built
  | wait hash timeout =>
    obtain ⟨answered, rest, rfl, ends⟩ := runs_ask_bind_iff.1 run
    obtain ⟨rfl, -⟩ := Program.Runs.done_iff.1 ends
    cases built
  | receipt hash =>
    obtain ⟨answered, rest, rfl, ends⟩ := runs_ask_bind_iff.1 run
    obtain ⟨rfl, -⟩ := Program.Runs.done_iff.1 ends
    cases built
  | _ => exact absurd rfl other

/-- What the events of a call tell is what its exchange tells. -/
lemma told_of_runs {c : Chain.Call Payload} {x : Chain.Answer c}
    (run : Program.Runs (answer poll c) own x) :
    receiptsIn own = obtained (exchanges [⟨c, x⟩]) ∧
      hashesIn own = (submissions (exchanges [⟨c, x⟩])).filterMap submittedHash? := by
  by_cases other : asksTransaction c = false
  · have quiet := Program.allowed_of_runs (uses_answer other) run
    rw [receiptsIn_eq_nil quiet, hashesIn_eq_nil quiet]
    cases c with
    | submit payload params => cases other
    | wait hash timeout => cases other
    | receipt hash => cases other
    | _ => exact ⟨rfl, rfl⟩
  cases c with
  | submit payload params =>
    cases submits_of_runs run with
    | notBuilt => exact ⟨rfl, rfl⟩
    | notSigned => exact ⟨rfl, rfl⟩
    | @sent transaction signed y => cases y <;> exact ⟨rfl, rfl⟩
  | wait hash timeout => exact receiptsIn_of_runs_wait run
  | receipt hash => exact receiptsIn_of_runs_receipt run
  | _ => exact absurd rfl other

/-- The two events before a broadcast: its transaction is built and signed. -/
def preparation (p : Payload) (params : Params) (transaction : Transaction) (signed : Signed) :
    List (Program.Event Host) :=
  [⟨.node (.build p.call (Keyed.put "chainId" (.int p.chainId) params.members)),
      Except.ok transaction⟩,
    ⟨.node (.sign p.account transaction), Except.ok signed⟩]

/-- Does the call broadcast a transaction? -/
def isSend : Host.Call → Bool
  | .node (.send _) => true
  | _ => false

lemma send_notMem {signed : Signed} {y : Except Fault Bytes} (h : ∀ e ∈ own, isSend e.1 = false) :
    (⟨.node (.send signed), y⟩ : Program.Event Host) ∉ own :=
  fun hmem => nomatch h _ hmem

/-- Of the calls of a chain only a submission broadcasts, and it has built and signed before what it
broadcasts. -/
lemma sends_of_runs {c : Chain.Call Payload} {x : Chain.Answer c} {signed : Signed}
    {y : Except Fault Bytes} {pre post : List (Program.Event Host)}
    (run : Program.Runs (answer poll c) (pre ++ ⟨.node (.send signed), y⟩ :: post) x) :
    ∃ payload params transaction, c = .submit payload params ∧
      pre = preparation payload params transaction signed := by
  by_cases other : asksTransaction c = false
  · have quiet := Program.allowed_of_runs (uses_answer other) run _
      (List.mem_append_right pre List.mem_cons_self)
    cases quiet
  generalize hown : pre ++ ⟨.node (.send signed), y⟩ :: post = own at run
  have sent : (⟨.node (.send signed), y⟩ : Program.Event Host) ∈ own :=
    hown ▸ List.mem_append_right pre List.mem_cons_self
  cases c with
  | submit payload params =>
    cases submits_of_runs run with
    | notBuilt => exact absurd sent (send_notMem (by simp [isSend]))
    | notSigned => exact absurd sent (send_notMem (by simp [isSend]))
    | @sent transaction signed' y' =>
      have unsent : (⟨.node (.send signed), y⟩ : Program.Event Host) ∉
          preparation payload params transaction signed' :=
          send_notMem (by simp [preparation, isSend])
      obtain ⟨mid, rfl, hmid⟩ := split_of_notMem hown unsent
      rcases List.append_eq_singleton_iff.1 hmid.symm with ⟨rfl, heq⟩ | ⟨-, heq⟩
      · have hsigned := congrArg Sigma.fst (List.cons.inj heq).1
        cases hsigned
        exact ⟨payload, params, transaction, rfl, List.append_nil _⟩
      · cases heq
  | wait hash timeout =>
    obtain ⟨answered, rest, rfl, ends⟩ := runs_ask_bind_iff.1 run
    obtain ⟨rfl, -⟩ := Program.Runs.done_iff.1 ends
    exact absurd sent (send_notMem (by simp [isSend]))
  | receipt hash =>
    obtain ⟨answered, rest, rfl, ends⟩ := runs_ask_bind_iff.1 run
    obtain ⟨rfl, -⟩ := Program.Runs.done_iff.1 ends
    exact absurd sent (send_notMem (by simp [isSend]))
  | _ => exact absurd rfl other

end Calls

/-! ### Whole runs -/

section Carries

variable {poll : Seconds} {inner : List (Program.Event (Chain Payload))}
  {es : List (Program.Event Host)}

lemma told_of_carries (h : Program.Carries (answer poll) inner es) :
    receiptsIn es = obtained (exchanges inner) ∧
      hashesIn es = (submissions (exchanges inner)).filterMap submittedHash? := by
  induction h with
  | nil => exact ⟨rfl, rfl⟩
  | @cons e inner own es run rest ih =>
    obtain ⟨receipts, hashes⟩ := told_of_runs run
    rw [exchanges_cons, obtained_append, submissions_append, List.filterMap_append, ← ih.1, ← ih.2]
    exact ⟨receipts ▸ List.filterMap_append, hashes ▸ List.filterMap_append⟩

/-- What is broadcast was built and signed just before, for a submission of the run. -/
lemma sends_of_carries {signed : Signed} {y : Except Fault Bytes}
    {pre post : List (Program.Event Host)} (h : Program.Carries (answer poll) inner es)
    (hes : es = pre ++ ⟨.node (.send signed), y⟩ :: post) :
    ∃ payload params transaction x earlier, .submit payload params x ∈ exchanges inner ∧
      pre = earlier ++ preparation payload params transaction signed := by
  induction h generalizing pre with
  | nil => simp at hes
  | @cons e inner own es run rest ih =>
    rcases split_append hes.symm with ⟨mid, rfl, -⟩ | ⟨mid, rfl, later⟩
    · obtain ⟨c, x⟩ := e
      obtain ⟨payload, params, transaction, rfl, rfl⟩ := sends_of_runs run
      exact ⟨payload, params, transaction, x, [], by simp [exchanges, Exchange.ofAnswer?], rfl⟩
    · obtain ⟨payload, params, transaction, x, earlier, hx, rfl⟩ := ih later
      refine ⟨payload, params, transaction, x, own ++ earlier, ?_, by simp⟩
      rw [exchanges_cons]
      exact List.mem_append_right _ hx

/-- A run whose exchanges are not about transactions asks nothing about them. -/
lemma quiet_of_carries (h : Program.Carries (answer poll) inner es)
    (quiet : ∀ x ∈ exchanges inner, x.isAboutTransaction = false) :
    ∀ e ∈ es, isTransaction e.1 = false := by
  induction h with
  | nil => simp
  | @cons e inner own es run rest ih =>
    rw [exchanges_cons, List.forall_mem_append] at quiet
    have other : asksTransaction e.1 = false := by
      obtain ⟨c, x⟩ := e
      have own := quiet.1
      cases c <;> simp [exchanges, Exchange.ofAnswer?, Exchange.isAboutTransaction,
        asksTransaction] at own ⊢
    exact List.forall_mem_append.2 ⟨Program.allowed_of_runs (uses_answer other) run, ih quiet.2⟩

/-- What is built is built for a submission of the run. -/
lemma built_of_carries {call : ContractCall} (h : Program.Carries (answer poll) inner es)
    (built : call ∈ builtCalls es) :
    ∃ payload params x, .submit payload params x ∈ exchanges inner ∧ payload.call = call := by
  induction h with
  | nil => simp [builtCalls] at built
  | @cons e inner own es run rest ih =>
    rw [builtCalls_append, List.mem_append] at built
    rw [exchanges_cons]
    rcases built with built | built
    · obtain ⟨c, x⟩ := e
      obtain ⟨payload, params, rfl, rfl⟩ := built_of_runs run built
      exact ⟨payload, params, x,
        List.mem_append_left _ (by simp [exchanges, Exchange.ofAnswer?]), rfl⟩
    · obtain ⟨payload, params, x, hx, hcall⟩ := ih built
      exact ⟨payload, params, x, List.mem_append_right _ hx, hcall⟩

end Carries

end StakeRegistry.Node
