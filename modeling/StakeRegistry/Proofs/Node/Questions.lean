/-
The questions to a node with which a submission is carried out.

Every exchange of a submission with the chain is carried out by a few questions to the node
(`Conveys`): one for a tip, a fee cap, a wait and a lookup, and up to three for a broadcast, which
is built, signed and sent. `Converses poll xs qs` says that the questions `qs` are those for the
exchanges `xs`, one after another.

* `Converses.split`: every question belongs to one exchange, with its place in it (`Within`);
* `converses_of_carries`: the events of a run on a node are such a conversation, apart from what is
  told to the operator and to the log.
-/
import StakeRegistry.Proofs.Node.Broadcast
import StakeRegistry.Proofs.Program.Failing
import StakeRegistry.Proofs.Tx.Places

namespace StakeRegistry.Node

open Tx

/-- A question to a node, with its answer. -/
abbrev NodeEvent : Type := (c : NodeCall) × c.Answer

/-- The question to the node that an event is. -/
def nodeEvent? : Program.Event Host → Option NodeEvent
  | ⟨.node c, x⟩ => some ⟨c, x⟩
  | _ => none

/-- The questions to the node among the events of a run. -/
def nodeEvents (es : List (Program.Event Host)) : List NodeEvent :=
  es.filterMap nodeEvent?

@[simp] lemma nodeEvents_nil : nodeEvents [] = [] := rfl

@[simp] lemma nodeEvents_append {es es' : List (Program.Event Host)} :
    nodeEvents (es ++ es') = nodeEvents es ++ nodeEvents es' :=
  List.filterMap_append

/-- Does the question build a transaction? -/
def isBuild : NodeEvent → Bool
  | ⟨.build _ _, _⟩ => true
  | _ => false

/-- How many attempts were begun: each of them begins by building its transaction. -/
def attempts (qs : List NodeEvent) : Nat :=
  qs.countP isBuild

@[simp] lemma attempts_nil : attempts [] = 0 := rfl

@[simp] lemma attempts_append {qs qs' : List NodeEvent} :
    attempts (qs ++ qs') = attempts qs + attempts qs' :=
  List.countP_append

/-! ### Answers -/

/-- What the answer of a node to a wait tells about the transaction. -/
def awaited (hash : String) (timeout : Seconds) : Except Fault RawReceipt → Except Fault Receipt
  | .ok raw => readable (Receipt.ofRaw raw)
  | .error (.reported .timeExhausted _) => .error (.notIncluded hash timeout.toText)
  | .error f => .error f

/-- What the answer of a node to a lookup tells about the transaction. -/
def lookedUp : Except Fault (Option RawReceipt) → Except Fault (Option Receipt)
  | .ok (some raw) => (readable (Receipt.ofRaw raw)).map some
  | .ok none => .ok none
  | .error (.reported .transactionNotFound _) => .ok none
  | .error f => .error f

/-- The wait failed because the transaction was not included in time: the node says so, or the
failure is already the one that tells it. -/
def TimedOut (f : Fault) : Prop :=
  (∃ message, f = .reported .timeExhausted message) ∨ f.isTimeout = true

/-- The node does not know the transaction, or has no receipt for it. -/
def NotMined (y : Except Fault (Option RawReceipt)) : Prop :=
  y = .ok none ∨ ∃ message, y = .error (.reported .transactionNotFound message)

/-- A receipt that can be read: there is a hash, the number of the block and the status are
integers, and so is the gas used, if it is told. -/
structure Legible (raw : RawReceipt) : Prop where
  hash : ∃ v, Keyed.find? "transactionHash" raw = some v
  blockNumber : ∃ v n, Keyed.find? "blockNumber" raw = some v ∧ v.toInteger = .ok n
  status : ∃ v n, Keyed.find? "status" raw = some v ∧ v.toInteger = .ok n
  gasUsed : ∀ {v}, Keyed.find? "gasUsed" raw = some v → ∃ n, v.toInteger = .ok n

lemma field_eq_ok_iff {raw : RawReceipt} {name : String} {v : RawField} :
    raw.field name = .ok v ↔ Keyed.find? name raw = some v := by
  unfold RawReceipt.field
  cases Keyed.find? name raw <;> simp

lemma legible_iff {raw : RawReceipt} : Legible raw ↔
    ∃ receipt, Receipt.ofRaw raw = .ok receipt := by
  simp only [Receipt.ofRaw, bind_eq_ok_iff, field_eq_ok_iff]
  constructor
  · rintro ⟨⟨hash, hh⟩, ⟨b, block, hb, hblock⟩, ⟨t, status, ht, hstatus⟩, hgas⟩
    -- gas that is not told counts as none
    have told :
      ∃ gas, ((Keyed.find? "gasUsed" raw).getD (.plain (.int 0))).toInteger = .ok gas := by
      cases hg : Keyed.find? "gasUsed" raw with
      | none => exact ⟨0, rfl⟩
      | some v => exact hgas hg
    obtain ⟨gas, hgas⟩ := told
    exact ⟨_, hash, hh, b, hb, block, hblock, t, ht, status, hstatus, gas, hgas, rfl⟩
  · rintro ⟨receipt, hash, hh, b, hb, block, hblock, t, ht, status, hstatus, gas, hgas, -⟩
    refine ⟨⟨hash, hh⟩, ⟨b, block, hb, hblock⟩, ⟨t, status, ht, hstatus⟩, ?_⟩
    intro v hv
    rw [hv] at hgas
    exact ⟨gas, hgas⟩

/-- A receipt that cannot be read has a reason for it. -/
lemma exists_error_of_not_legible {raw : RawReceipt} (h : ¬ Legible raw) :
    ∃ e, Receipt.ofRaw raw = .error e := by
  cases hr : Receipt.ofRaw raw with
  | error e => exact ⟨e, rfl⟩
  | ok receipt => exact absurd (legible_iff.2 ⟨receipt, hr⟩) h

/-- A wait that failed is in vain exactly if the transaction was not included in time. -/
lemma awaited_error (hash : String) (timeout : Seconds) (f : Fault) :
    ∃ f', awaited hash timeout (.error f) = .error f' ∧ (f'.isTimeout = true ↔ TimedOut f) := by
  cases f with
  | reported kind message => cases kind <;> simp [awaited, TimedOut, Fault.isTimeout]
  | notIncluded hash timeout => simp [awaited, TimedOut, Fault.isTimeout]
  | unreadable e => simp [awaited, TimedOut, Fault.isTimeout]

lemma awaited_ok {hash : String} {timeout : Seconds} {raw : RawReceipt} :
    awaited hash timeout (.ok raw) = (Receipt.ofRaw raw).mapError .unreadable := by
  cases h : Receipt.ofRaw raw <;> simp [awaited, readable, h, Except.mapError]

/-- A failure that does not say that the transaction was not included in time is passed on. -/
lemma awaited_of_not_timedOut {hash : String} {timeout : Seconds} {f : Fault} (h : ¬ TimedOut f) :
    awaited hash timeout (.error f) = .error f := by
  cases f with
  | reported kind message => cases kind <;> simp [awaited, TimedOut] at h ⊢
  | notIncluded hash timeout => rfl
  | unreadable e => rfl

lemma lookedUp_of_notMined {y : Except Fault (Option RawReceipt)} (h : NotMined y) :
    lookedUp y = .ok none := by
  rcases h with rfl | ⟨message, rfl⟩ <;> rfl

lemma lookedUp_some {raw : RawReceipt} :
    lookedUp (.ok (some raw)) = ((Receipt.ofRaw raw).mapError .unreadable).map some := by
  cases h : Receipt.ofRaw raw <;> simp [lookedUp, readable, h, Except.mapError, Except.map]

/-- Every other failure of a lookup is passed on. -/
lemma lookedUp_of_not_notMined {f : Fault} (h : ¬ NotMined (.error f)) :
    lookedUp (.error f) = .error f := by
  cases f with
  | reported kind message => cases kind <;> simp [lookedUp, NotMined] at h ⊢
  | notIncluded hash timeout => rfl
  | unreadable e => rfl

/-! ### One exchange -/

/-- The exchange asks a node, for the submission of one transaction. -/
def OfSubmission : Exchange Payload → Prop
  | .pendingNonce _ _ => False
  | .included _ _ _ => False
  | _ => True

/-- The questions to the node by which an exchange gets its answer. -/
inductive Conveys (poll : Seconds) : Exchange Payload → List NodeEvent → Prop where
  | tip {y : Except Fault Json.Value} :
      Conveys poll (.priorityFee ((integerOf y).map .int)) [⟨.priorityFee, y⟩]
  | cap {y : Except Fault Json.Value} :
      Conveys poll (.feeCap ((integerOf y).map .int)) [⟨.gasPrice, y⟩]
  | notBuilt {payload : Payload} {params : Params} {all : Keyed String Json.Value} {f : Fault} :
      Conveys poll (.submit payload params (.error f)) [⟨.build payload.call all, Except.error f⟩]
  | notSigned {payload : Payload} {params : Params} {all : Keyed String Json.Value}
      {transaction : Transaction} {f : Fault} :
      Conveys poll (.submit payload params (.error f))
        [⟨.build payload.call all, Except.ok transaction⟩,
          ⟨.sign payload.account transaction, Except.error f⟩]
  | sent {payload : Payload} {params : Params} {all : Keyed String Json.Value}
      {transaction : Transaction} {signed : Signed} {y : Except Fault Bytes} :
      Conveys poll (.submit payload params (y.map fun hash => "0x" ++ hash.toHex))
        [⟨.build payload.call all, Except.ok transaction⟩,
          ⟨.sign payload.account transaction, Except.ok signed⟩, ⟨.send signed, y⟩]
  | wait {hash : String} {timeout : Seconds} {y : Except Fault RawReceipt} :
      Conveys poll (.wait hash timeout (awaited hash timeout y)) [⟨.wait hash timeout poll, y⟩]
  | lookup {hash : String} {y : Except Fault (Option RawReceipt)} :
      Conveys poll (.receipt hash (lookedUp y)) [⟨.receipt hash, y⟩]

/-- The place of a question among those of one exchange. -/
inductive Within (poll : Seconds) :
    Exchange Payload → List NodeEvent → NodeEvent → List NodeEvent → Prop where
  | tip {y : Except Fault Json.Value} :
      Within poll (.priorityFee ((integerOf y).map .int)) [] ⟨.priorityFee, y⟩ []
  | cap {y : Except Fault Json.Value} :
      Within poll (.feeCap ((integerOf y).map .int)) [] ⟨.gasPrice, y⟩ []
  | notBuilt {payload : Payload} {params : Params} {all : Keyed String Json.Value} {f : Fault} :
      Within poll (.submit payload params (.error f)) []
        ⟨.build payload.call all, Except.error f⟩ []
  | built {payload : Payload} {params : Params} {all : Keyed String Json.Value}
      {transaction : Transaction} {answer : Except Fault String} {x : Except Fault Signed}
      {rest : List NodeEvent} :
      Within poll (.submit payload params answer) []
        ⟨.build payload.call all, Except.ok transaction⟩
        (⟨.sign payload.account transaction, x⟩ :: rest)
  | notSigned {payload : Payload} {params : Params} {all : Keyed String Json.Value}
      {transaction : Transaction} {f : Fault} :
      Within poll (.submit payload params (.error f))
        [⟨.build payload.call all, Except.ok transaction⟩]
        ⟨.sign payload.account transaction, Except.error f⟩ []
  | signed {payload : Payload} {params : Params} {all : Keyed String Json.Value}
      {transaction : Transaction} {signed : Signed} {y : Except Fault Bytes} :
      Within poll (.submit payload params (y.map fun hash => "0x" ++ hash.toHex))
        [⟨.build payload.call all, Except.ok transaction⟩]
        ⟨.sign payload.account transaction, Except.ok signed⟩ [⟨.send signed, y⟩]
  | sent {payload : Payload} {params : Params} {all : Keyed String Json.Value}
      {transaction : Transaction} {signed : Signed} {y : Except Fault Bytes} :
      Within poll (.submit payload params (y.map fun hash => "0x" ++ hash.toHex))
        [⟨.build payload.call all, Except.ok transaction⟩,
          ⟨.sign payload.account transaction, Except.ok signed⟩] ⟨.send signed, y⟩ []
  | wait {hash : String} {timeout : Seconds} {y : Except Fault RawReceipt} :
      Within poll (.wait hash timeout (awaited hash timeout y)) [] ⟨.wait hash timeout poll, y⟩ []
  | lookup {hash : String} {y : Except Fault (Option RawReceipt)} :
      Within poll (.receipt hash (lookedUp y)) [] ⟨.receipt hash, y⟩ []

section Exchange

variable {poll : Seconds} {x : Exchange Payload} {qs before after : List NodeEvent} {q : NodeEvent}

lemma Conveys.within (h : Conveys poll x qs) (hqs : qs = before ++ q :: after) :
    Within poll x before q after := by
  cases h with
  | tip =>
    obtain ⟨rfl, rfl, rfl⟩ := split_singleton hqs.symm
    exact .tip
  | cap =>
    obtain ⟨rfl, rfl, rfl⟩ := split_singleton hqs.symm
    exact .cap
  | notBuilt =>
    obtain ⟨rfl, rfl, rfl⟩ := split_singleton hqs.symm
    exact .notBuilt
  | wait =>
    obtain ⟨rfl, rfl, rfl⟩ := split_singleton hqs.symm
    exact .wait
  | lookup =>
    obtain ⟨rfl, rfl, rfl⟩ := split_singleton hqs.symm
    exact .lookup
  | notSigned =>
    -- a broadcast has several questions, and how many are before this one tells which it is
    cases before with
    | nil =>
      obtain ⟨rfl, rfl⟩ := List.cons.inj hqs
      exact .built
    | cons e before =>
      obtain ⟨rfl, hsign⟩ := List.cons.inj hqs
      obtain ⟨rfl, rfl, rfl⟩ := split_singleton hsign.symm
      exact .notSigned
  | sent =>
    cases before with
    | nil =>
      obtain ⟨rfl, rfl⟩ := List.cons.inj hqs
      exact .built
    | cons e before =>
      obtain ⟨rfl, hsign⟩ := List.cons.inj hqs
      cases before with
      | nil =>
        obtain ⟨rfl, rfl⟩ := List.cons.inj hsign
        exact .signed
      | cons e' before =>
        obtain ⟨rfl, hsend⟩ := List.cons.inj hsign
        obtain ⟨rfl, rfl, rfl⟩ := split_singleton hsend.symm
        exact .sent

/-- A submission builds its transaction once, and nothing else builds one. -/
lemma Conveys.attempts_eq (h : Conveys poll x qs) : attempts qs = (submissions [x]).length := by
  cases h <;> rfl

/-- A submission builds its transaction first. -/
lemma Within.attempts_eq (h : Within poll x before q after) :
    attempts (before ++ [q]) = (submissions [x]).length := by
  cases h <;> rfl

end Exchange

/-! ### All exchanges -/

/-- The questions are those for the exchanges, one after another. -/
inductive Converses (poll : Seconds) : List (Exchange Payload) → List NodeEvent → Prop where
  | nil : Converses poll [] []
  | cons {x : Exchange Payload} {xs : List (Exchange Payload)} {own qs : List NodeEvent}
      (conveys : Conveys poll x own) (rest : Converses poll xs qs) :
      Converses poll (x :: xs) (own ++ qs)

namespace Converses

variable {poll : Seconds} {xs : List (Exchange Payload)} {qs before after : List NodeEvent}
  {q : NodeEvent}

/-- As many attempts are begun as there are submissions. -/
lemma attempts_eq (h : Converses poll xs qs) : attempts qs = (submissions xs).length := by
  induction h with
  | nil => rfl
  | @cons x xs own qs conveys rest ih =>
    rw [attempts_append, conveys.attempts_eq, ih]
    simp

/-- Every question belongs to one exchange; the exchanges before and after it have their questions
before and after it. -/
lemma split (h : Converses poll xs qs) (hqs : qs = before ++ q :: after) :
    ∃ xs₁ x xs₂ qs₁ own₁ own₂ qs₂, xs = xs₁ ++ x :: xs₂ ∧ before = qs₁ ++ own₁ ∧
      after = own₂ ++ qs₂ ∧ Converses poll xs₁ qs₁ ∧ Within poll x own₁ q own₂ ∧
      Converses poll xs₂ qs₂ := by
  induction h generalizing before with
  | nil => simp at hqs
  | @cons x xs own qs conveys rest ih =>
    -- the question is one of the first exchange or of a later one
    rcases split_append hqs.symm with ⟨own₂, rfl, rfl⟩ | ⟨before, rfl, hlater⟩
    · exact ⟨[], x, xs, [], before, own₂, qs, rfl, rfl, rfl, .nil, conveys.within rfl, rest⟩
    · obtain ⟨xs₁, y, xs₂, qs₁, own₁, own₂, qs₂, rfl, rfl, rfl, h₁, within, h₂⟩ := ih hlater
      exact ⟨x :: xs₁, y, xs₂, own ++ qs₁, own₁, own₂, qs₂, rfl, by simp, rfl,
        .cons conveys h₁, within, h₂⟩

end Converses

/-! ### Runs on a node -/

section Runs

variable {poll : Seconds} {own es : List (Program.Event Host)}

lemma exists_of_runs_priorityFee {x : Except Fault Int} (run : Program.Runs priorityFee own x) :
    ∃ y : Except Fault Json.Value, own = [⟨.node .priorityFee, y⟩] ∧ x = integerOf y := by
  obtain ⟨y, rest, rfl, ends⟩ := runs_ask_bind_iff.1 run
  obtain ⟨rfl, rfl⟩ := Program.Runs.done_iff.1 ends
  exact ⟨y, rfl, rfl⟩

lemma exists_of_runs_feeCap {x : Except Fault Int} (run : Program.Runs feeCap own x) :
    ∃ y : Except Fault Json.Value, own = [⟨.node .gasPrice, y⟩] ∧ x = integerOf y := by
  obtain ⟨y, rest, rfl, ends⟩ := runs_ask_bind_iff.1 run
  obtain ⟨rfl, rfl⟩ := Program.Runs.done_iff.1 ends
  exact ⟨y, rfl, rfl⟩

/-- The events of a call of the chain are the questions for its exchange. -/
lemma conveys_of_runs {c : Chain.Call Payload} {x : Chain.Answer c} {e : Exchange Payload}
    (run : Program.Runs (answer poll c) own x) (he : Exchange.ofAnswer? c x = some e)
    (ofSubmission : OfSubmission e) : Conveys poll e (nodeEvents own) := by
  cases c with
  | pendingNonce address =>
    cases he
    cases ofSubmission
  | included index receipt =>
    cases he
    cases ofSubmission
  | say line => cases he
  | log record => cases he
  | priorityFee =>
    cases he
    obtain ⟨own, rest, tip, rfl, asked, ends⟩ := Program.runs_bind_iff.1 run
    obtain ⟨y, rfl, rfl⟩ := exists_of_runs_priorityFee asked
    obtain ⟨rfl, rfl⟩ := Program.Runs.done_iff.1 ends
    exact .tip
  | feeCap =>
    cases he
    obtain ⟨own, rest, cap, rfl, asked, ends⟩ := Program.runs_bind_iff.1 run
    obtain ⟨y, rfl, rfl⟩ := exists_of_runs_feeCap asked
    obtain ⟨rfl, rfl⟩ := Program.Runs.done_iff.1 ends
    exact .cap
  | submit payload params =>
    cases he
    cases submits_of_runs run with
    | notBuilt => exact .notBuilt
    | notSigned => exact .notSigned
    | sent => exact .sent
  | wait hash timeout =>
    cases he
    obtain ⟨y, rest, rfl, ends⟩ := runs_ask_bind_iff.1 run
    obtain ⟨rfl, rfl⟩ := Program.Runs.done_iff.1 ends
    exact .wait
  | receipt hash =>
    cases he
    obtain ⟨y, rest, rfl, ends⟩ := runs_ask_bind_iff.1 run
    obtain ⟨rfl, rfl⟩ := Program.Runs.done_iff.1 ends
    exact .lookup

/-- What is no exchange asks the node nothing. -/
lemma nodeEvents_eq_nil_of_runs {c : Chain.Call Payload} {x : Chain.Answer c}
    (run : Program.Runs (answer poll c) own x) (he : Exchange.ofAnswer? c x = none) :
    nodeEvents own = [] := by
  cases c with
  | say line =>
    rw [Program.Runs.call_iff.1 run]
    rfl
  | log record =>
    rw [Program.Runs.call_iff.1 run]
    rfl
  | _ => cases he

/-- The questions of a run on a node are those for the exchanges of a run over the chain. -/
lemma converses_of_carries {inner : List (Program.Event (Chain Payload))}
    (h : Program.Carries (answer poll) inner es) (all : ∀ x ∈ exchanges inner, OfSubmission x) :
    Converses poll (exchanges inner) (nodeEvents es) := by
  induction h with
  | nil => exact .nil
  | @cons e inner own es run rest ih =>
    rw [exchanges_cons] at all ⊢
    have later := ih fun x hx => all x (List.mem_append_right _ hx)
    rw [nodeEvents_append]
    cases he : Exchange.ofAnswer? e.1 e.2 with
    | none =>
      have none : exchanges [e] = [] := by simp [exchanges, he]
      rw [none, nodeEvents_eq_nil_of_runs run he]
      exact later
    | some x =>
      have one : exchanges [e] = [x] := by simp [exchanges, he]
      rw [one] at all ⊢
      exact .cons (conveys_of_runs run he (all x (by simp))) later

end Runs

end StakeRegistry.Node
