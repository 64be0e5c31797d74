/-
How the answers of a node decide a submission.

A submission that is carried out on a node sees only what the node answers. `DecisionsKept` says,
for the questions to the node of a whole run, what each answer leads to:

* another attempt begins exactly after one that was refused or that was not included in time, as
  long as attempts are left;
* what is awaited or looked up was sent by an attempt of the run, and an answer to it ends the run
  with the receipt that it tells, or with an error that names the hash and the attempt;
* a lookup counts as one of a transaction that is not mined exactly if the node does not know it or
  has no receipt for it;
* a receipt that cannot be read ends the run with an error.

The main statement is `decisions_kept`. The exchanges of the run decide it (`Tx.Settled`), and every
question to the node belongs to one of them (`Converses.split`).
-/
import StakeRegistry.Proofs.Host.Surroundings
import StakeRegistry.Proofs.Node.Questions

namespace StakeRegistry.Node

open Tx

variable {poll : Seconds} {s : Submitter} {intent : Intent Payload} {fees : Fees}
  {r : Except TxError Receipt} {x : Exchange Payload} {xs : List (Exchange Payload)}
  {qs before after : List NodeEvent} {q : NodeEvent}

/-- The question ends an attempt that was refused, or waited for in vain. -/
inductive AllowsAttempt : NodeEvent → Prop where
  | notBuilt {call : ContractCall} {params : Keyed String Json.Value} {f : Fault}
      (refused : Refused f) : AllowsAttempt ⟨.build call params, Except.error f⟩
  | notSigned {account : String} {transaction : Transaction} {f : Fault} (refused : Refused f) :
      AllowsAttempt ⟨.sign account transaction, Except.error f⟩
  | notSent {signed : Signed} {f : Fault} (refused : Refused f) :
      AllowsAttempt ⟨.send signed, Except.error f⟩
  | notIncluded {hash : String} {timeout poll : Seconds} {f : Fault} (timedOut : TimedOut f) :
      AllowsAttempt ⟨.wait hash timeout poll, Except.error f⟩

/-- The hash was answered to the broadcast of the attempt at a place. -/
def SentBy (i : Nat) (hash : String) (qs : List NodeEvent) : Prop :=
  ∃ earlier signed bytes later, qs = earlier ++ ⟨.send signed, Except.ok bytes⟩ :: later ∧
    attempts earlier = i + 1 ∧ hash = "0x" ++ Bytes.toHex bytes

/-- What the answer to the wait for an attempt leads to: what follows it, and the result. -/
inductive WaitEnds (description hash : String) (i : Nat) (r : Except TxError Receipt) :
    Except Fault RawReceipt → List NodeEvent → Prop where
  /-- The attempt was not included in time: whether another one follows depends on how many are
  left. -/
  | timedOut {f : Fault} {after : List NodeEvent} (timedOut : TimedOut f) :
      WaitEnds description hash i r (.error f) after
  | included {raw : RawReceipt} {receipt : Receipt} (read : Receipt.ofRaw raw = .ok receipt)
      (result : r = .ok receipt) : WaitEnds description hash i r (.ok raw) []
  | illegible {raw : RawReceipt} {e : ReadError} (read : Receipt.ofRaw raw = .error e)
      (result : r = .error (.waitFailed description hash i (.unreadable e))) :
      WaitEnds description hash i r (.ok raw) []
  | failed {f : Fault} (other : ¬ TimedOut f)
      (result : r = .error (.waitFailed description hash i f)) :
      WaitEnds description hash i r (.error f) []

/-- What the answer to the lookup of an attempt leads to: what follows it, and the result. -/
inductive LookupEnds (hash : String) (i : Nat) (r : Except TxError Receipt) :
    Except Fault (Option RawReceipt) → List NodeEvent → Prop where
  /-- The attempt is not mined, and no older one is left: the submission fails. -/
  | gaveUp {y : Except Fault (Option RawReceipt)} {e : TxError} (notMined : NotMined y)
      (givesUp : e.GivesUp) (result : r = .error e) : LookupEnds hash i r y []
  /-- The attempt is not mined, and an older one is looked up. -/
  | goesOn {y : Except Fault (Option RawReceipt)} {hash' : String}
      {y' : Except Fault (Option RawReceipt)} {rest : List NodeEvent} (notMined : NotMined y) :
      LookupEnds hash i r y (⟨.receipt hash', y'⟩ :: rest)
  | found {raw : RawReceipt} {receipt : Receipt} (read : Receipt.ofRaw raw = .ok receipt)
      (result : r = .ok receipt) : LookupEnds hash i r (.ok (some raw)) []
  | illegible {raw : RawReceipt} {e : ReadError} (read : Receipt.ofRaw raw = .error e)
      (result : r = .error (.lookupFailed hash i (.unreadable e))) :
      LookupEnds hash i r (.ok (some raw)) []
  | failed {f : Fault} (other : ¬ NotMined (.error f))
      (result : r = .error (.lookupFailed hash i f)) : LookupEnds hash i r (.error f) []

/-- What each answer of a node leads to in a submission with the result `r`. -/
structure DecisionsKept (s : Submitter) (intent : Intent Payload) (qs : List NodeEvent)
    (r : Except TxError Receipt) : Prop where
  /-- Fees for another attempt are asked for exactly after an attempt that was refused or not
  included in time, if it was not the last one that is allowed. -/
  retries_iff : ∀ {before q after}, qs = before ++ q :: after →
    ((∃ y rest, after = ⟨.priorityFee, y⟩ :: rest) ↔
      AllowsAttempt q ∧ attempts (before ++ [q]) < s.maxAttempts)
  /-- A wait is one for the attempt that was begun last. -/
  waits : ∀ {before hash timeout poll y after},
    qs = before ++ ⟨.wait hash timeout poll, y⟩ :: after →
    ∃ i, attempts before = i + 1 ∧ SentBy i hash before ∧
      WaitEnds intent.description hash i r y after
  /-- A lookup is one of an attempt of the run. -/
  lookups : ∀ {before hash y after}, qs = before ++ ⟨.receipt hash, y⟩ :: after →
    ∃ i, SentBy i hash before ∧ LookupEnds hash i r y after
  /-- A receipt that cannot be read is none, whether it was awaited or looked up, and no attempt
  follows it: the error names the hash and the attempt. -/
  illegible_wait : ∀ {before hash timeout poll raw after},
    qs = before ++ ⟨.wait hash timeout poll, Except.ok raw⟩ :: after → ¬ Legible raw →
    after = [] ∧ ∃ i e, SentBy i hash before ∧
      r = .error (.waitFailed intent.description hash i (.unreadable e))
  illegible_lookup : ∀ {before hash raw after},
    qs = before ++ ⟨.receipt hash, Except.ok (some raw)⟩ :: after → ¬ Legible raw →
    after = [] ∧ ∃ i e, SentBy i hash before ∧ r = .error (.lookupFailed hash i (.unreadable e))

/-! ### Another attempt -/

/-- Only the last question of an exchange can end an attempt. -/
lemma Within.allowsAttempt_iff (h : Within poll x before q after) :
    AllowsAttempt q ↔ x.AllowsRetry ∧ after = [] := by
  cases h with
  | tip => exact ⟨nofun, fun h => h.1.elim⟩
  | cap => exact ⟨nofun, fun h => h.1.elim⟩
  | built => exact ⟨nofun, nofun⟩
  | signed => exact ⟨nofun, nofun⟩
  | lookup => exact ⟨nofun, fun h => h.1.elim⟩
  | notBuilt =>
    constructor
    · intro h
      cases h with
      | notBuilt refused => exact ⟨refused, rfl⟩
    · exact fun h => .notBuilt h.1
  | notSigned =>
    constructor
    · intro h
      cases h with
      | notSigned refused => exact ⟨refused, rfl⟩
    · exact fun h => .notSigned h.1
  | @sent payload params all transaction signed y =>
    cases y with
    | ok bytes => exact ⟨nofun, fun h => h.1.elim⟩
    | error f =>
      constructor
      · intro h
        cases h with
        | notSent refused => exact ⟨refused, rfl⟩
      · exact fun h => .notSent h.1
  | @wait hash timeout y =>
    cases y with
    | ok raw =>
      refine ⟨nofun, fun h => ?_⟩
      -- a receipt is no wait in vain, whether or not it can be read
      rw [awaited_ok] at h
      cases hr : Receipt.ofRaw raw with
      | error e => simp [hr, Except.mapError, Exchange.AllowsRetry, Fault.isTimeout] at h
      | ok receipt => simp [hr, Except.mapError, Exchange.AllowsRetry] at h
    | error f =>
      obtain ⟨f', hf', timedOut_iff⟩ := awaited_error hash timeout f
      rw [hf']
      constructor
      · intro h
        cases h with
        | notIncluded timedOut => exact ⟨timedOut_iff.2 timedOut, rfl⟩
      · exact fun h => .notIncluded (timedOut_iff.1 h.1)

/-- The questions after one of an exchange do not begin with one for a tip. -/
lemma Within.not_tip {y : Except Fault Json.Value} {rest : List NodeEvent}
    (h : Within poll x before q after) : after ≠ ⟨.priorityFee, y⟩ :: rest := by
  intro hafter
  cases h <;> cases hafter

lemma Converses.tip_iff (h : Converses poll xs qs) :
    (∃ y rest, qs = ⟨.priorityFee, y⟩ :: rest) ↔
    ∃ answer rest, xs = .priorityFee answer :: rest := by
  constructor
  · rintro ⟨y, rest, rfl⟩
    generalize hqs : ⟨.priorityFee, y⟩ :: rest = qs at h
    cases h with
    | nil => cases hqs
    | cons conveys others =>
      cases conveys with
      | tip => exact ⟨_, _, rfl⟩
      | _ => cases hqs
  · rintro ⟨answer, rest, rfl⟩
    cases h with
    | cons conveys others =>
      cases conveys with
      | tip => exact ⟨_, _, rfl⟩

lemma retries_iff_of_settled (settled : Settled s intent fees xs r) (h : Converses poll xs qs)
    (hqs : qs = before ++ q :: after) : (∃ y rest, after = ⟨.priorityFee, y⟩ :: rest) ↔
      AllowsAttempt q ∧ attempts (before ++ [q]) < s.maxAttempts := by
  obtain ⟨xs₁, x, xs₂, qs₁, own₁, own₂, qs₂, rfl, rfl, rfl, h₁, within, h₂⟩ := h.split hqs
  have attempts_eq : attempts (qs₁ ++ own₁ ++ [q]) = (submissions (xs₁ ++ [x])).length := by
    rw [List.append_assoc, attempts_append, h₁.attempts_eq, within.attempts_eq, submissions_append,
      List.length_append]
  rw [attempts_eq, within.allowsAttempt_iff]
  constructor
  · rintro ⟨y, rest, hafter⟩
    -- a tip is asked by the next exchange, since none asks for it after another question
    cases own₂ with
    | cons e own₂ =>
      obtain ⟨rfl, -⟩ := List.cons.inj hafter
      exact absurd rfl within.not_tip
    | nil =>
      obtain ⟨answer, later, rfl⟩ := h₂.tip_iff.1 ⟨y, rest, hafter⟩
      have left : (submissions (xs₁ ++ [x])).length < s.maxAttempts :=
        settled.left_of_tip (by rw [List.append_assoc, List.singleton_append])
      cases settled.mayFollow rfl with
      | tip retry => exact ⟨⟨retry, rfl⟩, left⟩
  · rintro ⟨⟨retry, rfl⟩, left⟩
    obtain ⟨answer, later, rfl⟩ := settled.retries rfl retry left
    exact h₂.tip_iff.2 ⟨answer, later, rfl⟩

/-! ### Hashes -/

/-- A hash that was broadcast at a place was sent by the attempt at this place. -/
lemma Converses.sentBy {i : Nat} {params : Params} {hash : String} (h : Converses poll xs qs)
    (hi : (submissions xs)[i]? = some (params, .ok hash)) : SentBy i hash qs := by
  induction h generalizing i with
  | nil => simp at hi
  | @cons x xs own qs conveys rest ih =>
    rw [submissions_cons] at hi
    -- what the later exchanges have sent was sent after the questions of the first one
    have later : ∀ {j}, i = j + attempts own → (submissions xs)[j]? = some (params, .ok hash) →
        SentBy i hash (own ++ qs) := by
      rintro j rfl hj
      obtain ⟨earlier, signed, bytes, after, rfl, attempts_eq, rfl⟩ := ih hj
      refine ⟨own ++ earlier, signed, bytes, after, by simp, ?_, rfl⟩
      rw [attempts_append, attempts_eq]
      omega
    cases conveys with
    | tip => exact later (j := i) rfl hi
    | cap => exact later (j := i) rfl hi
    | wait => exact later (j := i) rfl hi
    | lookup => exact later (j := i) rfl hi
    | notBuilt =>
      cases i with
      | zero => simp at hi
      | succ i => exact later rfl hi
    | notSigned =>
      cases i with
      | zero => simp at hi
      | succ i => exact later rfl hi
    | @sent payload params' all transaction signed y =>
      cases i with
      | succ i => exact later rfl hi
      | zero =>
        cases y with
        | error f => simp [Except.map] at hi
        | ok bytes =>
          obtain ⟨-, rfl⟩ : params' = params ∧ "0x" ++ bytes.toHex = hash := by
            simpa [Except.map] using hi
          exact ⟨[⟨.build payload.call all, Except.ok transaction⟩,
            ⟨.sign payload.account transaction, Except.ok signed⟩], signed, bytes, qs,
            rfl, rfl, rfl⟩

/-! ### Waits and lookups -/

lemma waitEnds_of_settled {hash : String} {timeout : Seconds}
    {y : Except Fault RawReceipt} {i : Nat} {xs₁ xs₂ : List (Exchange Payload)}
    (settled : Settled s intent fees xs r)
    (hxs : xs = xs₁ ++ .wait hash timeout (awaited hash timeout y) :: xs₂)
    (h₂ : Converses poll xs₂ after) (hi : (submissions xs₁).length = i + 1) :
    WaitEnds intent.description hash i r y after := by
  by_cases timedOut : ∃ f, y = .error f ∧ TimedOut f
  · obtain ⟨f, rfl, timedOut⟩ := timedOut
    exact .timedOut timedOut
  -- seen from the chain, the wait was not in vain either
  have hf : ∀ f, awaited hash timeout y = .error f → f.isTimeout = false := by
    intro f' hf'
    cases y with
    | ok raw =>
      rw [awaited_ok] at hf'
      obtain ⟨e, -, rfl⟩ := mapError_eq_error_iff.1 hf'
      rfl
    | error f =>
      obtain ⟨f'', hf'', timedOut_iff⟩ := awaited_error hash timeout f
      obtain rfl : f' = f'' := by simpa [hf'] using hf''
      by_contra ht
      exact timedOut ⟨f, rfl, timedOut_iff.1 (by simpa using ht)⟩
  obtain ⟨rfl, j, hj, rfl⟩ := settled.wait_decides hf hxs
  obtain rfl : i = j := by omega
  cases h₂
  cases y with
  | error f =>
    have other : ¬ TimedOut f := fun h => timedOut ⟨f, rfl, h⟩
    rw [awaited_of_not_timedOut other]
    exact .failed other rfl
  | ok raw =>
    rw [awaited_ok]
    cases hr : Receipt.ofRaw raw with
    | error e => exact .illegible hr rfl
    | ok receipt => exact .included hr rfl

lemma waits_of_settled {hash : String} {timeout poll' : Seconds} {y : Except Fault RawReceipt}
    (settled : Settled s intent fees xs r) (h : Converses poll xs qs)
    (hqs : qs = before ++ ⟨.wait hash timeout poll', y⟩ :: after) :
    ∃ i, attempts before = i + 1 ∧ SentBy i hash before ∧
      WaitEnds intent.description hash i r y after := by
  obtain ⟨xs₁, x, xs₂, qs₁, own₁, own₂, qs₂, hxs, rfl, rfl, h₁, within, h₂⟩ := h.split hqs
  cases within with
  | wait =>
    obtain ⟨earlier, z, rfl, follows⟩ := settled.exists_previous hxs (by simp)
    cases follows with
    | @wait payload params =>
      -- the wait comes right after the broadcast of the same attempt
      have length_eq : (submissions (earlier ++ [.submit payload params (.ok hash)])).length =
          (submissions earlier).length + 1 := by simp
      have submitted : (submissions (earlier ++ [.submit payload params (.ok hash)]))[
          (submissions earlier).length]? = some (params, .ok hash) := by simp
      have sent : SentBy (submissions earlier).length hash qs₁ := h₁.sentBy submitted
      rw [List.append_nil]
      exact ⟨_, h₁.attempts_eq.trans length_eq, sent, waitEnds_of_settled settled hxs h₂ length_eq⟩

/-- What a lookup decides over the chain is what it leads to on the node. -/
lemma lookupEnds_of_decides {hash : String} {y : Except Fault (Option RawReceipt)} {i : Nat}
    (decides : LookupDecides i hash r (lookedUp y) xs) (h : Converses poll xs after) :
    LookupEnds hash i r y after := by
  by_cases notMined : NotMined y
  · rw [lookedUp_of_notMined notMined] at decides
    cases decides with
    | gaveUp givesUp result =>
      cases h
      exact .gaveUp notMined givesUp result
    | goesOn =>
      cases h with
      | cons conveys others =>
        cases conveys with
        | lookup => exact .goesOn notMined
  · cases y with
    | error f =>
      rw [lookedUp_of_not_notMined notMined] at decides
      cases decides with
      | failed result =>
        cases h
        exact .failed notMined result
    | ok told =>
      cases told with
      | none => exact absurd (.inl rfl) notMined
      | some raw =>
        rw [lookedUp_some] at decides
        cases hr : Receipt.ofRaw raw with
        | error e =>
          rw [hr] at decides
          cases decides with
          | failed result =>
            cases h
            exact .illegible hr result
        | ok receipt =>
          rw [hr] at decides
          cases decides with
          | found result =>
            cases h
            exact .found hr result

lemma lookups_of_settled {hash : String} {y : Except Fault (Option RawReceipt)}
    (settled : Settled s intent fees xs r) (h : Converses poll xs qs)
    (hqs : qs = before ++ ⟨.receipt hash, y⟩ :: after) :
    ∃ i, SentBy i hash before ∧ LookupEnds hash i r y after := by
  obtain ⟨xs₁, x, xs₂, qs₁, own₁, own₂, qs₂, hxs, rfl, rfl, h₁, within, h₂⟩ := h.split hqs
  cases within with
  | lookup =>
    obtain ⟨i, hi, decides⟩ := settled.lookup_decides hxs
    obtain ⟨-, params, hi⟩ := mem_broadcasts.1 hi
    rw [List.append_nil]
    exact ⟨i, h₁.sentBy hi, lookupEnds_of_decides decides h₂⟩

/-! ### Whole runs -/

/-- All exchanges of a submission ask the node about it. -/
lemma ofSubmission_of_settled (settled : Settled s intent fees xs r) :
    ∀ x ∈ xs, OfSubmission x := by
  intro x hx
  obtain ⟨before, after, hxs⟩ := List.append_of_mem hx
  cases x with
  | pendingNonce address answer =>
    obtain ⟨earlier, y, -, follows⟩ := settled.exists_previous hxs (by simp)
    cases follows
  | included index receipt answer =>
    obtain ⟨earlier, y, -, follows⟩ := settled.exists_previous hxs (by simp)
    cases follows
  | _ => trivial

/-- Whatever a node answers, the answers decide every submission in the same way. -/
theorem decisions_kept {poll : Seconds} {s : Submitter} {intent : Intent Payload} {fees : Fees}
    {es : List (Program.Event Host)} {r : Except TxError Receipt}
    (run : Program.Runs (Program.expand (I := Chain Payload) (answer poll)
      (Tx.submit s intent fees).run) es r) :
    DecisionsKept s intent (nodeEvents es) r := by
  obtain ⟨inner, hinner, carries⟩ := Program.exists_carries_of_runs run
  have settled := settled_of_runs hinner
  have converses := converses_of_carries carries (ofSubmission_of_settled settled)
  constructor
  case retries_iff => exact fun hqs => retries_iff_of_settled settled converses hqs
  case waits => exact fun hqs => waits_of_settled settled converses hqs
  case lookups => exact fun hqs => lookups_of_settled settled converses hqs
  case illegible_wait =>
    intro before hash timeout poll' raw after hqs illegible
    obtain ⟨e, he⟩ := exists_error_of_not_legible illegible
    obtain ⟨i, -, sent, ends⟩ := waits_of_settled settled converses hqs
    cases ends with
    | included read result => simp [he] at read
    | illegible read result => exact ⟨rfl, i, _, sent, result⟩
  case illegible_lookup =>
    intro before hash raw after hqs illegible
    obtain ⟨e, he⟩ := exists_error_of_not_legible illegible
    obtain ⟨i, sent, ends⟩ := lookups_of_settled settled converses hqs
    cases ends with
    | gaveUp notMined givesUp result => simp [NotMined] at notMined
    | goesOn notMined => simp [NotMined] at notMined
    | found read result => simp [he] at read
    | illegible read result => exact ⟨rfl, i, _, sent, result⟩

/-- A node that takes every transaction and has a script of answers to waits. -/
def accepting : (c : NodeCall) → List (Except Fault RawReceipt) →
    c.Answer × List (Except Fault RawReceipt)
  | .priorityFee, ws => (Except.ok (.int 1), ws)
  | .gasPrice, ws => (Except.ok (.int 10), ws)
  | .build call params, ws => (Except.ok { call, params }, ws)
  | .sign account transaction, ws => (Except.ok { account, transaction }, ws)
  | .send _, ws => (Except.ok [1], ws)
  | .wait _ _ _, w :: ws => (w, ws)
  | c, ws => (c.offline, ws)

/-- A submission whose first wait is in vain and whose second one tells a receipt without a
status. -/
theorem decisions_kept_of_missing_status :
    let s : Submitter := { maxAttempts := 3 }
    let call : ContractCall := { contract := "0xc", method := "stake", arguments := [] }
    let intent : Intent Payload :=
    { payload := { call, account := "0xa", chainId := 1 }, sender := "0xa" }
    let fees : Fees := { tip := 1, feeCap := 10, gasLimit := 21000, nonce := 7 }
    let waits : List (Except Fault RawReceipt) := [
      .error (.reported .timeExhausted "late"),
      .ok [("transactionHash", .bytes [1]), ("blockNumber", .plain (.int 5))]]
    let program := Program.expand (I := Chain Payload) (answer defaultPoll)
      (Tx.submit s intent fees).run
    (program.run (Host.onNode accepting) waits).1 =
        .error (.waitFailed "tx" "0x01" 1 (.unreadable (.missingKey "status"))) ∧
      attempts (nodeEvents (program.trace (Host.onNode accepting) waits)) = 2 ∧
      DecisionsKept s intent (nodeEvents (program.trace (Host.onNode accepting) waits))
        (program.run (Host.onNode accepting) waits).1 :=
  ⟨by decide +kernel, by decide +kernel, decisions_kept (Program.runs_trace _ _ _)⟩

/-- Another attempt may begin although the node did not say that the time is exhausted: the failure
of the wait can be the one that tells it already. -/
theorem retries_not_only_when_time_exhausted :
    ¬ ∀ (poll : Seconds) (s : Submitter) (intent : Intent Payload) (fees : Fees)
      (es : List (Program.Event Host)) (r : Except TxError Receipt),
      Program.Runs (Program.expand (I := Chain Payload) (answer poll)
        (Tx.submit s intent fees).run) es r →
      ∀ before hash timeout poll' f y after,
        nodeEvents es = before ++
          ⟨.wait hash timeout poll', Except.error f⟩ :: ⟨.priorityFee, y⟩ :: after →
        ∃ message, f = .reported .timeExhausted message := by
  intro h
  let s : Submitter := { maxAttempts := 2 }
  let call : ContractCall := { contract := "0xc", method := "stake", arguments := [] }
  let intent : Intent Payload :=
    { payload := { call, account := "0xa", chainId := 1 }, sender := "0xa" }
  let fees : Fees := { tip := 1, feeCap := 10, gasLimit := 21000, nonce := 7 }
  let waits : List (Except Fault RawReceipt) := [.error (.reported .inclusionTimeout "late")]
  let program := Program.expand (I := Chain Payload) (answer defaultPoll)
    (Tx.submit s intent fees).run
  let qs := nodeEvents (program.trace (Host.onNode accepting) waits)
  obtain ⟨message, hf⟩ := h defaultPoll s intent fees _ _
    (Program.runs_trace (Host.onNode accepting) program waits)
      (qs.take 3) "0x01" s.timeout defaultPoll
    (.reported .inclusionTimeout "late") (.ok (.int 1)) (qs.drop 5) rfl
  cases hf

end StakeRegistry.Node
