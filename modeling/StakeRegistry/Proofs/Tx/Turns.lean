/-
How a run of several transactions goes on and how it ends.

A run of `submitAll` consists of turns, one for each transaction that it begins:

* `Allocates a xs r a'`: the exchanges `xs` find the next nonce, which leads the allocator from `a`
  to `a'`;
* `Prepares gasLimit nonce xs r`: the exchanges `xs` find the fees of the first attempt;
* `Takes s intent a xs r a'`: all exchanges `xs` with which one transaction is submitted;
* `Batch s report index intents a ts r a'`: the turns `ts` of a run of `intents`, the first of which
  is at the place `index`;
* `Performed s report index ts es`: the events `es` of these turns;
* `FirstTurn s report index intent rest a es r a'`: the events `es` of a run that begins with
  `intent`.

The main statement is `batch_of_runs`: the exchanges of every run are those of such turns. It comes
from an induction on the transactions (`performed_of_runs`), with `firstTurn_of_runs` as its step;
the place and the allocator go on from turn to turn.
-/
import StakeRegistry.Proofs.Tx.Settlement

namespace StakeRegistry.Tx

variable {ω α β : Type}

/-- The next nonce is known, asked, or not told. -/
inductive Allocates (a : Allocator) :
    List (Exchange ω) → Except BatchError Int → Allocator → Prop where
  | known {n : Int} (next : a.next = some n) :
    Allocates a [] (.ok n) { a with next := some (n + 1) }
  | asked {n : Int} (next : a.next = none) :
      Allocates a [.pendingNonce a.address (.ok n)] (.ok n) { a with next := some (n + 1) }
  | failed {f : Fault} (next : a.next = none) :
      Allocates a [.pendingNonce a.address (.error f)] (.error (.fault f)) a

/-- The fees of the first attempt are those that the node suggests, if a transaction can carry
them. -/
inductive Prepares (gasLimit nonce : Int) : List (Exchange ω) → Except BatchError Fees → Prop where
  | noSuggestion {xs : List (Exchange ω)} {e : TxError} (asked : Suggests xs (.error e)) :
      Prepares gasLimit nonce xs (.error (.tx e))
  | invalid {xs : List (Exchange ω)} {suggestion : Suggestion} {e : InvalidFee}
      (asked : Suggests xs (.ok suggestion))
      (check : Fees.check ⟨suggestion.tip, suggestion.feeCap, gasLimit, nonce⟩ = .error e) :
      Prepares gasLimit nonce xs (.error (.tx (.invalidFee e)))
  | fees {xs : List (Exchange ω)} {fees : Fees} (asked : Suggests xs (.ok ⟨fees.tip, fees.feeCap⟩))
      (valid : fees.Valid) (gasLimit_eq : fees.gasLimit = gasLimit)
      (nonce_eq : fees.nonce = nonce) :
      Prepares gasLimit nonce xs (.ok fees)

/-- One transaction is submitted at the next nonce. -/
inductive Takes (s : Submitter) (intent : Intent ω) (a : Allocator) :
    List (Exchange ω) → Except BatchError Receipt → Allocator → Prop where
  | noNonce {xs : List (Exchange ω)} {e : BatchError} {a' : Allocator}
      (allocates : Allocates a xs (.error e) a') : Takes s intent a xs (.error e) a'
  | noFees {xs ys : List (Exchange ω)} {n : Int} {e : BatchError} {a' : Allocator}
      (allocates : Allocates a xs (.ok n) a')
      (prepares : Prepares intent.gasLimit n ys (.error e)) :
      Takes s intent a (xs ++ ys) (.error e) a'
  | submitted {xs ys zs : List (Exchange ω)} {n : Int} {fees : Fees} {r : Except TxError Receipt}
      {a' : Allocator} (allocates : Allocates a xs (.ok n) a')
      (prepares : Prepares intent.gasLimit n ys (.ok fees)) (settled : Settled s intent fees zs r) :
      Takes s intent a (xs ++ (ys ++ zs)) (r.mapError .tx) a'

/-- What was done for one transaction: its submission with its outcome, and the report of it, if it
was reported. -/
structure Turn (ω : Type) where
  intent : Intent ω
  own : List (Exchange ω)
  outcome : Except BatchError Receipt
  told : List (Exchange ω)
  reported : Option (Except Fault Unit)

namespace Turn

/-- All exchanges of a turn. -/
def exchanges (t : Turn ω) : List (Exchange ω) :=
  t.own ++ t.told

/-- The transaction was included and succeeded, and the report of it did not fail. -/
def Completed (t : Turn ω) : Prop :=
  ∃ receipt, t.outcome = .ok receipt ∧ receipt.status = 1 ∧ t.reported = some (.ok ())

/-- The transaction was included and succeeded. -/
def Succeeded (t : Turn ω) : Prop :=
  ∃ receipt, t.outcome = .ok receipt ∧ receipt.status = 1

/-- If the transaction was included, then its block can be told. -/
def Tellable (t : Turn ω) : Prop :=
  ∀ receipt, t.outcome = .ok receipt → Numeral.isWritable receipt.blockNumber = true

/-- A transaction is reported exactly if it was included and succeeded and its block can be told,
with its place and its receipt. -/
inductive Reports (report : Report ω) (place : Nat) (t : Turn ω) : Prop where
  | silent (outcome : ∀ receipt, t.outcome = .ok receipt → receipt.status = 1 →
        Numeral.isWritable receipt.blockNumber = false)
      (reported : t.reported = none) (told : t.told = [])
  | made {receipt : Receipt} {x : Except Fault Unit} (outcome : t.outcome = .ok receipt)
      (writable : Numeral.isWritable receipt.blockNumber = true) (status : receipt.status = 1)
      (reported : t.reported = some x) (told : Asks (report place receipt) t.told x)

/-- How a turn ends the run that it belongs to, the transaction being at a place of the run. -/
inductive Stops (t : Turn ω) (place : Nat) : BatchError → Prop where
  | failed {e : BatchError} (outcome : t.outcome = .error e)
      (notReverted : ∀ i description receipt, e ≠ .reverted i description receipt) : Stops t place e
  | unwritable {receipt : Receipt} (outcome : t.outcome = .ok receipt)
      (unwritable : Numeral.isWritable receipt.blockNumber = false) (reported : t.reported = none) :
      Stops t place (.unwritable receipt.blockNumber)
  | reverted {receipt : Receipt} (outcome : t.outcome = .ok receipt)
      (writable : Numeral.isWritable receipt.blockNumber = true) (status : receipt.status ≠ 1) :
      Stops t place (.reverted place t.intent.description receipt)
  | notReported {receipt : Receipt} {f : Fault} (outcome : t.outcome = .ok receipt)
      (writable : Numeral.isWritable receipt.blockNumber = true) (status : receipt.status = 1)
      (reported : t.reported = some (.error f)) : Stops t place (.fault f)

/-- What a failed submission leaves of an allocator: it forgets its count. -/
def leaves (t : Turn ω) (a : Allocator) : Allocator :=
  match t.outcome with
  | .ok _ => a
  | .error _ => a.reset

end Turn

/-- A run of transactions, of which the first is at a place, by its turns. -/
inductive Batch (s : Submitter) (report : Report ω) : Nat → List (Intent ω) → Allocator →
    List (Turn ω) → Except BatchError (List Receipt) → Allocator → Prop where
  | nil {index : Nat} {a : Allocator} : Batch s report index [] a [] (.ok []) a
  | stopped {index : Nat} {t : Turn ω} {rest : List (Intent ω)} {a a' : Allocator} {e : BatchError}
      (turn : Asks ((submitNext s t.intent).run.run a) t.own (t.outcome, a'))
      (reports : t.Reports report index) (stops : t.Stops index e) :
      Batch s report index (t.intent :: rest) a [t] (.error e) (t.leaves a')
  | completed {index : Nat} {t : Turn ω} {rest : List (Intent ω)} {a a' a'' : Allocator}
      {receipt : Receipt} {ts : List (Turn ω)} {r : Except BatchError (List Receipt)}
      (turn : Asks ((submitNext s t.intent).run.run a) t.own (t.outcome, a'))
      (reports : t.Reports report index) (completed : t.Completed)
      (outcome : t.outcome = .ok receipt) (others : Batch s report (index + 1) rest a' ts r a'') :
      Batch s report index (t.intent :: rest) a (t :: ts) (r.map (receipt :: ·)) a''

/-! ### Programs that hand out nonces -/

/-- A line to the operator is no question. -/
lemma asks_say_iff {line : String} {xs : List (Exchange ω)} {u : Unit} :
    Asks (Chain.say line) xs u ↔ xs = [] :=
  asks_call_iff

section Equations

variable {p : BatchRun ω α} {f : α → BatchRun ω β} {a : Allocator}

/-- A step that may fail is followed by the next one only if it does not fail; what it did to the
allocator stands either way. -/
lemma run_batch_bind : (p >>= f).run.run a = p.run.run a >>= fun x =>
    match x with
    | (.ok v, a₁) => (f v).run.run a₁
    | (.error e, a₁) => .done (.error e, a₁) := by
  rw [ExceptT.run_bind, StateT.run_bind]
  refine bind_congr fun x => ?_
  obtain ⟨e | v, a₁⟩ := x <;> rfl

/-- A failure goes to the handler, with what was done to the allocator until then. -/
lemma run_batch_tryCatch {handler : BatchError → BatchRun ω α} :
    (tryCatch p handler).run.run a = p.run.run a >>= fun x =>
      match x with
      | (.ok v, a₁) => .done (.ok v, a₁)
      | (.error e, a₁) => (handler e).run.run a₁ := by
  refine congrArg (p.run.run a >>= ·) (funext fun x => ?_)
  obtain ⟨e | v, a₁⟩ := x <;> rfl

lemma run_get_bind {f : Allocator → BatchRun ω β} : (get >>= f).run.run a = (f a).run.run a :=
  rfl

lemma run_told_bind {q : Program (Chain ω) α} :
    (told q >>= f).run.run a = q >>= fun v => (f v).run.run a := by
  rw [told, ExceptT.run_bind_lift, StateT.run_bind, StateT.run_lift, bind_assoc]
  rfl

lemma run_ofCall_bind {q : Program (Chain ω) (Except Fault α)} :
    (ofCall q >>= f).run.run a = q >>= fun x =>
      match x with
      | .ok v => (f v).run.run a
      | .error fault => .done (.error (.fault fault), a) := by
  rw [ofCall, bind_assoc, run_told_bind]
  refine bind_congr fun x => ?_
  obtain fault | v := x <;> rfl

/-- Only a failure makes the allocator forget its count. -/
lemma run_resetOnError_bind : (resetOnError p >>= f).run.run a = p.run.run a >>= fun x =>
    match x with
    | (.ok v, a₁) => (f v).run.run a₁
    | (.error e, a₁) => .done (.error e, a₁.reset) := by
  rw [run_batch_bind, resetOnError, run_batch_tryCatch, bind_assoc]
  refine bind_congr fun x => ?_
  obtain ⟨e | v, a₁⟩ := x <;> rfl

/-- The first transaction has its turn, and the others follow only if it was completed. -/
lemma run_submitFrom_cons {s : Submitter} {report : Report ω} {index : Nat} {intent : Intent ω}
    {rest : List (Intent ω)} :
    (submitFrom s report index (intent :: rest)).run.run a =
      (submitNext s intent).run.run a >>= fun x =>
        match x with
        | (.error e, a₁) => .done (.error e, a₁.reset)
        | (.ok receipt, a₁) =>
          if Numeral.isWritable receipt.blockNumber = true then do
            Chain.say (intent.includedLine receipt)
            if receipt.status = 1 then
              match ← report index receipt with
              | .ok () =>
                let (r, a₂) ← (submitFrom s report (index + 1) rest).run.run a₁
                return (r.map (receipt :: ·), a₂)
              | .error f => return (.error (.fault f), a₁)
            else return (.error (.reverted index intent.description receipt), a₁)
          else .done (.error (.unwritable receipt.blockNumber), a₁) := by
  rw [submitFrom, run_resetOnError_bind]
  refine bind_congr fun x => ?_
  obtain ⟨e | receipt, a₁⟩ := x
  · rfl
  simp only []
  cases writable : Numeral.isWritable receipt.blockNumber with
  | false => rfl
  | true =>
    simp only [Bool.not_true, Bool.false_eq_true, if_false, if_true]
    rw [run_told_bind]
    refine bind_congr fun _ => ?_
    by_cases status : receipt.status = 1
    · rw [if_neg (by simp [Receipt.succeeded, status]), if_pos status, run_ofCall_bind]
      refine bind_congr fun x => ?_
      obtain f | u := x
      · rfl
      simp only []
      rw [run_batch_bind]
      refine bind_congr fun y => ?_
      obtain ⟨e | receipts, a₂⟩ := y <;> rfl
    · rw [if_pos (by simp [Receipt.succeeded, status]), if_neg status]
      rfl

end Equations

section BatchRun

variable {a a' : Allocator} {xs : List (Exchange ω)}

lemma asks_batch_bind_iff {p : BatchRun ω α} {f : α → BatchRun ω β} {r : Except BatchError β} :
    Asks ((p >>= f).run.run a) xs (r, a') ↔
      (∃ e, r = .error e ∧ Asks (p.run.run a) xs (.error e, a')) ∨
      ∃ xs₁ xs₂ v a₁, xs = xs₁ ++ xs₂ ∧ Asks (p.run.run a) xs₁ (.ok v, a₁) ∧
        Asks ((f v).run.run a₁) xs₂ (r, a') := by
  rw [run_batch_bind, asks_bind_iff]
  constructor
  · rintro ⟨xs₁, xs₂, ⟨x, a₁⟩, rfl, h₁, h₂⟩
    cases x with
    | error e =>
      obtain ⟨rfl, hr⟩ := asks_done_iff.1 h₂
      obtain ⟨rfl, rfl⟩ := Prod.mk.inj hr
      exact .inl ⟨e, rfl, by simpa using h₁⟩
    | ok v => exact .inr ⟨xs₁, xs₂, v, a₁, rfl, h₁, h₂⟩
  · rintro (⟨e, rfl, h⟩ | ⟨xs₁, xs₂, v, a₁, rfl, h₁, h₂⟩)
    · exact ⟨xs, [], (.error e, a'), by simp, h, asks_done_iff.2 ⟨rfl, rfl⟩⟩
    · exact ⟨xs₁, xs₂, (.ok v, a₁), rfl, h₁, h₂⟩

lemma asks_batch_pure_iff {v : α} {r : Except BatchError α} :
    Asks ((pure v : BatchRun ω α).run.run a) xs (r, a') ↔ xs = [] ∧ r = .ok v ∧ a' = a := by
  rw [← Prod.mk.injEq]
  exact asks_done_iff

lemma asks_batch_throw_iff {e : BatchError} {r : Except BatchError α} :
    Asks ((throw e : BatchRun ω α).run.run a) xs (r, a') ↔ xs = [] ∧ r = .error e ∧ a' = a := by
  rw [← Prod.mk.injEq]
  exact asks_done_iff

lemma asks_get_bind_iff {f : Allocator → BatchRun ω β} {r : Except BatchError β × Allocator} :
    Asks ((get >>= f).run.run a) xs r ↔ Asks ((f a).run.run a) xs r :=
  Iff.rfl

lemma asks_set_bind_iff {a₁ : Allocator} {f : PUnit → BatchRun ω β}
    {r : Except BatchError β × Allocator} :
    Asks ((set a₁ >>= f).run.run a) xs r ↔ Asks ((f ⟨⟩).run.run a₁) xs r :=
  Iff.rfl

lemma asks_told_bind_iff {p : Program (Chain ω) α} {f : α → BatchRun ω β}
    {r : Except BatchError β × Allocator} :
    Asks ((told p >>= f).run.run a) xs r ↔
      ∃ xs₁ xs₂ v, xs = xs₁ ++ xs₂ ∧ Asks p xs₁ v ∧ Asks ((f v).run.run a) xs₂ r := by
  rw [run_told_bind, asks_bind_iff]

lemma asks_ofSubmission_iff {p : OnChain ω TxError α} {r : Except BatchError α} :
    Asks ((ofSubmission p).run.run a) xs (r, a') ↔
      ∃ x, Asks p.run xs x ∧ r = x.mapError .tx ∧ a' = a := by
  rw [ofSubmission, asks_told_bind_iff]
  constructor
  · rintro ⟨xs₁, xs₂, x, rfl, h₁, h₂⟩
    cases x with
    | ok v =>
      obtain ⟨rfl, rfl, rfl⟩ := asks_batch_pure_iff.1 h₂
      exact ⟨.ok v, by simpa using h₁, rfl, rfl⟩
    | error e =>
      obtain ⟨rfl, rfl, rfl⟩ := asks_batch_throw_iff.1 h₂
      exact ⟨.error e, by simpa using h₁, rfl, rfl⟩
  · rintro ⟨x, h, rfl, rfl⟩
    refine ⟨xs, [], x, by simp, h, ?_⟩
    cases x with
    | ok v => exact asks_batch_pure_iff.2 ⟨rfl, rfl, rfl⟩
    | error e => exact asks_batch_throw_iff.2 ⟨rfl, rfl, rfl⟩

lemma asks_ofCall_iff {p : Program (Chain ω) (Except Fault α)} {r : Except BatchError α} :
    Asks ((ofCall p).run.run a) xs (r, a') ↔ ∃ x, Asks p xs x ∧ r = x.mapError .fault ∧ a' = a := by
  rw [ofCall, asks_told_bind_iff]
  constructor
  · rintro ⟨xs₁, xs₂, x, rfl, h₁, h₂⟩
    cases x with
    | ok v =>
      obtain ⟨rfl, rfl, rfl⟩ := asks_batch_pure_iff.1 h₂
      exact ⟨.ok v, by simpa using h₁, rfl, rfl⟩
    | error f =>
      obtain ⟨rfl, rfl, rfl⟩ := asks_batch_throw_iff.1 h₂
      exact ⟨.error f, by simpa using h₁, rfl, rfl⟩
  · rintro ⟨x, h, rfl, rfl⟩
    refine ⟨xs, [], x, by simp, h, ?_⟩
    cases x with
    | ok v => exact asks_batch_pure_iff.2 ⟨rfl, rfl, rfl⟩
    | error f => exact asks_batch_throw_iff.2 ⟨rfl, rfl, rfl⟩

end BatchRun

/-! ### One transaction -/

lemma allocates_of_asks {a a' : Allocator} {xs : List (Exchange ω)} {r : Except BatchError Int}
    (h : Asks (allocate.run.run a) xs (r, a')) : Allocates a xs r a' := by
  rw [allocate, asks_get_bind_iff] at h
  cases hn : a.next with
  | some n =>
    simp only [hn] at h
    rw [asks_set_bind_iff] at h
    obtain ⟨rfl, rfl, rfl⟩ := asks_batch_pure_iff.1 h
    exact .known hn
  | none =>
    simp only [hn] at h
    rw [asks_batch_bind_iff] at h
    rcases h with ⟨e, rfl, h⟩ | ⟨xs₁, xs₂, n, a₁, rfl, h, h'⟩
    · obtain ⟨x, hx, he, rfl⟩ := asks_ofCall_iff.1 h
      obtain rfl := asks_call_iff.1 hx
      obtain ⟨f, rfl, rfl⟩ := mapError_eq_error_iff.1 he.symm
      exact .failed hn
    · obtain ⟨x, hx, hv, rfl⟩ := asks_ofCall_iff.1 h
      obtain rfl := asks_call_iff.1 hx
      obtain rfl := mapError_eq_ok_iff.1 hv.symm
      rw [asks_told_bind_iff] at h'
      obtain ⟨ys, zs, v, rfl, hlog, h'⟩ := h'
      obtain rfl := asks_call_iff.1 hlog
      rw [asks_set_bind_iff] at h'
      obtain ⟨rfl, rfl, rfl⟩ := asks_batch_pure_iff.1 h'
      exact .asked hn

/-- Each way to find the next nonce is one that the program can go. -/
lemma Allocates.asks {a a' : Allocator} {xs : List (Exchange ω)} {r : Except BatchError Int}
    (h : Allocates a xs r a') : Asks (allocate.run.run a) xs (r, a') := by
  have question (x : Except Fault Int) :
      Asks (Chain.pendingNonce a.address) [(.pendingNonce a.address x : Exchange ω)] x :=
      asks_call_iff.2 rfl
  rw [allocate, asks_get_bind_iff]
  cases h with
  | known next =>
    simp only [next]
    exact asks_set_bind_iff.2 (asks_batch_pure_iff.2 ⟨rfl, rfl, rfl⟩)
  | @asked n next =>
    simp only [next]
    refine asks_batch_bind_iff.2
      (.inr ⟨_, [], n, a, rfl, asks_ofCall_iff.2 ⟨_, question _, rfl, rfl⟩, ?_⟩)
    refine asks_told_bind_iff.2 ⟨[], [], (), rfl, asks_call_iff.2 rfl, ?_⟩
    exact asks_set_bind_iff.2 (asks_batch_pure_iff.2 ⟨rfl, rfl, rfl⟩)
  | failed next =>
    simp only [next]
    exact asks_batch_bind_iff.2 (.inl ⟨_, rfl, asks_ofCall_iff.2 ⟨_, question _, rfl, rfl⟩⟩)

lemma prepares_of_asks {gasLimit nonce : Int} {a a' : Allocator} {xs : List (Exchange ω)}
    {r : Except BatchError Fees} (h : Asks ((prepareFees gasLimit nonce).run.run a) xs (r, a')) :
    Prepares gasLimit nonce xs r ∧ a' = a := by
  rw [prepareFees, asks_batch_bind_iff] at h
  rcases h with ⟨e, rfl, h⟩ | ⟨xs₁, xs₂, suggestion, a₁, rfl, h, h'⟩
  · obtain ⟨x, hx, he, rfl⟩ := asks_ofSubmission_iff.1 h
    obtain ⟨e, rfl, rfl⟩ := mapError_eq_error_iff.1 he.symm
    exact ⟨.noSuggestion (suggests_of_asks hx), rfl⟩
  · obtain ⟨x, hx, hv, rfl⟩ := asks_ofSubmission_iff.1 h
    obtain rfl := mapError_eq_ok_iff.1 hv.symm
    have asked := suggests_of_asks hx
    obtain ⟨y, hy, rfl, rfl⟩ := asks_ofSubmission_iff.1 h'
    obtain ⟨rfl, rfl⟩ := asks_orInvalid_iff.1 hy
    rw [List.append_nil]
    generalize hf : Fees.check _ = x
    cases x with
    | error e => exact ⟨.invalid asked hf, rfl⟩
    | ok fees =>
      obtain ⟨valid, rfl⟩ := Fees.check_eq_ok_iff.1 hf
      exact ⟨.fees asked valid rfl rfl, rfl⟩

lemma takes_of_asks {s : Submitter} {intent : Intent ω} {a a' : Allocator} {xs : List (Exchange ω)}
    {r : Except BatchError Receipt} (h : Asks ((submitNext s intent).run.run a) xs (r, a')) :
    Takes s intent a xs r a' := by
  rw [submitNext, asks_batch_bind_iff] at h
  rcases h with ⟨e, rfl, h⟩ | ⟨xs₁, xs₂, n, a₁, rfl, h, h'⟩
  · exact .noNonce (allocates_of_asks h)
  have allocates := allocates_of_asks h
  rw [asks_batch_bind_iff] at h'
  rcases h' with ⟨e, rfl, h⟩ | ⟨xs₂, xs₃, fees, a₂, rfl, h, h'⟩
  · obtain ⟨prepares, rfl⟩ := prepares_of_asks h
    exact .noFees allocates prepares
  obtain ⟨prepares, rfl⟩ := prepares_of_asks h
  obtain ⟨x, hx, rfl, rfl⟩ := asks_ofSubmission_iff.1 h'
  exact .submitted allocates prepares (settled_of_asks .start (by simp) hx)

/-- A submission is not reverted: only a run of transactions looks at the status of a receipt. -/
lemma Takes.ne_reverted {s : Submitter} {intent : Intent ω} {a a' : Allocator}
    {xs : List (Exchange ω)} {e : BatchError} (h : Takes s intent a xs (.error e) a') (i : Nat)
    (description : String) (receipt : Receipt) : e ≠ .reverted i description receipt := by
  generalize hr : Except.error e = r at h
  cases h with
  | noNonce allocates =>
    cases hr
    cases allocates
    simp
  | noFees allocates prepares =>
    cases hr
    cases prepares <;> simp
  | submitted allocates prepares settled =>
    obtain ⟨e', -, rfl⟩ := mapError_eq_error_iff.1 hr.symm
    simp

/-! ### All transactions -/

/-- The events of a run of transactions, by what becomes of the first of them. -/
inductive FirstTurn (s : Submitter) (report : Report ω) (index : Nat) (intent : Intent ω)
    (rest : List (Intent ω)) (a : Allocator) : List (Program.Event (Chain ω)) →
    Except BatchError (List Receipt) → Allocator → Prop where
  | failed {own : List (Program.Event (Chain ω))} {e : BatchError} {a₁ : Allocator}
      (turn : ((submitNext s intent).run.run a).Runs own (.error e, a₁)) :
      FirstTurn s report index intent rest a own (.error e) a₁.reset
  | unwritable {own : List (Program.Event (Chain ω))} {receipt : Receipt} {a₁ : Allocator}
      (turn : ((submitNext s intent).run.run a).Runs own (.ok receipt, a₁))
      (unwritable : Numeral.isWritable receipt.blockNumber = false) :
      FirstTurn s report index intent rest a own (.error (.unwritable receipt.blockNumber)) a₁
  | reverted {own : List (Program.Event (Chain ω))} {receipt : Receipt} {a₁ : Allocator}
      (turn : ((submitNext s intent).run.run a).Runs own (.ok receipt, a₁))
      (writable : Numeral.isWritable receipt.blockNumber = true) (status : receipt.status ≠ 1) :
      FirstTurn s report index intent rest a (own ++ [⟨.say (intent.includedLine receipt), ()⟩])
        (.error (.reverted index intent.description receipt)) a₁
  | notReported {own told : List (Program.Event (Chain ω))} {receipt : Receipt} {f : Fault}
      {a₁ : Allocator} (turn : ((submitNext s intent).run.run a).Runs own (.ok receipt, a₁))
      (writable : Numeral.isWritable receipt.blockNumber = true) (status : receipt.status = 1)
      (reports : (report index receipt).Runs told (.error f)) :
      FirstTurn s report index intent rest a
        (own ++ ⟨.say (intent.includedLine receipt), ()⟩ :: told) (.error (.fault f)) a₁
  | completed {own told later : List (Program.Event (Chain ω))} {receipt : Receipt}
      {a₁ a' : Allocator} {r : Except BatchError (List Receipt)}
      (turn : ((submitNext s intent).run.run a).Runs own (.ok receipt, a₁))
      (writable : Numeral.isWritable receipt.blockNumber = true) (status : receipt.status = 1)
      (reports : (report index receipt).Runs told (.ok ()))
      (others : ((submitFrom s report (index + 1) rest).run.run a₁).Runs later (r, a')) :
      FirstTurn s report index intent rest a
        (own ++ ⟨.say (intent.includedLine receipt), ()⟩ :: (told ++ later))
        (r.map (receipt :: ·)) a'

lemma firstTurn_of_runs {s : Submitter} {report : Report ω} {index : Nat} {intent : Intent ω}
    {rest : List (Intent ω)} {a a' : Allocator} {es : List (Program.Event (Chain ω))}
    {r : Except BatchError (List Receipt)}
    (h : ((submitFrom s report index (intent :: rest)).run.run a).Runs es (r, a')) :
    FirstTurn s report index intent rest a es r a' := by
  rw [run_submitFrom_cons, Program.runs_bind_iff] at h
  obtain ⟨own, es, ⟨e | receipt, a₁⟩, rfl, turn, h⟩ := h
  · obtain ⟨rfl, hr⟩ := Program.Runs.done_iff.1 h
    obtain ⟨rfl, rfl⟩ := Prod.mk.inj hr
    rw [List.append_nil]
    exact .failed turn
  simp only [] at h
  cases writable : Numeral.isWritable receipt.blockNumber with
  | false =>
    rw [writable, if_neg (by simp)] at h
    obtain ⟨rfl, hr⟩ := Program.Runs.done_iff.1 h
    obtain ⟨rfl, rfl⟩ := Prod.mk.inj hr
    rw [List.append_nil]
    exact .unwritable turn writable
  | true =>
    rw [writable, if_pos rfl, Program.runs_bind_iff] at h
    obtain ⟨said, es, u, rfl, hsay, h⟩ := h
    obtain rfl := Program.Runs.call_iff.1 hsay
    rw [List.singleton_append]
    by_cases status : receipt.status = 1
    · rw [if_pos status, Program.runs_bind_iff] at h
      obtain ⟨told, es, f | u, rfl, reports, h⟩ := h
      · obtain ⟨rfl, hr⟩ := Program.Runs.done_iff.1 h
        obtain ⟨rfl, rfl⟩ := Prod.mk.inj hr
        rw [List.append_nil]
        exact .notReported turn writable status reports
      simp only [] at h
      rw [Program.runs_bind_iff] at h
      obtain ⟨later, es, ⟨r, a₂⟩, rfl, others, h⟩ := h
      obtain ⟨rfl, hr⟩ := Program.Runs.done_iff.1 h
      obtain ⟨rfl, rfl⟩ := Prod.mk.inj hr
      rw [List.append_nil]
      exact .completed turn writable status reports others
    · rw [if_neg status] at h
      obtain ⟨rfl, hr⟩ := Program.Runs.done_iff.1 h
      obtain ⟨rfl, rfl⟩ := Prod.mk.inj hr
      exact .reverted turn writable status

/-- The events of a turn at a place: its submission, the line about its receipt and the report of
it, as far as the turn goes. -/
inductive Performs (s : Submitter) (report : Report ω) (place : Nat) :
    Turn ω → List (Program.Event (Chain ω)) → Prop where
  | unsent {intent : Intent ω} {own : List (Program.Event (Chain ω))} {e : BatchError}
      {a a' : Allocator} (turn : ((submitNext s intent).run.run a).Runs own (.error e, a')) :
      Performs s report place ⟨intent, exchanges own, .error e, [], none⟩ own
  | unwritable {intent : Intent ω} {own : List (Program.Event (Chain ω))} {receipt : Receipt}
      {a a' : Allocator} (turn : ((submitNext s intent).run.run a).Runs own (.ok receipt, a'))
      (unwritable : Numeral.isWritable receipt.blockNumber = false) :
      Performs s report place ⟨intent, exchanges own, .ok receipt, [], none⟩ own
  | reverted {intent : Intent ω} {own : List (Program.Event (Chain ω))} {receipt : Receipt}
      {a a' : Allocator} (turn : ((submitNext s intent).run.run a).Runs own (.ok receipt, a'))
      (writable : Numeral.isWritable receipt.blockNumber = true) (status : receipt.status ≠ 1) :
      Performs s report place ⟨intent, exchanges own, .ok receipt, [], none⟩
        (own ++ [⟨.say (intent.includedLine receipt), ()⟩])
  | reported {intent : Intent ω} {own told : List (Program.Event (Chain ω))} {receipt : Receipt}
      {x : Except Fault Unit} {a a' : Allocator}
      (turn : ((submitNext s intent).run.run a).Runs own (.ok receipt, a'))
      (writable : Numeral.isWritable receipt.blockNumber = true) (status : receipt.status = 1)
      (reports : (report place receipt).Runs told x) :
      Performs s report place ⟨intent, exchanges own, .ok receipt, exchanges told, some x⟩
        (own ++ ⟨.say (intent.includedLine receipt), ()⟩ :: told)

/-- The events of turns one after another, of which the first is at a place. -/
inductive Performed (s : Submitter) (report : Report ω) :
    Nat → List (Turn ω) → List (Program.Event (Chain ω)) → Prop where
  | nil {place : Nat} : Performed s report place [] []
  | cons {place : Nat} {t : Turn ω} {ts : List (Turn ω)}
      {own later : List (Program.Event (Chain ω))} (turn : Performs s report place t own)
      (others : Performed s report (place + 1) ts later) :
      Performed s report place (t :: ts) (own ++ later)

section Performed

variable {s : Submitter} {report : Report ω} {place : Nat} {t : Turn ω} {ts : List (Turn ω)}
  {es : List (Program.Event (Chain ω))}

lemma Performs.single (h : Performs s report place t es) : Performed s report place [t] es := by
  have alone := Performed.cons h .nil
  rwa [List.append_nil] at alone

lemma Performs.exchanges_eq (h : Performs s report place t es) : exchanges es = t.exchanges := by
  have said (line : String) (told : List (Program.Event (Chain ω))) :
      exchanges (⟨.say line, ()⟩ :: told) = exchanges told := rfl
  cases h with
  | unsent turn => simp [Turn.exchanges]
  | unwritable turn unwritable => simp [Turn.exchanges]
  | reverted turn writable status => simp [Turn.exchanges, said]
  | reported turn writable status reports => simp [Turn.exchanges, said]

lemma Performed.exchanges_eq (h : Performed s report place ts es) :
    exchanges es = ts.flatMap Turn.exchanges := by
  induction h with
  | nil => rfl
  | cons turn others ih => rw [exchanges_append, turn.exchanges_eq, ih, List.flatMap_cons]

end Performed

/-- From a place on, every run of transactions performs turns. -/
lemma performed_of_runs {s : Submitter} {report : Report ω} {index : Nat}
    {intents : List (Intent ω)} {a a' : Allocator} {es : List (Program.Event (Chain ω))}
    {r : Except BatchError (List Receipt)}
    (run : ((submitFrom s report index intents).run.run a).Runs es (r, a')) :
    ∃ ts, Performed s report index ts es ∧ Batch s report index intents a ts r a' := by
  induction intents generalizing index a es r with
  | nil =>
    obtain ⟨rfl, hr⟩ := Program.Runs.done_iff.1 run
    obtain ⟨rfl, rfl⟩ := Prod.mk.inj hr
    exact ⟨[], .nil, .nil⟩
  | cons intent rest ih =>
    cases firstTurn_of_runs run with
    | @failed _ e a₁ turn =>
      let t : Turn ω := ⟨intent, exchanges es, .error e, [], none⟩
      have asks := asks_of_runs turn
      have stops : t.Stops index e := .failed rfl (takes_of_asks asks).ne_reverted
      have silent : t.Reports report index := .silent (by simp [t]) rfl rfl
      exact ⟨[t], (Performs.unsent turn).single, .stopped (t := t) asks silent stops⟩
    | @unwritable _ receipt a₁ turn unwritable =>
      let t : Turn ω := ⟨intent, exchanges es, .ok receipt, [], none⟩
      have silent : t.Reports report index := by
        refine .silent ?_ rfl rfl
        rintro receipt' outcome -
        cases outcome
        exact unwritable
      exact ⟨[t], (Performs.unwritable turn unwritable).single,
        .stopped (t := t) (asks_of_runs turn) silent (.unwritable rfl unwritable rfl)⟩
    | @reverted own receipt a₁ turn writable status =>
      let t : Turn ω := ⟨intent, exchanges own, .ok receipt, [], none⟩
      have silent : t.Reports report index := by
        refine .silent ?_ rfl rfl
        rintro receipt' outcome succeeded
        cases outcome
        exact absurd succeeded status
      exact ⟨[t], (Performs.reverted turn writable status).single,
        .stopped (t := t) (asks_of_runs turn) silent (.reverted rfl writable status)⟩
    | @notReported own told receipt f a₁ turn writable status reports =>
      let t : Turn ω := ⟨intent, exchanges own, .ok receipt, exchanges told, some (.error f)⟩
      have made : t.Reports report index := .made rfl writable status rfl (asks_of_runs reports)
      exact ⟨[t], (Performs.reported turn writable status reports).single,
        .stopped (t := t) (asks_of_runs turn) made (.notReported rfl writable status rfl)⟩
    | @completed own told later receipt a₁ a' r turn writable status reports others =>
      let t : Turn ω := ⟨intent, exchanges own, .ok receipt, exchanges told, some (.ok ())⟩
      have made : t.Reports report index := .made rfl writable status rfl (asks_of_runs reports)
      have completed : t.Completed := ⟨receipt, rfl, status, rfl⟩
      obtain ⟨ts, performed, batch⟩ := ih others
      have events : own ++ ⟨.say (intent.includedLine receipt), ()⟩ :: (told ++ later) =
          (own ++ ⟨.say (intent.includedLine receipt), ()⟩ :: told) ++ later := by simp
      rw [events]
      exact ⟨t :: ts, .cons (.reported turn writable status reports) performed,
        .completed (t := t) (asks_of_runs turn) made completed rfl batch⟩

theorem batch_of_asks {s : Submitter} {report : Report ω} {index : Nat} {intents : List (Intent ω)}
    {a a' : Allocator} {xs : List (Exchange ω)} {r : Except BatchError (List Receipt)}
    (h : Asks ((submitFrom s report index intents).run.run a) xs (r, a')) :
    ∃ ts, xs = ts.flatMap Turn.exchanges ∧ Batch s report index intents a ts r a' := by
  obtain ⟨es, run, rfl⟩ := h
  obtain ⟨ts, performed, batch⟩ := performed_of_runs run
  exact ⟨ts, performed.exchanges_eq, batch⟩

/-- Every run of transactions is a run of turns. -/
theorem batch_of_runs {s : Submitter} {report : Report ω} {intents : List (Intent ω)}
    {a a' : Allocator} {es : List (Program.Event (Chain ω))} {r : Except BatchError (List Receipt)}
    (h : ((submitAll s report intents).run.run a).Runs es (r, a')) :
    ∃ ts, exchanges es = ts.flatMap Turn.exchanges ∧ Batch s report 1 intents a ts r a' :=
  batch_of_asks (asks_of_runs h)

end StakeRegistry.Tx
