/-
How the batches of a migration are sent, and what is told about them.

The batches of a plan are sent one after another, each with the payload that is made of its keys for
its originator. `Migrates` says what every run of a migration amounts to:

* `SendsBatch`: what is submitted for one batch, and which receipt is obtained for it;
* `MigrationEnds`: with which receipts the batches ended, and the lines and the result that follow.

The run is one of turns (`performed_of_runs`), whose lines are those of the batches at their places
(`linesFrom_eq_completedLines`); a failure passes a handler that tells about the batch at the place
of the failure (`of_runs_migrateBatches`). The main statement is `migration_sent_as_planned`.
-/
import StakeRegistry.Proofs.Tx.Lines
import StakeRegistry.Proofs.Tx.Obtained
import StakeRegistry.Registry.Migrate

namespace StakeRegistry.Registry

open Program Tx

variable {ω : Type}

/-! ### What is told -/

/-- The line about a batch whose transaction was included. -/
def includedLine (place : Nat) (b : PlannedBatch) (receipt : Receipt) : String :=
  "DelegateStake batch " ++ toString place ++ " for " ++ b.originator ++ " included in block: " ++
    toString receipt.blockNumber

/-- The lines that report a batch whose transaction succeeded, by its place in the plan. -/
def reportedLines (total place : Nat) : List String :=
  [rule, "Batch " ++ toString place ++ "/" ++ toString total ++ " completed", rule]

/-- The lines about the first batches of a plan, one for each receipt. -/
def completedLines (plan : List PlannedBatch) (receipts : List Receipt) : List String :=
  ((plan.zip receipts).mapIdx fun i (b, receipt) =>
    includedLine (i + 1) b receipt :: reportedLines plan.length (i + 1)).flatten

/-- The details of a batch whose transaction failed: its originator, the number of its keys, and the
keys. -/
def detailLines (b : PlannedBatch) : List String :=
  ("Stake originator: " ++ b.originator) ::
    ("Number of validators in this batch: " ++ toString b.pubkeys.length) ::
      b.pubkeys.map fun k => "Validator pubkey: " ++ k.toHex

/-! ### What a run amounts to -/

/-- One batch is sent with its payload and its value, and ends with an outcome. -/
structure SendsBatch (payload : ω) (value : Int) (xs : List (Exchange ω))
    (outcome : Except BatchError Receipt) : Prop where
  submits : ∀ {payload' params answer}, .submit payload' params answer ∈ xs →
    payload' = payload ∧ params.value = value
  /-- The receipt is the only one that the batch obtains, by a wait or by a lookup, for a hash under
  which it was broadcast. -/
  obtains : ∀ {receipt}, outcome = .ok receipt →
    ∃ hash params, obtained xs = [(hash, receipt)] ∧ .submit payload params (.ok hash) ∈ xs
  obtains_none : ∀ {e}, outcome = .error e → obtained xs = []

/-- How the batches of a plan end that had their turn, what is told about them and what the
migration ends with. -/
inductive MigrationEnds (plan : List PlannedBatch) :
    List (Except BatchError Receipt) → List String → Except BatchError (List Receipt) → Prop where
  /-- All of them succeeded. -/
  | completed {receipts : List Receipt} (length_eq : receipts.length = plan.length)
      (succeeded : ∀ receipt ∈ receipts, receipt.status = 1) :
      MigrationEnds plan (receipts.map .ok) (completedLines plan receipts) (.ok receipts)
  /-- The transaction of a batch was included and failed, after those before it succeeded. -/
  | reverted {receipts : List Receipt} {b : PlannedBatch} {receipt : Receipt}
      (succeeded : ∀ receipt ∈ receipts, receipt.status = 1)
      (batch : plan[receipts.length]? = some b) (failed : receipt.status ≠ 1) :
      MigrationEnds plan (receipts.map .ok ++ [.ok receipt])
        (completedLines plan receipts ++
          includedLine (receipts.length + 1) b receipt :: detailLines b)
        (.error (.reverted (receipts.length + 1)
          ("DelegateStake batch " ++ toString (receipts.length + 1) ++ " for " ++ b.originator)
            receipt))
  /-- The transaction of a batch was included in a block that cannot be told. -/
  | unwritable {receipts : List Receipt} {receipt : Receipt}
      (succeeded : ∀ receipt ∈ receipts, receipt.status = 1) (left : receipts.length < plan.length)
      (unwritable : Numeral.isWritable receipt.blockNumber = false) :
      MigrationEnds plan (receipts.map .ok ++ [.ok receipt]) (completedLines plan receipts)
        (.error (.unwritable receipt.blockNumber))
  /-- A batch could not be sent. -/
  | unsent {receipts : List Receipt} {e : BatchError}
      (succeeded : ∀ receipt ∈ receipts, receipt.status = 1) (left : receipts.length < plan.length)
      (notReverted : ∀ place description receipt, e ≠ .reverted place description receipt) :
      MigrationEnds plan (receipts.map .ok ++ [.error e]) (completedLines plan receipts) (.error e)

/-- A migration by the batches that had their turn, each with its exchanges and its outcome. -/
structure Migrates (factory : List Bytes → String → ω) (plan : List PlannedBatch)
    (valuePerValidator : Int) (xs : List (Exchange ω)) (lines : List String)
    (r : Except BatchError (List Receipt))
    (turns : List (List (Exchange ω) × Except BatchError Receipt)) : Prop where
  /-- There are no exchanges but those of the turns. -/
  exchanges_eq : xs = turns.flatMap Prod.fst
  /-- The turns are those of the first batches: each sends its own keys for its own originator. -/
  sends : ∀ {i : Nat} {own outcome}, turns[i]? = some (own, outcome) → ∃ b :
    PlannedBatch, plan[i]? = some b ∧
    SendsBatch (factory b.pubkeys b.originator) (valuePerValidator * b.pubkeys.length) own outcome
  ends : MigrationEnds plan (turns.map Prod.snd) lines r

/-- A plan with the payload of each batch, which is made of its keys for its originator. -/
def withPayloads (factory : List Bytes → String → ω) (plan : List PlannedBatch) :
    List (PlannedBatch × ω) :=
  plan.map fun b => (b, factory b.pubkeys b.originator)

/-! ### The lines of a run -/

section Lines

variable {es : List (Program.Event (Chain ω))}

lemma runs_say {line : String} {u : Unit}
    (h : (Chain.say line : Program (Chain ω) Unit).Runs es u) :
    es = [⟨.say line, ()⟩] :=
  Runs.call_iff.1 h

lemma runs_sayCompleted {what : String} {x : Except Fault Unit}
    (h : (sayCompleted what : Program (Chain ω) _).Runs es x) :
    es = [⟨.say rule, ()⟩, ⟨.say (what ++ " completed"), ()⟩, ⟨.say rule, ()⟩] ∧ x = .ok () := by
  obtain ⟨es₁, rest₁, _, rfl, said₁, h₁⟩ := runs_bind_iff.1 h
  obtain ⟨es₂, rest₂, _, rfl, said₂, h₂⟩ := runs_bind_iff.1 h₁
  obtain ⟨es₃, rest₃, _, rfl, said₃, h₃⟩ := runs_bind_iff.1 h₂
  obtain ⟨rfl, rfl⟩ := Runs.done_iff.1 h₃
  rw [runs_say said₁, runs_say said₂, runs_say said₃]
  exact ⟨rfl, rfl⟩

/-- The keys of a batch are told one after another. -/
lemma of_runs_sayKeys {keys : List Bytes} {u : PUnit}
    (h : (keys.forM fun k => Chain.say ("Validator pubkey: " ++ k.toHex) :
      Program (Chain ω) PUnit).Runs es u) :
    exchanges es = [] ∧ linesIn es = keys.map fun k => "Validator pubkey: " ++ k.toHex := by
  induction keys generalizing es with
  | nil =>
    obtain ⟨rfl, -⟩ := Runs.done_iff.1 h
    exact ⟨rfl, rfl⟩
  | cons k keys ih =>
    obtain ⟨said, rest, _, rfl, hsaid, hrest⟩ := runs_bind_iff.1 h
    obtain ⟨none, lines⟩ := ih hrest
    rw [runs_say hsaid]
    exact ⟨none, congrArg (_ :: ·) lines⟩

/-- The details of a batch that failed are lines and nothing else. -/
lemma of_runs_sayReverted {b : PlannedBatch} {u : Unit}
    (h : (sayReverted b : Program (Chain ω) Unit).Runs es u) :
    exchanges es = [] ∧ linesIn es = detailLines b := by
  obtain ⟨said₁, rest₁, _, rfl, h₁, h⟩ := runs_bind_iff.1 h
  obtain ⟨said₂, rest₂, _, rfl, h₂, h⟩ := runs_bind_iff.1 h
  obtain ⟨none, lines⟩ := of_runs_sayKeys h
  rw [runs_say h₁, runs_say h₂]
  exact ⟨none, congrArg (_ :: _ :: ·) lines⟩

end Lines

/-! ### The handler of a failure -/

section Handler

variable {r : Sending} {plan : List (PlannedBatch × ω)} {valuePerValidator : Int} {a a' : Allocator}
  {es : List (Program.Event (Chain ω))} {x : Except BatchError (List Receipt)}

/-- What is done after each batch of a plan that succeeded. -/
def planReport (ω : Type) (total : Nat) : Report ω :=
  fun place _ => sayCompleted ("Batch " ++ toString place ++ "/" ++ toString total)

/-- The transactions of a plan. -/
def planIntents (r : Sending) (plan : List (PlannedBatch × ω)) (valuePerValidator : Int) :
    List (Intent ω) :=
  plan.mapIdx fun i (batch, payload) => delegateIntent r payload valuePerValidator (i + 1) batch

/-- What the handler tells about a result: the details of the batch at the place of a failure. -/
def handlerLines (plan : List (PlannedBatch × ω)) : Except BatchError (List Receipt) → List String
  | .error (.reverted place _ _) => ((plan[place - 1]?).map fun p => detailLines p.1).getD []
  | _ => []

/-- The handler tells about the batch at the place of a failure and lets the failure through. -/
lemma of_runs_migrateBatches
    (h : ((migrateBatches r plan valuePerValidator).run.run a).Runs es (x, a')) :
    ∃ own told, es = own ++ told ∧ exchanges told = [] ∧ linesIn told = handlerLines plan x ∧
      ((submitAll r.submitter (planReport ω plan.length)
        (planIntents r plan valuePerValidator)).run.run a).Runs own (x, a') := by
  rw [migrateBatches, run_batch_tryCatch, runs_bind_iff] at h
  obtain ⟨own, told, ⟨e | receipts, a₁⟩, rfl, sent, h⟩ := h
  · suffices handled : exchanges told = [] ∧ linesIn told = handlerLines plan (.error e) ∧
        x = .error e ∧ a' = a₁ by
      obtain ⟨silent, lines, rfl, rfl⟩ := handled
      exact ⟨own, told, rfl, silent, lines, sent⟩
    -- only a batch at a place has details
    have thrown : ∀ {es x}, ((throw e : BatchRun ω (List Receipt)).run.run a₁).Runs es (x, a') →
        es = [] ∧ x = .error e ∧ a' = a₁ := by
      intro es x h
      obtain ⟨rfl, hx⟩ := Runs.done_iff.1 h
      exact ⟨rfl, Prod.mk.inj hx⟩
    cases e with
    | fault f =>
      obtain ⟨rfl, rfl, rfl⟩ := thrown h
      exact ⟨rfl, rfl, rfl, rfl⟩
    | tx e =>
      obtain ⟨rfl, rfl, rfl⟩ := thrown h
      exact ⟨rfl, rfl, rfl, rfl⟩
    | unwritable block =>
      obtain ⟨rfl, rfl, rfl⟩ := thrown h
      exact ⟨rfl, rfl, rfl, rfl⟩
    | reverted place description receipt =>
      simp only at h
      cases hp : plan[place - 1]? with
      | none =>
        rw [hp] at h
        obtain ⟨rfl, rfl, rfl⟩ := thrown h
        exact ⟨rfl, by simp [handlerLines, hp], rfl, rfl⟩
      | some entry =>
        rw [hp, run_told_bind, runs_bind_iff] at h
        obtain ⟨said, rest, _, rfl, told, h⟩ := h
        obtain ⟨rfl, rfl, rfl⟩ := thrown h
        obtain ⟨silent, lines⟩ := of_runs_sayReverted told
        rw [List.append_nil]
        exact ⟨silent, by simp [handlerLines, hp, lines], rfl, rfl⟩
  · obtain ⟨rfl, hx⟩ := Runs.done_iff.1 h
    obtain ⟨rfl, rfl⟩ := Prod.mk.inj hx
    exact ⟨own, [], rfl, rfl, rfl, sent⟩

end Handler

/-! ### The turns of a run -/

section Turns

variable {r : Sending} {factory : List Bytes → String → ω} {plan : List PlannedBatch}
  {valuePerValidator : Int} {a a' : Allocator} {x : Except BatchError (List Receipt)}
  {ts : List (Turn ω)} {t : Turn ω} {b : PlannedBatch} {i : Nat}

/-- The transaction of the batch at an index. -/
def plannedIntent (r : Sending) (factory : List Bytes → String → ω)
    (valuePerValidator : Int) (i : Nat) (b : PlannedBatch) : Intent ω :=
  delegateIntent r (factory b.pubkeys b.originator) valuePerValidator (i + 1) b

lemma planIntents_withPayloads : planIntents r (withPayloads factory plan) valuePerValidator =
    plan.mapIdx (plannedIntent r factory valuePerValidator) := by
  refine List.ext_getElem? fun i => ?_
  rw [planIntents, withPayloads, List.getElem?_mapIdx, List.getElem?_map, List.getElem?_mapIdx,
    Option.map_map]
  rfl

/-- A turn is that of the batch at its index. -/
lemma exists_planned {s : Submitter} {report : Report ω}
    (batch : Batch s report 1 (plan.mapIdx (plannedIntent r factory valuePerValidator)) a ts x a')
    (ht : ts[i]? = some t) :
    ∃ b, plan[i]? = some b ∧ t.intent = plannedIntent r factory valuePerValidator i b := by
  have hi : i < ts.length := (List.getElem?_eq_some_iff.1 ht).1
  have entry := congrArg (·[i]?) batch.intents_eq
  simp only [List.getElem?_map, ht, List.getElem?_take_of_lt hi, List.getElem?_mapIdx,
    Option.map_some] at entry
  obtain ⟨b, hb, hintent⟩ := Option.map_eq_some_iff.1 entry.symm
  exact ⟨b, hb, hintent.symm⟩

/-- A turn sends its batch. -/
lemma sendsBatch_of_turn {s : Submitter} {a₀ a₁ : Allocator} {first : Int}
    (asks : Asks ((submitNext s t.intent).run.run a₀) t.own (t.outcome, a₁))
    (submits : SubmitsAt t.intent first t.own) :
    SendsBatch t.intent.payload t.intent.value t.own t.outcome := by
  have carries : ∀ {payload params answer}, .submit payload params answer ∈ t.own →
      payload = t.intent.payload ∧ params.value = t.intent.value := by
    intro payload params answer hx
    obtain ⟨hpayload, -, hvalue, -, -⟩ := submits _ _ _ hx
    exact ⟨hpayload, hvalue⟩
  constructor
  case submits => exact carries
  case obtains =>
    intro receipt outcome
    rcases (takes_of_asks asks).obtained_cases with
      ⟨⟨e, he⟩, -⟩ | ⟨receipt', hash, payload, params, hr, one, sent⟩
    · rw [outcome] at he
      cases he
    · obtain rfl : receipt = receipt' := Except.ok.inj (outcome.symm.trans hr)
      obtain ⟨rfl, -⟩ := carries sent
      exact ⟨hash, params, one, sent⟩
  case obtains_none =>
    intro e outcome
    rcases (takes_of_asks asks).obtained_cases with
      ⟨-, none⟩ | ⟨receipt, hash, payload, params, hr, -, -⟩
    · exact none
    · rw [outcome] at hr
      cases hr

/-- A batch is reported without a question and without a failure. -/
lemma own_of_reports {total place : Nat} (h : t.Reports (planReport ω total) place) :
    t.exchanges = t.own ∧ ∀ f, t.reported ≠ some (.error f) := by
  cases h with
  | silent outcome reported told => simp [Turn.exchanges, told, reported]
  | made outcome writable status reported told =>
    obtain ⟨es, run, hes⟩ := told
    obtain ⟨rfl, rfl⟩ := runs_sayCompleted run
    have none : t.told = [] := hes.symm
    simp [Turn.exchanges, none, reported]

/-- Turns that were completed have receipts that succeeded. -/
lemma exists_receipts (h : ∀ t ∈ ts, t.Completed) :
    ∃ receipts : List Receipt, ts.map Turn.outcome = receipts.map .ok ∧
      ∀ receipt ∈ receipts, receipt.status = 1 := by
  induction ts with
  | nil => exact ⟨[], rfl, by simp⟩
  | cons t ts ih =>
    obtain ⟨receipt, outcome, status, -⟩ := h t List.mem_cons_self
    obtain ⟨receipts, outcomes, all⟩ := ih fun u hu => h u (List.mem_cons_of_mem t hu)
    exact ⟨receipt :: receipts, by simp [outcome, outcomes], List.forall_mem_cons.2 ⟨status, all⟩⟩

/-- What the reports of a plan tell. -/
lemma linesIn_planReport {total place : Nat} {receipt : Receipt}
    {es : List (Program.Event (Chain ω))} {y : Except Fault Unit}
    (h : (planReport ω total place receipt).Runs es y) :
    linesIn es = reportedLines total place := by
  obtain ⟨rfl, -⟩ := runs_sayCompleted h
  rfl

lemma lines_of_completed {total : Nat} {receipt : Receipt}
    (hintent : t.intent = plannedIntent r factory valuePerValidator i b)
    (outcome : t.outcome = .ok receipt) (writable : Numeral.isWritable receipt.blockNumber = true)
    (status : receipt.status = 1) :
    t.lines (fun _ => reportedLines total (i + 1)) =
      includedLine (i + 1) b receipt :: reportedLines total (i + 1) := by
  rw [Turn.lines, outcome, hintent]
  simp only [writable, status, if_true]
  rfl

lemma lines_of_reverted {reportLines : Receipt → List String} {receipt : Receipt}
    (hintent : t.intent = plannedIntent r factory valuePerValidator i b)
    (outcome : t.outcome = .ok receipt) (writable : Numeral.isWritable receipt.blockNumber = true)
    (status : receipt.status ≠ 1) :
    t.lines reportLines = [includedLine (i + 1) b receipt] := by
  rw [Turn.lines, outcome, hintent]
  simp only [writable, status, if_true, if_false]
  rfl

/-- Turns that succeeded tell what is told about the first batches of the plan. -/
lemma linesFrom_eq_completedLines {receipts : List Receipt}
    (intents : ∀ {i t}, ts[i]? = some t →
      ∃ b, plan[i]? = some b ∧ t.intent = plannedIntent r factory valuePerValidator i b)
    (tellable : ∀ t ∈ ts, t.Tellable) (outcomes : ts.map Turn.outcome = receipts.map .ok)
    (succeeded : ∀ receipt ∈ receipts, receipt.status = 1) :
    linesFrom (fun place _ => reportedLines plan.length place) 1 ts =
      completedLines plan receipts := by
  refine congrArg List.flatten (List.ext_getElem? fun i => ?_)
  rw [List.getElem?_mapIdx, List.getElem?_mapIdx]
  have entry : ts[i]?.map Turn.outcome = receipts[i]?.map .ok := by
    simpa using congrArg (·[i]?) outcomes
  cases ht : ts[i]? with
  | none =>
    rw [ht] at entry
    have short : receipts.length ≤ i :=
      List.getElem?_eq_none_iff.1 (Option.map_eq_none_iff.1 entry.symm)
    have unpaired : (plan.zip receipts)[i]? = none := by
      rw [List.getElem?_eq_none_iff, List.length_zip]
      omega
    rw [unpaired]
    rfl
  | some t =>
    obtain ⟨b, hb, hintent⟩ := intents ht
    rw [ht] at entry
    obtain ⟨receipt, hreceipt, outcome⟩ := Option.map_eq_some_iff.1 entry.symm
    have paired : (plan.zip receipts)[i]? = some (b, receipt) :=
      List.getElem?_zip_eq_some.2 ⟨hb, hreceipt⟩
    have status := succeeded receipt (List.mem_of_getElem? hreceipt)
    have writable := tellable t (List.mem_of_getElem? ht) receipt outcome.symm
    rw [paired, Option.map_some, Option.map_some, Nat.add_comm 1 i,
      lines_of_completed hintent outcome.symm writable status]

lemma linesFrom_append_singleton {reportLines : Nat → Receipt → List String} {place : Nat} :
    linesFrom reportLines place (ts ++ [t]) =
      linesFrom reportLines place ts ++ t.lines (reportLines (place + ts.length)) := by
  simp [linesFrom, List.mapIdx_concat]

/-- The turns before the last one were completed. -/
lemma completed_of_earlier {s : Submitter} {report : Report ω} {index : Nat}
    {intents : List (Intent ω)} {earlier : List (Turn ω)}
    (batch : Batch s report index intents a (earlier ++ [t]) x a') :
    ∀ u ∈ earlier, u.Completed := by
  intro u hu
  obtain ⟨i, hi, rfl⟩ := List.mem_iff_getElem.1 hu
  refine batch.completed_of_lt i _ ?_ (by simp [hi])
  rw [List.getElem?_append_left hi, List.getElem?_eq_getElem hi]

lemma handlerLines_reverted {description : String} {receipt : Receipt} (hb : plan[i]? = some b) :
    handlerLines (withPayloads factory plan) (.error (.reverted (i + 1) description receipt)) =
      detailLines b := by
  have entry : (withPayloads factory plan)[i]? = some (b, factory b.pubkeys b.originator) := by
    rw [withPayloads, List.getElem?_map, hb]
    rfl
  rw [handlerLines, Nat.add_sub_cancel, entry]
  rfl

/-- However the turns of a plan end, the lines of the turns and of the handler are those that belong
to the end. -/
lemma migrationEnds_of_batch
    (batch : Batch r.submitter (planReport ω plan.length) 1
      (plan.mapIdx (plannedIntent r factory valuePerValidator)) a ts x a') :
    MigrationEnds plan (ts.map Turn.outcome)
      (linesFrom (fun place _ => reportedLines plan.length place) 1 ts ++
        handlerLines (withPayloads factory plan) x) x := by
  cases x with
  | ok receipts =>
    obtain ⟨outcomes, length, succeeded⟩ := batch.receipts_of_ok rfl
    have tellable : ∀ t ∈ ts, t.Tellable := fun t ht =>
      batch.tellable ht ((batch.of_ok rfl).2.2 t ht)
    have told := linesFrom_eq_completedLines (exists_planned batch) tellable outcomes succeeded
    have silent : handlerLines (withPayloads factory plan) (.ok receipts) = [] := rfl
    rw [told, outcomes, silent, List.append_nil]
    exact .completed (by simpa using length) succeeded
  | error e =>
    obtain ⟨earlier, t, rfl, stops⟩ := batch.of_error rfl
    obtain ⟨receipts, outcomes, succeeded⟩ := exists_receipts (completed_of_earlier batch)
    have count : earlier.length = receipts.length := by simpa using congrArg List.length outcomes
    have last : (earlier ++ [t])[receipts.length]? = some t := by simp [← count]
    obtain ⟨b, hb, hintent⟩ := exists_planned batch last
    have tellable : ∀ u ∈ earlier, u.Tellable := fun u hu =>
      batch.tellable (List.mem_append_left [t] hu) (completed_of_earlier batch u hu)
    have told : linesFrom (fun place _ => reportedLines plan.length place) 1 earlier =
        completedLines plan receipts := by
      refine linesFrom_eq_completedLines (fun {i u} hu => exists_planned batch ?_) tellable outcomes
        succeeded
      rw [List.getElem?_append_left (List.getElem?_eq_some_iff.1 hu).1]
      exact hu
    rw [linesFrom_append_singleton, told, List.map_append, outcomes]
    rw [count, Nat.add_comm] at stops
    cases stops with
    | failed outcome notReverted =>
      have silent : handlerLines (withPayloads factory plan) (.error e) = [] := by
        cases e with
        | reverted place description receipt =>
          exact absurd rfl (notReverted place description receipt)
        | fault f => rfl
        | tx e => rfl
        | unwritable block => rfl
      rw [silent, Turn.lines, List.map_singleton, outcome, List.append_nil, List.append_nil]
      exact .unsent succeeded (List.getElem?_eq_some_iff.1 hb).1 notReverted
    | @unwritable receipt outcome unwritable reported =>
      have silent : t.lines (fun _ => reportedLines plan.length (1 + earlier.length)) = [] := by
        simp [Turn.lines, outcome, unwritable]
      rw [silent, List.map_singleton, outcome, List.append_nil]
      simp only [handlerLines, List.append_nil]
      exact .unwritable succeeded (List.getElem?_eq_some_iff.1 hb).1 unwritable
    | @reverted receipt outcome writable status =>
      rw [lines_of_reverted hintent outcome writable status, handlerLines_reverted hb,
        List.map_singleton, outcome, List.append_assoc, hintent]
      exact .reverted succeeded hb status
    | notReported outcome writable status reported =>
      exact absurd reported ((own_of_reports (batch.reports _ _ last)).2 _)

end Turns

/-- Every run of a migration sends the batches of its plan as they are planned, and tells of each
what became of it: of a batch whose transaction failed, and of no other, the details. -/
theorem migration_sent_as_planned {r : Sending} {factory : List Bytes → String → ω}
    {plan : List PlannedBatch} {valuePerValidator : Int} {a a' : Allocator}
    {es : List (Program.Event (Chain ω))} {x : Except BatchError (List Receipt)}
    (run : ((migrateBatches r (withPayloads factory plan) valuePerValidator).run.run a).Runs es
      (x, a')) :
    ∃ turns, Migrates factory plan valuePerValidator (exchanges es) (linesIn es) x turns := by
  obtain ⟨own, told, rfl, silent, handled, sent⟩ := of_runs_migrateBatches run
  have total : (withPayloads factory plan).length = plan.length := by simp [withPayloads]
  rw [planIntents_withPayloads, total] at sent
  obtain ⟨ts, performed, batch⟩ := performed_of_runs sent
  obtain ⟨first, submits, -, -⟩ := batch.exists_first
  have quiet : ts.map Turn.exchanges = ts.map Turn.own := by
    refine List.map_congr_left fun t ht => ?_
    obtain ⟨i, hi⟩ := List.mem_iff_getElem?.1 ht
    exact (own_of_reports (batch.reports i t hi)).1
  refine ⟨ts.map fun t => (t.own, t.outcome), ?_⟩
  constructor
  case exchanges_eq =>
    rw [exchanges_append, silent, List.append_nil, performed.exchanges_eq, List.flatMap_map,
      List.flatMap_def, List.flatMap_def, quiet]
  case sends =>
    intro i own outcome hi
    rw [List.getElem?_map] at hi
    obtain ⟨t, ht, hown⟩ := Option.map_eq_some_iff.1 hi
    obtain ⟨rfl, rfl⟩ := Prod.mk.inj hown
    obtain ⟨b, hb, hintent⟩ := exists_planned batch ht
    obtain ⟨a₀, a₁, asks⟩ := batch.own t (List.mem_of_getElem? ht)
    have sends := sendsBatch_of_turn asks (submits i t ht)
    rw [hintent] at sends
    exact ⟨b, hb, sends⟩
  case ends =>
    rw [linesIn_append, performed.lines_eq linesIn_planReport, handled, List.map_map]
    exact migrationEnds_of_batch batch

/-- The second of three batches fails: its first attempt is not included in time, the nonce of the
second one is used, and the receipt of the first one is found. -/
theorem migration_sent_as_planned_of_late_receipt :
    let r : Sending := { submitter := { maxAttempts := 2 }, sender := "0xa", gasLimit := 21000 }
    let factory (keys : List Bytes) (originator : String) := (keys, originator)
    let plan : List PlannedBatch :=
    [⟨"0xA", [[1], [2]]⟩, ⟨"0xB", [[3], [4], [171]]⟩, ⟨"0xB", [[6]]⟩]
    let receipt (hash : String) (status : Int) : Receipt :=
      { hash, blockNumber := 5, status, gasUsed := 0 }
    let script : List (Exchange (List Bytes × String)) := [
      .pendingNonce "0xa" (.ok 7), .priorityFee (.ok (.int 1)), .feeCap (.ok (.int 10)),
      .submit ([[1], [2]], "0xA") ⟨"0xa", 200, 21000, 7, 10, 1⟩ (.ok "0x1"),
      .wait "0x1" (.whole 60) (.ok (receipt "0x1" 1)),
      .priorityFee (.ok (.int 1)), .feeCap (.ok (.int 10)),
      .submit ([[3], [4], [171]], "0xB") ⟨"0xa", 300, 21000, 8, 10, 1⟩ (.ok "0x2"),
      .wait "0x2" (.whole 60) (.error (.notIncluded "0x2" "60")),
      .priorityFee (.ok (.int 1)), .feeCap (.ok (.int 10)),
      .submit ([[3], [4], [171]], "0xB") ⟨"0xa", 300, 21000, 8, 12, 2⟩
        (.error (.reported .value "nonce too low")),
      .receipt "0x2" (.ok (some (receipt "0x2" 0)))]
    let program := (migrateBatches r (withPayloads factory plan) 100).run.run { address := "0xa" }
    let es := program.trace Chain.scripted script
    linesIn es = [
        "DelegateStake batch 1 for 0xA included in block: 5", rule, "Batch 1/3 completed", rule,
        "DelegateStake batch 2 for 0xB included in block: 5",
        "Stake originator: 0xB", "Number of validators in this batch: 3",
        "Validator pubkey: 03", "Validator pubkey: 04", "Validator pubkey: ab"] ∧
      (program.run Chain.scripted script).1.1 =
        .error (.reverted 2 "DelegateStake batch 2 for 0xB" (receipt "0x2" 0)) ∧
      ∃ turns, Migrates factory plan 100 (exchanges es) (linesIn es)
        (program.run Chain.scripted script).1.1 turns :=
  ⟨by decide +kernel, by decide +kernel, migration_sent_as_planned (runs_trace _ _ _)⟩

end StakeRegistry.Registry
