/-
The use of one allocator over a whole session.

A session is a list of steps on one allocator: a nonce is allocated, the count is forgotten, or
transactions are sent, directly or as batches that are staked, acted on or migrated. A step that
fails does not end the session.

* `Stage.Serves a t a'`: how one step leads the allocator from `a` to `a'`, with its exchanges, its
  outcome and what it did to the count;
* `Stages a ts a'`: the same for the steps of a session, one after another;
* `Kept`: what holds of the stages of a session.

The main statement is `session_kept`. Each step keeps the count from where the step before left it
(`Stage.Serves.keeps`), and so do all of them (`Stages.keeps`).
-/
import StakeRegistry.Proofs.Registry.Migrating
import StakeRegistry.Proofs.Tx.Exits
import StakeRegistry.Registry.Unstake

namespace StakeRegistry.Registry.Session

open Tx

variable {ω : Type}

/-! ### Steps -/

/-- A way to send several transactions. -/
inductive Sends (ω : Type) where
  | submit (s : Submitter) (report : Report ω) (intents : List (Intent ω))
  | stake (r : Sending) (payload : List Bytes → ω) (batches : List (List Bytes))
      (stakePerValidator : Int)
  | act (r : Sending) (payload : List Bytes → ω) (batches : List (List Bytes)) (action : String)
  | migrate (r : Sending) (plan : List (PlannedBatch × ω)) (valuePerValidator : Int)

namespace Sends

/-- Send the transactions. -/
def run : Sends ω → BatchRun ω (List Receipt)
  | submit s report intents => submitAll s report intents
  | stake r payload batches stakePerValidator => stakeBatches r payload batches stakePerValidator
  | act r payload batches action => sendBatches r payload batches action
  | migrate r plan valuePerValidator => migrateBatches r plan valuePerValidator

/-- How the transactions are submitted. -/
def submitter : Sends ω → Submitter
  | submit s _ _ => s
  | stake r _ _ _ => r.submitter
  | act r _ _ _ => r.submitter
  | migrate r _ _ => r.submitter

/-- What is done after each transaction that succeeded. -/
def report : Sends ω → Report ω
  | submit _ report _ => report
  | stake _ _ _ _ => fun place _ => sayCompleted ("Batch " ++ toString place)
  | act _ _ batches _ => fun place _ => sayBatch batches place
  | migrate _ plan _ => fun place _ =>
      sayCompleted ("Batch " ++ toString place ++ "/" ++ toString plan.length)

/-- The transactions. -/
def intents : Sends ω → List (Intent ω)
  | submit _ _ intents => intents
  | stake r payload batches stakePerValidator =>
      batches.mapIdx fun i batch => stakeIntent r payload stakePerValidator (i + 1) batch
  | act r payload batches action =>
      batches.mapIdx fun i batch => actionIntent r payload action (i + 1) batch
  | migrate r plan valuePerValidator =>
      plan.mapIdx fun i (batch, payload) => delegateIntent r payload valuePerValidator (i + 1) batch

end Sends

/-- A step of a session. -/
inductive Step (ω : Type) where
  | allocate
  | reset
  | send (b : Sends ω)

/-- What a step ends with. -/
inductive Outcome where
  | nonce (r : Except BatchError Int)
  | forgotten
  | receipts (r : Except BatchError (List Receipt))
  deriving DecidableEq

/-- Take a step. -/
def Step.run : Step ω → StateT Allocator (Program (Chain ω)) Outcome
  | allocate => do
    let r ← Tx.allocate.run
    return .nonce r
  | reset => do
    modify Allocator.reset
    return .forgotten
  | send b => do
    let r ← b.run.run
    return .receipts r

/-- Take steps one after another, whether or not one of them fails. -/
def runAll : List (Step ω) → StateT Allocator (Program (Chain ω)) (List Outcome)
  | [] => return []
  | step :: rest => do
    let outcome ← step.run
    let later ← runAll rest
    return outcome :: later

/-! ### Sending -/

/-- However transactions are sent, it is a run of them one after another. -/
lemma Sends.asks_submitAll {b : Sends ω} {a a' : Allocator} {xs : List (Exchange ω)}
    {r : Except BatchError (List Receipt)} (h : Asks (b.run.run.run a) xs (r, a')) :
    Asks ((submitAll b.submitter b.report b.intents).run.run a) xs (r, a') := by
  cases b with
  | submit s report intents => exact h
  | stake r payload batches stakePerValidator => exact h
  | act r payload batches action => exact h
  | migrate s plan valuePerValidator =>
    -- the handler of a failure asks nothing and lets the failure through
    obtain ⟨es, run, rfl⟩ := h
    obtain ⟨own, told, rfl, silent, -, sent⟩ := of_runs_migrateBatches run
    rw [exchanges_append, silent, List.append_nil]
    exact asks_of_runs sent

/-! ### One step -/

/-- A step that was taken: its exchanges, its outcome and what it did to the count. -/
structure Stage (ω : Type) where
  step : Step ω
  exchanges : List (Exchange ω)
  outcome : Outcome
  marks : List Mark

/-- How a step leads from one state of the allocator to another. -/
inductive Stage.Serves (a : Allocator) : Stage ω → Allocator → Prop where
  /-- One nonce was allocated, or the node did not tell it. -/
  | allocated {xs : List (Exchange ω)} {r : Except BatchError Int} {m : Mark} {a' : Allocator}
      (allocated : Allocated a xs r a' m) : Serves a ⟨.allocate, xs, .nonce r, [m]⟩ a'
  /-- The count was forgotten. -/
  | forgotten : Serves a ⟨.reset, [], .forgotten, [.forgotten]⟩ a.reset
  /-- There was nothing to send. -/
  | nothing {b : Sends ω} (intents_eq : b.intents = []) :
      Serves a ⟨.send b, [], .receipts (.ok []), []⟩ a
  /-- Transactions were sent. -/
  | sent {b : Sends ω} {ts : List (Turn ω)} {r : Except BatchError (List Receipt)} {a' : Allocator}
      {ms : List Mark} {first : Int} {k : Nat} (ne_nil : b.intents ≠ [])
      (sent : SentFrom b.submitter b.report b.intents a ts r a' ms first k) :
      Serves a ⟨.send b, ts.flatMap Turn.exchanges, .receipts r, ms ++ resetsAfter ts⟩ a'

lemma Step.exists_serves {step : Step ω} {a a' : Allocator} {xs : List (Exchange ω)} {o : Outcome}
    (h : Asks (step.run.run a) xs (o, a')) :
    ∃ t : Stage ω, t.step = step ∧ t.exchanges = xs ∧ t.outcome = o ∧ t.Serves a a' := by
  cases step with
  | allocate =>
    rw [Step.run, StateT.run_bind, asks_bind_iff] at h
    obtain ⟨xs₁, xs₂, ⟨r, a₁⟩, rfl, h, h'⟩ := h
    obtain ⟨rfl, hr⟩ := asks_done_iff.1 h'
    obtain ⟨rfl, rfl⟩ := Prod.mk.inj hr
    obtain ⟨m, allocated⟩ := (allocates_of_asks h).exists_mark
    exact ⟨_, rfl, by simp, rfl, .allocated allocated⟩
  | reset =>
    obtain ⟨rfl, hr⟩ := asks_done_iff.1 h
    obtain ⟨rfl, rfl⟩ := Prod.mk.inj hr
    exact ⟨_, rfl, rfl, rfl, .forgotten⟩
  | send b =>
    rw [Step.run, StateT.run_bind, asks_bind_iff] at h
    obtain ⟨xs₁, xs₂, ⟨r, a₁⟩, rfl, h, h'⟩ := h
    obtain ⟨rfl, hr⟩ := asks_done_iff.1 h'
    obtain ⟨rfl, rfl⟩ := Prod.mk.inj hr
    obtain ⟨ts, rfl, batch⟩ := batch_of_asks (Sends.asks_submitAll h)
    -- without a transaction no nonce is handed out, and there is no first one
    by_cases hb : b.intents = []
    · rw [hb] at batch
      cases batch
      exact ⟨_, rfl, by simp, rfl, .nothing hb⟩
    · obtain ⟨ms, first, k, sent⟩ := batch.exists_sentFrom hb
      exact ⟨_, rfl, by simp, rfl, .sent hb sent⟩

/-- A step keeps the count, and what it leaves is told by what it did to it. -/
lemma Stage.Serves.keeps {t : Stage ω} {a a' : Allocator} (h : t.Serves a a') :
    Keeps a.next t.marks ∧ a' = { a with next := leftBy a.next t.marks } := by
  cases h with
  | allocated allocated => exact ⟨⟨allocated.fits, trivial⟩, allocated.after⟩
  | forgotten => exact ⟨⟨trivial, trivial⟩, rfl⟩
  | nothing intents_eq => exact ⟨trivial, rfl⟩
  | sent ne_nil sent => exact ⟨sent.keeps, sent.after⟩

/-! ### All steps -/

/-- Each step is served from where the one before left the allocator. -/
inductive Stages : Allocator → List (Stage ω) → Allocator → Prop where
  | nil {a : Allocator} : Stages a [] a
  | cons {a a₁ a' : Allocator} {t : Stage ω} {ts : List (Stage ω)} (serves : t.Serves a a₁)
      (later : Stages a₁ ts a') : Stages a (t :: ts) a'

lemma exists_stages {steps : List (Step ω)} {a a' : Allocator} {xs : List (Exchange ω)}
    {outcomes : List Outcome} (h : Asks ((runAll steps).run a) xs (outcomes, a')) :
    ∃ stages : List (Stage ω), stages.map Stage.step = steps ∧
      stages.flatMap Stage.exchanges = xs ∧ stages.map Stage.outcome = outcomes ∧
      Stages a stages a' := by
  -- along the steps, from whatever allocator the step before left
  induction steps generalizing a xs outcomes with
  | nil =>
    obtain ⟨rfl, hr⟩ := asks_done_iff.1 h
    obtain ⟨rfl, rfl⟩ := Prod.mk.inj hr
    exact ⟨[], rfl, rfl, rfl, .nil⟩
  | cons step rest ih =>
    rw [runAll, StateT.run_bind, asks_bind_iff] at h
    obtain ⟨xs₁, xs₂, ⟨o, a₁⟩, rfl, h, h'⟩ := h
    rw [StateT.run_bind, asks_bind_iff] at h'
    obtain ⟨xs₂, xs₃, ⟨os, a₂⟩, rfl, h', h''⟩ := h'
    obtain ⟨rfl, hr⟩ := asks_done_iff.1 h''
    obtain ⟨rfl, rfl⟩ := Prod.mk.inj hr
    obtain ⟨t, rfl, rfl, rfl, serves⟩ := Step.exists_serves h
    obtain ⟨stages, rfl, rfl, rfl, later⟩ := ih h'
    exact ⟨t :: stages, rfl, by simp, rfl, .cons serves later⟩

namespace Stages

variable {a a' : Allocator} {stages earlier later : List (Stage ω)} {t : Stage ω}

lemma keeps (h : Stages a stages a') : Keeps a.next (stages.flatMap Stage.marks) ∧
    a' = { a with next := leftBy a.next (stages.flatMap Stage.marks) } := by
  induction h with
  | nil => exact ⟨trivial, rfl⟩
  | cons serves others ih =>
    obtain ⟨kept, rfl⟩ := serves.keeps
    obtain ⟨later, rfl⟩ := ih
    rw [List.flatMap_cons]
    exact ⟨keeps_append_iff.2 ⟨kept, later⟩, by rw [leftBy_append]⟩

lemma split (h : Stages a (earlier ++ later) a') :
    ∃ a₁, Stages a earlier a₁ ∧ Stages a₁ later a' := by
  induction earlier generalizing a with
  | nil => exact ⟨a, .nil, h⟩
  | cons t earlier ih =>
    cases h with
    | cons serves others =>
      obtain ⟨a₁, h₁, h₂⟩ := ih others
      exact ⟨a₁, .cons serves h₁, h₂⟩

/-- Each step finds what the marks before it leave, and leaves what its own marks add. -/
lemma serves (h : Stages a (earlier ++ t :: later) a') :
    t.Serves { a with next := leftBy a.next (earlier.flatMap Stage.marks) }
      { a with next := leftBy a.next ((earlier ++ [t]).flatMap Stage.marks) } := by
  obtain ⟨a₁, before, h⟩ := h.split
  cases h with
  | cons serves others =>
    obtain ⟨-, rfl⟩ := before.keeps
    obtain ⟨-, rfl⟩ := serves.keeps
    simpa using serves

end Stages

/-- What holds of the stages of a session, its exchanges, its outcomes and the allocator that it
leaves. -/
structure Kept (steps : List (Step ω)) (a : Allocator) (xs : List (Exchange ω))
    (outcomes : List Outcome) (a' : Allocator) (stages : List (Stage ω)) : Prop where
  steps_eq : stages.map Stage.step = steps
  exchanges_eq : stages.flatMap Stage.exchanges = xs
  outcomes_eq : stages.map Stage.outcome = outcomes
  /-- Each step is served from what the steps before it left of the allocator. -/
  serves : ∀ {earlier t later}, stages = earlier ++ t :: later →
    t.Serves { a with next := leftBy a.next (earlier.flatMap Stage.marks) }
      { a with next := leftBy a.next ((earlier ++ [t]).flatMap Stage.marks) }
  after : a' = { a with next := leftBy a.next (stages.flatMap Stage.marks) }
  /-- The node is asked for a nonce exactly at first if none is known, after the count was
  forgotten, and after the node did not tell one. -/
  asks_iff : ∀ {before m later}, stages.flatMap Stage.marks = before ++ m :: later →
    m ≠ .forgotten →
    (m.answer?.isSome ↔ (before = [] ∧ a.next = none) ∨
      ∃ earlier last, before = earlier ++ [last] ∧ (last = .forgotten ∨ ∃ f, last = .untold f))
  /-- A nonce that is not asked for is the one that was known at first, or the one after that of the
  mark before. -/
  counted : ∀ {before n later}, stages.flatMap Stage.marks = before ++ .counted n :: later →
    (before = [] ∧ a.next = some n) ∨
      ∃ earlier last, before = earlier ++ [last] ∧ last.nonce? = some (n - 1)
  /-- If the node is not asked in between, nonces are handed out one after another: none twice, and
  none is left out. -/
  consecutive : ∀ {before m mid m' later} {n n' : Int},
    stages.flatMap Stage.marks = before ++ m :: (mid ++ m' :: later) → m.nonce? = some n →
    m'.nonce? = some n' → (∀ x ∈ mid ++ [m'], x.answer? = none) →
    n' = n + 1 + mid.length ∧ ∀ (i : Nat) x, mid[i]? = some x → x = .counted (n + 1 + i)

/-- Every session keeps the count of its allocator, whatever the chain answers and whatever
fails. -/
theorem session_kept {steps : List (Step ω)} {a a' : Allocator}
    {es : List (Program.Event (Chain ω))} {outcomes : List Outcome}
    (run : ((runAll steps).run a).Runs es (outcomes, a')) :
    ∃ stages, Kept steps a (exchanges es) outcomes a' stages := by
  obtain ⟨stages, steps_eq, exchanges_eq, outcomes_eq, served⟩ := exists_stages (asks_of_runs run)
  obtain ⟨kept, after⟩ := served.keeps
  refine ⟨stages, ?_⟩
  constructor
  case steps_eq => exact steps_eq
  case exchanges_eq => exact exchanges_eq
  case outcomes_eq => exact outcomes_eq
  case serves =>
    rintro earlier t later rfl
    exact served.serves
  case after => exact after
  case asks_iff =>
    intro before m later hm
    rw [hm] at kept
    exact kept.asks_iff
  case counted =>
    intro before n later hm
    rw [hm] at kept
    exact kept.counted
  case consecutive =>
    intro before m mid m' later n n' hm
    rw [hm] at kept
    exact kept.consecutive

/-- A session in which a nonce is not told, a transaction is reverted, the fees for a batch are not
suggested and the count is forgotten. -/
theorem session_kept_of_failing_steps :
    let s : Submitter := { maxAttempts := 2 }
    let intents : List (Intent String) := [
      { payload := "first", sender := "0xa", gasLimit := 21000 },
      { payload := "second", sender := "0xa", description := "unstaking" }]
    let receipt (status : Int) : Receipt :=
      { hash := "0x2", blockNumber := 5, status, gasUsed := 0 }
    let steps : List (Step String) := [
      .allocate, .allocate, .send (.submit s Chain.included intents),
      .send (.migrate { sender := "0xa" } [(⟨"0xb", []⟩, "third")] 1), .allocate, .reset]
    let script : List (Exchange String) := [
      .pendingNonce "0xa" (.error (.reported .connection "unreachable")),
      .pendingNonce "0xa" (.ok 7),
      .priorityFee (.ok (.int 1)), .feeCap (.ok (.int 10)),
      .submit "first" ⟨"0xa", 0, 21000, 8, 10, 1⟩ (.ok "0x1"),
      .wait "0x1" s.timeout (.ok (receipt 1)), .included 1 (receipt 1) (.ok ()),
      .priorityFee (.ok (.int 1)), .feeCap (.ok (.int 10)),
      .submit "second" ⟨"0xa", 0, 3000000, 9, 10, 1⟩ (.ok "0x2"),
      .wait "0x2" s.timeout (.ok (receipt 0)),
      .priorityFee (.error (.reported .connection "unreachable")),
      .pendingNonce "0xa" (.ok 10)]
    let program := (runAll steps).run { address := "0xa" }
    (program.run Chain.scripted script).1.2 = { address := "0xa", next := none } ∧
      (program.run Chain.scripted script).1.1.take 3 = [
        .nonce (.error (.fault (.reported .connection "unreachable"))), .nonce (.ok 7),
        .receipts (.error (.reverted 2 "unstaking" (receipt 0)))] ∧
      (program.run Chain.scripted script).1.1.drop 4 = [.nonce (.ok 10), .forgotten] ∧
      ∃ stages, Kept steps { address := "0xa" }
        (exchanges (program.trace Chain.scripted script)) (program.run Chain.scripted script).1.1
        (program.run Chain.scripted script).1.2 stages :=
  ⟨by decide +kernel, by decide +kernel, by decide +kernel, session_kept (Program.runs_trace _ _ _)⟩

end StakeRegistry.Registry.Session
