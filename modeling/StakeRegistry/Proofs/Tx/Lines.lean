/-
What a run of several transactions tells the operator.

`linesIn` reads the lines out of the events of a run. The submission of a transaction writes none,
it only keeps records in the log (`silent_submitNext`). A turn whose transaction was included tells
so, and whatever its report tells follows; a turn without a receipt tells nothing, and so does one
whose block cannot be told (`Turn.lines`). The main statement is `Performed.lines_eq`: the lines of
a run are those of its turns.
-/
import Mathlib.Data.List.Basic
import StakeRegistry.Proofs.Program.Uses
import StakeRegistry.Proofs.Tx.Turns

namespace StakeRegistry.Tx

open Program

variable {ω α β : Type}

/-- The lines that are written to the operator. -/
def linesIn (es : List (Program.Event (Chain ω))) : List String :=
  es.filterMap fun e =>
    match e.1 with
    | .say line => some line
    | _ => none

/-- The call writes no line. -/
def Silent (c : Chain.Call ω) : Prop :=
  ∀ line, c ≠ .say line

/-- What is told about a turn, given what its report tells about a receipt. -/
def Turn.lines (t : Turn ω) (reportLines : Receipt → List String) : List String :=
  match t.outcome with
  | .ok receipt =>
    if Numeral.isWritable receipt.blockNumber = true then
      t.intent.includedLine receipt :: if receipt.status = 1 then reportLines receipt else []
    else []
  | .error _ => []

/-- What is told about turns, of which the first is at a place. -/
def linesFrom (reportLines : Nat → Receipt → List String) (place : Nat) (ts : List (Turn ω)) :
    List String :=
  (ts.mapIdx fun i t => t.lines (reportLines (place + i))).flatten

/-! ### Lines -/

@[simp] lemma linesIn_nil : linesIn ([] : List (Program.Event (Chain ω))) = [] := rfl

@[simp] lemma linesIn_append (es es' : List (Program.Event (Chain ω))) :
    linesIn (es ++ es') = linesIn es ++ linesIn es' :=
  List.filterMap_append

lemma linesIn_say (line : String) (es : List (Program.Event (Chain ω))) :
    linesIn (⟨.say line, ()⟩ :: es) = line :: linesIn es := rfl

lemma linesIn_eq_nil {es : List (Program.Event (Chain ω))} (h : ∀ e ∈ es, Silent e.1) :
    linesIn es = [] := by
  refine List.filterMap_eq_nil_iff.2 fun e he => ?_
  obtain ⟨c, x⟩ := e
  cases c with
  | say line => exact absurd rfl (h _ he line)
  | _ => rfl

@[simp] lemma linesFrom_nil {reportLines : Nat → Receipt → List String} {place : Nat} :
    linesFrom reportLines place ([] : List (Turn ω)) = [] := rfl

lemma linesFrom_cons {reportLines : Nat → Receipt → List String} {place : Nat} (t : Turn ω)
    (ts : List (Turn ω)) : linesFrom reportLines place (t :: ts) =
      t.lines (reportLines place) ++ linesFrom reportLines (place + 1) ts := by
  have shift : (fun i (t : Turn ω) => t.lines (reportLines (place + (i + 1)))) =
      fun i t => t.lines (reportLines (place + 1 + i)) := by
    funext i t
    rw [Nat.add_right_comm, Nat.add_assoc]
  rw [linesFrom, List.mapIdx_cons, List.flatten_cons, shift]
  rfl

/-! ### A submission is silent -/

section BatchRun

variable {allowed : Chain.Call ω → Prop} {p : BatchRun ω α} {f : α → BatchRun ω β} {a : Allocator}

lemma uses_batch_bind (first : Uses allowed (p.run.run a))
    (rest : ∀ v a₁, Uses allowed ((f v).run.run a₁)) : Uses allowed ((p >>= f).run.run a) := by
  rw [run_batch_bind]
  refine uses_bind first fun x => ?_
  obtain ⟨e | v, a₁⟩ := x
  · trivial
  · exact rest v a₁

lemma uses_told_bind {q : Program (Chain ω) α} (first : Uses allowed q)
    (rest : ∀ v, Uses allowed ((f v).run.run a)) : Uses allowed ((told q >>= f).run.run a) := by
  rw [run_told_bind]
  exact uses_bind first rest

lemma uses_ofCall {q : Program (Chain ω) (Except Fault α)} (h : Uses allowed q) :
    Uses allowed ((ofCall q).run.run a) := by
  refine uses_told_bind h fun x => ?_
  cases x <;> trivial

lemma uses_ofSubmission {q : OnChain ω TxError α} (h : Uses allowed q.run) :
    Uses allowed ((ofSubmission q).run.run a) := by
  refine uses_told_bind h fun x => ?_
  cases x <;> trivial

end BatchRun

/-- A question is silent, and so is a record in the log. -/
lemma silent_note {level : LogLevel} {message : String} :
    Uses Silent (note level message : OnChain ω TxError Unit).run :=
  uses_run_lift (uses_call (by simp [Silent]))

lemma silent_askInteger {question : Program (Chain ω) (Except Fault Json.Value)}
    (h : Uses Silent question) : Uses Silent (askInteger question).run := by
  refine uses_run_bind (uses_run_lift h) fun answer => ?_
  cases answer with
  | error f => trivial
  | ok v =>
    simp only []
    cases v.toInteger <;> trivial

lemma silent_orInvalid {x : Except InvalidFee α} :
    Uses Silent (orInvalid x : OnChain ω TxError α).run := by
  cases x <;> trivial

lemma silent_suggestFees : Uses Silent (suggestFees : OnChain ω TxError Suggestion).run :=
  uses_run_bind (silent_askInteger (uses_call (by simp [Silent]))) fun _ =>
    uses_run_bind (silent_askInteger (uses_call (by simp [Silent]))) fun _ => silent_orInvalid

lemma silent_nextFees {s : Submitter} {intent : Intent ω} {past : List Attempt} {fees : Fees} :
    Uses Silent (nextFees s intent past fees).run := by
  cases past with
  | nil => trivial
  | cons a past =>
    refine uses_run_bind silent_note fun _ => uses_run_bind silent_note fun _ => ?_
    refine uses_run_bind silent_suggestFees fun _ => uses_run_bind silent_orInvalid fun _ => ?_
    exact uses_run_bind silent_note fun _ => uses_run_pure

lemma silent_findIncluded {past : List Attempt} :
    Uses Silent (findIncluded past : OnChain ω TxError (Option Receipt)).run := by
  induction past with
  | nil => trivial
  | cons a past ih =>
    obtain ⟨index, fees, ending⟩ := a
    cases ending with
    | rejected => exact ih
    | timedOut hash =>
      simp only [findIncluded]
      split
      · exact ih
      have asked : Uses Silent (ask (Chain.receipt hash) : OnChain ω TxError _).run :=
        uses_run_lift (uses_call (by simp [Silent]))
      refine uses_run_bind asked fun answer => ?_
      rcases answer with f | _ | r
      · trivial
      · exact ih
      · trivial

lemma silent_giveUp {s : Submitter} {intent : Intent ω} {past : List Attempt} :
    Uses Silent (giveUp s intent past).run := by
  rw [giveUp]
  refine uses_run_bind silent_findIncluded fun found => ?_
  cases found with
  | none => trivial
  | some r => exact uses_run_bind silent_note fun _ => uses_run_pure

lemma silent_afterUsedNonce {intent : Intent ω} {past : List Attempt} {fees : Fees} {f : Fault} :
    Uses Silent (afterUsedNonce intent past fees f).run := by
  rw [afterUsedNonce]
  refine uses_run_bind silent_findIncluded fun found => ?_
  cases found with
  | none => trivial
  | some r => exact uses_run_bind silent_note fun _ => uses_run_pure

lemma silent_attemptFrom {s : Submitter} {intent : Intent ω} {past : List Attempt} {fees : Fees}
    {left : Nat} : Uses Silent (attemptFrom s intent past fees left).run := by
  induction left generalizing past fees with
  | zero => exact silent_giveUp
  | succ left ih =>
    rw [attemptFrom]
    refine uses_run_bind silent_nextFees fun fees => ?_
    refine uses_run_bind (uses_run_lift (uses_call (by simp [Silent]))) fun answer => ?_
    cases answer with
    | error f =>
      cases refused : isRefusal f with
      | true =>
        simp only [refused, if_true]
        exact uses_run_bind silent_note fun _ => ih
      | false =>
        cases used : isNonceUsed f with
        | true =>
          simp only [refused, used, if_true]
          exact silent_afterUsedNonce
        | false =>
          simp only [refused, used]
          exact uses_run_throw
    | ok hash =>
      refine uses_run_bind silent_note fun _ => ?_
      refine uses_run_bind (uses_run_lift (uses_call (by simp [Silent]))) fun answer => ?_
      cases answer with
      | ok r => trivial
      | error f =>
        cases late : f.isTimeout with
        | true =>
          simp only [late, if_true]
          exact uses_run_bind silent_note fun _ => ih
        | false =>
          simp only [late]
          exact uses_run_throw

lemma silent_allocate {a : Allocator} : Uses Silent ((allocate : BatchRun ω Int).run.run a) := by
  rw [allocate, run_get_bind]
  cases a.next with
  | some n => trivial
  | none =>
    simp only []
    refine uses_batch_bind (uses_ofCall (uses_call (by simp [Silent]))) fun n a₁ => ?_
    exact uses_told_bind (uses_call (by simp [Silent])) fun _ => trivial

/-- A transaction is submitted without a line to the operator. -/
lemma silent_submitNext {s : Submitter} {intent : Intent ω} {a : Allocator} :
    Uses Silent ((submitNext s intent).run.run a) := by
  refine uses_batch_bind silent_allocate fun nonce a₁ => ?_
  refine uses_batch_bind ?_ fun fees a₂ => uses_ofSubmission silent_attemptFrom
  refine uses_batch_bind (uses_ofSubmission silent_suggestFees) fun suggestion a₂ => ?_
  exact uses_ofSubmission silent_orInvalid

/-! ### The lines of a run -/

section Performed

variable {s : Submitter} {report : Report ω}
  {reportLines : Nat → Receipt → List String} {place : Nat} {t : Turn ω} {ts : List (Turn ω)}
  {es : List (Program.Event (Chain ω))}

lemma linesIn_submitNext {intent : Intent ω} {a : Allocator}
    {x : Except BatchError Receipt × Allocator}
    (run : ((submitNext s intent).run.run a).Runs es x) : linesIn es = [] :=
  linesIn_eq_nil (allowed_of_runs silent_submitNext run)

lemma Performs.lines_eq (h : Performs s report place t es)
    (tells : ∀ {place receipt es x}, (report place receipt).Runs es x →
      linesIn es = reportLines place receipt) : linesIn es = t.lines (reportLines place) := by
  cases h with
  | unsent turn => rw [linesIn_submitNext turn, Turn.lines]
  | unwritable turn unwritable =>
    rw [linesIn_submitNext turn]
    simp [Turn.lines, unwritable]
  | reverted turn writable status =>
    rw [linesIn_append, linesIn_say, linesIn_submitNext turn]
    simp [Turn.lines, writable, status]
  | reported turn writable status reports =>
    rw [linesIn_append, linesIn_say, linesIn_submitNext turn, tells reports]
    simp [Turn.lines, writable, status]

/-- Turns tell what is told about each of them, provided that reports tell what they are said to. -/
lemma Performed.lines_eq (h : Performed s report place ts es)
    (tells : ∀ {place receipt es x}, (report place receipt).Runs es x →
      linesIn es = reportLines place receipt) : linesIn es = linesFrom reportLines place ts := by
  induction h with
  | nil => rfl
  | cons turn others ih => rw [linesIn_append, turn.lines_eq tells, ih, linesFrom_cons]

end Performed

end StakeRegistry.Tx
