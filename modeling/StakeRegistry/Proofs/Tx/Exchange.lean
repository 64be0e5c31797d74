/-
What a run asks of a chain.

An `Exchange` is a question to the chain or to the caller with the answer that it got. Lines to the
operator and records of the log are no questions: `exchanges` leaves them out of the events of a
run. `Asks p xs a` says that the program `p` has a run that asks exactly `xs` and ends with `a`; it
is taken apart along the program, at `>>=` (`asks_bind_iff`, `asks_run_bind_iff`) and at every
single question.
-/
import Mathlib.Data.List.Basic
import StakeRegistry.Proofs.Program.Runs
import StakeRegistry.Tx.Batch

namespace StakeRegistry.Tx

/-- A question to the chain or to the caller, with its answer. -/
inductive Exchange (ω : Type) where
  | pendingNonce (address : String) (answer : Except Fault Int)
  | priorityFee (answer : Except Fault Json.Value)
  | feeCap (answer : Except Fault Json.Value)
  | submit (payload : ω) (params : Params) (answer : Except Fault String)
  | wait (hash : String) (timeout : Seconds) (answer : Except Fault Receipt)
  | receipt (hash : String) (answer : Except Fault (Option Receipt))
  | included (index : Nat) (receipt : Receipt) (answer : Except Fault Unit)

variable {ω α β ε : Type}

/-- Does the exchange submit, await or look up a transaction? -/
def Exchange.isAboutTransaction : Exchange ω → Bool
  | .submit _ _ _ => true
  | .wait _ _ _ => true
  | .receipt _ _ => true
  | _ => false

/-- The exchange that a call with its answer is, unless the call only tells something. -/
def Exchange.ofAnswer? : (c : Chain.Call ω) → Chain.Answer c → Option (Exchange ω)
  | .pendingNonce address, x => some (.pendingNonce address x)
  | .priorityFee, x => some (.priorityFee x)
  | .feeCap, x => some (.feeCap x)
  | .submit payload params, x => some (.submit payload params x)
  | .wait hash timeout, x => some (.wait hash timeout x)
  | .receipt hash, x => some (.receipt hash x)
  | .included index r, x => some (.included index r x)
  | .say _, _ => none
  | .log _, _ => none

/-- The exchanges among the events of a run. -/
def exchanges (es : List (Program.Event (Chain ω))) : List (Exchange ω) :=
  es.filterMap fun e => Exchange.ofAnswer? e.1 e.2

@[simp] lemma exchanges_nil : exchanges ([] : List (Program.Event (Chain ω))) = [] := rfl

@[simp] lemma exchanges_append (es es' : List (Program.Event (Chain ω))) :
    exchanges (es ++ es') = exchanges es ++ exchanges es' :=
  List.filterMap_append

/-- The exchanges of the first event come first. -/
lemma exchanges_cons (e : Program.Event (Chain ω)) (es : List (Program.Event (Chain ω))) :
    exchanges (e :: es) = exchanges [e] ++ exchanges es :=
  exchanges_append [e] es

/-- Some run of the program asks exactly these exchanges and ends with this result. -/
def Asks (p : Program (Chain ω) α) (xs : List (Exchange ω)) (a : α) : Prop :=
  ∃ es, p.Runs es a ∧ exchanges es = xs

lemma asks_of_runs {p : Program (Chain ω) α} {es : List (Program.Event (Chain ω))} {a : α}
    (h : p.Runs es a) : Asks p (exchanges es) a :=
  ⟨es, h, rfl⟩

/-! ### Programs one after another -/

@[simp] lemma asks_done_iff {a b : α} {xs : List (Exchange ω)} :
    Asks (.done a) xs b ↔ xs = [] ∧ b = a := by
  constructor
  · rintro ⟨es, h, rfl⟩
    obtain ⟨rfl, rfl⟩ := Program.Runs.done_iff.1 h
    exact ⟨rfl, rfl⟩
  · rintro ⟨rfl, rfl⟩
    exact ⟨[], .done _, rfl⟩

lemma asks_bind_iff {p : Program (Chain ω) α} {f : α → Program (Chain ω) β}
    {xs : List (Exchange ω)} {b : β} :
    Asks (p >>= f) xs b ↔ ∃ xs₁ xs₂ a, xs = xs₁ ++ xs₂ ∧ Asks p xs₁ a ∧ Asks (f a) xs₂ b := by
  constructor
  · rintro ⟨es, h, rfl⟩
    obtain ⟨es₁, es₂, a, rfl, h₁, h₂⟩ := Program.runs_bind_iff.1 h
    exact ⟨_, _, a, exchanges_append es₁ es₂, asks_of_runs h₁, asks_of_runs h₂⟩
  · rintro ⟨_, _, a, rfl, ⟨es₁, h₁, rfl⟩, ⟨es₂, h₂, rfl⟩⟩
    exact ⟨es₁ ++ es₂, Program.runs_bind_iff.2 ⟨es₁, es₂, a, rfl, h₁, h₂⟩, exchanges_append es₁ es₂⟩

/-- A step that may fail is followed by the next one only if it does not fail. -/
lemma asks_run_bind_iff {p : OnChain ω ε α} {f : α → OnChain ω ε β} {xs : List (Exchange ω)}
    {r : Except ε β} :
    Asks (p >>= f).run xs r ↔
      (∃ e, r = .error e ∧ Asks p.run xs (.error e)) ∨
      ∃ xs₁ xs₂ a, xs = xs₁ ++ xs₂ ∧ Asks p.run xs₁ (.ok a) ∧ Asks (f a).run xs₂ r := by
  rw [ExceptT.run_bind, asks_bind_iff]
  constructor
  · rintro ⟨xs₁, xs₂, x, rfl, h₁, h₂⟩
    cases x with
    | error e =>
      obtain ⟨rfl, rfl⟩ := asks_done_iff.1 h₂
      exact .inl ⟨e, rfl, by simpa using h₁⟩
    | ok a => exact .inr ⟨xs₁, xs₂, a, rfl, h₁, h₂⟩
  · rintro (⟨e, rfl, h⟩ | ⟨xs₁, xs₂, a, rfl, h₁, h₂⟩)
    · exact ⟨xs, [], .error e, by simp, h, asks_done_iff.2 ⟨rfl, rfl⟩⟩
    · exact ⟨xs₁, xs₂, .ok a, rfl, h₁, h₂⟩

@[simp] lemma asks_run_pure_iff {a : α} {xs : List (Exchange ω)} {r : Except ε α} :
    Asks (pure a : OnChain ω ε α).run xs r ↔ xs = [] ∧ r = .ok a :=
  asks_done_iff

@[simp] lemma asks_run_throw_iff {e : ε} {xs : List (Exchange ω)} {r : Except ε α} :
    Asks (throw e : OnChain ω ε α).run xs r ↔ xs = [] ∧ r = .error e :=
  asks_done_iff

/-! ### Single questions -/

lemma asks_call_iff {c : Chain.Call ω} {xs : List (Exchange ω)} {x : Chain.Answer c} :
    Asks (Program.call (I := Chain ω) c) xs x ↔ xs = (Exchange.ofAnswer? c x).toList := by
  constructor
  · rintro ⟨es, h, rfl⟩
    rw [Program.Runs.call_iff.1 h]
    cases h : Exchange.ofAnswer? c x <;> simp [exchanges, h]
  · rintro rfl
    refine ⟨_, Program.Runs.call_iff.2 rfl, ?_⟩
    cases h : Exchange.ofAnswer? c x <;> simp [exchanges, h]

/-- A question inside a step that may fail: the step goes on with the answer. -/
lemma asks_ask_bind_iff {p : Program (Chain ω) α} {f : α → OnChain ω ε β} {xs : List (Exchange ω)}
    {r : Except ε β} :
    Asks (ask p >>= f).run xs r ↔
      ∃ xs₁ xs₂ a, xs = xs₁ ++ xs₂ ∧ Asks p xs₁ a ∧ Asks (f a).run xs₂ r := by
  rw [ask, ExceptT.run_bind_lift, asks_bind_iff]

/-- A record of the log is no question. -/
@[simp] lemma asks_note_bind_iff {level : LogLevel} {message : String}
    {f : Unit → OnChain ω TxError β} {xs : List (Exchange ω)} {r : Except TxError β} :
    Asks (note level message >>= f).run xs r ↔ Asks (f ()).run xs r := by
  rw [note, asks_ask_bind_iff]
  constructor
  · rintro ⟨xs₁, xs₂, a, rfl, h₁, h₂⟩
    rw [Chain.log, asks_call_iff] at h₁
    subst h₁
    simpa [Exchange.ofAnswer?] using h₂
  · intro h
    exact ⟨[], xs, (), rfl, asks_call_iff.2 rfl, h⟩

/-! ### Surroundings that follow a script -/

/-- The answer that an exchange has for a call. -/
def Exchange.answerTo? : (c : Chain.Call ω) → Exchange ω → Option (Chain.Answer c)
  | .pendingNonce _, .pendingNonce _ x => some x
  | .priorityFee, .priorityFee x => some x
  | .feeCap, .feeCap x => some x
  | .submit _ _, .submit _ _ x => some x
  | .wait _ _, .wait _ _ x => some x
  | .receipt _, .receipt _ x => some x
  | .included _ _, .included _ _ x => some x
  | _, _ => none

/-- The answer of a chain that cannot be reached. -/
def Chain.unreachable : (c : Chain.Call ω) → Chain.Answer c
  | .pendingNonce _ => .error (.reported .connection "unreachable")
  | .priorityFee => .error (.reported .connection "unreachable")
  | .feeCap => .error (.reported .connection "unreachable")
  | .submit _ _ => .error (.reported .connection "unreachable")
  | .wait _ _ => .error (.reported .connection "unreachable")
  | .receipt _ => .error (.reported .connection "unreachable")
  | .included _ _ => .error (.reported .connection "unreachable")
  | .say _ => ()
  | .log _ => ()

/-- Each question gets the answer of the next exchange of the script; a question that does not fit
gets none. -/
def Chain.scripted (c : Chain.Call ω) : List (Exchange ω) → Chain.Answer c × List (Exchange ω)
  | [] => (unreachable c, [])
  | x :: xs =>
    match x.answerTo? c with
    | some answer => (answer, xs)
    | none => (unreachable c, x :: xs)

end StakeRegistry.Tx
