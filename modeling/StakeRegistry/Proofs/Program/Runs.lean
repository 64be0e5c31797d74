/-
Runs of programs.

The runs of a program that has ended and of one that asks are read off the program (`Runs.done_iff`,
`Runs.ask_iff`), and all surroundings that answer from a state give a run (`runs_trace`), in which
every answer is theirs (`answeredBy_trace`): what is proved of all runs holds whatever the
surroundings do.
-/
import Mathlib.Tactic.Lemma
import StakeRegistry.Program

namespace StakeRegistry.Program

variable {I : Interface} {α : Type}

lemma Runs.done_iff {a b : α} {es : List (Event I)} :
    Runs (.done a : Program I α) es b ↔ es = [] ∧ b = a := by
  constructor
  · intro h
    cases h
    exact ⟨rfl, rfl⟩
  · rintro ⟨rfl, rfl⟩
    exact .done _

lemma Runs.ask_iff {c : I.Call} {next : I.Answer c → Program I α} {es : List (Event I)} {a : α} :
    Runs (.ask c next) es a ↔ ∃ x rest, es = ⟨c, x⟩ :: rest ∧ Runs (next x) rest a := by
  constructor
  · intro h
    cases h with
    | ask _ _ x rest => exact ⟨x, _, rfl, rest⟩
  · rintro ⟨x, rest, rfl, h⟩
    exact .ask c next x h

lemma Runs.call_iff {c : I.Call} {es : List (Event I)} {x : I.Answer c} :
    Runs (call c) es x ↔ es = [⟨c, x⟩] := by
  rw [call, Runs.ask_iff]
  constructor
  · rintro ⟨y, rest, rfl, h⟩
    obtain ⟨rfl, rfl⟩ := Runs.done_iff.1 h
    rfl
  · rintro rfl
    exact ⟨x, [], rfl, .done x⟩

/-- Of the runs of a program only one begins a list of events: each answer decides what is asked
next. -/
lemma Runs.eq_of_prefix {p : Program I α} {own own' es : List (Event I)} {a a' : α}
    (run : Runs p own a) (run' : Runs p own' a') (h : own <+: es) (h' : own' <+: es) :
    own = own' ∧ a = a' := by
  induction run generalizing own' es with
  | done a =>
    obtain ⟨rfl, rfl⟩ := Runs.done_iff.1 run'
    exact ⟨rfl, rfl⟩
  | ask c next x rest ih =>
    obtain ⟨x', later, rfl, rest'⟩ := Runs.ask_iff.1 run'
    obtain ⟨ends, rfl⟩ := h
    rw [List.cons_append, List.cons_prefix_cons] at h'
    obtain ⟨hx, hlater⟩ := h'
    cases hx
    obtain ⟨rfl, rfl⟩ := ih rest' (List.prefix_append _ _) hlater
    exact ⟨rfl, rfl⟩

/-- The events begin with a run of the program. -/
def Begins (p : Program I α) (es : List (Event I)) (a : α) : Prop :=
  ∃ own, own <+: es ∧ Runs p own a

lemma Begins.eq {p : Program I α} {es : List (Event I)} {a a' : α} (h : Begins p es a)
    (h' : Begins p es a') : a = a' := by
  obtain ⟨own, hown, run⟩ := h
  obtain ⟨own', hown', run'⟩ := h'
  exact (run.eq_of_prefix run' hown hown').2

lemma Begins.mono {p : Program I α} {es es' : List (Event I)} {a : α} (h : Begins p es a)
    (more : es <+: es') : Begins p es' a := by
  obtain ⟨own, hown, run⟩ := h
  exact ⟨own, hown.trans more, run⟩

/-- The events of a program in surroundings that answer from a state. -/
def trace {σ : Type} (answer : (c : I.Call) → σ → I.Answer c × σ) : Program I α → σ → List (Event I)
  | done _, _ => []
  | ask c next, s => ⟨c, (answer c s).1⟩ :: trace answer (next (answer c s).1) (answer c s).2

/-- Whatever its surroundings answer, a program has a run with these answers. -/
theorem runs_trace {σ : Type} (answer : (c : I.Call) → σ → I.Answer c × σ)
    (p : Program I α) (s : σ) :
    Runs p (p.trace answer s) (p.run answer s).1 := by
  induction p generalizing s with
  | done a => exact .done a
  | ask c next ih => exact .ask c next _ (ih (answer c s).1 (answer c s).2)

/-- A program followed by another one leaves it the state of the surroundings. -/
lemma run_bind {σ : Type} {answer : (c : I.Call) → σ → I.Answer c × σ} {β : Type}
    (p : Program I α) (f : α → Program I β) (s : σ) :
    (p >>= f).run answer s = (f (p.run answer s).1).run answer (p.run answer s).2 := by
  induction p generalizing s with
  | done a => rfl
  | ask c next ih => exact ih (answer c s).1 (answer c s).2

/-- A program followed by another one makes the events of both, one after the other. -/
lemma trace_bind {σ : Type} {answer : (c : I.Call) → σ → I.Answer c × σ} {β : Type}
    (p : Program I α) (f : α → Program I β) (s : σ) :
    (p >>= f).trace answer s =
      p.trace answer s ++ (f (p.run answer s).1).trace answer (p.run answer s).2 := by
  induction p generalizing s with
  | done a => rfl
  | ask c next ih => exact congrArg (_ :: ·) (ih (answer c s).1 (answer c s).2)

/-- What is true of every answer of the surroundings is true of all events. -/
lemma forall_mem_trace {σ : Type} {answer : (c : I.Call) → σ → I.Answer c × σ} {P : Event I → Prop}
    (h : ∀ c s, P ⟨c, (answer c s).1⟩) (p : Program I α) (s : σ) : ∀ e ∈ p.trace answer s, P e := by
  induction p generalizing s with
  | done a => exact List.forall_mem_nil _
  | ask c next ih => exact List.forall_mem_cons.2 ⟨h c s, ih _ _⟩

/-- Every answer is that of surroundings that answer from a state. -/
def AnsweredBy {σ : Type} (answer : (c : I.Call) → σ → I.Answer c × σ) : σ → List (Event I) → Prop
  | _, [] => True
  | s, e :: es => e.2 = (answer e.1 s).1 ∧ AnsweredBy answer (answer e.1 s).2 es

lemma answeredBy_cons_iff {σ : Type} {answer : (c : I.Call) → σ → I.Answer c × σ}
    {s : σ} {c : I.Call} {x : I.Answer c} {es : List (Event I)} :
      AnsweredBy answer s (⟨c, x⟩ :: es) ↔
      x = (answer c s).1 ∧ AnsweredBy answer (answer c s).2 es :=
  Iff.rfl

lemma answeredBy_of_append {σ : Type} {answer : (c : I.Call) → σ → I.Answer c × σ} {s : σ}
    {es es' : List (Event I)} (h : AnsweredBy answer s (es ++ es')) : AnsweredBy answer s es := by
  induction es generalizing s with
  | nil => trivial
  | cons e es ih => exact ⟨h.1, ih h.2⟩

lemma answeredBy_trace {σ : Type} (answer : (c : I.Call) → σ → I.Answer c × σ) (p : Program I α)
    (s : σ) : AnsweredBy answer s (p.trace answer s) := by
  induction p generalizing s with
  | done a => trivial
  | ask c next ih => exact ⟨rfl, ih (answer c s).1 (answer c s).2⟩

/-- The run of a program in which every answer is that of the surroundings is the one in them. -/
lemma Runs.eq_run {σ : Type} {answer : (c : I.Call) → σ → I.Answer c × σ} {p : Program I α} {s : σ}
    {es : List (Event I)} {a : α} (run : Runs p es a) (answered : AnsweredBy answer s es) :
    a = (p.run answer s).1 := by
  induction run generalizing s with
  | done a => rfl
  | ask c next x rest ih =>
    obtain ⟨rfl, later⟩ := answeredBy_cons_iff.1 answered
    exact ih later

end StakeRegistry.Program
