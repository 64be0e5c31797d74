/-
Programs that ask their surroundings.

An `Interface` is a type of calls with a type of answers for each call. A program over it is done
with a value, or asks one call and goes on with the answer. What a program does is therefore a
value:

* `Program.run` gives it surroundings with a state of their own;
* `Program.interpret` carries it out in any monad, such as `IO`;
* `Program.expand` turns each call into a program over another interface;
* `Program.Runs` relates it to the calls and answers of one finite run and to the result.
-/
namespace StakeRegistry

/-- The calls that a program can make, each with the type of its answers. -/
structure Interface where
  /-- What can be asked. -/
  Call : Type
  /-- What is answered to each call. -/
  Answer : Call → Type

/-- A program over an interface. -/
inductive Program (I : Interface) (α : Type) : Type where
  /-- The program has ended with a value. -/
  | done (a : α)
  /-- The program asks a call and goes on with its answer. -/
  | ask (c : I.Call) (next : I.Answer c → Program I α)

namespace Program

variable {I J : Interface} {α β γ : Type}

/-- One program after another. -/
protected def bind (p : Program I α) (f : α → Program I β) : Program I β :=
  match p with
  | done a => f a
  | ask c next => ask c fun x => (next x).bind f

instance : Monad (Program I) where
  pure := done
  bind := Program.bind

/-- The program that asks one call and ends with its answer. -/
def call (c : I.Call) : Program I (I.Answer c) :=
  ask c done

@[simp] theorem pure_eq (a : α) : (pure a : Program I α) = done a := rfl

@[simp] theorem done_bind (a : α) (f : α → Program I β) : (done a >>= f) = f a := rfl

@[simp] theorem ask_bind (c : I.Call) (next : I.Answer c → Program I α) (f : α → Program I β) :
    (ask c next >>= f) = ask c fun x => next x >>= f := rfl

@[simp] theorem call_bind (c : I.Call) (f : I.Answer c → Program I β) :
    (call c >>= f) = ask c f := rfl

theorem bind_done (p : Program I α) : (p >>= done) = p := by
  induction p with
  | done a => rfl
  | ask c next ih => simp [ih]

theorem bind_assoc (p : Program I α) (f : α → Program I β) (g : β → Program I γ) :
    (p >>= f >>= g) = (p >>= fun a => f a >>= g) := by
  induction p with
  | done a => rfl
  | ask c next ih => simp [ih]

instance : LawfulMonad (Program I) :=
  LawfulMonad.mk' (Program I)
    (fun p => bind_done p) (fun _ _ => rfl) (fun p f g => bind_assoc p f g)

/-- The result of a program in surroundings that answer from a state, with the last state. -/
def run {σ : Type} (answer : (c : I.Call) → σ → I.Answer c × σ) : Program I α → σ → α × σ
  | done a, s => (a, s)
  | ask c next, s => run answer (next (answer c s).1) (answer c s).2

/-- Carry a program out in a monad that answers each call. -/
def interpret {m : Type → Type} [Monad m] (answer : (c : I.Call) → m (I.Answer c)) :
    Program I α → m α
  | done a => pure a
  | ask c next => do
    let x ← answer c
    interpret answer (next x)

/-- The program over another interface that makes a program of each call. -/
def expand (f : (c : I.Call) → Program J (I.Answer c)) : Program I α → Program J α
  | done a => done a
  | ask c next => (f c).bind fun x => expand f (next x)

/-- A call with the answer that it got. -/
abbrev Event (I : Interface) : Type := (c : I.Call) × I.Answer c

/-- One finite run of a program: its calls with their answers, and its result. -/
inductive Runs : Program I α → List (Event I) → α → Prop where
  | done (a : α) : Runs (.done a) [] a
  | ask (c : I.Call) (next : I.Answer c → Program I α) (x : I.Answer c)
      {es : List (Event I)} {a : α} (rest : Runs (next x) es a) :
      Runs (.ask c next) (⟨c, x⟩ :: es) a

/-- A run of one program after another is a run of the first followed by a run of the second. -/
theorem runs_bind_iff {p : Program I α} {f : α → Program I β} {es : List (Event I)} {b : β} :
    Runs (p >>= f) es b ↔ ∃ es₁ es₂ a, es = es₁ ++ es₂ ∧ Runs p es₁ a ∧ Runs (f a) es₂ b := by
  induction p generalizing es with
  | done a =>
    constructor
    · intro h
      exact ⟨[], es, a, rfl, .done a, h⟩
    · rintro ⟨_, _, _, rfl, h, h'⟩
      cases h
      exact h'
  | ask c next ih =>
    constructor
    · intro h
      cases h with
      | ask _ _ x rest =>
        obtain ⟨es₁, es₂, a, rfl, h₁, h₂⟩ := (ih x).1 rest
        exact ⟨⟨c, x⟩ :: es₁, es₂, a, rfl, .ask c next x h₁, h₂⟩
    · rintro ⟨_, es₂, a, rfl, h, h'⟩
      cases h with
      | ask _ _ x rest => exact .ask c _ x ((ih x).2 ⟨_, es₂, a, rfl, rest, h'⟩)

end Program
end StakeRegistry
