/-
Runs of expanded programs.

A program whose calls are expanded into programs over another interface makes, for each event of a
run of its own, the events of one run of the expanded call: `Carries f inner es` says that the
events `es` are those runs, one after another, for the events `inner`.
-/
import Mathlib.Data.List.Basic
import StakeRegistry.Proofs.Program.Runs

namespace StakeRegistry.Program

variable {I J : Interface} {α : Type} {f : (c : I.Call) → Program J (I.Answer c)}

/-- The events `es` are those of runs of the expanded calls of `inner`, in their order. -/
inductive Carries (f : (c : I.Call) → Program J (I.Answer c)) :
    List (Event I) → List (Event J) → Prop where
  | nil : Carries f [] []
  | cons {e : Event I} {inner : List (Event I)} {own es : List (Event J)}
      (run : Runs (f e.1) own e.2) (rest : Carries f inner es) :
      Carries f (e :: inner) (own ++ es)

/-- Every run of an expanded program carries a run of the program. -/
lemma exists_carries_of_runs {p : Program I α} {es : List (Event J)} {a : α}
    (h : Runs (p.expand f) es a) : ∃ inner, Runs p inner a ∧ Carries f inner es := by
  induction p generalizing es with
  | done a' =>
    obtain ⟨rfl, rfl⟩ := Runs.done_iff.1 h
    exact ⟨[], .done _, .nil⟩
  | ask c next ih =>
    obtain ⟨own, es, x, rfl, run, rest⟩ := runs_bind_iff.1 h
    obtain ⟨inner, hinner, carries⟩ := ih x rest
    exact ⟨⟨c, x⟩ :: inner, .ask c next x hinner, .cons run carries⟩

lemma Carries.split {inner inner' : List (Event I)} {es : List (Event J)}
    (h : Carries f (inner ++ inner') es) :
    ∃ own own', es = own ++ own' ∧ Carries f inner own ∧ Carries f inner' own' := by
  induction inner generalizing es with
  | nil => exact ⟨[], es, rfl, .nil, h⟩
  | cons e inner ih =>
    cases h with
    | @cons _ _ first es run rest =>
      obtain ⟨own, own', rfl, carries, carries'⟩ := ih rest
      exact ⟨first ++ own, own', by simp, .cons run carries, carries'⟩

end StakeRegistry.Program
