/-
Runs of acts on a host, and the calls that they make.
-/
import StakeRegistry.Host.Call
import StakeRegistry.Proofs.Program.Uses

namespace StakeRegistry.Act

open Program

variable {ε ε' α β : Type} {es : List (Event Host)}

/-- A question is one call, and the act goes on with its answer. -/
lemma runs_ask_bind_iff {c : Host.Call} {f : Host.Answer c → Act ε β} {r : Except ε β} :
    Runs (ask c >>= f).run es r ↔ ∃ x rest, es = ⟨c, x⟩ :: rest ∧ Runs (f x).run rest r :=
  runs_run_call_bind_iff (I := Host)

lemma runs_ask_iff {c : Host.Call} {r : Except ε (Host.Answer c)} :
    Runs (ask c : Act ε (Host.Answer c)).run es r ↔ ∃ x, es = [⟨c, x⟩] ∧ r = .ok x := by
  constructor
  · intro run
    cases run with
    | ask _ _ x rest =>
      obtain ⟨rfl, rfl⟩ := Runs.done_iff.1 rest
      exact ⟨x, rfl, rfl⟩
  · rintro ⟨x, rfl, rfl⟩
    exact Runs.ask (I := Host) c _ x (.done _)

/-- A line to the operator is followed by a value. -/
lemma runs_say_pure_iff {line : String} {a : α} {r : Except ε α} :
    Runs (say line >>= fun _ => pure a : Act ε α).run es r ↔
    es = [⟨.say line, ()⟩] ∧ r = .ok a := by
  constructor
  · intro run
    obtain ⟨⟨⟩, rest, rfl, next⟩ := runs_ask_bind_iff.1 run
    obtain ⟨rfl, rfl⟩ := runs_run_pure_iff.1 next
    exact ⟨rfl, rfl⟩
  · rintro ⟨rfl, rfl⟩
    exact runs_ask_bind_iff.2 ⟨(), [], rfl, runs_run_pure_iff.2 ⟨rfl, rfl⟩⟩

/-- Lines to the operator do not fail. -/
lemma ok_of_runs_say {line : α → String} {as : List α} {r : Except ε Unit}
    (run : Runs (as.forM fun a => say (line a) : Act ε Unit).run es r) : r = .ok () := by
  induction as generalizing es with
  | nil => exact (runs_run_pure_iff.1 run).2
  | cons a as ih =>
    obtain ⟨⟨⟩, rest, -, later⟩ := runs_ask_bind_iff.1 run
    exact ih later

/-- A value that is there is what the act goes on with. -/
lemma orElse_ok_bind {f : ε' → ε} {a : α} {g : α → Act ε β} : (orElse f (.ok a) >>= g) = g a :=
  rfl

lemma orElse_error_bind {f : ε' → ε} {e : ε'} {g : α → Act ε β} :
    (orElse f (.error e) >>= g) = throw (f e) :=
  rfl

/-- An act that does not fail goes on with a value that is there. -/
lemma runs_orElse_bind_ok_iff {f : ε' → ε} {x : Except ε' α} {g : α → Act ε β} {b : β} :
    Runs (orElse f x >>= g).run es (.ok b) ↔ ∃ a, x = .ok a ∧ Runs (g a).run es (.ok b) := by
  cases x with
  | error e =>
    rw [orElse_error_bind, runs_run_throw_iff]
    simp
  | ok a => simp [orElse_ok_bind]

/-- A value or an error is there without a call. -/
lemma runs_orElse_iff {f : ε' → ε} {x : Except ε' α} {r : Except ε α} :
    Runs (orElse f x).run es r ↔ es = [] ∧ r = x.mapError f := by
  cases x with
  | error e => exact runs_run_throw_iff
  | ok a => exact runs_run_pure_iff

lemma runs_withError_iff {f : ε' → ε} {p : Act ε' α} {r : Except ε α} :
    Runs (withError f p).run es r ↔ ∃ x, Runs p.run es x ∧ r = x.mapError f :=
  runs_run_adapt_iff

variable {allowed : Host.Call → Prop}

lemma uses_ask {c : Host.Call} (h : allowed c) : Uses allowed (ask c : Act ε (Host.Answer c)).run :=
  ⟨h, fun _ => trivial⟩

lemma uses_orElse {f : ε' → ε} {x : Except ε' α} : Uses allowed (orElse f x).run := by
  cases x <;> trivial

end StakeRegistry.Act
