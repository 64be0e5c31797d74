/-
Which calls a program makes, whatever is answered.

`Uses allowed p` says that every call of `p` is allowed. It is proved along the program, a lemma for
each way to put programs together, and tells about the events of every run (`allowed_of_runs`).
-/
import StakeRegistry.Proofs.Program.Failing

namespace StakeRegistry.Program

variable {I : Interface} {ε ε' α β : Type} {allowed : I.Call → Prop}

/-- Every call of the program is allowed, whatever is answered to those before. -/
def Uses (allowed : I.Call → Prop) : Program I α → Prop
  | done _ => True
  | ask c next => allowed c ∧ ∀ x, Uses allowed (next x)

lemma allowed_of_runs {p : Program I α} {es : List (Event I)} {a : α} (h : Uses allowed p)
    (run : Runs p es a) : ∀ e ∈ es, allowed e.1 := by
  induction run with
  | done a => simp
  | ask c next x rest ih => exact List.forall_mem_cons.2 ⟨h.1, ih (h.2 x)⟩

/-- What allows more calls allows the program too. -/
lemma Uses.mono {p : Program I α} {allowed' : I.Call → Prop} (h : Uses allowed p)
    (more : ∀ c, allowed c → allowed' c) : Uses allowed' p := by
  induction p with
  | done a => trivial
  | ask c next ih => exact ⟨more c h.1, fun x => ih x (h.2 x)⟩

lemma uses_bind {p : Program I α} {f : α → Program I β} (first : Uses allowed p)
    (rest : ∀ a, Uses allowed (f a)) : Uses allowed (p >>= f) := by
  induction p with
  | done a => exact rest a
  | ask c next ih => exact ⟨first.1, fun x => ih x (first.2 x)⟩

lemma uses_call {c : I.Call} (h : allowed c) : Uses allowed (call c) :=
  ⟨h, fun _ => trivial⟩

/-- The calls of an expanded program are those of the programs that its calls expand to. -/
lemma uses_expand {J : Interface} {allowed : J.Call → Prop}
    {f : (c : I.Call) → Program J (I.Answer c)} {p : Program I α} (h : ∀ c, Uses allowed (f c)) :
    Uses allowed (p.expand f) := by
  induction p with
  | done a => trivial
  | ask c next ih => exact uses_bind (h c) fun x => ih x

lemma uses_run_bind {p : ExceptT ε (Program I) α} {f : α → ExceptT ε (Program I) β}
    (first : Uses allowed p.run) (rest : ∀ a, Uses allowed (f a).run) :
    Uses allowed (p >>= f).run := by
  rw [ExceptT.run_bind]
  refine uses_bind first fun x => ?_
  cases x with
  | error e => trivial
  | ok a => exact rest a

/-- A step makes allowed calls, and what follows runs only if the step does not fail. -/
lemma run_bind_cases_of_uses {p : ExceptT ε (Program I) α} {f : α → ExceptT ε (Program I) β}
    {es : List (Event I)} {r : Except ε β} (uses : Uses allowed p.run)
    (run : Runs (p >>= f).run es r) :
    (∃ e, r = .error e ∧ ∀ x ∈ es, allowed x.1) ∨
      ∃ own rest a, es = own ++ rest ∧ (∀ x ∈ own, allowed x.1) ∧ Runs p.run own (.ok a) ∧
        Runs (f a).run rest r := by
  rcases runs_run_bind_iff.1 run with ⟨e, rfl, failed⟩ | ⟨own, rest, a, rfl, ended, next⟩
  · exact .inl ⟨e, rfl, allowed_of_runs uses failed⟩
  · exact .inr ⟨own, rest, a, rfl, allowed_of_runs uses ended, ended, next⟩

lemma uses_run_lift {p : Program I α} (h : Uses allowed p) :
    Uses allowed (ExceptT.lift p : ExceptT ε (Program I) α).run := by
  have hrun : (ExceptT.lift p : ExceptT ε (Program I) α).run = p >>= fun a => .done (.ok a) := rfl
  rw [hrun]
  exact uses_bind h fun _ => trivial

lemma uses_run_pure {a : α} : Uses allowed (pure a : ExceptT ε (Program I) α).run := trivial

lemma uses_run_throw {e : ε} : Uses allowed (throw e : ExceptT ε (Program I) α).run := trivial

lemma uses_run_guard {c : Prop} [Decidable c] {e : ε} {f : Unit → ExceptT ε (Program I) β}
    (h : Uses allowed (f ()).run) : Uses allowed (if c then throw e >>= f else f ()).run := by
  split
  · trivial
  · exact h

lemma uses_run_adapt {f : ε → ε'} {p : ExceptT ε (Program I) α} (h : Uses allowed p.run) :
    Uses allowed (ExceptT.adapt f p).run := by
  have hrun : (ExceptT.adapt f p).run = p.run >>= fun x => .done (x.mapError f) := rfl
  rw [hrun]
  exact uses_bind h fun _ => trivial

lemma uses_run_forM {as : List α} {f : α → ExceptT ε (Program I) Unit}
    (h : ∀ a, Uses allowed (f a).run) : Uses allowed (as.forM f).run := by
  induction as with
  | nil => exact uses_run_pure
  | cons a as ih => exact uses_run_bind (h a) fun _ => ih

lemma uses_run_mapM {as : List α} {f : α → ExceptT ε (Program I) β}
    (h : ∀ a, Uses allowed (f a).run) : Uses allowed (as.mapM f).run := by
  induction as with
  | nil => exact uses_run_pure
  | cons a as ih =>
    rw [List.mapM_cons]
    exact uses_run_bind (h a) fun b => uses_run_bind ih fun bs => uses_run_pure

end StakeRegistry.Program
