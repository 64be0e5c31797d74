/-
Runs of programs that may end with an error.

A run of such a program is taken apart where the program is put together: at `>>=`
(`runs_run_bind_iff`), at its two ends and where another type of errors is put in the place of its
own.
-/
import Mathlib.Data.List.Forall2
import StakeRegistry.Proofs.Program.Runs

namespace StakeRegistry

section Except

variable {ε ε' α : Type} {f : ε → ε'} {x : Except ε α}

lemma mapError_eq_ok_iff {a : α} : x.mapError f = .ok a ↔ x = .ok a := by
  cases x <;> simp [Except.mapError]

lemma mapError_eq_error_iff {e : ε'} : x.mapError f = .error e ↔
    ∃ e', x = .error e' ∧ f e' = e := by
  cases x <;> simp [Except.mapError]

lemma exists_eq_ok_of_isOk (h : x.isOk = true) : ∃ a, x = .ok a := by
  cases x with
  | error e => cases h
  | ok a => exact ⟨a, rfl⟩

/-- Two steps succeed exactly if the first one does, and the second one on its value. -/
lemma bind_eq_ok_iff {β : Type} {g : α → Except ε β} {b : β} :
    (x >>= g) = .ok b ↔ ∃ a, x = .ok a ∧ g a = .ok b := by
  cases x <;> simp [bind, Except.bind]

/-- Two steps fail exactly if one of them does. -/
lemma bind_eq_error_iff {β : Type} {g : α → Except ε β} {e : ε} :
    (x >>= g) = .error e ↔ x = .error e ∨ ∃ a, x = .ok a ∧ g a = .error e := by
  cases x <;> simp [bind, Except.bind]

/-- A list is worked through exactly if each of its elements is. -/
lemma mapM_eq_ok_iff {β : Type} {g : α → Except ε β} {as : List α} {bs : List β} :
    as.mapM g = .ok bs ↔ List.Forall₂ (fun a b => g a = .ok b) as bs := by
  induction as generalizing bs with
  | nil => cases bs <;> simp [pure, Except.pure]
  | cons a as ih =>
    rw [List.mapM_cons]
    cases ha : g a with
    | error e => cases bs <;> simp [bind, Except.bind, ha]
    | ok b =>
      cases has : as.mapM g with
      | error e => cases bs <;> simp [bind, Except.bind, ← ih, ha, has]
      | ok later => cases bs <;> simp [bind, Except.bind, pure, Except.pure, ← ih, ha, has]

/-- A list is not worked through exactly if it is up to one of its elements. -/
lemma mapM_eq_error_iff {β : Type} {g : α → Except ε β} {as : List α} {e : ε} :
    as.mapM g = .error e ↔
      ∃ before a after, as = before ++ a :: after ∧ (∀ a ∈ before, ∃ b, g a = .ok b) ∧
        g a = .error e := by
  induction as with
  | nil => simp [pure, Except.pure]
  | cons a as ih =>
    rw [List.mapM_cons]
    constructor
    · intro failed
      cases ha : g a with
      | error e' =>
        obtain rfl : e' = e := by simpa [bind, Except.bind, ha] using failed
        exact ⟨[], a, as, rfl, List.forall_mem_nil _, ha⟩
      | ok b =>
        have rest : as.mapM g = .error e := by
          cases has : as.mapM g <;> simp_all [bind, Except.bind, pure, Except.pure]
        obtain ⟨before, a', after, rfl, passed, failed⟩ := ih.1 rest
        exact ⟨a :: before, a', after, rfl, List.forall_mem_cons.2 ⟨⟨b, ha⟩, passed⟩, failed⟩
    · rintro ⟨_ | ⟨first, before⟩, a', after, split, passed, failed⟩ <;> obtain ⟨rfl, rfl⟩ :=
        List.cons.inj split
      · rw [failed]
        rfl
      · obtain ⟨⟨b, hb⟩, passed⟩ := List.forall_mem_cons.1 passed
        rw [hb, ih.2 ⟨before, a', after, rfl, passed, failed⟩]
        rfl

/-- Where a list is worked through, each of its elements is. -/
lemma exists_of_mapM_eq_ok {β : Type} {g : α → Except ε β} {as : List α} {bs : List β} {a : α}
    (h : as.mapM g = .ok bs) (ha : a ∈ as) : ∃ b ∈ bs, g a = .ok b := by
  have each := mapM_eq_ok_iff.1 h
  clear h
  induction each with
  | nil => cases ha
  | @cons a' b as bs hab rest ih =>
    rcases List.mem_cons.1 ha with rfl | later
    · exact ⟨b, List.mem_cons_self, hab⟩
    · obtain ⟨b', hb', hg⟩ := ih later
      exact ⟨b', List.mem_cons_of_mem _ hb', hg⟩

lemma exists_mapM_eq_ok_iff {β : Type} {g : α → Except ε β} {as : List α} :
    (∃ bs, as.mapM g = .ok bs) ↔ ∀ a ∈ as, ∃ b, g a = .ok b := by
  refine ⟨fun ⟨bs, h⟩ a mem => ?_, fun each => ?_⟩
  · obtain ⟨b, -, hb⟩ := exists_of_mapM_eq_ok h mem
    exact ⟨b, hb⟩
  · cases worked : as.mapM g with
    | ok bs => exact ⟨bs, rfl⟩
    | error e =>
      obtain ⟨before, a, after, rfl, -, failed⟩ := mapM_eq_error_iff.1 worked
      obtain ⟨b, hb⟩ := each a (by simp)
      cases hb.symm.trans failed

/-- Results are joined exactly if all of them are values. -/
lemma mapM_id_eq_ok_iff {xs : List (Except ε α)} {as : List α} :
    xs.mapM id = .ok as ↔ xs = as.map .ok := by
  rw [mapM_eq_ok_iff]
  have h : List.Forall₂ Eq xs (as.map .ok) ↔ List.Forall₂ (fun x a => x = .ok a) xs as :=
    List.forall₂_map_right_iff
  rw [List.forall₂_eq_eq_eq] at h
  exact h.symm

end Except

namespace Program

variable {I : Interface} {ε ε' α β : Type} {es : List (Event I)}

/-- A step that may fail is followed by the next one only if it does not fail. -/
lemma runs_run_bind_iff {p : ExceptT ε (Program I) α} {f : α → ExceptT ε (Program I) β}
    {r : Except ε β} :
    Runs (p >>= f).run es r ↔
      (∃ e, r = .error e ∧ Runs p.run es (.error e)) ∨
      ∃ es₁ es₂ a, es = es₁ ++ es₂ ∧ Runs p.run es₁ (.ok a) ∧ Runs (f a).run es₂ r := by
  rw [ExceptT.run_bind, runs_bind_iff]
  constructor
  · rintro ⟨es₁, es₂, x, rfl, h₁, h₂⟩
    cases x with
    | error e =>
      obtain ⟨rfl, rfl⟩ := Runs.done_iff.1 h₂
      exact .inl ⟨e, rfl, by simpa using h₁⟩
    | ok a => exact .inr ⟨es₁, es₂, a, rfl, h₁, h₂⟩
  · rintro (⟨e, rfl, h⟩ | ⟨es₁, es₂, a, rfl, h₁, h₂⟩)
    · exact ⟨es, [], .error e, by simp, h, .done _⟩
    · exact ⟨es₁, es₂, .ok a, rfl, h₁, h₂⟩

/-- A run that does not fail has not failed at a step. -/
lemma runs_run_bind_ok_iff {p : ExceptT ε (Program I) α} {f : α → ExceptT ε (Program I) β} {b : β} :
    Runs (p >>= f).run es (.ok b) ↔
      ∃ es₁ es₂ a, es = es₁ ++ es₂ ∧ Runs p.run es₁ (.ok a) ∧ Runs (f a).run es₂ (.ok b) := by
  rw [runs_run_bind_iff]
  exact ⟨fun h => h.resolve_left fun ⟨e, he, _⟩ => (nomatch he), .inr⟩

/-- A step that does not fail is followed by the next one. -/
lemma run_run_bind_of_ok {σ ε β : Type} {answer : (c : I.Call) → σ → I.Answer c × σ}
    {p : ExceptT ε (Program I) α} {f : α → ExceptT ε (Program I) β} {s : σ} {a : α}
    (passed : (p.run.run answer s).1 = .ok a) :
    (p >>= f).run.run answer s = (f a).run.run answer (p.run.run answer s).2 := by
  rw [ExceptT.run_bind, run_bind, passed]

lemma begins_run_bind {σ ε β : Type} {answer : (c : I.Call) → σ → I.Answer c × σ}
    {p : ExceptT ε (Program I) α} {f : α → ExceptT ε (Program I) β} {s : σ} {r : Except ε α}
    (result : (p.run.run answer s).1 = r) :
    Begins p.run ((p >>= f).run.trace answer s) r := by
  rw [ExceptT.run_bind, trace_bind]
  exact ⟨_, List.prefix_append _ _, result ▸ runs_trace answer p.run s⟩

@[simp] lemma runs_run_pure_iff {a : α} {r : Except ε α} :
    Runs (pure a : ExceptT ε (Program I) α).run es r ↔ es = [] ∧ r = .ok a :=
  Runs.done_iff

@[simp] lemma runs_run_throw_iff {e : ε} {r : Except ε α} :
    Runs (throw e : ExceptT ε (Program I) α).run es r ↔ es = [] ∧ r = .error e :=
  Runs.done_iff

/-- A step that only guards against a condition is passed exactly if the condition does not hold. -/
lemma runs_run_guard_ok_iff {c : Prop} [Decidable c] {e : ε}
    {f : Unit → ExceptT ε (Program I) β} {b : β} :
    Runs (if c then throw e >>= f else f ()).run es (.ok b) ↔ ¬ c ∧ Runs (f ()).run es (.ok b) := by
  split
  next h =>
    constructor
    · intro run
      obtain ⟨-, ended⟩ := Runs.done_iff.1 run
      cases ended
    · rintro ⟨absent, -⟩
      exact absurd h absent
  next h => exact ⟨fun run => ⟨h, run⟩, fun run => run.2⟩

/-- A value that is made of the result of a program does not change what the program asks. -/
lemma runs_run_map_iff {p : ExceptT ε (Program I) α} {f : α → β} {r : Except ε β} :
    Runs (p >>= fun a => pure (f a)).run es r ↔ ∃ x, Runs p.run es x ∧ r = x.map f := by
  rw [runs_run_bind_iff]
  constructor
  · rintro (⟨e, rfl, h⟩ | ⟨es₁, es₂, a, rfl, h₁, h₂⟩)
    · exact ⟨.error e, h, rfl⟩
    · obtain ⟨rfl, rfl⟩ := runs_run_pure_iff.1 h₂
      exact ⟨.ok a, by simpa using h₁, rfl⟩
  · rintro ⟨x, h, rfl⟩
    cases x with
    | error e => exact .inl ⟨e, rfl, h⟩
    | ok a => exact .inr ⟨es, [], a, by simp, h, runs_run_pure_iff.2 ⟨rfl, rfl⟩⟩

lemma runs_run_map_ok_iff {p : ExceptT ε (Program I) α} {f : α → β} {b : β} :
    Runs (p >>= fun a => pure (f a)).run es (.ok b) ↔ ∃ a, Runs p.run es (.ok a) ∧ f a = b := by
  rw [runs_run_map_iff]
  constructor
  · rintro ⟨x, run, ended⟩
    cases x with
    | error e => cases ended
    | ok a => exact ⟨a, run, (Except.ok.inj ended).symm⟩
  · rintro ⟨a, run, rfl⟩
    exact ⟨.ok a, run, rfl⟩

/-- Of the values that a program ends with, only one is found at the beginning of a list of
events. -/
lemma Begins.ok_eq {p : ExceptT ε (Program I) α} {a a' : α} (h : Begins p.run es (.ok a))
    (h' : Begins p.run es (.ok a')) : a = a' :=
  Except.ok.inj (h.eq h')

/-- Another type of errors changes nothing but the error. -/
lemma runs_run_adapt_iff {f : ε → ε'} {p : ExceptT ε (Program I) α} {r : Except ε' α} :
    Runs (ExceptT.adapt f p).run es r ↔ ∃ x, Runs p.run es x ∧ r = x.mapError f := by
  have h : (ExceptT.adapt f p).run = p.run >>= fun x => .done (x.mapError f) := rfl
  rw [h, runs_bind_iff]
  constructor
  · rintro ⟨es₁, es₂, x, rfl, h₁, h₂⟩
    obtain ⟨rfl, rfl⟩ := Runs.done_iff.1 h₂
    exact ⟨x, by simpa using h₁, rfl⟩
  · rintro ⟨x, h, rfl⟩
    exact ⟨es, [], x, by simp, h, .done _⟩

/-- A call inside a program that may fail: the program goes on with the answer. -/
lemma runs_run_call_bind_iff {c : I.Call} {f : I.Answer c → ExceptT ε (Program I) β}
    {r : Except ε β} :
    Runs (ExceptT.lift (call c) >>= f).run es r ↔
    ∃ x rest, es = ⟨c, x⟩ :: rest ∧ Runs (f x).run rest r := by
  rw [ExceptT.run_bind_lift, call_bind, Runs.ask_iff]

end Program
end StakeRegistry
