/-
Runs whose web services answer alike.

If the answers of web services depend only on the address (`AnsweredByUrl`), then what a program
finds on the web does not depend on when it asks, and neither on the clock nor on what is told to
the operator. `Agree web p q` says this of two programs: any two runs of them end alike and ask for
the same addresses in the same order. It is proved along the programs, a lemma for each way to put
programs together.
-/
import StakeRegistry.Proofs.Host.Acts
import StakeRegistry.Proofs.Host.Surroundings

namespace StakeRegistry.Host

open Program

variable {ε ε' α β : Type} {web : String → Except Fault WebResponse} {es es' : List (Event Host)}

/-- The address that an event asks for. -/
def url? : Event Host → Option String
  | ⟨.web request, _⟩ => some request.url
  | _ => none

/-- The addresses that were asked for, in their order. -/
def requestedUrls (es : List (Event Host)) : List String :=
  es.filterMap url?

@[simp] lemma requestedUrls_append :
    requestedUrls (es ++ es') = requestedUrls es ++ requestedUrls es' :=
  List.filterMap_append

/-- What web services answer depends only on the address. -/
def AnsweredByUrl (web : String → Except Fault WebResponse) (es : List (Event Host)) : Prop :=
  ∀ request (y : Except Fault WebResponse), ⟨.web request, y⟩ ∈ es → y = web request.url

lemma AnsweredByUrl.of_cons {e : Event Host} (h : AnsweredByUrl web (e :: es)) :
    AnsweredByUrl web es :=
  fun request y hy => h request y (List.mem_cons_of_mem _ hy)

lemma answeredByUrl_append_iff :
    AnsweredByUrl web (es ++ es') ↔ AnsweredByUrl web es ∧ AnsweredByUrl web es' := by
  constructor
  · intro h
    exact ⟨fun request y hy => h request y (List.mem_append_left _ hy),
      fun request y hy => h request y (List.mem_append_right _ hy)⟩
  · rintro ⟨h, h'⟩ request y hy
    exact (List.mem_append.1 hy).elim (h request y) (h' request y)

lemma answeredByUrl_trace {order : (count : Nat) → FinishingOrder count} {p : Program Host α} :
    AnsweredByUrl web (p.trace (onWeb web order) ()) := by
  induction p with
  | done a => exact fun _ _ h => nomatch h
  | ask c next ih =>
    intro request y hy
    rcases List.mem_cons.1 hy with h | h
    · cases h
      rfl
    · exact ih _ request y h

/-- Any two runs of the programs in which web services answer alike end alike and ask alike. -/
def Agree (web : String → Except Fault WebResponse) (p q : Program Host α) : Prop :=
  ∀ es es' a a', Runs p es a → Runs q es' a' → AnsweredByUrl web es → AnsweredByUrl web es' →
    a = a' ∧ requestedUrls es = requestedUrls es'

namespace Agree

lemma done {a : α} : Agree web (.done a) (.done a) := by
  intro es es' b b' run run' _ _
  obtain ⟨rfl, rfl⟩ := Runs.done_iff.1 run
  obtain ⟨rfl, rfl⟩ := Runs.done_iff.1 run'
  exact ⟨rfl, rfl⟩

lemma bind {p q : Program Host α} {f g : α → Program Host β} (first : Agree web p q)
    (rest : ∀ a, Agree web (f a) (g a)) : Agree web (p >>= f) (q >>= g) := by
  intro es es' b b' run run' answered answered'
  obtain ⟨es₁, es₂, a, rfl, run₁, run₂⟩ := runs_bind_iff.1 run
  obtain ⟨es₁', es₂', a', rfl, run₁', run₂'⟩ := runs_bind_iff.1 run'
  rw [answeredByUrl_append_iff] at answered answered'
  -- the first parts end alike, so that the rests are runs of programs that agree
  obtain ⟨rfl, urls⟩ := first _ _ _ _ run₁ run₁' answered.1 answered'.1
  obtain ⟨rfl, urls'⟩ := rest a _ _ _ _ run₂ run₂' answered.2 answered'.2
  rw [requestedUrls_append, requestedUrls_append, urls, urls']
  exact ⟨rfl, rfl⟩

lemma run_bind {p q : Act ε α} {f g : α → Act ε β} (first : Agree web p.run q.run)
    (rest : ∀ a, Agree web (f a).run (g a).run) : Agree web (p >>= f).run (q >>= g).run := by
  rw [ExceptT.run_bind, ExceptT.run_bind]
  refine bind first fun x => ?_
  cases x with
  | error e => exact done
  | ok a => exact rest a

lemma run_orElse {f : ε' → ε} {x : Except ε' α} :
    Agree web (Act.orElse f x).run (Act.orElse f x).run := by
  cases x with
  | error e => exact done
  | ok a => exact done

lemma run_withError {f : ε' → ε} {p q : Act ε' α} (h : Agree web p.run q.run) :
    Agree web (Act.withError f p).run (Act.withError f q).run := by
  intro es es' r r' run run' answered answered'
  obtain ⟨x, hx, rfl⟩ := Act.runs_withError_iff.1 run
  obtain ⟨x', hx', rfl⟩ := Act.runs_withError_iff.1 run'
  obtain ⟨rfl, urls⟩ := h _ _ _ _ hx hx' answered answered'
  exact ⟨rfl, urls⟩

/-- The answer of a web service is that of its address. -/
lemma run_web {request : WebRequest} : Agree web
    (Act.ask (.web request) : Act ε (Host.Answer (.web request))).run
    (Act.ask (.web request) : Act ε (Host.Answer (.web request))).run := by
  intro es es' r r' run run' answered answered'
  obtain ⟨y, rfl, rfl⟩ := Act.runs_ask_iff.1 run
  obtain ⟨y', rfl, rfl⟩ := Act.runs_ask_iff.1 run'
  have hy : y = web request.url := answered request y List.mem_cons_self
  have hy' : y' = web request.url := answered' request y' List.mem_cons_self
  rw [hy, hy']
  exact ⟨rfl, rfl⟩

/-- What is told to the operator is neither asked nor answered. -/
lemma run_say {line line' : String} :
    Agree web (Act.say line : Act ε Unit).run (Act.say line' : Act ε Unit).run := by
  intro es es' r r' run run' _ _
  obtain ⟨⟨⟩, rfl, rfl⟩ := Act.runs_ask_iff.1 run
  obtain ⟨⟨⟩, rfl, rfl⟩ := Act.runs_ask_iff.1 run'
  exact ⟨rfl, rfl⟩

/-- Two clocks may tell different times, if what follows agrees for all of them. -/
lemma run_clock_bind {f g : Nat → Act ε β} (rest : ∀ t t', Agree web (f t).run (g t').run) :
    Agree web (Act.ask .clock >>= f : Act ε β).run (Act.ask .clock >>= g : Act ε β).run := by
  intro es es' r r' run run' answered answered'
  obtain ⟨t, later, rfl, rest₁⟩ := Act.runs_ask_bind_iff.1 run
  obtain ⟨t', later', rfl, rest₁'⟩ := Act.runs_ask_bind_iff.1 run'
  exact rest t t' later later' r r' rest₁ rest₁' answered.of_cons answered'.of_cons

lemma run_mapM {f : α → Act ε β} {as : List α} (h : ∀ a, Agree web (f a).run (f a).run) :
    Agree web (as.mapM f).run (as.mapM f).run := by
  induction as with
  | nil => exact done
  | cons a as ih =>
    rw [List.mapM_cons]
    exact run_bind (h a) fun b => run_bind ih fun bs => done

end Agree
end StakeRegistry.Host
