/-
The count of an allocator.

A `Mark` is one thing that an allocator did: it handed out a nonce, which the node told it or which
it had counted to, it was not told a nonce, or it forgot its count. `Keeps c ms` says that the marks
`ms` can follow one another if `c` is the next nonce at first. What is known after some marks is
decided by the last of them (`leftBy`). Hence, for marks that keep the count:

* the node is asked exactly if nothing came before and nothing was known, or if the mark before left
  nothing (`Keeps.asks_iff`);
* a nonce that was not asked for is the one after that of the mark before (`Keeps.counted`);
* nonces between which the node is not asked are consecutive (`Keeps.consecutive`).
-/
import Mathlib.Data.List.Basic
import Mathlib.Tactic.Lemma
import StakeRegistry.Fault

namespace StakeRegistry.Tx

/-- What an allocator did. -/
inductive Mark where
  /-- The node was asked, and the nonce that it told was handed out. -/
  | told (nonce : Int)
  /-- The nonce was handed out without a question. -/
  | counted (nonce : Int)
  /-- The node was asked and did not tell a nonce. -/
  | untold (f : Fault)
  /-- The count was forgotten. -/
  | forgotten
  deriving Repr, DecidableEq

namespace Mark

/-- The nonce that was handed out. -/
def nonce? : Mark → Option Int
  | told n => some n
  | counted n => some n
  | untold _ => none
  | forgotten => none

/-- The answer of the node, if it was asked. -/
def answer? : Mark → Option (Except Fault Int)
  | told n => some (.ok n)
  | counted _ => none
  | untold f => some (.error f)
  | forgotten => none

/-- The next nonce afterwards, if it is known. -/
def leaves (m : Mark) : Option Int :=
  m.nonce?.map (· + 1)

/-- The node is asked exactly if the next nonce is not known. -/
def Fits (known : Option Int) : Mark → Prop
  | told _ => known = none
  | counted n => known = some n
  | untold _ => known = none
  | forgotten => True

@[simp] lemma leaves_told (n : Int) : (told n).leaves = some (n + 1) := rfl

@[simp] lemma leaves_counted (n : Int) : (counted n).leaves = some (n + 1) := rfl

@[simp] lemma leaves_untold (f : Fault) : (untold f).leaves = none := rfl

@[simp] lemma leaves_forgotten : forgotten.leaves = none := rfl

/-- A mark after which nothing is known hands out no nonce. -/
lemma leaves_eq_none_iff {m : Mark} : m.leaves = none ↔ m = forgotten ∨ ∃ f, m = untold f := by
  cases m <;> simp

lemma leaves_eq_some_iff {m : Mark} {n : Int} : m.leaves = some n ↔ m.nonce? = some (n - 1) := by
  rw [leaves, Option.map_eq_some_iff]
  constructor
  · rintro ⟨k, hk, rfl⟩
    simpa using hk
  · intro h
    exact ⟨n - 1, h, by omega⟩

/-- What comes next after a nonce was handed out is the nonce after it. -/
lemma leaves_of_nonce? {m : Mark} {n : Int} (h : m.nonce? = some n) : m.leaves = some (n + 1) := by
  simp [leaves, h]

/-- A nonce is asked for exactly if none is known. -/
lemma Fits.asks_iff {known : Option Int} {m : Mark} (h : m.Fits known) (hm : m ≠ forgotten) :
    m.answer?.isSome ↔ known = none := by
  cases m with
  | told n => simpa [answer?, Fits] using h
  | counted n =>
    obtain rfl : known = some n := h
    simp [answer?]
  | untold f => simpa [answer?, Fits] using h
  | forgotten => exact absurd rfl hm

/-- A mark that hands out a nonce without asking counts on. -/
lemma Fits.counts {known : Option Int} {m : Mark} {n : Int} (h : m.Fits known)
    (nonce : m.nonce? = some n) (quiet : m.answer? = none) : m = counted n ∧ known = some n := by
  cases m with
  | told k => simp [answer?] at quiet
  | counted k =>
    obtain rfl : k = n := by simpa [nonce?] using nonce
    exact ⟨rfl, h⟩
  | untold f => simp [nonce?] at nonce
  | forgotten => simp [nonce?] at nonce

end Mark

variable {known : Option Int} {ms before mid after : List Mark} {m m' : Mark}

/-- What is known after some marks. -/
def leftBy (known : Option Int) (ms : List Mark) : Option Int :=
  ms.foldl (fun _ m => m.leaves) known

@[simp] lemma leftBy_nil : leftBy known [] = known := rfl

@[simp] lemma leftBy_cons : leftBy known (m :: ms) = leftBy m.leaves ms := rfl

@[simp] lemma leftBy_append : leftBy known (before ++ after) = leftBy (leftBy known before) after :=
  List.foldl_append

/-- The last mark decides what is known. -/
lemma leftBy_concat : leftBy known (before ++ [m]) = m.leaves := by
  simp

/-- The marks follow one another, a nonce being known at first or not. -/
def Keeps : Option Int → List Mark → Prop
  | _, [] => True
  | known, m :: ms => m.Fits known ∧ Keeps m.leaves ms

@[simp] lemma keeps_nil : Keeps known [] := trivial

@[simp] lemma keeps_cons : Keeps known (m :: ms) ↔ m.Fits known ∧ Keeps m.leaves ms := Iff.rfl

lemma keeps_append_iff :
    Keeps known (before ++ after) ↔ Keeps known before ∧ Keeps (leftBy known before) after := by
  induction before generalizing known with
  | nil => simp
  | cons m before ih =>
    rw [List.cons_append, keeps_cons, ih, keeps_cons, leftBy_cons, and_assoc]

namespace Keeps

lemma fits (h : Keeps known (before ++ m :: after)) : m.Fits (leftBy known before) :=
  (keeps_append_iff.1 h).2.1

/-- The node is asked for a nonce exactly at first if none is known, after the count was forgotten,
and after it did not tell one. -/
lemma asks_iff (h : Keeps known (before ++ m :: after)) (hm : m ≠ .forgotten) :
    m.answer?.isSome ↔ (before = [] ∧ known = none) ∨
      ∃ earlier last, before = earlier ++ [last] ∧ (last = .forgotten ∨ ∃ f, last = .untold f) := by
  rw [h.fits.asks_iff hm]
  rcases List.eq_nil_or_concat' before with rfl | ⟨earlier, last, rfl⟩
  · simp
  · rw [leftBy_concat, Mark.leaves_eq_none_iff]
    constructor
    · intro hl
      exact .inr ⟨earlier, last, rfl, hl⟩
    · rintro (⟨hb, -⟩ | ⟨earlier', last', hb, hl⟩)
      · simp at hb
      · obtain ⟨-, hlast⟩ := List.append_inj' hb rfl
        obtain rfl : last = last' := by simpa using hlast
        exact hl

/-- A nonce that was not asked for is the one that was known at first, or the one after that of the
mark before. -/
lemma counted {n : Int} (h : Keeps known (before ++ .counted n :: after)) :
    (before = [] ∧ known = some n) ∨
      ∃ earlier last, before = earlier ++ [last] ∧ last.nonce? = some (n - 1) := by
  have hn : leftBy known before = some n := h.fits
  rcases List.eq_nil_or_concat' before with rfl | ⟨earlier, last, rfl⟩
  · exact .inl ⟨rfl, hn⟩
  · rw [leftBy_concat] at hn
    exact .inr ⟨earlier, last, rfl, Mark.leaves_eq_some_iff.1 hn⟩

/-- If nothing is known and the node is not asked, no nonce is handed out. -/
lemma eq_forgotten_of_quiet (h : Keeps none ms) (quiet : ∀ m ∈ ms, m.answer? = none) :
    ∀ m ∈ ms, m = .forgotten := by
  induction ms with
  | nil => simp
  | cons m ms ih =>
    obtain ⟨fits, later⟩ := h
    -- any other mark would ask, since nothing is known
    have hm : m = .forgotten := by
      by_contra hm
      have asks := (fits.asks_iff hm).2 rfl
      simp [quiet m (by simp)] at asks
    subst hm
    have forgotten := ih later fun m hm => quiet m (by simp [hm])
    simpa using forgotten

/-- From a known nonce on, as long as the node is not asked, every mark counts on. -/
lemma counts_on {n n' : Int} (h : Keeps (some n) (mid ++ m' :: after))
    (nonce' : m'.nonce? = some n') (quiet : ∀ x ∈ mid ++ [m'], x.answer? = none) :
    n' = n + mid.length ∧ ∀ (i : Nat) x, mid[i]? = some x → x = .counted (n + i) := by
  -- along the marks in between, of which each leaves another nonce
  induction mid generalizing n with
  | nil =>
    obtain ⟨-, hn⟩ := h.1.counts nonce' (quiet m' (by simp))
    obtain rfl : n = n' := by simpa using hn
    exact ⟨by simp, by simp⟩
  | cons x mid ih =>
    obtain ⟨fits, later⟩ := h
    have quietx : x.answer? = none := quiet x (by simp)
    have quiet' : ∀ y ∈ mid ++ [m'], y.answer? = none :=
      fun y hy => quiet y (List.mem_cons_of_mem x hy)
    cases x with
    | told k => simp [Mark.answer?] at quietx
    | untold f => simp [Mark.answer?] at quietx
    | forgotten =>
      -- nothing is known any more, and the last mark would have to ask
      have later' : Keeps none ((mid ++ [m']) ++ after) := by simpa using later
      obtain rfl := (keeps_append_iff.1 later').1.eq_forgotten_of_quiet quiet' m' (by simp)
      simp [Mark.nonce?] at nonce'
    | counted k =>
      obtain rfl : n = k := by simpa [Mark.Fits] using fits
      obtain ⟨hn, hi⟩ := ih later quiet'
      refine ⟨?_, fun i y hy => ?_⟩
      · rw [hn, List.length_cons]
        push_cast
        omega
      · cases i with
        | zero =>
          obtain rfl : Mark.counted n = y := by simpa using hy
          simp
        | succ i =>
          rw [hi i y (by simpa using hy)]
          congr 1
          push_cast
          omega

/-- Without a question, each nonce is the one after that before: the nonces are handed out one after
another, none twice and none left out. -/
lemma consecutive {n n' : Int} (h : Keeps known (before ++ m :: (mid ++ m' :: after)))
    (nonce : m.nonce? = some n) (nonce' : m'.nonce? = some n')
    (quiet : ∀ x ∈ mid ++ [m'], x.answer? = none) :
    n' = n + 1 + mid.length ∧ ∀ (i : Nat) x, mid[i]? = some x → x = .counted (n + 1 + i) := by
  have later : Keeps m.leaves (mid ++ m' :: after) := (keeps_append_iff.1 h).2.2
  rw [m.leaves_of_nonce? nonce] at later
  exact later.counts_on nonce' quiet

end Keeps
end StakeRegistry.Tx
