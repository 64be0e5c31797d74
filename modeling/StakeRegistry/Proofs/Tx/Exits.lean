/-
What a run of several transactions leaves of the allocator.

Every turn of a run does one thing to the count of the allocator (`Turn.Marked`), and a turn that
fails makes the allocator forget it. So what the run leaves is told by how it ended (`Exits`): if
every turn obtained a receipt, then it leaves the nonce after the last one, no matter whether the
transaction of the last turn succeeded, whether its block could be told or whether its report
failed; if the last turn obtained none, then it leaves nothing.

The main statement is `Batch.exists_sentFrom`, about the runs of at least one transaction. It is an
induction on the turns (`Batch.exists_marks`), in which the count is that of the marks so far.
-/
import StakeRegistry.Proofs.Tx.Count
import StakeRegistry.Proofs.Tx.NonceDiscipline

namespace StakeRegistry.Tx

variable {ω : Type} {s : Submitter} {intent : Intent ω} {report : Report ω} {index : Nat}
  {intents : List (Intent ω)} {a a' : Allocator} {xs ys : List (Exchange ω)} {t : Turn ω}
  {ts : List (Turn ω)} {m : Mark} {ms : List Mark}

/-! ### Questions for a nonce -/

/-- For which account a nonce was asked, with the answer, if the exchange is such a question. -/
@[simp] def Exchange.nonceQuestion? : Exchange ω → Option (String × Except Fault Int)
  | pendingNonce address answer => some (address, answer)
  | _ => none

/-- The questions for a nonce among the exchanges, in their order. -/
def nonceQuestions (xs : List (Exchange ω)) : List (String × Except Fault Int) :=
  xs.filterMap Exchange.nonceQuestion?

@[simp] lemma nonceQuestions_append :
    nonceQuestions (xs ++ ys) = nonceQuestions xs ++ nonceQuestions ys :=
  List.filterMap_append

lemma nonceQuestions_eq_nil (h : ¬ AsksNonce xs) : nonceQuestions xs = [] := by
  refine List.filterMap_eq_nil_iff.2 fun x hx => ?_
  cases x with
  | pendingNonce address answer => exact absurd ⟨address, answer, hx⟩ h
  | _ => rfl

/-! ### One nonce -/

/-- How a nonce is handed out: which mark it is, what is asked for it, and what the allocator knows
afterwards. -/
structure Allocated (a : Allocator) (xs : List (Exchange ω)) (r : Except BatchError Int)
    (a' : Allocator) (m : Mark) : Prop where
  fits : m.Fits a.next
  ne_forgotten : m ≠ .forgotten
  asked : xs = m.answer?.toList.map (.pendingNonce a.address)
  after : a' = { a with next := m.leaves }
  result : (∃ n, m.nonce? = some n ∧ r = .ok n) ∨ ∃ f, m = .untold f ∧ r = .error (.fault f)

lemma Allocates.exists_mark {r : Except BatchError Int} (h : Allocates a xs r a') :
    ∃ m, Allocated a xs r a' m := by
  cases h with
  | @known n next =>
    refine ⟨.counted n, next, by simp, rfl, rfl, ?_⟩
    exact .inl ⟨n, rfl, rfl⟩
  | @asked n next =>
    refine ⟨.told n, next, by simp, rfl, rfl, ?_⟩
    exact .inl ⟨n, rfl, rfl⟩
  | @failed f next =>
    have after : a = { a with next := none } := by rw [← next]
    refine ⟨.untold f, next, by simp, rfl, after, ?_⟩
    exact .inr ⟨f, rfl, rfl⟩

/-- The questions for a nonce are those of the mark. -/
lemma Allocated.nonceQuestions_eq {r : Except BatchError Int} (h : Allocated a xs r a' m) :
    nonceQuestions xs = m.answer?.toList.map (a.address, ·) := by
  rw [h.asked]
  cases m <;> rfl

/-! ### One turn -/

/-- What a turn does to the count: it hands out one nonce and submits at it, or it is not told one
and does nothing else. -/
structure Turn.Marked (address : String) (t : Turn ω) (m : Mark) : Prop where
  ne_forgotten : m ≠ .forgotten
  /-- The turn asks for a nonce exactly if the mark does. -/
  questions : nonceQuestions t.own = m.answer?.toList.map (address, ·)
  submits : ∀ {n}, m.nonce? = some n → SubmitsAt t.intent n t.own
  untold : ∀ {f}, m = .untold f →
    t.own = [.pendingNonce address (.error f)] ∧ t.outcome = .error (.fault f)

/-- A turn that obtained a receipt had a nonce. -/
lemma Turn.Marked.exists_nonce {address : String} {receipt : Receipt} (h : t.Marked address m)
    (outcome : t.outcome = .ok receipt) : ∃ n, m.nonce? = some n := by
  cases m with
  | told n => exact ⟨n, rfl⟩
  | counted n => exact ⟨n, rfl⟩
  | untold f =>
    have failed := (h.untold rfl).2
    simp [outcome] at failed
  | forgotten => exact absurd rfl h.ne_forgotten

lemma Takes.exists_mark (h : Takes s t.intent a t.own t.outcome a') :
    ∃ m, t.Marked a.address m ∧ m.Fits a.next ∧ a' = { a with next := m.leaves } := by
  rcases h.exists_allocates with
    ⟨e, outcome, allocates⟩ | ⟨ys, zs, n, hown, allocates, submits, none⟩
  · -- no nonce was told, and the turn ended with this
    obtain ⟨m, allocated⟩ := allocates.exists_mark
    rcases allocated.result with ⟨n, -, hr⟩ | ⟨f, rfl, hr⟩
    · cases hr
    refine ⟨.untold f, ?_, allocated.fits, allocated.after⟩
    constructor
    case ne_forgotten => exact allocated.ne_forgotten
    case questions => exact allocated.nonceQuestions_eq
    case submits =>
      rintro n hn
      simp [Mark.nonce?] at hn
    case untold =>
      rintro f' hf
      obtain rfl : f = f' := by simpa using hf
      obtain rfl : e = .fault f := by simpa using hr
      exact ⟨allocated.asked, outcome⟩
  · -- the rest of the turn submits at the nonce and asks for no other one
    obtain ⟨m, allocated⟩ := allocates.exists_mark
    rcases allocated.result with ⟨n', nonce, hr⟩ | ⟨f, -, hr⟩
    swap
    · cases hr
    obtain rfl : n = n' := by simpa using hr
    refine ⟨m, ?_, allocated.fits, allocated.after⟩
    constructor
    case ne_forgotten => exact allocated.ne_forgotten
    case questions =>
      rw [hown, nonceQuestions_append, nonceQuestions_eq_nil none, List.append_nil]
      exact allocated.nonceQuestions_eq
    case submits =>
      rintro n' hn'
      obtain rfl : n = n' := by simpa [nonce] using hn'
      have asking : SubmitsAt t.intent n ys := by
        refine submitsAt_of_submissions_eq_nil ?_
        rw [allocated.asked]
        cases m <;> rfl
      rw [hown]
      exact asking.append submits
    case untold =>
      rintro f rfl
      simp [Mark.nonce?] at nonce

/-! ### All turns -/

/-- A turn that obtained no receipt makes the allocator forget its count. -/
def Turn.resets (t : Turn ω) : List Mark :=
  match t.outcome with
  | .ok _ => []
  | .error _ => [.forgotten]

lemma Turn.leaves_eq (t : Turn ω) (a : Allocator) :
    t.leaves a = { a with next := leftBy a.next t.resets } := by
  unfold Turn.leaves Turn.resets
  cases t.outcome <;> rfl

/-- What the last turn does to the count after it failed. -/
def resetsAfter (ts : List (Turn ω)) : List Mark :=
  ts.getLast?.elim [] Turn.resets

@[simp] lemma resetsAfter_nil : resetsAfter ([] : List (Turn ω)) = [] := rfl

@[simp] lemma resetsAfter_concat : resetsAfter (ts ++ [t]) = t.resets := by
  simp [resetsAfter]

/-- A turn that was completed does nothing more to the count. -/
lemma resetsAfter_cons {receipt : Receipt} (outcome : t.outcome = .ok receipt) :
    resetsAfter (t :: ts) = resetsAfter ts := by
  rcases List.eq_nil_or_concat' ts with rfl | ⟨earlier, last, rfl⟩
  · simp [resetsAfter, Turn.resets, outcome]
  · rw [← List.cons_append, resetsAfter_concat, resetsAfter_concat]

/-- The allocator keeps its count along the turns, and the last one may forget it. -/
lemma Batch.exists_marks {r : Except BatchError (List Receipt)}
    (h : Batch s report index intents a ts r a') :
    ∃ ms, List.Forall₂ (Turn.Marked a.address) ts ms ∧ Keeps a.next (ms ++ resetsAfter ts) ∧
      a' = { a with next := leftBy a.next (ms ++ resetsAfter ts) } := by
  induction h with
  | nil => exact ⟨[], .nil, by simp, rfl⟩
  | @stopped index t rest a a' e turn reports stops =>
    -- the last turn: its own mark, and the one that its failure adds
    obtain ⟨m, marked, fits, rfl⟩ := (takes_of_asks turn).exists_mark
    have resets : resetsAfter ([] ++ [t]) = t.resets := resetsAfter_concat
    rw [List.nil_append] at resets
    have keeps : Keeps m.leaves t.resets := by
      unfold Turn.resets
      cases t.outcome <;> simp [Mark.Fits]
    refine ⟨[m], .cons marked .nil, ?_, ?_⟩
    · rw [resets]
      exact ⟨fits, keeps⟩
    · rw [resets, Turn.leaves_eq]
      rfl
  | @completed index t rest a a' a'' receipt ts r turn reports completed outcome others ih =>
    obtain ⟨m, marked, fits, rfl⟩ := (takes_of_asks turn).exists_mark
    obtain ⟨ms, all, keeps, rfl⟩ := ih
    refine ⟨m :: ms, .cons marked all, ?_, ?_⟩
    · rw [resetsAfter_cons outcome]
      exact ⟨fits, keeps⟩
    · rw [resetsAfter_cons outcome]
      rfl

/-- Each nonce of the turns is the one after that of the turn before. -/
def NoncesFrom (first : Int) (ms : List Mark) : Prop :=
  ∀ (i : Nat) (m : Mark) (n : Int), ms[i]? = some m → m.nonce? = some n → n = first + i

/-- From a known nonce on, marks that forget nothing count on. -/
lemma Keeps.noncesFrom {n : Int} (h : Keeps (some n) ms) (kept : ∀ m ∈ ms, m ≠ .forgotten) :
    NoncesFrom n ms := by
  induction ms generalizing n with
  | nil =>
    intro i m k hi
    simp at hi
  | cons m ms ih =>
    obtain ⟨fits, later⟩ := h
    -- a nonce is known, so that nothing is asked
    have hm : m = .counted n := by
      cases m with
      | told k => simp [Mark.Fits] at fits
      | counted k => simpa [Mark.Fits] using fits.symm
      | untold f => simp [Mark.Fits] at fits
      | forgotten => exact absurd rfl (kept .forgotten (by simp))
    subst hm
    rw [Mark.leaves_counted] at later
    have later' := ih later fun m hm => kept m (List.mem_cons_of_mem _ hm)
    intro i m k hi hk
    cases i with
    | zero =>
      obtain rfl : Mark.counted n = m := by simpa using hi
      obtain rfl : n = k := by simpa [Mark.nonce?] using hk
      simp
    | succ i =>
      have h := later' i m k (by simpa using hi) hk
      push_cast
      omega

/-- The marks of the turns of a run have consecutive nonces. -/
lemma Batch.exists_noncesFrom {r : Except BatchError (List Receipt)}
    (h : Batch s report index intents a ts r a') (all : List.Forall₂ (Turn.Marked a.address) ts ms)
    (keeps : Keeps a.next ms) : ∃ first, NoncesFrom first ms := by
  cases all with
  | nil =>
    refine ⟨0, ?_⟩
    intro i m n hi
    simp at hi
  | @cons t m ts ms marked others =>
    have kept : ∀ m ∈ ms, m ≠ .forgotten := by
      intro m hm
      obtain ⟨i, hi, rfl⟩ := List.mem_iff_getElem.1 hm
      exact (others.get (others.length_eq ▸ hi) hi).ne_forgotten
    obtain ⟨-, later⟩ := keeps
    cases hm : m.nonce? with
    | some n =>
      rw [m.leaves_of_nonce? hm] at later
      refine ⟨n, ?_⟩
      intro i m' k hi hk
      cases i with
      | zero =>
        obtain rfl : m = m' := by simpa using hi
        obtain rfl : n = k := by simpa [hm] using hk
        simp
      | succ i =>
        have h := later.noncesFrom kept i m' k (by simpa using hi) hk
        push_cast
        omega
    | none =>
      -- no nonce was told, so that this turn is the only one
      refine ⟨0, ?_⟩
      have lone : ts = [] := by
        by_contra hts
        have completed : t.Completed := h.completed_of_lt 0 t rfl (by
          have := List.length_pos_iff.2 hts
          simpa using this)
        obtain ⟨receipt, outcome, -⟩ := completed
        obtain ⟨n, hn⟩ := marked.exists_nonce outcome
        simp [hm] at hn
      subst lone
      cases others
      intro i m' k hi hk
      obtain ⟨rfl, rfl⟩ : i = 0 ∧ m = m' := by simpa [List.getElem?_singleton] using hi
      simp [hm] at hk

/-! ### Ends of a run -/

/-- How a run of at least one transaction ended: how many of its transactions obtained a receipt,
its result, and the next nonce that it left. -/
inductive Exits (first : Int) (ts : List (Turn ω)) :
    Nat → Except BatchError (List Receipt) → Option Int → Prop where
  /-- Every transaction obtained a receipt, and the run returned them. -/
  | returned {receipts : List Receipt} (receipts_eq : ts.map Turn.outcome = receipts.map .ok)
      (completed : ∀ t ∈ ts, t.Completed) :
      Exits first ts ts.length (.ok receipts) (some (first + ts.length))
  /-- The block of the last receipt cannot be told. -/
  | unwritable {earlier : List (Turn ω)} {t : Turn ω} {receipt : Receipt}
      (turns : ts = earlier ++ [t]) (completed : ∀ t' ∈ earlier, t'.Completed)
      (outcome : t.outcome = .ok receipt)
      (unwritable : Numeral.isWritable receipt.blockNumber = false) (reported : t.reported = none) :
      Exits first ts ts.length (.error (.unwritable receipt.blockNumber)) (some (first + ts.length))
  /-- The last receipt was that of a transaction that failed. -/
  | reverted {earlier : List (Turn ω)} {t : Turn ω} {receipt : Receipt}
      (turns : ts = earlier ++ [t]) (completed : ∀ t' ∈ earlier, t'.Completed)
      (outcome : t.outcome = .ok receipt) (writable : Numeral.isWritable receipt.blockNumber = true)
      (status : receipt.status ≠ 1) :
      Exits first ts ts.length (.error (.reverted ts.length t.intent.description receipt))
        (some (first + ts.length))
  /-- The report of the last receipt failed. -/
  | notReported {earlier : List (Turn ω)} {t : Turn ω} {receipt : Receipt} {f : Fault}
      (turns : ts = earlier ++ [t]) (completed : ∀ t' ∈ earlier, t'.Completed)
      (outcome : t.outcome = .ok receipt)
      (writable : Numeral.isWritable receipt.blockNumber = true) (status : receipt.status = 1)
      (reported : t.reported = some (.error f)) :
      Exits first ts ts.length (.error (.fault f)) (some (first + ts.length))
  /-- The nonce, the fees or the receipt of the last transaction were not obtained. -/
  | notSubmitted {earlier : List (Turn ω)} {t : Turn ω} {e : BatchError}
      (turns : ts = earlier ++ [t]) (completed : ∀ t' ∈ earlier, t'.Completed)
      (outcome : t.outcome = .error e) :
      Exits first ts earlier.length (.error e) none

/-- A run of at least one transaction by its turns, their marks, its first nonce and the number of
its receipts. -/
structure SentFrom (s : Submitter) (report : Report ω) (intents : List (Intent ω)) (a : Allocator)
    (ts : List (Turn ω)) (r : Except BatchError (List Receipt)) (a' : Allocator) (ms : List Mark)
    (first : Int) (k : Nat) : Prop where
  /-- The turns are those of the first transactions, in their order. -/
  intents_eq : ts.map Turn.intent = intents.take ts.length
  /-- The own part of a turn is a run of the submission of its transaction. -/
  own : ∀ {t}, t ∈ ts → ∃ a₀ a₁, Asks ((submitNext s t.intent).run.run a₀) t.own (t.outcome, a₁)
  /-- What was included and succeeded is reported with its place. -/
  reports : ∀ {i : Nat} {t : Turn ω}, ts[i]? = some t → t.Reports report (i + 1)
  /-- Each turn does one thing to the count. -/
  marked : List.Forall₂ (Turn.Marked a.address) ts ms
  /-- The nonces are handed out one after another. -/
  nonces : NoncesFrom first ms
  /-- The allocator keeps its count, and forgets it after a turn that failed. -/
  keeps : Keeps a.next (ms ++ resetsAfter ts)
  after : a' = { a with next := leftBy a.next (ms ++ resetsAfter ts) }
  exits : Exits first ts k r a'.next

/-- What the turns of a run leave if the last one obtained a receipt. -/
lemma leftBy_of_received {known : Option Int} {first : Int} {receipt : Receipt} {address : String}
    (all : List.Forall₂ (Turn.Marked address) (ts ++ [t]) ms) (nonces : NoncesFrom first ms)
    (outcome : t.outcome = .ok receipt) :
    leftBy known (ms ++ resetsAfter (ts ++ [t])) = some (first + (ts ++ [t]).length) := by
  have length_eq : ms.length = ts.length + 1 := by simpa using all.length_eq.symm
  rcases List.eq_nil_or_concat' ms with rfl | ⟨ms, m, rfl⟩
  · simp at length_eq
  have length_eq : ms.length = ts.length := by simpa using length_eq
  -- the last mark is that of the last turn, which forgets nothing
  have marked : t.Marked address m := by
    have h := all.get (i := ts.length) (by simp) (by simp [length_eq])
    simpa [← length_eq] using h
  obtain ⟨n, nonce⟩ := marked.exists_nonce outcome
  have hn : n = first + ms.length := nonces ms.length m n (by simp) nonce
  rw [resetsAfter_concat, Turn.resets, outcome, List.append_nil, leftBy_concat,
    m.leaves_of_nonce? nonce, hn, length_eq, List.length_append]
  simp [Int.add_assoc]

lemma leftBy_of_failed {known : Option Int} {e : BatchError} (outcome : t.outcome = .error e) :
    leftBy known (ms ++ resetsAfter (ts ++ [t])) = none := by
  rw [resetsAfter_concat, Turn.resets, outcome]
  exact leftBy_concat

lemma Batch.completed_of_concat {r : Except BatchError (List Receipt)}
    (h : Batch s report index intents a (ts ++ [t]) r a') : ∀ t' ∈ ts, t'.Completed := by
  intro t' ht'
  obtain ⟨i, hi, rfl⟩ := List.mem_iff_getElem.1 ht'
  refine h.completed_of_lt i ts[i] ?_ ?_
  · rw [List.getElem?_append_left hi, List.getElem?_eq_getElem hi]
  · simpa using hi

lemma Batch.exits {r : Except BatchError (List Receipt)} {first : Int}
    (h : Batch s report 1 intents a ts r a') (ne_nil : intents ≠ [])
    (all : List.Forall₂ (Turn.Marked a.address) ts ms) (nonces : NoncesFrom first ms)
    (after : a' = { a with next := leftBy a.next (ms ++ resetsAfter ts) }) :
    ∃ k, Exits first ts k r a'.next := by
  cases r with
  | ok receipts =>
    obtain ⟨outcomes, length_eq, completed⟩ := h.of_ok rfl
    rcases List.eq_nil_or_concat' ts with rfl | ⟨earlier, t, rfl⟩
    · exact absurd (List.length_eq_zero_iff.1 length_eq.symm) ne_nil
    obtain ⟨receipt, outcome, -⟩ := completed t (by simp)
    have next : a'.next = some (first + (earlier ++ [t]).length) := by
      rw [after]
      exact leftBy_of_received all nonces outcome
    rw [next]
    exact ⟨_, .returned outcomes completed⟩
  | error e =>
    obtain ⟨earlier, t, rfl, stops⟩ := h.of_error rfl
    have completed := h.completed_of_concat
    have place : 1 + earlier.length = (earlier ++ [t]).length := by
      simp [Nat.add_comm]
    rw [place] at stops
    have received : ∀ {receipt}, t.outcome = .ok receipt →
        a'.next = some (first + (earlier ++ [t]).length) := by
      intro receipt outcome
      rw [after]
      exact leftBy_of_received all nonces outcome
    cases stops with
    | failed outcome notReverted =>
      have next : a'.next = none := by
        rw [after]
        exact leftBy_of_failed outcome
      rw [next]
      exact ⟨_, .notSubmitted rfl completed outcome⟩
    | unwritable outcome unwritable reported =>
      rw [received outcome]
      exact ⟨_, .unwritable rfl completed outcome unwritable reported⟩
    | reverted outcome writable status =>
      rw [received outcome]
      exact ⟨_, .reverted rfl completed outcome writable status⟩
    | notReported outcome writable status reported =>
      rw [received outcome]
      exact ⟨_, .notReported rfl completed outcome writable status reported⟩

/-- Every run of at least one transaction, by what it leaves. -/
theorem Batch.exists_sentFrom {r : Except BatchError (List Receipt)}
    (h : Batch s report 1 intents a ts r a') (ne_nil : intents ≠ []) :
    ∃ ms first k, SentFrom s report intents a ts r a' ms first k := by
  obtain ⟨ms, marked, keeps, after⟩ := h.exists_marks
  obtain ⟨first, nonces⟩ := h.exists_noncesFrom marked (keeps_append_iff.1 keeps).1
  obtain ⟨k, exits⟩ := h.exits ne_nil marked nonces after
  refine ⟨ms, first, k, ?_⟩
  constructor
  case intents_eq => exact h.intents_eq
  case own => exact fun ht => h.own _ ht
  case reports =>
    intro i t ht
    rw [Nat.add_comm]
    exact h.reports i t ht
  case marked => exact marked
  case nonces => exact nonces
  case keeps => exact keeps
  case after => exact after
  case exits => exact exits

end StakeRegistry.Tx
