/-
Several runs of one account that share an allocator.

The runs take turns in any order, one call at a time (`Advances`). A run holds the nonce that it was
given until its transaction is included or the run fails. The node tells the first nonce at which it
has seen no transaction of the account (`IsPending`), so that an allocator which has forgotten its
count may hand out a nonce that a run still holds.

* `World`: the runs, their allocator, what the node has seen and the nonces that are held;
* `World.Apart`: no two runs hold one nonce;
* `World.Offers w n`: the next nonce to be handed out is `n`;
* `World.Covers`: the node has seen a transaction at each nonce up to those that are held.

The main statement is `nonces_apart`. Its core is that every nonce that is held is less than the
next one, as long as the count is known (`Counted`): what a step can do to either is said once
(`Advances.effect`).
-/
import Mathlib.Algebra.Order.Ring.Int
import Mathlib.Logic.Function.Basic
import Mathlib.Logic.Relation
import Mathlib.Order.Bounds.Basic
import StakeRegistry.Proofs.Tx.Desk
import StakeRegistry.Proofs.Tx.Turns

namespace StakeRegistry.Tx

open Relation

/-- Runs of transactions of one account, at one desk. -/
structure World (ω ι : Type) where
  /-- What is left of each run. -/
  runs : ι → Program (Desk ω) (Except BatchError (List Receipt))
  allocator : Allocator
  /-- The nonces at which the node has seen a transaction of the account. -/
  seen : Set Int
  /-- The nonces that are in progress: the transaction of the run is neither included nor failed. -/
  held : ι → Option Int

/-- The nonce is the first one at which the node has seen no transaction. -/
def IsPending (seen : Set Int) (n : Int) : Prop :=
  IsLeast {m | 0 ≤ m ∧ m ∉ seen} n

variable {ω ι : Type} [DecidableEq ι]

/-- What the node has seen after a call. It may have seen a transaction although the broadcast
failed. -/
def SeenAfter (address : String) (seen : Set Int) :
    (c : Chain.Call ω) → Chain.Answer c → Set Int → Prop
  | .submit _ params, x, seen' =>
    params.sender = address ∧ seen' = insert params.nonce seen ∨
      seen' = seen ∧ (params.sender = address → ∃ f, x = .error f)
  | _, _, seen' => seen' = seen

/-- Does the answer tell that a transaction is included? -/
def tellsIncluded : (c : Chain.Call ω) → Chain.Answer c → Bool
  | .wait _ _, .ok _ => true
  | .receipt _, .ok (some _) => true
  | _, _ => false

namespace World

variable {w w' : World ω ι} {i : ι} {n : Int}

/-- The runs before their first calls. -/
def start (address : String) (seen : Set Int)
    (runs : ι → Program (Desk ω) (Except BatchError (List Receipt))) : World ω ι where
  runs
  allocator := { address }
  seen
  held _ := none

/-- Runs of transactions before their first calls. -/
def ofBatches (address : String) (seen : Set Int) (s : ι → Submitter) (report : ι → Report ω)
    (intents : ι → List (Intent ω)) : World ω ι :=
  start address seen fun i => (shareAll (s i) (report i) (intents i)).run

/-- No two runs hold one nonce. -/
def Apart (w : World ω ι) : Prop :=
  ∀ i j n, w.held i = some n → w.held j = some n → i = j

/-- The node has seen a transaction at each nonce up to those that are held. -/
def Covers (w : World ω ι) : Prop :=
  ∀ i n, w.held i = some n → ∀ m, 0 ≤ m → m ≤ n → m ∈ w.seen

/-- The next nonce to be handed out: it is counted, or the node tells it. -/
def Offers (w : World ω ι) (n : Int) : Prop :=
  w.allocator.next = some n ∨ w.allocator.next = none ∧ IsPending w.seen n

/-- The run takes a nonce next. -/
def Waits (w : World ω ι) (i : ι) : Prop :=
  ∃ next, w.runs i = .ask .allocate next

/-- The allocator has forgotten its count. -/
def Forgets (w w' : World ω ι) : Prop :=
  w.allocator.next ≠ none ∧ w'.allocator.next = none

/-- The node has been asked for the next nonce. -/
def Resyncs (w w' : World ω ι) : Prop :=
  w.allocator.next = none ∧ w'.allocator.next ≠ none

end World

open World

/-- One of the runs makes one call. -/
inductive Advances (w : World ω ι) : World ω ι → Prop where
  /-- The chain is asked. -/
  | chain {i : ι} {c : Chain.Call ω}
      {next : Chain.Answer c → Program (Desk ω) (Except BatchError (List Receipt))}
      {x : Chain.Answer c} {seen : Set Int} (turn : w.runs i = .ask (.chain c) next)
      (sees : SeenAfter w.allocator.address w.seen c x seen) :
      Advances w { w with
        runs := Function.update w.runs i (next x)
        seen
        held := if tellsIncluded c x then Function.update w.held i none else w.held }
  /-- The next nonce is taken, or cannot be told. -/
  | allocate {i : ι}
      {next : Except BatchError Int → Program (Desk ω) (Except BatchError (List Receipt))}
      {xs : List (Exchange ω)} {r : Except BatchError Int} {a : Allocator}
      (turn : w.runs i = .ask .allocate next)
      (allocates : Asks (allocate.run.run w.allocator) xs (r, a))
      (told : ∀ address n, .pendingNonce address (.ok n) ∈ xs → IsPending w.seen n) :
      Advances w { w with
        runs := Function.update w.runs i (next r)
        allocator := a
        held := Function.update w.held i r.toOption }
  /-- The allocator forgets its count. -/
  | reset {i : ι} {next : Unit → Program (Desk ω) (Except BatchError (List Receipt))}
      (turn : w.runs i = .ask .reset next) :
      Advances w { w with
        runs := Function.update w.runs i (next ())
        allocator := w.allocator.reset
        held := Function.update w.held i none }

variable {w w' : World ω ι} {i : ι} {h n : Int}

/-! ### One call -/

lemma held_of_update_none {j : ι} (held : Function.update w.held i none j = some n) :
    w.held j = some n := by
  rw [Function.update_apply] at held
  split_ifs at held
  exact held

/-- A call hands out the next nonce, or no run holds a nonce after it that it did not hold
before. -/
lemma Advances.effect (step : Advances w w') :
    (∃ i n, w.Offers n ∧ w'.held = Function.update w.held i (some n) ∧
      w'.allocator.next = some (n + 1)) ∨
    (w'.allocator.next = w.allocator.next ∨ w'.allocator.next = none) ∧
      ∀ i n, w'.held i = some n → w.held i = some n := by
  cases step with
  | @chain i c next x seen turn sees =>
    refine .inr ⟨.inl rfl, fun j n held => ?_⟩
    dsimp only at held
    split_ifs at held
    · exact held_of_update_none held
    · exact held
  | @allocate i next xs r a turn allocates told =>
    cases allocates_of_asks allocates with
    | @known n next => exact .inl ⟨i, n, .inl next, rfl, rfl⟩
    | @asked n next => exact .inl ⟨i, n, .inr ⟨next, told _ n List.mem_cons_self⟩, rfl, rfl⟩
    | failed next => exact .inr ⟨.inl rfl, fun j n held => held_of_update_none held⟩
  | reset turn => exact .inr ⟨.inr rfl, fun j n held => held_of_update_none held⟩

/-- The nonces that are held are apart, and less than the next one as long as it is counted. -/
structure Counted (w : World ω ι) : Prop where
  apart : w.Apart
  below : ∀ next, w.allocator.next = some next → ∀ i n, w.held i = some n → n < next

omit [DecidableEq ι] in
lemma counted_start {address : String} {seen : Set Int}
    {runs : ι → Program (Desk ω) (Except BatchError (List Receipt))} :
    Counted (start address seen runs) where
  apart _ _ _ held := nomatch held
  below _ next := nomatch next

omit [DecidableEq ι] in
/-- What the node tells is greater than every nonce that is held, if it has seen a transaction at
each of them and before. -/
lemma lt_of_offers (counted : Counted w) (offers : w.Offers n)
    (covers : w.allocator.next = none → w.Covers) :
    ∀ i m, w.held i = some m → m < n := by
  intro i m held
  rcases offers with next | ⟨next, pending⟩
  · exact counted.below n next i m held
  · by_contra le
    exact pending.1.2 (covers next i m held n pending.1.1 (Int.not_lt.1 le))

lemma Counted.step (counted : Counted w) (step : Advances w w') (covers : Resyncs w w' → w.Covers) :
    Counted w' := by
  rcases step.effect with ⟨i, n, offers, held, next⟩ | ⟨next, kept⟩
  · have less := lt_of_offers counted offers fun unknown => covers ⟨unknown, by simp [next]⟩
    constructor
    case apart =>
      intro j k m hj hk
      rw [held, Function.update_apply] at hj hk
      split_ifs at hj hk with first second second
      · rw [first, second]
      · -- the nonce that was handed out is greater than the others
        obtain rfl := Option.some.inj hj
        exact absurd (less k n hk) (Int.lt_irrefl n)
      · obtain rfl := Option.some.inj hk
        exact absurd (less j n hj) (Int.lt_irrefl n)
      · exact counted.apart j k m hj hk
    case below =>
      intro next' known j m hj
      obtain rfl := Option.some.inj (next.symm.trans known)
      rw [held, Function.update_apply] at hj
      split_ifs at hj with own
      · obtain rfl := Option.some.inj hj
        exact Int.lt_add_one_of_le le_rfl
      · exact (less j m hj).trans (Int.lt_add_one_of_le le_rfl)
  · constructor
    case apart => exact fun j k m hj hk => counted.apart j k m (kept j m hj) (kept k m hk)
    case below =>
      intro next' known j m hj
      rcases next with same | forgotten
      · exact counted.below next' (same ▸ known) j m (kept j m hj)
      · cases forgotten.symm.trans known

/-! ### Runs that take turns -/

/-- The runs take turns, and whenever the node is asked for a nonce it has seen a transaction at
each one up to those that are held. -/
def CoveredTurns : World ω ι → World ω ι → Prop :=
  ReflTransGen fun w w' => Advances w w' ∧ (Resyncs w w' → w.Covers)

/-- The runs take turns, and the count is not forgotten. -/
def CountedTurns : World ω ι → World ω ι → Prop :=
  ReflTransGen fun w w' => Advances w w' ∧ ¬ Forgets w w'

lemma Counted.along (counted : Counted w) (turns : CoveredTurns w w') : Counted w' := by
  induction turns with
  | refl => exact counted
  | tail _ step ih => exact ih.step step.1 step.2

/-- As long as the count is not forgotten, nothing is held when the node is asked. -/
lemma CountedTurns.covered (turns : CountedTurns w w')
    (free : w.allocator.next = none → ∀ i, w.held i = none) :
    CoveredTurns w w' ∧ (w'.allocator.next = none → ∀ i, w'.held i = none) := by
  induction turns with
  | refl => exact ⟨.refl, free⟩
  | @tail w₁ w₂ _ step ih =>
    obtain ⟨advances, keeps⟩ := step
    obtain ⟨covered, free⟩ := ih
    have covers : Resyncs w₁ w₂ → w₁.Covers := fun resyncs i n held => by
      rw [free resyncs.1 i] at held
      cases held
    refine ⟨covered.tail ⟨advances, covers⟩, fun unknown i => ?_⟩
    rcases advances.effect with ⟨j, n, -, -, known⟩ | ⟨-, kept⟩
    · cases known.symm.trans unknown
    · have before : w₁.allocator.next = none := by
        by_contra known
        exact keeps ⟨known, unknown⟩
      refine Option.eq_none_iff_forall_ne_some.2 fun n held => ?_
      cases (free before i).symm.trans (kept i n held)

/-! ### Nonces that are handed out again -/

/-- A run that waits for a nonce is given the next one. -/
lemma exists_advances_of_offers {j : ι}
    {next : Except BatchError Int → Program (Desk ω) (Except BatchError (List Receipt))}
    (turn : w.runs j = .ask .allocate next) (offers : w.Offers n) :
    ∃ w', Advances w w' ∧ w'.runs = Function.update w.runs j (next (.ok n)) ∧ w'.seen = w.seen ∧
      w'.held = Function.update w.held j (some n) ∧
      w'.allocator = { w.allocator with next := some (n + 1) } := by
  rcases offers with known | ⟨unknown, pending⟩
  · have step := Advances.allocate turn (Allocates.known known).asks fun _ _ told => nomatch told
    exact ⟨_, step, rfl, rfl, rfl, rfl⟩
  · have step := Advances.allocate turn (Allocates.asked unknown).asks fun address m told => by
      obtain ⟨-, same⟩ := Exchange.pendingNonce.inj (List.mem_singleton.1 told)
      exact Except.ok.inj same ▸ pending
    exact ⟨_, step, rfl, rfl, rfl, rfl⟩

/-- If a run holds a nonce that is not less than the next one, it is handed out again once enough
others have been given a nonce. -/
lemma exists_collision {js : List ι} (held : w.held i = some h) (offers : w.Offers n) (le : n ≤ h)
    (other : i ∉ js) (distinct : js.Nodup) (waits : ∀ j ∈ js, w.Waits j)
    (enough : (h - n).toNat < js.length) : ∃ w', ReflTransGen Advances w w' ∧ ¬ w'.Apart := by
  induction js generalizing w n with
  | nil => cases enough
  | cons j js ih =>
    obtain ⟨ne, other⟩ : i ≠ j ∧ i ∉ js := by simpa using other
    obtain ⟨new, distinct⟩ := List.nodup_cons.1 distinct
    obtain ⟨waitsFirst, waits⟩ := List.forall_mem_cons.1 waits
    obtain ⟨first, turn⟩ := waitsFirst
    obtain ⟨w₁, step, runs, -, held₁, allocator⟩ := exists_advances_of_offers turn offers
    have still : w₁.held i = some h := by rw [held₁, Function.update_of_ne ne, held]
    rcases Int.lt_or_eq_of_le le with less | rfl
    · -- the next run is given a nonce that is nearer to the one that is held
      have waits₁ : ∀ k ∈ js, w₁.Waits k := fun k mem => by
        obtain ⟨f, turn⟩ := waits k mem
        have ne : k ≠ j := fun same => new (same ▸ mem)
        exact ⟨f, by rw [runs, Function.update_of_ne ne, turn]⟩
      rw [List.length_cons] at enough
      obtain ⟨w', turns, collides⟩ :=
        ih still (.inl (by rw [allocator])) less other distinct waits₁ (by omega)
      exact ⟨w', .head step turns, collides⟩
    · refine ⟨w₁, .single step, fun apart => ne (apart i j n still ?_)⟩
      rw [held₁, Function.update_self]

/-- Runs of transactions of one account that share an allocator hold different nonces, as long as it
does not forget its count while the node has yet to see a transaction at a nonce that is held.

* At a desk that it has to itself, each of the runs is that of `submitAll`.
* If the node has seen a transaction at each nonce up to those that are held whenever it is asked
  for the next one, no two runs hold one nonce; and so it is if the count is not forgotten at all.
* If a run holds a nonce that is not less than the next one, two runs hold one nonce once enough
  others have been given theirs. -/
theorem nonces_apart {ω ι : Type} [DecidableEq ι] (address : String) (seen : Set Int)
    (s : ι → Submitter) (report : ι → Report ω) (intents : ι → List (Intent ω)) :
    (∀ i a, serve (shareAll (s i) (report i) (intents i)).run a =
      (submitAll (s i) (report i) (intents i)).run.run a) ∧
    (∀ w, CoveredTurns (ofBatches address seen s report intents) w → w.Apart) ∧
    (∀ w, CountedTurns (ofBatches address seen s report intents) w → w.Apart) ∧
    ∀ (w : World ω ι) (i : ι) (h n : Int) (js : List ι), w.held i = some h → w.Offers n →
      n ≤ h → i ∉ js → js.Nodup → (∀ j ∈ js, w.Waits j) → (h - n).toNat < js.length →
        ∃ w', ReflTransGen Advances w w' ∧ ¬ w'.Apart := by
  refine ⟨fun i a => serve_shareAll (s i) (report i) (intents i) a, fun w turns => ?_,
    fun w turns => ?_, ?_⟩
  · exact (counted_start.along turns).apart
  · exact (counted_start.along (turns.covered fun _ _ => rfl).1).apart
  · intro w i h n js held offers le other distinct waits enough
    exact exists_collision held offers le other distinct waits enough

/-! ### Three runs -/

/-- The runs take turns, and the node is not asked for a nonce. -/
def UnaskedTurns : World ω ι → World ω ι → Prop :=
  ReflTransGen fun w w' => Advances w w' ∧ ¬ Resyncs w w'

lemma UnaskedTurns.covered (turns : UnaskedTurns w w') : CoveredTurns w w' :=
  ReflTransGen.mono (fun _ _ step => ⟨step.1, fun resyncs => absurd resyncs step.2⟩) _ _ turns

lemma CoveredTurns.turns (turns : CoveredTurns w w') : ReflTransGen Advances w w' :=
  ReflTransGen.mono (fun _ _ step => step.1) _ _ turns

/-- A run asks the chain, and its transaction is not included. -/
lemma exists_asks {j : ι} {c : Chain.Call ω} {x : Chain.Answer c} {seen : Set Int}
    {next : Chain.Answer c → Program (Desk ω) (Except BatchError (List Receipt))}
    (turn : w.runs j = .ask (.chain c) next) (sees : SeenAfter w.allocator.address w.seen c x seen)
    (isOpen : tellsIncluded c x = false) :
    ∃ w', UnaskedTurns w w' ∧ w'.runs = Function.update w.runs j (next x) ∧ w'.seen = seen ∧
      w'.held = w.held ∧ w'.allocator = w.allocator := by
  refine ⟨_, .single ⟨.chain turn sees, fun resyncs => resyncs.2 resyncs.1⟩, rfl, rfl, ?_, rfl⟩
  rw [isOpen]
  rfl

/-- A run that is told no tip fails, and the allocator forgets its count. -/
lemma exists_reset {j : ι} {f : Fault}
    {afterTip : Except Fault Json.Value → Program (Desk ω) (Except BatchError (List Receipt))}
    {afterReset : Unit → Program (Desk ω) (Except BatchError (List Receipt))}
    (turn : w.runs j = .ask (.chain .priorityFee) afterTip)
    (resets : afterTip (.error f) = .ask .reset afterReset) :
    ∃ w', UnaskedTurns w w' ∧ w'.runs = Function.update w.runs j (afterReset ()) ∧
      w'.seen = w.seen ∧ w'.held = Function.update w.held j none ∧ w'.allocator.next = none := by
  obtain ⟨w₁, asks, runs₁, seen₁, held₁, -⟩ :=
    exists_asks (x := (.error f : Except Fault Json.Value)) turn (Eq.refl w.seen) rfl
  have turn₁ : w₁.runs j = .ask .reset afterReset := by rw [runs₁, Function.update_self, resets]
  refine ⟨_, asks.tail ⟨.reset turn₁, fun resyncs => resyncs.2 rfl⟩, ?_, seen₁, by rw [held₁], rfl⟩
  rw [runs₁, Function.update_idem]

/-- A run of one transaction. -/
def oneRun : Program (Desk Unit) (Except BatchError (List Receipt)) :=
  (shareAll .standard (fun _ _ => .done (.ok ())) [{ payload := (), sender := "0xa" }]).run

/-- What the run asks: a nonce, a tip and a fee cap; then it submits its transaction. Without a tip
it fails. -/
lemma exists_calls_oneRun : ∃ afterNonce, oneRun = .ask .allocate afterNonce ∧
    (∀ n, ∃ afterTip, afterNonce (.ok n) = .ask (.chain .priorityFee) afterTip ∧
      ∀ f, ∃ afterReset, afterTip (.error f) = .ask .reset afterReset) ∧
    ∃ afterTip afterCap params afterSubmit, afterNonce (.ok 0) =
      .ask (.chain .priorityFee) afterTip ∧
      afterTip (.ok (.int 1)) = .ask (.chain .feeCap) afterCap ∧
      afterCap (.ok (.int 10)) = .ask (.chain (.submit () params)) afterSubmit ∧
      params.sender = "0xa" ∧ params.nonce = 0 :=
  ⟨_, rfl, fun _ => ⟨_, rfl, fun _ => ⟨_, rfl⟩⟩, _, _, _, _, rfl, rfl, rfl, rfl, rfl⟩

/-- Three such runs, for an account without transactions. -/
def threeRuns : World Unit (Fin 3) :=
  ofBatches "0xa" ∅ (fun _ => .standard) (fun _ _ _ => .done (.ok ()))
    fun _ => [{ payload := (), sender := "0xa" }]

lemma isPending_empty : IsPending ∅ 0 :=
  ⟨⟨le_rfl, Set.notMem_empty 0⟩, fun _ later => later.1⟩

lemma isPending_singleton : IsPending {0} 1 :=
  ⟨⟨by decide, by simp⟩, fun _ later => lt_of_le_of_ne later.1 fun zero => later.2 zero.symm⟩

lemma offers_threeRuns : threeRuns.Offers 0 :=
  .inr ⟨rfl, isPending_empty⟩

/-- The first run has taken a nonce, and the others have not begun. -/
structure FirstGiven (w : World Unit (Fin 3)) : Prop where
  held : w.held = Function.update (fun _ => none) 0 (some 0)
  allocator : w.allocator = { address := "0xa", next := some 1 }
  waits : ∀ i ≠ 0, w.runs i = oneRun

lemma exists_firstGiven : ∃ w, CoveredTurns threeRuns w ∧ CountedTurns threeRuns w ∧
    FirstGiven w ∧ w.seen = ∅ ∧
    ∃ afterNonce, oneRun = .ask .allocate afterNonce ∧ w.runs 0 = afterNonce (.ok 0) := by
  obtain ⟨afterNonce, starts, -⟩ := exists_calls_oneRun
  have waits (i : Fin 3) : threeRuns.runs i = .ask .allocate afterNonce := starts
  obtain ⟨w, step, runs, seen, held, allocator⟩ :=
    exists_advances_of_offers (waits 0) offers_threeRuns
  refine ⟨w, .single ⟨step, fun _ _ _ held => nomatch held⟩,
    .single ⟨step, fun forgets => forgets.1 rfl⟩, ⟨held, allocator, fun i ne => ?_⟩, seen,
    afterNonce, starts, by rw [runs, Function.update_self]⟩
  rw [runs, Function.update_of_ne ne]
  rfl

/-- The first run submits its transaction. -/
lemma FirstGiven.exists_submitted {w : World Unit (Fin 3)}
    {afterNonce : Except BatchError Int → Program (Desk Unit) (Except BatchError (List Receipt))}
    (given : FirstGiven w) (starts : oneRun = .ask .allocate afterNonce)
    (turn : w.runs 0 = afterNonce (.ok 0)) :
    ∃ w', UnaskedTurns w w' ∧ FirstGiven w' ∧ w'.seen = insert 0 w.seen := by
  obtain ⟨afterNonce', starts', -, afterTip, afterCap, params, afterSubmit, asksTip, asksCap,
    submits, sender, nonce⟩ := exists_calls_oneRun
  obtain rfl : afterNonce' = afterNonce := by simpa using starts'.symm.trans starts
  obtain ⟨w₁, asks₁, runs₁, seen₁, held₁, allocator₁⟩ := exists_asks
    (x := (.ok (.int 1) : Except Fault Json.Value)) (turn.trans asksTip) (Eq.refl w.seen) rfl
  have turn₁ : w₁.runs 0 = .ask (.chain .feeCap) afterCap := by
    rw [runs₁, Function.update_self, asksCap]
  obtain ⟨w₂, asks₂, runs₂, seen₂, held₂, allocator₂⟩ := exists_asks
    (x := (.ok (.int 10) : Except Fault Json.Value)) turn₁ (Eq.refl w₁.seen) rfl
  have turn₂ : w₂.runs 0 = .ask (.chain (.submit () params)) afterSubmit := by
    rw [runs₂, Function.update_self, submits]
  have own : params.sender = w₂.allocator.address := by
    rw [sender, allocator₂, allocator₁, given.allocator]
  obtain ⟨w₃, asks₃, runs₃, seen₃, held₃, allocator₃⟩ := exists_asks
    (x := (.ok "0x1" : Except Fault String)) turn₂ (.inl ⟨own, rfl⟩) rfl
  refine ⟨w₃, (asks₁.trans asks₂).trans asks₃, ⟨?_, ?_, fun i ne => ?_⟩, ?_⟩
  · rw [held₃, held₂, held₁, given.held]
  · rw [allocator₃, allocator₂, allocator₁, given.allocator]
  · rw [runs₃, Function.update_of_ne ne, runs₂, Function.update_of_ne ne, runs₁,
      Function.update_of_ne ne, given.waits i ne]
  · rw [seen₃, seen₂, seen₁, nonce]

/-- The second run takes a nonce and fails, and the allocator forgets what the first one holds. -/
lemma FirstGiven.exists_failed {w : World Unit (Fin 3)} (given : FirstGiven w) :
    ∃ w', UnaskedTurns w w' ∧ w'.seen = w.seen ∧ w'.held = w.held ∧ w'.allocator.next = none ∧
      w'.Waits 2 := by
  obtain ⟨afterNonce, starts, fails, -⟩ := exists_calls_oneRun
  obtain ⟨afterTip, asksTip, fails⟩ := fails 1
  obtain ⟨afterReset, resets⟩ := fails (.reported .connection "unreachable")
  have offers : w.Offers 1 := .inl (by rw [given.allocator])
  obtain ⟨w₁, step, runs₁, seen₁, held₁, allocator₁⟩ :=
    exists_advances_of_offers ((given.waits 1 (by decide)).trans starts) offers
  have turn₁ : w₁.runs 1 = .ask (.chain .priorityFee) afterTip := by
    rw [runs₁, Function.update_self, asksTip]
  obtain ⟨w₂, reset, runs₂, seen₂, held₂, next₂⟩ := exists_reset turn₁ resets
  have known : ¬ Resyncs w w₁ := fun resyncs => by
    rw [Resyncs, given.allocator] at resyncs
    cases resyncs.1
  refine ⟨w₂, .head ⟨step, known⟩ reset, seen₂.trans seen₁, ?_, next₂, afterNonce, ?_⟩
  · rw [held₂, held₁, Function.update_idem, given.held]
    exact Function.update_eq_self 1 _
  · rw [runs₂, Function.update_of_ne (by decide), runs₁, Function.update_of_ne (by decide),
      given.waits 2 (by decide), starts]

/-- While the count is not forgotten, or if the first run has submitted its transaction before the
second one fails, the runs hold different nonces. Otherwise the third run may be given the nonce of
the first. -/
theorem nonces_apart_of_threeRuns :
    (∃ w, CoveredTurns threeRuns w ∧ w.held 0 = some 0 ∧ w.held 2 = some 1 ∧ w.Apart) ∧
    (∃ w, CountedTurns threeRuns w ∧ w.held 0 = some 0 ∧ w.Apart) ∧
    ∃ w w', ReflTransGen Advances threeRuns w ∧ ReflTransGen Advances w w' ∧ ¬ w'.Apart := by
  obtain ⟨-, covered, counted, collides⟩ := nonces_apart "0xa" ∅ (fun _ : Fin 3 => .standard)
    (fun _ _ _ => .done (.ok ())) fun _ => [{ payload := (), sender := "0xa" : Intent Unit }]
  obtain ⟨w, turns, unforgotten, given, seen, afterNonce, starts, turn⟩ := exists_firstGiven
  have first : w.held 0 = some 0 := by rw [given.held, Function.update_self]
  refine ⟨?_, ⟨w, unforgotten, first, counted w unforgotten⟩, ?_⟩
  · obtain ⟨w₁, submits, given₁, seen₁⟩ := given.exists_submitted starts turn
    obtain ⟨w₂, fails, seen₂, held₂, next₂, afterNonce₂, turn₂⟩ := given₁.exists_failed
    have seen₂ : w₂.seen = {0} := by rw [seen₂, seen₁, seen, insert_empty_eq]
    have offers : w₂.Offers 1 := .inr ⟨next₂, seen₂.symm ▸ isPending_singleton⟩
    obtain ⟨w₃, step, -, -, held₃, -⟩ := exists_advances_of_offers turn₂ offers
    have covers : w₂.Covers := by
      intro i n held m nonneg le
      rw [held₂, given₁.held, Function.update_apply] at held
      split_ifs at held
      obtain rfl := Option.some.inj held
      rw [seen₂, Set.mem_singleton_iff]
      exact le_antisymm le nonneg
    have all : CoveredTurns threeRuns w₃ :=
      ((turns.trans submits.covered).trans fails.covered).tail ⟨step, fun _ => covers⟩
    refine ⟨w₃, all, ?_, ?_, covered w₃ all⟩
    · rw [held₃, Function.update_of_ne (by decide), held₂, given₁.held, Function.update_self]
    · rw [held₃, Function.update_self]
  · obtain ⟨w₁, fails, seen₁, held₁, next₁, waits⟩ := given.exists_failed
    have offers : w₁.Offers 0 := .inr ⟨next₁, (seen₁.trans seen).symm ▸ isPending_empty⟩
    obtain ⟨w₂, again, same⟩ :=
      collides w₁ 0 0 0 [2] (by rw [held₁, first]) offers le_rfl (by decide)
      (by decide) (List.forall_mem_singleton.2 waits) (by decide)
    exact ⟨w₁, w₂, turns.turns.trans fails.covered.turns, again, same⟩

/-- Runs that take turns in another order may hold one nonce: the second run fails before the first
one has submitted its transaction, and the allocator forgets what the first one holds. -/
theorem nonces_not_apart_after_reset :
    ¬ ∀ {address : String} {seen : Set Int} {s : Fin 3 → Submitter} {report : Fin 3 → Report Unit}
        {intents : Fin 3 → List (Intent Unit)} {w : World Unit (Fin 3)},
      ReflTransGen Advances (ofBatches address seen s report intents) w → w.Apart := by
  intro apart
  obtain ⟨w, turns, -, given, seen, -⟩ := exists_firstGiven
  obtain ⟨w₁, fails, seen₁, held₁, next₁, waits⟩ := given.exists_failed
  have first : w₁.held 0 = some 0 := by rw [held₁, given.held, Function.update_self]
  have offers : w₁.Offers 0 := .inr ⟨next₁, (seen₁.trans seen).symm ▸ isPending_empty⟩
  have other : (0 : Fin 3) ∉ [2] := by decide
  obtain ⟨w₂, again, same⟩ := exists_collision first offers le_rfl other (by decide)
    (List.forall_mem_singleton.2 waits) (by decide)
  exact same (apart ((turns.turns.trans fails.covered.turns).trans again))

end StakeRegistry.Tx
