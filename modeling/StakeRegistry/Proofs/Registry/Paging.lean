/-
The staked keys of a registry that changes while it is asked.

The registry is a list of keys with a version (`Valset`). Between any two calls it may change in any
way, each change having a greater version (`Evolves`). A query asks for the number of keys and then
for one page after another:

* `Pages registry size sets i first es r`: from call `i` on, the events `es` ask for the pages from
  the place `first` on, up to the first page of another version, with the result `r`;
* `Tiles size stop first ranges`: the ranges follow one another from `first` to `stop`, with at most
  `size` places each.

The main statement is `stakedKeys_untorn`. Its core is that equal versions are one set
(`Evolves.eq_of_version_eq`), so that the pages before a page of another version are those of the
set that was counted. A set that stays as it is, is returned whatever else happens around the query
(`keys_of_runs`).
-/
import Mathlib.Algebra.Order.Ring.Int
import Mathlib.Logic.Relation
import StakeRegistry.Proofs.Host.Acts
import StakeRegistry.Proofs.Host.Surroundings
import StakeRegistry.Registry.Query

namespace StakeRegistry.Registry

open Program

/-- The staked keys with the version of the set of them. -/
structure Valset where
  keys : List Bytes
  version : Int
  deriving Repr, DecidableEq

namespace Valset

/-- The number of keys. -/
def count (s : Valset) : Int :=
  s.keys.length

lemma count_nonneg (s : Valset) : 0 ≤ s.count :=
  Int.natCast_nonneg _

/-- The keys at the places from `first` on that come before `stop`. -/
def slice (s : Valset) (first stop : Int) : List Bytes :=
  (s.keys.take stop.toNat).drop first.toNat

/-- A change may do anything to the keys, but has a greater version. -/
def Changes (s s' : Valset) : Prop :=
  s.version < s'.version

end Valset

/-- From one call to the next, the set changes any number of times. -/
def Evolves (sets : Nat → Valset) : Prop :=
  ∀ i, Relation.ReflTransGen Valset.Changes (sets i) (sets (i + 1))

/-- The answers of a host whose registry holds the set `sets i` at call `i`. What else it is asked
does not matter. -/
def answerFrom (sets : Nat → Valset) (other : (c : Host.Call) → Host.Answer c) :
    (c : Host.Call) → Nat → Host.Answer c × Nat
  | .node (.stakedCount _), i => (Except.ok (.int (sets i).count, .int (sets i).version), i + 1)
  | .node (.stakedPage _ first stop), i =>
    (Except.ok ((sets i).slice first stop, .int (sets i).version), i + 1)
  | c, i => (other c, i + 1)

/-- The ranges follow one another from `first` to `stop`, each with at least one and at most `size`
places. -/
def Tiles (size stop : Int) : Int → List (Int × Int) → Prop
  | first, [] => first = stop
  | first, range :: rest =>
    range.1 = first ∧ first < range.2 ∧ range.2 ≤ first + size ∧ Tiles size stop range.2 rest

/-- The ranges of places that were asked for. -/
def requested (es : List (Program.Event Host)) : List (Int × Int) :=
  es.filterMap fun e =>
    match e.1 with
    | .node (.stakedPage _ first stop) => some (first, stop)
    | _ => none

/-- What a query of the staked keys asks and how it ends, if the registry holds the set `sets i` at
call `i`. -/
structure Untorn (registry : String) (pageSize : Int) (sets : Nat → Valset)
    (es : List (Program.Event Host)) (r : Except QueryError (List String)) : Prop where
  /-- The first call asks for the number of keys, all others ask for pages. -/
  calls : es.map Sigma.fst = .node (.stakedCount registry) ::
    (requested es).map fun range => .node (.stakedPage registry range.1 range.2)
  /-- Keys that are returned are those that were counted, all of them and in their order; the ranges
  that were asked for cover their places. -/
  returned : ∀ {keys}, r = .ok keys → keys = (sets 0).keys.map Bytes.toHex ∧
    Tiles pageSize (sets 0).count 0 (requested es)
  /-- A page of another version is the last call, and its version is told. -/
  mismatch : ∀ {i}, 0 < i → i < es.length → (sets i).version ≠ (sets 0).version →
    es.length = i + 1 ∧
      r = .error (.versionMismatch (toString (sets i).version) (sets 0).version)
  /-- The other errors are those of sizes that are no sizes of pages. -/
  failed : ∀ {e}, r = .error e → (pageSize = 0 ∧ e = .unreadable .zeroStep) ∨
    (pageSize < 0 ∧ e = .countMismatch (sets 0).count 0) ∨
    ∃ i, es.length = i + 1 ∧ 0 < i ∧ (sets i).version ≠ (sets 0).version
  /-- A set that stays as it is while it is asked is returned. -/
  complete : 0 < pageSize → (∀ i < es.length, sets i = sets 0) →
    r = .ok ((sets 0).keys.map Bytes.toHex)

/-! ### Versions -/

lemma Valset.eq_or_version_lt {s s' : Valset} (h : Relation.ReflTransGen Changes s s') :
    s' = s ∨ s.version < s'.version := by
  induction h with
  | refl => exact .inl rfl
  | tail _ change ih =>
    right
    rcases ih with rfl | older
    · exact change
    · exact older.trans change

section

variable {registry : String} {size version first : Int} {sets : Nat → Valset} {i : Nat}
  {es : List (Program.Event Host)} {r : Except QueryError (List String)}

lemma Evolves.from_first (h : Evolves sets) (i : Nat) :
    Relation.ReflTransGen Valset.Changes (sets 0) (sets i) := by
  induction i with
  | zero => exact .refl
  | succ i ih => exact ih.trans (h i)

/-- A set with the version of the first one is the first one. -/
lemma Evolves.eq_of_version_eq (h : Evolves sets) (same : (sets i).version = (sets 0).version) :
    sets i = sets 0 := by
  rcases Valset.eq_or_version_lt (h.from_first i) with equal | newer
  · exact equal
  · omega

/-! ### The number of pages -/

lemma stepCount_eq_zero {stop : Int} (step_pos : 0 < size) (reached : stop ≤ first) :
    stepCount first stop size = 0 := by
  rw [stepCount, if_pos step_pos, Int.fdiv_eq_ediv_of_nonneg _ step_pos.le]
  have less : (stop - first + size - 1) / size < 1 := Int.ediv_lt_of_lt_mul step_pos (by omega)
  omega

/-- A range that is walked downwards holds nothing above its beginning. -/
lemma stepCount_eq_zero_of_neg {stop : Int} (step_neg : size < 0) (above : first ≤ stop) :
    stepCount first stop size = 0 := by
  rw [stepCount, if_neg (by omega), Int.fdiv_eq_ediv_of_nonneg _ (by omega : 0 ≤ -size)]
  have less : (first - stop - size - 1) / -size < 1 := Int.ediv_lt_of_lt_mul (by omega) (by omega)
  omega

lemma stepCount_succ {stop : Int} (step_pos : 0 < size) (left : first < stop) :
    stepCount first stop size = stepCount (first + size) stop size + 1 := by
  simp only [stepCount, if_pos step_pos, Int.fdiv_eq_ediv_of_nonneg _ step_pos.le]
  have split : stop - first + size - 1 = stop - (first + size) + size - 1 + 1 * size := by omega
  have nonneg : 0 ≤ (stop - (first + size) + size - 1) / size :=
    Int.ediv_nonneg (by omega) step_pos.le
  rw [split, Int.add_mul_ediv_right _ _ step_pos.ne']
  omega

/-! ### The pages -/

/-- The call for the page at a place, with the answer of a set. -/
def pageEvent (registry : String) (size count first : Int) (s : Valset) : Program.Event Host :=
  ⟨.node (.stakedPage registry first (min (first + size) count)),
    Except.ok (s.slice first (min (first + size) count), .int s.version)⟩

/-- From call `i` on, the pages from a place on are asked, up to the first one of another version
than that of the first call. -/
inductive Pages (registry : String) (size : Int) (sets : Nat → Valset) :
    Nat → Int → List (Program.Event Host) → Except QueryError (List String) → Prop where
  | finished {i : Nat} {first : Int} (reached : (sets 0).count ≤ first) :
      Pages registry size sets i first [] (.ok [])
  | torn {i : Nat} {first : Int} (left : first < (sets 0).count)
      (changed : (sets i).version ≠ (sets 0).version) :
      Pages registry size sets i first [pageEvent registry size (sets 0).count first (sets i)]
        (.error (.versionMismatch (toString (sets i).version) (sets 0).version))
  | page {i : Nat} {first : Int} {es : List (Program.Event Host)}
      {r : Except QueryError (List String)} (left : first < (sets 0).count)
      (same : (sets i).version = (sets 0).version)
      (others : Pages registry size sets (i + 1) (first + size) es r) :
      Pages registry size sets i first
        (pageEvent registry size (sets 0).count first (sets i) :: es)
        (r.map ((((sets i).slice first (min (first + size) (sets 0).count)).map Bytes.toHex) ++ ·))

/-- Every run that asks for as many pages as there are left asks for pages in this sense. -/
lemma pages_of_runs {other : (c : Host.Call) → Host.Answer c} {left : Nat} (size_pos : 0 < size)
    (hleft : stepCount first (sets 0).count size = left)
    (run : Runs (stakedPages registry size (sets 0).count (sets 0).version first left).run es r)
    (answered : AnsweredBy (answerFrom sets other) i es) :
    Pages registry size sets i first es r := by
  induction left generalizing i first es r with
  | zero =>
    obtain ⟨rfl, rfl⟩ := runs_run_pure_iff.1 run
    refine .finished (Int.not_lt.1 fun more => ?_)
    have := stepCount_succ size_pos more
    omega
  | succ left ih =>
    have more : first < (sets 0).count := by
      by_contra reached
      have := stepCount_eq_zero size_pos (Int.not_lt.1 reached)
      omega
    have hleft' : stepCount (first + size) (sets 0).count size = left := by
      have := stepCount_succ size_pos more
      omega
    rw [stakedPages, Act.runs_ask_bind_iff] at run
    obtain ⟨x, rest, rfl, run⟩ := run
    obtain ⟨hx, later⟩ := answeredBy_cons_iff.1 answered
    obtain rfl : x = Except.ok ((sets i).slice first (min (first + size) (sets 0).count),
      .int (sets i).version) := hx
    simp only [Act.orElse_ok_bind, Json.Value.toInteger] at run
    by_cases same : (sets i).version = (sets 0).version
    · rw [if_neg (not_not.2 same)] at run
      obtain ⟨r', others, rfl⟩ := runs_run_map_iff.1 run
      exact .page more same (ih hleft' others later)
    · rw [if_pos same] at run
      obtain ⟨rfl, rfl⟩ := runs_run_throw_iff.1 run
      exact .torn more same

lemma Valset.slice_append_drop {s : Valset} (size_pos : 0 < size) (first_nonneg : 0 ≤ first)
    (left : first < s.count) : s.slice first (min (first + size) s.count) ++
      s.keys.drop (first + size).toNat = s.keys.drop first.toNat := by
  have hcount : s.count = s.keys.length := rfl
  have hdrop : s.keys.drop (first + size).toNat =
      s.keys.drop (min (first + size) s.count).toNat := by
    rcases le_total (first + size) s.count with within | beyond
    · rw [min_eq_left within]
    · rw [min_eq_right beyond, List.drop_of_length_le (by omega), List.drop_of_length_le (by omega)]
  have hlength : first.toNat ≤ (s.keys.take (min (first + size) s.count).toNat).length := by
    rw [List.length_take]
    omega
  rw [hdrop, Valset.slice, ← List.drop_append_of_le_length hlength, List.take_append_drop]

namespace Pages

lemma calls_eq (h : Pages registry size sets i first es r) : es.map Sigma.fst =
    (requested es).map fun range => .node (.stakedPage registry range.1 range.2) := by
  induction h with
  | finished reached => rfl
  | torn left changed => rfl
  | page left same others ih => exact congrArg _ ih

/-- Equal versions are one set, so that the pages put together are what is left of it. -/
lemma returned (evolves : Evolves sets) (size_pos : 0 < size)
    (h : Pages registry size sets i first es r) (first_nonneg : 0 ≤ first) {keys : List String}
    (hr : r = .ok keys) : keys = ((sets 0).keys.drop first.toNat).map Bytes.toHex := by
  induction h generalizing keys with
  | @finished i first reached =>
    cases hr
    have hcount : (sets 0).count = (sets 0).keys.length := rfl
    rw [List.drop_of_length_le (by omega), List.map_nil]
  | torn left changed => cases hr
  | @page i first es r left same others ih =>
    cases r with
    | error e => cases hr
    | ok later =>
      obtain rfl : _ ++ later = keys := Except.ok.inj hr
      rw [ih (by omega) rfl, evolves.eq_of_version_eq same, ← List.map_append,
        Valset.slice_append_drop size_pos first_nonneg left]

lemma tiles (size_pos : 0 < size) (h : Pages registry size sets i first es r) {keys : List String}
    (hr : r = .ok keys) : Tiles size (sets 0).count (min first (sets 0).count) (requested es) := by
  induction h generalizing keys with
  | finished reached => exact min_eq_right reached
  | torn left changed => cases hr
  | @page i first es r left same others ih =>
    cases r with
    | error e => cases hr
    | ok later =>
      rw [min_eq_left left.le]
      exact ⟨rfl, lt_min (by omega) left, min_le_left _ _, ih rfl⟩

/-- A page of another version is the last one. -/
lemma mismatch (h : Pages registry size sets i first es r) {j : Nat} (hj : j < es.length)
    (changed : (sets (i + j)).version ≠ (sets 0).version) : es.length = j + 1 ∧
      r = .error (.versionMismatch (toString (sets (i + j)).version) (sets 0).version) := by
  induction h generalizing j with
  | finished reached => simp at hj
  | torn left changed' =>
    obtain rfl : j = 0 := by simpa using hj
    exact ⟨rfl, rfl⟩
  | @page i first es r left same others ih =>
    cases j with
    | zero => exact absurd same changed
    | succ j =>
      have hplace : i + (j + 1) = i + 1 + j := by omega
      rw [hplace] at changed ⊢
      obtain ⟨length, rfl⟩ := ih (by simpa using hj) changed
      exact ⟨by simp [length], rfl⟩

lemma failed (h : Pages registry size sets i first es r) {e : QueryError} (hr : r = .error e) :
    ∃ j, es.length = j + 1 ∧ (sets (i + j)).version ≠ (sets 0).version := by
  induction h generalizing e with
  | finished reached => cases hr
  | torn left changed => exact ⟨0, rfl, changed⟩
  | @page i first es r left same others ih =>
    cases r with
    | ok later => cases hr
    | error e' =>
      obtain ⟨j, length, changed⟩ := ih rfl
      have hplace : i + (j + 1) = i + 1 + j := by omega
      exact ⟨j + 1, by simp [length], hplace ▸ changed⟩

end Pages

/-! ### The whole query -/

/-- The call for the number of keys, with the answer of a set. -/
def countEvent (registry : String) (s : Valset) : Program.Event Host :=
  ⟨.node (.stakedCount registry), Except.ok (.int s.count, .int s.version)⟩

/-- A query counts the keys and asks for pages; only a size that is none ends it otherwise. -/
inductive Queries (registry : String) (size : Int) (sets : Nat → Valset) :
    List (Program.Event Host) → Except QueryError (List String) → Prop where
  | zeroStep (zero : size = 0) :
      Queries registry size sets [countEvent registry (sets 0)] (.error (.unreadable .zeroStep))
  | empty (neg : size < 0) (empty : (sets 0).count = 0) :
      Queries registry size sets [countEvent registry (sets 0)] (.ok [])
  | notAsked (neg : size < 0) (left : (sets 0).count ≠ 0) :
      Queries registry size sets [countEvent registry (sets 0)]
        (.error (.countMismatch (sets 0).count 0))
  | pages {es : List (Program.Event Host)} {r : Except QueryError (List String)}
      (size_pos : 0 < size) (pages : Pages registry size sets 1 0 es r) :
      Queries registry size sets (countEvent registry (sets 0) :: es) r

lemma counted_of_runs {other : (c : Host.Call) → Host.Answer c} {es' : List (Program.Event Host)}
    {r : Except QueryError (Int × Int)} (run : Runs (stakedCount registry).run es r)
    (answered : AnsweredBy (answerFrom sets other) i (es ++ es')) :
    es = [countEvent registry (sets i)] ∧ r = .ok ((sets i).count, (sets i).version) := by
  rw [stakedCount, Act.runs_ask_bind_iff] at run
  obtain ⟨x, es, rfl, run⟩ := run
  obtain ⟨hx, -⟩ := answeredBy_cons_iff.1 answered
  obtain rfl : x = Except.ok (.int (sets i).count, .int (sets i).version) := hx
  simp only [Act.orElse_ok_bind, Json.Value.toInteger] at run
  obtain ⟨rfl, rfl⟩ := runs_run_pure_iff.1 run
  exact ⟨rfl, rfl⟩

lemma queries_of_runs {other : (c : Host.Call) → Host.Answer c} (evolves : Evolves sets)
    (run : Runs (stakedKeys registry size).run es r)
    (answered : AnsweredBy (answerFrom sets other) 0 es) : Queries registry size sets es r := by
  rw [stakedKeys, runs_run_bind_iff] at run
  rcases run with ⟨e, rfl, counting⟩ | ⟨es₁, es, x, rfl, counting, run⟩
  · rw [← List.append_nil es] at answered
    obtain ⟨-, hr⟩ := counted_of_runs counting answered
    cases hr
  obtain ⟨rfl, hx⟩ := counted_of_runs counting answered
  obtain rfl := Except.ok.inj hx
  rw [List.singleton_append] at answered ⊢
  obtain ⟨-, answered⟩ := answeredBy_cons_iff.1 answered
  dsimp only at run
  by_cases zero : size = 0
  · rw [if_pos zero] at run
    obtain ⟨rfl, rfl⟩ := runs_run_throw_iff.1 run
    exact .zeroStep zero
  rw [if_neg zero] at run
  rcases lt_or_gt_of_ne zero with neg | size_pos
  · -- no page is asked for, and no key is found
    rw [stepCount_eq_zero_of_neg neg (sets 0).count_nonneg, stakedPages, pure_bind] at run
    by_cases empty : (sets 0).count = 0
    · rw [if_neg (by simp [empty])] at run
      obtain ⟨rfl, rfl⟩ := runs_run_pure_iff.1 run
      exact .empty neg empty
    · rw [if_pos (by simpa [eq_comm] using empty)] at run
      obtain ⟨rfl, rfl⟩ := runs_run_throw_iff.1 run
      exact .notAsked neg empty
  · rw [runs_run_bind_iff] at run
    rcases run with ⟨e, rfl, asking⟩ | ⟨es, es₂, keys, rfl, asking, run⟩
    · exact .pages size_pos (pages_of_runs size_pos rfl asking answered)
    · have pages := pages_of_runs size_pos rfl asking (answeredBy_of_append answered)
      have all : (keys.length : Int) = (sets 0).count := by
        simp [pages.returned evolves size_pos le_rfl rfl, Valset.count]
      rw [if_neg (not_not.2 all)] at run
      obtain ⟨rfl, rfl⟩ := runs_run_pure_iff.1 run
      rw [List.append_nil]
      exact .pages size_pos pages

lemma Pages.untorn (evolves : Evolves sets) (size_pos : 0 < size)
    (h : Pages registry size sets 1 0 es r) :
    Untorn registry size sets (countEvent registry (sets 0) :: es) r where
  calls := congrArg _ h.calls_eq
  returned := by
    intro keys hr
    have tiles := h.tiles size_pos hr
    rw [min_eq_left (sets 0).count_nonneg] at tiles
    exact ⟨h.returned evolves size_pos le_rfl hr, tiles⟩
  mismatch := by
    intro i pos hi changed
    obtain ⟨j, rfl⟩ : ∃ j, i = 1 + j := ⟨i - 1, by omega⟩
    obtain ⟨length, hr⟩ := h.mismatch (by simpa [Nat.add_comm] using hi) changed
    exact ⟨by simp [length, Nat.add_comm], hr⟩
  failed := by
    intro e hr
    obtain ⟨j, length, changed⟩ := h.failed hr
    exact .inr (.inr ⟨1 + j, by simp [length, Nat.add_comm], by omega, changed⟩)
  complete := by
    intro _ still
    cases r with
    | ok keys => rw [h.returned evolves size_pos le_rfl rfl, Int.toNat_zero, List.drop_zero]
    | error e =>
      obtain ⟨j, length, changed⟩ := h.failed rfl
      exact absurd
        (congrArg Valset.version (still (1 + j) (by simp [length, Nat.add_comm]))) changed

/-- A query that asks for no page. -/
lemma untorn_of_counted (hr : ∀ {keys}, r = .ok keys → keys = [] ∧ (sets 0).count = 0)
    (failed : ∀ {e}, r = .error e → (size = 0 ∧ e = .unreadable .zeroStep) ∨
      (size < 0 ∧ e = .countMismatch (sets 0).count 0)) (unsized : size ≤ 0) :
    Untorn registry size sets [countEvent registry (sets 0)] r where
  calls := rfl
  returned := by
    intro keys h
    obtain ⟨rfl, empty⟩ := hr h
    have none : (sets 0).keys = [] := List.length_eq_zero_iff.1 (Int.ofNat_eq_zero.1 empty)
    exact ⟨by rw [none, List.map_nil], empty.symm⟩
  mismatch := by
    intro i pos hi
    have : i < 1 := hi
    omega
  failed := fun h => (failed h).imp_right .inl
  complete := by
    intro size_pos
    omega

lemma Queries.untorn (evolves : Evolves sets) (h : Queries registry size sets es r) :
    Untorn registry size sets es r := by
  cases h with
  | zeroStep zero => exact untorn_of_counted (by simp) (by simp [zero]) zero.le
  | empty neg empty => exact untorn_of_counted (by simp [empty]) (by simp) neg.le
  | notAsked neg left => exact untorn_of_counted (by simp) (by simp [neg]) neg.le
  | pages size_pos pages => exact pages.untorn evolves size_pos

/-! ### A set that stays as it is -/

/-- The call asks the registry for its keys. -/
def AsksForKeys : Host.Call → Prop
  | .node (.stakedCount _) => True
  | .node (.stakedPage _ _ _) => True
  | _ => False

/-- If the event asks the registry for its keys, it was answered from the set. -/
def Valset.Answers (s : Valset) : Program.Event Host → Prop
  | ⟨.node (.stakedCount _), x⟩ => x = Except.ok (.int s.count, .int s.version)
  | ⟨.node (.stakedPage _ first stop), x⟩ => x = Except.ok (s.slice first stop, .int s.version)
  | _ => True

lemma uses_stakedCount : Uses AsksForKeys (stakedCount registry).run := by
  refine uses_run_bind (Act.uses_ask trivial) fun answer =>
    uses_run_bind Act.uses_orElse fun told => ?_
  exact uses_run_bind Act.uses_orElse fun count =>
    uses_run_bind Act.uses_orElse fun version => uses_run_pure

lemma uses_stakedPages {count : Int} (left : Nat) :
    Uses AsksForKeys (stakedPages registry size count version first left).run := by
  induction left generalizing first with
  | zero => exact uses_run_pure
  | succ left ih =>
    rw [stakedPages]
    refine uses_run_bind (Act.uses_ask trivial) fun answer => ?_
    refine uses_run_bind Act.uses_orElse fun told =>
      uses_run_bind Act.uses_orElse fun pageVersion => ?_
    exact uses_run_guard (uses_run_bind ih fun later => uses_run_pure)

lemma uses_stakedKeys : Uses AsksForKeys (stakedKeys registry size).run := by
  refine uses_run_bind uses_stakedCount fun counted => uses_run_guard ?_
  exact uses_run_bind (uses_stakedPages _) fun keys => uses_run_guard uses_run_pure

/-- Events that only ask for keys are those of a host that has nothing but the set. -/
lemma answeredBy_of_answers {s : Valset} (asks : ∀ e ∈ es, AsksForKeys e.1)
    (answers : ∀ e ∈ es, s.Answers e) :
    AnsweredBy (answerFrom (fun _ => s) Host.offline) i es := by
  induction es generalizing i with
  | nil => trivial
  | cons e es ih =>
    obtain ⟨ask, askLater⟩ := List.forall_mem_cons.1 asks
    obtain ⟨answer, answerLater⟩ := List.forall_mem_cons.1 answers
    obtain ⟨c, x⟩ := e
    cases c with
    | node c =>
      cases c with
      | stakedCount registry => exact ⟨answer, ih askLater answerLater⟩
      | stakedPage registry first stop => exact ⟨answer, ih askLater answerLater⟩
      | _ => exact absurd ask id
    | _ => exact absurd ask id

lemma count_of_runs {s : Valset} {r : Except QueryError (Int × Int)}
    (run : Runs (stakedCount registry).run es r) (answers : ∀ e ∈ es, s.Answers e) :
    r = .ok (s.count, s.version) := by
  have answered : AnsweredBy (answerFrom (fun _ => s) Host.offline) 0 (es ++ []) := by
    rw [List.append_nil]
    exact answeredBy_of_answers (allowed_of_runs uses_stakedCount run) answers
  exact (counted_of_runs run answered).2

/-- A set that stays as it is, is returned. -/
lemma keys_of_runs {s : Valset} (size_pos : 0 < size)
    (run : Runs (stakedKeys registry size).run es r) (answers : ∀ e ∈ es, s.Answers e) :
    r = .ok (s.keys.map Bytes.toHex) := by
  have answered := answeredBy_of_answers (i := 0) (allowed_of_runs uses_stakedKeys run) answers
  have still : Evolves fun _ => s := fun _ => .refl
  exact ((queries_of_runs still run answered).untorn still).complete size_pos fun _ _ => rfl

end

/-- Whatever happens to the registry while it is asked for its keys, what is returned is not
torn. -/
theorem stakedKeys_untorn {registry : String} {pageSize : Int} {sets : Nat → Valset}
    {other : (c : Host.Call) → Host.Answer c} (evolves : Evolves sets) :
    Untorn registry pageSize sets
      ((stakedKeys registry pageSize).run.trace (answerFrom sets other) 0)
      ((stakedKeys registry pageSize).run.run (answerFrom sets other) 0).1 :=
  (queries_of_runs evolves (runs_trace (answerFrom sets other) _ 0) (answeredBy_trace _ _ 0)).untorn
    evolves

/-- A registry whose keys change after the first of two pages, and one whose keys stay. -/
theorem stakedKeys_untorn_of_changed_page :
    let before : Valset := { keys := [[1], [2], [3]], version := 7 }
    let after : Valset := { keys := [[1], [3], [2]], version := 9 }
    let changing : Nat → Valset := fun i => if i < 2 then before else after
    let query := (stakedKeys "0xr" 2).run
    (query.run (answerFrom changing Host.offline) 0).1 = .error (.versionMismatch "9" 7) ∧
      Untorn "0xr" 2 changing (query.trace (answerFrom changing Host.offline) 0)
        (query.run (answerFrom changing Host.offline) 0).1 ∧
      (query.run (answerFrom (fun _ => before) Host.offline) 0).1 = .ok ["01", "02", "03"] ∧
      Untorn "0xr" 2 (fun _ => before) (query.trace (answerFrom (fun _ => before) Host.offline) 0)
        (query.run (answerFrom (fun _ => before) Host.offline) 0).1 := by
  intro before after changing query
  have evolves : Evolves changing := by
    intro i
    by_cases last : i = 1
    · subst last
      have newer : before.version < after.version := by decide
      exact .single newer
    · have same : changing (i + 1) = changing i := by
        simp only [changing]
        split_ifs <;> first | rfl | omega
      rw [same]
  exact ⟨by decide +kernel, stakedKeys_untorn evolves, by decide +kernel,
    stakedKeys_untorn fun _ => .refl⟩

end StakeRegistry.Registry
