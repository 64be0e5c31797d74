/-
Dividing a range of epochs.

* `Tiles first count ranges`: the ranges follow one another from `first` on, without a gap, and have
  `count` epochs in all.
* `DividesEvenly first last count ranges`: `count` ranges without a gap from `first` to `last`, of
  widths that differ by at most one, the wider ones first. Only one list is such a division: that by
  quotient and remainder (`DividesEvenly.eq_evenRanges`).
* `splitEpochs?`: `splitEpochs` with a division that fails for a divisor of zero.

The main statement is `splitEpochs_divides`: a range with epochs is divided evenly into as many
parts as are asked for, or into single epochs if there are not so many; any other range, and any
other number of parts, is refused.
-/
import Mathlib.Data.List.Chain
import Mathlib.Tactic.Lemma
import StakeRegistry.OptIn.Scan

namespace StakeRegistry.OptIn

variable {first last parts : Int} {size extra count : Nat} {range : Int × Int}
  {ranges : List (Int × Int)}

/-! ### Tilings -/

/-- The ranges, both ends included, follow one another from `first` on and have `count` epochs. -/
def Tiles : (first : Int) → (count : Nat) → List (Int × Int) → Prop
  | _, count, [] => count = 0
  | first, count, range :: rest =>
    ∃ own later, count = own + later ∧ range = (first, first + own - 1) ∧
      Tiles (first + own) later rest

lemma tiles_evenRanges (size : Nat) (first : Int) {extra count : Nat} (h : extra ≤ count) :
    Tiles first (size * count + extra) (evenRanges size first extra count) := by
  -- along the ranges: the first `extra` of them have one epoch more than the others
  induction count generalizing first extra with
  | zero =>
    obtain rfl : extra = 0 := Nat.le_zero.1 h
    simp [evenRanges, Tiles]
  | succ count ih =>
    cases extra with
    | zero =>
      refine ⟨size, size * count + 0, ?_, rfl, ih (first + size) (Nat.zero_le _)⟩
      rw [Nat.mul_succ]
      omega
    | succ extra =>
      refine ⟨size + 1, size * count + extra, ?_, ?_, ?_⟩
      · rw [Nat.mul_succ]
        omega
      · have last : first + size = first + (size + 1 : Nat) - 1 := by omega
        rw [← last]
      · have next : first + size + 1 = first + (size + 1 : Nat) := by omega
        rw [← next]
        exact ih _ (Nat.le_of_succ_le_succ h)

/-- Quotient and remainder leave no epoch over. -/
lemma tiles_div_mod (first : Int) (total : Nat) (positive : 0 < count) :
    Tiles first total (evenRanges (total / count) first (total % count) count) := by
  have tiles := tiles_evenRanges (total / count) first (Nat.mod_lt total positive).le
  rwa [Nat.mul_comm, Nat.div_add_mod] at tiles

lemma Tiles.opens (h : Tiles first count ranges) : ∀ range ∈ ranges.head?, range.1 = first := by
  rintro range mem
  cases ranges with
  | nil => cases mem
  | cons head rest =>
    obtain ⟨own, later, -, rfl, -⟩ := h
    obtain rfl := Option.some.inj mem
    rfl

lemma Tiles.closes (h : Tiles first count ranges) :
    ∀ range ∈ ranges.getLast?, range.2 = first + count - 1 := by
  rintro range mem
  induction ranges generalizing first count with
  | nil => cases mem
  | cons head rest ih =>
    obtain ⟨own, later, rfl, rfl, tiles⟩ := h
    cases rest with
    | nil =>
      obtain rfl : later = 0 := tiles
      rw [List.getLast?_singleton] at mem
      obtain rfl := Option.some.inj mem
      rw [Nat.add_zero]
    | cons next rest =>
      rw [List.getLast?_cons_cons] at mem
      rw [ih tiles mem]
      omega

lemma Tiles.follows (h : Tiles first count ranges) :
    ranges.IsChain fun range next => next.1 = range.2 + 1 := by
  induction ranges generalizing first count with
  | nil => exact .nil
  | cons head rest ih =>
    obtain ⟨own, later, rfl, rfl, tiles⟩ := h
    refine List.isChain_cons.2 ⟨fun next mem => ?_, ih tiles⟩
    rw [tiles.opens next mem]
    omega

/-! ### Even divisions -/

/-- The number of epochs of a range, both ends included. -/
def width (range : Int × Int) : Int :=
  range.2 - range.1 + 1

/-- The epochs from `first` to `last` are divided into a number of ranges, both ends included, whose
widths are as equal as can be. -/
structure DividesEvenly (first last count : Int) (ranges : List (Int × Int)) : Prop where
  length_eq : (ranges.length : Int) = count
  nonempty : ∀ range ∈ ranges, range.1 ≤ range.2
  opens : ranges.head?.map Prod.fst = some first
  closes : ranges.getLast?.map Prod.snd = some last
  follows : ranges.IsChain fun range next => next.1 = range.2 + 1
  level : ∀ range ∈ ranges, ∀ other ∈ ranges, width range ≤ width other + 1
  descending : ranges.Pairwise fun range later => width later ≤ width range

lemma length_evenRanges : (evenRanges size first extra count).length = count := by
  fun_induction evenRanges size first extra count <;> simp [*]

/-- Only as long as there are epochs left over, a range has one epoch more. -/
lemma width_of_mem_evenRanges (mem : range ∈ evenRanges size first extra count) :
    width range = size ∨ width range = size + 1 ∧ extra ≠ 0 := by
  fun_induction evenRanges size first extra count with
  | case1 => cases mem
  | case2 first count ih =>
    rcases List.mem_cons.1 mem with rfl | later
    · left
      unfold width
      omega
    · exact (ih later).imp_right fun wider => absurd rfl wider.2
  | case3 first extra count ih =>
    rcases List.mem_cons.1 mem with rfl | later
    · right
      unfold width
      omega
    · exact (ih later).imp_right fun wider => ⟨wider.1, Nat.succ_ne_zero _⟩

lemma descending_evenRanges :
    (evenRanges size first extra count).Pairwise fun range later => width later ≤ width range := by
  fun_induction evenRanges size first extra count with
  | case1 => exact .nil
  | case2 first count ih =>
    refine List.pairwise_cons.2 ⟨fun later mem => ?_, ih⟩
    have narrow := width_of_mem_evenRanges mem
    have own : width (first, first + size - 1) = size := by
      unfold width
      omega
    omega
  | case3 first extra count ih =>
    refine List.pairwise_cons.2 ⟨fun later mem => ?_, ih⟩
    have narrow := width_of_mem_evenRanges mem
    have own : width (first, first + size) = size + 1 := by
      unfold width
      omega
    omega

/-- A number of epochs is divided evenly by quotient and remainder. -/
lemma dividesEvenly_evenRanges (positive : 0 < count) (le : count ≤ last - first + 1) :
    DividesEvenly first last count
      (evenRanges ((last - first + 1).toNat / count) first
        ((last - first + 1).toNat % count) count) := by
  obtain ⟨total, same⟩ := Int.eq_ofNat_of_zero_le (a := last - first + 1) (by omega)
  obtain rfl : last = first + total - 1 := by omega
  rw [same, Int.toNat_natCast]
  have tiles := tiles_div_mod first total positive
  have one : 0 < total / count := Nat.div_pos (by omega) positive
  generalize total / count = size, total % count = extra at tiles one
  have some_ranges : evenRanges size first extra count ≠ [] := by
    rw [← List.length_pos_iff, length_evenRanges]
    exact positive
  constructor
  case length_eq => rw [length_evenRanges]
  case nonempty =>
    intro range mem
    have wide := width_of_mem_evenRanges mem
    unfold width at wide
    omega
  case opens =>
    rw [List.head?_eq_some_head some_ranges, Option.map_some,
      tiles.opens _ (List.head?_eq_some_head _)]
  case closes =>
    rw [List.getLast?_eq_some_getLast some_ranges, Option.map_some,
      tiles.closes _ (List.getLast?_eq_some_getLast _)]
  case follows => exact tiles.follows
  case level =>
    intro range mem other mem'
    have wide := width_of_mem_evenRanges mem
    have wide' := width_of_mem_evenRanges mem'
    omega
  case descending => exact descending_evenRanges

/-! ### There is one even division -/

/-- Ranges that follow one another and have the same width. -/
lemma eq_evenRanges_of_narrow (opens : ∀ range ∈ ranges.head?, range.1 = first)
    (follows : ranges.IsChain fun range next => next.1 = range.2 + 1)
    (narrow : ∀ range ∈ ranges, width range = size) :
    ranges = evenRanges size first 0 ranges.length := by
  induction ranges generalizing first with
  | nil => rfl
  | cons range rest ih =>
    obtain ⟨next, follows⟩ := List.isChain_cons.1 follows
    obtain ⟨own, narrow⟩ := List.forall_mem_cons.1 narrow
    have others := ih next follows narrow
    obtain rfl : range.1 = first := opens range rfl
    unfold width at own
    have stop : range.2 = range.1 + size - 1 := by omega
    have later : range.2 + 1 = range.1 + size := by omega
    rw [List.length_cons, evenRanges, ← stop, ← later]
    exact congrArg (range :: ·) others

/-- Ranges that follow one another and have one of two widths, the wider ones first. -/
lemma eq_evenRanges (opens : ∀ range ∈ ranges.head?, range.1 = first)
    (follows : ranges.IsChain fun range next => next.1 = range.2 + 1)
    (widths : ∀ range ∈ ranges, width range = size ∨ width range = size + 1)
    (descending : ranges.Pairwise fun range later => width later ≤ width range) :
    ranges = evenRanges size first
      (ranges.countP fun range => width range = size + 1) ranges.length := by
  induction ranges generalizing first with
  | nil => rfl
  | cons range rest ih =>
    obtain ⟨own, later⟩ := List.forall_mem_cons.1 widths
    obtain ⟨narrower, descending⟩ := List.pairwise_cons.1 descending
    rcases own with own | own
    · -- no range after this one is wider
      have narrow : ∀ other ∈ range :: rest, width other = size := by
        refine List.forall_mem_cons.2 ⟨own, fun other mem => ?_⟩
        have le := narrower other mem
        have width := later other mem
        omega
      have none : ((range :: rest).countP fun range => width range = size + 1) = 0 := by
        refine List.countP_eq_zero.2 fun other mem => ?_
        rw [decide_eq_true_eq, narrow other mem]
        omega
      rw [none]
      exact eq_evenRanges_of_narrow opens follows narrow
    · obtain ⟨next, follows⟩ := List.isChain_cons.1 follows
      have others := ih next follows later descending
      obtain rfl : range.1 = first := opens range rfl
      have stop : range.2 = range.1 + size := by
        unfold width at own
        omega
      rw [List.countP_cons_of_pos (by simpa using own), List.length_cons, evenRanges, ← stop]
      exact congrArg (range :: ·) others

lemma DividesEvenly.fst_of_head? (h : DividesEvenly first last count ranges) :
    ∀ range ∈ ranges.head?, range.1 = first := by
  intro range head
  have opens := h.opens
  rw [Option.mem_def.1 head] at opens
  exact Option.some.inj opens

/-- No range is narrower than the last one, and none more than one epoch wider. -/
lemma DividesEvenly.width_cases (h : DividesEvenly first last count ranges) {final : Int × Int}
    (ends : ranges.getLast? = some final) :
    ∀ range ∈ ranges, width range = width final ∨ width range = width final + 1 := by
  intro range mem
  have level := h.level range mem final (List.mem_of_getLast? ends)
  obtain ⟨init, rfl⟩ := List.getLast?_eq_some_iff.1 ends
  have narrower : width final ≤ width range := by
    rcases List.mem_append.1 mem with before | last
    · exact (List.pairwise_append.1 h.descending).2.2 range before final List.mem_cons_self
    · obtain rfl := List.mem_singleton.1 last
      exact Int.le_refl _
  omega

/-- Epochs that are divided evenly are divided by quotient and remainder: the quotient is the width
of the last range, and the remainder the number of ranges with one epoch more. -/
lemma DividesEvenly.eq_evenRanges (h : DividesEvenly first last count ranges) :
    ranges = evenRanges ((last - first + 1).toNat / count) first
      ((last - first + 1).toNat % count) count := by
  obtain ⟨final, ends, rfl⟩ := Option.map_eq_some_iff.1 h.closes
  obtain rfl : ranges.length = count := Int.ofNat_inj.1 h.length_eq
  have mem := List.mem_of_getLast? ends
  have nonempty := h.nonempty final mem
  obtain ⟨size, own⟩ := Int.eq_ofNat_of_zero_le (a := width final) (by unfold width; omega)
  have widths := h.width_cases ends
  rw [own] at widths
  have even := OptIn.eq_evenRanges h.fst_of_head? h.follows widths h.descending
  -- the last range is none of the wider ones, so that their number is a remainder
  have le := List.countP_le_length (p := fun range => decide (width range = size + 1)) (l := ranges)
  have lt : (ranges.countP fun range => width range = size + 1) < ranges.length := by
    refine Nat.lt_of_le_of_ne le fun all => ?_
    have wide := List.countP_eq_length.1 all final mem
    rw [decide_eq_true_eq] at wide
    omega
  have tiles := tiles_evenRanges size first le
  rw [← even] at tiles
  generalize (ranges.countP fun range => width range = size + 1) = extra at even tiles lt
  have total : extra + ranges.length * size = (final.2 - first + 1).toNat := by
    rw [tiles.closes final ends, Nat.mul_comm]
    omega
  obtain ⟨quotient, remainder⟩ := (Nat.div_mod_unique (by omega)).2 ⟨total, lt⟩
  rw [quotient, remainder]
  exact even

/-! ### What is divided and what is refused -/

/-- A range with epochs is divided by quotient and remainder, and there is a part to divide it
by. -/
lemma exists_splitEpochs_eq (nonempty : first ≤ last) (staffed : 1 ≤ parts) :
    ∃ count : Nat, 0 < count ∧ (count : Int) = min parts (last - first + 1) ∧
      splitEpochs first last parts = .ok
        (evenRanges ((last - first + 1).toNat / count) first
          ((last - first + 1).toNat % count) count) := by
  refine ⟨min parts.toNat (last - first + 1).toNat, by omega, by omega, ?_⟩
  rw [splitEpochs, if_neg (by omega), if_neg (by omega)]

/-- A range of epochs that is divided among workers is tiled by their parts. -/
lemma exists_tiles_of_splitEpochs {first last workers : Int} (nonempty : first ≤ last)
    (staffed : 1 ≤ workers) : ∃ ranges, splitEpochs first last workers = .ok ranges ∧
      Tiles first (last - first + 1).toNat ranges := by
  obtain ⟨count, positive, -, split⟩ := exists_splitEpochs_eq nonempty staffed
  exact ⟨_, split, tiles_div_mod first _ positive⟩

lemma splitEpochs_eq_error_iff {e : ScanError} : splitEpochs first last parts = .error e ↔
    (last < first ∧ e = .endBeforeStart last first) ∨
    (first ≤ last ∧ parts ≤ 0 ∧ e = .noParts) := by
  constructor
  · intro refused
    rcases Int.lt_or_le last first with reversed | nonempty
    · rw [splitEpochs, if_pos reversed] at refused
      exact .inl ⟨reversed, (Except.error.inj refused).symm⟩
    · rcases Int.lt_or_le 0 parts with staffed | none
      · obtain ⟨count, -, -, split⟩ := exists_splitEpochs_eq nonempty staffed
        rw [split] at refused
        cases refused
      · rw [splitEpochs, if_neg (by omega), if_pos none] at refused
        exact .inr ⟨nonempty, none, (Except.error.inj refused).symm⟩
  · rintro (⟨reversed, rfl⟩ | ⟨nonempty, none, rfl⟩)
    · rw [splitEpochs, if_pos reversed]
    · rw [splitEpochs, if_neg (by omega), if_pos none]

/-! ### Divisions by zero -/

/-- Quotient and remainder, if there are any: nothing can be divided by zero. -/
def divMod? (total parts : Nat) : Option (Nat × Nat) :=
  if parts = 0 then none else some (total / parts, total % parts)

lemma divMod?_of_pos {total : Nat} (positive : 0 < count) :
    divMod? total count = some (total / count, total % count) :=
  if_neg (Nat.ne_of_gt positive)

/-- `splitEpochs` with a division that fails for a divisor of zero: `none`, if it ever comes to
one. -/
def splitEpochs? (first last parts : Int) : Option (Except ScanError (List (Int × Int))) :=
  if last < first then some (.error (.endBeforeStart last first))
  else if parts ≤ 0 then some (.error .noParts)
  else
    let total := (last - first + 1).toNat
    let parts := min parts.toNat total
    (divMod? total parts).map fun (size, extra) => .ok (evenRanges size first extra parts)

/-- A divisor of zero would be a number of parts that is refused, or a range without epochs. -/
lemma splitEpochs?_eq : splitEpochs? first last parts = some (splitEpochs first last parts) := by
  unfold splitEpochs? splitEpochs
  split_ifs with reversed none
  · rfl
  · rfl
  · have divisor : 0 < min parts.toNat (last - first + 1).toNat := by omega
    simp only [divMod?_of_pos divisor, Option.map_some]

/-- How a range of epochs is divided, and what is refused. -/
structure Division (first last parts : Int) : Prop where
  /-- A range with epochs is divided, and the division is the only even one. -/
  divided : first ≤ last → 1 ≤ parts → ∃ ranges, splitEpochs first last parts = .ok ranges ∧
    ∀ ranges', DividesEvenly first last (min parts (last - first + 1)) ranges' ↔ ranges' = ranges
  /-- A range without epochs is refused, and a number of parts that is not positive, but nothing
  else. -/
  refused_iff : ∀ e, splitEpochs first last parts = .error e ↔
    (last < first ∧ e = .endBeforeStart last first) ∨ (first ≤ last ∧ parts ≤ 0 ∧ e = .noParts)
  /-- No division is by zero. -/
  divisible : splitEpochs? first last parts = some (splitEpochs first last parts)

/-- A range of epochs is divided evenly into the parts that are asked for, as far as there are
epochs. -/
theorem splitEpochs_divides (first last parts : Int) : Division first last parts where
  divided nonempty staffed := by
    obtain ⟨count, positive, same, split⟩ := exists_splitEpochs_eq nonempty staffed
    refine ⟨_, split, fun ranges' => ?_⟩
    rw [← same]
    constructor
    · intro even
      exact even.eq_evenRanges
    · rintro rfl
      exact dividesEvenly_evenRanges positive (by omega)
  refused_iff _ := splitEpochs_eq_error_iff
  divisible := splitEpochs?_eq

/-- Epochs of either sign, in parts of three and of two. -/
example : splitEpochs (-2) 7 4 = .ok [(-2, 0), (1, 3), (4, 5), (6, 7)] := by
  decide

end StakeRegistry.OptIn
