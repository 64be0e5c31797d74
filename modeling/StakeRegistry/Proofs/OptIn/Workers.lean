/-
Slots that are found by workers.

A range of epochs is divided into ranges that tile it, each range is scanned by a worker, and what
the workers found is joined in the order in which they finish. Against one scan of the whole range:

* if no worker fails, the scans of the workers are one scan of the whole range, in the order of the
  ranges (`scan_of_scanRanges`), and what is joined is a permutation of it;
* if a worker fails, the scan of the whole range fails at what made the first failing range fail.

The main statement is `findSlots_unscheduled`: on a web whose answers depend only on the address, it
depends neither on the number of workers nor on the order in which they finish whether there is an
error, which slots are found, which addresses are asked for, and which table is written.
-/
import StakeRegistry.Proofs.OptIn.Ranges
import StakeRegistry.Proofs.OptIn.Report
import StakeRegistry.Proofs.OptIn.Scans

namespace StakeRegistry

open Program

/-! ### Orders in which tasks finish -/

namespace FinishingOrder

variable {count : Nat} {α β : Type}

/-- The later a task was given, the earlier it is finished. -/
def inReverse (count : Nat) : FinishingOrder count where
  places := (List.range count).reverse
  perm := List.reverse_perm _

lemma filterMap_range_getElem? {results : List α} :
    (List.range results.length).filterMap (results[·]?) = results := by
  induction results with
  | nil => rfl
  | cons a results ih =>
    rw [List.length_cons, List.range_succ_eq_map, List.filterMap_cons, List.filterMap_map]
    simpa [Function.comp_def] using ih

/-- The results of all tasks are there, in some order. -/
lemma arrange_perm {results : List α} (order : FinishingOrder count) (h : results.length = count) :
    (order.arrange results).Perm results := by
  subst h
  have perm := order.perm.filterMap (results[·]?)
  rwa [filterMap_range_getElem?] at perm

lemma arrange_map {results : List α} {f : α → β} (order : FinishingOrder count) :
    order.arrange (results.map f) = (order.arrange results).map f := by
  rw [arrange, arrange, List.map_filterMap]
  simp

end FinishingOrder

namespace OptIn

open Host

variable {web : String → Except Fault WebResponse} {api : String}
  {validators : Keyed String Validator} {es : List (Event Host)}

/-! ### The scans of the workers -/

lemma scanEpochs_of_count {first : Int} {count : Nat} :
    scanEpochs api validators first (first + count - 1) = scanFrom api validators first count := by
  have h : first + count - 1 - first + 1 = count := by omega
  rw [scanEpochs, h, Int.toNat_natCast]

/-- One range after another is scanned, each to its end or error. -/
lemma runs_scanRanges_cons_iff {range : Int × Int} {ranges : List (Int × Int)}
    {results : List (Except ScanError (List Slot))} :
    Runs (scanRanges api validators (range :: ranges)) es results ↔
      ∃ own rest x xs, es = own ++ rest ∧
      Runs (scanEpochs api validators range.1 range.2).run own x ∧
      Runs (scanRanges api validators ranges) rest xs ∧ results = x :: xs := by
  rw [scanRanges, List.mapM_cons, runs_bind_iff]
  constructor
  · rintro ⟨own, rest, x, rfl, scanned, next⟩
    obtain ⟨rest, ends, xs, rfl, later, ended⟩ := runs_bind_iff.1 next
    obtain ⟨rfl, rfl⟩ := Runs.done_iff.1 ended
    exact ⟨own, rest, x, xs, by rw [List.append_nil], scanned, later, rfl⟩
  · rintro ⟨own, rest, x, xs, rfl, scanned, later, rfl⟩
    refine ⟨own, rest, x, rfl, scanned, runs_bind_iff.2 ⟨rest, [], xs, ?_, later, .done _⟩⟩
    rw [List.append_nil]

lemma length_of_runs_scanRanges {ranges : List (Int × Int)}
    {results : List (Except ScanError (List Slot))}
    (run : Runs (scanRanges api validators ranges) es results) :
    results.length = ranges.length := by
  induction ranges generalizing es results with
  | nil =>
    obtain ⟨-, rfl⟩ := Runs.done_iff.1 run
    rfl
  | cons range ranges ih =>
    obtain ⟨_, _, _, _, -, -, later, rfl⟩ := runs_scanRanges_cons_iff.1 run
    rw [List.length_cons, List.length_cons, ih later]

/-- The scans of ranges that tile epochs, against one scan of these epochs: either all succeed, and
are one scan together, or one fails, and the one scan fails before the scans of later ranges. -/
lemma scan_of_scanRanges {ranges : List (Int × Int)} {first : Int} {count : Nat}
    {results : List (Except ScanError (List Slot))} (tiles : Tiles first count ranges)
    (run : Runs (scanRanges api validators ranges) es results) :
    (∃ found : List (List Slot), results = found.map .ok ∧
      Runs (scanFrom api validators first count).run es (.ok found.flatten)) ∨
    ∃ e own rest, .error e ∈ results ∧ es = own ++ rest ∧
      Runs (scanFrom api validators first count).run own (.error e) := by
  -- along the ranges: a scan of the first one, then one of the epochs after it (`scanFrom_add`)
  induction ranges generalizing es first count results with
  | nil =>
    obtain rfl : count = 0 := tiles
    obtain ⟨rfl, rfl⟩ := Runs.done_iff.1 run
    exact .inl ⟨[], rfl, .done _⟩
  | cons range ranges ih =>
    obtain ⟨ownCount, laterCount, rfl, rfl, tiles⟩ := tiles
    obtain ⟨own, rest, x, xs, rfl, scanned, later, rfl⟩ := runs_scanRanges_cons_iff.1 run
    dsimp only at scanned
    rw [scanEpochs_of_count] at scanned
    rw [scanFrom_add]
    cases x with
    | error e =>
      exact .inr ⟨e, own, rest, List.mem_cons_self, rfl,
        runs_run_bind_iff.2 (.inl ⟨e, rfl, scanned⟩)⟩
    | ok slots =>
      rcases ih tiles later with ⟨found, rfl, all⟩ | ⟨e, own', rest', failed, rfl, fails⟩
      · refine .inl ⟨slots :: found, rfl,
          runs_run_bind_ok_iff.2 ⟨own, rest, slots, rfl, scanned, ?_⟩⟩
        exact runs_run_map_iff.2 ⟨_, all, rfl⟩
      · refine .inr ⟨e, own ++ own', rest', List.mem_cons_of_mem _ failed, ?_, ?_⟩
        · rw [List.append_assoc]
        · refine runs_run_bind_iff.2 (.inr ⟨own, own', slots, rfl, scanned, ?_⟩)
          exact runs_run_map_iff.2 ⟨_, fails, rfl⟩

/-! ### What is joined -/

/-- The error of a worker is not lost. -/
lemma exists_error_of_mapM {results : List (Except ScanError (List Slot))} {e : ScanError}
    (failed : .error e ∈ results) : ∃ e', results.mapM id = .error e' := by
  cases h : results.mapM id with
  | error e' => exact ⟨e', rfl⟩
  | ok found =>
    rw [mapM_id_eq_ok_iff.1 h] at failed
    obtain ⟨slots, -, hslots⟩ := List.mem_map.1 failed
    cases hslots

/-- A run of workers against one scan of the range: either both find the same slots, or both
fail. -/
lemma scan_of_findSlots {first last workers : Int} {r : Except ScanError (List Slot)}
    (nonempty : first ≤ last) (staffed : 1 ≤ workers)
    (run : Runs (findSlots api validators first last workers).run es r)
    (answered : AnsweredByUrl web es) :
    (∃ slots slots' scanned, r = .ok slots' ∧ slots'.Perm slots ∧ AnsweredByUrl web scanned ∧
      requestedUrls scanned = requestedUrls es ∧
      Runs (scanEpochs api validators first last).run scanned (.ok slots)) ∨
    ∃ e e' scanned, r = .error e ∧ AnsweredByUrl web scanned ∧
      Runs (scanEpochs api validators first last).run scanned (.error e') := by
  obtain ⟨ranges, split, tiles⟩ := exists_tiles_of_splitEpochs nonempty staffed
  rw [findSlots, split, Act.orElse_ok_bind] at run
  obtain ⟨order, _, rfl, afterOrder⟩ := Act.runs_ask_bind_iff.1 run
  rw [ExceptT.run_bind_lift] at afterOrder
  obtain ⟨scanned, _, results, rfl, scans, joining⟩ := runs_bind_iff.1 afterOrder
  obtain ⟨x, joined, rfl⟩ := runs_run_map_iff.1 joining
  obtain ⟨rfl, rfl⟩ := Act.runs_orElse_iff.1 joined
  have answered := answered.of_cons
  rw [List.append_nil] at answered
  have length := length_of_runs_scanRanges scans
  rcases scan_of_scanRanges tiles scans with
    ⟨found, rfl, whole⟩ | ⟨e, own, rest, failed, rfl, whole⟩
  · -- the order only permutes what the workers found
    rw [List.length_map] at length
    rw [mapM_id_eq_ok_iff.2 order.arrange_map, List.append_nil]
    exact .inl ⟨found.flatten, _, scanned, rfl, (order.arrange_perm length).flatten,
      answered, rfl, whole⟩
  · -- which error is raised depends on the order, but one is
    obtain ⟨e', joined⟩ := exists_error_of_mapM ((order.arrange_perm length).mem_iff.2 failed)
    rw [joined]
    exact .inr ⟨_, e, own, rfl, (answeredByUrl_append_iff.1 answered).1, whole⟩

/-! ### Scheduling does not matter -/

/-- A run of some number of workers, on a web that answers by the address. -/
def FoundByWorkers (web : String → Except Fault WebResponse) (api : String)
    (validators : Keyed String Validator) (first last : Int) (es : List (Event Host))
    (r : Except ScanError (List Slot)) : Prop :=
  ∃ workers, 1 ≤ workers ∧ Runs (findSlots api validators first last workers).run es r ∧
    AnsweredByUrl web es

/-- Workers that do not fail find the slots of one scan. -/
lemma FoundByWorkers.perm {first last : Int} {slots slots' : List Slot} {es' : List (Event Host)}
    (h : FoundByWorkers web api validators first last es' (.ok slots')) (nonempty : first ≤ last)
    (run : Runs (scanEpochs api validators first last).run es (.ok slots))
    (answered : AnsweredByUrl web es) :
    slots'.Perm slots ∧ requestedUrls es' = requestedUrls es := by
  obtain ⟨workers, staffed, run', answered'⟩ := h
  rcases scan_of_findSlots nonempty staffed run' answered' with
    ⟨_, _, scanned, ended, perm, answered', urls, scan⟩ | ⟨_, _, _, ended, -⟩
  · cases ended
    obtain ⟨same, asked⟩ := agree_scanFrom _ _ _ _ run scan answered answered'
    cases same
    exact ⟨perm, urls.symm.trans asked.symm⟩
  · cases ended

/-- What workers find in a range of epochs, however many they are and in whatever order they finish,
is what one scan of the range finds, which asked `es` with the result `r`. -/
structure Unscheduled (web : String → Except Fault WebResponse) (api : String)
    (validators : Keyed String Validator) (first last : Int) (es : List (Event Host))
    (r : Except ScanError (List Slot)) : Prop where
  /-- Workers fail exactly if the scan fails. -/
  fails_iff : ∀ es' r', FoundByWorkers web api validators first last es' r' →
    ((∃ e, r' = .error e) ↔ ∃ e, r = .error e)
  /-- The scan deals with the duties of each epoch in their order: it has the entries of those that
  count, and has asked for the duties and for the block of each duty whose proposer is known. -/
  dealt : ∀ slots, r = .ok slots → ∃ scans : List (EpochScan web api validators),
    scans.map EpochScan.epoch = epochsFrom first (last - first + 1).toNat ∧
    scans.flatMap EpochScan.slots = slots ∧ scans.flatMap EpochScan.urls = requestedUrls es
  /-- Workers find the same slots, and ask for the same addresses. -/
  found : ∀ slots es' slots', r = .ok slots →
    FoundByWorkers web api validators first last es' (.ok slots') →
    slots'.Perm slots ∧ (requestedUrls es').Perm (requestedUrls es)
  /-- If the slots have distinct numbers, there is one table of them: by the block of the validator,
  then by the number. -/
  table : ∀ slots, r = .ok slots → (slots.map Slot.number).Nodup →
    ∃ sorted : List Slot, sorted.Perm slots ∧ sorted.Pairwise Slot.Precedes ∧
      ∀ es' slots', FoundByWorkers web api validators first last es' (.ok slots') →
        ∀ path written r', Runs (exportSlots path slots').run written r' →
          writes written = [(path, Csv.ofRecords (slotHeader :: sorted.map Slot.row))]

/-- If the web answers by the address alone, neither the number of workers nor the order in which
they finish has an effect on what is found and written. -/
theorem findSlots_unscheduled {first last : Int} {r : Except ScanError (List Slot)}
    (nonempty : first ≤ last) (run : Runs (scanEpochs api validators first last).run es r)
    (answered : AnsweredByUrl web es) : Unscheduled web api validators first last es r where
  fails_iff := by
    rintro es' r' ⟨workers, staffed, run', answered'⟩
    rcases scan_of_findSlots nonempty staffed run' answered' with
      ⟨slots, slots', scanned, rfl, -, answered', -, scan⟩ | ⟨e, e', scanned, rfl, answered', scan⟩
    · obtain ⟨rfl, -⟩ := agree_scanFrom _ _ _ _ run scan answered answered'
      simp
    · obtain ⟨rfl, -⟩ := agree_scanFrom _ _ _ _ run scan answered answered'
      simp
  dealt := by
    rintro slots rfl
    exact exists_epochScans_of_runs run answered
  found := by
    rintro slots es' slots' rfl h
    obtain ⟨perm, urls⟩ := h.perm nonempty run answered
    exact ⟨perm, .of_eq urls⟩
  table := by
    rintro slots rfl distinct
    refine ⟨slots.mergeSort Slot.before, List.mergeSort_perm _ _,
      pairwise_precedes_mergeSort distinct, ?_⟩
    intro es' slots' h path written r' exported
    obtain ⟨perm, -⟩ := h.perm nonempty run answered
    rw [writes_of_runs_exportSlots exported, mergeSort_before_eq_of_perm perm distinct]

/-! ### Two epochs -/

/-- A validator that counts from block 7 on. -/
def earlyBird : Validator :=
  { pubkey := "ab", block := 7, kind := "vanilla", podOwner := "", vault := "", operator := "",
    withdrawalAddress := "" }

/-- A web that tells three duties in two epochs, two of them of the validator. -/
def twoEpochs (url : String) : Except Fault WebResponse :=
  let braced (members : String) : String := "\x7b" ++ members ++ "\x7d"
  let duty (key number : String) : String :=
    braced ("\"pubkey\":\"" ++ key ++ "\",\"slot\":\"" ++ number ++ "\"")
  let block (number : String) : String := braced ("\"message\":" ++ braced ("\"body\":" ++
    braced ("\"execution_payload\":" ++ braced ("\"block_number\":" ++ number))))
  let tell (data : String) : Except Fault WebResponse := .ok ⟨200, braced ("\"data\":" ++ data)⟩
  if url = Beacon.dutiesUrl "" 0 then tell ("[" ++ duty "0xAB" "3" ++ "]")
  else if url = Beacon.dutiesUrl "" 1 then tell
    ("[" ++ duty "cd" "39" ++ "," ++ duty "ab" "40" ++ "]")
  else if url = Beacon.blockUrl "" 3 then tell (block "7")
  else if url = Beacon.blockUrl "" 40 then tell (block "9")
  else unreached

/-- The events of one scan of both epochs. -/
def scannedOnce : List (Event Host) :=
  (scanEpochs "" [("ab", earlyBird)] 0 1).run.trace (onWeb twoEpochs FinishingOrder.inTurn) ()

/-- The events of two workers, the second of which finishes first. -/
def scannedByTwo : List (Event Host) :=
  (findSlots "" [("ab", earlyBird)] 0 1 2).run.trace (onWeb twoEpochs FinishingOrder.inReverse) ()

theorem findSlots_unscheduled_of_two_workers :
    (0 : Int) ≤ 1 ∧
    Runs (scanEpochs "" [("ab", earlyBird)] 0 1).run scannedOnce
      (.ok [⟨3, 7, earlyBird⟩, ⟨40, 9, earlyBird⟩]) ∧
    AnsweredByUrl twoEpochs scannedOnce ∧
    FoundByWorkers twoEpochs "" [("ab", earlyBird)] 0 1 scannedByTwo
      (.ok [⟨40, 9, earlyBird⟩, ⟨3, 7, earlyBird⟩]) ∧
    Unscheduled twoEpochs "" [("ab", earlyBird)] 0 1 scannedOnce
      (.ok [⟨3, 7, earlyBird⟩, ⟨40, 9, earlyBird⟩]) := by
  have once : ((scanEpochs "" [("ab", earlyBird)] 0 1).run.run
      (onWeb twoEpochs FinishingOrder.inTurn) ()).1 =
      .ok [⟨3, 7, earlyBird⟩, ⟨40, 9, earlyBird⟩] := by decide +kernel
  have byTwo : ((findSlots "" [("ab", earlyBird)] 0 1 2).run.run
      (onWeb twoEpochs FinishingOrder.inReverse) ()).1 =
      .ok [⟨40, 9, earlyBird⟩, ⟨3, 7, earlyBird⟩] := by decide +kernel
  have run : Runs (scanEpochs "" [("ab", earlyBird)] 0 1).run scannedOnce
      (.ok [⟨3, 7, earlyBird⟩, ⟨40, 9, earlyBird⟩]) := by
    rw [← once]
    exact runs_trace _ _ _
  have run' : Runs (findSlots "" [("ab", earlyBird)] 0 1 2).run scannedByTwo
      (.ok [⟨40, 9, earlyBird⟩, ⟨3, 7, earlyBird⟩]) := by
    rw [← byTwo]
    exact runs_trace _ _ _
  exact ⟨by decide, run, answeredByUrl_trace, ⟨2, by decide, run', answeredByUrl_trace⟩,
    findSlots_unscheduled (by decide) run answeredByUrl_trace⟩

end OptIn
end StakeRegistry
