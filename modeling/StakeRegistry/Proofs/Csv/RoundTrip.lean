/-
Records are read as they were written, but for carriage returns.

A field is read character by character: between quotes every character stands for itself
(`recordsFrom_doubled`), and so does, without quotes, every character that divides nothing
(`recordsFrom_plain`). A carriage return does end a record but does not force its field between
quotes. A field with one is therefore kept only if another character forces it between quotes
(`IsKept`), and records are read as they were written exactly if all their fields are kept
(`records_ofRecords_iff`).
-/
import Mathlib.Data.List.Basic
import Mathlib.Tactic.Lemma
import StakeRegistry.Csv.Writer

namespace StakeRegistry.Csv

variable {o : Open} {c : Char} {cs rest : List Char} {s : String} {fs r : List String}
  {rs : List (List String)} {stopped : Option ReadError} {place : Place}

/-! ### One character -/

lemma recordsFrom_of_not_isLineEnd (inside : Text.isLineEnd c = false) :
    recordsFrom stopped o (c :: rest) = recordsFrom stopped (o.step c) rest := by
  have noReturn : c ≠ '\r' := by
    rintro rfl
    cases inside
  rw [recordsFrom]
  · rw [if_pos (.inr (by simp [inside]))]
  · exact fun r h => absurd h noReturn

lemma step_of_quoted (quoted : o.place = .quoted) (other : c ≠ '"') :
    o.step c = o.push .quoted c := by
  rw [Open.step, quoted]
  simp [other]

/-- Between quotes no character ends a record. -/
lemma recordsFrom_of_quoted (quoted : o.place = .quoted) :
    recordsFrom stopped o (c :: rest) = recordsFrom stopped (o.step c) rest := by
  by_cases pair : c = '\r' ∧ ∃ r, rest = '\n' :: r
  · obtain ⟨rfl, r, rfl⟩ := pair
    -- of a pair of the two, one is read after the other
    have first := step_of_quoted (c := '\r') quoted (by decide)
    have second : (o.push .quoted '\r').step '\n' = (o.push .quoted '\r').push .quoted '\n' :=
      step_of_quoted rfl (by decide)
    have next : recordsFrom stopped (o.push .quoted '\r') ('\n' :: r) =
        recordsFrom stopped ((o.push .quoted '\r').step '\n') r := by
      rw [recordsFrom]
      · exact if_pos (.inl rfl)
      · exact fun r h => absurd h (by decide)
    rw [recordsFrom, if_pos quoted, first, next, second]
  · rw [recordsFrom]
    · exact if_pos (.inl quoted)
    · rintro r rfl rfl
      exact pair ⟨rfl, r, rfl⟩

/-- A line feed outside quotes ends the record. -/
lemma recordsFrom_newline (outside : o.place ≠ .quoted) (short : o.isTooLong = false) :
    recordsFrom stopped o ('\n' :: rest) = (recordsFrom stopped {} rest).cons o.record := by
  rw [recordsFrom]
  · rw [if_neg, if_neg]
    · simp [short]
    · simp [outside, Text.isLineEnd]
  · exact fun r h => absurd h (by decide)

/-- A comma outside quotes ends the field. -/
lemma step_comma (outside : o.place ≠ .quoted) : o.step ',' = o.next := by
  rw [Open.step]
  split <;> first | rfl | contradiction

/-! ### One field -/

/-- What is read between quotes are the characters, and the quote behind them closes the field. -/
lemma recordsFrom_doubled (quoted : o.place = .quoted) :
    recordsFrom stopped o (doubled cs ++ '"' :: rest) =
      recordsFrom stopped { o with place := .afterQuote, field := cs.reverse ++ o.field } rest := by
  induction cs generalizing o with
  | nil =>
    rw [doubled, List.nil_append, recordsFrom_of_quoted quoted, Open.step, quoted]
    rfl
  | cons c cs ih =>
    rw [doubled]
    split_ifs with quote
    · subst quote
      have closed : o.step '"' = { o with place := .afterQuote } := by
        rw [Open.step, quoted]
        rfl
      rw [List.cons_append, recordsFrom_of_quoted quoted, closed, List.cons_append,
        recordsFrom_of_not_isLineEnd (by decide)]
      rw [show ({ o with place := .afterQuote } : Open).step '"' =
        o.push .quoted '"' from rfl, ih rfl]
      simp [Open.push]
    · rw [List.cons_append, recordsFrom_of_quoted quoted, step_of_quoted quoted quote, ih rfl]
      simp [Open.push]

/-- Characters that divide nothing are read as they are behind a first one. -/
lemma recordsFrom_plain (plain : o.place = .plain)
    (inside : ∀ c ∈ cs, c ≠ ',' ∧ Text.isLineEnd c = false) :
    recordsFrom stopped o (cs ++ rest) =
      recordsFrom stopped { o with field := cs.reverse ++ o.field } rest := by
  induction cs generalizing o with
  | nil => rfl
  | cons c cs ih =>
    obtain ⟨⟨noComma, noEnd⟩, inside⟩ := List.forall_mem_cons.1 inside
    have pushed : o.step c = o.push .plain c := by
      rw [Open.step, plain]
      simp [noComma]
    rw [List.cons_append, recordsFrom_of_not_isLineEnd noEnd, pushed, ih rfl inside]
    simp [Open.push, plain]

/-- The field is about to begin. -/
def Place.IsStart (place : Place) : Prop :=
  place = .recordStart ∨ place = .fieldStart

/-- Characters without quotes are read as they are at the beginning of a field. -/
lemma recordsFrom_unquoted (start : place.IsStart)
    (inside : ∀ c ∈ cs, needsQuotes c = false ∧ c ≠ '\r') :
    recordsFrom stopped ⟨place, fs, []⟩ (cs ++ rest) =
      recordsFrom stopped ⟨if cs = [] then place else .plain, fs, cs.reverse⟩ rest := by
  have plain : ∀ c ∈ cs, c ≠ '"' ∧ c ≠ ',' ∧ Text.isLineEnd c = false := by
    intro c hc
    obtain ⟨free, noReturn⟩ := inside c hc
    simp only [needsQuotes, Bool.or_eq_false_iff, decide_eq_false_iff_not] at free
    exact ⟨free.1.2, free.1.1, by simp [Text.isLineEnd, free.2, noReturn]⟩
  cases cs with
  | nil => rfl
  | cons c cs =>
    obtain ⟨⟨noQuote, noComma, noEnd⟩, others⟩ := List.forall_mem_cons.1 plain
    have pushed : (⟨place, fs, []⟩ : Open).step c = ⟨.plain, fs, [c]⟩ := by
      rcases start with rfl | rfl <;> simp [Open.step, noQuote, noComma, Open.push]
    rw [List.cons_append, recordsFrom_of_not_isLineEnd noEnd, pushed,
      recordsFrom_plain rfl fun c hc => (others c hc).2]
    simp

/-- A text is kept in a table: it is not too long, and with a carriage return it stands between
quotes. -/
structure IsKept (s : String) : Prop where
  short : s.length ≤ maxField
  quoted : '\r' ∈ s.toList → s.toList.any needsQuotes = true

instance (s : String) : Decidable (IsKept s) :=
  decidable_of_iff (s.length ≤ maxField ∧ ('\r' ∈ s.toList → s.toList.any needsQuotes = true))
    ⟨fun h => ⟨h.1, h.2⟩, fun h => ⟨h.short, h.quoted⟩⟩

/-- Where the reader stands behind a field. -/
def Place.behind (place : Place) (s : String) : Place :=
  if s.toList.any needsQuotes then .afterQuote else if s = "" then place else .plain

lemma behind_ne_quoted (start : place.IsStart) : place.behind s ≠ .quoted := by
  rw [Place.behind]
  rcases start with rfl | rfl <;> split_ifs <;> decide

/-- A field is read as it was written. -/
lemma recordsFrom_writtenField (start : place.IsStart)
    (quoted : '\r' ∈ s.toList → s.toList.any needsQuotes = true) :
    recordsFrom stopped ⟨place, fs, []⟩ (writtenField s ++ rest) =
      recordsFrom stopped ⟨place.behind s, fs, s.toList.reverse⟩ rest := by
  rw [writtenField, Place.behind]
  split_ifs with needs empty
  · have opened : (⟨place, fs, []⟩ : Open).step '"' = ⟨.quoted, fs, []⟩ := by
      rcases start with rfl | rfl <;> rfl
    rw [List.cons_append, List.cons_append, List.append_assoc, List.singleton_append,
      recordsFrom_of_not_isLineEnd (by decide), opened, recordsFrom_doubled rfl, List.append_nil]
  · subst empty
    rfl
  · rw [recordsFrom_unquoted start]
    · simp [empty]
    · simp only [List.any_eq_true, not_exists, not_and, Bool.not_eq_true] at needs
      refine fun c hc => ⟨needs c hc, ?_⟩
      rintro rfl
      obtain ⟨d, hd, own⟩ := List.any_eq_true.1 (quoted hc)
      rw [needs d hd] at own
      cases own

/-! ### One record -/

lemma isTooLong_eq_false (short : s.length ≤ maxField) (shorts : ∀ f ∈ fs, f.length ≤ maxField) :
    Open.isTooLong ⟨place, fs, s.toList.reverse⟩ = false := by
  simpa [Open.isTooLong] using ⟨short, shorts⟩

/-- The fields of a record are read as they were written. -/
lemma recordsFrom_writtenFields (start : place.IsStart) (kept : ∀ f ∈ s :: r, IsKept f)
    (shorts : ∀ f ∈ fs, f.length ≤ maxField) (filled : place = .recordStart → s :: r ≠ [""]) :
    recordsFrom stopped ⟨place, fs, []⟩ (writtenFields (s :: r) ++ '\n' :: rest) =
      (recordsFrom stopped {} rest).cons (fs.reverse ++ s :: r) := by
  induction r generalizing place fs s with
  | nil =>
    obtain ⟨kept, -⟩ := List.forall_mem_cons.1 kept
    rw [writtenFields, recordsFrom_writtenField start kept.quoted,
      recordsFrom_newline (o := ⟨place.behind s, fs, s.toList.reverse⟩) (behind_ne_quoted start)
        (isTooLong_eq_false kept.short shorts)]
    have begun : place.behind s ≠ .recordStart := by
      rw [Place.behind]
      split_ifs with needs empty
      · decide
      · exact fun first => filled first (by rw [empty])
      · decide
    simp [Open.record, begun, Open.close]
  | cons s' r ih =>
    obtain ⟨own, others⟩ := List.forall_mem_cons.1 kept
    rw [writtenFields, List.append_assoc, recordsFrom_writtenField start own.quoted,
      List.cons_append, recordsFrom_of_not_isLineEnd (by decide),
      step_comma (o := ⟨place.behind s, fs, s.toList.reverse⟩) (behind_ne_quoted start)]
    · rw [show Open.next ⟨place.behind s, fs, s.toList.reverse⟩ = ⟨.fieldStart, s :: fs, []⟩ by
        simp [Open.next]]
      rw [ih (.inr rfl) others (List.forall_mem_cons.2 ⟨own.short, shorts⟩) nofun]
      simp
    · exact List.cons_ne_nil s' r

/-- A record is read as it was written. -/
lemma recordsFrom_writtenRecord (kept : ∀ f ∈ r, IsKept f) :
    recordsFrom stopped {} (writtenRecord r ++ rest) = (recordsFrom stopped {} rest).cons r := by
  rw [writtenRecord]
  split_ifs with blank
  · subst blank
    rfl
  · rw [List.append_assoc, List.singleton_append]
    cases r with
    | nil => rfl
    | cons s r =>
      exact recordsFrom_writtenFields (.inl rfl) kept (List.forall_mem_nil _) fun _ => blank

/-- Records whose fields are kept are read as they were written. -/
lemma records_ofRecords (kept : ∀ r ∈ rs, ∀ f ∈ r, IsKept f) :
    records { text := ofRecords rs } = { records := rs } := by
  rw [records, ofRecords, String.toList_ofList]
  induction rs with
  | nil => rfl
  | cons r rs ih =>
    obtain ⟨own, others⟩ := List.forall_mem_cons.1 kept
    rw [List.flatMap_cons, recordsFrom_writtenRecord own, ih others]
    rfl

/-! ### Fields that are not kept -/

/-- A field that is too long stays too long. -/
lemma isTooLong_push (long : o.isTooLong = true) : (o.push place c).isTooLong = true := by
  rw [Open.isTooLong, Bool.or_eq_true, decide_eq_true_eq] at long ⊢
  exact long.imp_left Nat.lt_succ_of_lt

lemma isTooLong_step (long : o.isTooLong = true) : (o.step c).isTooLong = true := by
  have next : o.next.isTooLong = true := by
    simp only [Open.isTooLong, Bool.or_eq_true, decide_eq_true_eq] at long
    rcases long with open' | closed
    · simp [Open.isTooLong, Open.next, open']
    · simp [Open.isTooLong, Open.next, closed]
  rw [Open.step]
  split <;> split_ifs <;> first | exact long | exact next | exact isTooLong_push long

/-- A record with a field that is too long stops the reading. -/
lemma stopped_of_isTooLong (long : o.isTooLong = true) :
    (recordsFrom stopped o cs).stopped ≠ none := by
  fun_induction recordsFrom stopped o cs with
  | case1 => simp
  | case2 o short | case3 o short => exact absurd long short
  | case4 o r quoted ih => exact ih (isTooLong_push (isTooLong_push long))
  | case5 => simp
  | case6 o r quoted short => exact absurd long short
  | case7 o c r pair inside ih => exact ih (isTooLong_step long)
  | case8 => simp
  | case9 o c r pair inside short => exact absurd long short

/-- A carriage return outside quotes ends the record. -/
lemma recordsFrom_return (outside : o.place ≠ .quoted) :
    (recordsFrom stopped o ('\r' :: rest)).stopped ≠ none ∨
      (recordsFrom stopped o ('\r' :: rest)).records.head? = some o.record := by
  by_cases long : o.isTooLong = true
  · exact .inl (stopped_of_isTooLong long)
  · refine .inr ?_
    by_cases pair : ∃ r, rest = '\n' :: r
    · obtain ⟨r, rfl⟩ := pair
      rw [recordsFrom, if_neg outside, if_neg long]
      rfl
    · rw [recordsFrom]
      · rw [if_neg (by simp [outside, Text.isLineEnd]), if_neg long]
        rfl
      · exact fun r _ h => pair ⟨r, h⟩

/-- What is read is not the one record, if anything is read to its end. -/
def Loses (rs : Records) (r : List String) : Prop :=
  rs.stopped ≠ none ∨ rs.records.head? ≠ some r

/-- A field that is not kept stops the reading or is read as another one. -/
lemma loses_of_not_isKept (start : place.IsStart) (lost : ¬ IsKept s) :
    Loses (recordsFrom stopped ⟨place, fs, []⟩ (writtenField s ++ rest))
      (fs.reverse ++ s :: r) := by
  by_cases quoted : '\r' ∈ s.toList → s.toList.any needsQuotes = true
  · have long : ¬ s.length ≤ maxField := fun short => lost ⟨short, quoted⟩
    rw [recordsFrom_writtenField start quoted]
    refine .inl (stopped_of_isTooLong ?_)
    simp only [Open.isTooLong, List.length_reverse, String.length_toList, Bool.or_eq_true,
      decide_eq_true_eq]
    exact .inl (by omega)
  · rw [Classical.not_imp, Bool.not_eq_true] at quoted
    obtain ⟨mem, free⟩ := quoted
    rw [List.any_eq_false] at free
    -- the carriage return ends the record, and the field behind what stands before it
    obtain ⟨before, after, split, first⟩ := List.eq_append_cons_of_mem mem
    have inside : ∀ c ∈ before, needsQuotes c = false ∧ c ≠ '\r' := by
      intro c hc
      have own := free c (by rw [split]; exact List.mem_append_left _ hc)
      exact ⟨by simpa using own, fun same => first (same ▸ hc)⟩
    have unquoted : writtenField s = s.toList := by
      rw [writtenField, if_neg]
      rw [Bool.not_eq_true, List.any_eq_false]
      exact free
    have outside : (if before = [] then place else .plain) ≠ Place.quoted := by
      rcases start with rfl | rfl <;> split_ifs <;> exact nofun
    rw [unquoted, split, List.append_assoc, recordsFrom_unquoted start inside, List.cons_append]
    generalize (if before = [] then place else Place.plain) = reached at outside
    rcases recordsFrom_return (o := ⟨reached, fs, before.reverse⟩) outside with stops | cut
    · exact .inl stops
    · refine .inr fun same => ?_
      rw [cut, Option.some.injEq, Open.record] at same
      split_ifs at same
      · simp at same
      · have cutField : String.ofList before = s ∧ [] = r := by simpa [Open.close] using same
        rw [← cutField.1, String.toList_ofList] at mem
        exact first mem

lemma loses_writtenFields (start : place.IsStart) (lost : ∃ f ∈ s :: r, ¬ IsKept f) :
    Loses (recordsFrom stopped ⟨place, fs, []⟩ (writtenFields (s :: r) ++ '\n' :: rest))
      (fs.reverse ++ s :: r) := by
  induction r generalizing place fs s with
  | nil =>
    obtain ⟨f, mem, lost⟩ := lost
    exact loses_of_not_isKept start (List.mem_singleton.1 mem ▸ lost)
  | cons s' r ih =>
    rw [writtenFields, List.append_assoc]
    · by_cases own : IsKept s
      · have others : ∃ f ∈ s' :: r, ¬ IsKept f := by
          obtain ⟨f, mem, lost⟩ := lost
          rcases List.mem_cons.1 mem with rfl | mem
          · exact absurd own lost
          · exact ⟨f, mem, lost⟩
        rw [recordsFrom_writtenField start own.quoted, List.cons_append,
          recordsFrom_of_not_isLineEnd (by decide),
          step_comma (o := ⟨place.behind s, fs, s.toList.reverse⟩) (behind_ne_quoted start)]
        have next : Loses
            (recordsFrom stopped ⟨.fieldStart, s :: fs, []⟩
              (writtenFields (s' :: r) ++ '\n' :: rest))
            ((s :: fs).reverse ++ s' :: r) := ih (.inr rfl) others
        simpa [Open.next] using next
      · exact loses_of_not_isKept start own
    · exact List.cons_ne_nil s' r

lemma loses_writtenRecord (lost : ∃ f ∈ r, ¬ IsKept f) :
    Loses (recordsFrom stopped {} (writtenRecord r ++ rest)) r := by
  obtain ⟨f, mem, other⟩ := lost
  rw [writtenRecord]
  split_ifs with blank
  · subst blank
    obtain rfl := List.mem_singleton.1 mem
    exact absurd ⟨by decide, by decide⟩ other
  · cases r with
    | nil => cases mem
    | cons s r =>
      rw [List.append_assoc, List.singleton_append]
      exact loses_writtenFields (.inl rfl) ⟨f, mem, other⟩

/-- Records are read as they were written exactly if their fields are kept. -/
theorem records_ofRecords_iff :
    records { text := ofRecords rs } = { records := rs } ↔ ∀ r ∈ rs, ∀ f ∈ r, IsKept f := by
  refine ⟨fun same => ?_, records_ofRecords⟩
  rw [records, ofRecords, String.toList_ofList] at same
  induction rs with
  | nil => exact List.forall_mem_nil _
  | cons r rs ih =>
    by_cases own : ∀ f ∈ r, IsKept f
    · rw [List.flatMap_cons, recordsFrom_writtenRecord own] at same
      refine List.forall_mem_cons.2 ⟨own, ih ?_⟩
      rcases hrest : recordsFrom none {} (rs.flatMap writtenRecord) with ⟨read, stops⟩
      rw [hrest] at same
      simpa [Records.cons] using same
    · have loses : Loses (recordsFrom none {} (writtenRecord r ++ rs.flatMap writtenRecord)) r :=
        loses_writtenRecord (by simpa using own)
      rw [List.flatMap_cons] at same
      rw [same] at loses
      rcases loses with stops | other
      · exact absurd rfl stops
      · exact absurd rfl other

end StakeRegistry.Csv
