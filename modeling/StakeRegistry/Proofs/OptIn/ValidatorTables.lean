/-
Tables of validators that are written and read.

A row of a validator is read as the validator (`ValidatorRow.ofRecord_row`); a row with too few
columns or without a block is left out and told (`validator?_eq_none_iff`). What a table gives are
therefore the validators in its rows, under their keys (`runs_loadValidators`), whatever rows that
are left out stand among them (`Inserts`). A table that was written gives the validators that were
written, as long as their texts are kept (`validators_kept`).
-/
import StakeRegistry.Proofs.Keyed
import StakeRegistry.Proofs.OptIn.TableFiles

namespace StakeRegistry.OptIn

open Program FileTree

variable {vs : List Validator} {v : Validator} {row : List String} {rows rows' : List (List String)}
  {header : List String} {path : Path} {t t' : FileTree} {trace : List (Event Host)}

/-! ### Rows -/

/-- The texts in the row of a validator. -/
def Validator.texts (v : Validator) : List String :=
  [v.pubkey, v.kind, v.podOwner, v.vault, v.operator, v.withdrawalAddress]

/-- The fields of a row are kept exactly if its texts are. -/
lemma Validator.isKept_row_iff (h : Numeral.IsReadable v.block) :
    (∀ f ∈ v.row, Csv.IsKept f) ↔ ∀ text ∈ v.texts, Csv.IsKept text := by
  simp only [Validator.row, Validator.texts, List.forall_mem_cons, isKept_toString h, true_and]

/-- A key stands in the form in which it is looked up: without blanks around it, in small letters,
without a leading `0x`. -/
structure IsNormalKey (k : String) : Prop where
  trimmed : Text.trim k = k
  small : Text.lower k = k
  bare : Text.hasLeading "0x" k = false

instance (k : String) : Decidable (IsNormalKey k) :=
  decidable_of_iff (Text.trim k = k ∧ Text.lower k = k ∧ Text.hasLeading "0x" k = false)
    ⟨fun h => ⟨h.1, h.2.1, h.2.2⟩, fun h => ⟨h.trimmed, h.small, h.bare⟩⟩

lemma normalKey_eq {k : String} (h : IsNormalKey k) : normalKey k = k := by
  rw [normalKey, h.trimmed, h.small, Text.dropLeading, h.bare]
  rfl

/-- The row of a validator is read as the validator. -/
lemma ValidatorRow.ofRecord_row (key : IsNormalKey v.pubkey) (block : Numeral.IsReadable v.block) :
    ValidatorRow.ofRecord v.row = .validator v := by
  rw [Validator.row, ValidatorRow.ofRecord, readInteger_toString block, normalKey_eq key]

/-- The validator in a row, unless the row is left out. -/
def validator? (row : List String) : Option Validator :=
  match ValidatorRow.ofRecord row with
  | .validator v => some v
  | _ => none

/-- What is told of a row that is left out. -/
def leftOutLine? (row : List String) : Option String :=
  match ValidatorRow.ofRecord row with
  | .validator _ => none
  | .tooShort => some ("Error reading CSV record: " ++ quotedRow row)
  | .badBlock text => some ("Error parsing optInBlock: " ++ Text.quoted text)

/-- A row has too few columns, or what stands in the place of its block is no number. -/
def IsLeftOut (row : List String) : Prop :=
  row.length < validatorHeader.length ∨ ∃ text e, row[1]? = some text ∧ readInteger text = .error e

lemma validator?_eq_none_iff : validator? row = none ↔ IsLeftOut row := by
  rw [validator?, IsLeftOut]
  match row with
  | key :: block :: kind :: podOwner :: vault :: operator :: withdrawalAddress :: more =>
    rw [ValidatorRow.ofRecord]
    cases read : readInteger block with
    | ok n => simp [validatorHeader, read]
    | error e => simp [read]
  | [] | [_] | [_, _] | [_, _, _] | [_, _, _, _] | [_, _, _, _, _] | [_, _, _, _, _, _] =>
    simp [ValidatorRow.ofRecord, validatorHeader]

lemma leftOutLine?_of_validator? (h : validator? row = some v) : leftOutLine? row = none := by
  rw [validator?] at h
  rw [leftOutLine?]
  cases read : ValidatorRow.ofRecord row <;> rw [read] at h <;> first | rfl | cases h

/-- The second rows are the first ones, with others among them that are left out. -/
inductive Inserts : List (List String) → List (List String) → Prop where
  | nil : Inserts [] []
  | row {row : List String} {rows rows' : List (List String)} (rest : Inserts rows rows') :
      Inserts (row :: rows) (row :: rows')
  | leftOut {row : List String} {rows rows' : List (List String)} (out : IsLeftOut row)
      (rest : Inserts rows rows') : Inserts rows (row :: rows')

lemma Inserts.filterMap_eq (h : Inserts rows rows') :
    rows'.filterMap validator? = rows.filterMap validator? := by
  induction h with
  | nil => rfl
  | row rest ih => rw [List.filterMap_cons, List.filterMap_cons, ih]
  | leftOut out rest ih => rw [List.filterMap_cons_none (validator?_eq_none_iff.2 out), ih]

/-! ### Reading a table -/

/-- Validators under their keys, a later one in the place of an earlier one. -/
def underKeys (vs : List Validator) : Keyed String Validator :=
  vs.foldl (fun m v => m.put v.pubkey v) []

/-- The lines to the operator. -/
def linesSaid (es : List (Event Host)) : List String :=
  es.filterMap fun e =>
    match e.1 with
    | .say line => some line
    | _ => none

lemma linesSaid_append {es es' : List (Event Host)} :
    linesSaid (es ++ es') = linesSaid es ++ linesSaid es' :=
  List.filterMap_append

/-- Rows give the validators in them, and it is told which ones are left out. -/
lemma runs_validatorsOfRows {found : Keyed String Validator}
    {r : Except TableError (Keyed String Validator)}
    (run : Runs (validatorsOfRows found rows).run trace r) :
    r = .ok ((rows.filterMap validator?).foldl (fun m v => m.put v.pubkey v) found) ∧
      linesSaid trace = rows.filterMap leftOutLine? := by
  induction rows generalizing found trace with
  | nil =>
    obtain ⟨rfl, rfl⟩ := runs_run_pure_iff.1 run
    exact ⟨rfl, rfl⟩
  | cons row rows ih =>
    rw [validatorsOfRows] at run
    rw [List.filterMap_cons, List.filterMap_cons, validator?, leftOutLine?]
    cases read : ValidatorRow.ofRecord row <;> rw [read] at run
    case validator v => exact ih run
    case tooShort =>
      obtain ⟨⟨⟩, rest, rfl, others⟩ := Act.runs_ask_bind_iff.1 run
      obtain ⟨rfl, told⟩ := ih others
      exact ⟨rfl, congrArg _ told⟩
    case badBlock text =>
      obtain ⟨⟨⟩, rest, rfl, others⟩ := Act.runs_ask_bind_iff.1 run
      obtain ⟨rfl, told⟩ := ih others
      exact ⟨rfl, congrArg _ told⟩

lemma local_loadValidators : Uses IsLocal (loadValidators path).run := by
  refine local_reading fun rs => uses_run_bind ?_ fun _ => uses_run_bind local_checkStopped fun _ =>
    uses_run_bind (Act.uses_ask trivial) fun _ => uses_run_pure
  generalize ([] : Keyed String Validator) = found
  induction rs.records.tail generalizing found with
  | nil => exact uses_run_pure
  | cons row rows ih =>
    rw [validatorsOfRows]
    split
    · exact ih _
    · exact uses_run_bind (Act.uses_ask trivial) fun _ => ih _
    · exact uses_run_bind (Act.uses_ask trivial) fun _ => ih _

lemma looks_loadValidators : Uses Looks (loadValidators path).run :=
  local_loadValidators.mono fun _ => IsLocal.looks

/-- A table with these rows behind its header is loaded; these lines are told, and this is the
result. -/
def Loads (path : Path) (header : List String) (rows : List (List String)) (lines : List String)
    (r : Except TableError (Keyed String Validator)) : Prop :=
  ∃ t t' bytes trace, t.read path = .ok bytes ∧
    Csv.records (.ofBytes bytes) = { records := header :: rows } ∧
    Runs (loadValidators path).run trace r ∧ OnFiles t trace t' ∧ linesSaid trace = lines

/-- A table gives the validators in its rows, each under its key. -/
lemma Loads.eq {lines : List String} {r : Except TableError (Keyed String Validator)}
    (h : Loads path header rows lines r) :
    r = .ok (underKeys (rows.filterMap validator?)) ∧
      lines = ("CSV Headers: " ++ quotedRow header) :: (rows.filterMap leftOutLine? ++
        ["Loaded " ++ toString (underKeys (rows.filterMap validator?)).length ++
          " validators from CSV"]) := by
  obtain ⟨t, t', bytes, trace, held, read, run, files, rfl⟩ := h
  obtain ⟨answers, -⟩ := answers_of_looks files (allowed_of_runs looks_loadValidators run)
  obtain ⟨rest, rfl, afterHeader⟩ := runs_reading run answers held read
  rcases runs_run_bind_iff.1 afterHeader with
    ⟨e, rfl, failed⟩ | ⟨own, later, vs, rfl, rows, afterRows⟩
  · cases (runs_validatorsOfRows failed).1
  obtain ⟨hvs, told⟩ := runs_validatorsOfRows rows
  obtain rfl := Except.ok.inj hvs
  obtain ⟨rfl, rfl⟩ := Act.runs_say_pure_iff.1 afterRows
  refine ⟨rfl, ?_⟩
  change _ :: linesSaid (own ++ _) = _
  rw [linesSaid_append, told]
  rfl

/-! ### Writing a table -/

/-- The validators are written in their order, unless the files refuse it. -/
lemma runs_exportValidators {r : Except TableError Unit}
    (run : Runs (exportValidators path vs).run trace r) (files : OnFiles t trace t') :
    (r = .ok () ∧
        t'.read path = .ok (Csv.ofRecords (validatorHeader :: vs.map Validator.row)).toUTF8) ∨
      ∃ f, r = .error (.file f) := by
  rw [exportValidators] at run
  obtain ⟨⟨⟩, rest, rfl, afterLine⟩ := Act.runs_ask_bind_iff.1 run
  obtain ⟨time, -, -, writing⟩ := onFiles_cons_iff.1 files
  rcases runs_writeTable_say afterLine writing with ⟨done, held, -⟩ | refused
  · exact .inl ⟨done, held⟩
  · exact .inr refused

lemma exists_runs_exportValidators {parts : List String} (path : Path) (vs : List Validator)
    (located : t.locate path = .ok parts) (file : t.find? parts ≠ some .directory) :
    ∃ trace, Runs (exportValidators path vs).run trace (.ok ()) ∧ OnFiles t trace (t.putNode parts
      (.file (Csv.ofRecords (validatorHeader :: vs.map Validator.row)).toUTF8 t.clock)) := by
  obtain ⟨trace, run, files⟩ :=
    exists_runs_writeTable_say path validatorHeader (vs.map Validator.row)
    ("Exported " ++ toString vs.length ++ " opted in validators to " ++ path.text) located file
  exact ⟨_ :: trace, Act.runs_ask_bind_iff.2 ⟨(), trace, rfl, run⟩,
    .cons (Int.le_refl _) trivial files⟩

/-! ### From one table to the other -/

/-- A table of validators is read as it was written exactly if its texts are kept. -/
lemma records_validatorTable_iff (readable : ∀ v ∈ vs, Numeral.IsReadable v.block) :
    Csv.records (.ofBytes (Csv.ofRecords (validatorHeader :: vs.map Validator.row)).toUTF8) =
      { records := validatorHeader :: vs.map Validator.row } ↔
      ∀ v ∈ vs, ∀ text ∈ v.texts, Csv.IsKept text := by
  exact records_table_iff isKept_validatorHeader fun v mem =>
    Validator.isKept_row_iff (readable v mem)

/-- The rows of validators give the validators, and none of them is left out. -/
lemma filterMap_row (keys : ∀ v ∈ vs, IsNormalKey v.pubkey)
    (readable : ∀ v ∈ vs, Numeral.IsReadable v.block) :
    (vs.map Validator.row).filterMap validator? = vs ∧
    (vs.map Validator.row).filterMap leftOutLine? = [] := by
  induction vs with
  | nil => exact ⟨rfl, rfl⟩
  | cons v vs ih =>
    obtain ⟨key, keys⟩ := List.forall_mem_cons.1 keys
    obtain ⟨block, readable⟩ := List.forall_mem_cons.1 readable
    obtain ⟨found, told⟩ := ih keys readable
    have own : validator? v.row = some v := by
      rw [validator?, ValidatorRow.ofRecord_row key block]
    rw [List.map_cons, List.filterMap_cons_some own, found,
      List.filterMap_cons_none (leftOutLine?_of_validator? own), told]
    exact ⟨rfl, rfl⟩

/-- Validators are kept from one table to the other, but for texts with a carriage return that are
not put between quotes.

* The rows of a table are read as they were written exactly if the texts in them are kept.
* Validators with kept texts and distinct keys in the form in which they are looked up are loaded as
  they were exported, in their order and each under its own key, and it is told of none that it is
  left out.
* Rows that are left out change nothing of what is loaded, wherever they stand. -/
theorem validators_kept (vs : List Validator) (path : Path) :
    ((∀ v ∈ vs, Numeral.IsReadable v.block) →
      (Csv.records (.ofBytes (Csv.ofRecords (validatorHeader :: vs.map Validator.row)).toUTF8) =
        { records := validatorHeader :: vs.map Validator.row } ↔
          ∀ v ∈ vs, ∀ text ∈ v.texts, Csv.IsKept text)) ∧
    (∀ {t t' : FileTree} {trace : List (Event Host)} {r : Except TableError Unit},
      (∀ v ∈ vs, Numeral.IsReadable v.block) → (∀ v ∈ vs, ∀ text ∈ v.texts, Csv.IsKept text) →
      (∀ v ∈ vs, IsNormalKey v.pubkey) → (vs.map Validator.pubkey).Nodup →
      Runs (exportValidators path vs).run trace r → OnFiles t trace t' →
      (∃ f, r = .error (.file f)) ∨ r = .ok () ∧
        ∀ {later later' : FileTree} {trace' : List (Event Host)}
          {r' : Except TableError (Keyed String Validator)}, later.read path = t'.read path →
          Runs (loadValidators path).run trace' r' → OnFiles later trace' later' →
            r' = .ok (vs.map fun v => (v.pubkey, v)) ∧
            linesSaid trace' = ["CSV Headers: " ++ quotedRow validatorHeader,
              "Loaded " ++ toString vs.length ++ " validators from CSV"]) ∧
    ∀ {path' : Path} {header header' : List String} {rows rows' : List (List String)}
      {lines lines' : List String} {r r' : Except TableError (Keyed String Validator)},
      Inserts rows rows' → Loads path header rows lines r →
      Loads path' header' rows' lines' r' → r' = r := by
  refine ⟨records_validatorTable_iff, ?_, ?_⟩
  · intro t t' trace r readable kept keys distinct run files
    rcases runs_exportValidators run files with ⟨rfl, held⟩ | refused
    · refine .inr ⟨rfl, fun {later later' trace' r'} still run' files' => ?_⟩
      have loads : Loads path validatorHeader (vs.map Validator.row) (linesSaid trace') r' :=
        ⟨later, later', _, trace', still.trans held,
          (records_validatorTable_iff readable).2 kept, run', files', rfl⟩
      have all : underKeys vs = vs.map fun v => (v.pubkey, v) :=
        Keyed.foldl_put_of_nodup Validator.pubkey distinct
      obtain ⟨found, told⟩ := loads.eq
      rw [(filterMap_row keys readable).1, all] at found told
      rw [(filterMap_row keys readable).2, List.length_map, List.nil_append] at told
      exact ⟨found, told⟩
    · exact .inl refused
  · intro path' header header' rows rows' lines lines' r r' inserts loads loads'
    rw [loads.eq.1, loads'.eq.1, inserts.filterMap_eq]

/-- A validator some of whose texts stand between quotes. -/
def quotedValidator : Validator :=
  ⟨"bb", -5, "Va,\r\nnilla", "a \"p\"", "", "o", "w"⟩

/-- A validator whose last text is a line feed. -/
def lateValidator : Validator :=
  ⟨"aa", 7, "Vanilla", "p", "v", "o", "\n"⟩

def twoValidators : List Validator :=
  [quotedValidator, lateValidator]

/-- The rows of the two validators, with a blank line, a row whose block is no number and a row with
two columns among them. -/
def withLeftOut : List (List String) :=
  [[], quotedValidator.row, ["cc", "one", "Vanilla", "p", "v", "o", "w"],
    lateValidator.row, ["dd", "1"]]

lemma inserts_withLeftOut : Inserts (twoValidators.map Validator.row) withLeftOut := by
  have blank : IsLeftOut [] := .inl (by decide)
  have noBlock : IsLeftOut ["cc", "one", "Vanilla", "p", "v", "o", "w"] :=
    .inr ⟨"one", .notInteger "one", rfl, by decide +kernel⟩
  have short : IsLeftOut ["dd", "1"] := .inl (by decide)
  exact .leftOut blank (.row (.leftOut noBlock (.row (.leftOut short .nil))))

lemma twoValidators_kept : (∀ v ∈ twoValidators, Numeral.IsReadable v.block) ∧
    (∀ v ∈ twoValidators, ∀ text ∈ v.texts, Csv.IsKept text) ∧
    ∀ v ∈ twoValidators, IsNormalKey v.pubkey := by
  have small : ∀ v ∈ twoValidators, v.block.natAbs < 1000 := by decide
  exact ⟨fun v mem => isReadable_of_lt (small v mem), by decide, by decide +kernel⟩

/-- The two validators are loaded as they were exported, and so they are from a table with rows
among theirs that are left out. -/
theorem validators_kept_of_twoValidators :
    Csv.records
      (.ofBytes (Csv.ofRecords (validatorHeader :: twoValidators.map Validator.row)).toUTF8) =
      { records := validatorHeader :: twoValidators.map Validator.row } ∧
    ∃ lines lines' r, r = .ok [("bb", quotedValidator), ("aa", lateValidator)] ∧
      Loads (Path.ofText "a") validatorHeader (twoValidators.map Validator.row) lines r ∧
      lines.length = 2 ∧
      Loads (Path.ofText "a") validatorHeader withLeftOut lines' r ∧ lines'.length = 5 := by
  obtain ⟨readable, kept, keys⟩ := twoValidators_kept
  have free : ({ nodes := [] } : FileTree).find? ["a"] ≠ some .directory := nofun
  have loading := runs_trace (Host.onTree NodeCall.offline) (loadValidators (Path.ofText "a")).run
  -- the table of the two validators
  have rows := ((validators_kept twoValidators (Path.ofText "a")).1 readable).2 kept
  obtain ⟨trace, run, files⟩ :=
    exists_runs_exportValidators (Path.ofText "a") twoValidators emptyTree_located free
  rcases (validators_kept twoValidators (Path.ofText "a")).2.1 readable kept keys
    (by decide) run files with
    ⟨f, refused⟩ | ⟨-, loads⟩
  · cases refused
  obtain ⟨found, -⟩ := loads rfl (loading _) (onFiles_trace _ _ _)
  have first : Loads (Path.ofText "a") validatorHeader (twoValidators.map Validator.row) _ _ :=
    ⟨_, _, _, _, read_emptyTree_putNode _ 0, rows, loading _, onFiles_trace _ _ _, rfl⟩
  -- the table with other rows among theirs
  have kept : ∀ row ∈ withLeftOut, ∀ f ∈ row, Csv.IsKept f := by decide
  have read : Csv.records (.ofBytes (Csv.ofRecords (validatorHeader :: withLeftOut)).toUTF8) =
      { records := validatorHeader :: withLeftOut } := by
    rw [SeenText.ofBytes_toUTF8]
    exact Csv.records_ofRecords (List.forall_mem_cons.2 ⟨isKept_validatorHeader, kept⟩)
  have second : Loads (Path.ofText "a") validatorHeader withLeftOut _ _ :=
    ⟨_, _, _, _, read_emptyTree_putNode _ 0, read, loading _, onFiles_trace _ _ _, rfl⟩
  have same :=
    (validators_kept twoValidators (Path.ofText "a")).2.2 inserts_withLeftOut first second
  have leftOut : (withLeftOut.filterMap leftOutLine?).length = 3 := by decide +kernel
  refine ⟨rows, _, _, _, found, first, ?_, same ▸ second, ?_⟩
  · rw [first.eq.2, List.length_cons, List.length_append, (filterMap_row keys readable).2]
    rfl
  · rw [second.eq.2, List.length_cons, List.length_append, leftOut]
    rfl

/-- A text with a carriage return alone is not kept: the record ends there, and the validator is
left out. -/
theorem exported_validator_not_loaded :
    ¬ ∀ {vs : List Validator} {path : Path} {t t' later later' : FileTree}
        {trace trace' : List (Event Host)} {r : Except TableError (Keyed String Validator)},
        (∀ v ∈ vs, Numeral.IsReadable v.block) →
      (∀ v ∈ vs, ∀ text ∈ v.texts, text.length ≤ Csv.maxField) → (∀ v ∈ vs, IsNormalKey v.pubkey) →
      (vs.map Validator.pubkey).Nodup → Runs (exportValidators path vs).run trace (.ok ()) →
      OnFiles t trace t' → later.read path = t'.read path →
      Runs (loadValidators path).run trace' r →
      OnFiles later trace' later' → r = .ok (vs.map fun v => (v.pubkey, v)) := by
  intro loads
  have free : ({ nodes := [] } : FileTree).find? ["a"] ≠ some .directory := nofun
  let vs : List Validator := [⟨"aa", 1, "Va\rnilla", "p", "v", "o", "w"⟩]
  let t' := ({ nodes := [] } : FileTree).putNode ["a"]
    (.file (Csv.ofRecords (validatorHeader :: vs.map Validator.row)).toUTF8 0)
  obtain ⟨trace, run, files⟩ :=
    exists_runs_exportValidators (Path.ofText "a") vs emptyTree_located free
  have readable : ∀ v ∈ vs, Numeral.IsReadable v.block :=
    List.forall_mem_singleton.2 (isReadable_of_lt (by decide))
  have keys : ∀ v ∈ vs, IsNormalKey v.pubkey :=
    List.forall_mem_singleton.2 (by decide +kernel)
  have loading :=
    runs_trace (Host.onTree NodeCall.offline) (loadValidators (Path.ofText "a")).run t'
  have expected :=
    loads readable (by decide) keys (by decide) run files rfl loading (onFiles_trace _ _ _)
  -- the table has two records for the one validator, and both are left out
  have read :
      Csv.records (.ofBytes (Csv.ofRecords (validatorHeader :: vs.map Validator.row)).toUTF8) =
      { records := validatorHeader :: [["aa", "1", "Va"], ["nilla", "p", "v", "o", "w"]] } := by
    rw [SeenText.ofBytes_toUTF8]
    decide +kernel
  have found :
    Loads (Path.ofText "a") validatorHeader
      [["aa", "1", "Va"], ["nilla", "p", "v", "o", "w"]] _ _ :=
    ⟨t', _, _, _, read_emptyTree_putNode _ 0, read, loading, onFiles_trace _ _ _, rfl⟩
  rw [found.eq.1] at expected
  cases expected

end StakeRegistry.OptIn
