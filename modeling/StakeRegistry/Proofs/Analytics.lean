/-
What an answer of the analytics service is taken for.

An answer arrives with a status and a text. The commitments are read from the rows of its document
(`HasRows`), each of which tells of one commitment (`Tells`). An answer that gives no commitments is
refused in one of several ways (`Refuses`), and most of them are told as an error of the service
(`AnalyticsError.IsReported`). Three are not: a document that is too deep, rows that are a truth
value or a number, and a row whose number is infinite (`Unprovided`).

The main statement is `commits_told`.
-/
import StakeRegistry.Analytics
import StakeRegistry.Proofs.Host.Acts
import StakeRegistry.Proofs.Host.Surroundings
import StakeRegistry.Proofs.Keyed

namespace StakeRegistry

namespace Json.Value

variable {v w : Value} {key : String}

/-- A member that has to be there is found in an object. -/
lemma field_eq_ok_iff :
    v.field key = .ok w ↔ ∃ members, v = .object members ∧
    Keyed.find? (key : RawText) members = some w := by
  cases v with
  | object members => cases found : Keyed.find? (key : RawText) members <;> simp [field, found]
  | _ => simp [field]

/-- Why a member that has to be there is not. -/
lemma cause_of_field {cause : ReadError} (h : v.field key = .error cause) :
    cause = .wrongKind ∨ cause = .missingKey key := by
  cases v with
  | object members => cases found : Keyed.find? (key : RawText) members <;> simp_all [field]
  | _ => exact .inl (Except.error.inj h).symm

/-- Infinite numbers are told apart from everything else that is no integer. -/
lemma toInteger_eq_infinite_iff : v.toInteger = .error .infinite ↔
    ∃ negative, v = .real (.infinite negative) := by
  cases v with
  | real x => cases x <;> simp [toInteger]
  | text s =>
    have spelled : readRawInteger s ≠ .error .infinite := by
      rw [readRawInteger]
      split <;> simp
    simpa [toInteger] using spelled
  | _ => simp [toInteger]

end Json.Value

namespace Analytics

open Program

variable {api key text : String} {response : WebResponse} {es : List (Event Host)}
  {row rows : Json.Value} {commit : OpenedCommit} {commits : List OpenedCommit} {e : AnalyticsError}
  {r : Except AnalyticsError (Keyed Int OpenedCommit)}

/-! ### Rows -/

/-- The document of an answer holds rows. -/
def HasRows (text : String) (rows : Json.Value) : Prop :=
  ∃ body response result, Json.Value.ofText text = .ok (.object body) ∧
    Keyed.find? ("syncSqlResponse" : RawText) body = some (.object response) ∧
    Keyed.find? ("result" : RawText) response = some (.object result) ∧
    Keyed.find? ("rows" : RawText) result = some rows

lemma rowsIn_eq_ok_iff : rowsIn text = .ok rows ↔ HasRows text rows := by
  simp only [rowsIn, bind_eq_ok_iff, Json.Value.field_eq_ok_iff]
  constructor
  · rintro ⟨_, document, _, ⟨body, rfl, response⟩, _, ⟨answer, rfl, result⟩, rest, rfl, rows⟩
    exact ⟨body, answer, rest, document, response, result, rows⟩
  · rintro ⟨body, answer, rest, document, response, result, rows⟩
    exact ⟨_, document, _, ⟨body, rfl, response⟩, _, ⟨answer, rfl, result⟩, rest, rfl, rows⟩

/-- A row tells of a commitment. -/
def Tells (row : Json.Value) (commit : OpenedCommit) : Prop :=
  ∃ members number, row = .object members ∧
    Keyed.find? ("blockNumber" : RawText) members = some number ∧
    number.toInteger = .ok commit.blockNumber ∧
    commit.bid = (Keyed.find? ("bidAmt" : RawText) members).getD (.text "") ∧
    commit.hash = (Keyed.find? ("transaction_hash" : RawText) members).getD (.text "")

/-- The number in a row is infinite. -/
def IsEndless (row : Json.Value) : Prop :=
  ∃ members negative, row = .object members ∧
    Keyed.find? ("blockNumber" : RawText) members = some (.real (.infinite negative))

lemma number_eq_ok_iff {n : Int} : (row.field "blockNumber" >>= Json.Value.toInteger) = .ok n ↔
    ∃ members number, row = .object members ∧
      Keyed.find? ("blockNumber" : RawText) members = some number ∧ number.toInteger = .ok n := by
  simp only [bind_eq_ok_iff, Json.Value.field_eq_ok_iff]
  constructor
  · rintro ⟨number, ⟨members, rfl, found⟩, reads⟩
    exact ⟨members, number, rfl, found, reads⟩
  · rintro ⟨members, number, rfl, found, reads⟩
    exact ⟨number, ⟨members, rfl, found⟩, reads⟩

lemma number_eq_infinite_iff :
    (row.field "blockNumber" >>= Json.Value.toInteger) = .error .infinite ↔ IsEndless row := by
  have present : row.field "blockNumber" ≠ .error .infinite := fun missing => by
    cases Json.Value.cause_of_field missing <;> contradiction
  simp only [bind_eq_error_iff, present, false_or, Json.Value.field_eq_ok_iff,
    Json.Value.toInteger_eq_infinite_iff]
  constructor
  · rintro ⟨_, ⟨members, rfl, found⟩, negative, rfl⟩
    exact ⟨members, negative, rfl, found⟩
  · rintro ⟨members, negative, rfl, found⟩
    exact ⟨_, ⟨members, rfl, found⟩, negative, rfl⟩

lemma commitOfRow_eq_ok_iff : commitOfRow row = .ok commit ↔ Tells row commit := by
  rw [commitOfRow]
  cases reads : row.field "blockNumber" >>= Json.Value.toInteger with
  | error cause =>
    refine iff_of_false (by cases cause <;> nofun) ?_
    rintro ⟨members, number, shape, found, read, -⟩
    cases (number_eq_ok_iff.2 ⟨members, number, shape, found, read⟩).symm.trans reads
  | ok n =>
    obtain ⟨members, number, rfl, found, read⟩ := number_eq_ok_iff.1 reads
    constructor
    · intro made
      obtain rfl := Except.ok.inj made
      exact ⟨members, number, rfl, found, read, rfl, rfl⟩
    · rintro ⟨members', number', same, found', read', bid, hash⟩
      obtain rfl := Json.Value.object.inj same
      obtain rfl := Option.some.inj (found.symm.trans found')
      obtain rfl := Except.ok.inj (read.symm.trans read')
      obtain ⟨blockNumber, _, _⟩ := commit
      subst bid hash
      rfl

/-- A row without a number is told; an infinite number is not provided for. -/
lemma commitOfRow_eq_error_iff : commitOfRow row = .error e ↔
    (IsEndless row ∧ e = .unreadable .infinite) ∨
      (¬ IsEndless row ∧ (∀ commit, ¬ Tells row commit) ∧ e = .badRow row.quoted) := by
  have none_told : (∀ commit, ¬ Tells row commit) ↔ ∃ e, commitOfRow row = .error e := by
    cases made : commitOfRow row <;> simp [← commitOfRow_eq_ok_iff, made]
  rw [none_told, ← number_eq_infinite_iff, commitOfRow]
  cases reads : row.field "blockNumber" >>= Json.Value.toInteger with
  | error cause => cases cause <;> simp [throw, throwThe, MonadExceptOf.throw, eq_comm]
  | ok n =>
    obtain ⟨members, number, rfl, -⟩ := number_eq_ok_iff.1 reads
    simp [Json.Value.member, Json.Value.member?, Except.map, pure, Except.pure]

/-! ### Tables -/

/-- The commitments under their blocks, a later one in the place of an earlier one. -/
structure IsTable (table : Keyed Int OpenedCommit) (commits : List OpenedCommit) : Prop where
  /-- No number stands twice. -/
  once : table.keys.Nodup
  /-- Under a number stands the last commitment with it. -/
  last : ∀ number, table.find? number = (commits.filter fun c => c.blockNumber = number).getLast?

/-- The value is a truth value, a number or null. -/
def IsScalar : Json.Value → Prop
  | .null | .bool _ | .int _ | .real _ => True
  | .text _ | .list _ | .object _ => False

lemma isScalar_or_exists_elements (rows : Json.Value) :
    IsScalar rows ∨ ∃ elements, rows.elements = .ok elements := by
  cases rows <;> simp [Json.Value.elements, IsScalar]

lemma IsScalar.elements_eq (scalar : IsScalar rows) : rows.elements = .error .wrongKind := by
  cases rows <;> first | rfl | cases scalar

/-- Rows that can be walked through count as present exactly if there are any. -/
lemma isTruthy_iff {elements : List Json.Value} (read : rows.elements = .ok elements) :
    rows.isTruthy = true ↔ elements ≠ [] := by
  cases rows with
  | list vs | object members =>
    obtain rfl := Except.ok.inj read
    simp [Json.Value.isTruthy]
  | text s =>
    obtain rfl := Except.ok.inj read
    simp [Json.Value.isTruthy, RawText.isEmpty]
  | null | bool | int | real => cases read

/-- A part of rows that are no list is a text, which tells of nothing. -/
lemma not_tells_of_elements {elements : List Json.Value} (read : rows.elements = .ok elements)
    (noList : ∀ list, rows ≠ .list list) : ∀ row ∈ elements, ¬ ∃ commit, Tells row commit := by
  have texts : ∀ row ∈ elements, ∃ s, row = .text s := by
    cases rows with
    | list list => exact absurd rfl (noList list)
    | text s =>
      obtain rfl := Except.ok.inj read
      simp
    | object members =>
      obtain rfl := Except.ok.inj read
      exact List.forall_mem_map.2 fun m _ => ⟨m.1, rfl⟩
    | null | bool | int | real => cases read
  rintro row mem ⟨commit, members, number, shape, -⟩
  obtain ⟨s, rfl⟩ := texts row mem
  cases shape

/-- Rows that cannot be walked through are none, or they are not provided for. -/
lemma commitsOfRows_of_scalar (scalar : IsScalar rows) :
    commitsOfRows rows = if rows.isTruthy then .error (.unreadable .wrongKind) else .ok [] := by
  rw [commitsOfRows, scalar.elements_eq]
  cases rows.isTruthy <;> rfl

/-- The commitments of rows are put under their numbers. -/
lemma commitsOfRows_of_elements {elements : List Json.Value} (read : rows.elements = .ok elements) :
    commitsOfRows rows = (elements.mapM commitOfRow).map fun commits =>
      commits.foldl (fun (m : Keyed Int OpenedCommit) c => m.put c.blockNumber c) [] := by
  rw [commitsOfRows, read]
  cases present : rows.isTruthy with
  | false =>
    obtain rfl : elements = [] := by
      have none := (isTruthy_iff read).not.1 (by simp [present])
      simpa using none
    rfl
  | true =>
    change (elements.mapM commitOfRow >>= fun commits => pure _) = _
    cases elements.mapM commitOfRow <;> rfl

lemma commitsOfRows_eq_ok {table : Keyed Int OpenedCommit} (made : commitsOfRows rows = .ok table) :
    (rows.isTruthy = false ∧ table = []) ∨
      ∃ list commits, rows = .list list ∧ List.Forall₂ Tells list commits ∧
        IsTable table commits := by
  rcases isScalar_or_exists_elements rows with scalar | ⟨elements, read⟩
  · rw [commitsOfRows_of_scalar scalar] at made
    split at made
    · cases made
    next absent => exact .inl ⟨by simpa using absent, (Except.ok.inj made).symm⟩
  · rw [commitsOfRows_of_elements read] at made
    cases each : elements.mapM commitOfRow with
    | error e =>
      rw [each] at made
      cases made
    | ok commits =>
      rw [each] at made
      obtain rfl := Except.ok.inj made
      simp only [mapM_eq_ok_iff, commitOfRow_eq_ok_iff] at each
      by_cases isList : ∃ list, rows = .list list
      · obtain ⟨list, rfl⟩ := isList
        obtain rfl := Except.ok.inj read
        exact .inr ⟨list, commits, rfl, each, Keyed.nodup_keys_foldl_put _ _,
          fun number => Keyed.find?_foldl_put OpenedCommit.blockNumber commits⟩
      · -- no part of the rows tells of a commitment, so that there are none
        have untold := not_tells_of_elements read fun list same => isList ⟨list, same⟩
        cases each with
        | nil => exact .inl ⟨by simpa using (isTruthy_iff read).not.2 (by simp), rfl⟩
        | cons told rest => exact absurd ⟨_, told⟩ (untold _ List.mem_cons_self)

lemma exists_commitsOfRows_iff : (∃ table, commitsOfRows rows = .ok table) ↔
    rows.isTruthy = false ∨ ∃ list, rows = .list list ∧
    ∀ row ∈ list, ∃ commit, Tells row commit := by
  have each_iff {list : List Json.Value} : (∃ commits, list.mapM commitOfRow = .ok commits) ↔
      ∀ row ∈ list, ∃ commit, Tells row commit := by
    simp only [exists_mapM_eq_ok_iff, commitOfRow_eq_ok_iff]
  constructor
  · rintro ⟨table, made⟩
    refine (commitsOfRows_eq_ok made).imp And.left ?_
    rintro ⟨list, commits, rfl, each, -⟩
    exact ⟨list, rfl,
      each_iff.1 ⟨commits, mapM_eq_ok_iff.2 (each.imp fun _ _ => commitOfRow_eq_ok_iff.2)⟩⟩
  · rintro (absent | ⟨list, rfl, each⟩)
    · exact ⟨[], by rw [commitsOfRows, absent]; rfl⟩
    · obtain ⟨commits, made⟩ := each_iff.2 each
      rw [commitsOfRows_of_elements rfl, made]
      exact ⟨_, rfl⟩

/-- The first row that tells of nothing is told, unless its number is infinite. -/
lemma commitsOfRows_eq_error_iff : commitsOfRows rows = .error e ↔
    (IsScalar rows ∧ rows.isTruthy = true ∧ e = .unreadable .wrongKind) ∨
      ∃ before row after, rows.elements = .ok (before ++ row :: after) ∧
        (∀ row ∈ before, ∃ commit, Tells row commit) ∧ commitOfRow row = .error e := by
  rcases isScalar_or_exists_elements rows with scalar | ⟨elements, read⟩
  · rw [commitsOfRows_of_scalar scalar, scalar.elements_eq]
    cases present : rows.isTruthy with
    | false => simp
    | true =>
      simp only [scalar, if_true, Except.error.injEq, true_and, reduceCtorEq, false_and,
        exists_false, or_false]
      exact eq_comm
  · have walked : ¬ IsScalar rows := fun scalar => nomatch scalar.elements_eq.symm.trans read
    rw [commitsOfRows_of_elements read, read]
    simp only [← commitOfRow_eq_ok_iff, walked, false_and, false_or, Except.ok.injEq]
    rw [← mapM_eq_error_iff]
    cases elements.mapM commitOfRow <;> simp [Except.map]

/-! ### Answers -/

/-- What the service is asked. -/
def request (api key : String) : WebRequest where
  method := .post
  url := api
  headers := [("api-key", key)]
  body := some (.object [])

/-- What an answer is taken for. -/
def commitsIn (response : WebResponse) : Except AnalyticsError (Keyed Int OpenedCommit) :=
  if response.status ≠ 200 then .error (.refused response.status response.text)
  else (rowsIn response.text).mapError .ofAnswer >>= commitsOfRows

/-- The service is asked once, and what it answers is the outcome. -/
lemma eq_of_runs_openedCommits (run : Runs (openedCommits api key).run es r) :
    ∃ answer : Except Fault WebResponse, es = [⟨.web (request api key), answer⟩] ∧
      r = answer.mapError .fault >>= commitsIn := by
  rw [openedCommits] at run
  obtain ⟨answer, rest, rfl, arrived⟩ := Act.runs_ask_bind_iff.1 run
  change Except Fault WebResponse at answer
  cases answer with
  | error f =>
    obtain ⟨rfl, rfl⟩ := runs_run_throw_iff.1 arrived
    exact ⟨.error f, rfl, rfl⟩
  | ok response =>
    rw [Act.orElse_ok_bind] at arrived
    refine ⟨.ok response, ?_⟩
    change _ ∧ r = commitsIn response
    by_cases refused : response.status ≠ 200
    · rw [if_pos refused] at arrived
      obtain ⟨rfl, rfl⟩ := runs_run_throw_iff.1 arrived
      exact ⟨rfl, by rw [commitsIn, if_pos refused]⟩
    · rw [if_neg refused] at arrived
      rw [commitsIn, if_neg refused]
      cases held : rowsIn response.text with
      | error cause =>
        rw [held] at arrived
        obtain ⟨rfl, rfl⟩ := runs_run_throw_iff.1 arrived
        exact ⟨rfl, rfl⟩
      | ok rows =>
        rw [held, Act.orElse_ok_bind] at arrived
        obtain ⟨rfl, rfl⟩ := Act.runs_orElse_iff.1 arrived
        refine ⟨rfl, ?_⟩
        cases made : commitsOfRows rows <;> simp [Except.mapError, bind, Except.bind, made]

/-- Why an answer gives no commitments. -/
inductive Refuses (response : WebResponse) : AnalyticsError → Prop where
  /-- The service refuses with a status. -/
  | refused (refused : response.status ≠ 200) :
    Refuses response (.refused response.status response.text)
  /-- The text is no document that holds rows. -/
  | noRows {cause : ReadError} (accepted : response.status = 200)
      (read : rowsIn response.text = .error cause) (shallow : cause ≠ .tooDeep) :
      Refuses response (.unexpected cause)
  /-- The document is too deep to be read. -/
  | tooDeep (accepted : response.status = 200)
      (read : Json.Value.ofText response.text = .error .tooDeep) :
      Refuses response (.unreadable .tooDeep)
  /-- The rows are a truth value or a number. -/
  | scalar {rows : Json.Value} (accepted : response.status = 200)
      (held : HasRows response.text rows) (scalar : IsScalar rows)
      (present : rows.isTruthy = true) : Refuses response (.unreadable .wrongKind)
  /-- A row tells of no commitment. -/
  | badRow {rows row : Json.Value} {before after : List Json.Value}
      (accepted : response.status = 200) (held : HasRows response.text rows)
      (walked : rows.elements = .ok (before ++ row :: after))
      (passed : ∀ row ∈ before, ∃ commit, Tells row commit) (untold : ∀ commit, ¬ Tells row commit)
      (finite : ¬ IsEndless row) : Refuses response (.badRow row.quoted)
  /-- The number in a row is infinite. -/
  | endless {rows row : Json.Value} {before after : List Json.Value}
      (accepted : response.status = 200) (held : HasRows response.text rows)
      (walked : rows.elements = .ok (before ++ row :: after))
      (passed : ∀ row ∈ before, ∃ commit, Tells row commit) (endless : IsEndless row) :
      Refuses response (.unreadable .infinite)

/-- Only the document can be too deep. -/
lemma rowsIn_eq_tooDeep_iff : rowsIn text = .error .tooDeep ↔
    Json.Value.ofText text = .error .tooDeep := by
  have shallow {v : Json.Value} {key : String} : v.field key ≠ .error .tooDeep := fun missing => by
    cases Json.Value.cause_of_field missing <;> contradiction
  simp [rowsIn, bind_eq_error_iff, shallow]

lemma commitsIn_of_accepted (accepted : response.status = 200) :
    commitsIn response = (rowsIn response.text).mapError .ofAnswer >>= commitsOfRows :=
  if_neg (not_not.2 accepted)

lemma commitsIn_of_hasRows (accepted : response.status = 200) (held : HasRows response.text rows) :
    commitsIn response = commitsOfRows rows := by
  rw [commitsIn_of_accepted accepted, rowsIn_eq_ok_iff.2 held]
  rfl

lemma commitsIn_of_noRows {cause : ReadError} (accepted : response.status = 200)
    (read : rowsIn response.text = .error cause) :
    commitsIn response = .error (.ofAnswer cause) := by
  rw [commitsIn_of_accepted accepted, read]
  rfl

lemma refuses_ofAnswer {cause : ReadError} (accepted : response.status = 200)
    (read : rowsIn response.text = .error cause) : Refuses response (.ofAnswer cause) := by
  by_cases deep : cause = .tooDeep
  · subst deep
    exact .tooDeep accepted (rowsIn_eq_tooDeep_iff.1 read)
  · have told : AnalyticsError.ofAnswer cause = .unexpected cause := by
      cases cause <;> first | rfl | exact absurd rfl deep
    exact told ▸ .noRows accepted read deep

lemma refuses_of_commitsIn (failed : commitsIn response = .error e) : Refuses response e := by
  by_cases accepted : response.status = 200
  · cases held : rowsIn response.text with
    | error cause =>
      rw [commitsIn_of_noRows accepted held] at failed
      obtain rfl := Except.error.inj failed
      exact refuses_ofAnswer accepted held
    | ok rows =>
      replace held := rowsIn_eq_ok_iff.1 held
      rw [commitsIn_of_hasRows accepted held] at failed
      rcases commitsOfRows_eq_error_iff.1 failed with
        ⟨scalar, present, rfl⟩ | ⟨before, row, after, walked, passed, failed⟩
      · exact .scalar accepted held scalar present
      rcases commitOfRow_eq_error_iff.1 failed with ⟨endless, rfl⟩ | ⟨finite, untold, rfl⟩
      · exact .endless accepted held walked passed endless
      · exact .badRow accepted held walked passed untold finite
  · rw [commitsIn, if_pos accepted] at failed
    obtain rfl := Except.error.inj failed
    exact .refused accepted

lemma Refuses.commitsIn_eq (h : Refuses response e) : commitsIn response = .error e := by
  cases h with
  | refused refused => exact if_pos refused
  | @noRows cause accepted read shallow =>
    rw [commitsIn_of_noRows accepted read]
    cases cause <;> first | rfl | exact absurd rfl shallow
  | tooDeep accepted read => exact commitsIn_of_noRows accepted (rowsIn_eq_tooDeep_iff.2 read)
  | scalar accepted held scalar present =>
    rw [commitsIn_of_hasRows accepted held]
    exact commitsOfRows_eq_error_iff.2 (.inl ⟨scalar, present, rfl⟩)
  | badRow accepted held walked passed untold finite =>
    rw [commitsIn_of_hasRows accepted held]
    exact commitsOfRows_eq_error_iff.2 (.inr ⟨_, _, _, walked, passed,
      commitOfRow_eq_error_iff.2 (.inr ⟨finite, untold, rfl⟩)⟩)
  | endless accepted held walked passed endless =>
    rw [commitsIn_of_hasRows accepted held]
    exact commitsOfRows_eq_error_iff.2 (.inr ⟨_, _, _, walked, passed,
      commitOfRow_eq_error_iff.2 (.inl ⟨endless, rfl⟩)⟩)

/-! ### What an answer is taken for -/

/-- The error is told as one of the service. -/
def AnalyticsError.IsReported : AnalyticsError → Prop
  | .refused _ _ | .unexpected _ | .badRow _ => True
  | .fault _ | .unreadable _ => False

/-- The answer is of a kind that is not provided for: the document is too deep, the rows are a truth
value or a number, or an infinite number stands in a row behind rows that tell of commitments. -/
def Unprovided (response : WebResponse) : Prop :=
  response.status = 200 ∧ (Json.Value.ofText response.text = .error .tooDeep ∨
    ∃ rows, HasRows response.text rows ∧ ((IsScalar rows ∧ rows.isTruthy = true) ∨
      ∃ before row after, rows = .list (before ++ row :: after) ∧
        (∀ row ∈ before, ∃ commit, Tells row commit) ∧ IsEndless row))

/-- Only the rows of a list can have a number. -/
lemma IsEndless.eq_list {elements : List Json.Value} (h : IsEndless row) (mem : row ∈ elements)
    (walked : rows.elements = .ok elements) : rows = .list elements := by
  obtain ⟨members, negative, rfl, -⟩ := h
  cases rows with
  | list list => exact congrArg _ (Except.ok.inj walked)
  | text s | object members =>
    obtain rfl := Except.ok.inj walked
    simp at mem
  | null | bool | int | real => cases walked

lemma exists_unreported_iff : (∃ e, Refuses response e ∧ ¬ e.IsReported) ↔ Unprovided response := by
  constructor
  · rintro ⟨_, refuses, unreported⟩
    cases refuses with
    | refused | noRows | badRow => exact absurd trivial unreported
    | tooDeep accepted read => exact ⟨accepted, .inl read⟩
    | scalar accepted held scalar present =>
      exact ⟨accepted, .inr ⟨_, held, .inl ⟨scalar, present⟩⟩⟩
    | endless accepted held walked passed endless =>
      have isList := endless.eq_list (by simp) walked
      exact ⟨accepted, .inr ⟨_, held, .inr ⟨_, _, _, isList, passed, endless⟩⟩⟩
  · rintro ⟨accepted,
      read | ⟨rows, held, ⟨scalar, present⟩ | ⟨before, row, after, rfl, passed, endless⟩⟩⟩
    · exact ⟨_, .tooDeep accepted read, id⟩
    · exact ⟨_, .scalar accepted held scalar present, id⟩
    · exact ⟨_, .endless accepted held rfl passed endless, id⟩

/-- What an answer is taken for. -/
structure Outcome (response : WebResponse) (r : Except AnalyticsError (Keyed Int OpenedCommit)) :
    Prop where
  /-- There is a table exactly if the service accepts and the document holds rows that are absent or
  a list of objects with a number each. -/
  returns_iff : (∃ table, r = .ok table) ↔
    response.status = 200 ∧ ∃ rows, HasRows response.text rows ∧
    (rows.isTruthy = false ∨ ∃ list, rows = .list list ∧ ∀ row ∈ list, ∃ commit, Tells row commit)
  /-- The table holds the last commitment of each number. -/
  table : ∀ table, r = .ok table → ∀ rows, HasRows response.text rows →
    (rows.isTruthy = false ∧ table = []) ∨
    ∃ list commits, rows = .list list ∧ List.Forall₂ Tells list commits ∧ IsTable table commits
  /-- Every error says why the answer gives no commitments. -/
  error_iff : ∀ e, r = .error e ↔ Refuses response e
  /-- The errors are told as those of the service, but for the kinds of answers that are not
  provided for. -/
  unreported_iff : (∃ e, r = .error e ∧ ¬ e.IsReported) ↔ Unprovided response

lemma outcome_commitsIn (response : WebResponse) : Outcome response (commitsIn response) where
  returns_iff := by
    constructor
    · rintro ⟨table, made⟩
      have accepted : response.status = 200 := by
        by_contra refused
        cases made.symm.trans (if_pos refused)
      refine ⟨accepted, ?_⟩
      cases held : rowsIn response.text with
      | error cause => cases made.symm.trans (commitsIn_of_noRows accepted held)
      | ok rows =>
        replace held := rowsIn_eq_ok_iff.1 held
        rw [commitsIn_of_hasRows accepted held] at made
        exact ⟨rows, held, exists_commitsOfRows_iff.1 ⟨table, made⟩⟩
    · rintro ⟨accepted, rows, held, told⟩
      rw [commitsIn_of_hasRows accepted held]
      exact exists_commitsOfRows_iff.2 told
  table table made rows held := by
    by_cases accepted : response.status = 200
    · rw [commitsIn_of_hasRows accepted held] at made
      exact commitsOfRows_eq_ok made
    · cases made.symm.trans (if_pos accepted)
  error_iff e := ⟨refuses_of_commitsIn, Refuses.commitsIn_eq⟩
  unreported_iff := by
    rw [← exists_unreported_iff]
    exact exists_congr fun e => and_congr_left fun _ => ⟨refuses_of_commitsIn, Refuses.commitsIn_eq⟩

/-- The service is asked once, and an answer that arrives is taken for the commitments in its rows,
or it is refused; which refusals are told as errors of the service is said for all of them. -/
theorem commits_told {api key : String} {es : List (Event Host)}
    {r : Except AnalyticsError (Keyed Int OpenedCommit)}
    (run : Runs (openedCommits api key).run es r) :
    ∃ answer : Except Fault WebResponse, es = [⟨.web (request api key), answer⟩] ∧
      (∀ f, answer = .error f → r = .error (.fault f)) ∧
      ∀ response, answer = .ok response → Outcome response r := by
  obtain ⟨answer, rfl, rfl⟩ := eq_of_runs_openedCommits run
  refine ⟨answer, rfl, ?_, ?_⟩
  · rintro f rfl
    rfl
  · rintro response rfl
    exact outcome_commitsIn response

/-- A host whose service answers every request with a document that holds the given rows. -/
def onRows (rows : String) : (c : Host.Call) → Unit → Host.Answer c × Unit :=
  let braced (members : String) : String := "\x7b" ++ members ++ "\x7d"
  let text :=
    braced ("\"syncSqlResponse\":" ++ braced ("\"result\":" ++ braced ("\"rows\":" ++ rows)))
  Host.onWeb (fun _ => .ok ⟨200, text⟩) FinishingOrder.inTurn

/-- The first and the last of three rows have one number, under which the last one stands. -/
theorem commits_told_of_threeRows :
    let rows := "[\x7b\"blockNumber\":7,\"bidAmt\":\"1\"\x7d,\x7b\"blockNumber\":\"8\"\x7d," ++
      "\x7b\"blockNumber\":7.5,\"bidAmt\":\"2\"\x7d]"
    let fetch := (openedCommits "a" "k").run
    ((fetch.run (onRows rows) ()).1.map fun table => table.map fun p => (p.1, p.2.bid.asText)) =
      .ok [(7, "2"), (8, "")] ∧
    ∃ answer :
      Except Fault WebResponse, fetch.trace (onRows rows) () = [⟨.web (request "a" "k"), answer⟩] ∧
      (∀ f, answer = .error f → (fetch.run (onRows rows) ()).1 = .error (.fault f)) ∧
      ∀ response, answer = .ok response → Outcome response (fetch.run (onRows rows) ()).1 := by
  intro rows fetch
  exact ⟨by decide +kernel, commits_told (runs_trace (onRows rows) fetch ())⟩

/-- A number that is infinite, if only when it is rounded, and rows that are a number are refused
with errors that are not told as those of the service. -/
theorem infinite_number_not_reported :
    let outcome (rows : String) :=
    (((openedCommits "a" "k").run.run (onRows rows) ()).1.map fun _ => ())
    outcome "[\x7b\"blockNumber\":Infinity\x7d]" = .error (.unreadable .infinite) ∧
      outcome "[\x7b\"blockNumber\":1e999\x7d]" = .error (.unreadable .infinite) ∧
      outcome "5" = .error (.unreadable .wrongKind) ∧
      ∀ e, ¬ (AnalyticsError.unreadable e).IsReported := by
  exact ⟨by decide +kernel, by decide +kernel, by decide +kernel, fun _ => id⟩

end Analytics
end StakeRegistry
