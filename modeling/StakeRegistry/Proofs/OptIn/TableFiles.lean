/-
Tables in files.

A table is read in one go, and then its header is told (`runs_reading`); what is made of its rows is
left open. A table is written in one go, unless the files refuse it (`runs_writeTable_say`). In its
rows, the numbers and the names of the columns are kept by being written and read
(`isKept_toString`, `isKept_checkedHeader`).
-/
import StakeRegistry.OptIn.Tables
import StakeRegistry.Proofs.Csv.RoundTrip
import StakeRegistry.Proofs.Host.Files
import StakeRegistry.Proofs.Numeral.Decimal

namespace StakeRegistry.OptIn

open Program FileTree

variable {rows : List (List String)} {header : List String} {path : Path} {t t' : FileTree}
  {trace : List (Event Host)}

/-! ### Fields -/

lemma isKept_toString {i : Int} (h : Numeral.IsReadable i) : Csv.IsKept (toString i) := by
  have digits := Numeral.length_digitsOf h
  have limit : Numeral.maxDigits + 1 ≤ Csv.maxField := by decide
  constructor
  · rw [← String.length_toList, Numeral.toList_toString]
    split_ifs
    · rw [List.length_cons]
      omega
    · omega
  · intro mem
    rw [Numeral.toList_toString] at mem
    have digit : '\r' ∉ Numeral.digitsOf i.natAbs := fun h =>
      absurd (Numeral.isDigit_of_mem h) (by decide)
    split_ifs at mem
    · rcases List.mem_cons.1 mem with same | mem
      · cases same
      · exact absurd mem digit
    · exact absurd mem digit

lemma isReadable_of_lt {i : Int} (h : i.natAbs < 1000) : Numeral.IsReadable i :=
  Nat.lt_of_lt_of_le h
    (Nat.pow_le_pow_right (n := 10) (by decide) (by decide : 3 ≤ Numeral.maxDigits))

lemma isKept_checkedHeader : ∀ f ∈ checkedHeader, Csv.IsKept f := by
  decide

lemma isKept_validatorHeader : ∀ f ∈ validatorHeader, Csv.IsKept f := by
  have inside : ∀ f ∈ validatorHeader, f ∈ checkedHeader := by decide
  exact fun f mem => isKept_checkedHeader f (inside f mem)

lemma isKept_slotHeader : ∀ f ∈ slotHeader, Csv.IsKept f := by
  have inside : ∀ f ∈ slotHeader, f ∈ checkedHeader := by decide
  exact fun f mem => isKept_checkedHeader f (inside f mem)

/-- A table is read as it was written exactly if the texts in its rows are kept. -/
lemma records_table_iff {α : Type} {xs : List α} {row texts : α → List String}
    (known : ∀ f ∈ header, Csv.IsKept f)
    (fields : ∀ x ∈ xs, (∀ f ∈ row x, Csv.IsKept f) ↔ ∀ text ∈ texts x, Csv.IsKept text) :
    Csv.records (.ofBytes (Csv.ofRecords (header :: xs.map row)).toUTF8) =
      { records := header :: xs.map row } ↔ ∀ x ∈ xs, ∀ text ∈ texts x, Csv.IsKept text := by
  rw [SeenText.ofBytes_toUTF8, Csv.records_ofRecords_iff, List.forall_mem_cons, List.forall_mem_map]
  exact (and_iff_right known).trans (forall₂_congr fields)

/-! ### Reading -/

lemma local_checkStopped {rs : Csv.Records} : Uses IsLocal (checkStopped rs).run := by
  rw [checkStopped]
  split
  · exact uses_run_throw
  · exact uses_run_pure

/-- What only makes local calls does so behind a table that is read, too. -/
lemma local_reading {α : Type} {f : Csv.Records → Act TableError α}
    (rest : ∀ rs, Uses IsLocal (f rs).run) :
    Uses IsLocal (recordsOfFile path >>= fun rs => sayHeader rs >>= fun _ => f rs).run := by
  refine uses_run_bind ?_ fun rs => uses_run_bind ?_ fun _ => rest rs
  · exact uses_run_bind (Act.uses_ask trivial) fun _ =>
      uses_run_bind Act.uses_orElse fun _ => uses_run_pure
  · rw [sayHeader]
    split
    · exact uses_run_bind local_checkStopped fun _ => Act.uses_ask trivial
    · exact Act.uses_ask trivial

/-- A table that is there is read, and its header is told. -/
lemma runs_reading {α : Type} {f : Csv.Records → Act TableError α} {r : Except TableError α}
    {bytes : ByteArray}
    (run : Runs (recordsOfFile path >>= fun rs => sayHeader rs >>= fun _ => f rs).run trace r)
    (answers : ∀ e ∈ trace, t.Answers e) (held : t.read path = .ok bytes)
    (read : Csv.records (.ofBytes bytes) = { records := header :: rows }) :
    ∃ rest, trace = ⟨.file (.read path), (.ok bytes : Except FileError ByteArray)⟩ ::
        ⟨.say ("CSV Headers: " ++ quotedRow header), ()⟩ :: rest ∧
      Runs (f { records := header :: rows }).run rest r := by
  have file {es : List (Event Host)} {x : Except TableError Csv.Records}
      (reading : Runs (recordsOfFile path).run es x) (answers : ∀ e ∈ es, t.Answers e) :
      es = [⟨.file (.read path), (.ok bytes : Except FileError ByteArray)⟩] ∧
        x = .ok { records := header :: rows } := by
    obtain ⟨y, rest, rfl, decoded⟩ := Act.runs_ask_bind_iff.1 reading
    obtain rfl : y = t.read path := answers _ List.mem_cons_self
    rw [held] at decoded
    obtain ⟨rfl, rfl⟩ := runs_run_pure_iff.1 decoded
    rw [held, read]
    exact ⟨rfl, rfl⟩
  rcases runs_run_bind_iff.1 run with ⟨e, rfl, failed⟩ | ⟨own, rest, rs, rfl, reading, afterRead⟩
  · cases (file failed answers).2
  obtain ⟨rfl, hrs⟩ := file reading fun e he => answers e (List.mem_append_left _ he)
  obtain rfl := Except.ok.inj hrs
  rw [sayHeader, if_neg (List.cons_ne_nil _ _)] at afterRead
  obtain ⟨⟨⟩, rest, rfl, afterHeader⟩ := Act.runs_ask_bind_iff.1 afterRead
  exact ⟨rest, rfl, afterHeader⟩

/-! ### Writing -/

/-- A table that is followed by a line is written, unless the files refuse it. -/
lemma runs_writeTable_say {line : String} {r : Except TableError Unit}
    (run : Runs (writeTable path header rows >>= fun _ => Act.say line).run trace r)
    (files : OnFiles t trace t') :
    (r = .ok () ∧ t'.read path = .ok (Csv.ofRecords (header :: rows)).toUTF8 ∧
      trace.getLast? = some ⟨.say line, ()⟩) ∨ ∃ f, r = .error (.file f) := by
  rw [writeTable, LawfulMonad.bind_assoc] at run
  exact (runs_write_say run files).imp_right fun ⟨f, failed, _⟩ => ⟨f, failed⟩

/-- Where no directory is in the way, a table that is followed by a line is written. -/
lemma exists_runs_writeTable_say {parts : List String} (path : Path) (header : List String)
    (rows : List (List String)) (line : String) (located : t.locate path = .ok parts)
    (file : t.find? parts ≠ some .directory) :
    ∃ trace, Runs (writeTable path header rows >>= fun _ => Act.say line).run trace (.ok ()) ∧
      OnFiles t trace
        (t.putNode parts (.file (Csv.ofRecords (header :: rows)).toUTF8 t.clock)) := by
  have wrote : t.write path (Csv.ofRecords (header :: rows)).toUTF8 t.clock = .ok _ :=
    write_eq_ok_iff.2 ⟨parts, located, file, rfl⟩
  refine ⟨[⟨.file (.write path (Csv.ofRecords (header :: rows))), (.ok () : Except FileError Unit)⟩]
      ++ [⟨.say line, ()⟩], ?_, ?_⟩
  · refine runs_run_bind_iff.2 (.inr ⟨_, _, (), rfl, ?_, Act.runs_ask_iff.2 ⟨(), rfl, rfl⟩⟩)
    exact Act.runs_ask_bind_iff.2 ⟨_, [], rfl, runs_run_pure_iff.2 ⟨rfl, rfl⟩⟩
  · exact onFiles_append_iff.2 ⟨_, .write wrote, .cons (Int.le_refl _) trivial (.nil _)⟩

lemma emptyTree_located : ({ nodes := [] } : FileTree).locate (Path.ofText "a") = .ok ["a"] := by
  rw [locate, Path.hasNul_eq]
  decide +kernel

/-- What is put into an empty tree is read back. -/
lemma read_emptyTree_putNode (bytes : ByteArray) (time : Int) :
    (({ nodes := [] } : FileTree).putNode ["a"] (.file bytes time)).read (Path.ofText "a") =
      .ok bytes := by
  have free : ({ nodes := [] } : FileTree).find? ["a"] ≠ some .directory := nofun
  exact read_eq_ok_iff.2 ⟨["a"], time, locate_of_keeps (keeps_putNode free) emptyTree_located, rfl⟩

end StakeRegistry.OptIn
