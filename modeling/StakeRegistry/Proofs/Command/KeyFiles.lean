/-
Key files are read by one command as another one writes them.

The keys that the registry holds are queried and written to a file (`Query.run`): a query does not
come to the registry, or its file is refused, or the file is written (`writes_of_runs`), and what is
written is read as the keys.

The main statement is `keyFiles_exact`.
-/
import StakeRegistry.Command.Query
import StakeRegistry.Proofs.Command.KeyLines
import StakeRegistry.Proofs.Command.Setup
import StakeRegistry.Proofs.Host.Files
import StakeRegistry.Proofs.Registry.Paging

namespace StakeRegistry.Command

open FileTree Program Registry Stake

namespace Query

/-! ### The query -/

variable {o : Options} {file registry : String} {s : Valset} {t t' : FileTree}
  {es : List (Program.Event Host)}

/-- What is done before the keys are asked for: the registry of the network is opened. -/
def prepare (o : Options) : Act Failure String := do
  let n ← setUp o.network
  reach n
  let chainId ← chainIdOf { n with chainId := none }
  Act.say ("Chain ID: " ++ toString chainId)
  openRegistry n.registryAddress

/-- Ask a registry for its keys, and write them to the file that is named. -/
def queryTo (o : Options) (registry : String) : Act Failure Unit := do
  let keys ← Act.withError .query (queryAll registry o.pageSize)
  match o.output with
  | some file => if !file.isEmpty then writeKeys file keys
  | none => pure ()

lemma run_eq (o : Options) : run o = prepare o >>= queryTo o := by
  simp only [run, prepare, LawfulMonad.bind_assoc]
  rfl

lemma ok_of_runs_sayTail {ε : Type} {names : List String} {count : Int} {r : Except ε Unit}
    (run : Runs (sayTail names count : Act ε Unit).run es r) : r = .ok () := by
  obtain ⟨⟨⟩, es₁, -, run₁⟩ := Act.runs_ask_bind_iff.1 run
  obtain ⟨⟨⟩, es₂, -, run₂⟩ := Act.runs_ask_bind_iff.1 run₁
  rcases runs_run_bind_iff.1 run₂ with ⟨e, -, failed⟩ | ⟨own, rest, ⟨⟩, -, -, last⟩
  · cases Act.ok_of_runs_say failed
  · obtain ⟨⟨⟩, -, rfl⟩ := Act.runs_ask_iff.1 last
    rfl

/-- All keys that the registry holds are given, in their order. -/
lemma keys_of_runs_queryAll {size : Int} {r : Except QueryError (List String)} (size_pos : 0 < size)
    (run : Runs (queryAll registry size).run es r) (answers : ∀ e ∈ es, s.Answers e) :
    r = .ok (s.keys.map Bytes.toHex) := by
  obtain ⟨⟨⟩, es₁, rfl, run₁⟩ := Act.runs_ask_bind_iff.1 run
  obtain ⟨⟨⟩, es₂, rfl, run₂⟩ := Act.runs_ask_bind_iff.1 run₁
  obtain ⟨⟨⟩, es₃, rfl, run₃⟩ := Act.runs_ask_bind_iff.1 run₂
  obtain ⟨start, es₄, rfl, run₄⟩ := Act.runs_ask_bind_iff.1 run₃
  have answers₄ : ∀ e ∈ es₄, s.Answers e := fun e mem => answers e (by simp [mem])
  rcases runs_run_bind_iff.1 run₄ with ⟨e, rfl, failed⟩ | ⟨own, es₅, counted, rfl, counting, run₅⟩
  · cases count_of_runs failed answers₄
  obtain ⟨clock, es₆, rfl, run₆⟩ := Act.runs_ask_bind_iff.1 run₅
  obtain ⟨⟨⟩, es₇, rfl, run₇⟩ := Act.runs_ask_bind_iff.1 run₆
  have answers₇ : ∀ e ∈ es₇, s.Answers e := fun e mem => answers₄ e (by simp [mem])
  rcases runs_run_bind_iff.1 run₇ with ⟨e, rfl, failed⟩ | ⟨own', es₈, keys, rfl, asking, run₈⟩
  · cases keys_of_runs size_pos failed answers₇
  have given := keys_of_runs size_pos asking fun e mem => answers₇ e (List.mem_append_left _ mem)
  obtain rfl := Except.ok.inj given
  obtain ⟨finished, es₉, rfl, run₉⟩ := Act.runs_ask_bind_iff.1 run₈
  obtain ⟨⟨⟩, es₁₀, rfl, run₁₀⟩ := Act.runs_ask_bind_iff.1 run₉
  rcases runs_run_bind_iff.1 run₁₀ with ⟨e, rfl, failed⟩ | ⟨own'', es₁₁, ⟨⟩, rfl, -, run₁₁⟩
  · cases ok_of_runs_sayTail failed
  obtain ⟨⟨⟩, es₁₂, rfl, run₁₂⟩ := Act.runs_ask_bind_iff.1 run₁₁
  exact (Act.runs_say_pure_iff.1 run₁₂).2

/-- How a query ends that is to write the keys of a registry to a file. -/
inductive Writes (o : Options) (file : String) (keys : List Bytes) (t' : FileTree) :
    List (Program.Event Host) → Except Failure Unit → Prop where
  /-- The registry is not opened. -/
  | unprepared {es : List (Program.Event Host)} {e : Failure}
      (failed : Runs (prepare o).run es (.error e)) :
      Writes o file keys t' es (.error e)
  /-- The file is refused. -/
  | refused {es : List (Program.Event Host)} {f : FileError} (refused : es.getLast? =
        some ⟨.file (.write (Path.ofText file) (keyFileText (keys.map Bytes.toHex))),
          (.error f : Except FileError Unit)⟩) : Writes o file keys t' es (.error (.file f))
  /-- The file is written, and it is read as the keys. -/
  | written {es : List (Program.Event Host)} {bytes : ByteArray} {text : String}
      (read : t'.read (Path.ofText file) = .ok bytes) (decoded : textFile bytes = .ok text)
      (complete : readPubkeys text = .ok keys) : Writes o file keys t' es (.ok ())

lemma writes_of_runs {r : Except Failure Unit} (size : 1 ≤ o.pageSize)
    (named : o.output = some file) (nonempty : file ≠ "")
    (length : ∀ key ∈ s.keys, key.length = pubkeyLength) (run : Runs (run o).run es r)
    (answers : ∀ e ∈ es, s.Answers e) (files : OnFiles t es t') : Writes o file s.keys t' es r := by
  rw [run_eq] at run
  rcases runs_run_bind_iff.1 run with ⟨e, rfl, failed⟩ | ⟨own, es₁, registry, rfl, -, run₁⟩
  · exact .unprepared failed
  rw [queryTo] at run₁
  rcases runs_run_bind_iff.1 run₁ with ⟨e, rfl, failed⟩ | ⟨own₁, es₂, names, rfl, asking, run₂⟩
  · obtain ⟨x, failing, ended⟩ := Act.runs_withError_iff.1 failed
    rw [keys_of_runs_queryAll (by omega) failing fun e mem =>
      answers e (List.mem_append_right _ mem)] at ended
    cases ended
  obtain ⟨x, asked, ended⟩ := Act.runs_withError_iff.1 asking
  rw [keys_of_runs_queryAll (by omega) asked fun e mem => answers e (by simp [mem])] at ended
  obtain rfl := Except.ok.inj ended
  have filled : file.isEmpty = false := by simpa [String.isEmpty_iff] using nonempty
  rw [named] at run₂
  simp only [filled, Bool.not_false, if_true] at run₂
  obtain ⟨t₁, -, files₁⟩ := onFiles_append_iff.1 files
  obtain ⟨t₂, -, files₂⟩ := onFiles_append_iff.1 files₁
  rcases runs_write_say run₂ files₂ with ⟨rfl, read, -⟩ | ⟨f, rfl, rfl⟩
  · exact .written read textFile_keyFileText (readPubkeys_keyFileText length)
  · exact .refused (by simp)

end Query

/-- A key file is read exactly if each line that is not blank is a key: then there is one key for
each of these lines, in their order; otherwise the first line that is none is told. Letter case, one
prefix and the blanks around a key do not matter. What a query writes is read as the keys that the
registry holds, in their order. -/
theorem keyFiles_exact :
    (∀ text keys, readPubkeys text = .ok keys ↔ List.Forall₂ IsKeyLine (keyLines text) keys) ∧
    (∀ text, (∃ keys, readPubkeys text = .ok keys) ↔
      ∀ line ∈ keyLines text, ∃ key, IsKeyLine line key) ∧
    (∀ text e, readPubkeys text = .error e ↔
      ∃ before line after, keyLines text = before ++ line :: after ∧
      (∀ l ∈ before, ∃ key, IsKeyLine l key) ∧ Refused line e) ∧
    (∀ line key, IsKeyLine line key ↔ key.length = pubkeyLength ∧ ∃ front pre body back,
      line.toList = front ++ (pre ++ body) ++ back ∧ (∀ c ∈ front, Text.isBlank c = true) ∧
        IsPrefix pre ∧ Spells body key ∧ ∀ c ∈ back, Text.isBlank c = true) ∧
    (∀ line line' key, line.toList.map Char.toLower = line'.toList.map Char.toLower →
      (IsKeyLine line key ↔ IsKeyLine line' key)) ∧
    ∀ {o : Query.Options} {file : String} {s : Valset} {t t' : FileTree}
      {es : List (Program.Event Host)} {r : Except Failure Unit}, 1 ≤ o.pageSize →
      o.output = some file → file ≠ "" →
      (∀ key ∈ s.keys, key.length = pubkeyLength) → Runs (Query.run o).run es r →
      (∀ e ∈ es, s.Answers e) → OnFiles t es t' → Query.Writes o file s.keys t' es r := by
  refine ⟨fun _ _ => readPubkeys_eq_ok_iff, fun _ => exists_readPubkeys_eq_ok_iff,
    fun _ _ => readPubkeys_eq_error_iff, fun _ _ => isKeyLine_iff, fun line line' key same => ?_,
    Query.writes_of_runs⟩
  exact ⟨fun h => h.of_caseless same.symm, fun h => h.of_caseless same⟩

/-- A node of one chain, whose registry holds a set of keys. -/
def nodeOf (s : Valset) : (c : NodeCall) → c.Answer
  | .connect _ _ => true
  | .chainId => Except.ok 1
  | .stakedCount _ => Except.ok (.int s.count, .int s.version)
  | .stakedPage _ first stop => Except.ok (s.slice first stop, .int s.version)
  | c => c.offline

lemma answers_nodeOf (s : Valset) (c : Host.Call) (t : FileTree) :
    s.Answers ⟨c, (Host.onTree (nodeOf s) c t).1⟩ := by
  cases c with
  | node c =>
    cases c with
    | stakedCount | stakedPage => rfl
    | _ => trivial
  | _ => trivial

/-- Two keys that are queried in two pages are written to a file and read from it, and one of them
is read from a line of capitals as well. -/
theorem keyFiles_exact_of_twoKeys :
    let s : Valset := { keys := [List.replicate 48 1, List.replicate 48 0xab], version := 7 }
    let o : Query.Options :=
    { network := "mainnet", pageSize := 1, output := some "keys.txt", verbose := false }
    let ended := (Query.run o).run.run (Host.onTree (nodeOf s)) { nodes := [] }
    (ended.1 = .ok () ∧ ∃ bytes text, ended.2.read (Path.ofText "keys.txt") = .ok bytes ∧
      textFile bytes = .ok text ∧ readPubkeys text = .ok s.keys) ∧
    IsKeyLine ("0X" ++ String.join (List.replicate 48 "AB")) (List.replicate 48 0xab) := by
  intro s o ended
  have chars : Path.hasNul = fun p => p.parts.any fun part => part.toList.contains '\x00' :=
    funext Path.hasNul_eq
  have done : ended.1 = .ok () := by
    unfold ended
    delta Host.onTree FileTree.answer FileTree.isThere FileTree.write FileTree.locate
    rw [chars]
    decide +kernel
  have writes :
    Query.Writes o "keys.txt" s.keys ended.2
      ((Query.run o).run.trace (Host.onTree (nodeOf s)) _) ended.1 :=
    keyFiles_exact.2.2.2.2.2 (by decide) rfl (by decide) (by decide) (runs_trace _ _ _)
      (forall_mem_trace (answers_nodeOf s) _ _) (onFiles_trace _ _ _)
  refine ⟨⟨done, ?_⟩, ?_⟩
  · rw [done] at writes
    cases writes with
    | written read decoded complete => exact ⟨_, _, read, decoded, complete⟩
  · have small :
      Query.lineOf (List.replicate 48 0xab) = "0x" ++ String.join (List.replicate 48 "ab") := by
      decide +kernel
    refine (keyFiles_exact.2.2.2.2.1 _ _ _ ?_).1 (Query.isKeyLine_lineOf (by decide))
    rw [small]
    decide +kernel

end StakeRegistry.Command
