/-
Snapshots are read as they were written.

* `eventsText?_eq_some_iff`: events are written exactly if their numbers can be printed;
* `eventsOfFile_of_eventsText?`: the events in what was written are those that were written, if
  their keys stand in the form in which keys are read (`IsPlainKey`);
* `runs_writeEvents`, `runs_readEvents`: what writing leaves in the files, and what reading finds
  there.
-/
import StakeRegistry.Proofs.Json.Document
import StakeRegistry.Proofs.Registry.Newest
import StakeRegistry.Proofs.Text

namespace StakeRegistry

open Program FileTree

namespace Registry

variable {es : List Event} {text : String} {directory path : Path} {type : EventType} {block : Int}
  {t t' : FileTree} {trace : List (Program.Event Host)}

/-! ### Keys -/

/-- A key stands in the form in which it is read: in small letters, without a leading `0x`. -/
structure IsPlainKey (k : String) : Prop where
  small : Text.lower k = k
  bare : Text.hasLeading "0x" k = false

lemma plainKey_eq {k : String} (h : IsPlainKey k) : Event.plainKey k = k := by
  rw [Event.plainKey, h.small, Text.dropLeading, h.bare]
  rfl

/-- A key of ASCII characters without `0x`, or behind a single one, in letters of any case. -/
def IsAsciiKey (k : String) : Prop :=
  ∃ body : String, (k = body ∨ k = "0x" ++ body ∨ k = "0X" ++ body) ∧
    (∀ c ∈ body.toList, c.toNat < 128) ∧
    Text.hasLeading "0x" body = false ∧ Text.hasLeading "0X" body = false

/-- The small letter of an ASCII character is ASCII and its own small letter, and no character but
`0` and the two letters `x` becomes `0` or `x`. -/
lemma toLower_of_ascii {c : Char} (ascii : c.toNat < 128) :
    (c.toLower.toNat < 128 ∧ c.toLower.toLower = c.toLower) ∧
    (c.toLower = '0' → c = '0') ∧ (c.toLower = 'x' → c = 'x' ∨ c = 'X') := by
  have all : ∀ n : Fin 128,
      ((Char.ofNat n).toLower.toNat < 128 ∧
        (Char.ofNat n).toLower.toLower = (Char.ofNat n).toLower) ∧
      ((Char.ofNat n).toLower = '0' → Char.ofNat n = '0') ∧
      ((Char.ofNat n).toLower = 'x' → Char.ofNat n = 'x' ∨ Char.ofNat n = 'X') := by decide
  simpa only [Char.ofNat_toNat] using all ⟨c.toNat, ascii⟩

lemma lower_of_ascii {s : String} (ascii : ∀ c ∈ s.toList, c.toNat < 128) :
    Text.lower s = String.ofList (s.toList.map Char.toLower) := by
  rw [Text.lower, Text.lowerFrom_of_ascii _ ascii]

/-- Small letters do not make a leading `0x` where there was none in any case. -/
lemma isPlainKey_lower {body : String} (ascii : ∀ c ∈ body.toList, c.toNat < 128)
    (small : Text.hasLeading "0x" body = false) (capital : Text.hasLeading "0X" body = false) :
    IsPlainKey (Text.lower body) := by
  rw [lower_of_ascii ascii]
  refine ⟨?_, Bool.eq_false_iff.2 fun leading => ?_⟩
  · rw [lower_of_ascii, String.toList_ofList, List.map_map]
    · exact congrArg String.ofList
        (List.map_congr_left fun c hc => (toLower_of_ascii (ascii c hc)).1.2)
    · simp only [String.toList_ofList, List.forall_mem_map]
      exact fun c hc => (toLower_of_ascii (ascii c hc)).1.1
  · rw [Text.hasLeading, String.toList_ofList, List.isPrefixOf_iff_prefix] at leading
    rw [Text.hasLeading, Bool.eq_false_iff, ne_eq, List.isPrefixOf_iff_prefix] at small capital
    rcases hb : body.toList with _ | ⟨c, _ | ⟨d, r⟩⟩ <;> rw [hb] at leading small capital ascii
    · exact absurd leading (by decide)
    · simp at leading
    · have hc := (toLower_of_ascii (ascii c List.mem_cons_self)).2.1
      have hd := (toLower_of_ascii (ascii d (List.mem_cons_of_mem _ List.mem_cons_self))).2.2
      have both : '0' = c.toLower ∧ 'x' = d.toLower := by simpa using leading
      obtain rfl := hc both.1.symm
      rcases hd both.2.symm with rfl | rfl
      · exact small (by simp)
      · exact capital (by simp)

/-- A key that was read once stays as it is when it is read again. -/
lemma isPlainKey_plainKey {k : String} (h : IsAsciiKey k) : IsPlainKey (Event.plainKey k) := by
  obtain ⟨body, shape, ascii, small, capital⟩ := h
  have plain := isPlainKey_lower ascii small capital
  suffices same : Event.plainKey k = Text.lower body from same ▸ plain
  rw [Event.plainKey]
  rcases shape with rfl | rfl | rfl
  · rw [Text.dropLeading, plain.bare]
    rfl
  all_goals
    rw [lower_of_ascii ascii, lower_of_ascii (by simpa using ascii), Text.dropLeading, if_pos]
    · simp [show "0x".length = 2 from rfl]
    · simp [Text.hasLeading]

/-! ### Events in a document -/

lemma isPlain_toValue {e : Event} (amount : Numeral.IsReadable e.amount)
    (block : Numeral.IsReadable e.block) : Json.IsPlain e.toValue := by
  refine ⟨?_, ⟨_, rfl⟩, ⟨_, rfl⟩, ⟨_, rfl⟩, ⟨_, rfl⟩, ⟨_, rfl⟩, amount, ⟨_, rfl⟩, block, trivial⟩
  have distinct :
    (["tx_originator", "val_bls_pub_key", "amount", "block"].map RawText.ofString).Nodup := by
    decide +kernel
  exact distinct

/-- An event is read from its object as it is, but for its key, which is put into its form. -/
lemma ofValue_toValue (e : Event) :
    Event.ofValue e.toValue = .ok { e with pubkey := Event.plainKey e.pubkey } := by
  have asText (s : String) : (Json.Value.text s).asText = s := RawText.toString_ofString s
  rw [← asText e.originator, ← asText e.pubkey]
  rfl

/-- The numbers of an event can be printed. -/
def IsPrintable (e : Event) : Prop :=
  Numeral.IsReadable e.amount ∧ Numeral.IsReadable e.block

lemma fitElements_map_toValue : Json.fitElements (es.map Event.toValue) = true ↔
    ∀ e ∈ es, IsPrintable e := by
  induction es with
  | nil => simp [Json.fitElements]
  | cons e es ih =>
    have own : Json.fits e.toValue = true ↔ IsPrintable e := by
      simp only [Event.toValue, Json.fits, Json.fitMembers, Bool.and_eq_true, Bool.true_and,
        Bool.and_true, Numeral.isWritable_iff]
      exact Iff.rfl
    simp [Json.fitElements, own, ih]

/-- The events are written exactly if their numbers can be printed. -/
lemma eventsText?_eq_some_iff : eventsText? es = some text ↔ (∀ e ∈ es, IsPrintable e) ∧
    text = String.ofList (Json.written 0 (.list (es.map Event.toValue))) := by
  rw [eventsText?, Json.Value.toText?, Json.fits]
  by_cases fit : Json.fitElements (es.map Event.toValue) = true
  · rw [if_pos fit, Option.some.injEq, eq_comm]
    exact (and_iff_right (fitElements_map_toValue.1 fit)).symm
  · rw [if_neg fit]
    simp [← fitElements_map_toValue, fit]

lemma arePlain_map_toValue (printable : ∀ e ∈ es, IsPrintable e) :
    Json.ArePlain (es.map Event.toValue) := by
  induction es with
  | nil => trivial
  | cons e es ih =>
    obtain ⟨own, others⟩ := List.forall_mem_cons.1 printable
    exact ⟨isPlain_toValue own.1 own.2, ih others⟩

lemma heightOfElements_le : Json.heightOfElements (es.map Event.toValue) ≤ 1 := by
  induction es with
  | nil => simp [Json.heightOfElements]
  | cons e es ih =>
    have own : Json.height e.toValue = 1 := rfl
    simp [Json.heightOfElements, own, ih]

/-- The events in the bytes of a file. -/
def eventsOfFile (path : String) (bytes : ByteArray) : Except ArtifactError (List Event) := do
  let text ← (textFile bytes).mapError .unreadable
  match Json.Value.ofText text with
  | .ok v => (eventsOfValue v).mapError .unreadable
  | .error .notJson => throw (.undecodable path .notJson)
  | .error e => throw (.unreadable e)

/-- The events in what was written are those that were written. -/
theorem eventsOfFile_of_eventsText? {name : String} (keys : ∀ e ∈ es, IsPlainKey e.pubkey)
    (h : eventsText? es = some text) : eventsOfFile name text.toUTF8 = .ok es := by
  obtain ⟨printable, rfl⟩ := eventsText?_eq_some_iff.1 h
  have plain : Json.IsPlain (.list (es.map Event.toValue)) := arePlain_map_toValue printable
  have low : Json.height (.list (es.map Event.toValue)) ≤ Json.maxDepth := by
    have inner : Json.heightOfElements (es.map Event.toValue) ≤ 1 := heightOfElements_le
    have room : 2 ≤ Json.maxDepth := by decide
    rw [Json.height]
    omega
  have cr := Json.cr_notMem_written _ 0 plain
  have values : eventsOfValue (.list (es.map Event.toValue)) = .ok es := by
    rcases es with _ | ⟨e, es⟩
    · rfl
    · have each : ((e :: es).map Event.toValue).mapM Event.ofValue = .ok (e :: es) := by
        rw [mapM_eq_ok_iff, List.forall₂_map_left_iff]
        refine List.forall₂_same.2 fun x hx => ?_
        rw [ofValue_toValue, plainKey_eq (keys x hx)]
      exact each
  have file :=
    Text.textFile_toUTF8 (s := String.ofList (Json.written 0 (.list (es.map Event.toValue))))
    (by rwa [String.toList_ofList])
  rw [eventsOfFile, file]
  simp only [Except.mapError, bind, Except.bind, Json.ofText_written plain low, values]

/-! ### Reading and writing -/

lemma looks_readEvents : Uses Looks (readEvents directory type.name).run := by
  refine uses_run_bind looks_latestArtifact fun path =>
    uses_run_bind (Act.uses_ask trivial) fun _ => ?_
  refine uses_run_bind (Act.uses_ask trivial) fun x => uses_run_bind Act.uses_orElse fun bytes => ?_
  refine uses_run_bind Act.uses_orElse fun text => ?_
  split
  · exact Act.uses_orElse
  · exact uses_run_throw
  · exact uses_run_throw

/-- What is read are the events in the newest snapshot. -/
lemma runs_readEvents {r : Except ArtifactError (List Event)} {bytes : ByteArray}
    (run : Runs (readEvents directory type.name).run trace r) (answers : ∀ e ∈ trace, t.Answers e)
    (newest : IsNewest t directory type path) (held : t.read path = .ok bytes) :
    r = eventsOfFile path.text bytes := by
  rcases runs_run_bind_iff.1 run with
    ⟨e, rfl, failed⟩ | ⟨own, rest, found, rfl, search, afterSearch⟩
  · cases latestArtifact_eq_of_isNewest failed answers newest
  have here :=
    latestArtifact_eq_of_isNewest search (fun e he => answers e (List.mem_append_left _ he)) newest
  obtain rfl : found = path := Except.ok.inj here
  obtain ⟨⟨⟩, later, rfl, afterLine⟩ := Act.runs_ask_bind_iff.1 afterSearch
  obtain ⟨x, last, rfl, afterRead⟩ := Act.runs_ask_bind_iff.1 afterLine
  have hx : x = t.read found := answers ⟨.file (.read found), x⟩ (by simp)
  rw [held] at hx
  subst hx
  rw [Act.orElse_ok_bind] at afterRead
  rw [eventsOfFile]
  generalize textFile bytes = file at afterRead ⊢
  rcases file with e | text
  · exact (runs_run_throw_iff.1 afterRead).2
  · rw [Act.orElse_ok_bind] at afterRead
    simp only [Except.mapError, bind, Except.bind]
    generalize Json.Value.ofText text = document at afterRead ⊢
    rcases document with e | v
    · cases e <;> exact (runs_run_throw_iff.1 afterRead).2
    · exact (Act.runs_orElse_iff.1 afterRead).2

lemma stores_writeEvents : Uses (StoresIn directory) (writeEvents directory type es block).run := by
  refine uses_run_bind (Act.uses_ask rfl) fun x => uses_run_bind Act.uses_orElse fun _ => ?_
  refine uses_run_bind (Act.uses_ask trivial) fun now => ?_
  split
  · exact uses_run_throw
  · refine uses_run_bind (Act.uses_ask ⟨_, isFileName_artifactName, rfl⟩) fun y => ?_
    exact uses_run_bind Act.uses_orElse fun _ => uses_run_pure

/-- What a written snapshot consists of: the directory is made, and the events are written to one
file. -/
structure Wrote (t : FileTree) (directory : Path) (type : EventType) (es : List Event) (block : Int)
    (trace : List (Program.Event Host)) (path : Path) : Prop where
  named : ∃ now, path = directory.child (artifactName type.name block now)
  made : ∃ here made, Made t directory here made
  text : ∃ text, eventsText? es = some text ∧ written trace = [(path, text)]

/-- A snapshot is written, or nothing is: then the files refuse it or a number cannot be printed. -/
lemma runs_writeEvents {r : Except ArtifactError Path}
    (run : Runs (writeEvents directory type es block).run trace r) (files : OnFiles t trace t') :
    (∃ path, r = .ok path ∧ Wrote t directory type es block trace path) ∨
      (∃ e, r = .error e ∧ ((∃ f, e = .file f) ∨ eventsText? es = none)) ∧ written trace = [] := by
  obtain ⟨x, rest, rfl, afterMade⟩ := Act.runs_ask_bind_iff.1 run
  obtain ⟨time, -, answer, -⟩ := onFiles_cons_iff.1 files
  have hx : x = ((t.atTime time).makeDirectory directory).2 := answer
  rw [makeDirectory_atTime] at hx
  rcases x with e | ⟨⟩
  · obtain ⟨rfl, rfl⟩ := runs_run_throw_iff.1 afterMade
    exact .inr ⟨⟨_, rfl, .inl ⟨e, rfl⟩⟩, rfl⟩
  have made : t.makeDirectory directory = ((t.makeDirectory directory).1, .ok ()) :=
    Prod.ext rfl hx.symm
  obtain ⟨here, located, -⟩ := isDirectory_makeDirectory made
  obtain ⟨now, later, rfl, afterNow⟩ := Act.runs_ask_bind_iff.1 afterMade
  rcases htext : eventsText? es with _ | text <;> rw [htext] at afterNow
  · obtain ⟨rfl, rfl⟩ := runs_run_throw_iff.1 afterNow
    exact .inr ⟨⟨_, rfl, .inr rfl⟩, rfl⟩
  · obtain ⟨y, last, rfl, afterWrite⟩ := Act.runs_ask_bind_iff.1 afterNow
    rcases y with e | ⟨⟩
    · obtain ⟨rfl, rfl⟩ := runs_run_throw_iff.1 afterWrite
      exact .inr ⟨⟨_, rfl, .inl ⟨e, rfl⟩⟩, rfl⟩
    · obtain ⟨rfl, rfl⟩ := runs_run_pure_iff.1 afterWrite
      exact .inl ⟨_, rfl, ⟨now, rfl⟩, ⟨here, _, made, located⟩, text, htext, rfl⟩

/-- Where a directory is there, a snapshot of events that can be printed is written to it, unless
another directory stands in the place. -/
lemma exists_runs_writeEvents (type : EventType) (block : Int) (now : Moment) {here : List String}
    (made : Made t directory here t)
    (located : t.locate (directory.child (artifactName type.name block now)) =
      .ok (here ++ [artifactName type.name block now]))
    (file : t.find? (here ++ [artifactName type.name block now]) ≠ some .directory)
    (printed : eventsText? es = some text) :
    ∃ trace, Runs (writeEvents directory type es block).run trace
        (.ok (directory.child (artifactName type.name block now))) ∧
      OnFiles t trace (t.putNode (here ++ [artifactName type.name block now])
        (.file text.toUTF8 t.clock)) ∧
      written trace = [(directory.child (artifactName type.name block now), text)] ∧
      ∀ c x, ⟨.node c, x⟩ ∉ trace := by
  have wrote :
    t.write (directory.child (artifactName type.name block now)) text.toUTF8 t.clock = .ok _ :=
    write_eq_ok_iff.2 ⟨_, located, file, rfl⟩
  refine ⟨[⟨.file (.makeDirectory directory), (.ok () : Except FileError Unit)⟩] ++
    ([⟨.now, now⟩] ++
    [⟨.file (.write (directory.child (artifactName type.name block now)) text),
      (.ok () : Except FileError Unit)⟩]), ?_, ?_, rfl, ?_⟩
  · refine Act.runs_ask_bind_iff.2 ⟨_, _, rfl, Act.runs_ask_bind_iff.2 ⟨now, _, rfl, ?_⟩⟩
    simp only [printed]
    exact Act.runs_ask_bind_iff.2 ⟨_, _, rfl, runs_run_pure_iff.2 ⟨rfl, rfl⟩⟩
  · have idle : OnFiles t [⟨.now, now⟩] t := .cons (Int.le_refl _) trivial (.nil t)
    exact onFiles_append_iff.2
      ⟨t, .makeDirectory made.made, onFiles_append_iff.2 ⟨t, idle, .write wrote⟩⟩
  · intro c x mem
    simp only [List.mem_append, List.mem_singleton] at mem
    rcases mem with h | h | h <;> cases h

/-- What was written is what stands in the file. -/
lemma read_of_wrote (wrote : Wrote t directory type es block trace path)
    (files : OnFiles t trace t') (stores : ∀ e ∈ trace, StoresIn directory e.1) :
    ∃ text, eventsText? es = some text ∧ t'.read path = .ok text.toUTF8 := by
  obtain ⟨⟨now, rfl⟩, ⟨here, made, directoryMade⟩, text, printed, once⟩ := wrote
  refine ⟨text, printed, directoryMade.read_of_written files stores isFileName_artifactName ?_ ?_⟩
  · rw [once]
    exact List.mem_singleton_self _
  · intro text' mem
    rw [once] at mem
    exact (Prod.mk.inj (List.mem_singleton.1 mem)).2

/-! ### Reading what was written -/

/-- The keys in the bytes of a file as they stand there. -/
def rawKeys (bytes : ByteArray) : List String :=
  let fields : Except ReadError (List Json.Value) := do
    (← (← Json.Value.ofText (← textFile bytes)).elements).mapM (·.field "val_bls_pub_key")
  match fields with
  | .ok keys => keys.map Json.Value.asText
  | .error _ => []

lemma elements_of_not_isTruthy {v : Json.Value} {vs : List Json.Value} (absent : v.isTruthy = false)
    (h : v.elements = .ok vs) : vs = [] := by
  cases v <;> simp_all [Json.Value.isTruthy, Json.Value.elements, RawText.isEmpty]

lemma field_of_ofValue {v : Json.Value} {e : Event} (h : Event.ofValue v = .ok e) :
    ∃ k, v.field "val_bls_pub_key" = .ok k ∧ e.pubkey = Event.plainKey k.asText := by
  obtain ⟨originator, -, h⟩ := bind_eq_ok_iff.1 h
  obtain ⟨k, key, h⟩ := bind_eq_ok_iff.1 h
  obtain ⟨_, -, h⟩ := bind_eq_ok_iff.1 h
  obtain ⟨amount, -, h⟩ := bind_eq_ok_iff.1 h
  obtain ⟨_, -, h⟩ := bind_eq_ok_iff.1 h
  obtain ⟨block, -, h⟩ := bind_eq_ok_iff.1 h
  obtain rfl := (Except.ok.inj h).symm
  refine ⟨k, key, ?_⟩
  dsimp only

/-- The keys of the events that are read are those in the file, each in its form. -/
lemma pubkeys_eventsOfFile {name : String} {bytes : ByteArray}
    (h : eventsOfFile name bytes = .ok es) :
    es.map Event.pubkey = (rawKeys bytes).map Event.plainKey := by
  obtain ⟨text, file, h⟩ := bind_eq_ok_iff.1 h
  rcases hv : Json.Value.ofText text with e | v <;> rw [hv] at h
  · cases e <;> cases h
  rw [rawKeys, mapError_eq_ok_iff.1 file]
  simp only [bind, Except.bind, hv]
  have events := mapError_eq_ok_iff.1 h
  rw [eventsOfValue] at events
  split_ifs at events with absent
  · obtain rfl := (Except.ok.inj events).symm
    rcases hvs : v.elements with e | vs
    · rfl
    · obtain rfl := elements_of_not_isTruthy (by simpa using absent) hvs
      rfl
  · obtain ⟨vs, hvs, each⟩ := bind_eq_ok_iff.1 events
    rw [mapM_eq_ok_iff] at each
    suffices keys : ∃ ks, vs.mapM (·.field "val_bls_pub_key") = .ok ks ∧
        es.map Event.pubkey = (ks.map Json.Value.asText).map Event.plainKey by
      obtain ⟨ks, hks, same⟩ := keys
      simp only [hvs, hks, same]
    clear * - each
    induction each with
    | nil => exact ⟨[], rfl, rfl⟩
    | cons own _ ih =>
      obtain ⟨k, key, pubkey⟩ := field_of_ofValue own
      obtain ⟨ks, hks, same⟩ := ih
      refine ⟨k :: ks, ?_, by simp [pubkey, same]⟩
      rw [List.mapM_cons, key, hks]
      rfl

/-- Whenever the events are written as a snapshot and this is the newest of its type when it is
read, what is read are the events, whatever else happened to the files. -/
def ReadsBack (directory : Path) (type : EventType) (es : List Event) : Prop :=
  ∀ ⦃block : Int⦄ ⦃t t' : FileTree⦄ ⦃trace : List (Program.Event Host)⦄ ⦃path : Path⦄,
    Runs (writeEvents directory type es block).run trace (.ok path) → OnFiles t trace t' →
    ∀ ⦃later later' : FileTree⦄ ⦃trace' : List (Program.Event Host)⦄
      ⦃r : Except ArtifactError (List Event)⦄,
      later.read path = t'.read path → IsNewest later directory type path →
      Runs (readEvents directory type.name).run trace' r → OnFiles later trace' later' → r = .ok es

lemma readsBack_of_isPlainKey (keys : ∀ e ∈ es, IsPlainKey e.pubkey) :
    ReadsBack directory type es := by
  intro block t t' trace path run files later later' trace' r held newest run' files'
  have stores := allowed_of_runs stores_writeEvents run
  rcases runs_writeEvents run files with ⟨path', same, wrote⟩ | ⟨⟨e, failed, -⟩, -⟩
  · obtain rfl := Except.ok.inj same
    obtain ⟨text, printed, read⟩ := read_of_wrote wrote files stores
    obtain ⟨answers, -⟩ := answers_of_looks files' (allowed_of_runs looks_readEvents run')
    rw [runs_readEvents run' answers newest (held.trans read)]
    exact eventsOfFile_of_eventsText? keys printed
  · cases failed

/-- Snapshots are read as they were written.

* Events whose numbers can be printed are written, unless the files refuse it.
* Events whose keys stand in their form are read back.
* Events that were read from a snapshot whose keys are ASCII, with at most one `0x` before them, are
  read back as well. -/
theorem snapshots_readBack (directory : Path) (type : EventType) :
    (∀ {es : List Event} {block : Int} {t t' : FileTree} {trace : List (Program.Event Host)}
        {r : Except ArtifactError Path}, (∀ e ∈ es, IsPrintable e) →
      Runs (writeEvents directory type es block).run trace r → OnFiles t trace t' →
        (∃ path, r = .ok path) ∨ ∃ f, r = .error (.file f)) ∧
    (∀ {es : List Event}, (∀ e ∈ es, IsPlainKey e.pubkey) → ReadsBack directory type es) ∧
    ∀ {es : List Event} {t t' : FileTree} {trace : List (Program.Event Host)} {path : Path}
        {bytes : ByteArray}, IsNewest t directory type path → t.read path = .ok bytes →
      (∀ k ∈ rawKeys bytes, IsAsciiKey k) →
      Runs (readEvents directory type.name).run trace (.ok es) → OnFiles t trace t' →
        ReadsBack directory type es := by
  refine ⟨?_, readsBack_of_isPlainKey, ?_⟩
  · intro es block t t' trace r printable run files
    rcases runs_writeEvents run files with ⟨path, rfl, -⟩ | ⟨⟨e, rfl, cause⟩, -⟩
    · exact .inl ⟨path, rfl⟩
    · rcases cause with ⟨f, rfl⟩ | unprinted
      · exact .inr ⟨f, rfl⟩
      · have printed := eventsText?_eq_some_iff.2 ⟨printable, rfl⟩
        rw [unprinted] at printed
        cases printed
  · intro es t t' trace path bytes newest held ascii run files
    obtain ⟨answers, -⟩ := answers_of_looks files (allowed_of_runs looks_readEvents run)
    have first := runs_readEvents run answers newest held
    have keys := pubkeys_eventsOfFile first.symm
    refine readsBack_of_isPlainKey fun e he => ?_
    have mem := List.mem_map_of_mem (f := Event.pubkey) he
    rw [keys] at mem
    obtain ⟨k, hk, same⟩ := List.mem_map.1 mem
    exact same ▸ isPlainKey_plainKey (ascii k hk)

/-- A document with an event whose key has capitals behind `0x`. -/
def capitalText : String :=
  "[\x7b\"tx_originator\": \"a\", \"val_bls_pub_key\": \"0xAA\", \"amount\": 1, \"block\": 2\x7d]"

/-- A directory with the document as its one snapshot. -/
def capitalSnapshot : FileTree where
  nodes := [(["a"], .directory), (["a", "staked_events_b.json"], .file capitalText.toUTF8 7)]
  clock := 8

/-- The event in the snapshot is read, written as a newer snapshot and read again. -/
theorem snapshots_readBack_of_capitals :
    ((∃ path, ((writeEvents (Path.ofText "a") .staked [⟨"a", "aa", 1, 2⟩] 2).run.run
        (Host.onTree NodeCall.offline) capitalSnapshot).1 = .ok path) ∨
      ∃ f, ((writeEvents (Path.ofText "a") .staked [⟨"a", "aa", 1, 2⟩] 2).run.run
        (Host.onTree NodeCall.offline) capitalSnapshot).1 = .error (.file f)) ∧
    ReadsBack (Path.ofText "a") .staked [⟨"a", "aa", 1, 2⟩] ∧
    ((readEvents (Path.ofText "a") EventType.staked.name).run.run (Host.onTree NodeCall.offline)
      (capitalSnapshot.putNode ["a", artifactName "staked" 2 (Moment.ofSeconds 0)]
        (.file (String.ofList (Json.written 0 (.list [Event.toValue ⟨"a", "aa", 1, 2⟩]))).toUTF8
          8))).1 =
      .ok [⟨"a", "aa", 1, 2⟩] := by
  have printable : ∀ e ∈ [(⟨"a", "aa", 1, 2⟩ : Event)], IsPrintable e := by
    refine List.forall_mem_singleton.2 ⟨?_, ?_⟩ <;> unfold Numeral.IsReadable <;> decide +kernel
  have printed := eventsText?_eq_some_iff.2 ⟨printable, rfl⟩
  have fileAt :
      ∀ name ∈ ["staked_events_b.json", artifactName EventType.staked.name 2 (Moment.ofSeconds 0)],
      capitalSnapshot.locate ((Path.ofText "a").child name) = .ok ["a", name] := by
    simp only [locate, Path.hasNul_eq]
    decide +kernel
  have directoryAt : capitalSnapshot.locate (Path.ofText "a") = .ok ["a"] := by
    rw [locate, Path.hasNul_eq]
    decide +kernel
  have held : capitalSnapshot.read ((Path.ofText "a").child "staked_events_b.json") = .ok _ :=
    read_eq_ok_iff.2 ⟨_, 7, fileAt _ (by decide), rfl⟩
  -- the snapshot that is there is the newest, and so is the one that is written after it
  have newest : IsNewest capitalSnapshot (Path.ofText "a") .staked
      ((Path.ofText "a").child "staked_events_b.json") := by
    have entries : capitalSnapshot.entries (Path.ofText "a") =
        .ok [⟨"staked_events_b.json", false, 7⟩] := by
      rw [FileTree.entries, locate, Path.hasNul_eq]
      decide +kernel
    refine ⟨_, entries, _, List.mem_singleton_self _, rfl, ⟨"b", by decide +kernel⟩,
      fun e' mem _ => ?_⟩
    exact .inl (List.mem_singleton.1 mem)
  have newestLater :
        IsNewest (capitalSnapshot.putNode ["a", artifactName "staked" 2 (Moment.ofSeconds 0)]
        (.file (String.ofList (Json.written 0 (.list [Event.toValue ⟨"a", "aa", 1, 2⟩]))).toUTF8 8))
      (Path.ofText "a") .staked
        ((Path.ofText "a").child (artifactName "staked" 2 (Moment.ofSeconds 0))) := by
    have entries : (capitalSnapshot.putNode ["a", artifactName "staked" 2 (Moment.ofSeconds 0)]
        (.file (String.ofList (Json.written 0 (.list [Event.toValue ⟨"a", "aa", 1, 2⟩]))).toUTF8
            8)).entries
          (Path.ofText "a") = .ok [⟨"staked_events_b.json", false, 7⟩,
            ⟨artifactName "staked" 2 (Moment.ofSeconds 0), false, 8⟩] := by
      rw [FileTree.entries, locate, Path.hasNul_eq]
      decide +kernel
    refine ⟨_, entries, _, List.mem_cons_of_mem _ (List.mem_singleton_self _), rfl,
      isSnapshotName_artifactName, ?_⟩
    simp
  have free : (capitalSnapshot.find?
      ["a", artifactName EventType.staked.name 2 (Moment.ofSeconds 0)]).isNone = true := by
    decide +kernel
  obtain ⟨trace, run, files, -, -⟩ := exists_runs_writeEvents .staked 2 (Moment.ofSeconds 0)
    (.self directoryAt rfl) (fileAt _ (by decide))
      (by simp [Option.isNone_iff_eq_none.1 free]) printed
  have decoded :
      eventsOfFile ((Path.ofText "a").child "staked_events_b.json").text capitalText.toUTF8 =
      .ok [⟨"a", "aa", 1, 2⟩] := by decide +kernel
  have read := runs_trace (Host.onTree NodeCall.offline)
    (readEvents (Path.ofText "a") EventType.staked.name).run capitalSnapshot
  obtain ⟨answers, -⟩ :=
    answers_of_looks (onFiles_trace _ _ _) (allowed_of_runs looks_readEvents read)
  rw [runs_readEvents read answers newest held, decoded] at read
  refine ⟨?_, ?_, ?_⟩
  · exact (snapshots_readBack (Path.ofText "a") .staked).1 printable (runs_trace _ _ _)
      (onFiles_trace _ _ _)
  · refine (snapshots_readBack (Path.ofText "a") .staked).2.2 newest held ?_ read
      (onFiles_trace _ _ _)
    have keys : rawKeys capitalText.toUTF8 = ["0xAA"] := by decide +kernel
    rw [keys]
    refine List.forall_mem_singleton.2 ⟨"AA", .inr (.inl (by decide)), by simp, ?_, ?_⟩ <;> decide
  · refine (snapshots_readBack (Path.ofText "a") .staked).2.1 ?_ run files rfl newestLater
      (runs_trace _ _ _) (onFiles_trace _ _ _)
    exact List.forall_mem_singleton.2 ⟨by decide +kernel, by decide⟩

end Registry
end StakeRegistry
