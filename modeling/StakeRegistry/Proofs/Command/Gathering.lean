/-
Acts that gather what a report is made of.

A question to a node or to a web service is served if it is answered with something that can be read
(`Served`). `Gathers p` says that the act `p` leaves the files as they are, and that it comes to a
value only if all of its questions are served. It is proved along the acts, a lemma for each way to
put acts together: a question is followed by what reads its answer (`gathers_ask_bind`), and the
workers of a scan by what joins their findings (`gathers_findSlots`).

What a report reads from a table in a file is told by `exists_slotTable_of_runs` and
`exists_table_of_runs`.
-/
import StakeRegistry.OptIn.Collect
import StakeRegistry.Proofs.Analytics
import StakeRegistry.Proofs.Beacon
import StakeRegistry.Proofs.Command.Setup
import StakeRegistry.Proofs.OptIn.SlotTables
import StakeRegistry.Proofs.OptIn.ValidatorTables
import StakeRegistry.Proofs.OptIn.Workers

namespace StakeRegistry

open Program FileTree

/-! ### Questions that are served -/

/-- The node is reached and answers with what can be read. A report asks it nothing else. -/
def NodeCall.Served : (c : NodeCall) → c.Answer → Prop
  | .connect _ _, reached => reached = true
  | .contract _ _, _ => True
  | .chainId, x => ∃ number, x = (.ok number : Except Fault Int)
  | .blockNumber, x => ∃ number, x = (.ok number : Except Fault Int)
  | .stakedCount _, x => ∃ count version n v,
      x = (.ok (count, version) : Except Fault (Json.Value × Json.Value)) ∧
      count.toInteger = .ok n ∧ version.toInteger = .ok v
  | .stakedPage _ _ _, x => ∃ keys version v,
      x = (.ok (keys, version) : Except Fault (List Bytes × Json.Value)) ∧ version.toInteger = .ok v
  | .logs _ _ _ _, x => ∃ logs events, x = (.ok logs : Except Fault (List RawLog)) ∧
      logs.mapM Registry.Event.ofLog = .ok events
  | _, _ => False

/-- A web service answers a request of a report with what can be read. -/
inductive WebRequest.Served (request : WebRequest) : Except Fault WebResponse → Prop where
  /-- The duties of an epoch are told. -/
  | duties {api : String} {epoch : Int} {response : WebResponse} {body data : Json.Value}
      {duties : List Json.Value} (asked : request.url = Beacon.dutiesUrl api epoch)
      (status : response.status = 200) (read : Json.Value.ofText response.text = .ok body)
      (told : body.member "data" (.list []) = .ok data) (elements : data.elements = .ok duties) :
      Served request (.ok response)
  /-- The block of a slot is told. -/
  | block {api : String} {number block : Int} {response : WebResponse} {body value : Json.Value}
      (asked : request.url = Beacon.blockUrl api number) (status : response.status = 200)
      (read : Json.Value.ofText response.text = .ok body)
      (told : Beacon.blockNumberIn body = .ok (some value)) (reads : value.toInteger = .ok block) :
      Served request (.ok response)
  /-- It is told that a slot has no block. -/
  | missed {api : String} {number : Int} {response : WebResponse}
      (asked : request.url = Beacon.blockUrl api number) (status : response.status = 404) :
      Served request (.ok response)
  /-- The opened commitments are told. -/
  | commits {response : WebResponse} {rows : Json.Value}
      {commits : Keyed Int Analytics.OpenedCommit} (asked : request.method = .post)
      (status : response.status = 200) (told : Analytics.rowsIn response.text = .ok rows)
      (read : Analytics.commitsOfRows rows = .ok commits) :
      Served request (.ok response)

/-- If the event is a question to the node or to a web service, it is served. -/
def Served : Event Host → Prop
  | ⟨.node c, x⟩ => c.Served x
  | ⟨.web request, x⟩ => request.Served x
  | _ => True

lemma served_of_isLocal {e : Event Host} (h : IsLocal e.1) : Served e := by
  obtain ⟨c, x⟩ := e
  cases c with
  | node c => exact absurd h id
  | web request => exact absurd h id
  | _ => trivial

/-! ### Acts that gather -/

section Acts

variable {ε ε' α β : Type} {es : List (Event Host)}

/-- The act leaves the files as they are, and comes to a value only if all of its questions are
served. -/
structure Gathers (p : Act ε α) : Prop where
  looks : Uses Looks p.run
  served : ∀ es a, Runs p.run es (.ok a) → ∀ e ∈ es, Served e

lemma gathers_of_local {p : Act ε α} (h : Uses IsLocal p.run) : Gathers p where
  looks := h.mono fun _ => IsLocal.looks
  served _ _ run e he := served_of_isLocal (allowed_of_runs h run e he)

lemma gathers_pure {a : α} : Gathers (pure a : Act ε α) :=
  gathers_of_local uses_run_pure

lemma gathers_throw {e : ε} : Gathers (throw e : Act ε α) :=
  gathers_of_local uses_run_throw

lemma gathers_orElse {f : ε' → ε} {x : Except ε' α} : Gathers (Act.orElse f x) :=
  gathers_of_local Act.uses_orElse

lemma gathers_ask {c : Host.Call} (h : IsLocal c) : Gathers (Act.ask c : Act ε (Host.Answer c)) :=
  gathers_of_local (Act.uses_ask h)

lemma gathers_say {line : String} : Gathers (Act.say line : Act ε Unit) :=
  gathers_ask trivial

/-- The questions of a step may be served only because what follows comes to a value. -/
lemma gathers_bind_of_needs {p : Act ε α} {f : α → Act ε β} (looks : Uses Looks p.run)
    (needs : ∀ es a es' b, Runs p.run es (.ok a) → Runs (f a).run es' (.ok b) → ∀ e ∈ es, Served e)
    (rest : ∀ a, Gathers (f a)) : Gathers (p >>= f) where
  looks := uses_run_bind looks fun a => (rest a).looks
  served es b run := by
    obtain ⟨own, later, a, rfl, first, next⟩ := runs_run_bind_ok_iff.1 run
    exact List.forall_mem_append.2 ⟨needs _ _ _ _ first next, (rest a).served _ _ next⟩

lemma gathers_bind {p : Act ε α} {f : α → Act ε β} (first : Gathers p) (rest : ∀ a, Gathers (f a)) :
    Gathers (p >>= f) :=
  gathers_bind_of_needs first.looks (fun _ _ _ _ run _ => first.served _ _ run) rest

/-- A question is followed by what reads its answer: it has to be served for a value to be read. -/
lemma gathers_ask_bind {c : Host.Call} {f : Host.Answer c → Act ε β} (looks : Looks c)
    (needs : ∀ x es b, Runs (f x).run es (.ok b) → Served ⟨c, x⟩) (rest : ∀ x, Gathers (f x)) :
    Gathers (Act.ask c >>= f) := by
  refine gathers_bind_of_needs (Act.uses_ask looks) (fun es x es' b asked read => ?_) rest
  obtain ⟨x, rfl, answered⟩ := Act.runs_ask_iff.1 asked
  cases answered
  exact List.forall_mem_singleton.2 (needs x es' b read)

/-- Guarding against a condition asks nothing. -/
lemma gathers_guard {c : Prop} [Decidable c] {e : ε} {f : Unit → Act ε β} (h : Gathers (f ())) :
    Gathers (if c then throw e >>= f else f ()) := by
  split
  · exact gathers_throw
  · exact h

lemma gathers_withError {f : ε' → ε} {p : Act ε' α} (h : Gathers p) :
    Gathers (Act.withError f p) where
  looks := uses_run_adapt h.looks
  served es a run := by
    obtain ⟨x, ran, ended⟩ := Act.runs_withError_iff.1 run
    obtain rfl := mapError_eq_ok_iff.1 ended.symm
    exact h.served _ _ ran

lemma gathers_mapM {f : α → Act ε β} {as : List α} (h : ∀ a, Gathers (f a)) :
    Gathers (as.mapM f) := by
  induction as with
  | nil => exact gathers_pure
  | cons a as ih =>
    rw [List.mapM_cons]
    exact gathers_bind (h a) fun b => gathers_bind ih fun bs => gathers_pure

end Acts

/-! ### The node -/

namespace Command

lemma gathers_reach {n : Config.Network} : Gathers (reach n) := by
  refine gathers_withError (gathers_ask_bind trivial (fun reached es u run => ?_) fun reached => ?_)
  · cases reached with
    | true => rfl
    | false => cases (runs_run_throw_iff.1 run).2
  · cases reached with
    | true => exact gathers_pure
    | false => exact gathers_throw

lemma gathers_chainIdOf {n : Config.Network} : Gathers (chainIdOf n) := by
  have asked :
      Gathers
        (Act.ask (.node .chainId) >>= fun x => Act.orElse .fault x : Act Node.NodeError Int) := by
    refine gathers_ask_bind trivial (fun x es number run => ?_) fun _ => gathers_orElse
    have told := (Act.runs_orElse_iff.1 run).2
    exact ⟨number, mapError_eq_ok_iff.1 told.symm⟩
  refine gathers_withError ?_
  unfold Node.chainId
  split
  · split
    · exact gathers_pure
    · exact asked
  · exact asked

lemma gathers_openRegistry {address : String} : Gathers (openRegistry address) :=
  gathers_withError (gathers_bind gathers_orElse fun _ =>
    gathers_ask_bind trivial (fun _ _ _ _ => trivial) fun _ => gathers_pure)

end Command

namespace Registry

variable {registry : String}

lemma gathers_newestBlock : Gathers newestBlock := by
  refine gathers_ask_bind trivial (fun x es number run => ?_) fun _ => gathers_orElse
  have told := (Act.runs_orElse_iff.1 run).2
  exact ⟨number, mapError_eq_ok_iff.1 told.symm⟩

lemma gathers_pause {ε : Type} {delay : Seconds} : Gathers (pause delay : Act ε Unit) := by
  rw [pause]
  cases delay.isZero with
  | false => exact gathers_ask trivial
  | true => exact gathers_pure

lemma gathers_fetchFrom {type : EventType} {q : Fetch} {toBlock first : Int} {left : Nat} :
    Gathers (fetchFrom registry type q toBlock first left) := by
  induction left generalizing first with
  | zero =>
    rw [fetchFrom]
    split
    · exact gathers_pure
    · exact gathers_throw
  | succ left ih =>
    rw [fetchFrom]
    split
    · exact gathers_pure
    refine gathers_ask_bind trivial (fun x es events run => ?_) fun x => ?_
    · obtain ⟨logs, hx, reading⟩ := Act.runs_orElse_bind_ok_iff.1 run
      obtain ⟨events, read, -⟩ := Act.runs_orElse_bind_ok_iff.1 reading
      exact ⟨logs, events, hx, read⟩
    · refine gathers_bind gathers_orElse fun logs => gathers_bind gathers_orElse fun events => ?_
      exact gathers_bind gathers_pause fun _ => gathers_bind ih fun _ => gathers_pure

lemma gathers_fetchEvents {type : EventType} {q : Fetch} :
    Gathers (fetchEvents registry type q) := by
  rw [fetchEvents]
  split
  · exact gathers_bind gathers_pure fun _ => gathers_fetchFrom
  · exact gathers_bind gathers_newestBlock fun _ => gathers_fetchFrom

lemma gathers_stakedCount : Gathers (stakedCount registry) := by
  refine gathers_ask_bind trivial (fun x es counted run => ?_) fun x => ?_
  · obtain ⟨⟨count, version⟩, hx, reading⟩ := Act.runs_orElse_bind_ok_iff.1 run
    obtain ⟨n, readCount, reading⟩ := Act.runs_orElse_bind_ok_iff.1 reading
    obtain ⟨v, readVersion, -⟩ := Act.runs_orElse_bind_ok_iff.1 reading
    exact ⟨count, version, n, v, hx, readCount, readVersion⟩
  · exact gathers_bind gathers_orElse fun told => gathers_bind gathers_orElse fun count =>
      gathers_bind gathers_orElse fun version => gathers_pure

lemma gathers_stakedPages {size count version first : Int} {left : Nat} :
    Gathers (stakedPages registry size count version first left) := by
  induction left generalizing first with
  | zero => exact gathers_pure
  | succ left ih =>
    rw [stakedPages]
    refine gathers_ask_bind trivial (fun x es keys run => ?_) fun x => ?_
    · obtain ⟨⟨page, told⟩, hx, reading⟩ := Act.runs_orElse_bind_ok_iff.1 run
      obtain ⟨v, read, -⟩ := Act.runs_orElse_bind_ok_iff.1 reading
      exact ⟨page, told, v, hx, read⟩
    · refine gathers_bind gathers_orElse fun told => gathers_bind gathers_orElse fun v => ?_
      exact gathers_guard (gathers_bind ih fun _ => gathers_pure)

lemma gathers_stakedKeys {size : Int} : Gathers (stakedKeys registry size) := by
  refine gathers_bind gathers_stakedCount fun counted => gathers_guard ?_
  exact gathers_bind gathers_stakedPages fun keys => gathers_guard gathers_pure

lemma local_sayTail {ε : Type} {keys : List String} {count : Int} :
    Uses IsLocal (sayTail keys count : Act ε Unit).run := by
  refine uses_run_bind (Act.uses_ask trivial) fun _ =>
    uses_run_bind (Act.uses_ask trivial) fun _ => ?_
  exact uses_run_bind (uses_run_forM fun _ => Act.uses_ask trivial) fun _ => Act.uses_ask trivial

lemma gathers_queryAll {size : Int} : Gathers (queryAll registry size) := by
  refine gathers_bind gathers_say fun _ => gathers_bind gathers_say fun _ => ?_
  refine gathers_bind gathers_say fun _ => gathers_bind (gathers_ask trivial) fun start => ?_
  refine gathers_bind gathers_stakedCount fun counted => ?_
  refine gathers_bind (gathers_ask trivial) fun clock => gathers_bind gathers_say fun _ => ?_
  refine gathers_bind gathers_stakedKeys fun keys =>
    gathers_bind (gathers_ask trivial) fun finished => ?_
  refine gathers_bind gathers_say fun _ => gathers_bind (gathers_of_local local_sayTail) fun _ => ?_
  exact gathers_bind gathers_say fun _ => gathers_bind gathers_say fun _ => gathers_pure

end Registry

/-! ### Web services -/

namespace Beacon

variable {api : String} {es : List (Event Host)}

lemma looks_get {url : String} {headers : Keyed String String} : Uses Looks (get url headers).run :=
  uses_run_bind (Act.uses_ask trivial) fun _ => Act.uses_orElse

lemma looks_proposerDuties {epoch : Int} : Uses Looks (proposerDuties api epoch).run := by
  have read (response : WebResponse) : Uses Looks (do
      let body ← Act.orElse BeaconError.unreadable (Json.Value.ofText response.text)
      Act.orElse .unreadable (body.member "data" (.list []))).run :=
    uses_run_bind Act.uses_orElse fun body => Act.uses_orElse
  refine uses_run_bind looks_get fun response => ?_
  split
  · split
    · exact uses_run_bind uses_run_throw fun _ =>
        uses_run_bind uses_run_throw fun _ => read response
    · exact uses_run_bind uses_run_throw fun _ => read response
  · exact read response

/-- The duties of an epoch are served if there is a list of them. -/
lemma served_of_runs_proposerDuties {epoch : Int} {data : Json.Value} {duties : List Json.Value}
    (run : Runs (proposerDuties api epoch).run es (.ok data))
    (elements : data.elements = .ok duties) :
    ∀ e ∈ es, Served e := by
  rw [proposerDuties] at run
  obtain ⟨response, rest, rfl, next⟩ := runs_get_bind_ok_iff.1 run
  by_cases status : response.status = 200
  · rw [if_neg (not_not.2 status)] at next
    obtain ⟨body, read, next⟩ := Act.runs_orElse_bind_ok_iff.1 next
    obtain ⟨rfl, ended⟩ := Act.runs_orElse_iff.1 next
    have told := mapError_eq_ok_iff.1 ended.symm
    exact List.forall_mem_singleton.2 (.duties rfl status read told elements)
  · -- both ways to refuse the duties are errors
    rw [if_pos status] at next
    split at next
    · cases (Runs.done_iff.1 next).2
    · cases (Runs.done_iff.1 next).2

lemma gathers_blockOfSlot {number : Int} : Gathers (blockOfSlot api number) := by
  rw [blockOfSlot, get, LawfulMonad.bind_assoc]
  refine gathers_ask_bind trivial (fun x es found run => ?_) fun x =>
    gathers_bind gathers_orElse fun response => ?_
  · obtain ⟨response, rfl, next⟩ := Act.runs_orElse_bind_ok_iff.1 run
    by_cases missed : response.status = 404
    · exact .missed rfl missed
    rw [if_neg missed] at next
    obtain ⟨status, next⟩ := runs_run_guard_ok_iff.1 next
    obtain ⟨body, read, next⟩ := Act.runs_orElse_bind_ok_iff.1 next
    obtain ⟨value?, told, next⟩ := Act.runs_orElse_bind_ok_iff.1 next
    cases value? with
    | none => cases (Runs.done_iff.1 next).2
    | some value =>
      obtain ⟨block, reads, -⟩ := Act.runs_orElse_bind_ok_iff.1 next
      exact .block rfl (not_not.1 status) read told reads
  · split
    · exact gathers_pure
    refine gathers_guard
      (gathers_bind gathers_orElse fun body => gathers_bind gathers_orElse fun value? => ?_)
    split
    · exact gathers_throw
    · exact gathers_bind gathers_orElse fun block => gathers_pure

end Beacon

namespace Analytics

lemma gathers_openedCommits {api key : String} : Gathers (openedCommits api key) := by
  refine gathers_ask_bind trivial (fun x es commits run => ?_) fun x =>
    gathers_bind gathers_orElse fun response => ?_
  · obtain ⟨response, rfl, next⟩ := Act.runs_orElse_bind_ok_iff.1 run
    obtain ⟨status, next⟩ := runs_run_guard_ok_iff.1 next
    obtain ⟨rows, told, next⟩ := Act.runs_orElse_bind_ok_iff.1 next
    have read := (Act.runs_orElse_iff.1 next).2
    exact .commits rfl (not_not.1 status) told (mapError_eq_ok_iff.1 read.symm)
  · exact gathers_guard (gathers_bind gathers_orElse fun rows => gathers_orElse)

end Analytics

/-! ### What the reports gather -/

namespace OptIn

open Beacon

variable {api registry : String} {validators : Keyed String Validator} {es : List (Event Host)}

lemma gathers_collect {fromBlock chunk : Int} {toBlock : Option Int} :
    Gathers (collect registry fromBlock toBlock chunk) := by
  have fetched (stop : Int) : Gathers (collect registry fromBlock (some stop) chunk) := by
    refine gathers_bind gathers_pure fun _ => gathers_bind gathers_say fun _ => ?_
    refine gathers_bind Registry.gathers_fetchEvents fun staked => ?_
    refine gathers_bind Registry.gathers_fetchEvents fun unstaked => ?_
    refine gathers_bind Registry.gathers_fetchEvents fun withdrawn => ?_
    exact gathers_bind gathers_say fun _ => gathers_pure
  cases toBlock with
  | some stop => exact fetched stop
  | none => exact gathers_bind Registry.gathers_newestBlock fun stop => fetched stop

lemma gathers_slotOfDuty {duty : Json.Value} : Gathers (slotOfDuty api validators duty) := by
  refine gathers_bind gathers_orElse fun pubkey => ?_
  split
  · exact gathers_pure
  refine gathers_bind gathers_orElse fun number => ?_
  refine gathers_bind (gathers_withError gathers_blockOfSlot) fun block? => ?_
  split
  · exact gathers_bind gathers_say fun _ => gathers_pure
  · split
    · exact gathers_pure
    · exact gathers_bind gathers_say fun _ => gathers_pure

lemma gathers_scanEpoch {epoch : Int} : Gathers (scanEpoch api validators epoch) := by
  have told (duties : Json.Value) (start : Nat) : Gathers (do
      let duties ← Act.orElse ScanError.unreadable duties.elements
      let slots ← slotsOfDuties api validators duties
      let finished : Nat ← Act.ask .clock
      Act.say
        ("Time taken for epoch " ++ toString epoch ++ ": " ++ secondsText 2 (finished - start))
      return slots) := by
    refine gathers_bind gathers_orElse fun duties => ?_
    have found : Gathers (slotsOfDuties api validators duties) :=
      gathers_bind (gathers_mapM fun _ => gathers_slotOfDuty) fun _ => gathers_pure
    refine gathers_bind found fun slots => ?_
    exact gathers_bind (gathers_ask trivial) fun finished =>
      gathers_bind gathers_say fun _ => gathers_pure
  refine gathers_bind (gathers_ask trivial) fun start => gathers_bind gathers_say fun _ => ?_
  refine gathers_bind_of_needs (uses_run_adapt looks_proposerDuties)
      (fun es data es' slots asked next => ?_) fun duties => told duties start
  obtain ⟨x, asked, ended⟩ := Act.runs_withError_iff.1 asked
  obtain rfl := mapError_eq_ok_iff.1 ended.symm
  obtain ⟨duties, elements, -⟩ := Act.runs_orElse_bind_ok_iff.1 next
  exact served_of_runs_proposerDuties asked elements

lemma gathers_scanFrom {epoch : Int} {count : Nat} :
    Gathers (scanFrom api validators epoch count) := by
  induction count generalizing epoch with
  | zero => exact gathers_pure
  | succ count ih =>
    exact gathers_bind gathers_scanEpoch fun slots => gathers_bind ih fun _ => gathers_pure

/-- If all workers come to a value, everything is served that any of them has asked. -/
lemma served_of_runs_scanRanges {ranges : List (Int × Int)} {found : List (List Slot)}
    (run : Runs (scanRanges api validators ranges) es (found.map .ok)) : ∀ e ∈ es, Served e := by
  induction ranges generalizing es found with
  | nil =>
    obtain ⟨rfl, -⟩ := Runs.done_iff.1 run
    exact List.forall_mem_nil _
  | cons range ranges ih =>
    obtain ⟨own, rest, x, xs, rfl, scanned, later, results⟩ := runs_scanRanges_cons_iff.1 run
    obtain ⟨slots, others, rfl, rfl, rfl⟩ := List.map_eq_cons_iff.1 results
    exact List.forall_mem_append.2 ⟨gathers_scanFrom.served _ _ scanned, ih later⟩

lemma looks_scanRanges {ranges : List (Int × Int)} :
    Uses Looks (scanRanges api validators ranges) := by
  induction ranges with
  | nil => trivial
  | cons range ranges ih =>
    rw [scanRanges, List.mapM_cons]
    exact uses_bind gathers_scanFrom.looks fun x => uses_bind ih fun xs => trivial

/-- Workers come to a value only if each of them does, in whatever order they finish. -/
lemma gathers_findSlots {first last workers : Int} :
    Gathers (findSlots api validators first last workers) := by
  refine gathers_bind gathers_orElse fun ranges =>
    gathers_bind (gathers_ask trivial) fun order => ?_
  refine gathers_bind_of_needs (uses_run_lift looks_scanRanges)
      (fun es results es' slots scans joining => ?_)
    fun results => gathers_bind gathers_orElse fun _ => gathers_pure
  obtain ⟨found, joined, -⟩ := Act.runs_orElse_bind_ok_iff.1 joining
  have scans : Runs (scanRanges api validators ranges) es results := by
    obtain ⟨es₁, es₂, x, rfl, scanned, ended⟩ := runs_bind_iff.1 scans
    obtain ⟨rfl, hx⟩ := Runs.done_iff.1 ended
    cases hx
    rwa [List.append_nil]
  have perm := order.arrange_perm (length_of_runs_scanRanges scans)
  have all : ∀ x ∈ results, ∃ slots, x = .ok slots := by
    intro x mem
    rw [mapM_id_eq_ok_iff.1 joined] at perm
    obtain ⟨slots, -, rfl⟩ := List.mem_map.1 (perm.mem_iff.2 mem)
    exact ⟨slots, rfl⟩
  obtain ⟨lists, rfl⟩ : ∃ lists : List (List Slot), results = lists.map .ok := by
    obtain ⟨lists, each⟩ := exists_mapM_eq_ok_iff.2 all
    exact ⟨lists, mapM_id_eq_ok_iff.1 each⟩
  exact served_of_runs_scanRanges scans

lemma gathers_markMissed {ε : Type} {slots : Keyed Int Slot}
    {commits : Keyed Int Analytics.OpenedCommit} :
    Gathers (markMissed slots commits : Act ε (List CheckedSlot)) :=
  gathers_mapM fun _ => gathers_bind gathers_say fun _ => gathers_pure

/-! ### Tables that are read -/

variable {t : FileTree} {path : Path}

lemma stopped_of_runs_checkStopped {rs : Csv.Records} {u : Unit}
    (run : Runs (checkStopped rs).run es (.ok u)) :
    rs.stopped = none := by
  rw [checkStopped] at run
  split at run
  · cases (runs_run_throw_iff.1 run).2
  · assumption

/-- Where a value comes of a table, the table is there. -/
lemma exists_reading_of_runs {α : Type} {f : Csv.Records → Act TableError α} {a : α}
    (run : Runs (recordsOfFile path >>= fun rs => sayHeader rs >>= fun _ => f rs).run es (.ok a))
    (answers : ∀ e ∈ es, t.Answers e) : ∃ bytes rest, t.read path = .ok bytes ∧
      Runs (f (Csv.records (.ofBytes bytes))).run rest (.ok a) := by
  obtain ⟨own, rest, rs, rfl, reading, next⟩ := runs_run_bind_ok_iff.1 run
  obtain ⟨x, later, rfl, decoding⟩ := Act.runs_ask_bind_iff.1 reading
  obtain ⟨bytes, rfl, decoded⟩ := Act.runs_orElse_bind_ok_iff.1 decoding
  obtain ⟨-, ended⟩ := runs_run_pure_iff.1 decoded
  cases ended
  obtain ⟨es₁, rest', ⟨⟩, -, -, next⟩ := runs_run_bind_ok_iff.1 next
  exact ⟨bytes, rest', (answers _ List.mem_cons_self).symm, next⟩

/-- Validators come of a table that is there and is read to its end. -/
lemma exists_table_of_runs {found : Keyed String Validator}
    (run : Runs (loadValidators path).run es (.ok found)) (answers : ∀ e ∈ es, t.Answers e) :
    ∃ bytes, t.read path = .ok bytes ∧ (Csv.records (.ofBytes bytes)).stopped = none := by
  obtain ⟨bytes, rest, held, next⟩ := exists_reading_of_runs run answers
  obtain ⟨es₁, rest₁, vs, -, -, next⟩ := runs_run_bind_ok_iff.1 next
  obtain ⟨es₂, rest₂, ⟨⟩, -, checked, -⟩ := runs_run_bind_ok_iff.1 next
  exact ⟨bytes, held, stopped_of_runs_checkStopped checked⟩

lemma exists_slot_of_slotsOfRows {file : String} {found slots : Keyed Int Slot} {line : Nat}
    {rows : List (List String)} (h : slotsOfRows file found line rows = .ok slots) :
    ∀ row ∈ rows, ∃ s, Slot.ofRecord row = .ok (some s) := by
  induction rows generalizing found line with
  | nil => exact List.forall_mem_nil _
  | cons row rows ih =>
    rw [slotsOfRows] at h
    split at h
    case h_1 s read => exact List.forall_mem_cons.2 ⟨⟨s, read⟩, ih h⟩
    case h_2 => cases h
    case h_3 => cases h

/-- Slots come of a table that is there and is read to its end, each row behind the header as a
slot. -/
lemma exists_slotTable_of_runs {slots : Keyed Int Slot}
    (run : Runs (loadSlots path).run es (.ok slots)) (answers : ∀ e ∈ es, t.Answers e) :
      ∃ bytes, t.read path = .ok bytes ∧ (Csv.records (.ofBytes bytes)).stopped = none ∧
      ∀ row ∈ (Csv.records (.ofBytes bytes)).records.tail, ∃ s, Slot.ofRecord row =
        .ok (some s) := by
  obtain ⟨bytes, rest, held, next⟩ := exists_reading_of_runs run answers
  obtain ⟨found, read, next⟩ := Act.runs_orElse_bind_ok_iff.1 next
  obtain ⟨es₁, rest₁, ⟨⟩, -, checked, -⟩ := runs_run_bind_ok_iff.1 next
  exact ⟨bytes, held, stopped_of_runs_checkStopped checked, exists_slot_of_slotsOfRows read⟩

end OptIn
end StakeRegistry
