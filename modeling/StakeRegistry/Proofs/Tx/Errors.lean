/-
The errors of a submission.

Whatever the chain and the caller report, of whatever kind and at whichever question, a submission
that fails does so for a reason of its own, and the reason gives a true account of the run
(`Accounts`):

* a submission or a wait that failed is told with its place, its hash and its own fault;
* a lookup that failed is told with its own fault and the place of the attempt whose hash it asked
  for;
* a suggestion that failed is told with the fault of its last question;
* invalid fees are those of the last suggestion;
* exhausted attempts are told one by one, as they were submitted and answered (`recordOf`).

What escapes is the reason with its text, as long as the text can be put together: a fault may fail
to tell its own, and a number may have too many digits to be written (`Accurate`, `Tellable`).

The main statement is `errors_accurate`. The attempts that are told are compared with the
submissions as long as the run is unsettled (`Unsettled.attempts_eq`).
-/
import StakeRegistry.Proofs.Tx.Outbidding
import StakeRegistry.Proofs.Tx.Places

namespace StakeRegistry.Tx

variable {ω : Type} {s : Submitter} {intent : Intent ω} {fees last next : Fees}
  {past : List Attempt} {xs ys zs : List (Exchange ω)} {bs : List (Nat × String)} {e : TxError}

/-- How an attempt ended that was not included in time, by the answer to its submission. -/
def Ending.ofAnswer : Except Fault String → Ending
  | .ok hash => .timedOut hash
  | .error _ => .rejected

/-- The attempt at a place, by what was submitted and answered. -/
def recordOf (i : Nat) (x : Params × Except Fault String) : Attempt where
  index := i
  fees := x.1.fees
  ending := .ofAnswer x.2

/-- The error of a run tells of its exchanges what is true of them. -/
inductive Accounts (s : Submitter) (intent : Intent ω) (xs : List (Exchange ω)) :
    TxError → Prop where
  /-- The last submission failed, with this fault. -/
  | submission {before after : List (Exchange ω)} {params : Params} {f : Fault}
      (split : xs = before ++ .submit intent.payload params (.error f) :: after)
      (newest : submissions after = []) :
      Accounts s intent xs (.submissionFailed intent.description (submissions before).length f)
  /-- The wait for the last submission failed, with this fault. -/
  | wait {before : List (Exchange ω)} {params : Params} {hash : String} {f : Fault}
      (split : xs = before ++
        [.submit intent.payload params (.ok hash), .wait hash s.timeout (.error f)]) :
      Accounts s intent xs (.waitFailed intent.description hash (submissions before).length f)
  /-- The last lookup failed, with this fault; the submission at the place was answered with its
  hash. -/
  | lookup {before : List (Exchange ω)} {i : Nat} {hash : String} {params : Params} {f : Fault}
      (split : xs = before ++ [.receipt hash (.error f)])
      (broadcast : (submissions before)[i]? = some (params, .ok hash)) :
      Accounts s intent xs (.lookupFailed hash i f)
  /-- The last question for fees was answered with this fault, or with a value that is none of an
  integer, for this reason. -/
  | suggestion {before : List (Exchange ω)} {x : Exchange ω} {answer : Except Fault Json.Value}
      {f : Fault} (split : xs = before ++ [x]) (asked : x.feeAnswer? = some answer)
      (cause : answeredInteger answer = .error f) : Accounts s intent xs (.noSuggestion f)
  /-- The last suggestion was read, and its check gave this error. -/
  | fees {before : List (Exchange ω)} {y z : Except Fault Json.Value} {tip feeCap : Int}
      {e : InvalidFee} (split : xs = before ++ [.priorityFee y, .feeCap z])
      (readTip : answeredInteger y = .ok tip) (readCap : answeredInteger z = .ok feeCap)
      (invalid : Suggestion.check { tip, feeCap } = .error e) : Accounts s intent xs (.invalidFee e)
  /-- As many attempts were submitted as are allowed. They are told in their order, each as it was
  submitted and answered, and they can be looked up by the hashes that were answered and are not
  empty. -/
  | attempts {attempts : List Attempt} (made : (submissions xs).length = s.maxAttempts)
      (recorded : attempts = (submissions xs).mapIdx recordOf)
      (own : ∀ x ∈ submissions xs, x.1 = intent.params x.1.fees)
      (hashes : lookupHashes attempts = (submissions xs).filterMap fun x => lookupHash? x.2) :
      Accounts s intent xs (.exhausted intent.description s.maxAttempts attempts)

/-- The fault that a question was answered with, if it was. -/
def Exchange.fault? : Exchange ω → Option Fault
  | pendingNonce _ (.error f) => some f
  | priorityFee (.error f) => some f
  | feeCap (.error f) => some f
  | submit _ _ (.error f) => some f
  | wait _ _ (.error f) => some f
  | receipt _ (.error f) => some f
  | included _ _ (.error f) => some f
  | _ => none

/-- The faults that questions were answered with, in their order. -/
def faultsIn (xs : List (Exchange ω)) : List Fault :=
  xs.filterMap Exchange.fault?

/-- The number is one that an error of the run may tell: of a suggestion, or the most attempts. -/
def MayTell (s : Submitter) (xs : List (Exchange ω)) (n : Int) : Prop :=
  .ok n ∈ feesRead xs ∨ n = s.maxAttempts

/-- Every fault of the run has a text, and every number that may be told can be written. -/
structure Tellable (s : Submitter) (xs : List (Exchange ω)) : Prop where
  faults : ∀ f ∈ faultsIn xs, ∃ text, f.text = .ok text
  numbers : ∀ n, MayTell s xs n → Numeral.isWritable n = true

/-- What holds of a run that fails for a reason, and of what escapes from it. -/
structure Accurate (s : Submitter) (intent : Intent ω) (xs : List (Exchange ω)) (e : TxError) :
    Prop where
  /-- The reason tells of the exchanges what is true of them. -/
  accounts : Accounts s intent xs e
  /-- If an error of the submission escapes, then it is the reason. -/
  reason : ∀ {e' text}, e.escape = .error e' text → e' = e
  /-- If everything can be told, then the reason escapes with its text, and nothing else. -/
  closed : Tellable s xs → ∃ text, e.escape = .error e text
  /-- What else escapes is the failure of a fault to tell its text or of a number to be written. -/
  other : ∀ {kind}, e.escape = .other kind → (∃ f ∈ faultsIn xs, f.text = .error kind) ∨
    kind = .value ∧ ∃ n, MayTell s xs n ∧ Numeral.isWritable n = false

/-! ### Suggestions -/

lemma Suggests.accounts (h : Suggests ys (.error e)) : Accounts s intent (xs ++ ys) e := by
  generalize hr : Except.error e = r at h
  cases h with
  | noTip tip =>
    cases hr
    exact .suggestion rfl rfl tip
  | @noCap x y t f tip cap =>
    cases hr
    exact .suggestion (List.append_cons xs (.priorityFee x) [.feeCap y]) rfl cap
  | invalid tip cap invalid =>
    cases hr
    exact .fees rfl tip cap invalid
  | fees tip cap nonneg le => cases hr

/-! ### Lookups -/

/-- A search that fails ends with the lookup that failed. -/
lemma Search.eq_append_of_error (h : Search bs zs (.error e)) :
    ∃ looked i hash f, e = .lookupFailed hash i f ∧ zs = looked ++ [.receipt hash (.error f)] ∧
      (i, hash) ∈ bs := by
  generalize ho : (.error e : Except TxError (Option Receipt)) = o at h
  induction h with
  | nothing => cases ho
  | found => cases ho
  | @failed i hash bs f =>
    cases ho
    exact ⟨[], i, hash, f, rfl, rfl, List.mem_cons_self⟩
  | missing rest ih =>
    obtain ⟨looked, i, hash, f, rfl, rfl, mem⟩ := ih ho
    exact ⟨_ :: looked, i, hash, f, rfl, rfl, List.mem_cons_of_mem _ mem⟩

/-- The error of a lookup accounts for the exchanges, if the search was one for what was
broadcast. -/
lemma Search.accounts (h : Search (broadcasts xs) zs (.error e)) :
    Accounts s intent (xs ++ zs) e := by
  obtain ⟨looked, i, hash, f, rfl, rfl, mem⟩ := h.eq_append_of_error
  obtain ⟨-, params, broadcast⟩ := mem_broadcasts.1 mem
  have none : submissions looked = [] := submissions_prefix_eq_nil h.submissions_eq_nil
  refine .lookup (List.append_assoc xs looked _).symm (?_ : _ = some (params, Except.ok hash))
  rw [submissions_append, none, List.append_nil]
  exact broadcast

/-- A search for what was broadcast ends with its own error, or with the given one. -/
lemma Search.accounts_foundOr {e' : TxError} (h : Search (broadcasts xs) zs o)
    (end' : foundOr e' o = .error e) (given : o = .ok none → Accounts s intent (xs ++ zs) e') :
    Accounts s intent (xs ++ zs) e := by
  match o, end' with
  | .error e, rfl => exact h.accounts
  | .ok none, rfl => exact given rfl

/-! ### Attempts -/

lemma Failed.submissions_eq {ending : Ending} (h : Failed s intent next ending xs) :
    ∃ answer, submissions xs = [(intent.params next, answer)] ∧ ending = .ofAnswer answer := by
  cases h with
  | refused refusal => exact ⟨_, rfl, rfl⟩
  | timedOut timeout => exact ⟨_, rfl, rfl⟩

/-- The attempts so far are those that were submitted, as they were answered. -/
lemma Unsettled.attempts_eq (h : Unsettled s intent fees past last xs) :
    past.reverse = (submissions xs).mapIdx recordOf ∧
      ∀ x ∈ submissions xs, x.1 = intent.params x.1.fees := by
  induction h with
  | start => exact ⟨rfl, List.forall_mem_nil _⟩
  | @again past last next ending xs ys zs before offer failed ih =>
    obtain ⟨recorded, own⟩ := ih
    obtain ⟨answer, submitted, rfl⟩ := failed.submissions_eq
    rw [submissions_append, submissions_append, offer.submissions_eq_nil,
      List.nil_append, submitted]
    refine ⟨?_, ?_⟩
    · rw [List.reverse_cons, recorded, List.mapIdx_concat, before.length_submissions]
      rfl
    · exact List.forall_mem_append.2 ⟨own, List.forall_mem_singleton.2 rfl⟩

/-- The hashes by which attempts can be looked up are those that were answered. -/
lemma lookupHashes_mapIdx_recordOf (ps : List (Params × Except Fault String)) :
    lookupHashes (ps.mapIdx recordOf) = ps.filterMap fun x => lookupHash? x.2 := by
  induction ps using List.reverseRecOn with
  | nil => rfl
  | append_singleton ps x ih =>
    obtain ⟨params, answer⟩ := x
    rw [List.mapIdx_concat, lookupHashes, List.filterMap_append, List.filter_append,
      ← lookupHashes, ih, List.filterMap_append]
    congr 1
    cases answer with
    | error f => rfl
    | ok hash =>
      by_cases empty :
      hash = "" <;> simp [recordOf, Ending.ofAnswer, Attempt.hash?, lookupHash?, empty]

/-! ### Texts -/

lemma mem_faultsIn {x : Exchange ω} {f : Fault} (hx : x ∈ xs) (hf : x.fault? = some f) :
    f ∈ faultsIn xs :=
  List.mem_filterMap.2 ⟨x, hx, hf⟩

lemma mem_feesRead {x : Exchange ω} {answer : Except Fault Json.Value} (hx : x ∈ xs)
    (asked : x.feeAnswer? = some answer) : answeredInteger answer ∈ feesRead xs :=
  List.mem_map_of_mem (List.mem_filterMap.2 ⟨x, hx, asked⟩)

/-- Without a suggestion a fault was answered, or a value that is none of an integer; the latter has
a text. -/
lemma fault_of_suggestion {x : Exchange ω} {answer : Except Fault Json.Value} {f : Fault}
    {kind : FaultKind} (asked : x.feeAnswer? = some answer)
    (cause : answeredInteger answer = .error f) (failed : f.text = .error kind) :
    x.fault? = some f := by
  cases answer with
  | ok v =>
    obtain ⟨e, -, rfl⟩ := mapError_eq_error_iff.1 cause
    cases failed
  | error g =>
    obtain rfl : g = f := by simpa [answeredInteger] using cause
    cases x <;> simp_all [Exchange.feeAnswer?, Exchange.fault?]

lemma orUnwritable_eq_error_iff {text? : Option String} {kind : FaultKind} :
    orUnwritable text? = .error kind ↔ text? = none ∧ kind = .value := by
  cases text? <;> simp [orUnwritable, eq_comm]

/-- A text that cannot be put together has a fault in it that does not tell its own, or a number
that cannot be written. -/
lemma Accounts.of_message_error {kind : FaultKind} (h : Accounts s intent xs e)
    (few : (submissions xs).length ≤ s.maxAttempts) (failed : e.message = .error kind) :
    (∃ f ∈ faultsIn xs, f.text = .error kind) ∨
      kind = .value ∧ ∃ n, MayTell s xs n ∧ Numeral.isWritable n = false := by
  cases h with
  | @submission before after params f split newest =>
    rcases bind_eq_error_iff.1 failed with untold | ⟨text, -, failed⟩
    · exact .inl ⟨f,
        mem_faultsIn (x := .submit intent.payload params (.error f)) (by simp [split]) rfl, untold⟩
    rcases bind_eq_error_iff.1 failed with unwritable | ⟨place, -, failed⟩
    · obtain ⟨none, rfl⟩ := orUnwritable_eq_error_iff.1 unwritable
      refine .inr ⟨rfl, s.maxAttempts, .inr rfl, ?_⟩
      -- the place of a submission has no more digits than the most attempts
      have le : (submissions before).length ≤ s.maxAttempts := by
        simp only [split, submissions_append, List.length_append] at few
        omega
      by_contra writable
      have place := Numeral.isWritable_of_le le (by simpa using writable)
      rw [Numeral.text?_eq_none_iff.1 none] at place
      cases place
    · cases failed
  | @wait before params hash f split =>
    rcases bind_eq_error_iff.1 failed with untold | ⟨text, -, failed⟩
    · exact .inl ⟨f,
        mem_faultsIn (x := .wait hash s.timeout (.error f)) (by simp [split]) rfl, untold⟩
    · cases failed
  | @lookup before i hash params f split broadcast =>
    rcases bind_eq_error_iff.1 failed with untold | ⟨text, -, failed⟩
    · exact .inl ⟨f, mem_faultsIn (x := .receipt hash (.error f)) (by simp [split]) rfl, untold⟩
    · cases failed
  | @suggestion before x answer f split asked cause =>
    rcases bind_eq_error_iff.1 failed with untold | ⟨text, -, failed⟩
    · exact .inl ⟨f,
        mem_faultsIn (by simp [split]) (fault_of_suggestion asked cause untold), untold⟩
    · cases failed
  | @fees before y z tip feeCap e split readTip readCap invalid =>
    obtain ⟨none, rfl⟩ := orUnwritable_eq_error_iff.1 failed
    have tip_mem : answeredInteger y ∈ feesRead xs :=
      mem_feesRead (x := .priorityFee y) (by simp [split]) rfl
    have cap_mem : answeredInteger z ∈ feesRead xs :=
      mem_feesRead (x := .feeCap z) (by simp [split]) rfl
    rw [readTip] at tip_mem
    rw [readCap] at cap_mem
    refine .inr ⟨rfl, ?_⟩
    by_contra writable
    push Not at writable
    have tip_writable := writable tip (.inl tip_mem)
    have cap_writable := writable feeCap (.inl cap_mem)
    obtain ⟨text, told⟩ := Suggestion.exists_message_of_check invalid (by simpa using tip_writable)
      (by simpa using cap_writable)
    rw [none] at told
    cases told
  | attempts made recorded own hashes =>
    rcases bind_eq_error_iff.1 failed with unwritable | ⟨limit, -, failed⟩
    · obtain ⟨none, rfl⟩ := orUnwritable_eq_error_iff.1 unwritable
      exact .inr ⟨rfl, s.maxAttempts, .inr rfl, Numeral.text?_eq_none_iff.1 none⟩
    · cases failed

/-! ### Every run -/

lemma Settled.accounts (h : Settled s intent fees xs (.error e)) (valid : fees.Valid) :
    Accounts s intent xs e := by
  have place {past : List Attempt} {last next : Fees} {xs ys : List (Exchange ω)}
      (before : Unsettled s intent fees past last xs) (offer : Offer last past ys next) :
      past.length = (submissions (xs ++ ys)).length := by
    rw [submissions_append, offer.submissions_eq_nil, List.append_nil, before.length_submissions]
  generalize hr : (.error e : Except TxError Receipt) = r at h
  cases h with
  | included before left offer => cases hr
  | noOffer before left retry offer =>
    cases hr
    exact (offer.suggests (valid.of_replaces before.replaces).1).accounts
  | @submissionFailed past last next xs ys f before left offer refusal unused =>
    cases hr
    rw [place before offer]
    exact .submission (List.append_assoc xs ys _).symm rfl
  | @waitFailed past last next xs ys hash f before left offer timeout =>
    cases hr
    rw [place before offer]
    exact .wait (List.append_assoc xs ys _).symm
  | @nonceUsed past last next us ys zs f o before left offer refusal used search =>
    let asked := us ++ ys ++ [.submit intent.payload (intent.params next) (.error f)]
    have split : us ++ (ys ++ .submit intent.payload (intent.params next) (.error f) :: zs) =
        asked ++ zs := by simp [asked]
    have broadcast : broadcasts asked = named past := before.broadcasts_eq_of_failure offer
    rw [← broadcast] at search
    rw [split]
    refine search.accounts_foundOr hr.symm fun _ => ?_
    have newest :
      asked ++ zs = us ++ ys ++ .submit intent.payload (intent.params next) (.error f) :: zs :=
      split.symm.trans (List.append_assoc us ys _).symm
    rw [place before offer]
    exact .submission newest search.submissions_eq_nil
  | @exhausted past last us zs o before left search =>
    rw [← before.broadcasts_eq] at search
    refine search.accounts_foundOr hr.symm fun _ => ?_
    obtain ⟨recorded, own⟩ := before.attempts_eq
    have made : submissions (us ++ zs) = submissions us := by
      rw [submissions_append, search.submissions_eq_nil, List.append_nil]
    refine .attempts ?_ ?_ ?_ ?_
    · rw [made, before.length_submissions, left]
    · rw [made]
      exact recorded
    · rw [made]
      exact own
    · rw [made, recorded]
      exact lookupHashes_mapIdx_recordOf _

lemma Accounts.accurate (h : Accounts s intent xs e)
    (few : (submissions xs).length ≤ s.maxAttempts) : Accurate s intent xs e := by
  have other : ∀ {kind}, e.escape = .other kind → (∃ f ∈ faultsIn xs, f.text = .error kind) ∨
      kind = .value ∧ ∃ n, MayTell s xs n ∧ Numeral.isWritable n = false :=
    fun escape => h.of_message_error few (TxError.escape_eq_other_iff.1 escape)
  refine ⟨h, fun escape => (TxError.escape_eq_error_iff.1 escape).1, fun tellable => ?_, other⟩
  cases escape : e.escape with
  | error e' text =>
    obtain ⟨rfl, -⟩ := TxError.escape_eq_error_iff.1 escape
    exact ⟨text, rfl⟩
  | other kind =>
    rcases other escape with ⟨f, hf, untold⟩ | ⟨-, n, told, unwritable⟩
    · obtain ⟨text, ht⟩ := tellable.faults f hf
      rw [untold] at ht
      cases ht
    · rw [tellable.numbers n told] at unwritable
      cases unwritable

/-- Whatever the chain and the caller report, a submission that fails does so for a reason that
tells of its exchanges what is true of them; and the reason escapes with its text, unless the text
cannot be put together. -/
theorem errors_accurate {fees : Fees} (valid : fees.Valid) {ω : Type} {s : Submitter}
    {intent : Intent ω} {es : List (Program.Event (Chain ω))} {e : TxError}
    (run : (submit s intent fees).run.Runs es (.error e)) : Accurate s intent (exchanges es) e :=
  ((settled_of_runs run).accounts valid).accurate (settled_of_runs run).length_submissions_le

/-- Three attempts are in vain: two were waited for, one of them under a hash that is empty, and one
was refused, by a report that is itself one of a wait. -/
theorem errors_accurate_of_three_attempts :
    let s : Submitter := { maxAttempts := 3 }
    let intent : Intent Unit := { payload := (), sender := "0xa" }
    let fees : Fees := { tip := 0, feeCap := 0, gasLimit := 21000, nonce := 7 }
    let second : Fees := { fees with tip := 1, feeCap := 2 }
    let third : Fees := { fees with tip := 2, feeCap := 4 }
    let script : List (Exchange Unit) := [
      .submit () (intent.params fees) (.ok "0x1"),
      .wait "0x1" s.timeout (.error (.notIncluded "0x1" "60")),
      .priorityFee (.ok (.int 0)), .feeCap (.ok (.int 0)),
      .submit () (intent.params second) (.error (.reported .inclusionTimeout "already known")),
      .priorityFee (.ok (.int 0)), .feeCap (.ok (.int 0)),
      .submit () (intent.params third) (.ok ""),
      .wait "" s.timeout (.error (.reported .inclusionTimeout "late")),
      .receipt "0x1" (.ok none)]
    let program := (submit s intent fees).run
    let e : TxError := .exhausted "tx" 3
      [⟨0, fees, .timedOut "0x1"⟩, ⟨1, second, .rejected⟩, ⟨2, third, .timedOut ""⟩]
    (program.run Chain.scripted script).1 = .error e ∧
      e.escape = .error e "tx not included after 3 attempts" ∧
      Accurate s intent (exchanges (program.trace Chain.scripted script)) e := by
  intro s intent fees second third script program e
  have valid : fees.Valid := ⟨by decide, by decide, by decide, by decide⟩
  have result : (program.run Chain.scripted script).1 = .error e := by decide +kernel
  exact ⟨result, by decide +kernel, errors_accurate valid (result ▸ Program.runs_trace _ _ _)⟩

/-- The cause of an error need not be a fault that a question was answered with, for the answer may
be none of an integer; and the error of a submission need not escape, for a fault may not tell its
text. -/
theorem errors_neither_always_of_faults_nor_always_told :
    (¬ ∀ (s : Submitter) (intent : Intent Unit) (fees : Fees)
      (es : List (Program.Event (Chain Unit))) (f : Fault), fees.Valid →
        (submit s intent fees).run.Runs es (.error (.noSuggestion f)) →
        f ∈ faultsIn (exchanges es)) ∧
    ¬ ∀ (s : Submitter) (intent : Intent Unit) (fees : Fees)
      (es : List (Program.Event (Chain Unit))) (e : TxError), fees.Valid →
        (submit s intent fees).run.Runs es (.error e) → ∃ e' text, e.escape = .error e' text := by
  let s : Submitter := { maxAttempts := 2 }
  let intent : Intent Unit := { payload := (), sender := "0xa" }
  let fees : Fees := { tip := 0, feeCap := 0, gasLimit := 21000, nonce := 7 }
  have valid : fees.Valid := ⟨by decide, by decide, by decide, by decide⟩
  let program : Program (Chain Unit) (Except TxError Receipt) := (submit s intent fees).run
  refine ⟨fun faulty => ?_, fun told => ?_⟩
  · let late : Fault := .notIncluded "0x1" "60"
    let script : List (Exchange Unit) := [.submit () (intent.params fees) (.ok "0x1"),
      .wait "0x1" s.timeout (.error late), .priorityFee (.ok .null)]
    have faults : faultsIn (exchanges (program.trace Chain.scripted script)) = [late] := by
      decide +kernel
    have ended : (program.run Chain.scripted script).1 =
        .error (.noSuggestion (.unreadable .wrongKind)) := by decide +kernel
    have run := Program.runs_trace Chain.scripted program script
    rw [ended] at run
    have cause := faulty s intent fees _ _ valid run
    rw [faults] at cause
    simp [late] at cause
  · let f : Fault := .reported .runtime (.fails .value)
    let script : List (Exchange Unit) := [.submit () (intent.params fees) (.error f)]
    have ended : (program.run Chain.scripted script).1 = .error (.submissionFailed "tx" 0 f) := by
      decide +kernel
    have run := Program.runs_trace Chain.scripted program script
    rw [ended] at run
    obtain ⟨e', text, escape⟩ := told s intent fees _ _ valid run
    obtain ⟨-, message⟩ := TxError.escape_eq_error_iff.1 escape
    cases message

end StakeRegistry.Tx
