/-
What the consensus layer tells about epochs and slots.

The answers of the web are told by their address (`web`). From such answers it is told:

* `TellsDuties web api epoch duties`: these are the duties of an epoch;
* `TellsBlock web api number block`: a block with this number was proposed in a slot;
* `TellsMissed web api number`: no block was proposed in a slot.

Both questions, for duties and for the block of a slot, ask for one address, and what they find
without an error is what is told there.
-/
import StakeRegistry.Beacon
import StakeRegistry.Proofs.Host.Agreement

namespace StakeRegistry.Beacon

open Program Host

/-- Where the proposers of an epoch are told. -/
def dutiesUrl (api : String) (epoch : Int) : String :=
  resource api ("/eth/v1/validator/duties/proposer/" ++ toString epoch)

/-- Where the block of a slot is told. -/
def blockUrl (api : String) (number : Int) : String :=
  resource api ("/eth/v2/beacon/blocks/" ++ toString number)

/-- These are the duties of an epoch. -/
def TellsDuties (web : String → Except Fault WebResponse) (api : String) (epoch : Int)
    (duties : List Json.Value) : Prop :=
  ∃ response body data, web (dutiesUrl api epoch) = .ok response ∧ response.status = 200 ∧
    Json.Value.ofText response.text = .ok body ∧ body.member "data" (.list []) = .ok data ∧
    data.elements = .ok duties

/-- A block with this number was proposed in a slot. -/
def TellsBlock (web : String → Except Fault WebResponse) (api : String) (number block : Int) :
    Prop :=
  ∃ response body value, web (blockUrl api number) = .ok response ∧ response.status = 200 ∧
    Json.Value.ofText response.text = .ok body ∧ blockNumberIn body = .ok (some value) ∧
    value.toInteger = .ok block

/-- No block was proposed in a slot. -/
def TellsMissed (web : String → Except Fault WebResponse) (api : String) (number : Int) : Prop :=
  ∃ response, web (blockUrl api number) = .ok response ∧ response.status = 404

variable {web : String → Except Fault WebResponse} {api : String} {es : List (Event Host)}

/-- A slot has one block. -/
lemma TellsBlock.eq {number block block' : Int} (h : TellsBlock web api number block)
    (h' : TellsBlock web api number block') : block = block' := by
  obtain ⟨response, body, value, answer, -, read, found, reads⟩ := h
  obtain ⟨response', body', value', answer', -, read', found', reads'⟩ := h'
  obtain rfl : response = response' := Except.ok.inj (answer.symm.trans answer')
  obtain rfl : body = body' := Except.ok.inj (read.symm.trans read')
  obtain rfl : value = value' := Option.some.inj (Except.ok.inj (found.symm.trans found'))
  exact Except.ok.inj (reads.symm.trans reads')

/-- A slot that has a block was not missed. -/
lemma TellsBlock.not_tellsMissed {number block : Int} (h : TellsBlock web api number block) :
    ¬ TellsMissed web api number := by
  rintro ⟨response', answer', missed⟩
  obtain ⟨response, body, value, answer, status, -⟩ := h
  obtain rfl : response = response' := Except.ok.inj (answer.symm.trans answer')
  omega

/-- A resource is got with one request. -/
lemma runs_get_bind_ok_iff {url : String} {headers : Keyed String String} {β : Type}
    {f : WebResponse → Act BeaconError β} {b : β} :
    Runs (get url headers >>= f).run es (.ok b) ↔ ∃ response rest,
      es = ⟨.web { method := .get, url, headers }, Except.ok response⟩ :: rest ∧
        Runs (f response).run rest (.ok b) := by
  rw [get, LawfulMonad.bind_assoc, Act.runs_ask_bind_iff]
  constructor
  · rintro ⟨answer, rest, rfl, run⟩
    obtain ⟨response, rfl, run⟩ := Act.runs_orElse_bind_ok_iff.1 run
    exact ⟨response, rest, rfl, run⟩
  · rintro ⟨response, rest, rfl, run⟩
    exact ⟨.ok response, rest, rfl, Act.runs_orElse_bind_ok_iff.2 ⟨response, rfl, run⟩⟩

/-- What a web service that answers by its address says to one request. -/
lemma answer_of_answeredByUrl {request : WebRequest} {answer : Except Fault WebResponse}
    (h : AnsweredByUrl web (⟨.web request, answer⟩ :: es)) : web request.url = answer :=
  (h request answer List.mem_cons_self).symm

/-- The duties of an epoch are found at one address, and are told there. -/
lemma tellsDuties_of_runs {epoch : Int} {data : Json.Value} {duties : List Json.Value}
    (run : Runs (proposerDuties api epoch).run es (.ok data))
    (elements : data.elements = .ok duties) (answered : AnsweredByUrl web es) :
    TellsDuties web api epoch duties ∧ requestedUrls es = [dutiesUrl api epoch] := by
  rw [proposerDuties] at run
  obtain ⟨response, rest, rfl, next⟩ := runs_get_bind_ok_iff.1 run
  by_cases status : response.status = 200
  · rw [if_neg (not_not.2 status)] at next
    obtain ⟨body, read, next⟩ := Act.runs_orElse_bind_ok_iff.1 next
    obtain ⟨rfl, ended⟩ := Act.runs_orElse_iff.1 next
    have found := mapError_eq_ok_iff.1 ended.symm
    exact ⟨⟨response, body, data, answer_of_answeredByUrl answered, status, read, found, elements⟩,
      rfl⟩
  · -- Both ways to refuse the duties are errors.
    rw [if_pos status] at next
    split at next
    · exact absurd (Runs.done_iff.1 next).2 (by simp)
    · exact absurd (Runs.done_iff.1 next).2 (by simp)

/-- The block of a slot is found at one address, and is told there. -/
lemma tells_of_runs_blockOfSlot {number : Int} {found : Option Int}
    (run : Runs (blockOfSlot api number).run es (.ok found)) (answered : AnsweredByUrl web es) :
    (found = none ∧ TellsMissed web api number ∨
      ∃ block, found = some block ∧ TellsBlock web api number block) ∧
    requestedUrls es = [blockUrl api number] := by
  rw [blockOfSlot] at run
  obtain ⟨response, rest, rfl, next⟩ := runs_get_bind_ok_iff.1 run
  have answer := answer_of_answeredByUrl answered
  by_cases missed : response.status = 404
  · rw [if_pos missed] at next
    obtain ⟨rfl, ended⟩ := runs_run_pure_iff.1 next
    cases ended
    exact ⟨.inl ⟨rfl, response, answer, missed⟩, rfl⟩
  · rw [if_neg missed] at next
    obtain ⟨status, next⟩ := runs_run_guard_ok_iff.1 next
    obtain ⟨body, read, next⟩ := Act.runs_orElse_bind_ok_iff.1 next
    obtain ⟨value?, tells, next⟩ := Act.runs_orElse_bind_ok_iff.1 next
    cases value? with
    | none => exact absurd (Runs.done_iff.1 next).2 (by simp)
    | some value =>
      obtain ⟨block, reads, next⟩ := Act.runs_orElse_bind_ok_iff.1 next
      obtain ⟨rfl, ended⟩ := runs_run_pure_iff.1 next
      cases ended
      exact ⟨.inr ⟨block, rfl, response, body, value, answer, not_not.1 status, read, tells, reads⟩,
        rfl⟩

/-! ### Answers that depend only on the address -/

lemma agree_get {url : String} {headers : Keyed String String} :
    Agree web (get url headers).run (get url headers).run :=
  Agree.run_bind Agree.run_web fun _ => Agree.run_orElse

lemma agree_proposerDuties {epoch : Int} :
    Agree web (proposerDuties api epoch).run (proposerDuties api epoch).run := by
  refine Agree.run_bind agree_get fun response => ?_
  split
  · split
    · exact Agree.done
    · exact Agree.done
  · exact Agree.run_bind Agree.run_orElse fun _ => Agree.run_orElse

lemma agree_blockOfSlot {number : Int} :
    Agree web (blockOfSlot api number).run (blockOfSlot api number).run := by
  refine Agree.run_bind agree_get fun response => ?_
  split
  · exact Agree.done
  split
  · exact Agree.done
  refine Agree.run_bind Agree.run_orElse fun body =>
    Agree.run_bind Agree.run_orElse fun value? => ?_
  cases value? with
  | none => exact Agree.done
  | some value => exact Agree.run_bind Agree.run_orElse fun _ => Agree.done

end StakeRegistry.Beacon
