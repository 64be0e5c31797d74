/-
What can be read off the exchanges of a submission: what was submitted with which answer, under
which hashes attempts can be looked up, which lookups were made, and which receipts were obtained.
-/
import StakeRegistry.Proofs.Tx.Exchange

namespace StakeRegistry.Tx

variable {ω : Type}

namespace Exchange

/-- What was offered and answered, if the exchange is a submission. -/
@[simp] def submission? : Exchange ω → Option (Params × Except Fault String)
  | submit _ params answer => some (params, answer)
  | _ => none

/-- Which hash was looked up with which answer, if the exchange is a lookup. -/
@[simp] def lookup? : Exchange ω → Option (String × Except Fault (Option Receipt))
  | receipt hash answer => some (hash, answer)
  | _ => none

/-- The receipt that an exchange obtains, with the hash that was asked for. -/
@[simp] def obtained? : Exchange ω → Option (String × Receipt)
  | wait hash _ (.ok r) => some (hash, r)
  | receipt hash (.ok (some r)) => some (hash, r)
  | _ => none

/-- Does the exchange report a receipt? -/
def isReport : Exchange ω → Bool
  | included _ _ _ => true
  | _ => false

end Exchange

/-- The submissions among the exchanges, in their order. -/
def submissions (xs : List (Exchange ω)) : List (Params × Except Fault String) :=
  xs.filterMap Exchange.submission?

/-- The lookups among the exchanges, in their order. -/
def lookups (xs : List (Exchange ω)) : List (String × Except Fault (Option Receipt)) :=
  xs.filterMap Exchange.lookup?

/-- The receipts that the exchanges obtain, in their order. -/
def obtained (xs : List (Exchange ω)) : List (String × Receipt) :=
  xs.filterMap Exchange.obtained?

/-- The hash under which a submission can be looked up: an empty hash names nothing. -/
def lookupHash? : Except Fault String → Option String
  | .ok hash => if hash = "" then none else some hash
  | .error _ => none

/-- The hashes that were broadcast, each with the place of its submission, the newest first. -/
def broadcasts (xs : List (Exchange ω)) : List (Nat × String) :=
  ((submissions xs).zipIdx.filterMap fun x => (lookupHash? x.1.2).map (x.2, ·)).reverse

@[simp] lemma submissions_nil : submissions ([] : List (Exchange ω)) = [] := rfl

@[simp] lemma lookups_nil : lookups ([] : List (Exchange ω)) = [] := rfl

@[simp] lemma obtained_nil : obtained ([] : List (Exchange ω)) = [] := rfl

@[simp] lemma submissions_cons (x : Exchange ω) (xs : List (Exchange ω)) :
    submissions (x :: xs) = x.submission?.toList ++ submissions xs := by
  cases x <;> rfl

@[simp] lemma lookups_cons (x : Exchange ω) (xs : List (Exchange ω)) :
    lookups (x :: xs) = x.lookup?.toList ++ lookups xs := by
  cases x <;> rfl

@[simp] lemma obtained_cons (x : Exchange ω) (xs : List (Exchange ω)) :
    obtained (x :: xs) = x.obtained?.toList ++ obtained xs := by
  rw [obtained, List.filterMap_cons]
  cases h : x.obtained? <;> simp [obtained]

@[simp] lemma submissions_append (xs ys : List (Exchange ω)) :
    submissions (xs ++ ys) = submissions xs ++ submissions ys :=
  List.filterMap_append

@[simp] lemma lookups_append (xs ys : List (Exchange ω)) :
    lookups (xs ++ ys) = lookups xs ++ lookups ys :=
  List.filterMap_append

@[simp] lemma obtained_append (xs ys : List (Exchange ω)) :
    obtained (xs ++ ys) = obtained xs ++ obtained ys :=
  List.filterMap_append

lemma mem_submissions {xs : List (Exchange ω)} {params : Params} {answer : Except Fault String} :
    (params, answer) ∈ submissions xs ↔ ∃ payload, .submit payload params answer ∈ xs := by
  simp only [submissions, List.mem_filterMap]
  constructor
  · rintro ⟨x, hx, h⟩
    cases x <;> simp [Exchange.submission?] at h
    obtain ⟨rfl, rfl⟩ := h
    exact ⟨_, hx⟩
  · rintro ⟨payload, h⟩
    exact ⟨_, h, rfl⟩

@[simp] lemma broadcasts_nil : broadcasts ([] : List (Exchange ω)) = [] := rfl

/-- Later exchanges put their own hashes in front. -/
lemma broadcasts_append (xs ys : List (Exchange ω)) :
    broadcasts (xs ++ ys) =
      (((submissions ys).zipIdx (submissions xs).length).filterMap fun x =>
        (lookupHash? x.1.2).map (x.2, ·)).reverse ++ broadcasts xs := by
  simp [broadcasts, List.zipIdx_append]

lemma broadcasts_append_of_submissions_eq_nil {xs ys : List (Exchange ω)}
    (h : submissions ys = []) :
    broadcasts (xs ++ ys) = broadcasts xs := by
  simp [broadcasts_append, h]

/-- What was broadcast was answered by a submission at its place, and its hash is not empty. -/
lemma mem_broadcasts {xs : List (Exchange ω)} {i : Nat} {hash : String} :
    (i, hash) ∈ broadcasts xs ↔
      hash ≠ "" ∧ ∃ params, (submissions xs)[i]? = some (params, .ok hash) := by
  simp only [broadcasts, List.mem_reverse, List.mem_filterMap, Option.map_eq_some_iff,
    Prod.mk.injEq, Prod.exists, List.mem_zipIdx_iff_getElem?]
  constructor
  · rintro ⟨params, answer, j, hx, found, h, rfl, rfl⟩
    cases answer with
    | error f => simp [lookupHash?] at h
    | ok hash =>
      obtain ⟨hne, rfl⟩ : hash ≠ "" ∧ hash = found := by simpa [lookupHash?] using h
      exact ⟨hne, params, hx⟩
  · rintro ⟨hne, params, h⟩
    exact ⟨params, .ok hash, i, h, hash, by simp [lookupHash?, hne], rfl, rfl⟩

end StakeRegistry.Tx
