/-
What can be looked up in values under keys.

A list of values under keys is seen through `find?`: what `put`, `erase` and a restriction to some
keys do to it is said by `find?_put`, `find?_erase` and `find?_restrict`. As long as each key stands
once, which `put`, `erase` and a restriction keep, the entries are what can be looked up
(`find?_eq_some_iff`).
-/
import Mathlib.Data.List.Induction
import Mathlib.Data.List.Nodup
import Mathlib.Data.List.Perm.Basic
import StakeRegistry.Keyed

namespace StakeRegistry.Keyed

variable {κ α β : Type} [DecidableEq κ] {m : Keyed κ α} {key other : κ} {v : α}

lemma find?_put : (m.put key v).find? other = if key = other then some v else m.find? other := by
  split_ifs with h
  · exact h ▸ find?_put_self key v m
  · exact find?_put_of_ne h v m

lemma find?_erase : (m.erase key).find? other = if key = other then none else m.find? other := by
  split_ifs with h
  · exact h ▸ find?_erase_self key m
  · exact find?_erase_of_ne h m

/-- The entries whose keys have a property. -/
lemma find?_restrict {P : κ → Bool} :
    find? key (m.filter fun p => P p.1) = if P key then m.find? key else none := by
  induction m with
  | nil => simp [find?]
  | cons p m ih =>
    obtain ⟨k, w⟩ := p
    by_cases hk : k = key
    · subst hk
      cases hP : P k <;> simp [find?, hP, ih]
    · cases hP : P k <;> simp [find?, hP, hk, ih]

lemma mem_of_find? (h : m.find? key = some v) : (key, v) ∈ m := by
  induction m with
  | nil => simp [find?] at h
  | cons p m ih =>
    obtain ⟨k, w⟩ := p
    by_cases hk : k = key
    · subst hk
      obtain rfl : w = v := by simpa [find?] using h
      exact List.mem_cons_self
    · exact List.mem_cons_of_mem _ (ih (by simpa [find?, hk] using h))

/-- If each key stands once, its entry is what is looked up. -/
lemma find?_eq_some_iff (hm : m.keys.Nodup) : m.find? key = some v ↔ (key, v) ∈ m := by
  refine ⟨mem_of_find?, fun h => ?_⟩
  induction m with
  | nil => simp at h
  | cons p m ih =>
    obtain ⟨k, w⟩ := p
    obtain ⟨hk, hm⟩ : k ∉ keys m ∧ (keys m).Nodup := by simpa [keys] using hm
    rcases List.mem_cons.1 h with he | h
    · obtain ⟨rfl, rfl⟩ := Prod.mk.inj he
      simp [find?]
    · have hne : k ≠ key := by
        rintro rfl
        exact hk (List.mem_map_of_mem h)
      simpa [find?, hne] using ih hm h

lemma mem_keys_iff : key ∈ m.keys ↔ ∃ v, m.find? key = some v := by
  constructor
  · intro h
    induction m with
    | nil => simp [keys] at h
    | cons p m ih =>
      obtain ⟨k, w⟩ := p
      by_cases hk : k = key
      · exact ⟨w, by simp [find?, hk]⟩
      · obtain ⟨v, hv⟩ := ih (by simpa [keys, Ne.symm hk] using h)
        exact ⟨v, by simpa [find?, hk] using hv⟩
  · rintro ⟨v, h⟩
    exact List.mem_map_of_mem (mem_of_find? h)

lemma find?_eq_none_iff : m.find? key = none ↔ key ∉ m.keys := by
  rw [mem_keys_iff, Option.eq_none_iff_forall_ne_some, not_exists]

/-! ### Each key once -/

lemma keys_put : (m.put key v).keys = if key ∈ m.keys then m.keys else m.keys ++ [key] := by
  induction m with
  | nil => simp [put, keys]
  | cons p m ih =>
    obtain ⟨k, w⟩ := p
    by_cases hk : k = key
    · subst hk
      simp [put, keys]
    · have hc : ∀ m : Keyed κ α, keys ((k, w) :: m) = k :: keys m := fun _ => rfl
      rw [put, if_neg hk, hc, hc, ih]
      by_cases h : key ∈ keys m <;> simp [h, Ne.symm hk]

lemma nodup_keys_put (hm : m.keys.Nodup) : (m.put key v).keys.Nodup := by
  rw [keys_put]
  split_ifs with h
  · exact hm
  · exact List.nodup_append.2 ⟨hm, List.nodup_singleton key, by
      rintro a ha b hb rfl
      exact h (List.mem_singleton.1 hb ▸ ha)⟩

/-- A new key is put behind the others. -/
lemma put_of_notMem (new : key ∉ m.keys) : m.put key v = m ++ [(key, v)] := by
  induction m with
  | nil => rfl
  | cons p m ih =>
    obtain ⟨k, w⟩ := p
    obtain ⟨ne, new⟩ : key ≠ k ∧ key ∉ keys m := by simpa [keys] using new
    rw [put, if_neg ne.symm, ih new, List.cons_append]

omit [DecidableEq κ] in
lemma notMem_of_nodup {m' : Keyed κ α} (distinct : (keys (m ++ (key, v) :: m')).Nodup) :
    key ∉ keys m := by
  rw [keys, List.map_append, List.map_cons] at distinct
  exact fun h => (List.nodup_append.1 distinct).2.2 key h key List.mem_cons_self rfl

omit [DecidableEq κ] in
lemma nodup_keys_of_sublist {m' : Keyed κ α} (h : m'.Sublist m) (hm : m.keys.Nodup) :
    m'.keys.Nodup :=
  hm.sublist (h.map Prod.fst)

/-! ### Values that are put one after another -/

lemma foldl_put_concat (key : α → κ) (as : List α) (a : α) :
    (as ++ [a]).foldl (fun (m : Keyed κ α) a => m.put (key a) a) [] =
      (as.foldl (fun (m : Keyed κ α) a => m.put (key a) a) []).put (key a) a := by
  rw [List.foldl_append]
  rfl

/-- Under a key stands the last of the values with it. -/
lemma find?_foldl_put (key : α → κ) (as : List α) {k : κ} :
    (as.foldl (fun (m : Keyed κ α) a => m.put (key a) a) []).find? k =
      (as.filter fun a => key a = k).getLast? := by
  induction as using List.reverseRecOn with
  | nil => rfl
  | append_singleton as a ih =>
    rw [foldl_put_concat, find?_put, ih, List.filter_append]
    split_ifs with own <;> simp [own]

lemma nodup_keys_foldl_put (key : α → κ) (as : List α) :
    (as.foldl (fun (m : Keyed κ α) a => m.put (key a) a) []).keys.Nodup := by
  induction as using List.reverseRecOn with
  | nil => exact List.nodup_nil
  | append_singleton as a ih => exact foldl_put_concat key as a ▸ nodup_keys_put ih

/-- Values with distinct keys stand under them in their order. -/
lemma foldl_put_of_nodup (key : α → κ) {as : List α} (distinct : (as.map key).Nodup) :
    as.foldl (fun (m : Keyed κ α) a => m.put (key a) a) [] = as.map fun a => (key a, a) := by
  induction as using List.reverseRecOn with
  | nil => rfl
  | append_singleton as a ih =>
    have others : (as.map key).Nodup := distinct.sublist ((List.sublist_append_left as [a]).map _)
    rw [List.foldl_append, ih others, List.map_append]
    refine put_of_notMem fun mem => ?_
    rw [keys, List.map_map] at mem
    rw [List.map_append, List.nodup_append] at distinct
    exact distinct.2.2 _ mem _ (List.mem_singleton_self _) rfl

/-! ### What is made of the entries -/

/-- An element that is added to the list under a key is added to all elements. -/
lemma flatMap_put_concat_perm {m : Keyed κ (List α)} {a : α} :
    ((m.put key ((m.find? key).getD [] ++ [a])).flatMap Prod.snd).Perm
      (m.flatMap Prod.snd ++ [a]) := by
  induction m with
  | nil => simp [put, find?]
  | cons p m ih =>
    obtain ⟨k, vs⟩ := p
    by_cases hk : k = key
    · subst hk
      have moved : (a :: m.flatMap Prod.snd).Perm (m.flatMap Prod.snd ++ [a]) :=
        (List.perm_append_singleton a _).symm
      simpa [put, find?] using moved.append_left vs
    · simpa [put, find?, hk] using ih.append_left vs

/-- What is made of the entry of a key, if every entry marks what is made of it with its key. -/
lemma filter_flatMap {m : Keyed κ α} {f : κ × α → List β} {mark : β → κ} (hm : m.keys.Nodup)
    (hf : ∀ p, ∀ b ∈ f p, mark b = p.1) : (m.flatMap f).filter (fun b => mark b = key) =
      ((m.find? key).map fun v => f (key, v)).getD [] := by
  induction m with
  | nil => rfl
  | cons p m ih =>
    obtain ⟨k, v⟩ := p
    obtain ⟨hk, hm⟩ : k ∉ keys m ∧ (keys m).Nodup := by simpa [keys] using hm
    rw [List.flatMap_cons, List.filter_append, ih hm]
    by_cases hkey : k = key
    · subst hkey
      have own : (f (k, v)).filter (fun b => mark b = k) = f (k, v) :=
        List.filter_eq_self.2 fun b hb => by simpa using hf _ b hb
      rw [own, find?_eq_none_iff.2 hk]
      simp [find?]
    · have others : (f (k, v)).filter (fun b => mark b = key) = [] :=
        List.filter_eq_nil_iff.2 fun b hb => by simpa [hf _ b hb] using hkey
      simp [others, find?, hkey]

end StakeRegistry.Keyed
