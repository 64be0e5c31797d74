/-
A document is read as the value that was written.

A value is plain (`IsPlain`) if its numbers are integers that can be read, its texts have no lone
halves and no object has two members under one key. The main statement is `ofText_written`: a plain
value whose lists and objects do not stand too deep inside each other is what its document says. It
is proved for a document that anything may follow (`Reads`), one lemma for each kind of value, and
from these by the recursion of values.
-/
import StakeRegistry.Proofs.Json.Scalar
import StakeRegistry.Proofs.Keyed

namespace StakeRegistry.Json

variable {c : Char} {r : List Char} {fuel depth : Nat} {i : Int}

/-! ### Single values -/

lemma value_of_isDigit (h : c.isDigit = true) :
    value (fuel + 1) depth (c :: r) = numberRest false (c :: r) := by
  have ne : ∀ d : Char, d.isDigit = false → c ≠ d := fun d hd => Numeral.ne_of_isDigit h hd
  simp only [value, (word?_eq_none_of_isDigit h).1]
  split
  next he => exact absurd (List.cons.inj he).1 (ne '"' (by decide))
  next he => exact absurd (List.cons.inj he).1 (ne '[' (by decide))
  next he => exact absurd (List.cons.inj he).1 (ne '\x7b' (by decide))
  next =>
    split
    next he => exact absurd (List.cons.inj he).1 (ne '-' (by decide))
    next => rfl

lemma value_minus (h : c.isDigit = true) :
    value (fuel + 1) depth ('-' :: c :: r) = numberRest true (c :: r) := by
  simp only [value, (word?_eq_none_of_isDigit h).2]
  rfl

lemma value_int (readable : Numeral.IsReadable i) (ends : EndsNumber r) :
    value (fuel + 1) depth ((toString i).toList ++ r) = .ok (.int i, r) := by
  obtain ⟨d, ds, hd, digit⟩ := Numeral.exists_digitsOf i.natAbs
  have read (negative : Bool) :=
    numberRest_digitsOf negative (Numeral.length_digitsOf readable) ends
  rw [hd, List.cons_append] at read
  rw [Numeral.toList_toString, hd]
  split_ifs with neg
  · rw [List.cons_append, List.cons_append, value_minus digit, read, if_pos rfl,
      show -(i.natAbs : Int) = i by omega]
  · rw [List.cons_append, value_of_isDigit digit, read, if_neg Bool.false_ne_true,
      show (i.natAbs : Int) = i by omega]

/-! ### Plain values -/

mutual

/-- A document gives the value back: its numbers are integers that can be read, its texts have no
lone halves, and no object has two members under one key. -/
def IsPlain : Value → Prop
  | .null => True
  | .bool _ => True
  | .int i => Numeral.IsReadable i
  | .real _ => False
  | .text s => ∃ t : String, s = t
  | .list vs => ArePlain vs
  | .object ms => (Keyed.keys ms).Nodup ∧ ArePlainMembers ms

/-- The elements of a list are plain. -/
def ArePlain : List Value → Prop
  | [] => True
  | v :: r => IsPlain v ∧ ArePlain r

/-- The members of an object are plain. -/
def ArePlainMembers : List (RawText × Value) → Prop
  | [] => True
  | (k, v) :: r => (∃ t : String, k = t) ∧ IsPlain v ∧ ArePlainMembers r

end

mutual

/-- How deep the lists and objects of a value stand inside each other. -/
def height : Value → Nat
  | .list vs => heightOfElements vs + 1
  | .object ms => heightOfMembers ms + 1
  | _ => 0

/-- The greatest height of an element. -/
def heightOfElements : List Value → Nat
  | [] => 0
  | v :: r => max (height v) (heightOfElements r)

/-- The greatest height of a member. -/
def heightOfMembers : List (RawText × Value) → Nat
  | [] => 0
  | (_, v) :: r => max (height v) (heightOfMembers r)

end

/-! ### Lists and objects -/

lemma skipBlanks_cons (h : c ∉ [' ', '\t', '\n', '\r']) : skipBlanks (c :: r) = c :: r := by
  have blank : (c == ' ' || c == '\t' || c == '\n' || c == '\r') = false := by
    simpa [and_assoc] using h
  rw [skipBlanks, List.dropWhile_cons, blank]
  rfl

lemma skipBlanks_lineBreak (d : Nat) : skipBlanks (lineBreak d ++ r) = skipBlanks r := by
  have spaces : ∀ n, skipBlanks (List.replicate n ' ' ++ r) = skipBlanks r := by
    intro n
    induction n with
    | zero => rfl
    | succ n ih => exact ih
  exact spaces _

/-- A written value begins with a character that is neither a blank nor the end of a list. -/
lemma exists_written {v : Value} (plain : IsPlain v) (d : Nat) :
    ∃ c w, written d v = c :: w ∧ c ∉ [' ', '\t', '\n', '\r'] ∧ c ≠ ']' := by
  cases v with
  | null => exact ⟨_, _, rfl, by decide, by decide⟩
  | bool b => cases b <;> exact ⟨_, _, rfl, by decide, by decide⟩
  | int i =>
    obtain ⟨x, xs, hx, digit⟩ := Numeral.exists_digitsOf i.natAbs
    have ne : ∀ y : Char, y.isDigit = false → x ≠ y := fun y hy => Numeral.ne_of_isDigit digit hy
    rw [written, Numeral.toList_toString, hx]
    split_ifs with neg
    · exact ⟨_, _, rfl, by decide, by decide⟩
    · refine ⟨_, _, rfl, ?_, ne ']' (by decide)⟩
      simp [ne ' ' (by decide), ne '\t' (by decide), ne '\n' (by decide), ne '\r' (by decide)]
  | real x => exact absurd plain id
  | text s => exact ⟨_, _, rfl, by decide, by decide⟩
  | list vs => cases vs <;> exact ⟨_, _, rfl, by decide, by decide⟩
  | object ms => rcases ms with _ | ⟨⟨k, v⟩, ms⟩ <;> exact ⟨_, _, rfl, by decide, by decide⟩

lemma skipBlanks_written {v : Value} (plain : IsPlain v) (d : Nat) :
    skipBlanks (written d v ++ r) = written d v ++ r := by
  obtain ⟨c, w, hw, blank, -⟩ := exists_written plain d
  rw [hw, List.cons_append, skipBlanks_cons blank]

lemma skipBlanks_escaped (s : RawText) : skipBlanks (escaped s ++ r) = escaped s ++ r :=
  skipBlanks_cons (by decide)

lemma value_list {x w : List Char} (skip : skipBlanks x = c :: w) (filled : c ≠ ']') :
    value (fuel + 1) (depth + 1) ('[' :: x) = elements fuel depth [] (c :: w) := by
  simp only [value, skip]
  split
  next zero => cases zero
  next closed => exact absurd (List.cons.inj closed).1 filled
  next same _ =>
    cases same
    rfl

lemma value_object {x w : List Char} (skip : skipBlanks x = '"' :: w) :
    value (fuel + 1) (depth + 1) ('\x7b' :: x) = members fuel depth [] ('"' :: w) := by
  simp only [value, skip]
  rfl

/-- The value is read from its document, whatever follows it. -/
def Reads (v : Value) : Prop :=
  ∀ fuel depth d r, height v ≤ depth → 2 * (written d v).length < fuel → EndsNumber r →
    value fuel depth (written d v ++ r) = .ok (v, r)

lemma endsNumber_writtenElements {d e : Nat} (vs : List Value) :
    EndsNumber (writtenElements d vs ++ (lineBreak e ++ ']' :: r)) := by
  cases vs <;> exact endsNumber_cons (by decide)

lemma elements_written {d e : Nat} (v : Value) (vs read : List Value)
    (reads : ∀ w ∈ v :: vs, Reads w) (plain : ArePlain (v :: vs))
    (low : heightOfElements (v :: vs) ≤ depth)
    (enough : 2 * ((written d v).length + (writtenElements d vs).length) + 1 < fuel) :
    elements fuel depth read (written d v ++ (writtenElements d vs ++ (lineBreak e ++ ']' :: r))) =
      .ok (.list (read.reverse ++ v :: vs), r) := by
  induction vs generalizing v read fuel with
  | nil =>
    obtain ⟨fuel, rfl⟩ : ∃ n, fuel = n + 1 := ⟨fuel - 1, by omega⟩
    rw [heightOfElements, heightOfElements] at low
    rw [elements, reads v List.mem_cons_self fuel depth d _ (by omega) (by omega)
      (endsNumber_writtenElements [])]
    simp [writtenElements, skipBlanks_lineBreak, skipBlanks_cons]
  | cons w ws ih =>
    obtain ⟨fuel, rfl⟩ : ∃ n, fuel = n + 1 := ⟨fuel - 1, by omega⟩
    rw [heightOfElements] at low
    rw [elements, reads v List.mem_cons_self fuel depth d _ (by omega) (by omega)
      (endsNumber_writtenElements _)]
    simp only [writtenElements, List.length_append, List.length_cons] at enough
    have next :=
      ih w (v :: read) (fun x hx => reads x (List.mem_cons_of_mem _ hx)) plain.2 (by omega)
      (by omega : _ < fuel)
    simp [writtenElements, skipBlanks_cons, skipBlanks_lineBreak,
      skipBlanks_written plain.2.1, next]

lemma endsNumber_writtenMembers {d e : Nat} (ms : List (RawText × Value)) :
    EndsNumber (writtenMembers d ms ++ (lineBreak e ++ '\x7d' :: r)) := by
  rcases ms with _ | ⟨⟨k, v⟩, ms⟩ <;> exact endsNumber_cons (by decide)

/-- A written member is read. Behind it a comma leads to the next member, and a brace ends the
object. -/
lemma members_member {d : Nat} {k : String} {v : Value} {read : List (RawText × Value)}
    {rest : List Char} (reads : Reads v) (plain : IsPlain v) (new : (k : RawText) ∉ Keyed.keys read)
    (low : height v ≤ depth) (enough : 2 * (written d v).length < fuel) (ends : EndsNumber rest) :
    (∀ r, skipBlanks rest = ',' :: r →
      members (fuel + 1) depth read (escaped k ++ (':' :: ' ' :: (written d v ++ rest))) =
        members fuel depth (read ++ [((k : RawText), v)]) (skipBlanks r)) ∧
    ∀ r, skipBlanks rest = '\x7d' :: r →
      members (fuel + 1) depth read (escaped k ++ (':' :: ' ' :: (written d v ++ rest))) =
        .ok (.object (read ++ [((k : RawText), v)]), r) := by
  obtain ⟨body, hbody, text⟩ := textRest_escaped (r := ':' :: ' ' :: (written d v ++ rest)) k
  have blank : skipBlanks (' ' :: (written d v ++ rest)) = written d v ++ rest :=
    skipBlanks_written plain d
  have value := reads fuel depth d rest low enough ends
  rw [hbody, List.cons_append, members]
  constructor <;> intro r next <;>
    simp only [text, skipBlanks_cons (c := ':') (by decide), blank, value, next,
      Keyed.put_of_notMem new]

lemma members_written {d e : Nat} (k : String) (v : Value) (ms read : List (RawText × Value))
    (reads : Reads v ∧ ∀ m ∈ ms, Reads m.2) (plain : IsPlain v ∧ ArePlainMembers ms)
    (distinct : (Keyed.keys (read ++ ((k : RawText), v) :: ms)).Nodup)
    (low : heightOfMembers (((k : RawText), v) :: ms) ≤ depth)
    (enough : 2 * ((written d v).length + (writtenMembers d ms).length) + 1 < fuel) :
    members fuel depth read (escaped k ++ (':' :: ' ' :: (written d v ++
      (writtenMembers d ms ++ (lineBreak e ++ '\x7d' :: r))))) =
      .ok (.object (read ++ ((k : RawText), v) :: ms), r) := by
  induction ms generalizing k v read fuel with
  | nil =>
    obtain ⟨fuel, rfl⟩ : ∃ n, fuel = n + 1 := ⟨fuel - 1, by omega⟩
    have new := Keyed.notMem_of_nodup distinct
    rw [heightOfMembers, heightOfMembers] at low
    have ends := endsNumber_writtenMembers (d := d) (e := e) (r := r) []
    refine (members_member reads.1 plain.1 new (by omega) (by omega) ends).2 r ?_
    simp [writtenMembers, skipBlanks_lineBreak, skipBlanks_cons]
  | cons m ms ih =>
    obtain ⟨raw, v'⟩ := m
    obtain ⟨fuel, rfl⟩ : ∃ n, fuel = n + 1 := ⟨fuel - 1, by omega⟩
    obtain ⟨plain, ⟨k', rfl⟩, plain', plains⟩ := plain
    have new := Keyed.notMem_of_nodup distinct
    rw [heightOfMembers] at low
    have first :=
      members_member (d := d) reads.1 plain new (by omega : _ ≤ depth) (by omega : _ < fuel)
      (endsNumber_writtenMembers (d := d) (e := e) (r := r) ((k', v') :: ms))
    simp only [writtenMembers, List.length_append, List.length_cons] at enough
    have next := ih k' v' (read ++ [((k : RawText), v)])
      ⟨reads.2 _ List.mem_cons_self, fun x hx => reads.2 x (List.mem_cons_of_mem _ hx)⟩
        ⟨plain', plains⟩
      (by rwa [List.append_assoc, List.singleton_append]) (by omega) (by omega : _ < fuel)
    refine (first.1 _ (skipBlanks_cons (by decide))).trans ?_
    simp [skipBlanks_lineBreak, skipBlanks_escaped, next]

/-- Reading takes at least one step. -/
lemma reads_of_succ {v : Value} (h : ∀ fuel depth d r, height v ≤ depth →
    2 * (written d v).length ≤ fuel → EndsNumber r →
    value (fuel + 1) depth (written d v ++ r) = .ok (v, r)) : Reads v := by
  intro fuel depth d r low enough ends
  obtain ⟨fuel, rfl⟩ : ∃ n, fuel = n + 1 := ⟨fuel - 1, by omega⟩
  exact h fuel depth d r low (by omega) ends

lemma reads_text (s : String) : Reads (.text s) := by
  refine reads_of_succ fun fuel depth d r _ _ _ => ?_
  obtain ⟨body, hbody, text⟩ := textRest_escaped (r := r) s
  rw [written, hbody, List.cons_append]
  simp only [value, text]

lemma reads_list {v : Value} {vs : List Value} (plain : ArePlain (v :: vs))
    (reads : ∀ w ∈ v :: vs, Reads w) : Reads (.list (v :: vs)) := by
  refine reads_of_succ fun fuel depth d r low enough _ => ?_
  rw [height] at low
  obtain ⟨depth, rfl⟩ : ∃ n, depth = n + 1 := ⟨depth - 1, by omega⟩
  simp only [written, List.length_append, List.length_cons] at enough
  have inner := elements_written (d := d + 1) (e := d) (r := r) v vs [] reads plain
    (by omega : _ ≤ depth) (by omega : _ < fuel)
  obtain ⟨c, w, hw, -, filled⟩ := exists_written plain.1 (d + 1)
  have skip (rest : List Char) : skipBlanks (lineBreak (d + 1) ++ (written (d + 1) v ++ rest)) =
      c :: (w ++ rest) := by
    rw [skipBlanks_lineBreak, skipBlanks_written plain.1, hw, List.cons_append]
  simp only [written, List.cons_append, List.append_assoc, List.nil_append]
  rw [value_list (skip _) filled, ← List.cons_append, ← hw, inner, List.reverse_nil,
    List.nil_append]

lemma reads_object {k : String} {v : Value} {ms : List (RawText × Value)}
    (plain : IsPlain v ∧ ArePlainMembers ms)
    (distinct : (Keyed.keys (((k : RawText), v) :: ms)).Nodup)
    (reads : Reads v ∧ ∀ m ∈ ms, Reads m.2) : Reads (.object (((k : RawText), v) :: ms)) := by
  refine reads_of_succ fun fuel depth d r low enough _ => ?_
  rw [height] at low
  obtain ⟨depth, rfl⟩ : ∃ n, depth = n + 1 := ⟨depth - 1, by omega⟩
  simp only [written, List.length_append, List.length_cons] at enough
  have inner := members_written (d := d + 1) (e := d) (r := r) k v ms [] reads plain distinct
    (by omega : _ ≤ depth) (by omega : _ < fuel)
  obtain ⟨body, hbody, -⟩ := textRest_escaped (r := []) k
  have skip (rest : List Char) : skipBlanks (lineBreak (d + 1) ++ (escaped k ++ rest)) =
      '"' :: (body ++ rest) := by
    rw [skipBlanks_lineBreak, skipBlanks_escaped, hbody, List.cons_append]
  simp only [written, List.cons_append, List.append_assoc, List.nil_append]
  rw [value_object (skip _), ← List.cons_append, ← hbody, inner, List.nil_append]

mutual

/-- A plain value is read from its document: one case for each kind of value. -/
theorem reads_of_isPlain : ∀ v : Value, IsPlain v → Reads v
  | .null, _ => reads_of_succ fun _ _ _ _ _ _ _ => rfl
  | .bool b, _ => reads_of_succ fun _ _ _ _ _ _ _ => by cases b <;> rfl
  | .int _, plain => reads_of_succ fun _ _ _ _ _ _ ends => value_int plain ends
  | .real _, plain => absurd plain id
  | .text _, plain => by
    obtain ⟨s, rfl⟩ := plain
    exact reads_text s
  | .list [], _ => reads_of_succ fun _ depth _ _ low _ _ => by
    cases depth with
    | zero => cases low
    | succ depth => rfl
  | .list (v :: vs), plain => reads_list plain (reads_of_arePlain (v :: vs) plain)
  | .object [], _ => reads_of_succ fun _ depth _ _ low _ _ => by
    cases depth with
    | zero => cases low
    | succ depth => rfl
  | .object ((_, v) :: ms), plain => by
    obtain ⟨distinct, ⟨k, rfl⟩, first, others⟩ := plain
    exact reads_object ⟨first, others⟩ distinct
      ⟨reads_of_isPlain v first, reads_of_arePlainMembers ms others⟩

/-- The elements of a plain list are read. -/
theorem reads_of_arePlain : ∀ vs : List Value, ArePlain vs → ∀ v ∈ vs, Reads v
  | [], _ => fun _ h => nomatch h
  | v :: vs, plain => List.forall_mem_cons.2
    ⟨reads_of_isPlain v plain.1, reads_of_arePlain vs plain.2⟩

/-- The members of a plain object are read. -/
theorem reads_of_arePlainMembers :
    ∀ ms : List (RawText × Value), ArePlainMembers ms → ∀ m ∈ ms, Reads m.2
  | [], _ => fun _ h => nomatch h
  | (_, v) :: ms, plain => List.forall_mem_cons.2
    ⟨reads_of_isPlain v plain.2.1, reads_of_arePlainMembers ms plain.2.2⟩

end

/-! ### Line ends -/

lemma cr_notMem_escapeChar : '\r' ∉ escapeChar c := by
  have digits : ∀ n, '\r' ∉ unitEscape n := by
    intro n
    have digit : ∀ m : Fin 16, '\r' ≠ Text.hexDigit m := by decide
    have each (k : Nat) : '\r' ≠ Text.hexDigit (k % 16) := digit ⟨k % 16, Nat.mod_lt _ (by decide)⟩
    simp [unitEscape, Text.hexDigits, each]
  fun_cases escapeChar c with
  | case8 _ _ _ _ _ _ _ _ n visible =>
    rintro (_ | ⟨_, ⟨⟩⟩)
    exact absurd visible.1 (by decide)
  | case9 => exact digits _
  | case10 =>
    rw [List.mem_append]
    exact not_or_intro (digits _) (digits _)
  | _ => decide

lemma cr_notMem_lineBreak (d : Nat) : '\r' ∉ lineBreak d := by
  simp [lineBreak]

lemma cr_notMem_escaped (s : String) : '\r' ∉ escaped s := by
  simp [escaped, RawText.ofString, escapePoint, cr_notMem_escapeChar]

lemma cr_notMem_toString (i : Int) : '\r' ∉ (toString i).toList := by
  have digits : '\r' ∉ Numeral.digitsOf i.natAbs := fun h =>
    Numeral.ne_of_isDigit (Numeral.isDigit_of_mem h) (by decide) rfl
  rw [Numeral.toList_toString]
  split_ifs <;> simp [digits]

mutual

/-- A written value has no carriage return, so that reading it as a text file leaves it as it is. -/
theorem cr_notMem_written : ∀ (v : Value) (d : Nat), IsPlain v → '\r' ∉ written d v
  | .null, _, _ => by simp [written]
  | .bool b, _, _ => by cases b <;> simp [written]
  | .int i, _, _ => cr_notMem_toString i
  | .real _, _, plain => absurd plain id
  | .text _, _, plain => by
    obtain ⟨s, rfl⟩ := plain
    exact cr_notMem_escaped s
  | .list [], _, _ => by simp [written]
  | .list (v :: vs), d, plain => by
    have first := cr_notMem_written v (d + 1) plain.1
    have others := cr_notMem_writtenElements vs (d + 1) plain.2
    simp [written, first, others, cr_notMem_lineBreak]
  | .object [], _, _ => by simp [written]
  | .object ((_, v) :: ms), d, plain => by
    obtain ⟨-, ⟨k, rfl⟩, plain, plains⟩ := plain
    have first := cr_notMem_written v (d + 1) plain
    have others := cr_notMem_writtenMembers ms (d + 1) plains
    simp [written, first, others, cr_notMem_lineBreak, cr_notMem_escaped]

/-- Nor have the further elements of a list. -/
theorem cr_notMem_writtenElements :
    ∀ (vs : List Value) (d : Nat), ArePlain vs → '\r' ∉ writtenElements d vs
  | [], _, _ => List.not_mem_nil
  | v :: vs, d, plain => by
    have first := cr_notMem_written v d plain.1
    have others := cr_notMem_writtenElements vs d plain.2
    simp [writtenElements, first, others, cr_notMem_lineBreak]

/-- Nor have the further members of an object. -/
theorem cr_notMem_writtenMembers :
    ∀ (ms : List (RawText × Value)) (d : Nat), ArePlainMembers ms → '\r' ∉ writtenMembers d ms
  | [], _, _ => List.not_mem_nil
  | (_, v) :: ms, d, plain => by
    obtain ⟨⟨k, rfl⟩, plain, plains⟩ := plain
    have first := cr_notMem_written v d plain
    have others := cr_notMem_writtenMembers ms d plains
    simp [writtenMembers, first, others, cr_notMem_lineBreak, cr_notMem_escaped]

end

/-! ### Documents -/

/-- A plain value, not too deep, is read from its document. -/
theorem ofText_written {v : Value} (plain : IsPlain v) (low : height v ≤ maxDepth) :
    Value.ofText (String.ofList (written 0 v)) = .ok v := by
  have begin : skipBlanks (written 0 v) = written 0 v := by
    simpa using skipBlanks_written (r := []) plain 0
  have read := reads_of_isPlain v plain (2 * (written 0 v).length + 1) maxDepth 0 [] low (by omega)
    endsNumber_nil
  rw [List.append_nil] at read
  rw [Value.ofText]
  simp only [String.toList_ofList, begin, read]
  rfl

end StakeRegistry.Json
