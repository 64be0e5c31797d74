/-
The language of key files.

`Spells cs key` says that the characters are the bytes of a key in hexadecimal, with blanks at most
before a byte.

* `readPubkey_eq_ok_iff`: a line is read exactly if its normal form spells a key (`IsKeyLine`);
  otherwise it spells nothing, or too few or too many bytes (`readPubkey_eq_error_iff`);
* `isKeyLine_iff`: in full, such a line is a key behind blanks and at most one `0x`;
* `IsKeyLine.of_caseless`: letter case does not matter in it.

The core is that a line is ASCII between its blanks if its normal form spells anything
(`ascii_of_normalizePubkey`), so that small letters are taken character by character.
-/
import Mathlib.Data.List.Basic
import StakeRegistry.Proofs.Text
import StakeRegistry.Registry.Pubkey

namespace StakeRegistry

variable {cs : List Char} {c d : Char} {b : UInt8} {key : Bytes}

/-! ### Bytes in hexadecimal -/

/-- The characters are the bytes in hexadecimal, two digits of any letter case each, with ASCII
blanks at most before a byte. -/
inductive Spells : List Char → Bytes → Prop where
  | none : Spells [] []
  | blank {c : Char} {cs : List Char} {b : UInt8} {bs : Bytes} (blank : Text.isAsciiBlank c = true)
      (rest : Spells cs (b :: bs)) : Spells (c :: cs) (b :: bs)
  | byte {c d : Char} {cs : List Char} {b : UInt8} {bs : Bytes} (pair : hexPair? c d = some b)
      (rest : Spells cs bs) : Spells (c :: d :: cs) (b :: bs)

lemma digits_of_hexPair? (pair : hexPair? c d = some b) :
    (∃ n, Text.hexValue? c = some n) ∧ ∃ n, Text.hexValue? d = some n := by
  simp only [hexPair?, Option.bind_eq_bind, Option.bind_eq_some_iff] at pair
  obtain ⟨high, hc, low, hd, -⟩ := pair
  exact ⟨⟨high, hc⟩, low, hd⟩

/-- A digit is no blank that may stand before a byte. -/
lemma isAsciiBlank_of_hexValue? {n : Nat} (digit : Text.hexValue? c = some n) :
    Text.isAsciiBlank c = false := by
  rw [Bool.eq_false_iff]
  intro blank
  cases (Text.isBlank_of_isAsciiBlank blank).symm.trans (Text.isBlank_of_hexValue? digit)

namespace Spells

/-- What is spelled is read. -/
lemma hexBytes?_eq (h : Spells cs key) : hexBytes? cs = some key := by
  induction h with
  | none => rfl
  | @blank c cs b bs blank rest ih =>
    cases cs with
    | nil => cases rest
    | cons d r => rwa [hexBytes?, if_pos blank]
  | byte pair rest ih =>
    obtain ⟨n, digit⟩ := (digits_of_hexPair? pair).1
    rw [hexBytes?, isAsciiBlank_of_hexValue? digit, if_neg Bool.false_ne_true, pair, ih]
    rfl

lemma isAsciiBlank_or_digit (h : Spells cs key) :
    ∀ c ∈ cs, Text.isAsciiBlank c = true ∨ ∃ n, Text.hexValue? c = some n := by
  induction h with
  | none => exact List.forall_mem_nil _
  | blank blank rest ih => exact List.forall_mem_cons.2 ⟨.inl blank, ih⟩
  | byte pair rest ih =>
    obtain ⟨high, low⟩ := digits_of_hexPair? pair
    exact List.forall_mem_cons.2 ⟨.inr high, List.forall_mem_cons.2 ⟨.inr low, ih⟩⟩

/-- No blanks stand behind the last byte. -/
lemma digit_of_getLast? (h : Spells cs key) :
    ∀ c ∈ cs.getLast?, ∃ n, Text.hexValue? c = some n := by
  induction h with
  | none => simp
  | @blank c cs b bs blank rest ih =>
    cases cs with
    | nil => cases rest
    | cons d r => rwa [List.getLast?_cons_cons]
  | @byte c d cs b bs pair rest ih =>
    cases cs with
    | nil => simpa using (digits_of_hexPair? pair).2
    | cons e r => rwa [List.getLast?_cons_cons, List.getLast?_cons_cons]

/-- Behind its blanks, a key begins with a byte. -/
lemma exists_byte (h : Spells cs key) (nonempty : key ≠ []) :
    ∃ blanks c d r b bs, cs = blanks ++ c :: d :: r ∧
    key = b :: bs ∧ (∀ c ∈ blanks, Text.isAsciiBlank c = true) ∧ hexPair? c d = some b ∧
    Spells r bs := by
  induction h with
  | none => exact absurd rfl nonempty
  | @blank c cs b bs blank rest ih =>
    obtain ⟨blanks, c', d, r, b', bs', rfl, same, all, pair, rest⟩ := ih (List.cons_ne_nil _ _)
    exact ⟨c :: blanks, c', d, r, b', bs', rfl, same,
      List.forall_mem_cons.2 ⟨blank, all⟩, pair, rest⟩
  | byte pair rest ih => exact ⟨[], _, _, _, _, _, rfl, rfl, List.forall_mem_nil _, pair, rest⟩

/-- Letter case does not matter. -/
lemma map_toLower_iff : Spells (cs.map Char.toLower) key ↔ Spells cs key := by
  have pairs (c d : Char) : hexPair? c.toLower d.toLower = hexPair? c d := by
    rw [hexPair?, (Text.hexValue?_toLower c).1, (Text.hexValue?_toLower d).1, hexPair?]
  constructor
  · intro h
    generalize small : cs.map Char.toLower = ds at h
    induction h generalizing cs with
    | none =>
      obtain rfl := List.map_eq_nil_iff.1 small
      exact .none
    | blank blank rest ih =>
      obtain ⟨c, cs, rfl, rfl, rfl⟩ := List.map_eq_cons_iff.1 small
      exact .blank ((Text.hexValue?_toLower c).2 ▸ blank) (ih rfl)
    | byte pair rest ih =>
      obtain ⟨c, _, rfl, rfl, tail⟩ := List.map_eq_cons_iff.1 small
      obtain ⟨d, cs, rfl, rfl, rfl⟩ := List.map_eq_cons_iff.1 tail
      exact .byte (pairs c d ▸ pair) (ih rfl)
  · intro h
    induction h with
    | none => exact .none
    | @blank c cs b bs blank rest ih => exact .blank ((Text.hexValue?_toLower c).2.trans blank) ih
    | @byte c d cs b bs pair rest ih => exact .byte ((pairs c d).trans pair) ih

end Spells

/-- The characters that are read are digits and blanks. -/
lemma isAsciiBlank_or_digit_of_hexBytes? (read : hexBytes? cs = some key) :
    ∀ c ∈ cs, Text.isAsciiBlank c = true ∨ ∃ n, Text.hexValue? c = some n := by
  fun_induction hexBytes? cs generalizing key with
  | case1 => exact List.forall_mem_nil _
  | case2 c blank => exact List.forall_mem_singleton.2 (.inl blank)
  | case3 c blank => cases read
  | case4 c d r blank ih => exact List.forall_mem_cons.2 ⟨.inl blank, ih read⟩
  | case5 c d r blank b pair ih =>
    obtain ⟨high, low⟩ := digits_of_hexPair? pair
    obtain ⟨bs, rest, rfl⟩ := Option.map_eq_some_iff.1 read
    exact List.forall_mem_cons.2 ⟨.inr high, List.forall_mem_cons.2 ⟨.inr low, ih rest⟩⟩
  | case6 c d r blank pair => cases read

/-- Without blanks behind the last byte, what is read is spelled. -/
lemma spells_of_hexBytes? (read : hexBytes? cs = some key)
    (last : ∀ c ∈ cs.getLast?, Text.isAsciiBlank c = false) :
    Spells cs key := by
  fun_induction hexBytes? cs generalizing key with
  | case1 =>
    obtain rfl := Option.some.inj read
    exact .none
  | case2 c blank => simp [blank] at last
  | case3 c blank => cases read
  | case4 c d r blank ih =>
    rw [List.getLast?_cons_cons] at last
    have rest := ih read last
    cases key with
    | nil => cases rest
    | cons b bs => exact .blank blank rest
  | case5 c d r blank b pair ih =>
    obtain ⟨bs, rest, rfl⟩ := Option.map_eq_some_iff.1 read
    refine .byte pair (ih rest ?_)
    cases r with
    | nil => simp
    | cons e r => rwa [List.getLast?_cons_cons, List.getLast?_cons_cons] at last
  | case6 c d r blank pair => cases read

/-- Bytes that are written are spelled. -/
lemma spells_toHex (bs : Bytes) : Spells bs.toHex.toList bs := by
  rw [Bytes.toHex, String.toList_ofList]
  induction bs with
  | nil => exact .none
  | cons b bs ih => exact .byte (hexPair?_byteDigits b) ih

namespace Registry

/-! ### The normal form of a line -/

variable {line : String}

/-- The characters of a line between the blanks around it. -/
def core (line : String) : List Char :=
  Text.trimWith Text.isBlank line.toList

/-- Nothing, or `0x` in either letter case. -/
def IsPrefix (pre : List Char) : Prop :=
  pre = [] ∨ pre.map Char.toLower = ['0', 'x']

/-- The normal form of a line are the small letters of its core behind at most one `0x`. -/
lemma toList_normalizePubkey : (normalizePubkey line).toList =
    if ['0', 'x'].isPrefixOf
      (Text.lowerFrom [] (core line)) then (Text.lowerFrom [] (core line)).drop 2
    else Text.lowerFrom [] (core line) := by
  have low : (Text.lower (Text.trim line)).toList = Text.lowerFrom [] (core line) := by
    rw [Text.lower, Text.trim, String.toList_ofList, String.toList_ofList, core]
  rw [normalizePubkey, Text.dropLeading, Text.hasLeading, low]
  change (if ['0', 'x'].isPrefixOf (Text.lowerFrom [] (core line)) then _ else _ : String).toList =
    _
  split_ifs with prefixed
  · exact String.toList_ofList
  · exact low

/-- The small letters of a digit or of a blank of a key are those of no other character. -/
lemma own_of_isAsciiBlank_or_digit
    (read : Text.isAsciiBlank c = true ∨ ∃ n, Text.hexValue? c = some n) :
    c.toNat < 128 ∧ c ≠ 'i' ∧ c ≠ 'k' ∧ c ≠ '\x00' := by
  refine ⟨read.elim Text.ascii_of_isAsciiBlank fun ⟨n, digit⟩ => Text.ascii_of_hexValue? digit, ?_⟩
  refine ⟨?_, ?_, ?_⟩
  all_goals
    rintro rfl
    rcases read with blank | ⟨n, digit⟩
    · exact absurd blank (by decide)
    · cases digit

/-- The line is ASCII between its blanks if its normal form holds digits and blanks only. -/
lemma ascii_of_normalizePubkey
    (read : ∀ c ∈ (normalizePubkey line).toList, Text.isAsciiBlank c = true ∨
      ∃ n, Text.hexValue? c = some n) :
    ∀ c ∈ core line, c.toNat < 128 := by
  refine Text.ascii_of_lowerFrom [] fun c mem => ?_
  rw [toList_normalizePubkey] at read
  split_ifs at read with prefixed
  · obtain ⟨r, low⟩ := List.isPrefixOf_iff_prefix.1 prefixed
    rw [← low] at mem read
    rcases List.mem_append.1 mem with own | own
    · have prefixLetters : ∀ c ∈ ['0', 'x'], c.toNat < 128 ∧ c ≠ 'i' ∧ c ≠ 'k' ∧ c ≠ '\x00' := by
        simp
      exact prefixLetters c own
    · exact own_of_isAsciiBlank_or_digit (read c own)
  · exact own_of_isAsciiBlank_or_digit (read c mem)

/-- The normal form of a line are the small letters behind its prefix. -/
lemma exists_body_of_ascii (ascii : ∀ c ∈ core line, c.toNat < 128) :
    ∃ pre body, core line = pre ++ body ∧
    IsPrefix pre ∧ (normalizePubkey line).toList = body.map Char.toLower := by
  rw [toList_normalizePubkey, Text.lowerFrom_of_ascii _ ascii]
  split_ifs with prefixed
  · obtain ⟨r, low⟩ := List.isPrefixOf_iff_prefix.1 prefixed
    obtain ⟨pre, body, whole, small, rfl⟩ := List.map_eq_append_iff.1 low.symm
    refine ⟨pre, body, whole, .inr small, ?_⟩
    rw [← low]
    rfl
  · exact ⟨[], core line, rfl, .inl rfl, rfl⟩

/-! ### The lines that are keys -/

/-- A line is read if its normal form spells a key: there are no blanks behind it. -/
lemma hexBytes?_normalizePubkey_iff :
    hexBytes? (normalizePubkey line).toList = some key ↔
    Spells (normalizePubkey line).toList key := by
  refine ⟨fun read => spells_of_hexBytes? read fun c last => ?_, Spells.hexBytes?_eq⟩
  obtain ⟨pre, body, whole, -, normal⟩ :=
    exists_body_of_ascii (ascii_of_normalizePubkey (isAsciiBlank_or_digit_of_hexBytes? read))
  rw [normal, List.getLast?_map] at last
  obtain ⟨d, lastBody, rfl⟩ := Option.map_eq_some_iff.1 last
  have lastCore : d ∈ (core line).getLast? := by
    rw [whole, List.getLast?_append, lastBody]
    rfl
  have solid : Text.isBlank d = false := Text.trimWith_getLast? d lastCore
  rw [(Text.hexValue?_toLower d).2, Bool.eq_false_iff]
  intro blank
  cases (Text.isBlank_of_isAsciiBlank blank).symm.trans solid

/-- The line is a key: its normal form spells the bytes of one. -/
structure IsKeyLine (line : String) (key : Bytes) : Prop where
  spelled : Spells (normalizePubkey line).toList key
  length : key.length = pubkeyLength

/-- Why a line is no key: it spells nothing, or too few or too many bytes. -/
inductive Refused (line : String) : PubkeyError → Prop where
  | notHex (unspelled : ∀ key, ¬ Spells (normalizePubkey line).toList key) :
    Refused line (.notHex line)
  | wrongLength {bytes : Bytes} (spelled : Spells (normalizePubkey line).toList bytes)
      (length : bytes.length ≠ pubkeyLength) : Refused line (.wrongLength bytes.length line)

lemma readPubkey_eq_ok_iff : readPubkey line = .ok key ↔ IsKeyLine line key := by
  unfold readPubkey
  constructor
  · intro h
    split at h
    next bytes read =>
      split_ifs at h with length
      obtain rfl := Except.ok.inj h
      exact ⟨hexBytes?_normalizePubkey_iff.1 read, length⟩
    next => cases h
  · rintro ⟨spelled, length⟩
    simp only [hexBytes?_normalizePubkey_iff.2 spelled, if_pos length]

lemma readPubkey_eq_error_iff {e : PubkeyError} : readPubkey line = .error e ↔ Refused line e := by
  unfold readPubkey
  constructor
  · intro h
    split at h
    next bytes read =>
      split_ifs at h with length
      obtain rfl := Except.error.inj h
      exact .wrongLength (hexBytes?_normalizePubkey_iff.1 read) length
    next unread =>
      obtain rfl := Except.error.inj h
      refine .notHex fun key spelled => ?_
      cases unread.symm.trans (hexBytes?_normalizePubkey_iff.2 spelled)
  · intro h
    cases h with
    | notHex unspelled =>
      cases read : hexBytes? (normalizePubkey line).toList with
      | none => rfl
      | some key => exact absurd (hexBytes?_normalizePubkey_iff.1 read) (unspelled key)
    | wrongLength spelled length =>
      simp only [hexBytes?_normalizePubkey_iff.2 spelled, if_neg length]

/-! ### Prefix, letter case and blanks -/

lemma IsPrefix.ascii {pre : List Char} (isPrefix : IsPrefix pre) : ∀ c ∈ pre, c.toNat < 128 := by
  intro c mem
  rcases isPrefix with rfl | small
  · cases mem
  · have plain : ∀ d ∈ ['0', 'x'], d.toNat < 128 := by simp
    exact Text.ascii_toLower_iff.1 (plain _ (small ▸ List.mem_map_of_mem mem))

/-- The body of a line is what its normal form spells, unless it could be taken for a prefix. -/
lemma spells_normalizePubkey {pre body : List Char} (whole : core line = pre ++ body)
    (isPrefix : IsPrefix pre) (begins : pre = [] → ¬ ['0', 'x'] <+: body.map Char.toLower)
    (spelled : Spells body key) :
    Spells (normalizePubkey line).toList key := by
  have ascii : ∀ c ∈ core line, c.toNat < 128 := by
    rw [whole]
    refine List.forall_mem_append.2 ⟨isPrefix.ascii, fun c mem => ?_⟩
    exact (own_of_isAsciiBlank_or_digit (spelled.isAsciiBlank_or_digit c mem)).1
  rw [toList_normalizePubkey, Text.lowerFrom_of_ascii _ ascii, whole, List.map_append]
  rcases isPrefix with rfl | small
  · rw [List.map_nil, List.nil_append, if_neg fun h => begins rfl (List.isPrefixOf_iff_prefix.1 h)]
    exact Spells.map_toLower_iff.2 spelled
  · rw [small, if_pos (List.isPrefixOf_iff_prefix.2 (List.prefix_append _ _))]
    exact Spells.map_toLower_iff.2 spelled

/-- The bytes of a key are not taken for a prefix. -/
lemma not_prefix_of_hexPair? (pair : hexPair? c d = some b) :
    ¬ ['0', 'x'] <+: (c :: d :: cs).map Char.toLower := by
  rintro ⟨r, low⟩
  have small : d.toLower = 'x' := (List.cons.inj (List.cons.inj low).2).1.symm
  obtain ⟨n, digit⟩ := (digits_of_hexPair? pair).2
  rw [← (Text.hexValue?_toLower d).1, small] at digit
  cases digit

/-- In full, a line is a key that stands behind blanks and at most one prefix, with nothing but
blanks after it. -/
theorem isKeyLine_iff : IsKeyLine line key ↔ key.length = pubkeyLength ∧ ∃ front pre body back,
    line.toList = front ++ (pre ++ body) ++ back ∧ (∀ c ∈ front, Text.isBlank c = true) ∧
      IsPrefix pre ∧ Spells body key ∧ ∀ c ∈ back, Text.isBlank c = true := by
  constructor
  · rintro ⟨spelled, length⟩
    obtain ⟨pre, body, whole, isPrefix, normal⟩ :=
      exists_body_of_ascii (ascii_of_normalizePubkey spelled.isAsciiBlank_or_digit)
    obtain ⟨front, back, parts, blank, blank'⟩ := Text.exists_trimWith Text.isBlank line.toList
    rw [← core, whole] at parts
    rw [normal, Spells.map_toLower_iff] at spelled
    exact ⟨length, front, pre, body, back, parts, blank, isPrefix, spelled, blank'⟩
  · rintro ⟨length, front, pre, body, back, parts, blank, isPrefix, spelled, blank'⟩
    refine ⟨?_, length⟩
    obtain ⟨blanks, c, d, r, b, bs, rfl, rfl, ascii, pair, rest⟩ :=
      spelled.exists_byte (List.ne_nil_of_length_pos (by rw [length]; decide))
    obtain ⟨n, digit⟩ := (digits_of_hexPair? pair).1
    have first : Text.isBlank c = false := Text.isBlank_of_hexValue? digit
    have last : ∀ e ∈ (c :: d :: r).getLast?, Text.isBlank e = false := fun e last => by
      obtain ⟨n, digit⟩ := (Spells.byte pair rest).digit_of_getLast? e last
      exact Text.isBlank_of_hexValue? digit
    by_cases none : pre = []
    · -- the blanks before the first byte are trimmed as well
      subst none
      have whole : core line = [] ++ c :: d :: r := by
        rw [core, parts, List.nil_append, ← List.append_assoc front]
        refine Text.trimWith_append ?_ blank' (by simpa using first) last
        exact List.forall_mem_append.2
          ⟨blank, fun c mem => Text.isBlank_of_isAsciiBlank (ascii c mem)⟩
      exact spells_normalizePubkey whole isPrefix (fun _ => not_prefix_of_hexPair? pair)
        (.byte pair rest)
    · obtain ⟨z, x, rfl, zero, ex⟩ : ∃ z x, pre = [z, x] ∧ z.toLower = '0' ∧ x.toLower = 'x' := by
        obtain ⟨z, _, rfl, zero, tail⟩ := List.map_eq_cons_iff.1 (isPrefix.resolve_left none)
        obtain ⟨x, _, rfl, ex, ended⟩ := List.map_eq_cons_iff.1 tail
        obtain rfl := List.map_eq_nil_iff.1 ended
        exact ⟨z, x, rfl, zero, ex⟩
      refine spells_normalizePubkey ?_ isPrefix (fun same => absurd same none) spelled
      rw [core, parts]
      refine Text.trimWith_append blank blank' ?_ ?_
      · have solid : Text.isBlank z = false := by
          rw [← Text.isBlank_toLower, zero]
          decide
        simpa using solid
      · rwa [← List.append_assoc, List.getLast?_append_of_ne_nil _ (List.cons_ne_nil _ _)]

/-- Letter case does not matter in a line. -/
theorem IsKeyLine.of_caseless {line' : String} (h : IsKeyLine line key)
    (same : line'.toList.map Char.toLower = line.toList.map Char.toLower) :
    IsKeyLine line' key := by
  obtain ⟨length, front, pre, body, back, parts, blank, isPrefix, spelled, blank'⟩ :=
    isKeyLine_iff.1 h
  rw [parts, List.map_append, List.map_append, List.map_append] at same
  obtain ⟨begun, back₂, parts', same, sameBack⟩ := List.map_eq_append_iff.1 same
  obtain ⟨front₂, inner, rfl, sameFront, same⟩ := List.map_eq_append_iff.1 same
  obtain ⟨pre₂, body₂, rfl, samePre, sameBody⟩ := List.map_eq_append_iff.1 same
  -- blanks are blanks in either case
  have transfer {cs cs' : List Char} (same : cs'.map Char.toLower = cs.map Char.toLower)
      (blank : ∀ c ∈ cs, Text.isBlank c = true) : ∀ c ∈ cs', Text.isBlank c = true := by
    intro c mem
    obtain ⟨d, own, small⟩ := List.mem_map.1 (same ▸ List.mem_map_of_mem (f := Char.toLower) mem)
    rw [← Text.isBlank_toLower, ← small, Text.isBlank_toLower]
    exact blank d own
  refine isKeyLine_iff.2 ⟨length, front₂, pre₂, body₂, back₂, parts',
    transfer sameFront blank, ?_, ?_, transfer sameBack blank'⟩
  · rcases isPrefix with rfl | small
    · exact .inl (List.map_eq_nil_iff.1 samePre)
    · exact .inr (samePre.trans small)
  · rwa [← Spells.map_toLower_iff, sameBody, Spells.map_toLower_iff]

end Registry
end StakeRegistry
