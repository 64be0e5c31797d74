/-
The lines of key files.

A key file is read line by line (`readPubkeys`), without the lines that are blank (`keyLines`):

* `readPubkeys_eq_ok_iff`, `readPubkeys_eq_error_iff`: a text is read exactly if each line that is
  not blank is a key, and the first one that is none is told;
* `textFile_keyFileText`, `readPubkeys_keyFileText`: the text that is written for keys is read from
  a file as it is, and as these keys.
-/
import StakeRegistry.Command.Query
import StakeRegistry.Proofs.Hex
import StakeRegistry.Proofs.Program.Failing
import StakeRegistry.Proofs.Registry.KeyFiles

namespace StakeRegistry.Command

/-- The lines of a key file that are not blank. -/
def Stake.keyLines (text : String) : List String :=
  (Text.splitLines text).filter fun line => !(Text.trim line).isEmpty

open Program Registry Stake

variable {keys : List Bytes} {text : String}

/-! ### Texts of keys -/

lemma readPubkeys_eq : readPubkeys text = (keyLines text).mapM readPubkey :=
  rfl

lemma readPubkeys_eq_ok_iff : readPubkeys text = .ok keys ↔
    List.Forall₂ IsKeyLine (keyLines text) keys := by
  simp only [readPubkeys_eq, mapM_eq_ok_iff, readPubkey_eq_ok_iff]

lemma exists_readPubkeys_eq_ok_iff :
    (∃ keys, readPubkeys text = .ok keys) ↔ ∀ line ∈ keyLines text, ∃ key, IsKeyLine line key := by
  simp only [readPubkeys_eq, exists_mapM_eq_ok_iff, readPubkey_eq_ok_iff]

lemma readPubkeys_eq_error_iff {e : PubkeyError} : readPubkeys text = .error e ↔
    ∃ before line after,
    keyLines text = before ++ line :: after ∧ (∀ l ∈ before, ∃ key, IsKeyLine l key) ∧
    Refused line e := by
  simp only [readPubkeys_eq, mapM_eq_error_iff, readPubkey_eq_ok_iff, readPubkey_eq_error_iff]

namespace Query

/-- The line of a key in a key file. -/
def lineOf (key : Bytes) : String :=
  "0x" ++ key.toHex

/-- No character of the line of a key is a blank or ends a line. -/
lemma plain_lineOf {key : Bytes} : ∀ c ∈ (lineOf key).toList, Text.isBlank c = false ∧
    Text.isLineBoundary c = false := by
  -- the letters one by one, not all characters
  have letters :
    ("0123456789abcdefx".toList.all fun c => !Text.isBlank c && !Text.isLineBoundary c) = true := by
    decide
  simp only [List.all_eq_true, Bool.and_eq_true, Bool.not_eq_true'] at letters
  rw [lineOf, String.toList_append]
  refine List.forall_mem_append.2 ⟨fun c mem => letters c ?_, fun c mem => letters c ?_⟩
  · have inside : "0x".toList ⊆ "0123456789abcdefx".toList := by simp
    exact inside mem
  · exact List.mem_append_left ['x'] (mem_toHex c mem)

lemma trim_lineOf {key : Bytes} : (Text.trim (lineOf key)).isEmpty = false := by
  have self : Text.trim (lineOf key) = lineOf key := by
    rw [Text.trim, Text.trimWith_eq_self, String.ofList_toList]
    · exact fun c first => (plain_lineOf c (List.mem_of_head? first)).1
    · exact fun c last => (plain_lineOf c (List.mem_of_getLast? last)).1
  rw [self, lineOf]
  simp

/-- The line of a key is read as the key. -/
lemma isKeyLine_lineOf {key : Bytes} (length : key.length = pubkeyLength) :
    IsKeyLine (lineOf key) key := by
  refine isKeyLine_iff.2 ⟨length, [], ['0', 'x'], key.toHex.toList, [], ?_,
    List.forall_mem_nil _, .inr rfl, spells_toHex key, List.forall_mem_nil _⟩
  rw [lineOf, String.toList_append, List.nil_append, List.append_nil]
  rfl

lemma keyFileText_eq :
    keyFileText (keys.map Bytes.toHex) = String.join ((keys.map lineOf).map (· ++ "\n")) := by
  rw [keyFileText, List.map_map, List.map_map]
  rfl

/-- The lines of the text that is written for keys are the lines of the keys. -/
lemma keyLines_keyFileText : keyLines (keyFileText (keys.map Bytes.toHex)) = keys.map lineOf := by
  have plain : ∀ l ∈ keys.map lineOf, ∀ c ∈ l.toList, Text.isLineBoundary c = false :=
    List.forall_mem_map.2 fun key _ c mem => (plain_lineOf c mem).2
  rw [keyLines, keyFileText_eq, Text.splitLines_unlines plain, List.filter_eq_self]
  exact List.forall_mem_map.2 fun key _ => by rw [trim_lineOf]; rfl

/-- The text that is written for keys is read from the file as it is. -/
lemma textFile_keyFileText : textFile (keyFileText (keys.map Bytes.toHex)).toUTF8 =
    .ok (keyFileText (keys.map Bytes.toHex)) := by
  refine Text.textFile_toUTF8 fun mem => ?_
  rw [keyFileText_eq, String.toList_join, List.mem_flatMap] at mem
  obtain ⟨_, line, mem⟩ := mem
  obtain ⟨_, bare, rfl⟩ := List.mem_map.1 line
  obtain ⟨key, -, rfl⟩ := List.mem_map.1 bare
  rw [String.toList_append] at mem
  rcases List.mem_append.1 mem with inside | feed
  · exact absurd (plain_lineOf _ inside).2 (by decide)
  · exact absurd feed (by decide)

/-- The text that is written for keys is read as these keys. -/
lemma readPubkeys_keyFileText (length : ∀ key ∈ keys, key.length = pubkeyLength) :
    readPubkeys (keyFileText (keys.map Bytes.toHex)) = .ok keys := by
  rw [readPubkeys_eq_ok_iff, keyLines_keyFileText, List.forall₂_map_left_iff, List.forall₂_same]
  exact fun key mem => isKeyLine_lineOf (length key mem)

end Query
end StakeRegistry.Command
