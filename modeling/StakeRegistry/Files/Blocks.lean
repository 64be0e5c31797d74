/-
Texts that are read block by block.

The bytes of a long file are decoded in blocks, so that its first lines are seen before a later
block turns out to be no text. A character may go over the end of a block. A line is seen once its
end is; a carriage return at the end of a block may still be half of a line end.
-/
import StakeRegistry.Files.Text

namespace StakeRegistry

/-- What can be seen of a text, and why the rest of it cannot. -/
structure SeenText where
  text : String
  stopped : Option ReadError := none
  deriving Repr, DecidableEq

namespace SeenText

/-- The bytes of a block. -/
def blockSize : Nat := 8192

/-- Does a byte go on with a character? -/
def goesOn (b : UInt8) : Bool :=
  0x80 ≤ b && b < 0xc0

/-- Can the byte come second in a character that begins with the other one? -/
def canFollow (first second : UInt8) : Bool :=
  goesOn second &&
    !(first == 0xe0 && second < 0xa0) && !(first == 0xed && 0xa0 ≤ second) &&
    !(first == 0xf0 && second < 0x90) && !(first == 0xf4 && 0x90 ≤ second)

/-- Are the bytes the beginning of a character that lacks further bytes? That half of a surrogate
pair is no character is told by its third byte only. -/
def isUnfinished : List UInt8 → Bool
  | [a] => 0xc2 ≤ a && a < 0xf5
  | [a, b] => 0xe0 ≤ a && a < 0xf5 && (canFollow a b || (a == 0xed && goesOn b))
  | [a, b, c] => 0xf0 ≤ a && a < 0xf5 && canFollow a b && goesOn c
  | _ => false

/-- The text of bytes of which the last `count` are left for the next block. -/
def decodeLeaving (bs : ByteArray) (count : Nat) : Option (String × ByteArray) :=
  let rest := bs.extract (bs.size - count) bs.size
  if count = 0 ∨ isUnfinished rest.toList then
    (String.fromUTF8? (bs.extract 0 (bs.size - count))).map fun s => (s, rest)
  else none

/-- The text of a block, and the bytes that are left for the next one. -/
def decodeBlock (bs : ByteArray) : Option (String × ByteArray) :=
  [0, 1, 2, 3].findSome? fun count => if count ≤ bs.size then decodeLeaving bs count else none

/-- The texts of the blocks from a place on, at most `count` of them, up to the first one that is no
text; `left` holds the bytes left by the block before. -/
def blocksFrom (bs : ByteArray) : (count start : Nat) → (left : ByteArray) → List String
  | 0, _, _ => []
  | count + 1, start, left =>
    if bs.size ≤ start then []
    else
      match decodeBlock (left ++ bs.extract start (start + blockSize)) with
      | some (s, left) => s :: blocksFrom bs count (start + blockSize) left
      | none => []

/-- The characters up to the end of their last line. -/
def wholeLines (cs : List Char) : List Char :=
  let cs := if cs.getLast? = some '\r' then cs.dropLast else cs
  (cs.reverse.dropWhile (! Text.isLineEnd ·)).reverse

/-- What can be seen of the text of bytes. -/
def ofBytes (bs : ByteArray) : SeenText :=
  match String.fromUTF8? bs with
  | some s => { text := s }
  | none =>
    let seen := String.join (blocksFrom bs (bs.size / blockSize + 1) 0 .empty)
    { text := String.ofList (wholeLines seen.toList), stopped := some .notText }

/-- All of a text can be seen. -/
theorem ofBytes_toUTF8 (s : String) : ofBytes s.toUTF8 = { text := s } := by
  have h : String.fromUTF8? s.toUTF8 = some s := dif_pos s.isValidUTF8
  rw [ofBytes, h]

end SeenText
end StakeRegistry
