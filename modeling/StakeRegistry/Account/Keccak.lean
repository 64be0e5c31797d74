/-
The hash function Keccak-256.

A state is 25 lanes of 64 bits, the lane of column `x` and row `y` at place `x + 5 * y`. A message
is padded by a one bit, zeros and a one bit to blocks of 136 bytes, each block is added to the first
17 lanes and the state is permuted; the first 32 bytes of the last state are the hash.
-/
import StakeRegistry.Hex

namespace StakeRegistry.Keccak

/-- Bytes of a block. -/
def rate : Nat := 136

/-- The lane at a place of the state. -/
def lane (s : Array UInt64) (i : Nat) : UInt64 :=
  s.getD i 0

/-- A lane rotated to the left by less than 64 bits. -/
def rotate (x : UInt64) (n : Nat) : UInt64 :=
  if n = 0 then x else (x <<< UInt64.ofNat n) ||| (x >>> UInt64.ofNat (64 - n))

/-- By how much the lane at each place is rotated. -/
def rotations : Array Nat :=
  #[0, 1, 62, 28, 27, 36, 44, 6, 55, 20, 3, 10, 43, 25, 39, 41, 45, 15, 21, 8, 18, 2, 61, 56, 14]

/-- The constant of each round. -/
def roundConstants : List UInt64 := [
  0x0000000000000001, 0x0000000000008082, 0x800000000000808a, 0x8000000080008000,
  0x000000000000808b, 0x0000000080000001, 0x8000000080008081, 0x8000000000008009,
  0x000000000000008a, 0x0000000000000088, 0x0000000080008009, 0x000000008000000a,
  0x000000008000808b, 0x800000000000008b, 0x8000000000008089, 0x8000000000008003,
  0x8000000000008002, 0x8000000000000080, 0x000000000000800a, 0x800000008000000a,
  0x8000000080008081, 0x8000000000008080, 0x0000000080000001, 0x8000000080008008]

/-- Add to each lane the parities of two neighbouring columns. -/
def mixColumns (s : Array UInt64) : Array UInt64 :=
  let parity (x : Nat) : UInt64 :=
    lane s x ^^^ lane s (x + 5) ^^^ lane s (x + 10) ^^^ lane s (x + 15) ^^^ lane s (x + 20)
  let delta := Array.ofFn fun x : Fin 5 => parity ((x + 4) % 5) ^^^ rotate (parity ((x + 1) % 5)) 1
  Array.ofFn fun i : Fin 25 => lane s i ^^^ lane delta (i % 5)

/-- Rotate each lane and move the lane of column `x`, row `y` to column `y`, row `2 x + 3 y`. -/
def shuffle (s : Array UInt64) : Array UInt64 :=
  Array.ofFn fun i : Fin 25 =>
    let column := i.val % 5
    let row := i.val / 5
    let source := (column + 3 * row) % 5 + 5 * column
    rotate (lane s source) (rotations.getD source 0)

/-- Combine each lane with the next two of its row. -/
def mixRows (s : Array UInt64) : Array UInt64 :=
  Array.ofFn fun i : Fin 25 =>
    let row := 5 * (i.val / 5)
    let at' (k : Nat) : UInt64 := lane s (row + (i.val + k) % 5)
    lane s i ^^^ (~~~ at' 1 &&& at' 2)

/-- One round. -/
def round (s : Array UInt64) (constant : UInt64) : Array UInt64 :=
  let s := mixRows (shuffle (mixColumns s))
  s.setIfInBounds 0 (lane s 0 ^^^ constant)

/-- The permutation of a state. -/
def permute (s : Array UInt64) : Array UInt64 :=
  roundConstants.foldl round s

/-- Eight bytes as a lane, the lowest byte first. -/
def laneOfBytes (bs : Bytes) : UInt64 :=
  bs.foldr (fun b x => (x <<< 8) ||| b.toUInt64) 0

/-- The eight bytes of a lane, the lowest first. -/
def bytesOfLane (x : UInt64) : Bytes :=
  (List.range 8).map fun i => (x >>> UInt64.ofNat (8 * i)).toUInt8

/-- Add a block to a state and permute it. -/
def absorb (s : Array UInt64) (block : Bytes) : Array UInt64 :=
  permute (Array.ofFn fun i : Fin 25 =>
    if i.val < rate / 8 then lane s i ^^^ laneOfBytes ((block.drop (8 * i)).take 8) else lane s i)

/-- A message with its padding. -/
def pad (message : Bytes) : Bytes :=
  let missing := rate - message.length % rate
  if missing = 1 then message ++ [0x81]
  else message ++ 0x01 :: List.replicate (missing - 2) 0 ++ [0x80]

/-- Add the first `count` blocks of a padded message to a state. -/
def absorbBlocks : (count : Nat) → Array UInt64 → Bytes → Array UInt64
  | 0, s, _ => s
  | count + 1, s, bs => absorbBlocks count (absorb s (bs.take rate)) (bs.drop rate)

/-- The Keccak-256 hash of a message. -/
def hash256 (message : Bytes) : Bytes :=
  let padded := pad message
  let s := absorbBlocks (padded.length / rate) (Array.replicate 25 0) padded
  ((List.range 4).flatMap fun i => bytesOfLane (lane s i))

end StakeRegistry.Keccak
