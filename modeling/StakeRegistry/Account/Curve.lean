/-
The elliptic curve secp256k1, as far as it is needed to tell the address of a private key.

A point is kept in Jacobian coordinates `(X, Y, Z)`, standing for `(X / Z ^ 2, Y / Z ^ 3)`, or for
the point at infinity if `Z = 0`.
-/
import StakeRegistry.Account.Address

namespace StakeRegistry.Curve

/-- The order of the field. -/
def p : Nat := 0xfffffffffffffffffffffffffffffffffffffffffffffffffffffffefffffc2f

/-- The order of the group. -/
def order : Nat := 0xfffffffffffffffffffffffffffffffebaaedce6af48a03bbfd25e8cd0364141

/-- A point in Jacobian coordinates. -/
structure Point where
  x : Nat
  y : Nat
  z : Nat

/-- The generator of the group. -/
def generator : Point where
  x := 0x79be667ef9dcbbac55a06295ce870b07029bfcdb2dce28d959f2815b16f81798
  y := 0x483ada7726a3c4655da4fbfc0e1108a8fd17b448a68554199c47d08ffb10d4b8
  z := 1

/-- The difference of two field elements. -/
def sub (a b : Nat) : Nat :=
  (a + (p - b % p)) % p

/-- Twice a point. -/
def Point.double (q : Point) : Point :=
  let yy := q.y * q.y % p
  let s := 4 * q.x * yy % p
  let m := 3 * q.x * q.x % p
  let x := sub (m * m) (2 * s)
  { x, y := sub (m * sub s x) (8 * yy * yy), z := 2 * q.y * q.z % p }

/-- The sum of two points. -/
def Point.add (q r : Point) : Point :=
  if q.z = 0 then r
  else if r.z = 0 then q
  else
    let zq := q.z * q.z % p
    let zr := r.z * r.z % p
    let u := q.x * zr % p
    let v := r.x * zq % p
    let s := q.y * (zr * r.z % p) % p
    let t := r.y * (zq * q.z % p) % p
    if u = v then
      if s = t then q.double else ⟨1, 1, 0⟩
    else
      let h := sub v u
      let d := sub t s
      let hh := h * h % p
      let hhh := hh * h % p
      let w := u * hh % p
      let x := sub (sub (d * d) hhh) (2 * w)
      { x, y := sub (d * sub w x) (s * hhh), z := q.z * r.z % p * h % p }

/-- The multiple of a point by the `bits` lowest bits of a number, the highest bit first. -/
def Point.multiply (q : Point) (n : Nat) : (bits : Nat) → Point → Point
  | 0, sum => sum
  | bits + 1, sum =>
    let sum := sum.double
    q.multiply n bits (if n.testBit bits then sum.add q else sum)

/-- A power of a field element, by the `bits` lowest bits of the exponent, the highest first. -/
def power (a n : Nat) : (bits : Nat) → Nat → Nat
  | 0, product => product
  | bits + 1, product =>
    let product := product * product % p
    power a n bits (if n.testBit bits then product * a % p else product)

/-- The coordinates of a point. -/
def Point.affine (q : Point) : Nat × Nat :=
  let i := power q.z (p - 2) 256 1
  let ii := i * i % p
  (q.x * ii % p, q.y * (ii * i % p) % p)

/-- The public key of a private key. -/
def publicKey (key : Nat) : Nat × Nat :=
  (generator.multiply key 256 ⟨1, 1, 0⟩).affine

/-- The address of a private key: the last twenty bytes of the hash of the public key. -/
def addressOfKey (key : Nat) : String :=
  let (x, y) := publicKey key
  addressOfBytes ((Keccak.hash256 (Bytes.ofNat 32 x ++ Bytes.ofNat 32 y)).drop 12)

end StakeRegistry.Curve
