import LendingClient.Bytes.Endian
import LendingClient.Edwards.Field

/-!
# Points of the signature curve

The twisted Edwards curve `- x² + y² = 1 + d x² y²`. A point is held as `(x : y : z : t)` with
`x / z`, `y / z` its coordinates and `x y = z t`; one addition formula serves every pair of points.
A point is written as the 32 bytes of `y` with the parity of `x` in the highest bit. Thirty-two bytes
that are the written form of no point are said to lie off the curve.
-/

namespace LendingClient.Edwards

/-- The coefficient `d` of the curve. -/
def coefficient : Nat :=
  37095705934669439343138083508754565189542113879843219016388785533085940283555

/-- A point in extended coordinates. -/
structure Point where
  x : Nat
  y : Nat
  z : Nat
  t : Nat

namespace Point

/-- The neutral point. -/
def zero : Point := ⟨0, 1, 1, 0⟩

/-- The point with these coordinates. -/
def ofAffine (x y : Nat) : Point := ⟨x, y, 1, Field.mul x y⟩

/-- The base point: its `y` is four fifths, its `x` is even. -/
def base : Point :=
  ofAffine 15112221349535400772501151409588531511454012693041857206046113283949847762202
    46316835694926478169428394003475163141307993866256225615783033603165251855960

/-- The sum of two points. -/
def add (p q : Point) : Point :=
  let a := Field.mul (Field.sub p.y p.x) (Field.sub q.y q.x)
  let b := Field.mul (Field.add p.y p.x) (Field.add q.y q.x)
  let c := Field.mul (Field.mul 2 coefficient) (Field.mul p.t q.t)
  let d := Field.mul 2 (Field.mul p.z q.z)
  let e := Field.sub b a
  let f := Field.sub d c
  let g := Field.add d c
  let h := Field.add b a
  ⟨Field.mul e f, Field.mul g h, Field.mul f g, Field.mul e h⟩

/-- The point that adds up with `p` to the neutral one. -/
def neg (p : Point) : Point := ⟨Field.sub 0 p.x, p.y, p.z, Field.sub 0 p.t⟩

/-- A multiple of a point, the factor given by its bits, the lowest first. -/
def multiple (p : Point) : (factor : List Bool) → Point
  | [] => zero
  | bit :: rest =>
    let half := multiple p rest
    let double := add half half
    if bit then add double p else double

/-- A multiple of a point by a factor below `2 ^ 256`. -/
def mul (factor : Nat) (p : Point) : Point :=
  p.multiple (bits 256 factor)

/-- The weight, in a written form, of the bit with the parity of `x`. -/
def parityWeight : Nat := Nat.pow 2 255

/-- The written form of a point. -/
def encode (p : Point) : Bytes :=
  let scale := Field.inv p.z
  let x := Field.mul p.x scale
  let y := Field.mul p.y scale
  littleEndian 32 (y + parityWeight * (x % 2))

/-- The point whose written form this is, if there is one. The `y` is taken modulo the field's
order, and the parity bit is not looked at when `x` is zero. -/
def decode? (bytes : Octets 32) : Option Point :=
  let value := ofLittleEndian bytes.bytes
  let y := value % parityWeight % Field.order
  let square := Field.mul y y
  (Field.rootOfQuotient? (Field.sub square 1)
      (Field.add (Field.mul coefficient square) 1)).map fun root =>
    let odd := value / parityWeight
    ofAffine (if root % 2 = odd then root else Field.sub 0 root) y

end Point

/-- Whether thirty-two bytes are the written form of a point. -/
def onCurve (bytes : Octets 32) : Bool :=
  (Point.decode? bytes).isSome

end LendingClient.Edwards
