/-!
# Arithmetic modulo 2 ^ 255 - 19

The field over which the signature curve is defined. Its elements are natural numbers below the
order; every operation reduces its result.
-/

namespace LendingClient.Edwards

/-- The bits of a number, the lowest first; at most `limit` of them. -/
def bits : (limit : Nat) → Nat → List Bool
  | 0, _ => []
  | limit + 1, value =>
    if value = 0 then [] else (value % 2 == 1) :: bits limit (value / 2)

/-- A power by squaring, the exponent given by its bits, the lowest first. -/
def power (modulus base : Nat) : (exponent : List Bool) → Nat
  | [] => 1 % modulus
  | bit :: rest =>
    let root := power modulus base rest
    let square := root * root % modulus
    if bit then square * base % modulus else square

namespace Field

/-- The number of elements. -/
def order : Nat := Nat.pow 2 255 - 19

/-- The sum of two elements. -/
def add (a b : Nat) : Nat := (a + b) % order

/-- The difference of two elements. -/
def sub (a b : Nat) : Nat := (a + (order - b)) % order

/-- The product of two elements. -/
def mul (a b : Nat) : Nat := a * b % order

/-- An element to a power. -/
def pow (a exponent : Nat) : Nat := power order a (bits 255 exponent)

/-- The inverse of an element, and zero for zero: the power one less than the order of the
multiplicative group. -/
def inv (a : Nat) : Nat := pow a (order - 2)

/-- The square root of minus one: two to a quarter of the group's order. -/
def rootOfMinusOne : Nat := pow 2 ((order - 1) / 4)

/-- A square root of the quotient `u / v`, if it has one. With `r = u v³ (u v⁷) ^ ((order - 5) / 8)`
the product `v r²` is `u` times a fourth root of one; `r` itself is a root when that is one, and `r`
times the root of minus one when it is minus one. -/
def rootOfQuotient? (u v : Nat) : Option Nat :=
  let cube := mul v (mul v v)
  let seventh := mul cube (mul cube v)
  let r := mul (mul u cube) (pow (mul u seventh) ((order - 5) / 8))
  let check := mul v (mul r r)
  if check = u then some r
  else if check = sub 0 u then some (mul r rootOfMinusOne)
  else none

end Field

end LendingClient.Edwards
