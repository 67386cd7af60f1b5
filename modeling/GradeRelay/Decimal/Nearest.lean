/-!
# From a decimal to the nearest double

The double nearest to `m · 10 ^ e`, found in exact natural-number arithmetic; a tie goes to the
even neighbour, and a value past the largest double becomes infinite.

* `roundHalfEven_bounds`: rounding errs by at most half a unit.
-/

namespace GradeRelay.Decimal

/-- The quotient rounded to the nearest natural number, a half to the even neighbour. -/
def roundHalfEven (num den : Nat) : Nat :=
  let q := num / den
  let r := num % den
  if 2 * r < den then q
  else if den < 2 * r then q + 1
  else if q % 2 = 0 then q else q + 1

/-- The exponent of the binary unit in which a positive quotient has 53 digits, or the least
exponent of a double if that is greater. -/
def unitExponent (num den : Nat) : Int :=
  let l : Int := (num.log2 : Int) - (den.log2 : Int)
  let above : Bool :=
    if 0 ≤ l then den * Nat.pow 2 l.toNat ≤ num else den ≤ num * Nat.pow 2 (-l).toNat
  let floorLog := if above then l else l - 1
  max (floorLog - 52) (-1074)

/-- The bits of positive infinity. -/
def infinityBits : Nat := 0x7ff0000000000000

/-- The bits of the double nearest to a quotient. -/
def quotientBits (num den : Nat) : Nat :=
  if num = 0 then 0
  else
    let q := unitExponent num den
    let n := if 0 ≤ q then roundHalfEven num (den * Nat.pow 2 q.toNat)
      else roundHalfEven (num * Nat.pow 2 (-q).toNat) den
    min ((q + 1074).toNat * 0x10000000000000 + n) infinityBits

/-- The bits of the double nearest to `m · 10 ^ e`. Exponents that put the value out of every
double's reach are answered without computing the power. -/
def nearestBits (m : Nat) (e : Int) : Nat :=
  let size : Int := (Nat.toDigits 10 m).length + e
  if m = 0 || size < -400 then 0
  else if 400 < size then infinityBits
  else if 0 ≤ e then quotientBits (m * Nat.pow 10 e.toNat) 1
  else quotientBits m (Nat.pow 10 (-e).toNat)

/-- The double nearest to `± m · 10 ^ e`. -/
def nearest (negative : Bool) (m : Nat) (e : Int) : Float :=
  let x := Float.ofBits (UInt64.ofNat (nearestBits m e))
  if negative then -x else x

theorem roundHalfEven_bounds (num den : Nat) (h : 0 < den) :
    2 * (roundHalfEven num den * den) ≤ 2 * num + den ∧
      2 * num ≤ 2 * (roundHalfEven num den * den) + den := by
  have hd := Nat.div_add_mod num den
  have hm := Nat.mod_lt num h
  have hq : num / den * den = den * (num / den) := Nat.mul_comm _ _
  simp only [roundHalfEven]
  split
  · omega
  · split
    · rw [Nat.add_mul]; omega
    · split
      · omega
      · rw [Nat.add_mul]; omega

end GradeRelay.Decimal
