/-!
# From a double to the shortest decimal

The fewest digits that read back as the same double and, among the decimals with that many
digits, the one nearest to it. The value is `m · 2 ^ q`; the reals that round to it form an
interval, which holds its ends exactly when `m` is even. For each count of digits the two
neighbours of the value on that decimal grid are tested in exact arithmetic.
-/

namespace GradeRelay.Decimal

/-- A decimal `digits · 10 ^ exponent`. -/
structure Scientific where
  digits : Nat
  exponent : Int
  deriving DecidableEq, Repr

/-- A finite double's magnitude `mantissa · 2 ^ exponent`; `edge` tells whether the next smaller
double is only half a unit of this one away. -/
structure Magnitude where
  mantissa : Nat
  exponent : Int
  edge : Bool
  deriving DecidableEq, Repr

/-- Decodes the bits below the sign of a finite double. -/
def Magnitude.ofBits (bits : Nat) : Magnitude :=
  let field : Nat := bits / 0x10000000000000
  let fraction : Nat := bits % 0x10000000000000
  if field = 0 then ⟨fraction, -1074, false⟩
  else ⟨fraction + 0x10000000000000, (field : Int) - 1075, fraction = 0 && 1 < field⟩

/-- A positive rational. -/
structure Ratio where
  num : Nat
  den : Nat
  deriving DecidableEq, Repr

/-- The rational `m · 2 ^ q`. -/
def Ratio.scale (m : Nat) (q : Int) : Ratio :=
  if 0 ≤ q then ⟨m * Nat.pow 2 q.toNat, 1⟩ else ⟨m, Nat.pow 2 (-q).toNat⟩

/-- A decimal as a rational. -/
def Scientific.toRatio (x : Scientific) : Ratio :=
  if 0 ≤ x.exponent then ⟨x.digits * Nat.pow 10 x.exponent.toNat, 1⟩
  else ⟨x.digits, Nat.pow 10 (-x.exponent).toNat⟩

/-- One rational is less than another. -/
def Ratio.lt (a b : Ratio) : Bool := a.num * b.den < b.num * a.den

/-- How far two rationals are apart. -/
def Ratio.distance (a b : Ratio) : Ratio :=
  let x := a.num * b.den
  let y := b.num * a.den
  ⟨if x ≤ y then y - x else x - y, a.den * b.den⟩

/-- A rational that rounds to the given magnitude. -/
def Magnitude.covers (x : Magnitude) (r : Ratio) : Bool :=
  let q := x.exponent - 2
  let low := Ratio.scale (4 * x.mantissa - if x.edge then 1 else 2) q
  let high := Ratio.scale (4 * x.mantissa + 2) q
  if x.mantissa % 2 = 0 then !r.lt low && !high.lt r else low.lt r && r.lt high

/-- The exponent of the leading decimal digit of a positive rational. -/
def Ratio.leading (r : Ratio) : Int :=
  if r.den ≤ r.num then ((Nat.toDigits 10 (r.num / r.den)).length : Int) - 1
  else
    match (List.range 400).find? fun k => r.den ≤ r.num * Nat.pow 10 k with
    | some k => -(k : Int)
    | none => -400

/-- Drops the zeros at the end of the digits. -/
def Scientific.trim (x : Scientific) : Scientific :=
  if h : 0 < x.digits ∧ x.digits % 10 = 0 then trim ⟨x.digits / 10, x.exponent + 1⟩ else x
termination_by x.digits
decreasing_by exact Nat.div_lt_self h.1 (by omega)

/-- The decimal with `n` digits that reads back as the magnitude, if there is one. -/
def Magnitude.withDigits (x : Magnitude) (n : Nat) : Option Scientific :=
  let v := Ratio.scale x.mantissa x.exponent
  let e := v.leading + 1 - n
  let unit : Ratio := Scientific.toRatio ⟨1, e⟩
  let below : Scientific := ⟨v.num * unit.den / (v.den * unit.num), e⟩
  let above : Scientific := ⟨below.digits + 1, e⟩
  match x.covers below.toRatio, x.covers above.toRatio with
  | true, true =>
    if (above.toRatio.distance v).lt (below.toRatio.distance v) then some above else some below
  | true, false => some below
  | false, true => some above
  | false, false => none

/-- The shortest decimal that reads back as the magnitude. -/
def Magnitude.shortest (x : Magnitude) : Scientific :=
  if x.mantissa = 0 then ⟨0, 0⟩
  else
    match ((List.range 17).map (· + 1)).findSome? x.withDigits with
    | some d => d.trim
    | none => ⟨x.mantissa, 0⟩

/-- Writes a decimal: in positions while the point falls within sixteen digits and no more than
five zeros follow it, else with one digit before the point and an exponent. -/
def Scientific.render (x : Scientific) : String :=
  let ds := Nat.toDigits 10 x.digits
  let zeros := fun n : Nat => List.replicate n '0'
  let point : Int := ds.length + x.exponent
  if 0 ≤ x.exponent && point ≤ 16 then
    String.ofList (ds ++ zeros x.exponent.toNat ++ ['.', '0'])
  else if 0 < point && point ≤ 16 then
    String.ofList (ds.take point.toNat ++ '.' :: ds.drop point.toNat)
  else if -5 < point && point ≤ 0 then
    String.ofList ('0' :: '.' :: (zeros (-point).toNat ++ ds))
  else
    let tail := ds.drop 1
    String.ofList (ds.take 1 ++ (if tail.isEmpty then [] else '.' :: tail))
      ++ "e" ++ toString (point - 1)

/-- The text of a finite double; none for an infinity or a NaN. -/
def text? (x : Float) : Option String :=
  let bits := x.toBits.toNat
  let body := bits % 0x8000000000000000
  if 0x7ff0000000000000 ≤ body then none
  else
    let t := if body = 0 then "0.0" else (Magnitude.ofBits body).shortest.render
    some (if 0x8000000000000000 ≤ bits then "-" ++ t else t)

end GradeRelay.Decimal
