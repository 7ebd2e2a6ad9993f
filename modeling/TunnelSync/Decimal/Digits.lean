import TunnelSync.Decimal.Binary64
import TunnelSync.Text.Basic

/-!
# Numbers as decimals

* `Decimal.fixed` : the exact value of a number with a given count of decimal places, rounded to the
  nearest such decimal and at a tie to the one with an even last digit
* `Decimal.shortest` : the fewest digits that read back as the same number, and of those the decimal
  nearest to it
* `Decimal.positional` : these digits without an exponent, always with a point
-/

namespace TunnelSync.Decimal

/-! ### Fixed places -/

/-- A count of units of the last place, written with `places` digits behind the point. -/
def placed (places units : Nat) : Text :=
  if places = 0 then Text.ofNat units
  else
    let fraction := Text.ofNat (units % Nat.pow 10 places)
    Text.ofNat (units / Nat.pow 10 places) ++ '.' :: List.replicate (places - fraction.length) '0'
      ++ fraction

/-- The number with `places` digits behind the point. -/
def fixed (places : Nat) (x : Binary64) : Text :=
  let (num, den) := x.toRatio
  placed places (roundDiv (num * Nat.pow 10 places) den)

example : fixed 2 (.ofRatio 1 8) = "0.12".toList := by decide +kernel

/-! ### The shortest decimal -/

/-- The decimals `units · 10^exponent` that read back as one number: those between `low` and `high`
over `den`, the ends included if `closed`; `exact` over `den` is the number itself. -/
structure Neighbourhood where
  low : Nat
  exact : Nat
  high : Nat
  den : Nat
  closed : Bool
  deriving Repr

/-- The decimals that read back as `x`. Below a power of two the next number is half as far away. -/
def neighbourhood (x : Binary64) : Neighbourhood :=
  let low := if x.mantissa = Nat.pow 2 52 ∧ Binary64.minExponent < x.exponent then 4 * x.mantissa - 1
    else 4 * x.mantissa - 2
  let e := x.exponent - 2
  let scale := Nat.pow 2 e.toNat
  ⟨low * scale, 4 * x.mantissa * scale, (4 * x.mantissa + 2) * scale, Nat.pow 2 (-e).toNat,
    x.mantissa % 2 == 0⟩

/-- Whether `units · 10^exponent` is in the neighbourhood. -/
def Neighbourhood.contains (n : Neighbourhood) (units : Nat) (exponent : Int) : Bool :=
  let value := units * Nat.pow 10 exponent.toNat * n.den
  let den := Nat.pow 10 (-exponent).toNat
  if n.closed then n.low * den ≤ value && value ≤ n.high * den
  else n.low * den < value && value < n.high * den

/-- The decimal of the grid `10^exponent` in the neighbourhood that is nearest to the number. -/
def Neighbourhood.onGrid? (n : Neighbourhood) (exponent : Int) : Option Nat :=
  let num := n.exact * Nat.pow 10 (-exponent).toNat
  let den := n.den * Nat.pow 10 exponent.toNat
  let below := num / den
  let nearest := roundDiv num den
  if n.contains nearest exponent then some nearest
  else if n.contains below exponent then some below
  else if n.contains (below + 1) exponent then some (below + 1)
  else none

/-- The first grid, from `exponent` downwards, that has a decimal in the neighbourhood. -/
def Neighbourhood.search (n : Neighbourhood) : Nat → Int → Nat × Int
  | 0, exponent => (0, exponent)
  | grids + 1, exponent =>
      match n.onGrid? exponent with
      | some units => (units, exponent)
      | none => n.search grids (exponent - 1)

/-- The digits and the exponent of the shortest decimal. Twenty grids from above the leading digit
hold the seventeen digits that always suffice. -/
def shortest (x : Binary64) : Nat × Int :=
  if x.mantissa = 0 then (0, 0)
  else
    let top : Int := (Nat.log2 x.mantissa : Int) + x.exponent
    (neighbourhood x).search 20 ((top + 1) * 30103 / 100000 + 1)

/-- The decimal with a point and at least one digit on either side of it. -/
def positional (units : Nat) (exponent : Int) : Text :=
  if 0 ≤ exponent then Text.ofNat (units * Nat.pow 10 exponent.toNat) ++ ".0"
  else placed (-exponent).toNat units

example : (shortest (.ofRatio 1 10), shortest (.ofRatio 100 1)) = ((1, -1), (1, 2)) := by
  decide +kernel

end TunnelSync.Decimal
