/-!
# Binary64 numbers

The non-negative finite numbers of the 64-bit binary format, held exactly as `mantissa · 2^exponent`.

* `roundDiv` : a quotient of natural numbers rounded to the nearest one, a tie to the even one
* `Binary64.ofRatio` : the number nearest to a quotient, a tie to the even mantissa
* `Binary64.add`, `Binary64.div` : the exact result rounded once
* `Binary64.toBits` : the interchange form
-/

namespace TunnelSync

/-- The quotient rounded to the nearest natural number; a tie goes to the even one. -/
def roundDiv (num den : Nat) : Nat :=
  let q := num / den
  let r := num % den
  if 2 * r < den then q
  else if den < 2 * r then q + 1
  else q + q % 2

/-- The rounded quotient is off by half a divisor at most. -/
theorem roundDiv_near {num den : Nat} (h : 0 < den) :
    2 * (roundDiv num den * den) ≤ 2 * num + den ∧ 2 * num ≤ 2 * (roundDiv num den * den) + den := by
  have hdm := Nat.div_add_mod num den
  have hm := Nat.mod_lt num h
  have hc : num / den * den = den * (num / den) := Nat.mul_comm _ _
  simp only [roundDiv]
  split
  · omega
  split
  · rw [Nat.add_mul, Nat.one_mul]; omega
  · rcases Nat.mod_two_eq_zero_or_one (num / den) with h2 | h2 <;> rw [h2]
    · rw [Nat.add_zero]; omega
    · rw [Nat.add_mul, Nat.one_mul]; omega

/-- A non-negative finite number of the format, `mantissa · 2^exponent`. -/
structure Binary64 where
  mantissa : Nat
  exponent : Int
  deriving DecidableEq, Repr

namespace Binary64

/-- The least exponent of the format. -/
def minExponent : Int := -1074

/-- Zero. -/
def zero : Binary64 := ⟨0, minExponent⟩

/-- Whether `2^l ≤ num / den`. -/
def twoPowLe (l : Int) (num den : Nat) : Bool :=
  if 0 ≤ l then decide (den * Nat.pow 2 l.toNat ≤ num) else decide (den ≤ num * Nat.pow 2 (-l).toNat)

/-- The number nearest to `num / den`. -/
def ofRatio (num den : Nat) : Binary64 :=
  if num = 0 then zero
  else
    let guess : Int := (Nat.log2 num : Int) - Nat.log2 den
    let top := if twoPowLe guess num den then guess else guess - 1
    let e := max (top - 52) minExponent
    let m := if 0 ≤ e then roundDiv num (den * Nat.pow 2 e.toNat) else roundDiv (num * Nat.pow 2 (-e).toNat) den
    if m = Nat.pow 2 53 then ⟨Nat.pow 2 52, e + 1⟩ else ⟨m, e⟩

/-- The number nearest to a natural number. -/
def ofNat (n : Nat) : Binary64 := ofRatio n 1

/-- Numerator and denominator of the exact value. -/
def toRatio (x : Binary64) : Nat × Nat :=
  if 0 ≤ x.exponent then (x.mantissa * Nat.pow 2 x.exponent.toNat, 1)
  else (x.mantissa, Nat.pow 2 (-x.exponent).toNat)

/-- The sum, rounded once. -/
def add (x y : Binary64) : Binary64 :=
  let (a, b) := x.toRatio
  let (c, d) := y.toRatio
  ofRatio (a * d + c * b) (b * d)

/-- The quotient by a number other than zero, rounded once. -/
def div (x y : Binary64) : Binary64 :=
  let (a, b) := x.toRatio
  let (c, d) := y.toRatio
  ofRatio (a * d) (b * c)

/-- The 64 bits of the interchange form. -/
def toBits (x : Binary64) : Nat :=
  if x.mantissa < Nat.pow 2 52 then x.mantissa
  else (x.exponent + 1075).toNat * Nat.pow 2 52 + (x.mantissa - Nat.pow 2 52)

end Binary64

end TunnelSync
