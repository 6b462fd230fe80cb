/-!
Decimal texts with a fixed number of places.

* `Decimal.roundDiv` rounds a quotient to the nearest whole number, a half to
  the even neighbour; it is off by at most half a unit
  (`Decimal.roundDiv_mul_le`, `Decimal.le_roundDiv_mul`).
* `Decimal.ratioOfDouble` is the exact value of a non-negative finite double as
  a ratio, and `Decimal.fixedText` writes such a value with the places asked
  for.
-/

namespace PageTxn.Decimal

/-- The quotient rounded to the nearest whole number, a half to the even one. -/
def roundDiv (num den : Nat) : Nat :=
  if 2 * (num % den) < den ∨ (2 * (num % den) = den ∧ num / den % 2 = 0) then num / den
  else num / den + 1

/-- Rounding exceeds the quotient by at most half a unit. -/
theorem roundDiv_mul_le {num den : Nat} (h : 0 < den) :
    2 * (roundDiv num den * den) ≤ 2 * num + den := by
  have whole := Nat.div_add_mod num den
  have less := Nat.mod_lt num h
  have swap : num / den * den = den * (num / den) := Nat.mul_comm _ _
  unfold roundDiv
  split
  · omega
  · rw [Nat.add_mul]
    omega

/-- Rounding falls short of the quotient by at most half a unit. -/
theorem le_roundDiv_mul {num den : Nat} (h : 0 < den) :
    2 * num ≤ 2 * (roundDiv num den * den) + den := by
  have whole := Nat.div_add_mod num den
  have less := Nat.mod_lt num h
  have swap : num / den * den = den * (num / den) := Nat.mul_comm _ _
  unfold roundDiv
  split
  · omega
  · rw [Nat.add_mul]
    omega

/-- The exact value of a non-negative finite double as a numerator and a
denominator. The word holds eleven bits of exponent above fifty-two bits of
fraction. -/
def ratioOfDouble (value : Float) : Nat × Nat :=
  let bits := value.toBits.toNat
  let exponent := (bits >>> 52) % (1 <<< 11)
  let fraction := bits % (1 <<< 52)
  let mantissa := if exponent = 0 then fraction else (1 <<< 52) + fraction
  let scale := max exponent 1
  if 1075 ≤ scale then (mantissa <<< (scale - 1075), 1)
  else (mantissa, 1 <<< (1075 - scale))

/-- Digits of a number, filled up with zeros on the left. -/
def padded (width : Nat) (value : Nat) : String :=
  let digits := toString value
  String.ofList (List.replicate (width - digits.length) '0') ++ digits

/-- The text of a non-negative finite double with `places` decimal places. -/
def fixedText (places : Nat) (value : Float) : String :=
  let ratio := ratioOfDouble value
  let unit := Nat.pow 10 places
  let scaled := roundDiv (ratio.1 * unit) ratio.2
  toString (scaled / unit) ++ "." ++ padded places (scaled % unit)

end PageTxn.Decimal
