/-!
# Floating-point numbers in decimal

Numbers of IEEE double precision, as exact values: a sign, a significand and a power of two.
A decimal is read as the nearest of them, a tie going to the even significand
(`Binary64.ofDecimal`); a number is shown by the fewest digits that read back as it, and of
those the nearest (`Binary64.shortest`).  Both are exact arithmetic on natural numbers.
-/

namespace DocComments

/-- **A number of double precision.**  A finite one has the value
`± significand * 2 ^ exponent`. -/
inductive Binary64 where
  | finite (negative : Bool) (significand : Nat) (exponent : Int)
  | infinite (negative : Bool)
  | nan
  deriving DecidableEq, Repr

namespace Binary64

/-- The quotient rounded to the nearest whole number, a tie to the even one. -/
def roundDiv (num den : Nat) : Nat :=
  let q := num / den
  let twice := 2 * (num % den)
  if twice > den ∨ (twice = den ∧ q % 2 = 1) then q + 1 else q

/-- The least exponent of a finite number. -/
def minExponent : Int := -1074

/-- The greatest exponent of a finite number whose significand has full length. -/
def maxExponent : Int := 971

/-- The nearest number to the positive fraction `num / den`. -/
def ofFraction (negative : Bool) (num den : Nat) : Binary64 :=
  let estimate : Int := (Nat.log2 num : Int) - Nat.log2 den
  let reached : Bool :=
    if 0 ≤ estimate then den * Nat.pow 2 estimate.toNat ≤ num
    else den ≤ num * Nat.pow 2 (-estimate).toNat
  let exponent := max ((if reached then estimate else estimate - 1) - 52) minExponent
  let significand :=
    roundDiv (num * Nat.pow 2 (-exponent).toNat) (den * Nat.pow 2 exponent.toNat)
  let carried := significand = Nat.pow 2 53
  let significand := if carried then Nat.pow 2 52 else significand
  let exponent := if carried then exponent + 1 else exponent
  if exponent > maxExponent then .infinite negative
  else .finite negative significand exponent

/-- **The nearest number** to `± digits * 10 ^ power`.  Powers far outside the range of
finite numbers are settled by the count of digits. -/
def ofDecimal (negative : Bool) (digits : Nat) (power : Int) : Binary64 :=
  let magnitude := power + (toString digits).length
  if digits = 0 ∨ magnitude < -330 then .finite negative 0 0
  else if magnitude > 330 then .infinite negative
  else ofFraction negative (digits * Nat.pow 10 power.toNat) (Nat.pow 10 (-power).toNat)

/-! ### The shortest digits -/

/-- Searches the grids of step `10 ^ power`, from coarse to fine, for a point that reads back
as the number between `low` and `high`, nearest to `value`, all three in units of
`2 ^ unit`.  The bounds themselves count if `closed`. -/
def searchGrid (low value high : Nat) (unit : Int) (closed : Bool) :
    Nat → Int → Nat × Int
  | 0, power => (0, power)
  | rounds + 1, power =>
      let scale := Nat.pow 2 unit.toNat * Nat.pow 10 (-power).toNat
      let step := Nat.pow 10 power.toNat * Nat.pow 2 (-unit).toNat
      let below := value * scale / step
      let above := below + 1
      let belowFits :=
        0 < below && (if closed then low * scale ≤ below * step else low * scale < below * step)
      let aboveFits :=
        if closed then above * step ≤ high * scale else above * step < high * scale
      let fromBelow := value * scale - below * step
      let toAbove := above * step - value * scale
      if belowFits && aboveFits then
        if fromBelow < toAbove ∨ (fromBelow = toAbove ∧ below % 2 = 0) then (below, power)
        else (above, power)
      else if belowFits then (below, power)
      else if aboveFits then (above, power)
      else searchGrid low value high unit closed rounds (power - 1)

/-- **The shortest digits** of the positive number `significand * 2 ^ exponent`: a whole
number and a power of ten. -/
def shortest (significand : Nat) (exponent : Int) : Nat × Int :=
  let lowGap := if significand = Nat.pow 2 52 ∧ exponent > minExponent then 1 else 2
  let bits : Int := (Nat.log2 significand : Int) + 1 + exponent
  searchGrid (4 * significand - lowGap) (4 * significand) (4 * significand + 2) (exponent - 2)
    (significand % 2 = 0) 30 (bits * 30103 / 100000 + 2)

/-- The exponent part of a number in exponential notation, with at least two digits. -/
def exponentText (power : Int) : String :=
  let digits := toString power.natAbs
  (if power < 0 then "e-" else "e+") ++ (if digits.length < 2 then "0" ++ digits else digits)

/-- A positive decimal as text: positional, with a point, from `0.0001` to below `10 ^ 16`,
else exponential. -/
def decimalText (digits : Nat) (power : Int) : String :=
  let text := (toString digits).toList
  let point : Int := text.length + power
  if -4 < point ∧ point ≤ 16 then
    if point ≤ 0 then "0." ++ String.ofList (List.replicate (-point).toNat '0' ++ text)
    else if (text.length : Int) ≤ point then
      String.ofList (text ++ List.replicate (point - text.length).toNat '0') ++ ".0"
    else
      String.ofList (text.take point.toNat) ++ "." ++ String.ofList (text.drop point.toNat)
  else
    let fraction := text.drop 1
    String.ofList (text.take 1) ++
      (if fraction.isEmpty then "" else "." ++ String.ofList fraction) ++ exponentText (point - 1)

/-- **A number as text.** -/
def display : Binary64 → String
  | nan => "nan"
  | infinite negative => if negative then "-inf" else "inf"
  | finite negative significand exponent =>
      let sign := if negative then "-" else ""
      if significand = 0 then sign ++ "0.0"
      else
        let d := shortest significand exponent
        sign ++ decimalText d.1 d.2

/-- The number has the whole value `n`. -/
def equalsInt : Binary64 → Int → Bool
  | finite negative significand exponent, n =>
      let magnitude := significand * Nat.pow 2 exponent.toNat
      let target := n.natAbs * Nat.pow 2 (-exponent).toNat
      magnitude = target && (n = 0 || negative = decide (n < 0))
  | _, _ => false

/-- The numbers have the same value.  Zeros of either sign do; a number that is not one
equals nothing. -/
def sameValue : Binary64 → Binary64 → Bool
  | finite s m e, finite s' m' e' =>
      if m = 0 ∨ m' = 0 then m = m'
      else s = s' && m * Nat.pow 2 (e - min e e').toNat = m' * Nat.pow 2 (e' - min e e').toNat
  | infinite s, infinite s' => s = s'
  | _, _ => false

end Binary64

end DocComments
