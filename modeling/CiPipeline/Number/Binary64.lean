import CiPipeline.Number.Decimal

set_option autoImplicit false

/-! # Binary floating point

The numbers of the 64-bit binary format, in exact arithmetic: a finite number is
`mantissa * 2 ^ exponent` with a mantissa below `2 ^ 53`, of full length unless the exponent
is the least one. A decimal numeral is rounded to the nearest of them, and of two equally
near ones to the one with the even mantissa. A number is shown with the fewest decimal digits
that round to it, written out without an exponent.
-/

namespace CiPipeline.Number

/-- A number of the 64-bit binary format. -/
inductive Binary64 where
  | finite (negative : Bool) (mantissa : Nat) (exponent : Int)
  | infinite (negative : Bool)
  | nan
  deriving DecidableEq, Inhabited

/-- The ratio `num / den` divided by a power of a base, as a ratio. -/
def scaleDown (base num den : Nat) (e : Int) : Nat × Nat :=
  if 0 ≤ e then (num, den * base.pow e.toNat) else (num * base.pow (-e).toNat, den)

/-- The quotient rounded to the nearest integer, a half to the even one. -/
def divNearestEven (num den : Nat) : Nat :=
  let q := num / den
  let r := num % den
  if den < 2 * r ∨ (2 * r = den ∧ q % 2 = 1) then q + 1 else q

namespace Binary64

/-- The least exponent. -/
def minExponent : Int := -1074

/-- The greatest exponent. -/
def maxExponent : Int := 971

/-- The number nearest to the positive ratio `num / den`. -/
def ofRatio (negative : Bool) (num den : Nat) : Binary64 :=
  let floor (e : Int) : Nat := let s := scaleDown 2 num den e; s.1 / s.2
  let guess : Int := (Nat.log2 num : Int) - (Nat.log2 den : Int) - 52
  let exact :=
    if Nat.pow 2 53 ≤ floor guess then guess + 1
    else if floor guess < Nat.pow 2 52 then guess - 1 else guess
  let e := max exact minExponent
  let s := scaleDown 2 num den e
  let m := divNearestEven s.1 s.2
  let m' := if m = Nat.pow 2 53 then Nat.pow 2 52 else m
  let e' := if m = Nat.pow 2 53 then e + 1 else e
  if maxExponent < e' then infinite negative else finite negative m' e'

/-- The number nearest to a decimal numeral. Numerals far out of the range of the format are
told by the number of their digits, without writing them out: `m` has more than
`3 * log2 m / 10` and at most `31 * log2 m / 100 + 2` digits. -/
def ofDecimal (d : Decimal) : Binary64 :=
  if d.mantissa = 0 then finite d.negative 0 minExponent
  else
    let bits := Nat.log2 d.mantissa
    if 310 < ((3 * bits / 10 : Nat) : Int) + d.exponent then infinite d.negative
    else if ((31 * bits / 100 + 2 : Nat) : Int) + d.exponent < -330 then
      finite d.negative 0 minExponent
    else
      let s := scaleDown 10 d.mantissa 1 (-d.exponent)
      ofRatio d.negative s.1 s.2

/-- The number is neither infinite nor undefined. -/
def isFinite : Binary64 → Bool
  | finite _ _ _ => true
  | _ => false

/-! ## Showing -/

/-- The number of digits before the decimal point of a ratio; not positive for ratios below
one tenth. -/
def magnitude (num den : Nat) : Int :=
  if den ≤ num then ((Nat.toDigits 10 (num / den)).length : Int)
  else
    let t := (Nat.toDigits 10 (den / num)).length - 1
    if den ≤ num * Nat.pow 10 t then 1 - (t : Int) else -(t : Int)

/-- Of the two decimal neighbours of a ratio on the grid `10 ^ e`, the nearer one that
rounds to `x`. -/
def neighbour? (x : Binary64) (num den : Nat) (e : Int) : Option Nat :=
  let s := scaleDown 10 num den e
  let low := s.1 / s.2
  let near := divNearestEven s.1 s.2
  let far := if near = low then low + 1 else low
  let reads (m : Nat) : Bool := ofDecimal ⟨false, m, e⟩ == x
  if reads near then some near else if reads far then some far else none

/-- The fewest digits, at most `count` more than the `17 - count` tried already, that round
to `x`, with the power of ten of the last one. A nearest neighbour that is the next power of
ten has a zero more than it needs. -/
def fewestDigits (x : Binary64) (num den : Nat) : (count : Nat) → Nat × Int
  | 0 => (num / den, 0)
  | count + 1 =>
      let e := magnitude num den - (17 - (count : Int))
      match neighbour? x num den e with
      | some m => if m % 10 = 0 then (m / 10, e + 1) else (m, e)
      | none => fewestDigits x num den count

/-- `m * 10 ^ e` written out, with a point before the fraction if there is one. -/
def positional (m : Nat) (e : Int) : String :=
  let digits := Nat.toDigits 10 m
  if 0 ≤ e then String.ofList (digits ++ List.replicate e.toNat '0')
  else
    let places := (-e).toNat
    let padded := List.replicate (places + 1 - digits.length) '0' ++ digits
    let whole := padded.length - places
    String.ofList (padded.take whole ++ '.' :: padded.drop whole)

/-- The fewest digits of a finite positive number, with the power of ten of the last one. -/
def shortest (m : Nat) (e : Int) : Nat × Int :=
  let s := scaleDown 2 m 1 (-e)
  fewestDigits (finite false m e) s.1 s.2 17

/-- A numeral with a point at the end unless it has one. -/
def withPoint (numeral : String) : String :=
  if numeral.toList.contains '.' then numeral else numeral ++ ".0"

/-- A number in words: its sign, then the numeral for its digits. -/
def shownBy (numeral : Nat → Int → String) : Binary64 → String
  | nan => "NaN"
  | infinite negative => if negative then "-inf" else "inf"
  | finite negative m e =>
      let digits := shortest m e
      (if negative then "-" else "") ++ (if m = 0 then "0.0" else numeral digits.1 digits.2)

/-- The number written out, always with a point. -/
def text : Binary64 → String := shownBy fun m e => withPoint (positional m e)

/-- `m * 10 ^ e` with the first digit before the point and an exponent, which is written by
`exponent`. -/
def scientific (exponent : Int → String) (m : Nat) (e : Int) : String :=
  match Nat.toDigits 10 m with
  | [] => ""
  | d :: ds =>
      String.ofList (if ds.isEmpty then [d] else d :: '.' :: ds) ++ "e"
        ++ exponent (e + (ds.length : Int))

/-- The number written out if its point is close to its digits, else with an exponent. -/
def briefText (exponent : Int → String) : Binary64 → String :=
  shownBy fun m e =>
    let whole := ((Nat.toDigits 10 m).length : Int) + e
    if -5 < whole ∧ whole ≤ 16 then withPoint (positional m e) else scientific exponent m e

/-- An exponent with its sign, also a plus. -/
def signedExponent (e : Int) : String := (if e < 0 then "-" else "+") ++ toString e.natAbs

end Binary64

end CiPipeline.Number
