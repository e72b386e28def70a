set_option autoImplicit false

/-! # Decimal numerals

Reading numerals: digits in some base, and decimal numerals with a point and an exponent.
-/

namespace CiPipeline.Number

/-- The value of a digit, up to `f`. -/
def digitValue? (c : Char) : Option Nat :=
  let n := c.toNat
  if '0'.toNat ≤ n ∧ n ≤ '9'.toNat then some (n - '0'.toNat)
  else if 'a'.toNat ≤ n ∧ n ≤ 'f'.toNat then some (n - 'a'.toNat + 10)
  else if 'A'.toNat ≤ n ∧ n ≤ 'F'.toNat then some (n - 'A'.toNat + 10)
  else none

/-- The number written by digits of the base, after digits of the value `acc`. -/
def digitsValue (base : Nat) : (acc : Nat) → List Char → Option Nat
  | acc, [] => some acc
  | acc, c :: cs =>
      match digitValue? c with
      | some d => if d < base then digitsValue base (acc * base + d) cs else none
      | none => none

/-- The number written by one or more digits of the base. -/
def ofDigits? (base : Nat) (cs : List Char) : Option Nat :=
  if cs.isEmpty then none else digitsValue base 0 cs

/-- `mantissa * 10 ^ exponent`, with a sign that counts for zero too. -/
structure Decimal where
  negative : Bool
  mantissa : Nat
  exponent : Int
  deriving DecidableEq, Inhabited

namespace Decimal

/-- The digits at the front, and the rest. -/
def spanDigits (cs : List Char) : List Char × List Char := cs.span (·.isDigit)

/-- The exponent part: nothing, or `e` with an optional sign and digits. -/
def exponent? : List Char → Option Int
  | [] => some 0
  | e :: cs =>
      if e = 'e' ∨ e = 'E' then
        match cs with
        | '-' :: ds => (ofDigits? 10 ds).map fun n => -(n : Int)
        | '+' :: ds => (ofDigits? 10 ds).map Int.ofNat
        | ds => (ofDigits? 10 ds).map Int.ofNat
      else none

/-- A numeral without a sign: digits with at most one point among or around them, then an
exponent. -/
def unsigned? (negative : Bool) (cs : List Char) : Option Decimal :=
  let whole := spanDigits cs
  let fraction := match whole.2 with
    | '.' :: rest => spanDigits rest
    | rest => ([], rest)
  if whole.1.isEmpty && fraction.1.isEmpty then none
  else
    match ofDigits? 10 (whole.1 ++ fraction.1), exponent? fraction.2 with
    | some m, some e => some ⟨negative, m, e - (fraction.1.length : Int)⟩
    | _, _ => none

/-- A numeral with an optional sign. -/
def ofChars? : List Char → Option Decimal
  | '-' :: cs => unsigned? true cs
  | '+' :: cs => unsigned? false cs
  | cs => unsigned? false cs

end Decimal

end CiPipeline.Number
