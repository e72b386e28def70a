import CiPipeline.Number.Decimal

set_option autoImplicit false

/-! # Dates and times

Dates, times, and both together with or without an offset, as they are written in TOML. The
seconds may be left out, and of a fraction of a second nine digits count. A moment has one
text, whichever way it was written.
-/

namespace CiPipeline.Toml

/-- A day of the calendar. -/
structure Date where
  year : Nat
  month : Nat
  day : Nat
  deriving DecidableEq, Inhabited

/-- A time of the day. -/
structure Time where
  hour : Nat
  minute : Nat
  second : Nat
  nanosecond : Nat
  deriving DecidableEq, Inhabited

/-- What a time is ahead of the universal time: nothing by name, or some minutes. -/
inductive Offset where
  | universal
  | minutes (n : Int)
  deriving DecidableEq, Inhabited

/-- A date, a time, or both, perhaps with an offset. -/
inductive Moment where
  | date (d : Date)
  | time (t : Time)
  | both (d : Date) (t : Time) (offset : Option Offset)
  deriving DecidableEq, Inhabited

/-! ## Texts -/

/-- A number with zeros in front, up to a width. -/
def padded (width n : Nat) : String :=
  let digits := Nat.toDigits 10 n
  String.ofList (List.replicate (width - digits.length) '0' ++ digits)

def Date.text (d : Date) : String :=
  padded 4 d.year ++ "-" ++ padded 2 d.month ++ "-" ++ padded 2 d.day

/-- The fraction of a second, without zeros at its end. -/
def Time.fraction (t : Time) : String :=
  if t.nanosecond = 0 then ""
  else "." ++ String.ofList ((padded 9 t.nanosecond).toList.reverse.dropWhile (· == '0')).reverse

def Time.text (t : Time) : String :=
  padded 2 t.hour ++ ":" ++ padded 2 t.minute ++ ":" ++ padded 2 t.second ++ t.fraction

def Offset.text : Offset → String
  | universal => "Z"
  | minutes n =>
      (if n < 0 then "-" else "+") ++ padded 2 (n.natAbs / 60) ++ ":" ++ padded 2 (n.natAbs % 60)

def Moment.text : Moment → String
  | date d => d.text
  | time t => t.text
  | both d t offset => d.text ++ "T" ++ t.text ++ (offset.map (·.text)).getD ""

/-! ## Reading -/

/-- The number of two digits at the front. -/
def two? : List Char → Option (Nat × List Char)
  | a :: b :: cs =>
      if a.isDigit && b.isDigit then (Number.ofDigits? 10 [a, b]).map fun n => (n, cs) else none
  | _ => none

/-- The days of a month. -/
def daysIn (year month : Nat) : Nat :=
  if month = 2 then
    if year % 4 = 0 ∧ (year % 100 ≠ 0 ∨ year % 400 = 0) then 29 else 28
  else if [4, 6, 9, 11].contains month then 30
  else 31

/-- A date at the front. -/
def date? (cs : List Char) : Option (Date × List Char) := do
  let (century, cs) ← two? cs
  let (year, cs) ← two? cs
  match cs with
  | '-' :: cs => do
      let (month, cs) ← two? cs
      match cs with
      | '-' :: cs => do
          let (day, cs) ← two? cs
          let d : Date := ⟨century * 100 + year, month, day⟩
          if 1 ≤ month ∧ month ≤ 12 ∧ 1 ≤ day ∧ day ≤ daysIn d.year month then some (d, cs)
          else none
      | _ => none
  | _ => none

/-- The billionths that the digits of a fraction stand for. -/
def billionths? (digits : List Char) : Option Nat :=
  Number.ofDigits? 10 ((digits ++ List.replicate 9 '0').take 9)

/-- The seconds that may follow a time, with the fraction that may follow them. -/
def seconds? : List Char → Option ((Nat × Nat) × List Char)
  | ':' :: cs => do
      let (second, cs) ← two? cs
      if 60 < second then none
      else
        match cs with
        | '.' :: cs =>
            let (digits, rest) := cs.span (·.isDigit)
            if digits.isEmpty then none
            else (billionths? digits).map fun n => ((second, n), rest)
        | _ => some ((second, 0), cs)
  | cs => some ((0, 0), cs)

/-- Hours and minutes at the front. -/
def minutes? (cs : List Char) : Option ((Nat × Nat) × List Char) := do
  let (hour, cs) ← two? cs
  match cs with
  | ':' :: cs => do
      let (minute, cs) ← two? cs
      if hour ≤ 23 ∧ minute ≤ 59 then some ((hour, minute), cs) else none
  | _ => none

/-- A time at the front. -/
def time? (cs : List Char) : Option (Time × List Char) := do
  let ((hour, minute), cs) ← minutes? cs
  let ((second, nanosecond), cs) ← seconds? cs
  some (⟨hour, minute, second, nanosecond⟩, cs)

/-- The offset that is all that follows a time. -/
def offset? : List Char → Option Offset
  | ['Z'] | ['z'] => some .universal
  | c :: cs =>
      match minutes? cs with
      | some ((hour, minute), []) =>
          if c = '+' then some (.minutes (hour * 60 + minute))
          else if c = '-' then some (.minutes (-(hour * 60 + minute)))
          else none
      | _ => none
  | [] => none

/-- The moment that the characters write. -/
def moment? (cs : List Char) : Option Moment :=
  match date? cs with
  | some (d, []) => some (.date d)
  | some (d, c :: cs) =>
      if c = 'T' ∨ c = 't' ∨ c = ' ' then
        match time? cs with
        | some (t, []) => some (.both d t none)
        | some (t, rest) => (offset? rest).map fun o => .both d t (some o)
        | none => none
      else none
  | none =>
      match time? cs with
      | some (t, []) => some (.time t)
      | _ => none

end CiPipeline.Toml
