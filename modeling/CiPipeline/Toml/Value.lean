import CiPipeline.Number.Binary64
import CiPipeline.Toml.Moment
import CiPipeline.Toml.Text

set_option autoImplicit false

/-! # Values of TOML

Values as they are written. A table in braces is still a list of pairs of a path and a
value; which table each of them belongs to is settled later. Arrays and tables in braces may
be nested 80 deep, and a path may have 80 keys.
-/

namespace CiPipeline.Toml

open Number

/-- A value as it is written. -/
inductive Value where
  | str (s : String)
  | int (n : Int)
  | float (x : Binary64)
  | bool (b : Bool)
  | moment (m : Moment)
  | array (items : List Value)
  | inline (pairs : List (List String × Value))
  deriving Inhabited

/-- How deep arrays and tables in braces may be nested, and how many keys a path may have. -/
def maxDepth : Nat := 80

/-! ## Numbers -/

/-- The characters without the underscores, each of which must stand between two characters
of a kind. -/
def ungroup? (isDigit : Char → Bool) : List Char → Option (List Char)
  | [] => some []
  | '_' :: _ => none
  | c :: '_' :: d :: cs =>
      if isDigit c && isDigit d then (ungroup? isDigit (d :: cs)).map (c :: ·) else none
  | c :: cs => (ungroup? isDigit cs).map (c :: ·)

/-- The characters are a number without needless zeros at the front. -/
def isTrimmed (digits : List Char) : Bool :=
  match digits with
  | '0' :: _ :: _ => false
  | _ => !digits.isEmpty && digits.all (·.isDigit)

/-- An optional sign, and what follows it. -/
def sign : List Char → Bool × List Char
  | '-' :: cs => (true, cs)
  | '+' :: cs => (false, cs)
  | cs => (false, cs)

/-- An integer: in decimal with an optional sign, or marked as hexadecimal, octal or
binary. -/
def integer? : List Char → Option Int
  | '0' :: 'x' :: cs =>
      ((ungroup? (fun c => (digitValue? c).isSome) cs).bind (ofDigits? 16)).map Int.ofNat
  | '0' :: 'o' :: cs => ((ungroup? Char.isDigit cs).bind (ofDigits? 8)).map Int.ofNat
  | '0' :: 'b' :: cs => ((ungroup? Char.isDigit cs).bind (ofDigits? 2)).map Int.ofNat
  | cs =>
      match ungroup? Char.isDigit (sign cs).2 with
      | none => none
      | some digits =>
          if isTrimmed digits then
            (ofDigits? 10 digits).map fun n => if (sign cs).1 then -(n : Int) else (n : Int)
          else none

/-- A number with a fraction, an exponent, or both, that is not too large, or a word for
infinity or no number. -/
def float? (cs : List Char) : Option Binary64 :=
  let (negative, body) := sign cs
  if body = "inf".toList then some (.infinite negative)
  else if body = "nan".toList then some .nan
  else
    match ungroup? Char.isDigit body with
    | none => none
    | some body =>
        let (whole, rest) := body.span (·.isDigit)
        let fraction : Option (List Char) := match rest with
          | '.' :: cs => some (cs.takeWhile (·.isDigit))
          | _ => none
        if !isTrimmed whole || rest.isEmpty || fraction == some [] then none
        else ((Decimal.unsigned? negative body).map .ofDecimal).filter Binary64.isFinite

/-- The value of characters that are no quoted text, array or table. -/
def word? (cs : List Char) : Option Value :=
  if cs = "true".toList then some (.bool true)
  else if cs = "false".toList then some (.bool false)
  else
    match integer? cs with
    | some n => some (.int n)
    | none =>
        match float? cs with
        | some x => some (.float x)
        | none => (moment? cs).map .moment

/-! ## Keys -/

/-- The characters of a bare key. -/
def isBareChar (c : Char) : Bool := c.isAlphanum || c == '_' || c == '-'

/-- A key: bare, or a quoted text in one line. -/
def key? : List Char → Option (String × List Char)
  | '"' :: cs => doubleQuoted? [] cs
  | '\'' :: cs => singleQuoted? [] cs
  | cs =>
      let (name, rest) := cs.span isBareChar
      if name.isEmpty then none else some (String.ofList name, rest)

/-- At most `count` keys with dots between them, after blanks and up to what follows them and
blanks. -/
def keys? : (count : Nat) → List Char → Option (List String × List Char)
  | 0, _ => none
  | count + 1, cs => do
      let (key, rest) ← key? (cs.dropWhile isGap)
      match rest.dropWhile isGap with
      | '.' :: rest => do
          let (more, rest) ← keys? count rest
          some (key :: more, rest)
      | rest => some ([key], rest)

/-- A path: keys with dots between them. -/
def path? (cs : List Char) : Option (List String × List Char) := keys? maxDepth cs

/-! ## Values -/

/-- After a comment, up to the end of its line; `none` if a character may not stand in it. -/
def comment? : List Char → Option (List Char)
  | [] => some []
  | c :: cs =>
      if (newline? (c :: cs)).isSome then some (c :: cs)
      else if isContent c then comment? cs
      else none

/-- After blanks, line breaks and comments; `fuel` bounds the number of lines. -/
def skipLines? : (fuel : Nat) → List Char → Option (List Char)
  | 0, cs => some cs
  | fuel + 1, cs =>
      let cs := cs.dropWhile isGap
      match newline? cs with
      | some rest => skipLines? fuel rest
      | none =>
          match cs with
          | '#' :: rest => (comment? rest).bind (skipLines? fuel)
          | _ => some cs

/-- The characters of words. -/
def isWordChar (c : Char) : Bool :=
  c.isAlphanum || c == '_' || c == '-' || c == '+' || c == '.' || c == ':'

/-- A word at the front: a date may be followed by a space and a time. -/
def spanWord (cs : List Char) : List Char × List Char :=
  let (word, rest) := cs.span isWordChar
  match rest with
  | ' ' :: a :: b :: ':' :: _ =>
      if (date? word).map (·.2) == some [] && a.isDigit && b.isDigit then
        let (time, rest) := rest.tail.span isWordChar
        (word ++ ' ' :: time, rest)
      else (word, rest)
  | _ => (word, rest)

mutual

/-- A value at the front, with room for so many brackets and braces inside each other. There
is at least as much `fuel` as there are characters. -/
def value? (fuel room : Nat) (cs : List Char) : Option (Value × List Char) :=
  match fuel with
  | 0 => none
  | fuel + 1 =>
      match cs with
      | '[' :: rest =>
          if room = 0 then none
          else (items? fuel (room - 1) rest).map fun (xs, rest) => (.array xs, rest)
      | '\x7b' :: rest =>
          if room = 0 then none
          else (pairs? fuel (room - 1) rest).map fun (ps, rest) => (.inline ps, rest)
      | c :: _ =>
          if c == '"' || c == '\'' then (text? cs).map fun (s, rest) => (.str s, rest)
          else
            let (word, rest) := spanWord cs
            (word? word).map fun v => (v, rest)
      | [] => none

/-- The items of an array, up to its end. -/
def items? (fuel room : Nat) (cs : List Char) : Option (List Value × List Char) :=
  match fuel with
  | 0 => none
  | fuel + 1 =>
      match skipLines? fuel cs with
      | some (']' :: rest) => some ([], rest)
      | some cs => do
          let (v, rest) ← value? fuel room cs
          match ← skipLines? fuel rest with
          | ',' :: rest => do
              let (vs, rest) ← items? fuel room rest
              some (v :: vs, rest)
          | ']' :: rest => some ([v], rest)
          | _ => none
      | none => none

/-- The pairs of a table in braces, up to its end. The parts of a pair may stand in lines of
their own. -/
def pairs? (fuel room : Nat) (cs : List Char) :
    Option (List (List String × Value) × List Char) :=
  match fuel with
  | 0 => none
  | fuel + 1 =>
      match skipLines? fuel cs with
      | some ('\x7d' :: rest) => some ([], rest)
      | some cs => do
          let (path, rest) ← path? cs
          match ← skipLines? fuel rest with
          | '=' :: rest => do
              let (v, rest) ← value? fuel room (← skipLines? fuel rest)
              match ← skipLines? fuel rest with
              | ',' :: rest => do
                  let (ps, rest) ← pairs? fuel room rest
                  some ((path, v) :: ps, rest)
              | '\x7d' :: rest => some ([(path, v)], rest)
              | _ => none
          | _ => none
      | none => none

end

/-- A path, an equals sign and a value in one line. -/
def pair? (cs : List Char) : Option ((List String × Value) × List Char) := do
  let (path, rest) ← path? cs
  match rest with
  | '=' :: rest => do
      let (v, rest) ← value? (2 * cs.length + 2) maxDepth (rest.dropWhile isGap)
      some ((path, v), rest)
  | _ => none

end CiPipeline.Toml
