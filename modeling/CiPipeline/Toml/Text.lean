import CiPipeline.Number.Decimal

set_option autoImplicit false

/-! # Quoted texts of TOML

Texts in one line or several, in double quotes with escapes or in single quotes without.
-/

namespace CiPipeline.Toml

/-- A space or a tab. -/
def isGap (c : Char) : Bool := c == ' ' || c == '\t'

/-- The character may stand in a text or a comment; line breaks are looked at apart. -/
def isContent (c : Char) : Bool := c == '\t' || (decide (0x20 ≤ c.toNat) && c.toNat != 0x7F)

/-- The characters after a line break, if there is one at the front. -/
def newline? : List Char → Option (List Char)
  | '\n' :: cs => some cs
  | '\r' :: '\n' :: cs => some cs
  | _ => none

/-- The characters after a line break that may be at the front. -/
def dropNewline (cs : List Char) : List Char := (newline? cs).getD cs

/-- The character for a letter after a backslash. -/
def escapedChar? (c : Char) : Option Char :=
  [('b', '\x08'), ('t', '\t'), ('n', '\n'), ('f', '\x0c'), ('r', '\r'), ('e', '\x1b'),
    ('"', '"'), ('\\', '\\')].lookup c

/-- The character with a number written in hexadecimal. -/
def hexChar? (digits : List Char) : Option Char :=
  match Number.ofDigits? 16 digits with
  | some n => if n.isValidChar then some (Char.ofNat n) else none
  | none => none

/-- A text in double quotes after the first one, with what has been read of it in reverse. -/
def doubleQuoted? (acc : List Char) : List Char → Option (String × List Char)
  | [] => none
  | '"' :: cs => some (String.ofList acc.reverse, cs)
  | '\\' :: 'x' :: a :: b :: cs =>
      match hexChar? [a, b] with
      | some c => doubleQuoted? (c :: acc) cs
      | none => none
  | '\\' :: 'u' :: a :: b :: c :: d :: cs =>
      match hexChar? [a, b, c, d] with
      | some c => doubleQuoted? (c :: acc) cs
      | none => none
  | '\\' :: 'U' :: a :: b :: c :: d :: e :: f :: g :: h :: cs =>
      match hexChar? [a, b, c, d, e, f, g, h] with
      | some c => doubleQuoted? (c :: acc) cs
      | none => none
  | '\\' :: c :: cs =>
      match escapedChar? c with
      | some d => doubleQuoted? (d :: acc) cs
      | none => none
  | c :: cs => if isContent c then doubleQuoted? (c :: acc) cs else none

/-- A text in single quotes after the first one. -/
def singleQuoted? (acc : List Char) : List Char → Option (String × List Char)
  | [] => none
  | '\'' :: cs => some (String.ofList acc.reverse, cs)
  | c :: cs => if isContent c then singleQuoted? (c :: acc) cs else none

/-- Nothing but blanks comes before the end of the line. -/
def endsLine (cs : List Char) : Bool := (newline? (cs.dropWhile isGap)).isSome

/-- A text in three double quotes after them. Up to two more quotes at the end belong to the
text. A backslash at the end of a line takes all blanks and line breaks after it with it,
which is what `folding` says is going on. -/
def longDoubleQuoted? (folding : Bool) (acc : List Char) :
    List Char → Option (String × List Char)
  | [] => none
  | '"' :: '"' :: '"' :: '"' :: '"' :: cs =>
      some (String.ofList ('"' :: '"' :: acc).reverse, cs)
  | '"' :: '"' :: '"' :: '"' :: cs => some (String.ofList ('"' :: acc).reverse, cs)
  | '"' :: '"' :: '"' :: cs => some (String.ofList acc.reverse, cs)
  | '\r' :: '\n' :: cs =>
      longDoubleQuoted? folding (if folding then acc else '\n' :: '\r' :: acc) cs
  | '\n' :: cs => longDoubleQuoted? folding (if folding then acc else '\n' :: acc) cs
  | '\\' :: 'x' :: a :: b :: cs =>
      match hexChar? [a, b] with
      | some c => longDoubleQuoted? false (c :: acc) cs
      | none => none
  | '\\' :: 'u' :: a :: b :: c :: d :: cs =>
      match hexChar? [a, b, c, d] with
      | some c => longDoubleQuoted? false (c :: acc) cs
      | none => none
  | '\\' :: 'U' :: a :: b :: c :: d :: e :: f :: g :: h :: cs =>
      match hexChar? [a, b, c, d, e, f, g, h] with
      | some c => longDoubleQuoted? false (c :: acc) cs
      | none => none
  | '\\' :: c :: cs =>
      if c == '\n' || endsLine (c :: cs) then longDoubleQuoted? true acc cs
      else
        match escapedChar? c with
        | some d => longDoubleQuoted? false (d :: acc) cs
        | none => none
  | c :: cs =>
      if folding && isGap c then longDoubleQuoted? true acc cs
      else if isContent c then longDoubleQuoted? false (c :: acc) cs
      else none

/-- A text in three single quotes after them. -/
def longSingleQuoted? (acc : List Char) : List Char → Option (String × List Char)
  | [] => none
  | '\'' :: '\'' :: '\'' :: '\'' :: '\'' :: cs =>
      some (String.ofList ('\'' :: '\'' :: acc).reverse, cs)
  | '\'' :: '\'' :: '\'' :: '\'' :: cs => some (String.ofList ('\'' :: acc).reverse, cs)
  | '\'' :: '\'' :: '\'' :: cs => some (String.ofList acc.reverse, cs)
  | '\r' :: '\n' :: cs => longSingleQuoted? ('\n' :: '\r' :: acc) cs
  | '\n' :: cs => longSingleQuoted? ('\n' :: acc) cs
  | c :: cs => if isContent c then longSingleQuoted? (c :: acc) cs else none

/-- A text in quotes of any kind. A line break right after three quotes does not count. -/
def text? : List Char → Option (String × List Char)
  | '"' :: '"' :: '"' :: cs => longDoubleQuoted? false [] (dropNewline cs)
  | '\'' :: '\'' :: '\'' :: cs => longSingleQuoted? [] (dropNewline cs)
  | '"' :: cs => doubleQuoted? [] cs
  | '\'' :: cs => singleQuoted? [] cs
  | _ => none

end CiPipeline.Toml
