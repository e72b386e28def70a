import CiPipeline.Toml.Value

set_option autoImplicit false

/-! # Statements of TOML

A text is a list of lines, each of which is empty, sets a value, or is the header of a table
or of one more table in an array.
-/

namespace CiPipeline.Toml

/-- What a line says. -/
inductive Statement where
  | pair (path : List String) (value : Value)
  | table (path : List String)
  | element (path : List String)
  deriving Inhabited

/-- The path of a header up to the brackets at its end. -/
def header? (close : List Char) (cs : List Char) : Option (List String × List Char) := do
  let (path, rest) ← path? cs
  if close.isPrefixOf rest then some (path, rest.drop close.length) else none

/-- A statement at the front. -/
def statement? (cs : List Char) : Option (Statement × List Char) :=
  match cs with
  | '[' :: '[' :: rest =>
      (header? [']', ']'] rest).map fun (path, rest) => (.element path, rest)
  | '[' :: rest => (header? [']'] rest).map fun (path, rest) => (.table path, rest)
  | _ => (pair? cs).map fun (p, rest) => (.pair p.1 p.2, rest)

/-- After a comment that may end a line. -/
def finishLine? (cs : List Char) : Option (List Char) :=
  match cs.dropWhile isGap with
  | [] => some []
  | '#' :: rest => comment? rest
  | rest => if (newline? rest).isSome then some rest else none

/-- The statements of a text; there is more `fuel` than there are characters. -/
def statements? : (fuel : Nat) → List Char → Option (List Statement)
  | 0, _ => none
  | fuel + 1, cs => do
      match ← skipLines? fuel cs with
      | [] => some []
      | cs => do
          let (s, rest) ← statement? cs
          let ss ← statements? fuel (← finishLine? rest)
          some (s :: ss)

end CiPipeline.Toml
