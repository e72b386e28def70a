set_option autoImplicit false

/-! # Paths

File paths as text with `/` between the components. Reading a path off its text follows the
usual rules: repeated slashes count once, and a `.` component says nothing unless it comes
first. The text itself is kept, because that is what is shown.
-/

namespace CiPipeline

/-- A file path. -/
structure Path where
  text : String
  deriving DecidableEq, Inhabited

namespace Path

/-- A part of a path between slashes. -/
inductive Component where
  | root
  | current
  | parent
  | name (s : String)
  deriving DecidableEq, Inhabited

/-- The characters between slashes; one empty piece for the empty text. -/
def pieces : List Char → List (List Char)
  | [] => [[]]
  | '/' :: cs => [] :: pieces cs
  | c :: cs =>
      match pieces cs with
      | p :: ps => (c :: p) :: ps
      | [] => [[c]]

/-- The pieces that are neither empty nor a single dot, as components. -/
def components (p : Path) : List Component :=
  let ps := pieces p.text.toList
  let named := (ps.filter fun s => s ≠ [] ∧ s ≠ ['.']).map fun s =>
    if s = ['.', '.'] then Component.parent else Component.name (String.ofList s)
  match ps with
  | [] => named
  | [] :: _ :: _ => .root :: named
  | s :: _ => if s = ['.'] then .current :: named else named

/-- The path starts at the root of the file system. -/
def isAbsolute (p : Path) : Bool := p.text.toList.head? == some '/'

/-- The path `rel` seen from the directory `base`; an absolute path stays what it is. -/
def join (base rel : Path) : Path :=
  if rel.isAbsolute then rel
  else if base.text.toList.getLast? = none ∨ base.text.toList.getLast? = some '/' then
    ⟨base.text ++ rel.text⟩
  else ⟨base.text ++ "/" ++ rel.text⟩

/-- Pieces from the end of a path, without those at the front that say nothing. The last
piece of the list is the first of the path, where a dot does count. -/
def dropSilent : List (List Char) → List (List Char)
  | [] => []
  | [p] => if p = [] then [] else [p]
  | p :: q :: ps => if p = [] ∨ p = ['.'] then dropSilent (q :: ps) else p :: q :: ps

/-- The path without its last component; `none` if it has no component but the root. -/
def parent? (p : Path) : Option Path :=
  match dropSilent (pieces p.text.toList).reverse with
  | [] => none
  | _ :: rest =>
      let text := ['/'].intercalate (dropSilent rest).reverse
      some ⟨String.ofList (if p.isAbsolute && text.isEmpty then ['/'] else text)⟩

/-- The path, its parent, the parent of that, and so on. Every step makes the text shorter,
so its length bounds their number. -/
def ancestors (p : Path) : List Path := climb p.text.length p
where
  climb : Nat → Path → List Path
    | 0, p => [p]
    | n + 1, p =>
        match p.parent? with
        | some q => p :: climb n q
        | none => [p]

/-- The last component, if it is a name. -/
def fileName? (p : Path) : Option String :=
  match p.components.getLast? with
  | some (.name s) => some s
  | _ => none

/-- What follows the last dot of the file name, unless that dot comes first. -/
def extension? (p : Path) : Option String :=
  match p.fileName? with
  | none => none
  | some s =>
      let suffix := s.toList.reverse.takeWhile (· ≠ '.')
      if suffix.length + 1 < s.toList.length then some (String.ofList suffix.reverse) else none

/-- The path stays below the directory it is seen from: it is not absolute and has no `..`. -/
def isContained (p : Path) : Bool :=
  p.components.all fun
    | .current | .name _ => true
    | .root | .parent => false

end Path

end CiPipeline
