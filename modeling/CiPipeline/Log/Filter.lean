import CiPipeline.Log.Directive

set_option autoImplicit false

/-! # Log filters

A filter is a list of directives, separated by commas. Of those that are about an entry the
most specific one decides, and the last of several that are about the same entries. An entry
that no directive is about is not shown.
-/

namespace CiPipeline.Log

/-- A list of directives. -/
abbrev Filter := List Directive

namespace Filter

/-- The directive that decides about an entry. -/
def decisive (f : Filter) (e : Entry) : Option Directive :=
  f.foldl (fun best d => if d.applies e ∧ best.all (·.yieldsTo d) then some d else best) none

/-- The entry is shown. -/
def admits (f : Filter) (e : Entry) : Bool := (f.decisive e).any (·.shows e)

/-- The texts between commas. -/
def pieces : List Char → List (List Char)
  | [] => [[]]
  | ',' :: cs => [] :: pieces cs
  | c :: cs =>
      match pieces cs with
      | p :: ps => (c :: p) :: ps
      | [] => [[c]]

/-- The filter of a text. One without directives shows errors. -/
def ofText (s : String) : Except FilterFault Filter :=
  match (pieces s.toList).filter (!·.isEmpty) with
  | [] => .ok [.ofTarget none (some .error)]
  | ps => ps.mapM Directive.ofChars

/-- The targets of the program. -/
def ownTargets : List String :=
  ["cicd", "cicd_cli", "cicd_component", "cicd_pipeline", "cicd_github", "cicd_gitlab"]

/-- What the program itself logs, up to a level. -/
def upTo (level : Level) : Filter := ownTargets.map fun t => .ofTarget (some t) (some level)

end Filter

end CiPipeline.Log
