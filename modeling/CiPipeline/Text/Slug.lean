import CiPipeline.Text.Blank
import CiPipeline.Text.Lowercase

set_option autoImplicit false

/-! # Slugs

A slug is the form of a display name used for job keys and file names: every run of blank
characters becomes one hyphen, at the edges too, and every other character its lower-case
form. Nothing else changes, so a slash or a dot of the name is still in the slug.
-/

namespace CiPipeline.Text

/-- The slug of the characters `cs`; `inRun` says that the character before them is blank,
so that a blank at the start belongs to a run that has its hyphen already. -/
def slugChars : (inRun : Bool) → (cs : List Char) → List Char
  | _, [] => []
  | inRun, c :: cs =>
      if isBlank c then
        if inRun then slugChars true cs else '-' :: slugChars true cs
      else lower c ++ slugChars false cs

/-- The slug of a display name. -/
def slugify (name : String) : String := String.ofList (slugChars false name.toList)

end CiPipeline.Text
