import CiPipeline.Yaml.Character
import CiPipeline.Yaml.Scalar

set_option autoImplicit false

/-! # The style of a written text

A text of several lines is written as a literal block if that is possible. Any other text is
written plainly if it then reads back as the text that it is, and in single quotes if not.
What neither a block nor single quotes can hold is written in double quotes with escapes.
-/

namespace CiPipeline.Yaml

/-- The characters with those that follow them. -/
def pairs (cs : List Char) : List (Char × Char) := cs.zip cs.tail

/-- The characters that plain text cannot start with. -/
def indicators : List Char :=
  ['#', ',', '[', ']', '\x7b', '\x7d', '&', '*', '!', '|', '>', '\'', '"', '%', '@', '\x60']

/-- The start of plain text can be told from a marker of the surrounding structure. -/
def startsPlainly : List Char → Bool
  | '-' :: '-' :: '-' :: _ => false
  | '.' :: '.' :: '.' :: _ => false
  | [c] => !(indicators.contains c || [' ', '-', '?', ':'].contains c)
  | c :: d :: _ =>
      !(indicators.contains c || c == ' ' || (['-', '?', ':'].contains c && d == ' '))
  | [] => false

/-- The characters can be written plainly. -/
def fitsPlain (cs : List Char) : Bool :=
  startsPlainly cs
    && cs.all (fun c => isPrintable c && !isBreak c)
    && (pairs cs).all (fun p => p != (':', ' ') && p != (' ', '#'))
    && cs.getLast? != some ':' && cs.getLast? != some ' '

/-- No line ends in a space, and every character is printable. -/
def fitsLines (cs : List Char) : Bool :=
  cs.all isPrintable && (pairs cs).all (fun p => !(p.1 == ' ' && isBreak p.2))

/-- The characters can be written in single quotes. -/
def fitsSingleQuotes (cs : List Char) : Bool :=
  fitsLines cs && (pairs cs).all (fun p => !(isBreak p.1 && p.2 == ' '))

/-- The characters can be written as a block. -/
def fitsBlock (cs : List Char) : Bool := fitsLines cs && cs.getLast? != some ' '

/-- Plain text of this form is text and does not look like a number either. -/
def readsAsText (s : String) : Bool :=
  match plainAtom? s with
  | some (.str _) => !isZeroLed s.toList
  | _ => false

/-- The style in which a text is written. -/
def styleOf (s : String) : ScalarStyle :=
  let cs := s.toList
  if cs.contains '\n' then if fitsBlock cs then .literal else .doubleQuoted
  else if readsAsText s && fitsPlain cs then .plain
  else if fitsSingleQuotes cs then .singleQuoted
  else .doubleQuoted

end CiPipeline.Yaml
