import CiPipeline.Number.Decimal
import CiPipeline.Yaml.Cursor

set_option autoImplicit false

/-! # Plain and quoted scalars

Scalars that may run over several lines. The blanks and breaks between two words are a gap:
within a line its blanks are kept, and across lines they are dropped and the breaks folded,
a single line feed into a space.
-/

namespace CiPipeline.Yaml

/-- What stands between two words: nothing, blanks, or line breaks, the first of which is
told apart. The first one is empty if it has been escaped. The blanks, and the breaks after
the first, are kept in reverse. -/
inductive Gap where
  | none
  | blanks (cs : List Char)
  | breaks (first : List Char) (more : List Char)

namespace Gap

/-- One more blank or break. -/
def add (c : Char) : Gap → Gap
  | none => if isBreak c then breaks [c] [] else blanks [c]
  | blanks cs => if isBreak c then breaks [c] [] else blanks (c :: cs)
  | breaks first more => if isBreak c then breaks first (c :: more) else breaks first more

/-- What a gap stands for, in reverse. -/
def foldReverse : Gap → List Char
  | none => []
  | blanks cs => cs
  | breaks first more =>
      if first = ['\n'] then if more.isEmpty then [' '] else more else more ++ first

/-- The gap runs over the end of a line. -/
def isMultiline : Gap → Bool
  | breaks _ _ => true
  | _ => false

/-- There is no gap. -/
def isNone : Gap → Bool
  | none => true
  | _ => false

end Gap

/-- The brackets and the comma, which end plain text between brackets. -/
def isFlowIndicator (c : Char) : Bool := [',', '[', ']', '\x7b', '\x7d'].contains c

/-! ## Plain scalars -/

/-- A plain scalar: its text, whether it was followed by the end of its line, and what comes
after that. -/
structure PlainText where
  text : List Char
  endsLine : Bool
  rest : Cursor

/-- The rest of a plain scalar with the text `acc` before the gap, in reverse; `none` if it
is malformed. `inFlow` says that it stands between brackets, and `indent` how far it must
at least be indented if not. -/
def plainText? (inFlow : Bool) (indent : Nat) (acc : List Char) (gap : Gap) (m : Mark) :
    List Char → Option PlainText
  | [] => some ⟨acc.reverse, gap.isMultiline, ⟨m, []⟩⟩
  | c :: cs =>
      let done (_ : Unit) : Option PlainText := some ⟨acc.reverse, gap.isMultiline, ⟨m, c :: cs⟩⟩
      if isGap c || isBreak c then
        if gap.isMultiline && m.column < indent && c == '\t' then none
        else plainText? inFlow indent acc (gap.add c) (m.after c) cs
      else if !gap.isNone && !inFlow && m.column < indent then done ()
      else if m.column == 0 && Cursor.atDocumentMarker (c :: cs) then done ()
      else if !gap.isNone && c == '#' then done ()
      else if inFlow && c == ':' && (cs.head?.map fun d => isFlowIndicator d || d == '?') == some true
        then none
      else if c == ':' && Cursor.atBlank cs then done ()
      else if inFlow && isFlowIndicator c then done ()
      else plainText? inFlow indent (c :: (gap.foldReverse ++ acc)) .none (m.after c) cs

/-! ## Quoted scalars -/

/-- The rest of a single-quoted scalar, with the text before the gap in reverse. -/
def singleQuoted? (acc : List Char) (gap : Gap) (m : Mark) :
    List Char → Option (List Char × Cursor)
  | [] => none
  | '\'' :: '\'' :: cs =>
      singleQuoted? ('\'' :: (gap.foldReverse ++ acc)) .none
        ((m.after '\'').after '\'') cs
  | c :: cs =>
      if isGap c || isBreak c then singleQuoted? acc (gap.add c) (m.after c) cs
      else if m.column == 0 && Cursor.atDocumentMarker (c :: cs) then none
      else if c == '\'' then some ((gap.foldReverse ++ acc).reverse, ⟨m.after c, cs⟩)
      else singleQuoted? (c :: (gap.foldReverse ++ acc)) .none (m.after c) cs

/-- The character for a letter after a backslash. -/
def escapedChar? (c : Char) : Option Char :=
  [('0', '\x00'), ('a', '\x07'), ('b', '\x08'), ('t', '\t'), ('\t', '\t'), ('n', '\n'),
    ('v', '\x0b'), ('f', '\x0c'), ('r', '\r'), ('e', '\x1b'), (' ', ' '), ('"', '"'),
    ('/', '/'), ('\\', '\\'), ('N', '\u0085'), ('_', '\u00a0'), ('L', '\u2028'),
    ('P', '\u2029')].lookup c

/-- The character with a number written in hexadecimal. -/
def hexChar? (digits : List Char) : Option Char :=
  match Number.ofDigits? 16 digits with
  | some n => if n.isValidChar then some (Char.ofNat n) else none
  | none => none

/-- The rest of a double-quoted scalar, with the text before the gap in reverse. -/
def doubleQuoted? (acc : List Char) (gap : Gap) (m : Mark) :
    List Char → Option (List Char × Cursor)
  | [] => none
  | '\\' :: 'x' :: a :: b :: cs =>
      match hexChar? [a, b] with
      | some c => doubleQuoted? (c :: (gap.foldReverse ++ acc)) .none (m.forward 4) cs
      | none => none
  | '\\' :: 'u' :: a :: b :: c :: d :: cs =>
      match hexChar? [a, b, c, d] with
      | some c => doubleQuoted? (c :: (gap.foldReverse ++ acc)) .none (m.forward 6) cs
      | none => none
  | '\\' :: 'U' :: a :: b :: c :: d :: e :: f :: g :: h :: cs =>
      match hexChar? [a, b, c, d, e, f, g, h] with
      | some c => doubleQuoted? (c :: (gap.foldReverse ++ acc)) .none (m.forward 10) cs
      | none => none
  | '\\' :: c :: cs =>
      if isBreak c then
        doubleQuoted? (gap.foldReverse ++ acc) (.breaks [] []) ((m.after '\\').after c) cs
      else
        match escapedChar? c with
        | some d => doubleQuoted? (d :: (gap.foldReverse ++ acc)) .none (m.forward 2) cs
        | none => none
  | c :: cs =>
      if isGap c || isBreak c then doubleQuoted? acc (gap.add c) (m.after c) cs
      else if m.column == 0 && Cursor.atDocumentMarker (c :: cs) then none
      else if c == '"' then some ((gap.foldReverse ++ acc).reverse, ⟨m.after c, cs⟩)
      else doubleQuoted? (c :: (gap.foldReverse ++ acc)) .none (m.after c) cs

end CiPipeline.Yaml
