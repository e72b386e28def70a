import CiPipeline.Yaml.Character

set_option autoImplicit false

/-! # Cursors

A place in a text together with what follows it. All line breaks but the line and paragraph
separators are line feeds, which is what `unifyBreaks` makes them.
-/

namespace CiPipeline.Yaml

/-- The characters with every line break a single line feed; the separators of lines and
paragraphs stay what they are. -/
def unifyBreaks : List Char → List Char
  | [] => []
  | '\r' :: '\n' :: cs => '\n' :: unifyBreaks cs
  | c :: cs => (if c = '\r' || c.toNat = 0x85 then '\n' else c) :: unifyBreaks cs

/-- A place in a text: the bytes before it, the lines before it, and the characters before it
in its line. -/
structure Mark where
  index : Nat
  line : Nat
  column : Nat
  deriving DecidableEq, Inhabited

namespace Mark

/-- The place after a character. -/
def after (m : Mark) (c : Char) : Mark :=
  if isBreak c then ⟨m.index + c.utf8Size, m.line + 1, 0⟩
  else ⟨m.index + c.utf8Size, m.line, m.column + 1⟩

/-- The place after `n` characters of one byte within a line. -/
def forward (m : Mark) (n : Nat) : Mark := ⟨m.index + n, m.line, m.column + n⟩

end Mark

/-- A place with the text after it. -/
structure Cursor where
  mark : Mark
  rest : List Char
  deriving Inhabited

namespace Cursor

/-- The cursor before a text. -/
def ofText (cs : List Char) : Cursor := ⟨⟨0, 0, 0⟩, cs⟩

/-- The cursor after `n` characters. -/
def drop : (n : Nat) → Cursor → Cursor
  | 0, k => k
  | n + 1, k =>
      match k.rest with
      | [] => k
      | c :: cs => drop n ⟨k.mark.after c, cs⟩

/-- The cursor before `rest`, which is some end of its text. -/
def upTo (k : Cursor) (rest : List Char) : Cursor := k.drop (k.rest.length - rest.length)

/-- The cursor after the characters of a kind. -/
def skipWhile (p : Char → Bool) (k : Cursor) : Cursor := k.drop (k.rest.takeWhile p).length

/-- The cursor after a byte order mark at the start of a line, if there is one. -/
def dropByteOrderMark (k : Cursor) : Cursor :=
  if k.mark.column = 0 ∧ k.rest.head? = some '\ufeff' then k.drop 1 else k

/-- The character at the place is a blank, a break, or missing. -/
def atBlank : List Char → Bool
  | [] => true
  | c :: _ => isGap c || isBreak c

/-- The text goes on with the marker of a document, which stands alone. -/
def atDocumentMarker : List Char → Bool
  | '-' :: '-' :: '-' :: cs => atBlank cs
  | '.' :: '.' :: '.' :: cs => atBlank cs
  | _ => false

/-- The end of the text or of a line. -/
def atLineEnd : List Char → Bool
  | [] => true
  | c :: _ => isBreak c

/-- After the blanks and the comment at the end of a line, if there is nothing else, and
after the line break. -/
def finishLine? (k : Cursor) : Option Cursor :=
  let k := k.skipWhile isGap
  let k := match k.rest with
    | '#' :: _ => k.skipWhile fun c => !isBreak c
    | _ => k
  if atLineEnd k.rest then some (k.drop 1) else none

end Cursor

end CiPipeline.Yaml
