import CiPipeline.Tree
import CiPipeline.Yaml.Style

set_option autoImplicit false

/-! # Writing YAML

The text of a tree in block style. Entries of a map stand below each other, and so do the
items of a list; what is inside them is indented by two more columns, but the items of a
list stand directly below the key that they belong to. Empty lists and maps are brackets.

Every node is written up to the end of its last line.
-/

namespace CiPipeline.Yaml

/-- The columns by which inner nodes are indented. -/
def indentStep : Nat := 2

def pad (n : Nat) : List Char := List.replicate n ' '

/-! ## Scalars -/

/-- The digits of `n` in capital hexadecimal, padded to a width. -/
def hexPadded (width n : Nat) : List Char :=
  let digits := (Nat.toDigits 16 n).map Char.toUpper
  List.replicate (width - digits.length) '0' ++ digits

/-- The letter that stands for a character after a backslash, if it has one. -/
def escapeLetter? (n : Nat) : Option Char :=
  [(0x00, '0'), (0x07, 'a'), (0x08, 'b'), (0x09, 't'), (0x0A, 'n'), (0x0B, 'v'), (0x0C, 'f'),
    (0x0D, 'r'), (0x1B, 'e'), (0x22, '"'), (0x5C, '\\'), (0x85, 'N'), (0xA0, '_'),
    (0x2028, 'L'), (0x2029, 'P')].lookup n

/-- A character as an escape. -/
def escape (c : Char) : List Char :=
  match escapeLetter? c.toNat with
  | some letter => ['\\', letter]
  | none =>
      if c.toNat ≤ 0xFF then ['\\', 'x'] ++ hexPadded 2 c.toNat
      else if c.toNat ≤ 0xFFFF then ['\\', 'u'] ++ hexPadded 4 c.toNat
      else ['\\', 'U'] ++ hexPadded 8 c.toNat

/-- A character in double quotes. -/
def doubleQuotedChar (c : Char) : List Char :=
  if !isPrintable c || isBreak c || c == '"' || c == '\\' then escape c else [c]

/-- Characters in lines, of which those after the first are indented by `n` columns;
`fresh` says that a line has just ended. Each character is written by `char`. -/
def indentLines (n : Nat) (char : Char → List Char) : (fresh : Bool) → List Char → List Char
  | _, [] => []
  | fresh, c :: cs =>
      if isBreak c then c :: indentLines n char true cs
      else (if fresh then pad n else []) ++ char c ++ indentLines n char false cs

/-- The last character ends a line. -/
def endsLine (cs : List Char) : Bool := (cs.getLast?.map isBreak).getD false

/-- A character in single quotes. -/
def singleQuotedChar (c : Char) : List Char := if c = '\'' then ['\'', '\''] else [c]

/-- The sign before a block that says what becomes of the line breaks at its end: all but
the first are kept, only one is there, or none. -/
def chomping (cs : List Char) : List Char :=
  match cs.reverse with
  | [] => ['-']
  | [c] => if isBreak c then ['+'] else ['-']
  | c :: d :: _ => if isBreak c then if isBreak d then ['+'] else [] else ['-']

/-- The sign before a block that says how far it is indented, where that cannot be seen. -/
def indentHint (cs : List Char) : List Char :=
  match cs with
  | c :: _ => if c = ' ' || isBreak c then Nat.toDigits 10 indentStep else []
  | [] => []

/-- A text up to the end of its last line, with lines after the first indented by `n`. -/
def scalarLines (n : Nat) (s : String) : List Char :=
  let cs := s.toList
  match styleOf s with
  | .singleQuoted =>
      ['\''] ++ indentLines n singleQuotedChar false cs
        ++ (if endsLine cs then pad n else []) ++ ['\'', '\n']
  | .doubleQuoted => ['"'] ++ cs.flatMap doubleQuotedChar ++ ['"', '\n']
  | .literal =>
      ['|'] ++ indentHint cs ++ chomping cs ++ ['\n'] ++ indentLines n (fun c => [c]) true cs
        ++ (if endsLine cs then [] else ['\n'])
  | .plain | .folded => cs ++ ['\n']

/-- A key in its line, without an end of the line. -/
def keyText (s : String) : List Char := (scalarLines 0 s).dropLast

/-- A key that does not fit before a colon in one line. -/
def isLongKey (s : String) : Bool := decide (128 < s.utf8ByteSize) || s.toList.any isBreak

/-- A floating point number: infinity and what is no number have words of their own. -/
def floatText : Number.Binary64 → String
  | .nan => ".nan"
  | .infinite negative => if negative then "-.inf" else ".inf"
  | x => x.briefText toString

/-! ## Nodes -/

/-- Where a node is written. -/
inductive Place where
  /-- at the start of the text -/
  | root
  /-- after the key of a map indented by `n` -/
  | afterKey (n : Nat)
  /-- after the mark of an item or of a long key indented by `n` -/
  | afterMark (n : Nat)

namespace Place

/-- What stands before a node that fits into the line. -/
def lead : Place → List Char
  | root => []
  | _ => [' ']

/-- How far the lines of a text are indented. -/
def textIndent : Place → Nat
  | root => indentStep
  | afterKey n | afterMark n => n + indentStep

/-- How far the items of a list are indented. -/
def itemIndent : Place → Nat
  | root => 0
  | afterKey n => n
  | afterMark n => n + indentStep

/-- How far the entries of a map are indented. -/
def entryIndent : Place → Nat
  | root => 0
  | afterKey n | afterMark n => n + indentStep

/-- What stands before the first of several lines, indented by `n`. -/
def start (n : Nat) : Place → List Char
  | root => []
  | afterKey _ => '\n' :: pad n
  | afterMark _ => [' ']

end Place

mutual

/-- A node up to the end of its last line. -/
def nodeLines (place : Place) : Tree → List Char
  | .null => place.lead ++ "null\n".toList
  | .bool b => place.lead ++ (if b then "true\n" else "false\n").toList
  | .int n => place.lead ++ (toString n).toList ++ ['\n']
  | .float x => place.lead ++ (floatText x).toList ++ ['\n']
  | .str s => place.lead ++ scalarLines place.textIndent s
  | .list [] => place.lead ++ "[]\n".toList
  | .list (t :: ts) =>
      let n := place.itemIndent
      place.start n ++ ['-'] ++ nodeLines (.afterMark n) t ++ itemLines n ts
  | .map [] => place.lead ++ "\x7b\x7d\n".toList
  | .map (e :: es) =>
      let n := place.entryIndent
      place.start n ++ entryLines n e ++ entriesLines n es

/-- The items of a list after the first. -/
def itemLines (n : Nat) : List Tree → List Char
  | [] => []
  | t :: ts => pad n ++ ['-'] ++ nodeLines (.afterMark n) t ++ itemLines n ts

/-- An entry of a map, from the column of its key. -/
def entryLines (n : Nat) : String × Tree → List Char
  | (key, value) =>
      if isLongKey key then
        ['?', ' '] ++ scalarLines (n + indentStep) key
          ++ pad n ++ [':'] ++ nodeLines (.afterMark n) value
      else keyText key ++ [':'] ++ nodeLines (.afterKey n) value

/-- The entries of a map after the first. -/
def entriesLines (n : Nat) : List (String × Tree) → List Char
  | [] => []
  | e :: es => pad n ++ entryLines n e ++ entriesLines n es

end

/-- The text of a tree. -/
def write (t : Tree) : String := String.ofList (nodeLines .root t)

end CiPipeline.Yaml
