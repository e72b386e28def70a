import CiPipeline.Number.Decimal
import CiPipeline.Yaml.Cursor
import CiPipeline.Yaml.Token

set_option autoImplicit false

/-! # Anchors, tags and directives -/

namespace CiPipeline.Yaml

/-- The letters, digits, hyphens and underscores. -/
def isWordChar (c : Char) : Bool := c.isAlphanum || c == '_' || c == '-'

/-- The characters of a word at the front, and the rest. -/
def spanWord (cs : List Char) : List Char × List Char := cs.span isWordChar

/-- The name of an anchor, after its sign. -/
def anchorName? (cs : List Char) : Option (String × List Char) :=
  let (name, rest) := spanWord cs
  let ends := Cursor.atBlank rest
    || (rest.head?.map ['?', ':', ',', ']', '\x7d', '%', '@', '\x60'].contains) == some true
  if name.isEmpty || !ends then none else some (String.ofList name, rest)

/-! ## Tags -/

/-- The characters of a tag. -/
def isTagChar (c : Char) : Bool :=
  isWordChar c || [';', '/', '?', ':', '@', '&', '=', '+', '$', '.', '!', '~', '*', '\'', '(',
    ')'].contains c

/-- How many bytes a character has that starts with the byte `n`. -/
def leadWidth? (n : Nat) : Option Nat :=
  if n < 0x80 then some 1
  else if 0xC0 ≤ n && n < 0xE0 then some 2
  else if 0xE0 ≤ n && n < 0xF0 then some 3
  else if 0xF0 ≤ n && n < 0xF8 then some 4
  else none

/-- The characters of a tag at the front, as bytes, of which `pending` more belong to a
character written as escapes; `wide` says that the brackets of lists and the comma count. -/
def tagBytes? (wide : Bool) (pending : Nat) (acc : List UInt8) :
    List Char → Option (List UInt8 × List Char)
  | '%' :: a :: b :: cs =>
      match Number.ofDigits? 16 [a, b] with
      | none => none
      | some n =>
          if pending = 0 then
            match leadWidth? n with
            | none => none
            | some width => tagBytes? wide (width - 1) (acc ++ [n.toUInt8]) cs
          else if 0x80 ≤ n && n < 0xC0 then
            tagBytes? wide (pending - 1) (acc ++ [n.toUInt8]) cs
          else none
  | cs =>
      match cs with
      | c :: rest =>
          if 0 < pending || c == '%' then none
          else if isTagChar c || (wide && [',', '[', ']'].contains c) then
            tagBytes? wide 0 (acc ++ [c.toNat.toUInt8]) rest
          else some (acc, cs)
      | [] => if 0 < pending then none else some (acc, [])

/-- The bytes of a tag at the front, of which there must be some. -/
def someTagBytes? (wide : Bool) (cs : List Char) : Option (Tag × List Char) :=
  (tagBytes? wide 0 [] cs).bind fun (bytes, rest) =>
    if bytes.isEmpty then none else some (.ofBytes bytes, rest)

/-- A handle: an exclamation mark, and a word that another one may follow. -/
def tagHandle? : List Char → Option (List Char × List Char)
  | '!' :: cs =>
      let (name, rest) := spanWord cs
      match rest with
      | '!' :: rest => some ('!' :: name ++ ['!'], rest)
      | _ => some ('!' :: name, rest)
  | _ => none

/-- The handle is set off by a second exclamation mark. -/
def isClosedHandle (handle : List Char) : Bool :=
  decide (1 < handle.length) && handle.getLast? == some '!'

/-- A tag as its handle and suffix: in angle brackets, after a handle, or a local name. The
single exclamation mark is a suffix. -/
def tag? (cs : List Char) : Option (Token × List Char) :=
  match cs with
  | '!' :: '<' :: cs => do
      let (suffix, rest) ← someTagBytes? true cs
      match rest with
      | '>' :: rest => some (.tag "" suffix, rest)
      | _ => none
  | _ => do
      let (handle, rest) ← tagHandle? cs
      if isClosedHandle handle then
        let (suffix, rest) ← someTagBytes? false rest
        some (.tag (String.ofList handle) suffix, rest)
      else
        let (bytes, rest) ← tagBytes? false 0 (handle.tail.map (·.toNat.toUInt8)) rest
        let suffix := Tag.ofBytes bytes
        if suffix.isEmpty then some (.tag "" .mark, rest) else some (.tag "!" suffix, rest)

/-! ## Directives -/

/-- A number of a version: at most nine digits. -/
def versionNumber? (cs : List Char) : Option (Nat × List Char) :=
  let (digits, rest) := cs.span (·.isDigit)
  if 9 < digits.length then none else (Number.ofDigits? 10 digits).map fun n => (n, rest)

/-- What follows the name of a directive in its line. -/
def directiveValue? (name : List Char) (cs : List Char) : Option (Token × List Char) :=
  let cs := cs.dropWhile isGap
  if name = "YAML".toList then do
    let (major, rest) ← versionNumber? cs
    match rest with
    | '.' :: rest => do
        let (minor, rest) ← versionNumber? rest
        some (.versionDirective major minor, rest)
    | _ => none
  else if name = "TAG".toList then do
    let (handle, rest) ← tagHandle? cs
    if handle ≠ ['!'] && !isClosedHandle handle then none
    else if (rest.head?.map isGap) != some true then none
    else
      let (lead, rest) ← someTagBytes? true (rest.dropWhile isGap)
      if !Cursor.atBlank rest then none
      else some (.tagDirective (String.ofList handle) lead, rest)
  else none

/-- A directive, after its sign, with its whole line. -/
def directive? (k : Cursor) : Option (Token × Cursor) := do
  let (name, rest) := spanWord k.rest
  if name.isEmpty || !Cursor.atBlank rest then none
  else
    let (token, rest) ← directiveValue? name rest
    let k ← (k.upTo rest).finishLine?
    some (token, k)

end CiPipeline.Yaml
