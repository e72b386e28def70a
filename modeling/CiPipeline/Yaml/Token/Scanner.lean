import CiPipeline.Yaml.Token.Block
import CiPipeline.Yaml.Token.Flow
import CiPipeline.Yaml.Token.Property

set_option autoImplicit false

/-! # From text to tokens

A text is taken apart from left to right. What makes this more than a walk is that a simple
key is only known as a key when the colon after it is reached; the tokens that announce it
are then put in front of it. So the place of a possible key is kept for every level of
brackets. A possible key is given up at the end of its line, or after 1024 bytes; it is an
error to give up one that the indentation asks for.
-/

namespace CiPipeline.Yaml

/-- A place where a simple key may have started: the number of its first token, where it is,
and whether nothing but a key can be there. -/
structure KeyPlace where
  token : Nat
  mark : Mark
  required : Bool

/-- The state between two tokens: what follows, the tokens so far, the indentation and those
around it, the possible keys of all levels of brackets with the innermost first, and whether
a simple key may start here. -/
structure Scanner where
  cursor : Cursor
  tokens : Array Token
  indent : Int
  outer : List Int
  keys : List (Option KeyPlace)
  keyAllowed : Bool

namespace Scanner

/-- Before a text. -/
def ofText (cs : List Char) : Scanner :=
  { cursor := .ofText cs, tokens := #[], indent := -1, outer := [], keys := [none],
    keyAllowed := true }

/-- Inside brackets. -/
def inFlow (s : Scanner) : Bool :=
  match s.keys with
  | _ :: _ :: _ => true
  | _ => false

/-- One more token. -/
def emit (s : Scanner) (t : Token) : Scanner := { s with tokens := s.tokens.push t }

/-- A token and the characters that it is made of. -/
def take (s : Scanner) (t : Token) (n : Nat) : Scanner :=
  { s.emit t with cursor := s.cursor.drop n }

/-! ## Indentation -/

/-- Block collections that the column is too small for have ended. -/
def unroll (s : Scanner) (column : Int) : Scanner :=
  if s.inFlow then s
  else
    let open_ := s.indent :: s.outer
    let ended := (open_.takeWhile fun n => column < n).length
    match open_.drop ended with
    | n :: outer =>
        { s with
          indent := n, outer := outer,
          tokens := s.tokens ++ Array.replicate ended Token.blockEnd }
    | [] => s

/-- A block collection that is indented further than the one around it has started at the
token with the given number. -/
def roll (s : Scanner) (column : Nat) (place : Nat) (t : Token) : Scanner :=
  if s.inFlow || (column : Int) ≤ s.indent then s
  else
    { s with
      indent := column, outer := s.indent :: s.outer,
      tokens := s.tokens.insertIdxIfInBounds place t }

/-! ## Possible keys -/

/-- A key that was possible is none; `none` if it had to be one. -/
def giveUp? : Option KeyPlace → Option Unit
  | some k => if k.required then none else some ()
  | none => some ()

/-- A possible key is too long ago. -/
def isStale (m : Mark) (k : KeyPlace) : Bool :=
  decide (k.mark.line < m.line) || decide (k.mark.index + 1024 < m.index)

/-- Gives up the keys that are too long ago. -/
def dropStale? (s : Scanner) : Option Scanner := do
  let keys ← s.keys.mapM fun key =>
    match key with
    | some k =>
        if isStale s.cursor.mark k then if k.required then none else some none
        else some (some k)
    | none => some none
  pure { s with keys := keys }

/-- Gives up the key of this level. -/
def dropKey? (s : Scanner) : Option Scanner :=
  match s.keys with
  | key :: keys => (giveUp? key).map fun _ => { s with keys := none :: keys }
  | [] => some s

/-- A simple key may start here. -/
def saveKey? (s : Scanner) : Option Scanner :=
  if !s.keyAllowed then some s
  else do
    let s ← s.dropKey?
    let m := s.cursor.mark
    let key : KeyPlace := ⟨s.tokens.size, m, !s.inFlow && s.indent == (m.column : Int)⟩
    pure { s with keys := some key :: s.keys.tail }

/-! ## Tokens -/

/-- After blanks, comments and line breaks. A tab counts as a blank only where no key may
start. A byte order mark at the start of a line says nothing, but it has its column. -/
def skipToToken : (fuel : Nat) → Scanner → Scanner
  | 0, s => s
  | fuel + 1, s =>
      let tabs := s.inFlow || !s.keyAllowed
      let k := s.cursor.dropByteOrderMark.skipWhile fun c => c == ' ' || (tabs && c == '\t')
      let k := match k.rest with
        | '#' :: _ => k.skipWhile fun c => !isBreak c
        | _ => k
      match k.rest with
      | c :: _ =>
          if isBreak c then
            skipToToken fuel
              { s with cursor := k.drop 1, keyAllowed := s.keyAllowed || !s.inFlow }
          else { s with cursor := k }
      | [] => { s with cursor := k }

/-- The end of the text, with all block collections ended. -/
def finish? (s : Scanner) : Option Scanner := (s.unroll (-1)).dropKey?

/-- The start of a line that belongs to no collection. -/
def outdent? (s : Scanner) : Option Scanner := do
  let s ← (s.unroll (-1)).dropKey?
  pure { s with keyAllowed := false }

/-- An opening bracket. -/
def openBracket? (s : Scanner) (t : Token) : Option Scanner := do
  let s ← s.saveKey?
  pure ({ s with keys := none :: s.keys, keyAllowed := true }.take t 1)

/-- A closing bracket. -/
def closeBracket? (s : Scanner) (t : Token) : Option Scanner := do
  let s ← s.dropKey?
  let keys := if s.inFlow then s.keys.tail else s.keys
  pure ({ s with keys := keys, keyAllowed := false }.take t 1)

/-- A comma. -/
def comma? (s : Scanner) : Option Scanner := do
  let s ← s.dropKey?
  pure ({ s with keyAllowed := true }.take .flowEntry 1)

/-- The sign of an item. -/
def item? (s : Scanner) : Option Scanner :=
  if !s.inFlow && !s.keyAllowed then none
  else do
    let s := s.roll s.cursor.mark.column s.tokens.size .blockSequenceStart
    let s ← s.dropKey?
    pure ({ s with keyAllowed := true }.take .blockEntry 1)

/-- The sign of a key. -/
def key? (s : Scanner) : Option Scanner :=
  if !s.inFlow && !s.keyAllowed then none
  else do
    let s := s.roll s.cursor.mark.column s.tokens.size .blockMappingStart
    let s ← s.dropKey?
    pure ({ s with keyAllowed := !s.inFlow }.take .key 1)

/-- The sign of a value: after a simple key, whose token is put in front of it, or after a
key with a sign of its own. -/
def value? (s : Scanner) : Option Scanner :=
  match s.keys with
  | some k :: keys =>
      let s := { s with tokens := s.tokens.insertIdxIfInBounds k.token .key }
      let s := s.roll k.mark.column k.token .blockMappingStart
      some ({ s with keys := none :: keys, keyAllowed := false }.take .value 1)
  | _ =>
      if !s.inFlow && !s.keyAllowed then none
      else
        let s := s.roll s.cursor.mark.column s.tokens.size .blockMappingStart
        some ({ s with keyAllowed := !s.inFlow }.take .value 1)

/-- A token of several characters, up to `rest`. -/
def upTo (s : Scanner) (t : Token) (rest : List Char) : Scanner :=
  { s.emit t with cursor := s.cursor.upTo rest }

/-- A reference, after its sign. -/
def reference? (s : Scanner) (cs : List Char) : Option Scanner := do
  let s ← s.saveKey?
  let (name, rest) ← anchorName? cs
  pure ({ s with keyAllowed := false }.upTo (.reference name) rest)

/-- An anchor, after its sign. -/
def anchor? (s : Scanner) (cs : List Char) : Option Scanner := do
  let s ← s.saveKey?
  let (name, rest) ← anchorName? cs
  pure ({ s with keyAllowed := false }.upTo (.anchor name) rest)

/-- A tag. -/
def taggedNode? (s : Scanner) : Option Scanner := do
  let s ← s.saveKey?
  let (t, rest) ← tag? s.cursor.rest
  if Cursor.atBlank rest || (s.inFlow && rest.head? == some ',') then
    pure ({ s with keyAllowed := false }.upTo t rest)
  else none

/-- A block scalar. -/
def block? (s : Scanner) (style : ScalarStyle) : Option Scanner := do
  let s ← s.dropKey?
  let (text, k) ← blockScalar? (style == .literal) s.indent (s.cursor.drop 1)
  pure { s.emit (.scalar (String.ofList text) style) with cursor := k, keyAllowed := true }

/-- A quoted scalar. -/
def quoted? (s : Scanner) (style : ScalarStyle) : Option Scanner := do
  let s ← s.saveKey?
  let k := s.cursor.drop 1
  let (text, k) ←
    if style == .singleQuoted then singleQuoted? [] .none k.mark k.rest
    else doubleQuoted? [] .none k.mark k.rest
  pure { s.emit (.scalar (String.ofList text) style) with cursor := k, keyAllowed := false }

/-- A plain scalar. -/
def plain? (s : Scanner) : Option Scanner := do
  let s ← s.saveKey?
  let k := s.cursor
  let p ← plainText? s.inFlow (s.indent + 1).toNat [] .none k.mark k.rest
  pure { s.emit (.scalar (String.ofList p.text) .plain) with
    cursor := p.rest, keyAllowed := p.endsLine }

/-- The characters that a plain scalar cannot start with, unless it is said otherwise. -/
def startsNoPlain (c : Char) : Bool :=
  isGap c || isBreak c
    || ['-', '?', ':', ',', '[', ']', '\x7b', '\x7d', '#', '&', '*', '!', '|', '>', '\'', '"',
      '%', '@', '\x60'].contains c

/-- The next token, which starts with `c` before `cs`. -/
def token? (s : Scanner) (c : Char) (cs : List Char) : Option Scanner :=
  let column := s.cursor.mark.column
  if column == 0 && c == '%' then do
    let s ← s.outdent?
    let (t, k) ← directive? (s.cursor.drop 1)
    pure { s.emit t with cursor := k }
  else if column == 0 && Cursor.atDocumentMarker (c :: cs) then do
    let s ← s.outdent?
    pure (s.take (if c == '-' then .documentStart else .documentEnd) 3)
  else if c == '[' then s.openBracket? .flowSequenceStart
  else if c == '\x7b' then s.openBracket? .flowMappingStart
  else if c == ']' then s.closeBracket? .flowSequenceEnd
  else if c == '\x7d' then s.closeBracket? .flowMappingEnd
  else if c == ',' then s.comma?
  else if c == '-' && Cursor.atBlank cs then s.item?
  else if c == '?' && (s.inFlow || Cursor.atBlank cs) then s.key?
  else if c == ':' && (s.inFlow || Cursor.atBlank cs) then s.value?
  else if c == '*' then s.reference? cs
  else if c == '&' then s.anchor? cs
  else if c == '!' then s.taggedNode?
  else if c == '|' && !s.inFlow then s.block? .literal
  else if c == '>' && !s.inFlow then s.block? .folded
  else if c == '\'' then s.quoted? .singleQuoted
  else if c == '"' then s.quoted? .doubleQuoted
  else if !startsNoPlain c || c == '-' || (!s.inFlow && (c == '?' || c == ':')) then s.plain?
  else none

/-- All tokens of the text, for which `fuel` is at least the number of its characters. -/
def run? : (fuel : Nat) → Scanner → Option (Array Token)
  | fuel, s =>
      match (s.skipToToken fuel).dropStale? with
      | none => none
      | some s =>
          match s.cursor.rest with
          | [] => s.finish?.map (·.tokens)
          | c :: cs =>
              match fuel with
              | 0 => none
              | fuel + 1 =>
                  match (s.unroll s.cursor.mark.column).token? c cs with
                  | some s => run? fuel s
                  | none => none

end Scanner

/-- The tokens of a text; `none` for a text that is no YAML. -/
def tokens? (cs : List Char) : Option (Array Token) :=
  if cs.all isAllowed then (Scanner.ofText (unifyBreaks cs)).run? cs.length else none

end CiPipeline.Yaml
