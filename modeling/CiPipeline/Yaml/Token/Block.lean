import CiPipeline.Yaml.Cursor

set_option autoImplicit false

/-! # Block scalars

Scalars that are written as indented lines after a sign: literal ones, which keep their line
breaks, and folded ones, where a single line feed between two lines that do not start with
blanks is a space. A block is indented as far as its first line that is not empty, or as far
as is said in front of it.
-/

namespace CiPipeline.Yaml

/-- What becomes of the line breaks at the end of a block: none is kept, the first, or all. -/
inductive Chomping where
  | strip
  | clip
  | keep
  deriving DecidableEq, Inhabited

/-- What stands in front of a block. -/
structure BlockHeader where
  chomping : Chomping
  increment : Option Nat

/-- A sign for chomping. -/
def chomping? : List Char → Option (Chomping × List Char)
  | '+' :: cs => some (.keep, cs)
  | '-' :: cs => some (.strip, cs)
  | _ => none

/-- A digit for the indentation; zero is none. -/
def increment? : List Char → Option (Option Nat × List Char)
  | c :: cs =>
      if c == '0' then none
      else if c.isDigit then some (some (c.toNat - '0'.toNat), cs)
      else some (none, c :: cs)
  | [] => some (none, [])

/-- The header in front of some characters: both signs may be left out and come in any
order. -/
def blockHeader? (cs : List Char) : Option (BlockHeader × List Char) :=
  match chomping? cs with
  | some (chomping, cs) => (increment? cs).map fun (n, cs) => (⟨chomping, n⟩, cs)
  | none =>
      match increment? cs with
      | none => none
      | some (none, cs) => some (⟨.clip, none⟩, cs)
      | some (some n, cs) =>
          match chomping? cs with
          | some (chomping, cs) => some (⟨chomping, some n⟩, cs)
          | none => some (⟨.clip, some n⟩, cs)

/-- The empty lines at the start of a block: their breaks, the greatest number of spaces in
a line, and what follows. A line without a limit on its spaces may have any number of them;
no tab may come before the limit. -/
def emptyLines? (limit : Option Nat) (most : Nat) (breaks : List Char) (m : Mark) :
    List Char → Option (Nat × List Char × Cursor)
  | [] => some (max most m.column, breaks, ⟨m, []⟩)
  | c :: cs =>
      let inside := (limit.map fun n => decide (m.column < n)).getD true
      if c == ' ' && inside then emptyLines? limit most breaks (m.after c) cs
      else if c == '\t' && inside then none
      else if isBreak c then
        emptyLines? limit (max most m.column) (breaks ++ [c]) (m.after c) cs
      else some (max most m.column, breaks, ⟨m, c :: cs⟩)

/-- The lines of a block read so far: the text in reverse, the break of the last line, the
breaks of the empty lines after it, and whether the last line started with a blank. -/
structure BlockLines where
  text : List Char
  lastBreak : List Char
  emptyBreaks : List Char
  startsBlank : Bool

namespace BlockLines

/-- The lines before a new line that starts with `c`. -/
def join (literal : Bool) (b : BlockLines) (c : Char) : List Char :=
  let folds := !literal && b.lastBreak == ['\n'] && !b.startsBlank && !isGap c
  let between :=
    if folds then if b.emptyBreaks.isEmpty then [' '] else [] else b.lastBreak
  (between ++ b.emptyBreaks).reverse ++ b.text

/-- The text of the whole block. -/
def finish (chomping : Chomping) (b : BlockLines) : List Char :=
  b.text.reverse
    ++ (if chomping = .strip then [] else b.lastBreak)
    ++ (if chomping = .keep then b.emptyBreaks else [])

end BlockLines

/-- The lines of a block that are indented by `indent`, and what follows them. -/
def blockLines? (literal : Bool) (indent : Nat) (inLine : Bool) (b : BlockLines) (m : Mark) :
    List Char → Option (BlockLines × Cursor)
  | [] => some (b, ⟨m, []⟩)
  | c :: cs =>
      if inLine then
        if isBreak c then
          blockLines? literal indent false { b with lastBreak := [c] } (m.after c) cs
        else blockLines? literal indent true { b with text := c :: b.text } (m.after c) cs
      else if c == ' ' && m.column < indent then
        blockLines? literal indent false b (m.after c) cs
      else if c == '\t' && m.column < indent then none
      else if isBreak c then
        blockLines? literal indent false { b with emptyBreaks := b.emptyBreaks ++ [c] }
          (m.after c) cs
      else if m.column = indent then
        blockLines? literal indent true ⟨c :: b.join literal c, [], [], isGap c⟩ (m.after c) cs
      else some (b, ⟨m, c :: cs⟩)

/-- A block scalar after its sign. The block is indented more than `outer` columns, the
indentation around it. -/
def blockScalar? (literal : Bool) (outer : Int) (k : Cursor) : Option (List Char × Cursor) := do
  let (header, rest) ← blockHeader? k.rest
  let k ← (k.upTo rest).finishLine?
  let fixed := header.increment.map fun n => n + outer.toNat
  let (most, breaks, k) ← emptyLines? fixed 0 [] k.mark k.rest
  let indent := fixed.getD (max most (max (outer + 1) 1).toNat)
  if k.mark.column = indent then
    let (b, k) ← blockLines? literal indent false ⟨[], [], breaks, false⟩ k.mark k.rest
    pure (b.finish header.chomping, k)
  else pure (BlockLines.finish header.chomping ⟨[], [], breaks, false⟩, k)

end CiPipeline.Yaml
