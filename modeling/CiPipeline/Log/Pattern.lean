import CiPipeline.Number.Decimal
import CiPipeline.Text.Letter

set_option autoImplicit false

/-! # Patterns

Regular expressions, as far as a log filter needs them: whether a text is one. Braces and
commas never occur in these texts, and an equals sign ends them, so there are neither counted
repetitions nor classes with long names.

A pattern works on text, but without the tables of all scripts. So it must not ask for words,
digits or blanks of any script, nor for letters in any case, unless it is limited to ASCII;
and limited to ASCII it must not ask for what else a byte may be.
-/

namespace CiPipeline.Log

/-- How a part of a pattern is taken: without regard to case, and limited to ASCII. -/
structure PatternMode where
  caseless : Bool
  ascii : Bool

namespace PatternMode

def plain : PatternMode := ⟨false, false⟩

/-- Letters can be told apart in this mode without tables of all scripts. -/
def hasLetters (m : PatternMode) : Bool := !m.caseless || m.ascii

end PatternMode

/-- What stands for itself in a pattern, or for one of several characters, or for a place. -/
inductive PatternUnit where
  | char (c : Char)
  | kind
  | place
  deriving DecidableEq

namespace Pattern

/-! ## Escapes -/

/-- The character with a number of so many digits at the front. -/
def hexChar? (width : Nat) (cs : List Char) : Option (PatternUnit × List Char) :=
  if cs.length < width then none
  else
    match Number.ofDigits? 16 (cs.take width) with
    | some n => if n.isValidChar then some (.char (Char.ofNat n), cs.drop width) else none
    | none => none

/-- What a letter or sign after a backslash stands for, with the characters after it. -/
def escape? (m : PatternMode) (c : Char) (cs : List Char) : Option (PatternUnit × List Char) :=
  match c with
  | 'x' => hexChar? 2 cs
  | 'u' => hexChar? 4 cs
  | 'U' => hexChar? 8 cs
  | 'a' => some (.char '\x07', cs)
  | 'f' => some (.char '\x0c', cs)
  | 't' => some (.char '\t', cs)
  | 'n' => some (.char '\n', cs)
  | 'r' => some (.char '\r', cs)
  | 'v' => some (.char '\x0b', cs)
  | 'd' | 's' | 'w' => if m.ascii then some (.kind, cs) else none
  | 'A' | 'z' => some (.place, cs)
  | 'b' | 'B' | '<' | '>' => if m.ascii then some (.place, cs) else none
  | _ => if c.toNat < 0x80 && !c.isAlphanum then some (.char c, cs) else none

/-! ## Classes -/

/-- The names of classes. -/
def className : List String :=
  ["alnum", "alpha", "ascii", "blank", "cntrl", "digit", "graph", "lower", "print", "punct",
    "space", "upper", "word", "xdigit"]

/-- After a class that is given by its name, behind its opening bracket. -/
def namedClass? : List Char → Option (List Char)
  | ':' :: cs =>
      let cs := match cs with
        | '^' :: rest => rest
        | _ => cs
      let (name, rest) := cs.span fun c => c != ':'
      match rest with
      | ':' :: ']' :: rest => if className.contains (String.ofList name) then some rest else none
      | _ => none
  | _ => none

/-- After the signs at the start of a class, behind its opening bracket: a closing bracket that
comes first stands for itself. -/
def enterClass (cs : List Char) : List Char :=
  let cs := match cs with
    | '^' :: rest => rest
    | _ => cs
  match cs with
  | '-' :: rest => rest.dropWhile (· == '-')
  | ']' :: rest => rest
  | _ => cs

/-- An item of a class at the front. -/
def classUnit? (m : PatternMode) : List Char → Option (PatternUnit × List Char)
  | [] => none
  | '\\' :: c :: cs =>
      match escape? m c cs with
      | some (.place, _) => none
      | other => other
  | '\\' :: [] => none
  | c :: cs => some (.char c, cs)

/-- After an item of a class, or after two with a hyphen between them, which must be characters
in order. -/
def classRange? (m : PatternMode) (cs : List Char) : Option (List Char) := do
  let (first, rest) ← classUnit? m cs
  match rest with
  | '-' :: more =>
      if more.head? = some ']' ∨ more.head? = some '-' then some rest
      else do
        let (last, rest) ← classUnit? m more
        match first, last with
        | .char a, .char b => if a ≤ b then some rest else none
        | _, _ => none
  | _ => some rest

/-- After a class, behind its opening bracket, with `depth` classes around it. -/
def class? (m : PatternMode) : (fuel depth : Nat) → List Char → Option (List Char)
  | 0, _, _ => none
  | _ + 1, _, [] => none
  | fuel + 1, depth, ']' :: cs => if depth = 0 then some cs else class? m fuel (depth - 1) cs
  | fuel + 1, depth, '[' :: cs =>
      match namedClass? cs with
      | some rest => class? m fuel depth rest
      | none => class? m fuel (depth + 1) (enterClass cs)
  | fuel + 1, depth, c :: cs =>
      if (c == '&' || c == '-' || c == '~') && cs.head? == some c then
        class? m fuel depth cs.tail
      else (classRange? m (c :: cs)).bind (class? m fuel depth)

/-! ## Groups -/

/-- What a parenthesis opens: a group, or a change of the mode for the group around it. -/
inductive Opening where
  | group (m : PatternMode) (name : List Char)
  | change (m : PatternMode)

/-- A name may contain the character. -/
def isNameChar (c : Char) : Bool :=
  c == '_' || c == '.' || c == '[' || c == ']' || Text.isLetter c || Text.isNumeral c

/-- A named group, behind the sign before its name. -/
def namedGroup? (m : PatternMode) (cs : List Char) : Option (Opening × List Char) :=
  let (name, rest) := cs.span isNameChar
  match name, rest with
  | c :: _, '>' :: rest =>
      if c == '_' || Text.isLetter c then some (.group m name, rest) else none
  | _, _ => none

/-- The mode with one of its flags set or, after a hyphen, taken back. -/
def setFlag (m : PatternMode) (negated : Bool) : Char → PatternMode
  | 'i' => { m with caseless := !negated }
  | 'u' => { m with ascii := negated }
  | _ => m

/-- The flags up to the sign that ends them, given those seen before them. -/
def flags? (m : PatternMode) (seen : List Char) (negated : Bool) :
    List Char → Option (Opening × List Char)
  | ':' :: cs => if seen.head? = some '-' then none else some (.group m [], cs)
  | ')' :: cs => if seen.isEmpty || seen.head? = some '-' then none else some (.change m, cs)
  | c :: cs =>
      if seen.contains c || !(['i', 'm', 's', 'U', 'u', 'R', 'x', '-'].contains c) then none
      else flags? (setFlag m negated c) (c :: seen) (negated || c == '-') cs
  | [] => none

/-- What a parenthesis opens, with the characters after it. -/
def opening? (m : PatternMode) : List Char → Option (Opening × List Char)
  | '?' :: 'P' :: '<' :: cs => namedGroup? m cs
  | '?' :: '<' :: cs => namedGroup? m cs
  | '?' :: cs => flags? m [] false cs
  | cs => some (.group m [], cs)

/-! ## Patterns -/

/-- Where the reading of a pattern is: the modes around the groups that are open, the mode, the
names of groups, and whether there is something that could be repeated. -/
structure State where
  outer : List PatternMode
  mode : PatternMode
  names : List (List Char)
  repeatable : Bool

/-- Behind something that could be repeated. -/
def State.passed (s : State) : State := { s with repeatable := true }

/-- What follows is the rest of a pattern. -/
def reads : (fuel : Nat) → State → List Char → Bool
  | _, s, [] => s.outer.isEmpty
  | 0, _, _ => false
  | fuel + 1, s, '(' :: cs =>
      match opening? s.mode cs with
      | some (.group m name, rest) =>
          !(s.names.contains name && !name.isEmpty)
            && reads fuel ⟨s.mode :: s.outer, m, name :: s.names, false⟩ rest
      | some (.change m, rest) => reads fuel { s with mode := m, repeatable := false } rest
      | none => false
  | fuel + 1, s, ')' :: cs =>
      match s.outer with
      | m :: outer => reads fuel ⟨outer, m, s.names, true⟩ cs
      | [] => false
  | fuel + 1, s, '|' :: cs => reads fuel { s with repeatable := false } cs
  | fuel + 1, s, '[' :: cs =>
      s.mode.hasLetters
        && match class? s.mode cs.length 0 (enterClass cs) with
          | some rest => reads fuel s.passed rest
          | none => false
  | fuel + 1, s, '\\' :: c :: cs =>
      match escape? s.mode c cs with
      | some (u, rest) => (u == .place || s.mode.hasLetters) && reads fuel s.passed rest
      | none => false
  | _ + 1, _, '\\' :: [] => false
  | _ + 1, _, '\x7b' :: _ => false
  | fuel + 1, s, '.' :: cs => !s.mode.ascii && reads fuel s.passed cs
  | fuel + 1, s, c :: cs =>
      if c == '*' || c == '+' || c == '?' then
        s.repeatable
          && reads fuel s (match cs with
            | '?' :: rest => rest
            | _ => cs)
      else (c == '^' || c == '$' || s.mode.hasLetters) && reads fuel s.passed cs

end Pattern

/-- The characters are a regular expression. -/
def isPattern (cs : List Char) : Bool := Pattern.reads cs.length ⟨[], .plain, [], false⟩ cs

end CiPipeline.Log
