import CiPipeline.Log
import CiPipeline.Log.Pattern
import CiPipeline.Number.Decimal
import CiPipeline.Text.Blank

set_option autoImplicit false

/-! # Directives of log filters

A directive sets the least urgent level of the entries that it is about. It is written as a
level, as a target, which shows everything of it, or as a target, brackets, or both, and
perhaps a level behind `=`. Brackets hold the name of a span of time, a field in braces that
an entry must have, perhaps with a pattern for its value, or both.

Nothing here happens in a span, and only spans have values that patterns are matched with. So
a directive with a span or a pattern is about no entry.

Blanks around a directive do not count when its parts are looked for, but they do when the
parts are cut out of it: blanks in front of a directive shift all its parts.
-/

namespace CiPipeline.Log

/-- The least urgent level that is shown, if any is. -/
abbrev Threshold := Option Level

/-- What is shown of some entries. -/
structure Directive where
  target : Option String
  field : Option String
  inSpan : Bool
  threshold : Threshold
  deriving DecidableEq, Inhabited

/-- Why a text is no directive. The second case is one that would have to be cut inside a
character. -/
inductive FilterFault where
  | malformed
  | torn
  deriving DecidableEq, Inhabited

namespace Directive

/-- The directive about all entries or those of a target, whatever their fields. -/
def ofTarget (target : Option String) (threshold : Threshold) : Directive :=
  ⟨target, none, false, threshold⟩

/-- The directive is about the entry. -/
def applies (d : Directive) (e : Entry) : Bool :=
  !d.inSpan && d.target.all (·.isPrefixOf e.target)
    && d.field.all fun f => f == "message" || e.fields.any (·.1 == f)

/-- How specific the directive is about targets: the bytes of its target and one more. -/
def rank (d : Directive) : Nat := (d.target.map (·.utf8ByteSize + 1)).getD 0

/-- The directive is looked at after the other one: it is less specific about targets, or else
about fields, or else its field comes first. -/
def yieldsTo (d other : Directive) : Bool :=
  d.rank < other.rank
    || (d.rank == other.rank && match d.field, other.field with
      | none, _ => true
      | some _, none => false
      | some f, some g => decide (f ≤ g))

/-- The directive shows an entry that it is about. -/
def shows (d : Directive) (e : Entry) : Bool := d.threshold.any fun l => e.level.toNat ≤ l.toNat

/-! ## Levels -/

/-- The threshold with a number. -/
def thresholdOfNat? : Nat → Option Threshold
  | 0 => some none
  | n + 1 => (Level.all[n]?).map some

/-- The threshold with a name in any case, or with a number. -/
def threshold? (cs : List Char) : Option Threshold :=
  let digits := match cs with
    | '+' :: ds => ds
    | ds => ds
  match Number.ofDigits? 10 digits with
  | some n => thresholdOfNat? n
  | none =>
      let word := (String.ofList cs).toLower
      if word = "off" then some none else (Level.all.find? (·.name == word)).map some

/-! ## Fields -/

/-- The characters are a decimal numeral or a word for infinity or no number. -/
def isNumeral (cs : List Char) : Bool :=
  let body := match cs with
    | '+' :: ds => ds
    | '-' :: ds => ds
    | ds => ds
  (Number.Decimal.unsigned? false body).isSome
    || ["inf", "infinity", "nan"].contains (String.ofList body).toLower

/-- The value of a field can be matched with the text. -/
def isValue (cs : List Char) : Bool := isNumeral cs || isPattern cs

/-- A field: its name, and whether its value matters. -/
def field? (cs : List Char) : Option (String × Bool) :=
  let (name, rest) := cs.span (· != '=')
  match rest with
  | [] => if name.isEmpty then none else some (String.ofList name, false)
  | _ :: more =>
      if isValue (more.takeWhile (· != '=')) then some (String.ofList name, true) else none

/-! ## Texts -/

/-- The bytes of some characters. -/
def width (cs : List Char) : Nat := cs.foldl (fun n c => n + c.utf8Size) 0

/-- The characters after `n` bytes. -/
def dropBytes (n : Nat) : List Char → Except FilterFault (List Char)
  | [] => if n = 0 then .ok [] else .error .torn
  | c :: cs =>
      if n = 0 then .ok (c :: cs)
      else if n < c.utf8Size then .error .torn
      else dropBytes (n - c.utf8Size) cs

/-- The characters of the first `n` bytes. -/
def takeBytes (n : Nat) (cs : List Char) : Except FilterFault (List Char) := do
  let rest ← dropBytes n cs
  pure (cs.take (cs.length - rest.length))

/-- The bytes of a text from `start` to `stop`. -/
def cut (cs : List Char) (start stop : Nat) : Except FilterFault (List Char) := do
  takeBytes (stop - start) (← dropBytes start cs)

/-- A text or else a malformed directive. -/
def expect {α : Type} : Option α → Except FilterFault α
  | some a => .ok a
  | none => .error .malformed

/-- A directive may begin with the character. -/
def opens (c : Char) : Bool :=
  Text.isLetter c || Text.isNumeral c || c == '-' || c == ':' || c == '_' || c == '['

/-- The threshold behind the `=` that ends `start` bytes, where nothing stands for everything. -/
def readLevel (cs : List Char) (start : Nat) : Except FilterFault Threshold := do
  let word ← dropBytes start cs
  if word.isEmpty then pure (some .trace) else expect (threshold? word)

/-- The threshold behind the bracket that ends `start` bytes, which `rest` follows. -/
def readEnd (cs : List Char) (start : Nat) : List Char → Except FilterFault Threshold
  | [] => .ok (some .trace)
  | '=' :: _ => readLevel cs (start + 1)
  | _ => .error .malformed

/-- The directive about a target with brackets, the first of which ends `start` bytes, which
`rest` follows. -/
def readBrackets (cs : List Char) (target : Option String) (start : Nat) (rest : List Char) :
    Except FilterFault Directive := do
  let name := rest.takeWhile fun c => c != ']' && c != '\x7b'
  let stop := start + width name
  match rest.drop name.length with
  | ']' :: rest => do
      let _ ← cut cs start stop
      return ⟨target, none, true, ← readEnd cs (stop + 1) rest⟩
  | '\x7b' :: rest => do
      let span ← cut cs start stop
      let inner := rest.takeWhile fun c => c != '\x7d'
      match rest.drop inner.length with
      | '\x7d' :: rest => do
          let (name, valued) ← expect (field? (← cut cs (stop + 1) (stop + 1 + width inner)))
          match rest with
          | ']' :: rest => do
              let level ← readEnd cs (stop + width inner + 3) rest
              return ⟨target, some name, !span.isEmpty || valued, level⟩
          | _ => .error .malformed
      | _ => .error .malformed
  | _ => .error .malformed

/-- The directive of a text. -/
def ofChars (cs : List Char) : Except FilterFault Directive := do
  let inner := Text.trim cs
  match inner with
  | [] => .error .malformed
  | '[' :: rest => readBrackets cs none 1 rest
  | c :: _ =>
      if !opens c then .error .malformed
      else
        let front := inner.takeWhile fun c => c != '=' && c != '['
        let stop := width front
        match inner.drop front.length with
        | '=' :: _ => do
            let target ← cut cs 0 stop
            return ofTarget (some (String.ofList target)) (← readLevel cs (stop + 1))
        | _ :: rest => do
            let target ← cut cs 0 stop
            readBrackets cs (some (String.ofList target)) (stop + 1) rest
        | [] =>
            match threshold? cs with
            | some t => return ofTarget none t
            | none => return ofTarget (some (String.ofList cs)) (some .trace)

end Directive

end CiPipeline.Log
