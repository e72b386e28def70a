import CiPipeline.Number.Binary64
import CiPipeline.Number.Word
import CiPipeline.Yaml.Tag

set_option autoImplicit false

/-! # Scalars of YAML texts

A scalar is text with a style and perhaps a tag. What it stands for depends on both: plain
text may be a null, a truth value or a number by its form; quoted text is text, whatever its
form; a core tag asks for a kind of value, and text that is none of that kind is an error.
-/

namespace CiPipeline

/-- A typed scalar value. -/
inductive Atom where
  | null
  | bool (b : Bool)
  | int (n : Int)
  | float (x : Number.Binary64)
  | str (s : String)
  deriving DecidableEq, Inhabited

namespace Yaml

open Number

/-! ## The forms of plain text -/

/-- The spellings of null, the empty text apart. -/
def isNull (s : String) : Bool := ["null", "Null", "NULL", "~"].contains s

/-- The spellings of truth values. -/
def bool? (s : String) : Option Bool :=
  if ["true", "True", "TRUE"].contains s then some true
  else if ["false", "False", "FALSE"].contains s then some false
  else none

/-- Two or more digits that start with zero are no number. -/
def isZeroLed (cs : List Char) : Bool :=
  let digits := match cs with
    | '-' :: ds => ds
    | '+' :: ds => ds
    | ds => ds
  match digits with
  | '0' :: d :: ds => (d :: ds).all (·.isDigit)
  | _ => false

/-- Digits in the base that they are marked for; decimal without a mark. -/
def magnitude? : List Char → Option Nat
  | '0' :: 'x' :: ds => ofDigits? 16 ds
  | '0' :: 'o' :: ds => ofDigits? 8 ds
  | '0' :: 'b' :: ds => ofDigits? 2 ds
  | ds => ofDigits? 10 ds

/-- An integer of any size, in decimal or marked as hexadecimal, octal or binary. -/
def integer? (s : String) : Option Int :=
  if isZeroLed s.toList then none
  else
    match s.toList with
    | '-' :: ds => (magnitude? ds).map fun n => -(n : Int)
    | '+' :: ds => (magnitude? ds).map Int.ofNat
    | ds => (magnitude? ds).map Int.ofNat

/-- A finite number with a fraction or an exponent, or a special spelling of infinity or of
no number. -/
def float? (s : String) : Option Binary64 :=
  if [".inf", ".Inf", ".INF", "+.inf", "+.Inf", "+.INF"].contains s then
    some (.infinite false)
  else if ["-.inf", "-.Inf", "-.INF"].contains s then some (.infinite true)
  else if [".nan", ".NaN", ".NAN"].contains s then some .nan
  else
    match Decimal.ofChars? s.toList with
    | some d => if (Binary64.ofDecimal d).isFinite then some (Binary64.ofDecimal d) else none
    | none => none

/-- What plain text stands for; `none` for an integer of more than 64 but at most 128 bits,
for which there is no value. -/
def plainAtom? (s : String) : Option Atom :=
  if s.isEmpty || isNull s then some .null
  else
    match bool? s with
    | some b => some (.bool b)
    | none =>
        match (integer? s).filter isDoubleWord with
        | some n => if isWord n then some (.int n) else none
        | none =>
            if isZeroLed s.toList then some (.str s)
            else
              match float? s with
              | some x => some (.float x)
              | none => some (.str s)

/-! ## Scalars -/

/-- How a scalar is written. -/
inductive ScalarStyle where
  | plain
  | singleQuoted
  | doubleQuoted
  | literal
  | folded
  deriving DecidableEq, Inhabited

/-- A scalar as it is written. -/
structure Scalar where
  text : String
  style : ScalarStyle
  tag : Option Tag
  deriving DecidableEq, Inhabited

namespace Scalar

/-- The name of the scalar's local tag, if it has one. -/
def localTag? (s : Scalar) : Option String := s.tag.bind (·.localName?)

/-- The scalar is written plainly. -/
def isPlain (s : Scalar) : Bool := s.style == .plain

/-- The scalar is not there: plain without any text. -/
def isBlank (s : Scalar) : Bool := s.isPlain && s.text.isEmpty

/-- The value of the scalar; `none` if there is none. -/
def atom? (s : Scalar) : Option Atom :=
  match s.tag with
  | none => if s.isPlain then plainAtom? s.text else some (.str s.text)
  | some tag =>
      if tag = .core "bool" then (bool? s.text).map .bool
      else if tag = .core "int" then ((integer? s.text).filter isWord).map .int
      else if tag = .core "float" then (float? s.text).map .float
      else if tag = .core "null" then if isNull s.text then some .null else none
      else if tag.isLocal && s.isPlain then plainAtom? s.text
      else some (.str s.text)

/-- The value of the scalar where a truth value is wanted: plain text may be one under any
tag, and a literal block under the tag for it. -/
def truth? (s : Scalar) : Option Bool :=
  if s.isPlain || (s.style == .literal && s.tag == some (.core "bool")) then bool? s.text
  else none

/-- The scalar stands for no value where a value may be left out; `none` if it is tagged as
null and is not. -/
def isAbsent? (s : Scalar) : Option Bool :=
  if !s.isPlain then some false
  else
    match s.tag with
    | none => some (s.text.isEmpty || isNull s.text)
    | some tag =>
        if tag = .core "null" then if isNull s.text then some true else none
        else some false

end Scalar

end Yaml

end CiPipeline
