set_option autoImplicit false

/-! # Characters of YAML texts

The classes of characters that reading and writing tell apart.
-/

namespace CiPipeline.Yaml

/-- The character ends a line: a carriage return, a line feed, a next line, or a line or
paragraph separator. -/
def isBreak (c : Char) : Bool :=
  let n := c.toNat
  n == 0x0D || n == 0x0A || n == 0x85 || n == 0x2028 || n == 0x2029

/-- The character separates words within a line. -/
def isGap (c : Char) : Bool := c == ' ' || c == '\t'

/-- The character may stand in a text. -/
def isAllowed (c : Char) : Bool :=
  let n := c.toNat
  n == 0x09 || n == 0x0A || n == 0x0D || (0x20 ≤ n && n ≤ 0x7E) || n == 0x85
    || (0xA0 ≤ n && n ≤ 0xFFFD) || 0x10000 ≤ n

/-- The character is written as it is and not escaped. -/
def isPrintable (c : Char) : Bool :=
  let n := c.toNat
  n == 0x0A || (0x20 ≤ n && n ≤ 0x7E) || (0xA0 ≤ n && n ≤ 0xFFFD && n ≠ 0xFEFF) || 0x10000 ≤ n

end CiPipeline.Yaml
