set_option autoImplicit false

/-! # Tags

A tag is a row of bytes: those of its characters, and those that escapes stand for. They need
not be text, and a zero byte ends them.
-/

namespace CiPipeline.Yaml

/-- The tag of a node. -/
structure Tag where
  bytes : List UInt8
  deriving DecidableEq, Inhabited

namespace Tag

/-- The tag of some bytes, up to a zero byte. -/
def ofBytes (bytes : List UInt8) : Tag := ⟨bytes.takeWhile (· != 0)⟩

/-- The tag of a text. -/
def ofText (text : String) : Tag := ofBytes text.toUTF8.toList

/-- The core tag of this name. -/
def core (name : String) : Tag := ofText ("tag:yaml.org,2002:" ++ name)

/-- The exclamation mark alone. -/
def mark : Tag := ofText "!"

/-- A tag with another one behind it. -/
def append (lead suffix : Tag) : Tag := ⟨lead.bytes ++ suffix.bytes⟩

/-- There is nothing in the tag. -/
def isEmpty (t : Tag) : Bool := t.bytes.isEmpty

/-- The tag starts with an exclamation mark. -/
def isLocal (t : Tag) : Bool := t.bytes.head? == mark.bytes.head?

/-- The name of a local tag, without its exclamation mark unless there is nothing else; `none`
for other tags, and for a name that is no text. -/
def localName? (t : Tag) : Option String :=
  if !t.isLocal then none
  else
    let name := if t = mark then t.bytes else t.bytes.tail
    String.fromUTF8? ⟨name.toArray⟩

end Tag

end CiPipeline.Yaml
