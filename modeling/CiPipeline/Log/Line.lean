import CiPipeline.Log

set_option autoImplicit false

/-! # Log lines

How an entry is shown as a line: in plain words, or as an object for other programs.
-/

namespace CiPipeline.Log

/-- How log lines look. -/
inductive Layout where
  | pretty
  | compact
  | json
  deriving DecidableEq, Inhabited

namespace Layout

/-- Every layout. -/
def all : List Layout := [pretty, compact, json]

/-- The name in options. -/
def name : Layout → String
  | pretty => "pretty"
  | compact => "compact"
  | json => "json"

/-- The name in log entries. -/
def label : Layout → String
  | pretty => "Pretty"
  | compact => "Compact"
  | json => "Json"

end Layout

/-- A character inside a quoted text of an object. -/
def escaped (c : Char) : String :=
  if c = '"' then "\\\""
  else if c = '\\' then "\\\\"
  else if c.toNat < 0x20 then
    "\\u00" ++ String.ofList [Nat.digitChar (c.toNat / 16), Nat.digitChar (c.toNat % 16)]
  else c.toString

/-- A quoted text of an object. -/
def jsonText (s : String) : String := "\"" ++ String.join (s.toList.map escaped) ++ "\""

namespace Value

/-- The value in plain words. -/
def plain : Value → String
  | text s => s
  | number n => toString n
  | flag b => toString b

/-- The value in an object. -/
def json : Value → String
  | text s => jsonText s
  | other => other.plain

end Value

namespace Entry

/-- An entry as an object. -/
def json (e : Entry) : String :=
  let fields := ("message", Value.text e.message) :: e.fields
  let inner := ",".intercalate (fields.map fun f => jsonText f.1 ++ ":" ++ f.2.json)
  "\x7b\"level\":" ++ jsonText e.level.label ++ ",\"fields\":\x7b" ++ inner
    ++ "\x7d,\"target\":" ++ jsonText e.target ++ "\x7d"

/-- An entry in plain words. -/
def plain (e : Entry) : String :=
  " ".intercalate (e.level.label :: e.message ::
    e.fields.map fun f => f.1 ++ "=" ++ f.2.plain)

/-- An entry as a line. -/
def line (layout : Layout) (e : Entry) : String :=
  match layout with
  | .json => e.json
  | .pretty => e.target ++ ": " ++ e.plain
  | .compact => e.plain

end Entry

end CiPipeline.Log
