import CiPipeline.CommandLine.Switch
import CiPipeline.Log.Line
import CiPipeline.Path

set_option autoImplicit false

/-! # Given options

The options given so far on one side of the command line, each at most once, and the value
that has been read but not looked at.
-/

namespace CiPipeline.CommandLine

/-- Why there is nothing to run: help or the version is asked for, or the arguments make no
sense. -/
inductive Halt where
  | help (topic : List String)
  | version
  | misuse
  deriving DecidableEq, Inhabited

/-- The options given on one side. -/
structure Given where
  level : Option Log.Level
  layout : Option Log.Layout
  filter : Option String
  config : Option Path
  output : Option Path
  dryRun : Option Unit
  deriving DecidableEq, Inhabited

namespace Given

def nothing : Given := ⟨none, none, none, none, none, none⟩

/-- A value for an option that must not have one yet. -/
def fresh {α : Type} (before new : Option α) : Except Halt (Option α) :=
  match before, new with
  | none, some a => .ok (some a)
  | _, _ => .error .misuse

/-- A path of an option. -/
def path? (value : String) : Option Path := if value = "" then none else some ⟨value⟩

/-- One more option, with the text of its value. -/
def set (g : Given) (switch : Switch) (value : String) : Except Halt Given :=
  match switch with
  | .level => do
      let l ← fresh g.level (Log.Level.all.find? (·.name == value))
      return { g with level := l }
  | .layout => do
      let l ← fresh g.layout (Log.Layout.all.find? (·.name == value))
      return { g with layout := l }
  | .filter => do
      let f ← fresh g.filter (some value)
      return { g with filter := f }
  | .config => do
      let p ← fresh g.config (path? value)
      return { g with config := p }
  | .output => do
      let p ← fresh g.output (path? value)
      return { g with output := p }
  | .dryRun => do
      let d ← fresh g.dryRun (some ())
      return { g with dryRun := d }
  | .help | .version => .ok g

end Given

/-- An option whose value has not been seen, or has been seen and not looked at. -/
inductive Pending where
  | nothing
  | wanted (switch : Switch)
  | unread (switch : Switch) (value : String)
  deriving DecidableEq, Inhabited

/-- Looks at the value that has been put off. -/
def Pending.settle (p : Pending) (g : Given) : Except Halt Given :=
  match p with
  | nothing => .ok g
  | wanted _ => .error .misuse
  | unread switch value => g.set switch value

end CiPipeline.CommandLine
