import CiPipeline.CommandLine.Given
import CiPipeline.Definition

set_option autoImplicit false

/-! # Arguments

The arguments of a run: options of the program, the name of a command and options of the
command. The options for logging may stand on both sides of the name, and the later side
counts; on one side no option may come twice.

Arguments are read from left to right, and the first that asks for help or that is wrong
decides. The value of an option is looked at when the next option comes, or at the end of
its side if it stands in an argument of its own, and at once otherwise.
-/

namespace CiPipeline.CommandLine

/-! ## One side -/

/-- An argument by its dashes. -/
inductive Word where
  | escape
  | long (name : List Char) (value : Option (List Char))
  | short (letters : List Char)
  | plain
  deriving DecidableEq, Inhabited

/-- A single dash is a word like others. -/
def Word.ofChars : List Char → Word
  | ['-', '-'] => escape
  | '-' :: '-' :: cs =>
      let name := cs.takeWhile (· ≠ '=')
      match cs.drop name.length with
      | [] => long name none
      | _ :: value => long name (some value)
  | '-' :: c :: cs => short (c :: cs)
  | _ => plain

/-- The side of the command line that is read: before the name of the command, or after. -/
abbrev Side := Option CommandName

/-- The option takes effect without a value. -/
def Side.toggle (side : Side) (g : Given) : Switch → Except Halt Given
  | .help => .error (.help (side.map (·.text)).toList)
  | .version => .error .version
  | switch => g.set switch ""

/-- An option by its name. -/
def Side.long (side : Side) (g : Given) (p : Pending) (name : List Char)
    (value : Option (List Char)) : Except Halt (Given × Pending) :=
  match Switch.all.find? fun s => s.allowed side && s.long == String.ofList name with
  | none => .error .misuse
  | some switch =>
      if switch.takesValue then do
        let g ← p.settle g
        match value with
        | some v => return (← g.set switch (String.ofList v), .nothing)
        | none => return (g, .wanted switch)
      else if value.isSome then .error .misuse
      else do
        let g ← p.settle g
        return (← side.toggle g switch, .nothing)

/-- Options by their letters. What follows the letter of an option with a value is the
value, with or without `=`. -/
def Side.short (side : Side) (g : Given) (p : Pending) :
    List Char → Except Halt (Given × Pending)
  | [] => .ok (g, p)
  | c :: cs =>
      match Switch.all.find? fun s => s.allowed side && s.short? == some c with
      | none => .error .misuse
      | some switch => do
          let g ← p.settle g
          if switch.takesValue then
            match cs with
            | [] => return (g, .wanted switch)
            | '=' :: v => return (← g.set switch (String.ofList v), .nothing)
            | v => return (← g.set switch (String.ofList v), .nothing)
          else
            let g ← side.toggle g switch
            side.short g .nothing cs

/-- What one side says: the options, the value that has been put off, and the first word
with all that follows it. -/
structure Reading where
  given : Given
  pending : Pending
  next : Option (String × List String)
  deriving DecidableEq, Inhabited

/-- Reads one side. -/
def Side.read (side : Side) (g : Given) (p : Pending) :
    List String → Except Halt Reading
  | [] => .ok ⟨g, p, none⟩
  | arg :: rest =>
      match Word.ofChars arg.toList with
      | .escape => if rest = [] then .ok ⟨g, p, none⟩ else .error .misuse
      | .long name value => do
          let (g, p) ← side.long g p name value
          side.read g p rest
      | .short letters => do
          let (g, p) ← side.short g p letters
          side.read g p rest
      | .plain =>
          match p with
          | .wanted switch => side.read g (.unread switch arg) rest
          | _ => .ok ⟨g, p, some (arg, rest)⟩

/-! ## Both sides -/

/-- What is to be done. -/
inductive Command where
  | compile (config output : Path) (dryRun : Bool)
  | check (config output : Path)
  | validate (config : Path)
  deriving DecidableEq, Inhabited

/-- A command and how it logs. -/
structure Invocation where
  command : Command
  level : Log.Level
  layout : Log.Layout
  filter : Option String
  deriving DecidableEq, Inhabited

/-- The command with its options. -/
def CommandName.command (name : CommandName) (g : Given) : Command :=
  let config := g.config.getD ⟨Definition.defaultFile⟩
  let output := g.output.getD ⟨"."⟩
  match name with
  | compile => .compile config output g.dryRun.isSome
  | check => .check config output
  | validate => .validate config

/-- The topic of help for some words. -/
def helpTopic (words : List String) : Halt :=
  match words with
  | [] => .help []
  | [w] => if w = "help" ∨ (CommandName.ofText? w).isSome then .help [w] else .misuse
  | _ => .misuse

/-- The invocation that the arguments ask for. -/
def parse (args : List String) : Except Halt Invocation := do
  let before ← Side.read none .nothing .nothing args
  match before.next with
  | none => throw .misuse
  | some ("help", words) => throw (helpTopic words)
  | some (word, rest) =>
      match CommandName.ofText? word with
      | none => throw .misuse
      | some name =>
          let after ← Side.read (some name) .nothing .nothing rest
          if after.next.isSome then throw .misuse
          let later ← after.pending.settle after.given
          let sooner ← before.pending.settle before.given
          return {
            command := name.command later
            level := (later.level.or sooner.level).getD .warn
            layout := (later.layout.or sooner.layout).getD .compact
            filter := later.filter.or sooner.filter }

end CiPipeline.CommandLine
