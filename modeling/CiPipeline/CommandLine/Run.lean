import CiPipeline.CommandLine.Arguments
import CiPipeline.Definition.Load
import CiPipeline.Log.Filter
import CiPipeline.Output

set_option autoImplicit false

/-! # Running commands

Every command reads a definition and makes its files. Then `compile` writes them, `check`
compares them with what is there, and `validate` only tells that they could be made. What a
command prints is printed as a whole, and only for what it achieved.
-/

namespace CiPipeline.CommandLine

/-- The version of the program. -/
def programVersion : String := "0.4.2"

/-! ## Commands -/

/-- What a command logs and prints, and why it failed, if it did. -/
structure Report where
  log : List Log.Entry
  output : String
  failure : Option Failure
  deriving DecidableEq, Inhabited

/-- Lines of output. -/
def unlines (lines : List String) : String := String.join (lines.map (· ++ "\n"))

/-- Tells of the end of a compilation. -/
def finished (count : Nat) (dryRun : Bool) : Log.Entry :=
  { level := .info, target := "cicd::commands", message := "Compile finished",
    fields := [("files", .number count), ("dry_run", .flag dryRun)] }

/-- What is printed about files that have been written, or would have been. -/
def writtenText (results : List FileResult) : String :=
  if results.isEmpty then "No workflows have jobs, nothing to write\n"
  else unlines (results.map fun r => r.status.text ++ ": " ++ r.path.text)

/-- The report on files that have been written, or would have been. -/
def compileReport (dryRun : Bool) (p : Progress FileResult) : Report :=
  let log := p.achieved.map Output.processed
  match p.failure with
  | some e => ⟨log, "", some e⟩
  | none => ⟨log ++ [finished p.achieved.length dryRun], writtenText p.achieved, none⟩

/-- The report on `count` files of which some are out of date. -/
def checkReport (count : Nat) (p : Progress Path) : Report :=
  let log := p.achieved.map Output.outdated
  match p.failure, p.achieved with
  | some e, _ => ⟨log, "", some e⟩
  | none, [] => ⟨log, unlines [toString count ++ " generated file(s) up to date"], none⟩
  | none, stale =>
      ⟨log, unlines (stale.map fun path => "Out of date: " ++ path.text), some (.stale stale)⟩

/-- The report on `count` files that could be made. -/
def validateReport (config : Path) (count : Nat) : Report :=
  ⟨[], unlines [config.text ++ " is valid (" ++ toString count
    ++ " file(s) would be generated)"], none⟩

variable {m : Type → Type} [Monad m] [FileStore m]

/-- Makes the files of a definition and goes on with them. -/
def withFiles (config : Path) (next : List GeneratedFile → m Report) : m Report := do
  match ← Definition.load config with
  | .error e => pure ⟨[], "", some e⟩
  | .ok d => do
      let made := d.synthesize
      let log := Definition.loaded config d :: made.log
      match made.value with
      | .error errors => pure ⟨log, "", some (.compile errors)⟩
      | .ok files => do
          let report ← next files
          pure { report with log := log ++ report.log }

/-- Runs a command. -/
def Command.run : Command → m Report
  | .compile config output dryRun =>
      withFiles config fun files => do
        return compileReport dryRun (← writeFiles output files dryRun)
  | .check config output =>
      withFiles config fun files => do
        return checkReport files.length (← checkFiles output files)
  | .validate config =>
      withFiles config fun files => pure (validateReport config files.length)

/-! ## The whole run -/

/-- Why a run did not succeed. -/
inductive Trouble where
  | failure (e : Failure)
  | badFilter (e : Log.FilterFault)
  | misuse
  deriving DecidableEq, Inhabited

namespace Trouble

/-- The exit status. A filter that would have to be cut inside a character is not reported but
stops the program at once. -/
def exitCode : Trouble → Nat
  | failure _ | badFilter .malformed => 1
  | misuse => 2
  | badFilter .torn => 101

/-- The codes of the failure, if it is one. -/
def codes : Trouble → List String
  | failure e => e.codes
  | badFilter _ | misuse => []

end Trouble

/-- What a run shows: its output, the log entries that the filter admits, and the trouble. -/
structure Outcome where
  layout : Log.Layout
  log : List Log.Entry
  output : String
  trouble : Option Trouble
  deriving DecidableEq, Inhabited

namespace Outcome

/-- The exit status. -/
def exitCode (o : Outcome) : Nat := (o.trouble.map (·.exitCode)).getD 0

/-- The codes of the failure, if there is one. -/
def codes (o : Outcome) : List String := (o.trouble.map (·.codes)).getD []

end Outcome

/-- Tells that logging begins. -/
def started (layout : Log.Layout) : Log.Entry :=
  { level := .debug, target := "cicd::tracing", message := "Tracing initialized for cicd CLI",
    fields := [("version", .text programVersion), ("format", .text layout.label)] }

/-- The filter of a run: that of the option, or else that of the environment if it can be
read, or else the program's own entries up to the level. -/
def Invocation.logFilter (i : Invocation) (environment : Option String) :
    Except Log.FilterFault Log.Filter :=
  match i.filter, environment with
  | some text, _ => Log.Filter.ofText text
  | none, none => .ok (.upTo i.level)
  | none, some text =>
      match Log.Filter.ofText text with
      | .error .malformed => .ok (.upTo i.level)
      | result => result

/-- Runs an invocation. -/
def Invocation.run (i : Invocation) (environment : Option String) : m Outcome :=
  match i.logFilter environment with
  | .error e => pure ⟨i.layout, [], "", some (.badFilter e)⟩
  | .ok filter => do
      let report ← i.command.run
      return {
        layout := i.layout
        log := (started i.layout :: report.log).filter filter.admits
        output := report.output
        trouble := report.failure.map .failure }

end CiPipeline.CommandLine
