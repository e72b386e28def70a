set_option autoImplicit false

/-! # Commands and options

The commands by name, and the options with their spellings and the places where they may
stand.
-/

namespace CiPipeline.CommandLine

/-- The names of the commands. -/
inductive CommandName where
  | compile
  | check
  | validate
  deriving DecidableEq, Inhabited

namespace CommandName

/-- Every command. -/
def all : List CommandName := [compile, check, validate]

def text : CommandName → String
  | compile => "compile"
  | check => "check"
  | validate => "validate"

/-- The command with a name. -/
def ofText? (s : String) : Option CommandName := all.find? (·.text == s)

end CommandName

/-- The options. -/
inductive Switch where
  | level
  | layout
  | filter
  | config
  | output
  | dryRun
  | help
  | version
  deriving DecidableEq, Inhabited

namespace Switch

/-- Every option. -/
def all : List Switch := [level, layout, filter, config, output, dryRun, help, version]

/-- The name after two dashes. -/
def long : Switch → String
  | level => "log-level"
  | layout => "log-format"
  | filter => "log-filter"
  | config => "config"
  | output => "output"
  | dryRun => "dry-run"
  | help => "help"
  | version => "version"

/-- The letter after one dash. -/
def short? : Switch → Option Char
  | level => some 'l'
  | config => some 'c'
  | output => some 'o'
  | help => some 'h'
  | version => some 'V'
  | layout | filter | dryRun => none

/-- The option has a value. -/
def takesValue : Switch → Bool
  | level | layout | filter | config | output => true
  | dryRun | help | version => false

/-- The option may stand after the name of a command, or before it. -/
def allowed : Option CommandName → Switch → Bool
  | _, level | _, layout | _, filter | _, help => true
  | none, version => true
  | some _, config => true
  | some .compile, output | some .check, output => true
  | some .compile, dryRun => true
  | _, _ => false

end Switch

end CiPipeline.CommandLine
