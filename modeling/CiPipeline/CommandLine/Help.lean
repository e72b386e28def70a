import CiPipeline.CommandLine.Run

set_option autoImplicit false

/-! # Help

What the program says about itself, and runs that begin with the arguments.
-/

namespace CiPipeline.CommandLine

/-- The options that every command has. -/
def commonOptions : List String := [
  "  -l, --log-level <LOG_LEVEL>    Set logging level [default: warn] "
    ++ "[possible values: trace, debug, info, warn, error]",
  "      --log-format <LOG_FORMAT>  Log output format [default: compact] "
    ++ "[possible values: pretty, compact, json]",
  "      --log-filter <LOG_FILTER>  Tracing filter directive, e.g. cicd_gitlab=trace "
    ++ "(overrides --log-level and RUST_LOG)",
  "  -h, --help                     Print help"]

namespace CommandName

/-- What a command does. -/
def about : CommandName → String
  | compile => "Generate workflow files from the pipeline definition"
  | check => "Fail if generated files are missing or out of date"
  | validate => "Validate the pipeline definition without writing"

/-- What the directory of a command is for. -/
def outputAbout : CommandName → List String
  | compile => ["  -o, --output <OUTPUT>          Repository root to write into [default: .]"]
  | check => ["  -o, --output <OUTPUT>          Repository root to compare against [default: .]"]
  | validate => []

/-- The options of a command. -/
def options (name : CommandName) : List String :=
  ["  -c, --config <CONFIG>          Pipeline definition file [default: cicd.yaml]"]
    ++ name.outputAbout
    ++ (if name = compile then
      ["      --dry-run                  Report what would change without writing"] else [])

/-- The help for a command. -/
def help (name : CommandName) : List String :=
  [name.about, "", "Usage: cicd " ++ name.text ++ " [OPTIONS]", "", "Options:"]
    ++ name.options ++ commonOptions

end CommandName

/-- The help for the program. -/
def programHelp : List String :=
  ["Compile one pipeline definition into GitHub Actions and GitLab CI files", "",
    "Usage: cicd [OPTIONS] <COMMAND>", "", "Commands:"]
    ++ (CommandName.all.map fun name =>
      "  " ++ String.ofList (name.text.toList.rightpad 10 ' ') ++ name.about)
    ++ ["  help      Print this message or the help of the given subcommand(s)", "", "Options:"]
    ++ commonOptions ++ ["  -V, --version                  Print version"]

/-- The help on a topic. -/
def helpText (topic : List String) : String :=
  match topic.head?.bind CommandName.ofText? with
  | some name => unlines name.help
  | none => unlines programHelp

/-! ## Trouble -/

/-- A problem with its code and the advice about it. -/
def problem (code message : String) (help : Option String) : List String :=
  [code, "  " ++ message] ++ (help.map ("  help: " ++ ·)).toList

/-- The problems that a failure is about. -/
def causes : Failure → List String
  | .compile errors => errors.flatMap fun e =>
      problem e.code e.message none ++ (match e with
        | .invalid _ violations =>
            violations.flatMap fun v => problem v.code v.message v.help
        | .providerMismatch _ _ _ => [])
  | _ => []

/-- What a user is told about trouble. -/
def Trouble.lines : Trouble → List String
  | failure e => problem e.code e.message e.help ++ causes e
  | badFilter _ => ["Failed to create tracing filter"]
  | misuse => ["error: these arguments make no sense", "", "Usage: cicd [OPTIONS] <COMMAND>"]

/-! ## The program -/

/-- What is shown when there is nothing to run. -/
def Halt.outcome : Halt → Outcome
  | help topic => ⟨.compact, [], helpText topic, none⟩
  | version => ⟨.compact, [], unlines ["cicd " ++ programVersion], none⟩
  | misuse => ⟨.compact, [], "", some .misuse⟩

/-- Runs the program with some arguments. -/
def run {m : Type → Type} [Monad m] [FileStore m] (args : List String)
    (environment : Option String) : m Outcome :=
  match parse args with
  | .error halt => pure halt.outcome
  | .ok invocation => invocation.run environment

end CiPipeline.CommandLine
