set_option autoImplicit false

/-! # Providers

The services that run the generated workflows.
-/

namespace CiPipeline

/-- A service with a document format of its own. -/
inductive Provider where
  | gitHub
  | gitLab
  deriving DecidableEq, Inhabited

namespace Provider

/-- The name of a provider in definitions and logs. -/
def name : Provider → String
  | gitHub => "github"
  | gitLab => "gitlab"

/-- The directory that holds the provider's files. -/
def rootDir : Provider → String
  | gitHub => ".github"
  | gitLab => ".gitlab"

end Provider

end CiPipeline
