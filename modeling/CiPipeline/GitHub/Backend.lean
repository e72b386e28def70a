import CiPipeline.GitHub.Compiler
import CiPipeline.Render

set_option autoImplicit false

/-! # The GitHub backend -/

namespace CiPipeline.GitHub

/-- How workflows are rendered for GitHub. -/
def Compiler.backend (c : Compiler) : Backend Document where
  provider := .gitHub
  compile := c.compile
  toTree := Document.toTree

end CiPipeline.GitHub
