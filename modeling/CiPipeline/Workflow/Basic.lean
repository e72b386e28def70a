import CiPipeline.Job
import CiPipeline.Log
import CiPipeline.Path
import CiPipeline.Provider
import CiPipeline.Text.Slug
import CiPipeline.Trigger
import CiPipeline.Workflow.Check

set_option autoImplicit false

/-! # Workflows

A workflow is a named list of jobs for one provider, started by one trigger. It becomes one
file, named by the slug of the workflow's name, in the provider's directory of workflows.
-/

namespace CiPipeline

/-- Jobs that are run together. -/
structure Workflow where
  name : String
  trigger : Trigger
  provider : Provider
  jobs : List Job
  deriving DecidableEq, Inhabited

namespace Workflow

/-- A workflow without jobs. -/
def empty (name : String) (trigger : Trigger) (provider : Provider) : Workflow :=
  ⟨name, trigger, provider, []⟩

/-- The entry that tells of a new job. -/
def registered (w : Workflow) (j : Job) : Log.Entry :=
  { level := .debug, target := "cicd_pipeline::workflow", message := "Registered job",
    fields := [("workflow", .text w.name), ("provider", .text w.provider.name),
      ("job", .text j.name)] }

/-- The workflow with more jobs at the end, each of which is logged. -/
def addJobs (w : Workflow) (jobs : List Job) : Logged Workflow :=
  ⟨{ w with jobs := w.jobs ++ jobs }, jobs.map w.registered⟩

/-- The workflow has something to run. -/
def hasJobs (w : Workflow) : Bool := !w.jobs.isEmpty

/-- The slug of the name. -/
def slug (w : Workflow) : String := Text.slugify w.name

/-- The path of the workflow's file below the output directory. -/
def path (w : Workflow) : Path :=
  ((Path.mk w.provider.rootDir).join ⟨"workflows"⟩).join ⟨w.slug ++ ".yml"⟩

/-- What is wrong with the workflow. -/
def violations (w : Workflow) : List Violation := CiPipeline.violations w.name w.jobs

end Workflow

end CiPipeline
