import CiPipeline.GitLab.Document
import CiPipeline.GitLab.Options
import CiPipeline.Workflow.Basic

set_option autoImplicit false

/-! # Compiling workflows for GitLab

Every job becomes an entry under its own name. An entry runs the commands of all steps as
one script, with the variables of all steps; of two values of one variable the later step's
counts, also before the label of the job's environment.
-/

namespace CiPipeline.GitLab

/-- What is the same for all jobs. -/
structure Compiler where
  defaultTags : List String
  artifactExpiry : String
  manualJobs : NameSet
  deriving DecidableEq, Inhabited

namespace Compiler

/-! ## Settings -/

def ofOptions (o : Options) : Compiler := ⟨o.defaultTags, o.artifactExpiry, o.manualJobs⟩

def withDefaultTags (c : Compiler) (tags : List String) : Compiler :=
  { c with defaultTags := tags }

def withArtifactExpiry (c : Compiler) (expiry : String) : Compiler :=
  { c with artifactExpiry := expiry }

def withManualJob (c : Compiler) (name : String) : Compiler :=
  { c with manualJobs := c.manualJobs.add name }

/-! ## Jobs -/

/-- The variables of a job: first the label of its environment, then those of its steps. -/
def «variables» (j : CiPipeline.Job) : OrderedMap String :=
  (OrderedMap.ofList (j.environment.toList.map fun label => ("ENVIRONMENT", label))).insertAll
    j.variables.entries

/-- What is kept of a job, if anything. -/
def artifacts (c : Compiler) (j : CiPipeline.Job) : Option Artifacts :=
  if j.artifactDirectories.isEmpty then none
  else some ⟨j.artifactDirectories, "on_success", c.artifactExpiry⟩

/-- The jobs that a job depends on. One that it depends on in both ways is named once, with
its artifacts. -/
def needs (j : CiPipeline.Job) : List Need :=
  j.dependencyNames.map fun name =>
    if j.artifactDependencies.contains name then .withArtifacts name else .plain name

/-- The job is started by hand. -/
def isManual (c : Compiler) (j : CiPipeline.Job) : Bool := c.manualJobs.contains j.name

/-- The entry for a job. -/
def job (c : Compiler) (j : CiPipeline.Job) : Job where
  script := j.commands
  «variables» := «variables» j
  tags := c.defaultTags ++ j.environment.toList
  artifacts := c.artifacts j
  needs := needs j
  occasion := if c.isManual j then some "manual" else none
  resourceGroup := j.concurrencyGroup
  rules := []

/-- The entries for some jobs under their names. -/
def jobs (c : Compiler) (js : List CiPipeline.Job) : JobMap :=
  .ofList (js.map fun j => (j.name, c.job j))

/-! ## Logs -/

/-- Tells of a job that has been built. -/
def built (c : Compiler) (j : CiPipeline.Job) : Log.Entry :=
  { level := .debug, target := "cicd_gitlab::compiler", message := "Built GitLab job",
    fields := [("job", .text j.name), ("manual", .flag (c.isManual j)),
      ("needs", .number j.dependencyNames.length)] }

/-- The entry for a job, with its log. -/
def buildJob (c : Compiler) (j : CiPipeline.Job) : Logged Job := ⟨c.job j, [c.built j]⟩

/-- The entries for some jobs, with their log. -/
def buildJobs (c : Compiler) (js : List CiPipeline.Job) : Logged JobMap :=
  ⟨c.jobs js, js.map c.built⟩

/-- The jobs of a workflow, if it has any. -/
def compile (c : Compiler) (w : Workflow) : Logged (Option JobMap) :=
  if w.hasJobs then ⟨some (c.jobs w.jobs), w.jobs.map c.built⟩ else ⟨none, []⟩

end Compiler

end CiPipeline.GitLab
