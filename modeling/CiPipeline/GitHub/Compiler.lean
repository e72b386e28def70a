import CiPipeline.GitHub.Document
import CiPipeline.GitHub.Options
import CiPipeline.Workflow.Basic

set_option autoImplicit false

/-! # Compiling workflows for GitHub

Every job becomes an entry under the slug of its name; of jobs with one slug the last one is
kept, at the place of the first. An entry checks out the repository, runs the commands of
each step as one script, uploads the artifacts of the whole job as one bundle named by its
key, and downloads the bundles of the jobs whose artifacts it fetches.
-/

namespace CiPipeline.GitHub

def checkoutAction : String := "actions/checkout@v4"

def uploadAction : String := "actions/upload-artifact@v4"

def downloadAction : String := "actions/download-artifact@v4"

/-- What is the same for all jobs. -/
structure Compiler where
  runner : String
  branches : List String
  deriving DecidableEq, Inhabited

namespace Compiler

/-! ## Settings -/

def ofOptions (o : Options) : Compiler := ⟨o.defaultRunner, o.branches⟩

def withRunner (c : Compiler) (runner : String) : Compiler := { c with runner := runner }

def withBranches (c : Compiler) (branches : List String) : Compiler :=
  { c with branches := branches }

/-! ## Steps -/

/-- The slugs of some names, each once. -/
def slugs (names : List String) : List String := (names.map Text.slugify).eraseDups

/-- The step that fetches the repository with its history and tags. -/
def checkoutStep : Step :=
  ((Step.uses checkoutAction).withName "Checkout Repository").withInput "fetch-depth" (.int 0)
    |>.withInput "fetch-tags" (.bool true)

/-- The step that runs the commands of a model step, one to a line. -/
def scriptStep (s : CiPipeline.Step) : Step :=
  { Step.run (String.intercalate "\n" s.commands) with
    name := s.name
    env := .ofList s.environmentVariables.entries }

/-- The step that keeps directories as a bundle. -/
def uploadStep (bundle : String) (directories : List String) : Step :=
  ((Step.uses uploadAction).withName "Upload Artifacts").withInput "name" (.str bundle)
    |>.withInput "path" (.str (String.intercalate "\n" directories))

/-- The step that fetches bundles: a single one by its name, several by a pattern. -/
def downloadStep (bundles : List String) : Step :=
  let step := (Step.uses downloadAction).withName "Download Artifacts"
  match bundles with
  | [bundle] => step.withInput "name" (.str bundle)
  | _ =>
      (step.withInput "pattern" (.str ("\x7b" ++ String.intercalate "," bundles ++ "\x7d")))
        |>.withInput "merge-multiple" (.bool true)

/-- The steps of a job in order. -/
def steps (j : CiPipeline.Job) : List Step :=
  let directories := j.artifactDirectories
  let bundles := slugs j.artifactDependencies
  [checkoutStep] ++ j.steps.map scriptStep
    ++ (if directories.isEmpty then [] else [uploadStep (Text.slugify j.name) directories])
    ++ (if bundles.isEmpty then [] else [downloadStep bundles])

/-! ## Jobs -/

/-- The entry for a job. -/
def job (c : Compiler) (j : CiPipeline.Job) : Job where
  name := j.name
  needs := slugs j.dependencyNames
  concurrency := j.concurrencyGroup.map fun group => ⟨group, none⟩
  runner := c.runner
  env := .ofList (j.environment.toList.map fun label => ("ENVIRONMENT", label))
  steps := steps j

/-- The entries for some jobs under their slugs. -/
def jobs (c : Compiler) (js : List CiPipeline.Job) : OrderedMap Job :=
  .ofList (js.map fun j => (Text.slugify j.name, c.job j))

/-- The events for a trigger. -/
def triggers (c : Compiler) : Trigger → Triggers
  | .codeChangeRequest => ⟨none, some ⟨c.branches⟩⟩
  | .push => ⟨some ⟨c.branches⟩, none⟩

/-- The document for a workflow that has jobs. -/
def document (c : Compiler) (w : Workflow) : Document :=
  ⟨w.name, c.triggers w.trigger, c.jobs w.jobs⟩

/-! ## Logs -/

def logTarget : String := "cicd_github::workflow::compiler"

/-- Tells of a job that has been built. -/
def built (j : CiPipeline.Job) : Log.Entry :=
  { level := .debug, target := logTarget, message := "Built GitHub job",
    fields := [("job", .text j.name), ("steps", .number (steps j).length),
      ("needs", .number j.dependencyNames.length)] }

/-- Warns of a job that takes the place of an earlier one. -/
def collides (j : CiPipeline.Job) : Log.Entry :=
  { level := .warn, target := logTarget,
    message := "Job slug collides with an earlier job, the later job wins",
    fields := [("job", .text j.name), ("key", .text (Text.slugify j.name))] }

/-- What is told of some jobs, after jobs with the keys `before`. -/
def jobsLog : (before : List String) → List CiPipeline.Job → List Log.Entry
  | _, [] => []
  | before, j :: js =>
      let key := Text.slugify j.name
      (if before.contains key then [collides j] else []) ++ built j :: jobsLog (key :: before) js

/-- The entry for a job, with its log. -/
def buildJob (c : Compiler) (j : CiPipeline.Job) : Logged Job := ⟨c.job j, [built j]⟩

/-- The entries for some jobs, with their log. -/
def buildJobs (c : Compiler) (js : List CiPipeline.Job) : Logged (OrderedMap Job) :=
  ⟨c.jobs js, jobsLog [] js⟩

/-- The document for a workflow, if it has jobs. -/
def compile (c : Compiler) (w : Workflow) : Logged (Option Document) :=
  if w.hasJobs then ⟨some (c.document w), jobsLog [] w.jobs⟩ else ⟨none, []⟩

end Compiler

end CiPipeline.GitHub
