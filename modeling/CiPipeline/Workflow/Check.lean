import CiPipeline.Job
import CiPipeline.Workflow.Reachability
import CiPipeline.Workflow.Violation

set_option autoImplicit false

/-! # Checking workflows

The rules for the jobs of a workflow, each as the list of its violations. A workflow is
checked against all of them, and no violation hides another.

Dependencies are between names: jobs of one name stand for one node with the dependencies of
all of them, and a name without a job is no node.
-/

namespace CiPipeline

/-! ## Names -/

/-- A workflow's file lies directly in the directory of workflows. -/
def checkName (workflow : String) : List Violation :=
  if workflow.toList.any (fun c => c == '/' || c == '\\') then
    [.invalidWorkflowName workflow]
  else []

/-! ## Jobs and steps -/

/-- How the step at position `i` (counted from zero) is referred to. -/
def Step.label (s : Step) (i : Nat) : StepLabel :=
  match s.name with
  | some name => .named name
  | none => .numbered (i + 1)

/-- A job has steps, and each of them commands. -/
def checkSteps (j : Job) : List Violation :=
  if j.steps.isEmpty then [.jobWithoutSteps j.name]
  else j.steps.zipIdx.filterMap fun (s, i) =>
    if s.commands.isEmpty then some (.emptyStep j.name (s.label i)) else none

/-- The name of a job is not among those of the jobs before it. -/
def checkUnique (workflow : String) (before : List String) (j : Job) : List Violation :=
  if before.contains j.name then [.duplicateJob workflow j.name] else []

/-- Every job for itself, after the jobs named `before`. -/
def checkJobs (workflow : String) : (before : List String) → (jobs : List Job) → List Violation
  | _, [] => []
  | before, j :: jobs =>
      checkUnique workflow before j ++ checkSteps j
        ++ checkJobs workflow (j.name :: before) jobs

/-! ## Dependencies -/

/-- Every name that a job depends on is the name of a job. -/
def checkDependencies (jobs : List Job) : List Violation :=
  let names := jobs.map (·.name)
  jobs.flatMap fun j =>
    (j.dependencyNames.filter fun d => !names.contains d).map (.missingDependency j.name)

/-- The names of the jobs, each once, in the order of registration. -/
def jobNames (jobs : List Job) : List String := (jobs.map (·.name)).eraseDups

/-- Some job named `a` depends on the registered name `b`. -/
def DependsOn (jobs : List Job) (a b : String) : Prop :=
  (∃ j ∈ jobs, j.name = a ∧ b ∈ j.dependencyNames) ∧ ∃ j ∈ jobs, j.name = b

/-- The names that the jobs named `a` depend on. -/
def dependenciesOf (jobs : List Job) (a : String) : List String :=
  (jobs.filter fun j => j.name == a).flatMap (·.dependencyNames)

/-- The set of some positions, as the bits of a number. -/
def bits (positions : List Nat) : Nat := positions.foldl (fun n i => n ||| 1 <<< i) 0

/-- The dependencies of the jobs as a graph on the positions of their names. -/
def dependencyGraph (jobs : List Job) : Digraph :=
  let names := jobNames jobs
  ⟨names.map fun a => bits (((dependenciesOf jobs a).filter names.contains).map names.idxOf)⟩

/-- The groups of names that depend on each other, in the order of registration. -/
def dependencyCycles (jobs : List Job) : List (List String) :=
  let names := jobNames jobs
  (dependencyGraph jobs).classes.map fun cycle => cycle.filterMap fun i => names[i]?

/-- The jobs can be put in an order. -/
def checkOrder (workflow : String) (jobs : List Job) : List Violation :=
  (dependencyCycles jobs).map (.cyclicDependency workflow)

/-! ## The whole check -/

/-- All violations of a workflow of this name with these jobs. -/
def violations (workflow : String) (jobs : List Job) : List Violation :=
  checkName workflow ++ checkJobs workflow [] jobs ++ checkDependencies jobs
    ++ checkOrder workflow jobs

end CiPipeline
