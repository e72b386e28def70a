import CiPipeline.Collection.SortedMap

set_option autoImplicit false

/-! # Jobs and steps

A job is an ordered list of steps. A step carries commands, environment variables, the
directories it leaves as artifacts, and references to other jobs by name: plain ones, which
only order the jobs, and artifact dependencies, which also fetch what the other job left.

What a job as a whole runs, keeps and depends on is read off its steps. Lists of names are
collected over all steps and keep the first of equal names; of two values of one variable
the later step's counts.
-/

namespace CiPipeline

/-- A dependency on the artifacts of another job. -/
structure ArtifactDependency where
  jobName : String
  deriving DecidableEq, Inhabited

/-- Commands that run together. -/
structure Step where
  name : Option String
  commands : List String
  environmentVariables : SortedMap String
  artifactDirectories : List String
  artifactDependencies : List ArtifactDependency
  jobDependencies : List String
  deriving DecidableEq

/-- A named list of steps. -/
structure Job where
  name : String
  steps : List Step
  environment : Option String
  concurrencyGroup : Option String
  deriving DecidableEq

/-! ## Building steps -/

namespace Step

/-- A step with these commands and nothing else. -/
def ofCommands (commands : List String) : Step :=
  ⟨none, commands, .empty, [], [], []⟩

instance : Inhabited Step := ⟨ofCommands []⟩

def withName (s : Step) (name : String) : Step := { s with name := some name }

def withVariable (s : Step) (key value : String) : Step :=
  { s with environmentVariables := s.environmentVariables.insert key value }

def withArtifactDirectory (s : Step) (path : String) : Step :=
  { s with artifactDirectories := s.artifactDirectories ++ [path] }

def withArtifactDependency (s : Step) (jobName : String) : Step :=
  { s with artifactDependencies := s.artifactDependencies ++ [⟨jobName⟩] }

def withJobDependency (s : Step) (jobName : String) : Step :=
  { s with jobDependencies := s.jobDependencies ++ [jobName] }

end Step

/-! ## Building jobs -/

namespace Job

/-- A job with these steps and nothing else. -/
def ofSteps (name : String) (steps : List Step) : Job := ⟨name, steps, none, none⟩

instance : Inhabited Job := ⟨ofSteps "" []⟩

def withStep (j : Job) (step : Step) : Job := { j with steps := j.steps ++ [step] }

def withEnvironment (j : Job) (label : String) : Job := { j with environment := some label }

def withConcurrencyGroup (j : Job) (group : String) : Job :=
  { j with concurrencyGroup := some group }

/-! ## The job as a whole -/

/-- The commands of all steps in order. -/
def commands (j : Job) : List String := j.steps.flatMap (·.commands)

/-- The artifact directories of all steps, each once. -/
def artifactDirectories (j : Job) : List String :=
  (j.steps.flatMap (·.artifactDirectories)).eraseDups

/-- The jobs whose artifacts some step fetches, each once. -/
def artifactDependencies (j : Job) : List String :=
  (j.steps.flatMap (fun s => s.artifactDependencies.map (·.jobName))).eraseDups

/-- The jobs that some step plainly depends on, each once. -/
def jobDependencies (j : Job) : List String :=
  (j.steps.flatMap (·.jobDependencies)).eraseDups

/-- The jobs that this job depends on in either way, each once: first the plain ones. -/
def dependencyNames (j : Job) : List String :=
  (j.jobDependencies ++ j.artifactDependencies).eraseDups

/-- The variables of all steps; of two values of one variable the later step's counts. -/
def «variables» (j : Job) : SortedMap String :=
  j.steps.foldl (fun merged s => merged.insertAll s.environmentVariables.entries) .empty

end Job

end CiPipeline
