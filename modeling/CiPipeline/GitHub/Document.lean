import CiPipeline.Collection.OrderedMap
import CiPipeline.Tree

set_option autoImplicit false

/-! # GitHub workflow documents

The parts of a workflow file for GitHub, and the tree that is written for each. Keys without
a value are left out; lists of branches and steps are always written.
-/

namespace CiPipeline.GitHub

/-- The branches that an event is about; for pull requests, the target branches. -/
structure BranchFilter where
  branches : List String
  deriving DecidableEq, Inhabited

/-- The events that start a workflow. -/
structure Triggers where
  push : Option BranchFilter
  pullRequest : Option BranchFilter
  deriving DecidableEq, Inhabited

/-- Jobs of one group do not run at the same time. -/
structure Concurrency where
  group : String
  cancelInProgress : Option Bool
  deriving DecidableEq, Inhabited

/-- A step: the use of an action with inputs, or a script to run. -/
structure Step where
  name : Option String
  action : Option String
  inputs : OrderedMap Tree
  env : OrderedMap String
  script : Option String
  deriving Inhabited

/-- A job. -/
structure Job where
  name : String
  needs : List String
  concurrency : Option Concurrency
  runner : String
  env : OrderedMap String
  steps : List Step
  deriving Inhabited

/-- A workflow file. -/
structure Document where
  name : String
  triggers : Triggers
  jobs : OrderedMap Job
  deriving Inhabited

/-! ## Building steps -/

namespace Step

/-- A step that uses an action. -/
def uses (action : String) : Step := { (default : Step) with action := some action }

/-- A step that runs a script. -/
def run (script : String) : Step := { (default : Step) with script := some script }

def withName (s : Step) (name : String) : Step := { s with name := some name }

def withInput (s : Step) (key : String) (value : Tree) : Step :=
  { s with inputs := s.inputs.insert key value }

def withVariable (s : Step) (key value : String) : Step :=
  { s with env := s.env.insert key value }

end Step

/-! ## Trees -/

def BranchFilter.toTree (f : BranchFilter) : Tree :=
  .record [Tree.field "branches" (Tree.strings f.branches)]

def Triggers.toTree (t : Triggers) : Tree :=
  .record [
    Tree.optional "push" BranchFilter.toTree t.push,
    Tree.optional "pull_request" BranchFilter.toTree t.pullRequest]

def Concurrency.toTree (c : Concurrency) : Tree :=
  .record [
    Tree.field "group" (.str c.group),
    Tree.optional "cancel-in-progress" .bool c.cancelInProgress]

def Step.toTree (s : Step) : Tree :=
  .record [
    Tree.optional "name" .str s.name,
    Tree.optional "uses" .str s.action,
    Tree.unlessEmpty "with" .map s.inputs.entries,
    Tree.unlessEmpty "env" Tree.texts s.env.entries,
    Tree.optional "run" .str s.script]

def Job.toTree (j : Job) : Tree :=
  .record [
    Tree.field "name" (.str j.name),
    Tree.unlessEmpty "needs" Tree.strings j.needs,
    Tree.optional "concurrency" Concurrency.toTree j.concurrency,
    Tree.field "runs-on" (.str j.runner),
    Tree.unlessEmpty "env" Tree.texts j.env.entries,
    Tree.field "steps" (.list (j.steps.map (·.toTree)))]

/-- The map of the jobs under their keys. -/
def jobsTree (jobs : OrderedMap Job) : Tree := .map (jobs.entries.map fun e => (e.1, e.2.toTree))

def Document.toTree (d : Document) : Tree :=
  .record [
    Tree.field "name" (.str d.name),
    Tree.field "on" d.triggers.toTree,
    Tree.field "jobs" (jobsTree d.jobs)]

end CiPipeline.GitHub
