import CiPipeline.Collection.OrderedMap
import CiPipeline.GitLab.Rules

set_option autoImplicit false

/-! # GitLab pipeline documents

The parts of GitLab's files, and the tree that is written for each: the jobs of a workflow,
which make up a file of their own, and the top-level file that includes such files. Keys
without a value are left out; scripts, tags and includes are always written.
-/

namespace CiPipeline.GitLab

/-- What is kept of a job, on what occasion, and for how long. -/
structure Artifacts where
  paths : List String
  occasion : String
  expiry : String
  deriving DecidableEq, Inhabited

/-- A job that has to be done before, and whether its artifacts are fetched. -/
structure Need where
  job : String
  artifacts : Option Bool
  deriving DecidableEq, Inhabited

/-- A job. -/
structure Job where
  script : List String
  «variables» : OrderedMap String
  tags : List String
  artifacts : Option Artifacts
  needs : List Need
  occasion : Option String
  resourceGroup : Option String
  rules : List Rule
  deriving DecidableEq, Inhabited

/-- The jobs of a workflow under their names. -/
abbrev JobMap := OrderedMap Job

/-- A file to include, and the rules for it. -/
structure Include where
  path : String
  rules : List Rule
  deriving DecidableEq, Inhabited

/-- The top-level file. -/
structure Pipeline where
  services : List String
  beforeScript : List String
  includes : List Include
  jobs : JobMap
  deriving DecidableEq, Inhabited

/-- A need that only orders the jobs. -/
def Need.plain (job : String) : Need := ⟨job, none⟩

/-- A need that fetches artifacts. -/
def Need.withArtifacts (job : String) : Need := ⟨job, some true⟩

/-! ## Trees -/

def Artifacts.toTree (a : Artifacts) : Tree :=
  .record [
    Tree.field "paths" (Tree.strings a.paths),
    Tree.field "when" (.str a.occasion),
    Tree.field "expire_in" (.str a.expiry)]

def Need.toTree (n : Need) : Tree :=
  .record [Tree.field "job" (.str n.job), Tree.optional "artifacts" .bool n.artifacts]

/-- A list of rules. -/
def rulesTree (rules : List Rule) : Tree := .list (rules.map (·.toTree))

def Job.toTree (j : Job) : Tree :=
  .record [
    Tree.field "script" (Tree.strings j.script),
    Tree.unlessEmpty "variables" Tree.texts j.variables.entries,
    Tree.field "tags" (Tree.strings j.tags),
    Tree.optional "artifacts" Artifacts.toTree j.artifacts,
    Tree.unlessEmpty "needs" (fun needs => .list (needs.map (·.toTree))) j.needs,
    Tree.optional "when" .str j.occasion,
    Tree.optional "resource_group" .str j.resourceGroup,
    Tree.unlessEmpty "rules" rulesTree j.rules]

/-- The jobs as the entries of a map. -/
def JobMap.trees (jobs : JobMap) : List (String × Tree) :=
  jobs.entries.map fun e => (e.1, e.2.toTree)

def JobMap.toTree (jobs : JobMap) : Tree := .map (JobMap.trees jobs)

def Include.toTree (i : Include) : Tree :=
  .record [Tree.field "local" (.str i.path), Tree.unlessEmpty "rules" rulesTree i.rules]

/-- The jobs stand beside the other keys. -/
def Pipeline.toTree (p : Pipeline) : Tree :=
  .record [
    Tree.unlessEmpty "services" Tree.strings p.services,
    Tree.unlessEmpty "before_script" Tree.strings p.beforeScript,
    Tree.field "include" (.list (p.includes.map (·.toTree))),
    JobMap.trees p.jobs]

end CiPipeline.GitLab
