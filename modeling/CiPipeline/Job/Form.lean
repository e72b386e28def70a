import CiPipeline.Decode.Record
import CiPipeline.Decode.Variant
import CiPipeline.Job
import CiPipeline.Provider
import CiPipeline.Trigger

set_option autoImplicit false

/-! # Jobs in definitions

How triggers, providers, jobs and steps are written as trees, and how they are decoded. A
step is nothing without its commands and a job nothing without its name; everything else
may be left out, and is left out when it is empty. The steps of a job are always written.
-/

namespace CiPipeline

open Decode

namespace Trigger

def toTree (t : Trigger) : Tree := .str t.name

def decode : Decoder Trigger := variant (all.map fun t => (t.name, t))

end Trigger

namespace Provider

def toTree (p : Provider) : Tree := .str p.name

def decode : Decoder Provider := variant ([gitHub, gitLab].map fun p => (p.name, p))

end Provider

namespace ArtifactDependency

def toTree (d : ArtifactDependency) : Tree := .record [Tree.field "job_name" (.str d.jobName)]

def shape : Shape ArtifactDependency where
  title := "struct ArtifactDependency"
  blank := ⟨""⟩
  fields := [.require "job_name" string fun v _ => ⟨v⟩]

def decode : Decoder ArtifactDependency := shape.decode

end ArtifactDependency

namespace Step

def toTree (s : Step) : Tree :=
  .record [
    Tree.optional "name" .str s.name,
    Tree.field "commands" (Tree.strings s.commands),
    Tree.unlessEmpty "environment_variables" Tree.texts s.environmentVariables.entries,
    Tree.unlessEmpty "artifact_directories" Tree.strings s.artifactDirectories,
    Tree.unlessEmpty "artifact_dependencies" (fun ds => .list (ds.map (·.toTree)))
      s.artifactDependencies,
    Tree.unlessEmpty "job_dependencies" Tree.strings s.jobDependencies]

def shape : Shape Step where
  title := "struct Step"
  blank := default
  fields := [
    .allow "name" (optional string) fun v s => { s with name := v },
    .require "commands" (list string) fun v s => { s with commands := v },
    .allow "environment_variables" texts fun v s => { s with environmentVariables := v },
    .allow "artifact_directories" (list string) fun v s => { s with artifactDirectories := v },
    .allow "artifact_dependencies" (list ArtifactDependency.decode)
      fun v s => { s with artifactDependencies := v },
    .allow "job_dependencies" (list string) fun v s => { s with jobDependencies := v }]

def decode : Decoder Step := shape.decode

end Step

namespace Job

def toTree (j : Job) : Tree :=
  .record [
    Tree.field "name" (.str j.name),
    Tree.field "steps" (.list (j.steps.map (·.toTree))),
    Tree.optional "environment" .str j.environment,
    Tree.optional "concurrency_group" .str j.concurrencyGroup]

def shape : Shape Job where
  title := "struct Job"
  blank := default
  fields := [
    .require "name" string fun v j => { j with name := v },
    .allow "steps" (list Step.decode) fun v j => { j with steps := v },
    .allow "environment" (optional string) fun v j => { j with environment := v },
    .allow "concurrency_group" (optional string) fun v j => { j with concurrencyGroup := v }]

def decode : Decoder Job := shape.decode

end Job

end CiPipeline
