import OpenStudioOperator.Foundation.JsonPath
import OpenStudioOperator.StatusReadback
import OpenStudioOperator.WebBackgroundMonitor

/-!
# What a rolling restart writes

A restart is a merge patch of one annotation of the pod template.  The cluster rolls the pods
of a Deployment when its pod template changes; others write the Deployment between restarts.
-/

namespace OpenStudioOperator
namespace RollingRestart

open Foundation
open StatusDocument (Representable isoformat parseIsoUtc timestamp)

def templatePath : List String := ["spec", "template"]

def annotationPath (restartAnnotationKey : String) : List String :=
  ["spec", "template", "metadata", "annotations", restartAnnotationKey]

/-- The `patch_body`. -/
def patchBody (restartAnnotationKey : String) (now : Instant) : Json :=
  .obj [("spec", .obj [("template", .obj [("metadata",
    .obj [("annotations", .obj [(restartAnnotationKey, timestamp now)])])])])]

/-- `rolling_restart_deployment`: the timestamp that it returns, and the Deployment after the
merge patch. -/
def rollingRestartDeployment (restartAnnotationKey : String) (now : Instant) (deployment : Json) :
    String × Json :=
  (isoformat now, deployment.mergePatch (patchBody restartAnnotationKey now))

/-!
## Runs
-/

/-- A restart by the operator, or a write by somebody else. -/
inductive Step where
  | restart (now : Instant)
  | other (write : Json -> Json)

def step (restartAnnotationKey : String) : Step -> Json -> Json
  | .restart now, deployment => (rollingRestartDeployment restartAnnotationKey now deployment).2
  | .other write, deployment => write deployment

/-- The Deployment after a history, the newest step first. -/
def deploymentAfter (restartAnnotationKey : String) (initial : Json) : List Step -> Json
  | [] => initial
  | s :: older => step restartAnnotationKey s (deploymentAfter restartAnnotationKey initial older)

/-- The write leaves the annotation as it is. -/
def Spares (restartAnnotationKey : String) (write : Json -> Json) : Prop :=
  forall deployment : Json, (write deployment).at? (annotationPath restartAnnotationKey) =
    deployment.at? (annotationPath restartAnnotationKey)

/-- The pods are rolled. -/
def Rolls (before after : Json) : Prop := after.at? templatePath ≠ before.at? templatePath

section Restarts

variable {restartAnnotationKey : String} {initial : Json}

theorem patchBody_eq (now : Instant) :
    patchBody restartAnnotationKey now =
      Json.patchAt (timestamp now) (annotationPath restartAnnotationKey) :=
  rfl

/-- A restart writes its timestamp, whatever the Deployment was like. -/
theorem at?_restart (now : Instant) (deployment : Json) :
    (deployment.mergePatch (patchBody restartAnnotationKey now)).at?
      (annotationPath restartAnnotationKey) = some (timestamp now) := by
  rw [patchBody_eq, Json.at?_patchAt_self rfl]
  rfl

theorem timestamp_injective {t t' : Instant} (h : Representable t) (h' : Representable t')
    (heq : timestamp t = timestamp t') : t = t' := by
  have hread := @StatusDocument.parseIsoUtc_timestamp UnicodeData.ascii t h
  rw [heq, StatusDocument.parseIsoUtc_timestamp h'] at hread
  exact (Except.ok.inj hread).symm

/-- The annotation shows the last restart, or what it showed at first. -/
theorem at?_deploymentAfter {history : List Step}
    (hothers : forall write, .other write ∈ history -> Spares restartAnnotationKey write) :
    (exists now, .restart now ∈ history ∧
        (deploymentAfter restartAnnotationKey initial history).at?
          (annotationPath restartAnnotationKey) = some (timestamp now)) ∨
      (deploymentAfter restartAnnotationKey initial history).at?
          (annotationPath restartAnnotationKey) =
        initial.at? (annotationPath restartAnnotationKey) := by
  induction history with
  | nil => exact .inr rfl
  | cons s older ih =>
      cases s with
      | restart now => exact .inl ⟨now, List.mem_cons_self, at?_restart now _⟩
      | other write =>
          have hspares := hothers write List.mem_cons_self
            (deploymentAfter restartAnnotationKey initial older)
          rcases ih fun w hw => hothers w (List.mem_cons_of_mem _ hw) with ⟨now, hmem, hat⟩ | hat
          · exact .inl ⟨now, List.mem_cons_of_mem _ hmem, hspares.trans hat⟩
          · exact .inr (hspares.trans hat)

/-- Every restart that is later than those before it rolls the pods, whatever others write to the
rest of the Deployment in between: it changes the pod template, its timestamp reads back as its
instant, and nothing that is not on the way to the annotation or below it is touched. -/
theorem every_restart_rolls {older : List Step} {now : Instant} (unicode : UnicodeData)
    (hnow : Representable now)
    (hothers : forall write, .other write ∈ older -> Spares restartAnnotationKey write)
    (hearlier : forall t, .restart t ∈ older -> Representable t ∧ t < now)
    (hinitial : initial.at? (annotationPath restartAnnotationKey) ≠ some (timestamp now)) :
    let before := deploymentAfter restartAnnotationKey initial older
    let after := deploymentAfter restartAnnotationKey initial (.restart now :: older)
    Rolls before after ∧
      (exists v, after.at? (annotationPath restartAnnotationKey) = some v ∧
        parseIsoUtc unicode v = .ok now) ∧
      forall q, ¬ annotationPath restartAnnotationKey <+: q ->
        ¬ q <+: annotationPath restartAnnotationKey -> after.at? q = before.at? q := by
  intro before after
  have hafter : after.at? (annotationPath restartAnnotationKey) = some (timestamp now) :=
    at?_restart now before
  have hbefore : before.at? (annotationPath restartAnnotationKey) ≠ some (timestamp now) := by
    rcases at?_deploymentAfter hothers with ⟨t, hmem, hat⟩ | hat
    · rcases hearlier t hmem with ⟨ht, hlt⟩
      intro hsame
      have heq := timestamp_injective ht hnow (Option.some.inj (hat.symm.trans hsame))
      exact absurd heq (ne_of_lt hlt)
    · exact fun hsame => hinitial (hat.symm.trans hsame)
  have hsplit : annotationPath restartAnnotationKey =
      templatePath ++ ["metadata", "annotations", restartAnnotationKey] :=
    rfl
  refine ⟨?_, ⟨_, hafter, StatusDocument.parseIsoUtc_timestamp hnow⟩, ?_⟩
  · intro hsame
    rw [hsplit, Json.at?_append] at hafter hbefore
    rw [<- hsame] at hbefore
    exact hbefore hafter
  · intro q hbelow habove
    exact Json.at?_patchAt_of_apart before hbelow habove

end Restarts

/-- A Deployment that others scale, restarted twice. -/
def scaled (replicas : Int) (deployment : Json) : Json :=
  deployment.mergePatch (Json.patchAt (.int replicas) ["spec", "replicas"])

theorem every_restart_rolls_scaled :
    Rolls (scaled 3 (deploymentAfter restartedAtAnnotation (.obj []) [.restart (minutes 5)]))
      (deploymentAfter restartedAtAnnotation (.obj [])
        [.restart (minutes 9), .other (scaled 3), .restart (minutes 5)]) := by
  have hspares : Spares restartedAtAnnotation (scaled 3) := fun deployment =>
    Json.at?_patchAt_of_apart deployment (by decide +kernel) (by decide +kernel)
  refine (every_restart_rolls UnicodeData.ascii (by decide +kernel) ?_ ?_ ?_).1
  · intro write hmem
    simp only [List.mem_cons, Step.other.injEq, reduceCtorEq, List.not_mem_nil, or_false] at hmem
    rw [hmem]
    exact hspares
  · intro t hmem
    simp only [List.mem_cons, Step.restart.injEq, reduceCtorEq, List.not_mem_nil, or_false,
      false_or] at hmem
    rw [hmem]
    exact ⟨by decide +kernel, by decide +kernel⟩
  · decide +kernel

end RollingRestart
end OpenStudioOperator
