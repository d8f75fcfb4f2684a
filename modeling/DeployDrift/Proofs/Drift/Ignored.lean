import DeployDrift.Proofs.Merge.Exactness
import DeployDrift.Proofs.Merge.Sameness
import DeployDrift.Proofs.Merge.Steady
import DeployDrift.Proofs.Pointer.Fields

/-!
# Ignored fields do not matter

What an ignored pointer leads to is gone from both sides when they are compared, and the other
removals, made before it or after it, do not depend on it.  So two comparisons whose sides differ in
an ignored field alone, with one record of what was applied last, come out the same.
-/
namespace DeployDrift

theorem mem_dropRepeats {α : Type} [DecidableEq α] {a : α} {xs : List α} :
    a ∈ dropRepeats xs ↔ a ∈ xs := by
  induction xs with
  | nil => rfl
  | cons x rest ih =>
    cases rest with
    | nil => rfl
    | cons y rest =>
      rw [dropRepeats]
      split
      next heq => rw [ih, heq]; simp
      next => rw [List.mem_cons, ih, List.mem_cons (b := x)]

theorem mem_removalOrder {pointer : String} {pointers : List String} :
    pointer ∈ removalOrder pointers ↔ pointer ∈ pointers := by
  rw [removalOrder, mem_dropRepeats, List.mem_mergeSort]

namespace Document

/-- The document without the fields ignored for the key. -/
def withoutIgnored (d : Document) (key : ResourceKey) (config : DriftConfig) : Document :=
  let rest := d.removeEach (removalOrder (config.ignoredPointers key))
  if config.ignoreAggregatedRoles && ResourceObject.isClusterRole key &&
      (rest.get? "aggregationRule").isSome then
    rest.remove "/rules"
  else rest

section Ignored

variable {p : String} {d : Document} {key : ResourceKey} {config : DriftConfig}

theorem same_withoutIgnored {a b : Document} (h : a.same b = true) (key : ResourceKey)
    (config : DriftConfig) : (a.withoutIgnored key config).same (b.withoutIgnored key config) := by
  have hrest := same_removeEach h (removalOrder (config.ignoredPointers key))
  have hrule := congrArg Option.isSome (same_get? hrest "aggregationRule")
  rw [Option.isSome_map, Option.isSome_map] at hrule
  simp only [withoutIgnored, hrule]
  split
  · exact same_remove hrest "/rules"
  · exact hrest

theorem withoutIgnored_remove (hm : p ∈ config.ignoredPointers key) (hp : Pointer.FieldsOnly p)
    (hw : d.WellFormed) : (d.remove p).withoutIgnored key config = d.withoutIgnored key config := by
  rw [withoutIgnored, removeEach_remove hp hw (mem_removalOrder.mpr hm), withoutIgnored]

theorem find?_withoutIgnored (hm : p ∈ config.ignoredPointers key) (hp : Pointer.FieldsOnly p)
    (hne : p ≠ "") (hw : d.WellFormed) : (d.withoutIgnored key config).find? p = none := by
  have hnone := find?_removeEach hp hne hw (mem_removalOrder.mpr hm)
  rw [withoutIgnored]
  split
  · exact find?_remove_of_none hp (hw.removeEach _) hnone "/rules"
  · exact hnone

/-- Where neither side has what a pointer leads to, the prediction does not have it. -/
theorem find?_predict_eq_none {live target applied : Document} (hl : live.WellFormed)
    (ht : target.WellFormed) (ha : applied.WellFormed) (hp : Pointer.FieldsOnly p)
    (hlive : live.find? p = none) (htarget : target.find? p = none) :
    (predict live target applied).find? p = none := by
  cases htokens : Pointer.tokens? p.toList with
  | none => rw [find?, htokens]; rfl
  | some tokens =>
    rw [find?_eq_fieldAt? hp htokens] at hlive htarget ⊢
    exact fieldAt?_predict_eq_none hl ht ha hlive htarget

end Ignored

end Document

namespace ResourceObject

theorem document_removeAll (o : ResourceObject) (pointers : List String) :
    (o.removeAll pointers).document = o.document.removeEach (removalOrder pointers) := by
  unfold removeAll Document.removeEach
  induction removalOrder pointers generalizing o with
  | nil => rfl
  | cons q rest ih => rw [List.foldl_cons, List.foldl_cons, ih, document_removePointer]

/-- Normalizing an object is removing the ignored fields from its document. -/
theorem document_normalize (o : ResourceObject) (key : ResourceKey) (config : DriftConfig) :
    (o.normalize key config).document = o.document.withoutIgnored key config := by
  have hfield : (o.removeAll (config.ignoredPointers key)).field? "aggregationRule" =
      (o.document.removeEach (removalOrder (config.ignoredPointers key))).get? "aggregationRule" :=
    congrArg (·.get? "aggregationRule") (document_removeAll o _)
  rw [normalize, Document.withoutIgnored]
  simp only [hfield]
  split
  · rw [document_removePointer, document_removeAll]
  · exact document_removeAll o _

theorem document_injective {a b : ResourceObject} (h : a.document = b.document) : a = b :=
  ext (Document.mapping.inj h)

section Ignored

variable {pointer : String} {key : ResourceKey} {config : DriftConfig} {a b : ResourceObject}

/-- An ignored pointer may be removed before the object is normalized. -/
theorem document_normalize_remove (hm : pointer ∈ config.ignoredPointers key)
    (hp : Pointer.FieldsOnly pointer) (o : ResourceObject) :
    (o.normalize key config).document = (o.document.remove pointer).withoutIgnored key config :=
  (document_normalize o key config).trans (Document.withoutIgnored_remove hm hp o.wellFormed).symm

theorem same_normalize_of_same_remove (hm : pointer ∈ config.ignoredPointers key)
    (hp : Pointer.FieldsOnly pointer)
    (h : (a.document.remove pointer).same (b.document.remove pointer) = true) :
    (a.normalize key config).document.same (b.normalize key config).document = true := by
  rw [document_normalize_remove hm hp, document_normalize_remove hm hp]
  exact Document.same_withoutIgnored h key config

theorem normalize_eq_of_remove_eq (hm : pointer ∈ config.ignoredPointers key)
    (hp : Pointer.FieldsOnly pointer)
    (h : a.document.remove pointer = b.document.remove pointer) :
    a.normalize key config = b.normalize key config := by
  apply document_injective
  rw [document_normalize_remove hm hp, document_normalize_remove hm hp, h]

theorem find?_normalize (hm : pointer ∈ config.ignoredPointers key)
    (hp : Pointer.FieldsOnly pointer) (hne : pointer ≠ "") (o : ResourceObject) :
    (o.normalize key config).document.find? pointer = none := by
  rw [document_normalize]
  exact Document.find?_withoutIgnored hm hp hne o.wellFormed

/-- The configuration applied last is read from its record and from nothing else. -/
theorem lastApplied?_congr (h : a.annotationText? lastAppliedKey = b.annotationText? lastAppliedKey)
    (key : ResourceKey) (config : DriftConfig) :
    a.lastApplied? key config = b.lastApplied? key config := by
  rw [lastApplied?, lastApplied?, lastAppliedRecord, lastAppliedRecord, h]

end Ignored

end ResourceObject

namespace Comparison

/-- What is predicted from both sides of a resource. -/
def predictedOf (key : ResourceKey) (live target : ResourceObject) (config : DriftConfig) :
    ResourceObject :=
  predict (live.normalize key config) (target.normalize key config) (live.lastApplied? key config)

theorem ofSides_predictedOf (key : ResourceKey) (live target : ResourceObject)
    (config : DriftConfig) :
    ofSides key (some live) (some target) config =
      .ok ⟨!(predictedOf key live target config).document.same
          (live.normalize key config).document,
        some (live.normalize key config), some (predictedOf key live target config)⟩ :=
  ofSides_both key live target config

theorem document_predictedOf (key : ResourceKey) (live target : ResourceObject)
    (config : DriftConfig) :
    (predictedOf key live target config).document =
      (live.normalize key config).document.predict (target.normalize key config).document
        (live.lastAppliedDocument key config) :=
  document_predict_lastApplied key live target config

section Ignored

variable {pointer : String} {key : ResourceKey} {config : DriftConfig}
  {live live' target target' : ResourceObject}

theorem same_predictedOf (hm : pointer ∈ config.ignoredPointers key)
    (hp : Pointer.FieldsOnly pointer)
    (hlive : (live.document.remove pointer).same (live'.document.remove pointer) = true)
    (hrecord : live.annotationText? lastAppliedKey = live'.annotationText? lastAppliedKey)
    (htarget : (target.document.remove pointer).same (target'.document.remove pointer) = true) :
    (predictedOf key live target config).document.same
      (predictedOf key live' target' config).document = true := by
  rw [document_predictedOf, document_predictedOf, ResourceObject.lastAppliedDocument,
    ResourceObject.lastAppliedDocument, ResourceObject.lastApplied?_congr hrecord]
  exact Document.same_predict (live.normalize key config).wellFormed
    (live'.normalize key config).wellFormed (target.normalize key config).wellFormed
    (target'.normalize key config).wellFormed (lastAppliedDocument_wellFormed live' key config)
    (ResourceObject.same_normalize_of_same_remove hm hp hlive)
    (ResourceObject.same_normalize_of_same_remove hm hp htarget)

theorem find?_predictedOf (hm : pointer ∈ config.ignoredPointers key)
    (hp : Pointer.FieldsOnly pointer) (hne : pointer ≠ "") (live target : ResourceObject) :
    (predictedOf key live target config).document.find? pointer = none := by
  rw [document_predictedOf]
  exact Document.find?_predict_eq_none (live.normalize key config).wellFormed
    (target.normalize key config).wellFormed (lastAppliedDocument_wellFormed live key config) hp
    (ResourceObject.find?_normalize hm hp hne live)
    (ResourceObject.find?_normalize hm hp hne target)

/-- Sides that differ in an ignored field alone compare the same, and no outcome has the field. -/
theorem ofSides_ignored (hm : pointer ∈ config.ignoredPointers key) (hne : pointer ≠ "")
    (hp : Pointer.FieldsOnly pointer)
    (hlive : (live.document.remove pointer).same (live'.document.remove pointer) = true)
    (hrecord : live.annotationText? lastAppliedKey = live'.annotationText? lastAppliedKey)
    (htarget : (target.document.remove pointer).same (target'.document.remove pointer) = true) :
    ∃ modified normalized normalized' predicted predicted',
      ofSides key (some live) (some target) config =
        .ok ⟨modified, some normalized, some predicted⟩ ∧
      ofSides key (some live') (some target') config =
        .ok ⟨modified, some normalized', some predicted'⟩ ∧
      normalized.document.same normalized'.document = true ∧
      predicted.document.same predicted'.document = true ∧
      -- where the sides do not differ in the signs of zeros either, neither do the outcomes
      (live.document.remove pointer = live'.document.remove pointer → normalized = normalized') ∧
      (live.document.remove pointer = live'.document.remove pointer →
        target.document.remove pointer = target'.document.remove pointer →
        predicted = predicted') ∧
      ∀ o ∈ [normalized, normalized', predicted, predicted'], o.document.find? pointer = none := by
  have hnormalized := ResourceObject.same_normalize_of_same_remove hm hp hlive
  have hpredicted := same_predictedOf hm hp hlive hrecord htarget
  have hflag : (predictedOf key live target config).document.same
      (live.normalize key config).document =
      (predictedOf key live' target' config).document.same
        (live'.normalize key config).document := by
    rw [Document.same, Document.same, Document.same_iff.mp hpredicted,
      Document.same_iff.mp hnormalized]
  refine ⟨_, _, _, _, _, ofSides_predictedOf key live target config, ?_, hnormalized, hpredicted,
    ?_, ?_, ?_⟩
  · rw [ofSides_predictedOf, hflag]
  · exact ResourceObject.normalize_eq_of_remove_eq hm hp
  · intro hlives htargets
    rw [predictedOf, predictedOf, ResourceObject.normalize_eq_of_remove_eq hm hp hlives,
      ResourceObject.normalize_eq_of_remove_eq hm hp htargets,
      ResourceObject.lastApplied?_congr hrecord]
  · intro o ho
    simp only [List.mem_cons, List.not_mem_nil, or_false] at ho
    rcases ho with rfl | rfl | rfl | rfl
    · exact ResourceObject.find?_normalize hm hp hne live
    · exact ResourceObject.find?_normalize hm hp hne live'
    · exact find?_predictedOf hm hp hne live target
    · exact find?_predictedOf hm hp hne live' target'

end Ignored

section Replicas

/-- A deployment of some replicas. -/
def scaledDeployment (replicas : Int) : ResourceObject where
  fields := Table.insert [("apiVersion", .text "apps/v1"), ("kind", .text "Deployment"),
      ("metadata", .mapping [("name", .text "web")])]
    "spec" (.mapping (Table.insert [] "replicas" (.number (.int replicas))))
  wellFormed := Document.wellFormed_insert (by decide) _
    (Document.wellFormed_insert Document.wellFormed_empty _ (by simp [Document.WellFormed]))

def webDeployment : ResourceKey := ⟨"apps", "Deployment", "", "web"⟩

/-- Ignores the replicas of deployments, and the status of every resource. -/
def replicasIgnored : DriftConfig where
  rules := [⟨"apps", "Deployment", "", "", ["/spec/replicas"]⟩]
  overrides := [(everyKind, ["/status"])]
  tracking := .standard
  ignoreAggregatedRoles := false

/-- Scaling by hand is no drift, whatever number of replicas is declared. -/
theorem ofSides_scaledDeployment :
    ∃ modified normalized predicted,
      ofSides webDeployment (some (scaledDeployment 5)) (some (scaledDeployment 2))
          replicasIgnored = .ok ⟨modified, some normalized, some predicted⟩ ∧
      ofSides webDeployment (some (scaledDeployment 3)) (some (scaledDeployment 4))
          replicasIgnored = .ok ⟨modified, some normalized, some predicted⟩ ∧
      normalized.document.find? "/spec/replicas" = none ∧
      predicted.document.find? "/spec/replicas" = none := by
  have hm : "/spec/replicas" ∈ replicasIgnored.ignoredPointers webDeployment := by decide
  have hp : Pointer.FieldsOnly "/spec/replicas" := by decide +kernel
  have hlive : (scaledDeployment 5).document.remove "/spec/replicas" =
      (scaledDeployment 3).document.remove "/spec/replicas" := by decide +kernel
  have htarget : (scaledDeployment 2).document.remove "/spec/replicas" =
      (scaledDeployment 4).document.remove "/spec/replicas" := by decide +kernel
  have hrecord : (scaledDeployment 5).annotationText? lastAppliedKey =
      (scaledDeployment 3).annotationText? lastAppliedKey := by decide
  obtain ⟨modified, normalized, normalized', predicted, predicted', hfirst, hsecond, -, -,
      hnormalized, hpredicted, hgone⟩ :=
    ofSides_ignored hm (by decide) hp
      (Document.same_iff.mpr (congrArg Document.withoutZeroSign hlive)) hrecord
      (Document.same_iff.mpr (congrArg Document.withoutZeroSign htarget))
  rw [← hnormalized hlive, ← hpredicted hlive htarget] at hsecond
  exact ⟨modified, normalized, predicted, hfirst, hsecond, hgone normalized (by simp),
    hgone predicted (by simp)⟩

end Replicas

end Comparison

end DeployDrift
