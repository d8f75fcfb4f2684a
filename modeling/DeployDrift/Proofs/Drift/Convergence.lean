import DeployDrift.Proofs.Drift.Ignored

/-!
# Comparisons converge

The outcome that a comparison predicts is a fixed point: compared with the same target it is not
modified, and it is what is predicted again.  Ignored fields do not come back through the merge, and
the prediction records what was applied last as the live object does, or not at all.
-/
namespace DeployDrift

namespace Document

theorem bind_fields?_get? (d : Document) (field : String) :
    d.fields?.bind (Table.get? · field) = d.get? field := by cases d <;> rfl

theorem bind_text?_eq_some_iff {value : Option Document} {s : String} :
    value.bind text? = some s ↔ value = some (.text s) := by
  cases value with
  | none => simp
  | some d => cases d <;> simp [text?]

end Document

namespace ResourceObject

theorem get?_metadata (o : ResourceObject) (field : String) :
    Table.get? o.metadata field = (o.document.get? "metadata").bind (·.get? field) := by
  change Table.get? (((o.document.get? "metadata").map (·.fieldsOrEmpty)).getD []) field = _
  cases o.document.get? "metadata" with
  | none => rfl
  | some d => cases d <;> rfl

/-- An annotation is the text at a path of fields. -/
theorem annotationText?_eq_some_iff {o : ResourceObject} {key text : String} :
    o.annotationText? key = some text ↔
      o.document.fieldAt? ["metadata", "annotations", key] = some (.text text) := by
  rw [annotationText?, Document.bind_text?_eq_some_iff, annotations?, get?_metadata]
  simp only [Option.bind_assoc, Document.bind_fields?_get?, Document.fieldAt?_cons,
    Document.fieldAt?_nil, Option.bind_fun_some]

section Normalized

variable {key : ResourceKey} {config : DriftConfig}

theorem document_normalize_eq_removeEach (hroles : config.ignoreAggregatedRoles = false)
    (o : ResourceObject) :
    (o.normalize key config).document =
      o.document.removeEach (removalOrder (config.ignoredPointers key)) := by
  rw [normalize_eq_removeAll hroles, document_removeAll]

/-- What is recorded without ignored fields is recorded. -/
theorem annotationText?_of_normalize (hroles : config.ignoreAggregatedRoles = false)
    {o : ResourceObject} {name text : String}
    (h : (o.normalize key config).annotationText? name = some text) :
    o.annotationText? name = some text := by
  rw [annotationText?_eq_some_iff, document_normalize_eq_removeEach hroles] at h
  obtain ⟨original, horiginal, htext⟩ := Document.fieldAt?_of_removeEach o.wellFormed h
  rw [annotationText?_eq_some_iff, ← Document.bind_text?_eq_some_iff]
  exact (congrArg (·.bind Document.text?) horiginal).trans htext.symm

end Normalized

end ResourceObject

namespace Comparison

section Again

variable {key : ResourceKey} {config : DriftConfig}

/-- No ignored field comes back in what is predicted. -/
theorem normalize_predictedOf (hroles : config.ignoreAggregatedRoles = false)
    (hfields : ∀ pointer ∈ config.ignoredPointers key, Pointer.FieldsOnly pointer)
    (live target : ResourceObject) :
    (predictedOf key live target config).normalize key config =
      predictedOf key live target config := by
  apply ResourceObject.document_injective
  rw [ResourceObject.document_normalize_eq_removeEach hroles]
  apply Document.removeEach_eq_self
  intro pointer hpointer
  have hm := mem_removalOrder.mp hpointer
  by_cases hne : pointer = ""
  · subst hne
    rfl
  · exact Document.remove_eq_self (hfields pointer hm)
      (find?_predictedOf hm (hfields pointer hm) hne live target)

/-- The prediction records what the live object records, or nothing. -/
theorem annotationText?_predictedOf (hroles : config.ignoreAggregatedRoles = false)
    (live : ResourceObject) {target : ResourceObject}
    (hrecord : target.annotationText? lastAppliedKey = none) :
    (predictedOf key live target config).annotationText? lastAppliedKey =
        live.annotationText? lastAppliedKey ∨
      (predictedOf key live target config).annotationText? lastAppliedKey = none := by
  cases htext : (predictedOf key live target config).annotationText? lastAppliedKey with
  | none => exact .inr rfl
  | some text =>
    apply Or.inl
    rw [ResourceObject.annotationText?_eq_some_iff, document_predictedOf] at htext
    rcases Document.textAt_of_predict (live.normalize key config).wellFormed
      (target.normalize key config).wellFormed (lastAppliedDocument_wellFormed live key config)
      htext with hlive | htarget
    · have hnormalized := ResourceObject.annotationText?_eq_some_iff.mpr hlive
      exact (ResourceObject.annotationText?_of_normalize hroles hnormalized).symm
    · have hnormalized := ResourceObject.annotationText?_eq_some_iff.mpr htarget
      rw [ResourceObject.annotationText?_of_normalize hroles hnormalized] at hrecord
      cases hrecord

theorem lastAppliedDocument_predictedOf (hroles : config.ignoreAggregatedRoles = false)
    (live : ResourceObject) {target : ResourceObject}
    (hrecord : target.annotationText? lastAppliedKey = none) :
    (predictedOf key live target config).lastAppliedDocument key config =
        live.lastAppliedDocument key config ∨
      (predictedOf key live target config).lastAppliedDocument key config = .null := by
  rcases annotationText?_predictedOf hroles live hrecord with hsame | hnone
  · apply Or.inl
    rw [ResourceObject.lastAppliedDocument, ResourceObject.lastApplied?_congr hsame,
      ResourceObject.lastAppliedDocument]
  · exact .inr (ResourceObject.lastAppliedDocument_of_no_record hnone key config)

/-- A prediction from the predicted object is that object again. -/
theorem predictedOf_predictedOf (hroles : config.ignoreAggregatedRoles = false)
    (hfields : ∀ pointer ∈ config.ignoredPointers key, Pointer.FieldsOnly pointer)
    (live : ResourceObject) {target : ResourceObject} (hd : target.document.DistinctNames)
    (hrecord : target.annotationText? lastAppliedKey = none) :
    predictedOf key (predictedOf key live target config) target config =
      predictedOf key live target config := by
  have hnames : (target.normalize key config).document.DistinctNames := by
    rw [ResourceObject.document_normalize_eq_removeEach hroles]
    exact Document.EveryList.removeEach (fun q hq => hfields q (mem_removalOrder.mp hq)) hd
  apply ResourceObject.document_injective
  rw [document_predictedOf, normalize_predictedOf hroles hfields live target, document_predictedOf]
  exact Document.predict_again (live.normalize key config).wellFormed
    (target.normalize key config).wellFormed (lastAppliedDocument_wellFormed live key config) hnames
    (lastAppliedDocument_predictedOf hroles live hrecord)

/-- Comparing the predicted object with the same target once more finds nothing to change. -/
theorem ofSides_predicted (hroles : config.ignoreAggregatedRoles = false)
    (hfields : ∀ pointer ∈ config.ignoredPointers key, Pointer.FieldsOnly pointer)
    (live : ResourceObject) {target : ResourceObject} (hd : target.document.DistinctNames)
    (hrecord : target.annotationText? lastAppliedKey = none) :
    ∃ modified normalized predicted,
      ofSides key (some live) (some target) config =
        .ok ⟨modified, some normalized, some predicted⟩ ∧
      ofSides key (some predicted) (some target) config =
        .ok ⟨false, some predicted, some predicted⟩ := by
  refine ⟨_, _, _, ofSides_predictedOf key live target config, ?_⟩
  rw [ofSides_predictedOf, predictedOf_predictedOf hroles hfields live hd hrecord,
    normalize_predictedOf hroles hfields live target, Document.same_refl, Bool.not_true]

end Again

def settingsKey : ResourceKey := ⟨"", "ConfigMap", "", "settings"⟩

/-- Ignores the identity that the cluster gives to its resources. -/
def uidIgnored : DriftConfig where
  rules := []
  overrides := [(everyKind, ["/metadata/uid"])]
  tracking := .standard
  ignoreAggregatedRoles := false

/-- What is predicted here has lost its record of what was applied, and is predicted once more. -/
theorem ofSides_annotatedSettings :
    ∃ modified normalized predicted,
      ofSides settingsKey (some annotatedSettings) (some declaredSettings) uidIgnored =
        .ok ⟨modified, some normalized, some predicted⟩ ∧
      ofSides settingsKey (some predicted) (some declaredSettings) uidIgnored =
        .ok ⟨false, some predicted, some predicted⟩ := by
  have hfields : ∀ pointer ∈ uidIgnored.ignoredPointers settingsKey,
      Pointer.FieldsOnly pointer := by decide +kernel
  have hd : declaredSettings.document.DistinctNames := by decide
  have hrecord : declaredSettings.annotationText? lastAppliedKey = none := by decide
  exact ofSides_predicted rfl hfields annotatedSettings hd hrecord

end Comparison

end DeployDrift
