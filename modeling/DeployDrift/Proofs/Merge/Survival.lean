import DeployDrift.Proofs.Merge.Stale

/-!
# What a prediction keeps of the live document

A value at a path of fields that the target does not declare, with nothing but mappings of the
target on the way to it, stays in the prediction or goes altogether.  It goes exactly if some field
on the path was applied and is declared no longer: with such a field goes everything below it, also
what was never applied.
-/
namespace DeployDrift

namespace Document

/-- What stands at a path of mapping fields. -/
def fieldAt? (d : Document) (path : List String) : Option Document := d.reach? (path.map .field)

/-- The document has nothing at the path, and nothing but mappings on the way to it. -/
def Undeclared (target : Document) (path : List String) : Prop :=
  target.fieldAt? path = none ∧
    ∀ n < path.length, ∀ d ∈ target.fieldAt? (path.take n), d.fields?.isSome = true

/-- Somewhere on the path, its end included, something was applied and nothing is declared. -/
def RemovedAlong (applied target : Document) (path : List String) : Prop :=
  ∃ n ≤ path.length, (applied.fieldAt? (path.take n)).isSome = true ∧
    target.fieldAt? (path.take n) = none

instance (target : Document) (path : List String) : Decidable (target.Undeclared path) :=
  inferInstanceAs (Decidable (_ ∧ _))

instance (applied target : Document) (path : List String) :
    Decidable (RemovedAlong applied target path) :=
  inferInstanceAs (Decidable (∃ n ≤ path.length, _))

theorem fieldAt?_nil (d : Document) : d.fieldAt? [] = some d := rfl

theorem fieldAt?_cons (d : Document) (field : String) (rest : List String) :
    d.fieldAt? (field :: rest) = (d.get? field).bind (·.fieldAt? rest) := rfl

section Paths

variable {target : Document} {field : String} {rest : List String}

theorem not_undeclared_nil (target : Document) : ¬ target.Undeclared [] := by
  rintro ⟨hnone, -⟩
  cases hnone

theorem Undeclared.exists_mapping (h : target.Undeclared (field :: rest)) :
    ∃ fields, target = mapping fields := by
  have hroot := h.2 0 (by simp) target rfl
  cases target with
  | mapping fields => exact ⟨fields, rfl⟩
  | _ => cases hroot

theorem Undeclared.tail (h : target.Undeclared (field :: rest)) {t : Document}
    (ht : target.get? field = some t) : t.Undeclared rest := by
  obtain ⟨hnone, hmappings⟩ := h
  rw [fieldAt?_cons, ht, Option.bind_some] at hnone
  refine ⟨hnone, ?_⟩
  intro n hn d hd
  have hbelow := hmappings (n + 1) (by simpa using hn)
  rw [List.take_succ_cons, fieldAt?_cons, ht, Option.bind_some] at hbelow
  exact hbelow d hd

theorem not_removedAlong_of_null (target : Document) (path : List String) :
    ¬ RemovedAlong .null target path := by
  rintro ⟨n, -, happlied, hnone⟩
  cases hpath : path.take n with
  | nil =>
    rw [hpath] at hnone
    cases hnone
  | cons field below =>
    rw [hpath] at happlied
    cases happlied

/-- A field that the target does not have takes the whole path with it, if it was applied.
-/
theorem removedAlong_of_removed {applied : Document} (ht : target.get? field = none) :
    RemovedAlong applied target (field :: rest) ↔ (applied.get? field).isSome = true := by
  constructor
  · rintro ⟨n, -, happlied, hnone⟩
    cases n with
    | zero => cases hnone
    | succ n =>
      rw [List.take_succ_cons, fieldAt?_cons] at happlied
      cases ha : applied.get? field with
      | none =>
        rw [ha] at happlied
        cases happlied
      | some a => rfl
  · intro happlied
    obtain ⟨a, ha⟩ := Option.isSome_iff_exists.mp happlied
    refine ⟨1, by simp, ?_, ?_⟩
    · simp [fieldAt?_cons, fieldAt?_nil, ha]
    · simp [fieldAt?_cons, ht]

/-- Below a declared field the removal is decided by what stands under it. -/
theorem removedAlong_of_declared {applied t : Document} (ht : target.get? field = some t) :
    RemovedAlong applied target (field :: rest) ↔
      RemovedAlong (applied.fieldOrNull field) t rest := by
  -- the two indices differ by one, and at the root both documents have something
  constructor
  · rintro ⟨n, hn, happlied, hnone⟩
    cases n with
    | zero => cases hnone
    | succ n =>
      rw [List.take_succ_cons, fieldAt?_cons] at happlied hnone
      rw [ht, Option.bind_some] at hnone
      refine ⟨n, by simpa using hn, ?_, hnone⟩
      unfold fieldOrNull
      cases ha : applied.get? field with
      | none =>
        rw [ha] at happlied
        cases happlied
      | some a => rwa [ha] at happlied
  · rintro ⟨n, hn, happlied, hnone⟩
    refine ⟨n + 1, by simpa using hn, ?_, ?_⟩
    · rw [List.take_succ_cons, fieldAt?_cons]
      unfold fieldOrNull at happlied
      cases ha : applied.get? field with
      | none =>
        rw [ha, Option.getD_none] at happlied
        exact absurd ⟨n, hn, happlied, hnone⟩ (not_removedAlong_of_null t rest)
      | some a => rwa [ha] at happlied
    · rw [List.take_succ_cons, fieldAt?_cons, ht, Option.bind_some]
      exact hnone

end Paths

/-- Undeclared, a live value stays in the prediction, unless it goes with a field on the way to it
that was applied and is declared no longer. -/
theorem fieldAt?_predict {live target applied value : Document} {path : List String}
    (hl : live.WellFormed) (ht : target.WellFormed) (ha : applied.WellFormed)
    (hlive : live.fieldAt? path = some value) (hundeclared : target.Undeclared path) :
    RemovedAlong applied target path ∧ (predict live target applied).fieldAt? path = none ∨
      ¬ RemovedAlong applied target path ∧
        (predict live target applied).fieldAt? path = some value := by
  induction path generalizing live target applied with
  | nil => exact absurd hundeclared (not_undeclared_nil target)
  | cons field rest ih =>
    obtain ⟨fields, rfl⟩ := hundeclared.exists_mapping
    rw [fieldAt?_cons, get?_predict hl ht ha]
    cases htarget : Table.get? fields field with
    | none =>
      have hnone : (mapping fields).get? field = none := htarget
      rw [removedAlong_of_removed hnone]
      cases (applied.get? field).isSome with
      | true => exact .inl ⟨rfl, rfl⟩
      | false => exact .inr ⟨Bool.false_ne_true, hlive⟩
    | some t =>
      have hsome : (mapping fields).get? field = some t := htarget
      rw [fieldAt?_cons] at hlive
      obtain ⟨l, hfield, hbelow⟩ := Option.bind_eq_some_iff.mp hlive
      have hvalue : live.fieldOrNull field = l := by rw [fieldOrNull, hfield, Option.getD_some]
      rw [removedAlong_of_declared hsome, hvalue]
      exact ih (hvalue ▸ wellFormed_fieldOrNull hl field) (ht.get? htarget)
        (wellFormed_fieldOrNull ha field) hbelow (hundeclared.tail hsome)

end Document

namespace Comparison

theorem removedAlong_lastApplied_iff (key : ResourceKey) (live : ResourceObject)
    (config : DriftConfig) (target : Document) (path : List String) :
    (live.lastAppliedDocument key config).RemovedAlong target path ↔
      ∃ applied, live.lastApplied? key config = some applied ∧
        applied.document.RemovedAlong target path := by
  unfold ResourceObject.lastAppliedDocument
  cases live.lastApplied? key config with
  | none => simp [Document.not_removedAlong_of_null]
  | some applied => simp

/-- What stands in the live object at a path of fields that the target does not declare is
predicted to stay there, unless somewhere on the path something was applied and nothing is declared;
then it is predicted to go.  All three objects are taken without ignored fields. -/
theorem predicted_fieldAt?_iff (key : ResourceKey) (live target : ResourceObject)
    (config : DriftConfig) {path : List String} {value : Document}
    (hlive : (live.normalize key config).document.fieldAt? path = some value)
    (hundeclared : (target.normalize key config).document.Undeclared path) :
    ∃ comparison predicted, ofSides key (some live) (some target) config = .ok comparison ∧
      comparison.predicted = some predicted ∧
      (predicted.document.fieldAt? path = some value ↔
        ¬ ∃ applied, live.lastApplied? key config = some applied ∧
          applied.document.RemovedAlong (target.normalize key config).document path) ∧
      (predicted.document.fieldAt? path = none ↔
        ∃ applied, live.lastApplied? key config = some applied ∧
          applied.document.RemovedAlong (target.normalize key config).document path) := by
  refine ⟨_, _, ofSides_both key live target config, rfl, ?_⟩
  have hl : (live.normalize key config).document.WellFormed :=
    (live.normalize key config).wellFormed
  have ht : (target.normalize key config).document.WellFormed :=
    (target.normalize key config).wellFormed
  have ha := lastAppliedDocument_wellFormed live key config
  rw [document_predict_lastApplied, ← removedAlong_lastApplied_iff]
  rcases Document.fieldAt?_predict hl ht ha hlive hundeclared with
    ⟨hremoved, hgone⟩ | ⟨hkept, hstays⟩
  · simp [hgone, hremoved]
  · simp [hstays, hkept]

section Settings

/-- What was applied to `annotatedSettings`: no annotation, but an empty mapping for them. -/
def appliedSettings : ResourceObject where
  fields := [("apiVersion", .text "v1"), ("kind", .text "ConfigMap"),
    ("metadata", .mapping [("annotations", .mapping []), ("name", .text "settings")])]
  wellFormed := by decide

/-- A live object with an annotation of the cluster and the record of what was applied. -/
def annotatedSettings : ResourceObject where
  fields := [("apiVersion", .text "v1"), ("kind", .text "ConfigMap"),
    ("metadata", .mapping [("annotations", .mapping [
        ("kubectl.kubernetes.io/last-applied-configuration",
          .text ("\x7b\"apiVersion\":\"v1\",\"kind\":\"ConfigMap\"," ++
            "\"metadata\":\x7b\"annotations\":\x7b\x7d,\"name\":\"settings\"\x7d\x7d")),
        ("team", .text "a")]),
      ("name", .text "settings"), ("uid", .text "7")])]
  wellFormed := by decide

/-- The object as it is declared. -/
def declaredSettings : ResourceObject where
  fields := [("apiVersion", .text "v1"), ("kind", .text "ConfigMap"),
    ("metadata", .mapping [("name", .text "settings")])]
  wellFormed := by decide

theorem lastApplied?_annotatedSettings :
    annotatedSettings.lastApplied? default .standard = some appliedSettings := by
  decide +kernel

/-- The identity that the cluster gave the object stays. -/
theorem predicted_uid :
    (annotatedSettings.normalize default .standard).document.fieldAt? ["metadata", "uid"] =
        some (.text "7") ∧
      (declaredSettings.normalize default .standard).document.Undeclared ["metadata", "uid"] ∧
      ∃ comparison predicted,
        ofSides default (some annotatedSettings) (some declaredSettings) .standard =
          .ok comparison ∧
        comparison.predicted = some predicted ∧
        predicted.document.fieldAt? ["metadata", "uid"] = some (.text "7") := by
  have hlive : (annotatedSettings.normalize default .standard).document.fieldAt?
      ["metadata", "uid"] = some (.text "7") := by
    rw [ResourceObject.normalize_standard]
    decide
  have hundeclared : (declaredSettings.normalize default .standard).document.Undeclared
      ["metadata", "uid"] := by
    rw [ResourceObject.normalize_standard]
    decide
  obtain ⟨comparison, predicted, hcomparison, hpredicted, hstays, -⟩ :=
    predicted_fieldAt?_iff default annotatedSettings declaredSettings .standard hlive hundeclared
  refine ⟨hlive, hundeclared, comparison, predicted, hcomparison, hpredicted, hstays.mpr ?_⟩
  rintro ⟨applied, happlied, hremoved⟩
  rw [lastApplied?_annotatedSettings] at happlied
  cases happlied
  rw [ResourceObject.normalize_standard] at hremoved
  revert hremoved
  decide

/-- The annotation that was neither applied nor declared goes with the empty mapping around it. -/
theorem predicted_loses_team :
    (annotatedSettings.normalize default .standard).document.fieldAt?
        ["metadata", "annotations", "team"] = some (.text "a") ∧
      (declaredSettings.normalize default .standard).document.Undeclared
        ["metadata", "annotations", "team"] ∧
      annotatedSettings.lastApplied? default .standard = some appliedSettings ∧
      appliedSettings.document.fieldAt? ["metadata", "annotations", "team"] = none ∧
      ∃ comparison predicted,
        ofSides default (some annotatedSettings) (some declaredSettings) .standard =
          .ok comparison ∧
        comparison.predicted = some predicted ∧
        predicted.document.fieldAt? ["metadata", "annotations", "team"] = none := by
  have happlied := lastApplied?_annotatedSettings
  refine ⟨?_, ?_, happlied, by decide, _, _,
    ofSides_both default annotatedSettings declaredSettings .standard, rfl, ?_⟩
  · rw [ResourceObject.normalize_standard]
    decide
  · rw [ResourceObject.normalize_standard]
    decide
  · rw [happlied, ResourceObject.normalize_standard, ResourceObject.normalize_standard]
    decide

end Settings

end Comparison

end DeployDrift
