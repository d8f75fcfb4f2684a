import DeployDrift.Proofs.Merge.Stale
import DeployDrift.Proofs.Pointer.Removal

/-!
# Drift detection is exact

The prediction is the live document again exactly if the live document covers the target and no
stale field is left.  For a comparison of resources this says when it reports no modification.
-/
namespace DeployDrift

namespace Document

/-- The prediction for a mapping is the live mapping again if it is so field by field. -/
theorem predict_mapping_same_iff {live target : Fields} {applied : Document}
    (hl : (mapping live).WellFormed) (ht : (mapping target).WellFormed)
    (ha : applied.WellFormed) :
    (predict (mapping live) (mapping target) applied).same (mapping live) = true ↔ ∀ field,
      match Table.get? target field with
      | none => (applied.get? field).isSome = true → Table.get? live field = none
      | some t => ∃ l, Table.get? live field = some l ∧
          (predict l t (applied.fieldOrNull field)).same l = true := by
  obtain ⟨predicted, hp⟩ := exists_predict_mapping ht (mapping live) applied
  have hw := predict_wellFormed hl ht applied
  have hget := get?_predict hl ht ha
  rw [hp] at hw hget ⊢
  rw [same_mapping_iff (wellFormed_mapping.mp hw).1 (wellFormed_mapping.mp hl).1]
  apply forall_congr'
  intro field
  have hfield : Table.get? predicted field = _ := hget field
  have hlive : (mapping live).get? field = Table.get? live field := rfl
  rw [hfield, fieldOrNull, hlive]
  cases Table.get? target field with
  | none =>
    cases applied.get? field with
    | none => simp
    | some a => cases Table.get? live field <;> simp
  | some t =>
    cases Table.get? live field with
    | none => simp
    | some l => simp [same_iff]

/-- The prediction for a list of differently named items is the live list again if the names are
the same and it is so item by item. -/
theorem predict_list_same_iff {live target : List Document} {applied : Document}
    (hl : (list live).WellFormed) (ht : (list target).WellFormed) (ha : applied.WellFormed)
    (hn : isNamedList target = true) (hd : (target.map itemName?).Nodup) :
    (predict (list live) (list target) applied).same (list live) = true ↔
      live.map itemName? = target.map itemName? ∧
        ∀ t ∈ target, (predict ((list live).partner t) t (applied.partner t)).same
          ((list live).partner t) = true := by
  have hnames : (target.map fun t => predict ((list live).partner t) t
      (applied.partner t)).map itemName? = target.map itemName? := by
    rw [← map_itemName?_predict hl ht ha hn]
    refine congrArg (List.map itemName?) (List.map_congr_left ?_)
    intro t hm
    rw [partner_of_mem hn hd hm, predict]
  rw [predict_distinct_list ht hn hd]
  have items : live.map itemName? = target.map itemName? →
      ((list (target.map fun t => predict ((list live).partner t) t (applied.partner t))).same
          (list live) = true ↔
        ∀ t ∈ target, (predict ((list live).partner t) t (applied.partner t)).same
          ((list live).partner t) = true) := by
    intro hsame
    have hmap := map_partner ((isNamedList_congr hsame).trans hn) (hsame ▸ hd) hsame
    rw [same_list_iff]
    conv => lhs; rhs; rw [← hmap]
    rw [List.map_map, List.map_map, List.map_inj_left]
    exact forall₂_congr fun t _ => same_iff.symm
  constructor
  · intro h
    have hsame := (names_of_same_list h).symm.trans hnames
    exact ⟨hsame, (items hsame).mp h⟩
  · rintro ⟨hsame, h⟩
    exact (items hsame).mpr h

/-- The prediction is the live document again exactly if that covers the target and has no stale
field. -/
theorem predict_same_iff {live target applied : Document} (hl : live.WellFormed)
    (ht : target.WellFormed) (ha : applied.WellFormed) (hd : target.DistinctNames) :
    (predict live target applied).same live = true ↔
      live.Covers target ∧ ¬ StaleField applied target live := by
  induction target using inductionOn generalizing live applied with
  | scalar d hs =>
    rw [predict_scalar hs, covers_scalar hs, and_iff_left (not_stale_scalar hs applied live)]
    exact ⟨same_symm, same_symm⟩
  | mapping fields ih =>
    cases live with
    | mapping liveFields =>
      obtain ⟨hs, hw⟩ := wellFormed_mapping.mp ht
      rw [predict_mapping_same_iff hl ht ha, covers_mapping hs, not_stale_mapping, ← forall_and]
      apply forall_congr'
      intro field
      cases htarget : Table.get? fields field with
      | none => simp
      | some t =>
        have hm := Table.mem_of_get? htarget
        cases hlive : Table.get? liveFields field with
        | none => simp
        | some l =>
          have hinside := ih _ hm (hl.get? hlive) (hw _ hm) (wellFormed_fieldOrNull ha field)
            (everyList_mapping.mp hd _ hm)
          simpa [fieldOrNull_mapping hlive] using hinside
    | _ =>
      obtain ⟨predicted, hp⟩ := exists_predict_mapping ht _ applied
      refine ⟨fun h => ?_, fun h => h.1.elim⟩
      rw [hp] at h
      obtain ⟨_, heq⟩ := same_mapping_left h
      cases heq
  | list items ih =>
    obtain ⟨hnodup, hitems⟩ := everyList_list.mp hd
    have hw := wellFormed_list.mp ht
    cases live with
    | list liveItems =>
      cases hn : isNamedList items with
      | false =>
        have hplain : ¬ (isNamedList liveItems = true ∧ isNamedList items = true) := by simp [hn]
        rw [predict_plain_list hn, covers_plain_list hplain,
          and_iff_left (not_stale_plain_list hn applied _)]
        exact ⟨same_symm, same_symm⟩
      | true =>
        have hrec : ∀ t ∈ items,
            ((predict ((list liveItems).partner t) t (applied.partner t)).same
                ((list liveItems).partner t) = true ↔
              ((list liveItems).partner t).Covers t ∧
                ¬ StaleField (applied.partner t) t ((list liveItems).partner t)) :=
          fun t hm => ih t hm (wellFormed_partner hl t) (hw t hm) (wellFormed_partner ha t)
            (hitems t hm)
        rw [predict_list_same_iff hl ht ha hn (hnodup hn), forall₂_congr hrec,
          not_stale_list hn (hnodup hn)]
        by_cases hlive : isNamedList liveItems = true
        · rw [covers_named_list hlive hn, itemsCovered_iff hn (hnodup hn)]
          simp only [forall_and, and_assoc]
        · -- a list with the names of a named one is named itself
          have hother : liveItems.map itemName? ≠ items.map itemName? := fun hsame =>
            hlive ((isNamedList_congr hsame).trans hn)
          rw [covers_plain_list fun h => hlive h.1]
          exact ⟨fun h => absurd h.1 hother, fun h => absurd (names_of_same_list h.1) hother⟩
    | _ =>
      refine ⟨fun h => ?_, fun h => h.1.elim⟩
      obtain ⟨predicted, hp⟩ := exists_predict_list ht _ applied
      rw [hp] at h
      obtain ⟨_, heq⟩ := same_list_left h
      cases heq

end Document

namespace Comparison

theorem stale_lastApplied_iff (key : ResourceKey) (live : ResourceObject) (config : DriftConfig)
    (target normalized : Document) :
    (live.lastAppliedDocument key config).StaleField target normalized ↔
      ∃ applied, live.lastApplied? key config = some applied ∧
        applied.document.StaleField target normalized := by
  unfold ResourceObject.lastAppliedDocument
  cases live.lastApplied? key config with
  | none => simp [Document.not_stale_of_null]
  | some applied => simp

/-- A comparison reports no modification exactly if the live object covers the target and keeps no
field that was applied last and is declared no longer, all three without ignored fields.  No named
list of the live object may repeat a name. -/
theorem modified_eq_false_iff (key : ResourceKey) (live target : ResourceObject)
    (config : DriftConfig) (hd : (live.normalize key config).document.DistinctNames) :
    ∃ comparison, ofSides key (some live) (some target) config = .ok comparison ∧
      (comparison.modified = false ↔
        (live.normalize key config).document.Covers (target.normalize key config).document ∧
        ¬ ∃ applied, live.lastApplied? key config = some applied ∧
          applied.document.StaleField (target.normalize key config).document
            (live.normalize key config).document) := by
  refine ⟨_, ofSides_both key live target config, ?_⟩
  have hl := (live.normalize key config).wellFormed
  have ht := (target.normalize key config).wellFormed
  have ha := lastAppliedDocument_wellFormed live key config
  rw [Bool.not_eq_false', document_predict_lastApplied, ← stale_lastApplied_iff]
  constructor
  · intro h
    have hpredicted := Document.distinctNames_of_same (Document.same_symm h) hd
    exact (Document.predict_same_iff hl ht ha (.of_predict hl ht ha hpredicted)).mp h
  · intro h
    exact (Document.predict_same_iff hl ht ha (h.1.distinctNames ht hd)).mpr h

section Deployment

/-- What was applied to a deployment: its first container had a policy. -/
def appliedDeployment : ResourceObject where
  fields := [("kind", .text "Deployment"),
    ("spec", .mapping [("containers", .list [
      .mapping [("image", .text "web:1"), ("name", .text "web"), ("pullPolicy", .text "Always")],
      .mapping [("image", .text "log:1"), ("name", .text "log")]])])]
  wellFormed := by decide

/-- The deployment as it is declared, without the policy. -/
def declaredDeployment : ResourceObject where
  fields := [("kind", .text "Deployment"),
    ("spec", .mapping [("containers", .list [
      .mapping [("image", .text "web:1"), ("name", .text "web")],
      .mapping [("image", .text "log:1"), ("name", .text "log")]])])]
  wellFormed := by decide

/-- The record of what was applied. -/
def deploymentRecord : Document :=
  .mapping [("annotations", .mapping [("kubectl.kubernetes.io/last-applied-configuration",
    .text ("\x7b\"kind\":\"Deployment\",\"spec\":\x7b\"containers\":[" ++
      "\x7b\"image\":\"web:1\",\"name\":\"web\",\"pullPolicy\":\"Always\"\x7d," ++
      "\x7b\"image\":\"log:1\",\"name\":\"log\"\x7d]\x7d\x7d"))])]

/-- The deployment as it runs.  The policy is still there, and the cluster has added more. -/
def runningDeployment : ResourceObject where
  fields := [("kind", .text "Deployment"), ("metadata", deploymentRecord),
    ("spec", .mapping [("containers", .list [
      .mapping [("image", .text "web:1"), ("name", .text "web"), ("pullPolicy", .text "Always")],
      .mapping [("image", .text "log:1"), ("name", .text "log"), ("tty", .bool false)]])]),
    ("status", .mapping [("ready", .bool true)])]
  wellFormed := by decide

/-- The deployment after the policy has been taken away. -/
def settledDeployment : ResourceObject where
  fields := [("kind", .text "Deployment"), ("metadata", deploymentRecord),
    ("spec", .mapping [("containers", .list [
      .mapping [("image", .text "web:1"), ("name", .text "web")],
      .mapping [("image", .text "log:1"), ("name", .text "log"), ("tty", .bool false)]])]),
    ("status", .mapping [("ready", .bool true)])]
  wellFormed := by decide

theorem lastApplied?_deployment :
    runningDeployment.lastApplied? default .standard = some appliedDeployment ∧
      settledDeployment.lastApplied? default .standard = some appliedDeployment := by
  constructor <;> decide +kernel

/-- What only the cluster knows of a deployment is no modification of it, but a field is that was
applied and is declared no longer, as long as it is there. -/
theorem unmodified_deployment :
    ((settledDeployment.normalize default .standard).document.DistinctNames ∧
      ∃ comparison, ofSides default (some settledDeployment) (some declaredDeployment) .standard =
        .ok comparison ∧ comparison.modified = false) ∧
    (runningDeployment.normalize default .standard).document.DistinctNames ∧
      ∃ comparison, ofSides default (some runningDeployment) (some declaredDeployment) .standard =
        .ok comparison ∧ comparison.modified = true := by
  obtain ⟨hrunning, hsettled⟩ := lastApplied?_deployment
  constructor
  · have hd : (settledDeployment.normalize default .standard).document.DistinctNames := by
      rw [ResourceObject.normalize_standard]
      decide
    obtain ⟨comparison, hcomparison, hmodified⟩ :=
      modified_eq_false_iff default settledDeployment declaredDeployment .standard hd
    refine ⟨hd, comparison, hcomparison, hmodified.mpr ?_⟩
    rw [ResourceObject.normalize_standard, ResourceObject.normalize_standard]
    -- the prediction is computed, and it is what runs
    obtain ⟨hcovers, hfresh⟩ := (Document.predict_same_iff settledDeployment.wellFormed
      declaredDeployment.wellFormed appliedDeployment.wellFormed (by decide)).mp
        (by decide +kernel)
    refine ⟨hcovers, ?_⟩
    rintro ⟨applied, happlied, hstale⟩
    rw [hsettled] at happlied
    cases happlied
    exact hfresh hstale
  · have hd : (runningDeployment.normalize default .standard).document.DistinctNames := by
      rw [ResourceObject.normalize_standard]
      decide
    obtain ⟨comparison, hcomparison, hmodified⟩ :=
      modified_eq_false_iff default runningDeployment declaredDeployment .standard hd
    refine ⟨hd, comparison, hcomparison, ?_⟩
    rw [← Bool.not_eq_false, hmodified, ResourceObject.normalize_standard,
      ResourceObject.normalize_standard]
    rintro ⟨-, hfresh⟩
    refine hfresh ⟨appliedDeployment, hrunning, [.field "spec", .field "containers", .item "web"],
      _, _, _, "pullPolicy", rfl, rfl, rfl, rfl, rfl, rfl⟩

end Deployment

end Comparison

/-!
## Objects that contain their target

A live object that contains its target still does so without the ignored fields, so that it is
unmodified whatever is ignored, if it records no configuration applied last.
-/

namespace ResourceObject

/-- No removal makes an object anything but a mapping, so the document of what is left is
what is left of the document. -/
theorem document_removePointer (o : ResourceObject) (pointer : String) :
    (o.removePointer pointer).1.document = o.document.remove pointer := by
  unfold removePointer Document.remove
  split
  next fields h => exact (congrArg (·.getD o.document) h).symm
  next hne =>
    cases hr : o.document.remove? pointer with
    | none => rfl
    | some e =>
      obtain ⟨fields, hfields⟩ := Document.remove_mapping o.fields pointer
      have hsome : e = .mapping fields := by
        change (o.document.remove? pointer).getD o.document = _ at hfields
        rwa [hr] at hfields
      exact absurd (hsome ▸ hr) (hne fields)

/-- Ignoring the same fields on both sides keeps containment, and makes no two items of a list have
one name. -/
theorem contains_removeAll {live target : ResourceObject}
    (h : live.document.Contains target.document) (hd : target.document.DistinctItemNames)
    (pointers : List String) :
    (live.removeAll pointers).document.Contains (target.removeAll pointers).document ∧
      (target.removeAll pointers).document.DistinctItemNames := by
  unfold removeAll
  induction removalOrder pointers generalizing live target with
  | nil => exact ⟨h, hd⟩
  | cons pointer rest ih =>
    refine ih ?_ ?_
    · rw [document_removePointer, document_removePointer]
      exact h.remove live.wellFormed target.wellFormed pointer
    · rw [document_removePointer]
      exact hd.remove target.wellFormed pointer

theorem normalize_eq_removeAll {config : DriftConfig} (h : config.ignoreAggregatedRoles = false)
    (o : ResourceObject) (key : ResourceKey) :
    o.normalize key config = o.removeAll (config.ignoredPointers key) := by
  rw [normalize]
  simp [h]

theorem lastAppliedDocument_of_no_record {live : ResourceObject}
    (h : live.annotationText? lastAppliedKey = none) (key : ResourceKey) (config : DriftConfig) :
    live.lastAppliedDocument key config = .null := by
  have hnone : live.lastApplied? key config = none := by
    rw [Option.eq_none_iff_forall_ne_some]
    intro applied happlied
    obtain ⟨record, -, -, hrecord, -⟩ := lastApplied?_eq_some_iff.mp happlied
    cases h.symm.trans hrecord
  rw [lastAppliedDocument, hnone]
  rfl

end ResourceObject

namespace Comparison

/-- Without a record of what was applied, a live object that contains its target is
unmodified. -/
theorem unmodified_of_contains {live target : ResourceObject} {config : DriftConfig}
    (hroles : config.ignoreAggregatedRoles = false)
    (hc : live.document.Contains target.document) (hd : target.document.DistinctItemNames)
    (hn : live.annotationText? lastAppliedKey = none) (key : ResourceKey) :
    ∃ comparison, ofSides key (some live) (some target) config = .ok comparison ∧
      comparison.modified = false := by
  refine ⟨_, ofSides_both key live target config, ?_⟩
  have hl := (live.normalize key config).wellFormed
  have ht := (target.normalize key config).wellFormed
  have hnull : Document.null.WellFormed := by simp [Document.WellFormed]
  obtain ⟨hcontains, hnames⟩ := ResourceObject.contains_removeAll hc hd (config.ignoredPointers key)
  rw [← ResourceObject.normalize_eq_removeAll hroles,
    ← ResourceObject.normalize_eq_removeAll hroles] at hcontains
  rw [← ResourceObject.normalize_eq_removeAll hroles] at hnames
  rw [Bool.not_eq_false', document_predict_lastApplied,
    ResourceObject.lastAppliedDocument_of_no_record hn]
  exact (Document.predict_same_iff hl ht hnull hnames.distinctNames).mpr
    ⟨hcontains.covers ht, Document.not_stale_of_null _ _⟩

end Comparison
end DeployDrift
