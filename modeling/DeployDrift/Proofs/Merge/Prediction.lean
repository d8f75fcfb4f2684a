import DeployDrift.Drift.Comparison
import DeployDrift.Proofs.Merge.Lookup

/-!
# Laying over and pruning in one step

`Document.predict` is the target laid over a live document and pruned by what was applied before;
null stands for nothing applied.  Its value is given by one equation for each kind of target.
-/
namespace DeployDrift.Document

/-- The live document with the target laid over it, less what was applied and is declared no
longer. -/
def predict (live target applied : Document) : Document :=
  prune (merge live target) target applied

theorem predict_null (live target : Document) : predict live target .null = merge live target :=
  rfl

theorem predict_wellFormed {live target : Document} (hl : live.WellFormed)
    (ht : target.WellFormed) (applied : Document) : (predict live target applied).WellFormed :=
  prune_wellFormed _ target (merge_wellFormed live hl target ht) applied

theorem predict_scalar {target : Document} (h : target.IsScalar) (live applied : Document) :
    predict live target applied = target := by
  rw [predict, merge_scalar h, prune_scalar h]

theorem exists_predict_mapping {target : Fields} (ht : (mapping target).WellFormed)
    (live applied : Document) :
    ∃ fields, predict live (mapping target) applied = mapping fields := by
  rw [predict, merge_mapping ht, prune_mapping]
  exact ⟨_, rfl⟩

/-- Prediction works field by field: a declared field is predicted from what stands under
it, and a field that was applied but is no longer declared goes. -/
theorem get?_predict {live applied : Document} {target : Fields} (hl : live.WellFormed)
    (ht : (mapping target).WellFormed) (ha : applied.WellFormed) (field : String) :
    (predict live (mapping target) applied).get? field =
      match Table.get? target field with
      | some t => some (predict (live.fieldOrNull field) t (applied.fieldOrNull field))
      | none => if (applied.get? field).isSome then none else live.get? field := by
  have hm := merge_wellFormed live hl _ ht
  have hget := get?_merge ht live field
  rw [merge_mapping ht] at hm hget
  change Table.get? (mergeFields live.fieldsOrEmpty target) field = _ at hget
  rw [predict, merge_mapping ht, get?_prune (wellFormed_mapping.mp hm).1 target ha, hget,
    fieldOrNull, fieldOrNull]
  cases hT : Table.get? target field with
  | none => cases applied.get? field <;> rfl
  | some t =>
    cases applied.get? field with
    | none => exact congrArg some (predict_null _ t).symm
    | some a => rfl

theorem predict_plain_list {target : List Document} (hn : isNamedList target = false)
    (live applied : Document) : predict live (list target) applied = list target := by
  rw [predict, merge_plain_list hn, prune_list]
  apply list_map_eq_self
  intro item _
  rw [partner_of_not_named hn, prune_against_null]

/-- Of a named list every item is laid over the live item of its name and pruned against the first
item of its name in another list. -/
theorem prune_merge_list {live applied : Document} {target : List Document}
    (ht : (list target).WellFormed) (hn : isNamedList target = true) (other : Document) :
    prune (merge live (list target)) other applied =
      list (target.map fun t =>
        prune (merge (live.partner t) t) (other.partner t) (applied.partner t)) := by
  rw [merge_list ht hn, prune_list, List.map_map]
  refine congrArg list (List.map_congr_left ?_)
  intro t hm
  obtain ⟨name, hname⟩ := (isNamedList_iff.mp hn).2 t hm
  have hmerged : (merge (live.partner t) t).itemName? = t.itemName? := by
    rw [itemName?_merge (wellFormed_list.mp ht t hm) hname, hname]
  rw [Function.comp_apply, partner_congr _ hmerged, partner_congr _ hmerged]

theorem predict_list {live applied : Document} {target : List Document}
    (ht : (list target).WellFormed) (hn : isNamedList target = true) :
    predict live (list target) applied =
      list (target.map fun t =>
        prune (merge (live.partner t) t) ((list target).partner t) (applied.partner t)) :=
  prune_merge_list ht hn _

theorem exists_predict_list {target : List Document} (ht : (list target).WellFormed)
    (live applied : Document) : ∃ items, predict live (list target) applied = list items := by
  cases hn : isNamedList target with
  | false => exact ⟨_, predict_plain_list hn live applied⟩
  | true => exact ⟨_, predict_list ht hn⟩

theorem predict_distinct_list {live applied : Document} {target : List Document}
    (ht : (list target).WellFormed) (hn : isNamedList target = true)
    (hd : (target.map itemName?).Nodup) :
    predict live (list target) applied =
      list (target.map fun t => predict (live.partner t) t (applied.partner t)) := by
  rw [predict_list ht hn]
  refine congrArg list (List.map_congr_left ?_)
  intro t hm
  rw [partner_of_mem hn hd hm, predict]

/-- The first item of a name has this name. -/
theorem itemName?_partner {items : List Document} (hn : isNamedList items = true) {item : Document}
    (hm : item ∈ items) : ((list items).partner item).itemName? = item.itemName? := by
  obtain ⟨name, hname⟩ := (isNamedList_iff.mp hn).2 item hm
  have hfound : (items.find? fun d => d.itemName? == some name).isSome = true :=
    List.find?_isSome.mpr ⟨item, hm, by simp [hname]⟩
  obtain ⟨first, hfirst⟩ := Option.isSome_iff_exists.mp hfound
  have hsome : (list items).namedItem? name = some first := by
    rw [namedItem?, if_pos hn]
    exact hfirst
  rw [partner, hname, Option.bind_some, hsome]
  exact (mem_of_namedItem? hsome).2

/-- Laying over and pruning leave every item of a named list its name. -/
theorem map_itemName?_predict {live applied : Document} {target : List Document}
    (hl : live.WellFormed) (ht : (list target).WellFormed) (ha : applied.WellFormed)
    (hn : isNamedList target = true) :
    (target.map fun t => prune (merge (live.partner t) t) ((list target).partner t)
      (applied.partner t)).map itemName? = target.map itemName? := by
  rw [List.map_map]
  apply List.map_congr_left
  intro t hm
  obtain ⟨name, hname⟩ := (isNamedList_iff.mp hn).2 t hm
  have hw := wellFormed_list.mp ht t hm
  have hfirst := (itemName?_partner hn hm).trans hname
  rw [Function.comp_apply, itemName?_prune (merge_wellFormed _ (wellFormed_partner hl t) t hw)
    (wellFormed_partner ha t) hfirst, itemName?_merge hw hname, hname]

/-- The prediction repeats a name in a list wherever the target does. -/
theorem DistinctNames.of_predict {live target applied : Document} (hl : live.WellFormed)
    (ht : target.WellFormed) (ha : applied.WellFormed)
    (hd : (predict live target applied).DistinctNames) : target.DistinctNames := by
  induction target using inductionOn generalizing live applied with
  | scalar d hs => exact hs.everyList
  | mapping fields ih =>
    obtain ⟨hs, hw⟩ := wellFormed_mapping.mp ht
    apply everyList_mapping.mpr
    intro e he
    have hget := get?_predict hl ht ha e.1
    rw [(Table.get?_eq_some_iff hs).mpr he] at hget
    exact ih e he (wellFormed_fieldOrNull hl e.1) (hw e he) (wellFormed_fieldOrNull ha e.1)
      (hd.get? hget)
  | list items ih =>
    cases hn : isNamedList items with
    | false => rwa [predict_plain_list hn] at hd
    | true =>
      have hnames := map_itemName?_predict hl ht ha hn
      rw [predict_list ht hn] at hd
      obtain ⟨hnodup, hitems⟩ := everyList_list.mp hd
      rw [isNamedList_congr hnames, hnames] at hnodup
      refine everyList_list.mpr ⟨hnodup, ?_⟩
      intro t hm
      have hitem := hitems _ (List.mem_map_of_mem hm)
      rw [partner_of_mem hn (hnodup hn) hm] at hitem
      exact ih t hm (wellFormed_partner hl t) (wellFormed_list.mp ht t hm)
        (wellFormed_partner ha t) hitem

@[simp] theorem partner_null (item : Document) : partner .null item = .null := by
  unfold partner
  cases item.itemName? <;> rfl

/-- Where nothing is live the prediction is the target, if its names are distinct. -/
theorem predict_over_null {target applied : Document} (ht : target.WellFormed)
    (ha : applied.WellFormed) (hd : target.DistinctNames) :
    predict .null target applied = target := by
  have hnull : WellFormed .null := by simp [WellFormed]
  induction target using inductionOn generalizing applied with
  | scalar d hs => exact predict_scalar hs .null applied
  | list items ih =>
    obtain ⟨hnodup, hitems⟩ := everyList_list.mp hd
    cases hn : isNamedList items with
    | false => exact predict_plain_list hn .null applied
    | true =>
      rw [predict_distinct_list ht hn (hnodup hn)]
      apply list_map_eq_self
      intro t hm
      rw [partner_null]
      exact ih t hm (wellFormed_list.mp ht t hm) (wellFormed_partner ha t) (hitems t hm)
  | mapping fields ih =>
    obtain ⟨hs, hw⟩ := wellFormed_mapping.mp ht
    obtain ⟨predicted, hp⟩ := exists_predict_mapping ht .null applied
    apply eq_mapping_of_get? (predict_wellFormed hnull ht applied) hp hs
    intro field
    rw [get?_predict hnull ht ha]
    cases ht : Table.get? fields field with
    | none => cases applied.get? field <;> rfl
    | some t =>
      have hm := Table.mem_of_get? ht
      exact congrArg some (ih _ hm (hw _ hm) (wellFormed_fieldOrNull ha field)
        (everyList_mapping.mp hd _ hm))

end DeployDrift.Document

/-!
## Comparisons of resources as predictions of documents
-/
namespace DeployDrift

namespace ResourceObject

/-- The object with another one laid over it. -/
def merge (base patch : ResourceObject) : ResourceObject :=
  ⟨Document.mergeFields base.fields patch.fields,
    Document.mergeFields_wellFormed _ base.wellFormed _
      (Document.wellFormed_mapping.mp patch.wellFormed).2⟩

/-- The object without the fields that were applied and the target lacks. -/
def prune (predicted target applied : ResourceObject) : ResourceObject :=
  ⟨Document.pruneFields predicted.fields target.fields applied.fields,
    Document.pruneFields_wellFormed _ _ predicted.wellFormed _⟩

end ResourceObject

/-- The document of the configuration applied last without ignored fields; null if none is
recorded or it is unreadable. -/
def ResourceObject.lastAppliedDocument (live : ResourceObject) (key : ResourceKey)
    (config : DriftConfig) : Document :=
  ((live.lastApplied? key config).map (·.document)).getD .null

/-- What was applied last is what the annotation of the live object says, read as a document of a
resource, without ignored fields. -/
theorem ResourceObject.lastApplied?_eq_some_iff {live applied : ResourceObject} {key : ResourceKey}
    {config : DriftConfig} : live.lastApplied? key config = some applied ↔
      ∃ record document recorded,
        live.annotationText? "kubectl.kubernetes.io/last-applied-configuration" = some record ∧
        Json.readDocument record = .ok document ∧
        ResourceObject.ofDocument document = .ok recorded ∧
        applied = recorded.normalize key config := by
  constructor
  · intro h
    unfold lastApplied? lastAppliedRecord at h
    cases hrecord : live.annotationText? lastAppliedKey with
    | none => simp [hrecord] at h
    | some record =>
      cases hread : Json.readDocument record with
      | error fault => simp [hrecord, hread] at h
      | ok document =>
        cases hobject : ResourceObject.ofDocument document with
        | error fault => simp [hrecord, hread, hobject] at h
        | ok recorded =>
          simp only [hrecord, hread, hobject, Option.map_some, Option.some.injEq] at h
          exact ⟨record, document, recorded, hrecord, hread, hobject, h.symm⟩
  · rintro ⟨record, document, recorded, hrecord, hread, hobject, rfl⟩
    have hown : live.annotationText? lastAppliedKey = some record := hrecord
    simp [lastApplied?, lastAppliedRecord, hown, hread, hobject]

theorem ResourceObject.normalize_standard (o : ResourceObject) (key : ResourceKey) :
    o.normalize key .standard = o := by
  have hnone : DriftConfig.standard.ignoredPointers key = [] := by
    simp [DriftConfig.ignoredPointers, DriftConfig.standard, DriftConfig.overrideNames]
  rw [normalize, hnone]
  simp [removeAll, removalOrder, dropRepeats, DriftConfig.standard]

namespace Comparison

/-- The live object after a sync of the target. -/
def predict (normalizedLive normalizedTarget : ResourceObject)
    (lastApplied : Option ResourceObject) : ResourceObject :=
  let merged := normalizedLive.merge normalizedTarget
  match lastApplied with
  | none => merged
  | some applied => merged.prune normalizedTarget applied

/-- What is predicted is a mapping. -/
theorem ofWellFormed_predictedDocument (live target : ResourceObject)
    (lastApplied : Option ResourceObject) :
    ResourceObject.ofWellFormed (predictedDocument live target lastApplied)
        (predictedDocument_wellFormed live target lastApplied) =
      .ok (predict live target lastApplied) := by
  cases lastApplied <;> rfl

theorem lastAppliedDocument_wellFormed (live : ResourceObject) (key : ResourceKey)
    (config : DriftConfig) : (live.lastAppliedDocument key config).WellFormed := by
  unfold ResourceObject.lastAppliedDocument
  cases live.lastApplied? key config with
  | none => simp [Document.WellFormed]
  | some applied => exact applied.wellFormed

theorem document_predict (live target : ResourceObject) (lastApplied : Option ResourceObject) :
    (predict live target lastApplied).document =
      live.document.predict target.document ((lastApplied.map (·.document)).getD .null) := by
  cases lastApplied <;> rfl

/-- What a comparison of two sides gives. -/
theorem ofSides_both (key : ResourceKey) (live target : ResourceObject) (config : DriftConfig) :
    ofSides key (some live) (some target) config =
      .ok ⟨!(predict (live.normalize key config) (target.normalize key config)
            (live.lastApplied? key config)).document.same (live.normalize key config).document,
        some (live.normalize key config),
        some (predict (live.normalize key config) (target.normalize key config)
          (live.lastApplied? key config))⟩ := by
  unfold ofSides
  dsimp only
  rw [ofWellFormed_predictedDocument]

theorem document_predict_lastApplied (key : ResourceKey) (live target : ResourceObject)
    (config : DriftConfig) :
    (predict (live.normalize key config) (target.normalize key config)
        (live.lastApplied? key config)).document =
      (live.normalize key config).document.predict (target.normalize key config).document
        (live.lastAppliedDocument key config) :=
  document_predict _ _ _

end Comparison
end DeployDrift
