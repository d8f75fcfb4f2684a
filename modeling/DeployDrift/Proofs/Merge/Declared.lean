import DeployDrift.Proofs.Merge.Covering
import DeployDrift.Proofs.Merge.Repetition

/-!
# What a prediction keeps of the target

Laid over whatever is live, a target is covered.  Pruning can only break that where an item repeats
a name: it is pruned against the first item of its name, and loses what was applied and that one
lacks.  So the prediction covers the target exactly if the target loses nothing to itself.
-/
namespace DeployDrift

namespace Document

/-- The first document is a mapping without the field, which was applied. -/
def dropsField (applied first : Document) (field : String) : Bool :=
  first.fields?.isSome && (first.get? field).isNone && (applied.get? field).isSome

/-- A mapping is not pruned against anything else. -/
theorem prune_of_no_mapping {first : Document} (h : first.fields? = none) (fields : Fields)
    (applied : Document) : prune (mapping fields) first applied = mapping fields := by
  cases first with
  | mapping _ => cases h
  | _ => cases applied <;> rfl

/-- What pruning leaves under a field, whatever is pruned. -/
theorem get?_prune_eq {predicted applied : Document} (hp : predicted.WellFormed)
    (ha : applied.WellFormed) (first : Document) (field : String) :
    (prune predicted first applied).get? field =
      if dropsField applied first field then none
      else (predicted.get? field).map fun p =>
        prune p (first.fieldOrNull field) (applied.fieldOrNull field) := by
  cases predicted with
  | mapping fields =>
    cases first with
    | mapping firstFields =>
      rw [get?_prune (wellFormed_mapping.mp hp).1 firstFields ha, dropsField, fieldOrNull,
        fieldOrNull]
      cases applied.get? field with
      | none => simp [prune_null, get?]
      | some a => cases hfirst : Table.get? firstFields field <;> simp [fields?, get?, hfirst]
    | _ =>
      rw [prune_of_no_mapping rfl]
      simp [dropsField, fields?, fieldOrNull, get?, prune_against_null]
  | list items => simp [prune_list, get?]
  | _ => cases applied <;> simp [prune, get?]

section Losing

variable {applied first : Document}

theorem not_loses_scalar {item : Document} (h : item.IsScalar) : ¬ Loses applied first item := by
  intro hl
  cases hl <;> exact h

/-- A mapping loses nothing if no field of it is dropped and none loses anything in itself.
-/
theorem not_loses_mapping_iff {item : Fields} :
    ¬ Loses applied first (.mapping item) ↔ ∀ field value, Table.get? item field = some value →
      dropsField applied first field = false ∧
        ¬ Loses (applied.fieldOrNull field) (first.fieldOrNull field) value := by
  constructor
  · intro h field value hvalue
    refine ⟨?_, fun hl => h (.field hvalue hl)⟩
    cases hdrops : dropsField applied first field with
    | false => rfl
    | true =>
      simp only [dropsField, Bool.and_eq_true, Option.isNone_iff_eq_none] at hdrops
      obtain ⟨⟨hmapping, hfirst⟩, happlied⟩ := hdrops
      cases first with
      | mapping firstFields => exact absurd (.here field happlied hfirst (by simp [hvalue])) h
      | _ => cases hmapping
  · intro h hl
    cases hl with
    | here field happlied hfirst hitem =>
      obtain ⟨value, hvalue⟩ := Option.isSome_iff_exists.mp hitem
      have hkept := (h field value hvalue).1
      have hnone : applied.get? field = none := by
        simpa [dropsField, fields?, get?, hfirst] using hkept
      rw [hnone] at happlied
      cases happlied
    | field hvalue hl => exact (h _ _ hvalue).2 hl

theorem not_loses_list_iff {items : List Document} :
    ¬ Loses applied first (.list items) ↔
      ∀ item ∈ items, ¬ Loses (applied.partner item) (first.partner item) item := by
  constructor
  · intro h item hm hl
    exact h (.item hm hl)
  · intro h hl
    cases hl with
    | item hm hl => exact h _ hm hl

end Losing

/-- Pruned against a first item, an item is the same exactly if it loses nothing. -/
theorem prune_same_iff {applied first item : Document} (ha : applied.WellFormed)
    (hi : item.WellFormed) :
    (prune item first applied).same item = true ↔ ¬ Loses applied first item := by
  constructor
  · intro hsame hl
    exact hl.not_same ha hi hi hsame
  · intro h
    rw [prune_eq_self ha hi h]
    exact same_refl item

theorem same_list_map_iff {items : List Document} {f : Document → Document} :
    (list (items.map f)).same (list items) = true ↔ ∀ item ∈ items, (f item).same item = true := by
  rw [same_list_iff, List.map_map, List.map_inj_left]
  exact forall₂_congr fun item _ => same_iff.symm

/-- A target laid over a live document and pruned is covered exactly if it loses nothing. -/
theorem prune_merge_covers_iff {live first applied target : Document} (hl : live.WellFormed)
    (ha : applied.WellFormed) (ht : target.WellFormed) :
    (prune (merge live target) first applied).Covers target ↔ ¬ Loses applied first target := by
  induction target using inductionOn generalizing live first applied with
  | scalar d hs =>
    rw [merge_scalar hs, prune_scalar hs, covers_scalar hs]
    exact iff_of_true (same_refl d) (not_loses_scalar hs)
  | mapping fields ih =>
    obtain ⟨hs, hw⟩ := wellFormed_mapping.mp ht
    have hmerged := merge_wellFormed live hl _ ht
    have hget := get?_prune_eq hmerged ha first
    obtain ⟨predicted, hpredicted⟩ :
        ∃ predicted, prune (merge live (mapping fields)) first applied = mapping predicted := by
      rw [merge_mapping ht]
      cases first with
      | mapping firstFields => exact ⟨_, prune_mapping _ firstFields applied⟩
      | _ => exact ⟨_, prune_of_no_mapping rfl _ applied⟩
    rw [hpredicted] at hget ⊢
    rw [covers_mapping hs, not_loses_mapping_iff]
    refine forall_congr' fun field => forall_congr' fun t => forall_congr' fun hfield => ?_
    have hm := Table.mem_of_get? hfield
    have hinside := @ih _ hm (live.fieldOrNull field) (first.fieldOrNull field) _
      (wellFormed_fieldOrNull hl field) (wellFormed_fieldOrNull ha field) (hw _ hm)
    have hvalue : Table.get? predicted field = _ := hget field
    rw [hvalue, get?_merge ht, hfield]
    cases dropsField applied first field with
    | true => simp
    | false => simpa using hinside
  | list items ih =>
    have hw := wellFormed_list.mp ht
    cases hn : isNamedList items with
    | false =>
      have hplain : ¬ (isNamedList (items.map fun item => prune item (first.partner item)
          (applied.partner item)) = true ∧ isNamedList items = true) := by simp [hn]
      rw [merge_plain_list hn, prune_list, covers_plain_list hplain, same_list_map_iff,
        not_loses_list_iff]
      exact forall₂_congr fun item hm => prune_same_iff (wellFormed_partner ha item) (hw item hm)
    | true =>
      have hnames : ∀ t ∈ items, (prune (merge (live.partner t) t) (first.partner t)
          (applied.partner t)).itemName? = t.itemName? := by
        intro t hm
        obtain ⟨name, hname⟩ := (isNamedList_iff.mp hn).2 t hm
        have hmerged : (merge (live.partner t) t).itemName? = t.itemName? := by
          rw [itemName?_merge (hw t hm) hname, hname]
        have hwm := merge_wellFormed _ (wellFormed_partner hl t) t (hw t hm)
        rw [← partner_congr first hmerged, ← partner_congr applied hmerged,
          itemName?_prune_partner hwm ha, hmerged]
      have hnamed : isNamedList (items.map fun t => prune (merge (live.partner t) t)
          (first.partner t) (applied.partner t)) = true := by
        refine (isNamedList_congr ?_).trans hn
        rw [List.map_map]
        exact List.map_congr_left hnames
      rw [prune_merge_list ht hn, covers_named_list hnamed hn, itemsCovered_map hnames,
        not_loses_list_iff]
      exact forall₂_congr fun t hm =>
        ih t hm (wellFormed_partner hl t) (wellFormed_partner ha t) (hw t hm)

end Document

namespace Comparison

/-- The prediction covers the target exactly if the target loses nothing to itself by what was
applied last, both without ignored fields; so it does if no named list of the target repeats a
name, and if nothing is recorded as applied. -/
theorem predicted_covers_target_iff (key : ResourceKey) (live target : ResourceObject)
    (config : DriftConfig) :
    ∃ comparison predicted, ofSides key (some live) (some target) config = .ok comparison ∧
      comparison.predicted = some predicted ∧
      (predicted.document.Covers (target.normalize key config).document ↔
        ¬ ∃ applied, live.lastApplied? key config = some applied ∧
          applied.document.Loses (target.normalize key config).document
            (target.normalize key config).document) ∧
      ((target.normalize key config).document.DistinctNames ∨
          live.lastApplied? key config = none →
        predicted.document.Covers (target.normalize key config).document) := by
  refine ⟨_, _, ofSides_both key live target config, rfl, ?_⟩
  have hl : (live.normalize key config).document.WellFormed :=
    (live.normalize key config).wellFormed
  have ht : (target.normalize key config).document.WellFormed :=
    (target.normalize key config).wellFormed
  have ha := lastAppliedDocument_wellFormed live key config
  have hcovers := @Document.prune_merge_covers_iff _ (target.normalize key config).document _ _
    hl ha ht
  rw [document_predict_lastApplied, ← loses_lastApplied_iff]
  refine ⟨hcovers, ?_⟩
  rintro (hdistinct | hnone)
  · exact hcovers.mpr (hdistinct.not_loses _)
  · refine hcovers.mpr ?_
    rw [loses_lastApplied_iff, hnone]
    rintro ⟨applied, happlied, -⟩
    cases happlied

section RepeatedItems

/-- What was applied to `runningItems`. -/
def appliedItems : ResourceObject where
  fields := [("apiVersion", .text "v1"), ("items", .list [
      .mapping [("name", .text "a"), ("y", .text "2")]]),
    ("kind", .text "Widget"), ("metadata", .mapping [("name", .text "w")])]
  wellFormed := by decide

/-- A live object with one item, and the record of what was applied. -/
def runningItems : ResourceObject where
  fields := [("apiVersion", .text "v1"), ("items", .list [.mapping [("name", .text "a")]]),
    ("kind", .text "Widget"), ("metadata", .mapping [
      ("annotations", .mapping [("kubectl.kubernetes.io/last-applied-configuration",
        .text ("\x7b\"apiVersion\":\"v1\",\"items\":[\x7b\"name\":\"a\",\"y\":\"2\"\x7d]," ++
          "\"kind\":\"Widget\",\"metadata\":\x7b\"name\":\"w\"\x7d\x7d"))]),
      ("name", .text "w")])]
  wellFormed := by decide

theorem lastApplied?_runningItems :
    runningItems.lastApplied? default .standard = some appliedItems := by
  decide +kernel

/-- The second item of a name loses a field that was applied and the first item lacks. -/
theorem loses_repeatedName :
    appliedItems.document.Loses repeatedName.document repeatedName.document := by
  have happlied : (appliedItems.document.fieldOrNull "items").partner
      (.mapping [("name", .text "a"), ("y", .text "2")]) =
      .mapping [("name", .text "a"), ("y", .text "2")] := by decide
  have hfirst : (repeatedName.document.fieldOrNull "items").partner
      (.mapping [("name", .text "a"), ("y", .text "2")]) =
      .mapping [("name", .text "a"), ("x", .text "1")] := by decide
  have hitem : (appliedItems.document.fieldOrNull "items").Loses
      (repeatedName.document.fieldOrNull "items") (.list [
        .mapping [("name", .text "a"), ("x", .text "1")],
        .mapping [("name", .text "a"), ("y", .text "2")]]) := by
    refine .item (List.mem_cons_of_mem _ List.mem_cons_self) ?_
    rw [happlied, hfirst]
    exact .here "y" rfl rfl rfl
  exact .field rfl hitem

/-- The prediction lacks a field that the target declares, and so does not cover it. -/
theorem predicted_lacks_declared :
    ∃ comparison predicted,
      ofSides default (some runningItems) (some repeatedName) .standard = .ok comparison ∧
      comparison.predicted = some predicted ∧
      predicted.document.get? "items" = some (.list [
        .mapping [("name", .text "a"), ("x", .text "1")], .mapping [("name", .text "a")]]) ∧
      ¬ predicted.document.Covers (repeatedName.normalize default .standard).document := by
  have happlied : runningItems.lastAppliedDocument default .standard = appliedItems.document := by
    rw [ResourceObject.lastAppliedDocument, lastApplied?_runningItems]
    rfl
  refine ⟨_, _, ofSides_both default runningItems repeatedName .standard, rfl, ?_⟩
  rw [document_predict_lastApplied, happlied, ResourceObject.normalize_standard,
    ResourceObject.normalize_standard]
  refine ⟨by decide, ?_⟩
  have hl : runningItems.document.WellFormed := runningItems.wellFormed
  have ht : repeatedName.document.WellFormed := repeatedName.wellFormed
  have ha : appliedItems.document.WellFormed := appliedItems.wellFormed
  intro hcovers
  exact (Document.prune_merge_covers_iff hl ha ht).mp hcovers loses_repeatedName

end RepeatedItems

end Comparison

end DeployDrift
