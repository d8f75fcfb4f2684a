import DeployDrift.Proofs.Document.Equality
import DeployDrift.Proofs.Merge.Prediction

/-!
# Comparing an object with itself

Items of named lists are matched with the first item of their name, so an item that repeats a name
is laid over another one even if both sides of a comparison are the same object.  It then gains the
fields that the first item has and it lacks, and loses those that were applied and the first item
lacks.  An object compared with itself is unmodified exactly if neither happens anywhere in it.
-/
namespace DeployDrift

namespace Document

/-- Laying an item over the first one of its name adds a field to it, at some depth. -/
inductive Gains : (first item : Document) → Prop
  | here {first : Document} {item : Fields} (field : String)
      (hfirst : (first.get? field).isSome = true) (hitem : Table.get? item field = none) :
      Gains first (.mapping item)
  | field {first : Document} {item : Fields} {field : String} {value : Document}
      (hvalue : Table.get? item field = some value)
      (h : Gains (first.fieldOrNull field) value) : Gains first (.mapping item)
  | item {first : Document} {items : List Document} {item : Document}
      (hn : isNamedList items = true) (hm : item ∈ items) (h : Gains (first.partner item) item) :
      Gains first (.list items)

/-- Pruning an item against the first one of its name takes an applied field from it, at some
depth. -/
inductive Loses : (applied first item : Document) → Prop
  | here {applied : Document} {first item : Fields} (field : String)
      (happlied : (applied.get? field).isSome = true) (hfirst : Table.get? first field = none)
      (hitem : (Table.get? item field).isSome = true) :
      Loses applied (.mapping first) (.mapping item)
  | field {applied first : Document} {item : Fields} {field : String} {value : Document}
      (hvalue : Table.get? item field = some value)
      (h : Loses (applied.fieldOrNull field) (first.fieldOrNull field) value) :
      Loses applied first (.mapping item)
  | item {applied first : Document} {items : List Document} {item : Document} (hm : item ∈ items)
      (h : Loses (applied.partner item) (first.partner item) item) :
      Loses applied first (.list items)

theorem not_gains_null (item : Document) : ¬ Gains .null item := by
  intro h
  generalize hnull : Document.null = first at h
  induction h with
  | here field hfirst _ => subst hnull; cases hfirst
  | field _ _ ih => subst hnull; exact ih rfl
  | item _ _ _ ih => subst hnull; exact ih (partner_null _).symm

theorem not_loses_null (applied item : Document) : ¬ Loses applied .null item := by
  intro h
  generalize hnull : Document.null = first at h
  induction h with
  | here field _ _ _ => cases hnull
  | field _ _ ih => subst hnull; exact ih rfl
  | item _ _ ih => subst hnull; exact ih (partner_null _).symm

theorem not_loses_of_null (first item : Document) : ¬ Loses .null first item := by
  intro h
  generalize hnull : Document.null = applied at h
  induction h with
  | here field happlied _ _ => subst hnull; cases happlied
  | field _ _ ih => subst hnull; exact ih rfl
  | item _ _ ih => subst hnull; exact ih (partner_null _).symm

/-- An item that gains nothing is unchanged when it is laid over the first one. -/
theorem merge_eq_self {first item : Document} (hf : first.WellFormed) (hi : item.WellFormed)
    (h : ¬ Gains first item) : merge first item = item := by
  induction item using inductionOn generalizing first with
  | scalar d hs => exact merge_scalar hs first
  | mapping fields ih =>
    obtain ⟨hs, hw⟩ := wellFormed_mapping.mp hi
    apply eq_mapping_of_get? (merge_wellFormed first hf _ hi) (merge_mapping hi first) hs
    intro field
    rw [get?_merge hi]
    cases hvalue : Table.get? fields field with
    | none =>
      have hnone : ¬ (first.get? field).isSome = true := fun hsome => h (.here field hsome hvalue)
      simpa using hnone
    | some value =>
      have hm := Table.mem_of_get? hvalue
      have hsame := ih _ hm (wellFormed_fieldOrNull hf field) (hw _ hm) fun hg =>
        h (.field hvalue hg)
      exact congrArg some hsame
  | list items ih =>
    have hw := wellFormed_list.mp hi
    cases hn : isNamedList items with
    | false => exact merge_plain_list hn first
    | true =>
      rw [merge_list hi hn]
      apply list_map_eq_self
      intro t hm
      exact ih t hm (wellFormed_partner hf t) (hw t hm) fun hg => h (.item hn hm hg)

/-- An item that loses nothing is unchanged when it is pruned against the first one. -/
theorem prune_eq_self {applied first item : Document} (ha : applied.WellFormed)
    (hi : item.WellFormed) (h : ¬ Loses applied first item) :
    prune item first applied = item := by
  induction item using inductionOn generalizing applied first with
  | scalar d hs => exact prune_scalar hs first applied
  | mapping fields ih =>
    obtain ⟨hs, hw⟩ := wellFormed_mapping.mp hi
    cases first with
    | mapping firstFields =>
      refine eq_mapping_of_get? (prune_wellFormed _ _ hi applied)
        (prune_mapping fields firstFields applied) hs ?_
      intro field
      rw [get?_prune hs firstFields ha]
      cases happlied : applied.get? field with
      | none => rfl
      | some a =>
        cases hfirst : Table.get? firstFields field with
        | none =>
          have hnone : ¬ (Table.get? fields field).isSome = true := fun hsome =>
            h (.here field (by simp [happlied]) hfirst hsome)
          exact (Option.not_isSome_iff_eq_none.mp hnone).symm
        | some value =>
          cases hvalue : Table.get? fields field with
          | none => rfl
          | some v =>
            have hm := Table.mem_of_get? hvalue
            have ha' := wellFormed_fieldOrNull ha field
            have hsame := ih _ hm ha' (hw _ hm) fun hl => h (.field hvalue hl)
            rw [fieldOrNull, fieldOrNull, happlied, get?, hfirst] at hsame
            exact congrArg some hsame
    | _ => cases applied <;> rfl
  | list items ih =>
    have hw := wellFormed_list.mp hi
    rw [prune_list]
    apply list_map_eq_self
    intro t hm
    exact ih t hm (wellFormed_partner ha t) (hw t hm) fun hl => h (.item hm hl)

/-- What an item gains from the first one no pruning against that takes away again. -/
theorem Gains.not_same {first item : Document} (h : Gains first item) (hf : first.WellFormed)
    (hi : item.WellFormed) {applied : Document} (ha : applied.WellFormed) :
    ¬ (prune (merge first item) first applied).same item = true := by
  induction h generalizing applied with
  | @here first item field hfirst hitem =>
    intro hsame
    obtain ⟨value, hvalue⟩ := Option.isSome_iff_exists.mp hfirst
    obtain ⟨firstFields, rfl⟩ := exists_mapping_of_get? hvalue
    have hkept := get?_prune_of_target (merge_wellFormed _ hf _ hi) ha hvalue
    rw [get?_eq_none_of_same hsame hitem, get?_merge hi, hitem, hvalue] at hkept
    cases hkept
  | @field first item field value hvalue hgains ih =>
    intro hsame
    cases hfirst : first.get? field with
    | none =>
      rw [fieldOrNull, hfirst] at hgains
      exact not_gains_null value hgains
    | some v =>
      obtain ⟨firstFields, rfl⟩ := exists_mapping_of_get? hfirst
      have hget := get?_prune_of_target (merge_wellFormed _ hf _ hi) ha hfirst
      rw [get?_merge hi, hvalue, Option.map_some, fieldOrNull, hfirst] at hget
      rw [fieldOrNull, hfirst] at ih
      refine ih (hf.get? hfirst) (hi.get? hvalue) (wellFormed_fieldOrNull ha field) ?_
      exact same_of_get? hsame hget hvalue
  | @item first items item hn hm _ ih =>
    intro hsame
    rw [prune_merge_list hi hn] at hsame
    exact ih (wellFormed_partner hf item) (wellFormed_list.mp hi item hm)
      (wellFormed_partner ha item) (same_of_map_same hsame item hm)

/-- What an item loses is missing whatever is pruned. -/
theorem Loses.not_same {applied first item : Document} (h : Loses applied first item)
    (ha : applied.WellFormed) (hi : item.WellFormed) {predicted : Document}
    (hp : predicted.WellFormed) :
    ¬ (prune predicted first applied).same item = true := by
  induction h generalizing predicted with
  | @here applied first item field happlied hfirst hitem =>
    intro hsame
    have hgone := get?_prune_of_removed hp ha happlied hfirst
    have hnone : Table.get? item field = none := get?_eq_none_of_same (same_symm hsame) hgone
    rw [hnone] at hitem
    cases hitem
  | @field applied first item field value hvalue hloses ih =>
    intro hsame
    cases hfirst : first.get? field with
    | none =>
      rw [fieldOrNull, fieldOrNull, hfirst] at hloses
      exact not_loses_null _ value hloses
    | some v =>
      obtain ⟨firstFields, rfl⟩ := exists_mapping_of_get? hfirst
      have hget := get?_prune_of_target hp ha hfirst
      cases hpredicted : predicted.get? field with
      | none =>
        rw [hpredicted] at hget
        have hgone := get?_eq_none_of_same (same_symm hsame) hget
        cases hgone.symm.trans hvalue
      | some p =>
        obtain ⟨fields, rfl⟩ := exists_mapping_of_get? hpredicted
        rw [hpredicted] at hget
        rw [fieldOrNull, fieldOrNull, hfirst] at ih
        refine ih (wellFormed_fieldOrNull ha field) (hi.get? hvalue) (hp.get? hpredicted) ?_
        exact same_of_get? hsame hget hvalue
  | @item applied first items item hm _ ih =>
    intro hsame
    obtain ⟨pruned, hpruned⟩ := same_list_left (same_symm hsame)
    obtain ⟨predictedItems, rfl⟩ : ∃ predictedItems, predicted = list predictedItems := by
      cases predicted with
      | list predictedItems => exact ⟨predictedItems, rfl⟩
      | mapping fields => cases first <;> cases applied <;> cases hpruned
      | _ => cases applied <;> cases hpruned
    rw [prune_list, same_list_iff, List.map_map] at hsame
    obtain ⟨p, hmem, hitem⟩ := List.mem_map.mp (hsame ▸ List.mem_map_of_mem hm)
    have hw := wellFormed_list.mp hp p hmem
    have hname := itemName?_of_same (same_iff.mpr hitem)
    rw [itemName?_prune_partner hw ha] at hname
    apply ih (wellFormed_partner ha item) (wellFormed_list.mp hi item hm) hw
    rw [← partner_congr first hname, ← partner_congr applied hname]
    exact same_iff.mpr hitem

/-- In an object without repeated names every item is the first of its name and gains nothing. -/
theorem DistinctNames.not_gains {d : Document} (h : d.DistinctNames) : ¬ Gains d d := by
  induction d using inductionOn with
  | scalar d hs => intro hg; cases hg <;> exact hs.elim
  | mapping fields ih =>
    intro hg
    cases hg with
    | here field hfirst hitem =>
      have hfirst : (Table.get? fields field).isSome = true := hfirst
      rw [hitem] at hfirst
      cases hfirst
    | @field _ _ field value hvalue hg =>
      rw [fieldOrNull_mapping hvalue] at hg
      exact ih _ (Table.mem_of_get? hvalue) (h.get? (d := mapping fields) hvalue) hg
  | list items ih =>
    intro hg
    obtain ⟨hnodup, hitems⟩ := everyList_list.mp h
    cases hg with
    | item hn hm hg =>
      rw [partner_of_mem hn (hnodup hn) hm] at hg
      exact ih _ hm (hitems _ hm) hg

/-- Without repeated names every item is compared with itself, so nothing is lost. -/
theorem DistinctNames.not_loses {d : Document} (h : d.DistinctNames) (applied : Document) :
    ¬ Loses applied d d := by
  induction d using inductionOn generalizing applied with
  | scalar d hs => intro hl; cases hl <;> exact hs.elim
  | mapping fields ih =>
    intro hl
    cases hl with
    | here field _ hfirst hitem =>
      rw [hfirst] at hitem
      cases hitem
    | @field _ _ _ field value hvalue hl =>
      rw [fieldOrNull_mapping hvalue] at hl
      exact ih _ (Table.mem_of_get? hvalue) (h.get? (d := mapping fields) hvalue) _ hl
  | list items ih =>
    intro hl
    obtain ⟨hnodup, hitems⟩ := everyList_list.mp h
    cases hl with
    | @item _ _ _ item hm hl =>
      cases hn : isNamedList items with
      | false =>
        rw [partner_of_not_named hn] at hl
        exact not_loses_null _ item hl
      | true =>
        rw [partner_of_mem hn (hnodup hn) hm] at hl
        exact ih _ hm (hitems _ hm) _ hl

/-- An item that neither gains nor loses anything is unchanged altogether. -/
theorem prune_merge_eq_self {applied first item : Document} (ha : applied.WellFormed)
    (hf : first.WellFormed) (hi : item.WellFormed) (hg : ¬ Gains first item)
    (hl : ¬ Loses applied first item) : prune (merge first item) first applied = item := by
  rw [merge_eq_self hf hi hg, prune_eq_self ha hi hl]

/-- An item comes out of both passes as it was exactly if the first item of its name gives
it nothing and takes nothing from it. -/
theorem prune_merge_same_iff {applied first item : Document} (ha : applied.WellFormed)
    (hf : first.WellFormed) (hi : item.WellFormed) :
    (prune (merge first item) first applied).same item = true ↔
      ¬ Gains first item ∧ ¬ Loses applied first item := by
  constructor
  · intro hsame
    constructor
    · intro hg
      exact hg.not_same hf hi ha hsame
    · intro hl
      exact hl.not_same ha hi (merge_wellFormed first hf item hi) hsame
  · rintro ⟨hg, hl⟩
    rw [prune_merge_eq_self ha hf hi hg hl]
    exact same_refl item

end Document

namespace Comparison

theorem loses_lastApplied_iff (key : ResourceKey) (o : ResourceObject) (config : DriftConfig)
    (first item : Document) :
    (o.lastAppliedDocument key config).Loses first item ↔
      ∃ applied, o.lastApplied? key config = some applied ∧ applied.document.Loses first item := by
  unfold ResourceObject.lastAppliedDocument
  cases o.lastApplied? key config with
  | none => simp [Document.not_loses_of_null]
  | some applied => simp

/-- An object compared with itself is unmodified exactly if no item that repeats a name gains a
field from the first item of that name or loses one, and so it is if no named list repeats a name.
Unmodified, it is predicted to stay as it is. -/
theorem identical_unmodified_iff (key : ResourceKey) (o : ResourceObject) (config : DriftConfig) :
    ∃ comparison, ofSides key (some o) (some o) config = .ok comparison ∧
      (comparison.modified = false ↔
        ¬ (o.normalize key config).document.Gains (o.normalize key config).document ∧
        ¬ ∃ applied, o.lastApplied? key config = some applied ∧
          applied.document.Loses (o.normalize key config).document
            (o.normalize key config).document) ∧
      (comparison.modified = false ↔
        comparison.normalized = some (o.normalize key config) ∧
        comparison.predicted = some (o.normalize key config)) ∧
      ((o.normalize key config).document.DistinctNames → comparison.modified = false) := by
  have hn := (o.normalize key config).wellFormed
  have ha := lastAppliedDocument_wellFormed o key config
  have hsame := Document.prune_merge_same_iff ha hn hn
  have hpredicted := document_predict_lastApplied key o o config
  refine ⟨_, ofSides_both key o o config, ?_, ?_, ?_⟩
  · rw [Bool.not_eq_false', hpredicted, ← loses_lastApplied_iff]
    exact hsame
  · rw [Bool.not_eq_false', and_iff_right rfl, Option.some_inj]
    constructor
    · intro h
      rw [hpredicted] at h
      obtain ⟨hg, hl⟩ := hsame.mp h
      have hsteady := hpredicted.trans (Document.prune_merge_eq_self ha hn hn hg hl)
      exact ResourceObject.ext (Document.mapping.inj hsteady)
    · intro h
      rw [h]
      exact Document.same_refl _
  · intro hd
    rw [Bool.not_eq_false', hpredicted]
    exact hsame.mpr ⟨hd.not_gains, hd.not_loses _⟩

/-- An object with two items of one name, the first with a field that the second lacks. -/
def repeatedName : ResourceObject where
  fields := [("apiVersion", .text "v1"), ("items", .list [
      .mapping [("name", .text "a"), ("x", .text "1")],
      .mapping [("name", .text "a"), ("y", .text "2")]]),
    ("kind", .text "Widget"), ("metadata", .mapping [("name", .text "w")])]
  wellFormed := by decide

/-- An object that repeats a name is modified by being laid over itself. -/
theorem repeatedName_modified :
    ∃ comparison, ofSides default (some repeatedName) (some repeatedName) .standard =
        .ok comparison ∧ comparison.modified = true ∧
      comparison.predicted ≠ comparison.normalized := by
  have hnone : repeatedName.lastApplied? default .standard = none := by decide
  refine ⟨_, ofSides_both default repeatedName repeatedName .standard, ?_⟩
  rw [ResourceObject.normalize_standard, hnone]
  decide

end Comparison
end DeployDrift
