import DeployDrift.Proofs.Document.Lists
import DeployDrift.Proofs.Table.Lookup

/-!
# Equality up to the signs of zeros

Two documents are the same when they are equal once the signs of zeros are dropped.  Dropping them
moves no field, no item and no name, so that sameness is decided field by field and item by item.
-/
namespace DeployDrift.Document

theorem itemsWithoutZeroSign_eq (items : List Document) :
    itemsWithoutZeroSign items = items.map withoutZeroSign := by
  induction items with
  | nil => rfl
  | cons d rest ih => simp [itemsWithoutZeroSign, ih]

theorem fieldsWithoutZeroSign_eq (fields : List (String × Document)) :
    fieldsWithoutZeroSign fields = fields.map fun e => (e.1, e.2.withoutZeroSign) := by
  induction fields with
  | nil => rfl
  | cons e rest ih => obtain ⟨k, d⟩ := e; simp [fieldsWithoutZeroSign, ih]

theorem withoutZeroSign_list (items : List Document) :
    (list items).withoutZeroSign = list (items.map withoutZeroSign) := by
  rw [withoutZeroSign, itemsWithoutZeroSign_eq]

theorem withoutZeroSign_mapping (fields : Fields) :
    (mapping fields).withoutZeroSign =
      mapping (fields.map fun e => (e.1, e.2.withoutZeroSign)) := by
  rw [withoutZeroSign, fieldsWithoutZeroSign_eq]

theorem get?_withoutZeroSign (d : Document) (field : String) :
    d.withoutZeroSign.get? field = (d.get? field).map withoutZeroSign := by
  cases d with
  | mapping fields =>
    rw [withoutZeroSign_mapping]
    exact Table.get?_map fields (fun _ d => d.withoutZeroSign) field
  | list items => rw [withoutZeroSign_list]; rfl
  | _ => rfl

theorem text?_withoutZeroSign (d : Document) : d.withoutZeroSign.text? = d.text? := by
  cases d <;> rfl

theorem itemName?_withoutZeroSign (d : Document) : d.withoutZeroSign.itemName? = d.itemName? := by
  rw [itemName?, itemName?, get?_withoutZeroSign]
  cases d.get? itemNameField with
  | none => rfl
  | some v => exact text?_withoutZeroSign v

theorem map_itemName?_withoutZeroSign (items : List Document) :
    (items.map withoutZeroSign).map itemName? = items.map itemName? := by
  simp [itemName?_withoutZeroSign]

theorem same_iff {a b : Document} :
    a.same b = true ↔ a.withoutZeroSign = b.withoutZeroSign := by simp [same]

@[simp] theorem same_refl (d : Document) : d.same d = true := same_iff.mpr rfl

theorem same_symm {a b : Document} (h : a.same b = true) : b.same a = true :=
  same_iff.mpr (same_iff.mp h).symm

theorem same_mapping_left {fields : Fields} {d : Document} (h : (mapping fields).same d = true) :
    ∃ fields', d = mapping fields' := by
  rw [same_iff, withoutZeroSign_mapping] at h
  cases d with
  | mapping fields' => exact ⟨fields', rfl⟩
  | _ => cases h

theorem same_list_left {items : List Document} {d : Document} (h : (list items).same d = true) :
    ∃ items', d = list items' := by
  rw [same_iff, withoutZeroSign_list] at h
  cases d with
  | list items' => exact ⟨items', rfl⟩
  | _ => cases h

theorem itemName?_of_same {a b : Document} (h : a.same b = true) : a.itemName? = b.itemName? := by
  rw [← itemName?_withoutZeroSign a, ← itemName?_withoutZeroSign b, same_iff.mp h]

theorem same_list_iff {xs ys : List Document} :
    (list xs).same (list ys) = true ↔ xs.map withoutZeroSign = ys.map withoutZeroSign := by
  simp [same_iff, withoutZeroSign_list]

theorem names_of_same_list {xs ys : List Document} (h : (list xs).same (list ys) = true) :
    xs.map itemName? = ys.map itemName? := by
  rw [← map_itemName?_withoutZeroSign xs, ← map_itemName?_withoutZeroSign ys, same_list_iff.mp h]

theorem same_get? {a b : Document} (h : a.same b = true) (field : String) :
    (a.get? field).map withoutZeroSign = (b.get? field).map withoutZeroSign := by
  rw [← get?_withoutZeroSign, ← get?_withoutZeroSign, same_iff.mp h]

theorem same_of_get? {a b v w : Document} {field : String} (h : a.same b = true)
    (ha : a.get? field = some v) (hb : b.get? field = some w) : v.same w = true := by
  have hfield := same_get? h field
  rw [ha, hb] at hfield
  exact same_iff.mpr (Option.some.inj hfield)

theorem same_of_map_same {items : List Document} {f : Document → Document}
    (h : (list (items.map f)).same (list items) = true) :
    ∀ item ∈ items, (f item).same item = true := by
  intro item hm
  rw [same_list_iff, List.map_map] at h
  exact same_iff.mpr (List.map_inj_left.mp h item hm)

/-- Mappings are the same when their fields are. -/
theorem same_mapping_iff {a b : Fields} (ha : Table.Sorted a) (hb : Table.Sorted b) :
    (mapping a).same (mapping b) = true ↔
      ∀ field, (Table.get? a field).map withoutZeroSign =
        (Table.get? b field).map withoutZeroSign := by
  constructor
  · intro h field
    exact same_get? h field
  · intro h
    rw [same_iff, withoutZeroSign_mapping, withoutZeroSign_mapping]
    refine congrArg mapping (Table.ext (List.pairwise_map.mpr ha) (List.pairwise_map.mpr hb) ?_)
    intro field
    have hf := h field
    rwa [← Table.get?_map a (fun _ d => d.withoutZeroSign),
      ← Table.get?_map b (fun _ d => d.withoutZeroSign)] at hf

/-- A field that one of two same documents lacks is lacking in the other. -/
theorem get?_eq_none_of_same {a b : Document} (h : a.same b = true) {field : String}
    (hb : b.get? field = none) : a.get? field = none := by
  have hf := same_get? h field
  rw [hb] at hf
  exact Option.map_eq_none_iff.mp hf

/-- A property of lists that does not see the signs of zeros holds throughout a document
with the signs or without. -/
theorem everyList_withoutZeroSign {p : List Document → Prop}
    (hp : ∀ items, p (items.map withoutZeroSign) ↔ p items) (d : Document) :
    d.withoutZeroSign.EveryList p ↔ d.EveryList p := by
  induction d using inductionOn with
  | scalar d hd =>
    have hs : d.withoutZeroSign.IsScalar := by
      cases d with
      | list _ => exact hd.elim
      | mapping _ => exact hd.elim
      | _ => trivial
    exact ⟨fun _ => hd.everyList, fun _ => hs.everyList⟩
  | list items ih =>
    rw [withoutZeroSign_list, everyList_list, everyList_list, hp, List.forall_mem_map]
    exact and_congr_right fun _ => forall₂_congr ih
  | mapping fields ih =>
    rw [withoutZeroSign_mapping, everyList_mapping, everyList_mapping, List.forall_mem_map]
    exact forall₂_congr ih

/-- Documents that are the same repeat names in the same places, so in none if one of them
does not. -/
theorem distinctNames_of_same {a b : Document} (h : a.same b = true) (ha : a.DistinctNames) :
    b.DistinctNames := by
  have hp : ∀ items : List Document,
      (isNamedList (items.map withoutZeroSign) = true →
          ((items.map withoutZeroSign).map itemName?).Nodup) ↔
        (isNamedList items = true → (items.map itemName?).Nodup) := by
    intro items
    have hnames := map_itemName?_withoutZeroSign items
    rw [hnames, isNamedList_congr hnames]
  have hstrip := (everyList_withoutZeroSign hp a).mpr ha
  rw [same_iff.mp h] at hstrip
  exact (everyList_withoutZeroSign hp b).mp hstrip

end DeployDrift.Document
