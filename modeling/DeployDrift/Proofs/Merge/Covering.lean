import DeployDrift.Proofs.Document.Equality
import DeployDrift.Proofs.Merge.Lookup

/-!
# Covering

A live document covers a target that it agrees with wherever the target says anything: in every
field of the target's mappings, in every item of its named lists, and otherwise altogether.
-/
namespace DeployDrift.Document

mutual
/-- The live document has every field of the target and covers it there; named lists have as many
items of the same names in the same order and cover them; all else is the same on both sides. -/
def Covers (live : Document) : (target : Document) → Prop
  | .mapping target =>
    match live with
    | .mapping fields => FieldsCovered fields target
    | _ => False
  | .list target =>
    match live with
    | .list items =>
      if isNamedList items && isNamedList target then ItemsCovered items target
      else (Document.list items).same (.list target) = true
    | _ => False
  | target => live.same target = true

def FieldsCovered (live : Fields) : List (String × Document) → Prop
  | [] => True
  | (field, target) :: rest =>
    (match Table.get? live field with
      | some value => Covers value target
      | none => False) ∧ FieldsCovered live rest

def ItemsCovered : List Document → List Document → Prop
  | [], [] => True
  | live :: liveRest, target :: rest =>
    live.itemName? = target.itemName? ∧ Covers live target ∧ ItemsCovered liveRest rest
  | _, _ => False
end

theorem covers_scalar {target : Document} (h : target.IsScalar) (live : Document) :
    live.Covers target ↔ live.same target = true := by
  cases target with
  | list _ => exact h.elim
  | mapping _ => exact h.elim
  | _ => rfl

theorem fieldsCovered_iff {live target : Fields} :
    FieldsCovered live target ↔
      ∀ e ∈ target, ∃ value, Table.get? live e.1 = some value ∧ value.Covers e.2 := by
  induction target with
  | nil => simp [FieldsCovered]
  | cons e rest ih =>
    obtain ⟨field, t⟩ := e
    rw [FieldsCovered, ih, List.forall_mem_cons]
    apply and_congr_left
    intro _
    cases Table.get? live field <;> simp

theorem covers_mapping {live target : Fields} (ht : Table.Sorted target) :
    (mapping live).Covers (mapping target) ↔
      ∀ field t, Table.get? target field = some t →
        ∃ value, Table.get? live field = some value ∧ value.Covers t := by
  change FieldsCovered live target ↔ _
  rw [fieldsCovered_iff]
  constructor
  · intro h field t hget
    exact h (field, t) (Table.mem_of_get? hget)
  · intro h e he
    exact h e.1 e.2 ((Table.get?_eq_some_iff ht).mpr he)

/-- A list that covers another one item by item has its names in the same order. -/
theorem names_of_itemsCovered {live target : List Document} (h : ItemsCovered live target) :
    live.map itemName? = target.map itemName? := by
  induction live generalizing target with
  | nil =>
    cases target with
    | nil => rfl
    | cons t rest => exact h.elim
  | cons l liveRest ih =>
    cases target with
    | nil => exact h.elim
    | cons t rest =>
      obtain ⟨hname, -, hrest⟩ := h
      rw [List.map_cons, List.map_cons, hname, ih hrest]

/-- A list that gives every target item its live one covers the targets item by item. -/
theorem itemsCovered_map {live : Document → Document} {target : List Document}
    (hnames : ∀ t ∈ target, (live t).itemName? = t.itemName?) :
    ItemsCovered (target.map live) target ↔ ∀ t ∈ target, (live t).Covers t := by
  induction target with
  | nil => simp [ItemsCovered]
  | cons t rest ih =>
    have hrest := ih fun u hu => hnames u (List.mem_cons_of_mem _ hu)
    rw [List.map_cons, ItemsCovered, hrest, List.forall_mem_cons]
    exact ⟨fun h => h.2, fun h => ⟨hnames t List.mem_cons_self, h⟩⟩

theorem covers_named_list {live target : List Document} (hl : isNamedList live = true)
    (ht : isNamedList target = true) :
    (list live).Covers (list target) ↔ ItemsCovered live target := by
  rw [Covers, if_pos (by simp [hl, ht])]

theorem covers_plain_list {live target : List Document}
    (h : ¬ (isNamedList live = true ∧ isNamedList target = true)) :
    (list live).Covers (list target) ↔ (list live).same (list target) = true := by
  rw [Covers, if_neg (by simpa using h)]

/-- Items of the same names in the same order, all of them distinct, are found by name. -/
theorem map_partner {live target : List Document} (hl : isNamedList live = true)
    (hd : (live.map itemName?).Nodup) (h : live.map itemName? = target.map itemName?) :
    target.map (list live).partner = live := by
  let byName (name? : Option String) : Document :=
    (name?.bind (list live).namedItem?).getD .null
  calc target.map (list live).partner = (target.map itemName?).map byName := by
        rw [List.map_map]; rfl
    _ = live.map (list live).partner := by rw [← h, List.map_map]; rfl
    _ = live :=
        (List.map_congr_left fun l hm => partner_of_mem hl hd hm).trans (List.map_id _)

/-- Without repeated names, items are covered when those of the same names are. -/
theorem itemsCovered_iff {live target : List Document} (ht : isNamedList target = true)
    (hd : (target.map itemName?).Nodup) :
    ItemsCovered live target ↔ live.map itemName? = target.map itemName? ∧
      ∀ t ∈ target, ((list live).partner t).Covers t := by
  have split : live.map itemName? = target.map itemName? →
      (ItemsCovered live target ↔ ∀ t ∈ target, ((list live).partner t).Covers t) := by
    intro hnames
    have hl : isNamedList live = true := (isNamedList_congr hnames).trans ht
    have hmap := map_partner hl (hnames ▸ hd) hnames
    have hsame : ∀ t ∈ target, ((list live).partner t).itemName? = t.itemName? := by
      rw [← List.map_inj_left, ← hnames]
      conv => rhs; rw [← hmap]
      rw [List.map_map]
      rfl
    have hcovered := itemsCovered_map hsame
    rwa [hmap] at hcovered
  constructor
  · intro h
    have hnames := names_of_itemsCovered h
    exact ⟨hnames, (split hnames).mp h⟩
  · rintro ⟨hnames, h⟩
    exact (split hnames).mpr h

/-- Covered by a document without repeated names, a target has none either. -/
theorem Covers.distinctNames {live target : Document} (ht : target.WellFormed)
    (hc : live.Covers target) (hd : live.DistinctNames) : target.DistinctNames := by
  induction target using inductionOn generalizing live with
  | scalar d hs => exact hs.everyList
  | mapping fields ih =>
    cases live with
    | mapping liveFields =>
      apply everyList_mapping.mpr
      intro e he
      obtain ⟨hs, hw⟩ := wellFormed_mapping.mp ht
      have hget := (Table.get?_eq_some_iff hs).mpr he
      obtain ⟨value, hvalue, hcover⟩ := (covers_mapping hs).mp hc e.1 e.2 hget
      exact ih e he (hw e he) hcover (hd.get? (d := mapping liveFields) hvalue)
    | _ => exact hc.elim
  | list items ih =>
    cases live with
    | list liveItems =>
      by_cases hn : isNamedList liveItems = true ∧ isNamedList items = true
      · have hitems := (covers_named_list hn.1 hn.2).mp hc
        have hnames := names_of_itemsCovered hitems
        obtain ⟨hnodup, hlive⟩ := everyList_list.mp hd
        have hnodup' : (items.map itemName?).Nodup := hnames ▸ hnodup hn.1
        have hcover := ((itemsCovered_iff hn.2 hnodup').mp hitems).2
        have hmap := map_partner hn.1 (hnodup hn.1) hnames
        refine everyList_list.mpr ⟨fun _ => hnodup', ?_⟩
        intro t hm
        have hmem := List.mem_map_of_mem (f := (list liveItems).partner) hm
        rw [hmap] at hmem
        exact ih t hm (wellFormed_list.mp ht t hm) (hcover t hm) (hlive _ hmem)
      · exact distinctNames_of_same ((covers_plain_list hn).mp hc) hd
    | _ => exact hc.elim

/-!
## Containment

A live document contains a target if it has every field of the target's mappings and is otherwise
the same.  Unlike covering this makes no exception for named lists, whose items have to be the same
as well.
-/

mutual
/-- The live document has every field of the target and contains it there; what is no mapping is the
same on both sides. -/
def Contains (live : Document) : (target : Document) → Prop
  | .mapping target =>
    match live with
    | .mapping fields => FieldsContained fields target
    | _ => False
  | target => live.same target = true

def FieldsContained (live : Fields) : List (String × Document) → Prop
  | [] => True
  | (field, target) :: rest =>
    (match Table.get? live field with
      | some value => Contains value target
      | none => False) ∧ FieldsContained live rest
end

theorem contains_scalar {target : Document} (h : target.IsScalar) (live : Document) :
    live.Contains target ↔ live.same target = true := by
  cases target with
  | list _ => exact h.elim
  | mapping _ => exact h.elim
  | _ => rfl

theorem contains_list (live : Document) (target : List Document) :
    live.Contains (list target) ↔ live.same (list target) = true := Iff.rfl

theorem fieldsContained_iff {live target : Fields} :
    FieldsContained live target ↔
      ∀ e ∈ target, ∃ value, Table.get? live e.1 = some value ∧ value.Contains e.2 := by
  induction target with
  | nil => simp [FieldsContained]
  | cons e rest ih =>
    obtain ⟨field, t⟩ := e
    rw [FieldsContained, ih, List.forall_mem_cons]
    apply and_congr_left
    intro _
    cases Table.get? live field <;> simp

theorem contains_mapping {live target : Fields} (ht : Table.Sorted target) :
    (mapping live).Contains (mapping target) ↔
      ∀ field t, Table.get? target field = some t →
        ∃ value, Table.get? live field = some value ∧ value.Contains t := by
  change FieldsContained live target ↔ _
  rw [fieldsContained_iff]
  constructor
  · intro h field t hget
    exact h (field, t) (Table.mem_of_get? hget)
  · intro h e he
    exact h e.1 e.2 ((Table.get?_eq_some_iff ht).mpr he)

theorem itemsCovered_of_same {live target : List Document}
    (h : live.map withoutZeroSign = target.map withoutZeroSign)
    (hcover : ∀ t ∈ target, ∀ l : Document, l.same t = true → l.Covers t) :
    ItemsCovered live target := by
  induction live generalizing target with
  | nil =>
    cases target with
    | nil => trivial
    | cons t rest => cases h
  | cons l liveRest ih =>
    cases target with
    | nil => cases h
    | cons t rest =>
      obtain ⟨hhead, htail⟩ := List.cons.inj h
      have hsame : l.same t = true := same_iff.mpr hhead
      refine ⟨itemName?_of_same hsame, hcover t List.mem_cons_self l hsame, ih htail ?_⟩
      intro u hu
      exact hcover u (List.mem_cons_of_mem _ hu)

/-- A document covers every document that is the same. -/
theorem covers_of_same {live target : Document} (ht : target.WellFormed)
    (h : live.same target = true) : live.Covers target := by
  induction target using inductionOn generalizing live with
  | scalar d hs => exact (covers_scalar hs live).mpr h
  | mapping fields ih =>
    obtain ⟨liveFields, rfl⟩ := same_mapping_left (same_symm h)
    obtain ⟨hs, hw⟩ := wellFormed_mapping.mp ht
    rw [covers_mapping hs]
    intro field t hget
    have hfield := same_get? h field
    have htarget : (mapping fields).get? field = some t := hget
    rw [htarget] at hfield
    obtain ⟨value, hvalue, hsame⟩ := Option.map_eq_some_iff.mp hfield
    have hm := Table.mem_of_get? hget
    exact ⟨value, hvalue, ih _ hm (hw _ hm) (same_iff.mpr hsame)⟩
  | list items ih =>
    obtain ⟨liveItems, rfl⟩ := same_list_left (same_symm h)
    by_cases hn : isNamedList liveItems = true ∧ isNamedList items = true
    · rw [covers_named_list hn.1 hn.2]
      apply itemsCovered_of_same (same_list_iff.mp h)
      intro t hm l hsame
      exact ih t hm (wellFormed_list.mp ht t hm) hsame
    · rwa [covers_plain_list hn]

/-- What contains a target covers it. -/
theorem Contains.covers {live target : Document} (ht : target.WellFormed)
    (h : live.Contains target) : live.Covers target := by
  induction target using inductionOn generalizing live with
  | scalar d hs => exact (covers_scalar hs live).mpr ((contains_scalar hs live).mp h)
  | list items _ => exact covers_of_same ht ((contains_list live items).mp h)
  | mapping fields ih =>
    obtain ⟨hs, hw⟩ := wellFormed_mapping.mp ht
    cases live with
    | mapping liveFields =>
      rw [covers_mapping hs]
      intro field t hget
      obtain ⟨value, hvalue, hcontains⟩ := (contains_mapping hs).mp h field t hget
      have hm := Table.mem_of_get? hget
      exact ⟨value, hvalue, ih _ hm (hw _ hm) hcontains⟩
    | _ => exact h.elim

end DeployDrift.Document
