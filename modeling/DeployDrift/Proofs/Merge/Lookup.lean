import DeployDrift.Proofs.Document.Lists
import DeployDrift.Proofs.Table.Lookup

/-!
# What merging and pruning leave under each field and each name

A field that a document lacks, and an item that a named list lacks, are read as null here: nothing
is changed by laying a document over null, by pruning it against null, or by pruning null from it.
With that convention merging and pruning are described by one equation each for mappings and for
lists, whatever the other documents are.
-/
namespace DeployDrift.Document

/-- The first item of a name, if this is a named list that has one. -/
def namedItem? (d : Document) (name : String) : Option Document :=
  match d with
  | .list items => if isNamedList items then findNamed? items name else none
  | _ => none

/-- What stands under a field, or null. -/
def fieldOrNull (d : Document) (field : String) : Document := (d.get? field).getD .null

/-- The first item of the same name, or null. -/
def partner (d item : Document) : Document := (item.itemName?.bind d.namedItem?).getD .null

section Basic

theorem merge_null (patch : Document) : merge .null patch = patch := by
  cases patch <;> rfl

theorem merge_scalar {patch : Document} (h : patch.IsScalar) (base : Document) :
    merge base patch = patch := by
  cases patch with
  | list _ => exact h.elim
  | mapping _ => exact h.elim
  | _ => rfl

theorem prune_null (predicted target : Document) : prune predicted target .null = predicted := rfl

theorem prune_against_null (predicted applied : Document) :
    prune predicted .null applied = predicted := by
  cases applied with
  | list _ => cases predicted <;> rfl
  | mapping _ => cases predicted <;> rfl
  | _ => rfl

theorem prune_scalar {predicted : Document} (h : predicted.IsScalar) (target applied : Document) :
    prune predicted target applied = predicted := by
  cases predicted with
  | list _ => exact h.elim
  | mapping _ => exact h.elim
  | _ => cases applied <;> rfl

theorem exists_mapping_of_get? {d value : Document} {field : String}
    (h : d.get? field = some value) : ∃ fields, d = mapping fields := by
  cases d with
  | mapping fields => exact ⟨fields, rfl⟩
  | _ => cases h

theorem get?_eq (d : Document) (field : String) :
    d.get? field = Table.get? d.fieldsOrEmpty field := by
  cases d <;> rfl

/-- Mappings with the same look-ups are equal. -/
theorem eq_mapping_of_get? {a : Document} {fields fields' : Fields} (ha : a.WellFormed)
    (hm : a = mapping fields') (hs : Table.Sorted fields)
    (h : ∀ field, a.get? field = Table.get? fields field) : a = mapping fields := by
  subst hm
  exact congrArg mapping (Table.ext (wellFormed_mapping.mp ha).1 hs h)

/-- Well-formed mappings with the same look-ups are equal. -/
theorem eq_of_get? {a b : Document} (ha : a.WellFormed) (hb : b.WellFormed)
    (hma : ∃ fields, a = mapping fields) (hmb : ∃ fields, b = mapping fields)
    (h : ∀ field, a.get? field = b.get? field) : a = b := by
  obtain ⟨fields, rfl⟩ := hma
  obtain ⟨fields', rfl⟩ := hmb
  exact eq_mapping_of_get? ha rfl (wellFormed_mapping.mp hb).1 h

/-- A list of which every item is kept is unchanged. -/
theorem list_map_eq_self {items : List Document} {f : Document → Document}
    (h : ∀ item ∈ items, f item = item) : list (items.map f) = list items :=
  congrArg list ((List.map_congr_left h).trans (List.map_id items))

theorem fieldOrNull_mapping {fields : Fields} {field : String} {value : Document}
    (h : Table.get? fields field = some value) : (mapping fields).fieldOrNull field = value :=
  congrArg (·.getD Document.null) h

theorem wellFormed_fieldOrNull {d : Document} (h : d.WellFormed) (field : String) :
    (d.fieldOrNull field).WellFormed := by
  unfold fieldOrNull
  cases hd : d.get? field with
  | none => simp [WellFormed]
  | some v =>
    cases d with
    | mapping fields => exact h.get? hd
    | _ => cases hd

theorem mem_of_namedItem? {items : List Document} {name : String} {d : Document}
    (h : (list items).namedItem? name = some d) : d ∈ items ∧ d.itemName? = some name := by
  rw [namedItem?] at h
  split at h
  · exact ⟨List.mem_of_find?_eq_some h, by simpa using List.find?_some h⟩
  · cases h

theorem namedItem?_of_not_named {items : List Document} (h : isNamedList items = false)
    (name : String) : (list items).namedItem? name = none := by
  simp [namedItem?, h]

theorem partner_of_not_named {items : List Document} (h : isNamedList items = false)
    (item : Document) : (list items).partner item = .null := by
  unfold partner
  cases item.itemName? with
  | none => rfl
  | some name => rw [Option.bind_some, namedItem?_of_not_named h]; rfl

theorem wellFormed_partner {d : Document} (h : d.WellFormed) (item : Document) :
    (d.partner item).WellFormed := by
  unfold partner
  cases hd : item.itemName?.bind d.namedItem? with
  | none => simp [WellFormed]
  | some v =>
    obtain ⟨name, -, hv⟩ := Option.bind_eq_some_iff.mp hd
    cases d with
    | list items => exact wellFormed_list.mp h v (mem_of_namedItem? hv).1
    | _ => cases hv

theorem partner_congr (d : Document) {a b : Document} (h : a.itemName? = b.itemName?) :
    d.partner a = d.partner b := by
  rw [partner, partner, h]

/-- In a named list of distinct names every item is the first of its name. -/
theorem partner_of_mem {items : List Document} (hn : isNamedList items = true)
    (hd : (items.map itemName?).Nodup) {d : Document} (h : d ∈ items) :
    (list items).partner d = d := by
  obtain ⟨name, hname⟩ := (isNamedList_iff.mp hn).2 d h
  have hfind : findNamed? items name = some d := by
    unfold findNamed?
    clear hn
    induction items with
    | nil => cases h
    | cons e rest ih =>
      obtain ⟨hfresh, hrest⟩ := List.nodup_cons.mp hd
      rcases List.mem_cons.mp h with rfl | h
      · simp [hname]
      · have hne : e.itemName? ≠ some name := fun heq =>
          hfresh (heq.trans hname.symm ▸ List.mem_map_of_mem h)
        rw [List.find?_cons_of_neg (by simpa using hne)]
        exact ih hrest h
  simp [partner, hname, namedItem?, hn, hfind]

end Basic

section Mappings

theorem mergeFields_cons (base : Fields) (field : String) (patch : Document) (rest : Fields) :
    mergeFields base ((field, patch) :: rest) =
      mergeFields
        (Table.insert base field (merge ((Table.get? base field).getD .null) patch)) rest := by
  rw [mergeFields]
  cases Table.get? base field with
  | none => simp only [Option.getD_none, merge_null]
  | some value => rfl

/-- A field of the patch is merged with the base field of its name; every other field of the
base stays. -/
theorem get?_mergeFields {patch : Fields} (hp : Table.Sorted patch) (base : Fields)
    (field : String) :
    Table.get? (mergeFields base patch) field =
      match Table.get? patch field with
      | some p => some (merge ((Table.get? base field).getD .null) p)
      | none => Table.get? base field := by
  induction patch generalizing base with
  | nil => rfl
  | cons e rest ih =>
    obtain ⟨k, p⟩ := e
    obtain ⟨hk, hrest⟩ := Table.sorted_cons.mp hp
    rw [mergeFields_cons, ih hrest, Table.get?_insert, Table.get?_cons]
    by_cases hf : k = field
    · subst hf
      have hgone : Table.get? rest k = none :=
        Table.get?_eq_none_iff.mpr fun e he => (Table.ne_of_lt (hk e he)).symm
      simp [hgone]
    · simp [hf, Ne.symm hf]

theorem merge_mapping {patch : Fields} (hp : (mapping patch).WellFormed) (base : Document) :
    merge base (mapping patch) = mapping (mergeFields base.fieldsOrEmpty patch) := by
  have hover : mapping patch = mapping (mergeFields [] patch) := by
    have hm := mergeFields_wellFormed [] wellFormed_empty patch (wellFormed_mapping.mp hp).2
    refine congrArg mapping (Table.ext (wellFormed_mapping.mp hp).1 (wellFormed_mapping.mp hm).1 ?_)
    intro field
    rw [get?_mergeFields (wellFormed_mapping.mp hp).1]
    cases Table.get? patch field with
    | none => rfl
    | some p => exact congrArg some (merge_null p).symm
  cases base with
  | mapping fields => rfl
  | _ => exact hover

/-- Laid over the empty mapping a mapping is unchanged. -/
theorem merge_empty {patch : Fields} (hp : (mapping patch).WellFormed) :
    merge empty (mapping patch) = mapping patch := by
  rw [merge_mapping hp]
  exact (merge_mapping hp .null).symm.trans (merge_null _)

theorem get?_merge {patch : Fields} (hp : (mapping patch).WellFormed) (base : Document)
    (field : String) :
    (merge base (mapping patch)).get? field =
      match Table.get? patch field with
      | some p => some (merge (base.fieldOrNull field) p)
      | none => base.get? field := by
  rw [merge_mapping hp, fieldOrNull, get?_eq base]
  exact get?_mergeFields (wellFormed_mapping.mp hp).1 _ field

/-- A field that was not applied stays, one that is no longer declared goes, and any other
is pruned in itself. -/
theorem get?_pruneFields {predicted applied : Fields} (hp : Table.Sorted predicted)
    (ha : Table.Sorted applied) (target : Fields) (field : String) :
    Table.get? (pruneFields predicted target applied) field =
      match Table.get? applied field with
      | none => Table.get? predicted field
      | some a =>
        match Table.get? target field with
        | none => none
        | some t => (Table.get? predicted field).map fun p => prune p t a := by
  induction applied generalizing predicted with
  | nil => rfl
  | cons e rest ih =>
    obtain ⟨k, a⟩ := e
    obtain ⟨hk, hrest⟩ := Table.sorted_cons.mp ha
    have hgone : Table.get? rest k = none :=
      Table.get?_eq_none_iff.mpr fun e he => (Table.ne_of_lt (hk e he)).symm
    rw [pruneFields, Table.get?_cons]
    cases ht : Table.get? target k with
    | none =>
      rw [ih (Table.sorted_erase hp k) hrest, Table.get?_erase hp]
      by_cases hf : k = field
      · subst hf
        simp [hgone, ht]
      · simp [hf, Ne.symm hf]
    | some t =>
      rw [ih (Table.sorted_modify hp k _) hrest, Table.get?_modify]
      by_cases hf : k = field
      · subst hf
        simp [hgone, ht]
      · simp [hf, Ne.symm hf]

theorem prune_mapping (predicted target : Fields) (applied : Document) :
    prune (mapping predicted) (mapping target) applied =
      mapping (pruneFields predicted target applied.fieldsOrEmpty) := by
  cases applied <;> rfl

theorem get?_prune {predicted : Fields} (hp : Table.Sorted predicted) (target : Fields)
    {applied : Document} (ha : applied.WellFormed) (field : String) :
    (prune (mapping predicted) (mapping target) applied).get? field =
      match applied.get? field with
      | none => Table.get? predicted field
      | some a =>
        match Table.get? target field with
        | none => none
        | some t => (Table.get? predicted field).map fun p => prune p t a := by
  have hs : Table.Sorted applied.fieldsOrEmpty := by
    cases applied with
    | mapping fields => exact (wellFormed_mapping.mp ha).1
    | _ => exact Table.sorted_nil
  rw [prune_mapping, get?_eq applied]
  exact get?_pruneFields hp hs target field

/-- An applied field that the target has no longer is gone. -/
theorem get?_prune_of_removed {predicted applied : Document} {target : Fields}
    (hp : predicted.WellFormed) (ha : applied.WellFormed) {field : String}
    (happlied : (applied.get? field).isSome = true) (ht : Table.get? target field = none) :
    (prune predicted (mapping target) applied).get? field = none := by
  obtain ⟨a, happlied⟩ := Option.isSome_iff_exists.mp happlied
  cases predicted with
  | mapping fields => rw [get?_prune (wellFormed_mapping.mp hp).1 target ha, happlied, ht]
  | _ => cases applied <;> rfl

/-- A field that the target has is pruned inside. -/
theorem get?_prune_of_target {predicted applied : Document} {target : Fields}
    (hp : predicted.WellFormed) (ha : applied.WellFormed) {field : String} {value : Document}
    (ht : Table.get? target field = some value) :
    (prune predicted (mapping target) applied).get? field =
      (predicted.get? field).map fun p => prune p value (applied.fieldOrNull field) := by
  cases predicted with
  | mapping fields =>
    rw [get?_prune (wellFormed_mapping.mp hp).1 target ha, ht, fieldOrNull]
    cases applied.get? field with
    | none =>
      change _ = (Table.get? fields field).map fun p => p
      rw [Option.map_id']
    | some a => rfl
  | _ => cases applied <;> rfl

end Mappings

section Names

theorem text?_merge (base : Document) {patch : Document} {s : String}
    (h : patch.text? = some s) : (merge base patch).text? = some s := by
  cases patch with
  | text _ => exact h
  | _ => cases h

theorem text?_prune (predicted target applied : Document) :
    (prune predicted target applied).text? = predicted.text? := by
  cases predicted with
  | list items =>
    cases applied with
    | list _ =>
      cases target with
      | list _ => rw [prune]; split <;> rfl
      | _ => rfl
    | _ => rfl
  | mapping fields =>
    cases applied with
    | mapping _ => cases target <;> rfl
    | _ => rfl
  | _ => cases applied <;> rfl

/-- Something with a name is a mapping. -/
theorem exists_mapping_of_itemName? {d : Document} {name : String}
    (h : d.itemName? = some name) : ∃ fields, d = mapping fields := by
  cases d with
  | mapping fields => exact ⟨fields, rfl⟩
  | _ => cases h

theorem itemName?_merge {patch : Document} (hp : patch.WellFormed) {name : String}
    (h : patch.itemName? = some name) (base : Document) :
    (merge base patch).itemName? = some name := by
  obtain ⟨fields, rfl⟩ := exists_mapping_of_itemName? h
  obtain ⟨value, hvalue, htext⟩ := Option.bind_eq_some_iff.mp h
  have hget : Table.get? fields itemNameField = some value := hvalue
  rw [itemName?, get?_merge hp, hget]
  exact text?_merge _ htext

/-- Pruning leaves an item its name if the target has one. -/
theorem itemName?_prune {predicted target applied : Document} (hp : predicted.WellFormed)
    (ha : applied.WellFormed) {name : String} (ht : target.itemName? = some name) :
    (prune predicted target applied).itemName? = predicted.itemName? := by
  cases predicted with
  | mapping fields =>
    obtain ⟨targetFields, rfl⟩ := exists_mapping_of_itemName? ht
    obtain ⟨value, hvalue, -⟩ := Option.bind_eq_some_iff.mp ht
    have hget : Table.get? targetFields itemNameField = some value := hvalue
    rw [itemName?, get?_prune (wellFormed_mapping.mp hp).1 targetFields ha, hget, itemName?]
    cases applied.get? itemNameField with
    | none => rfl
    | some a =>
      change ((Table.get? fields itemNameField).map _).bind text? =
        (Table.get? fields itemNameField).bind text?
      cases Table.get? fields itemNameField with
      | none => rfl
      | some p => exact text?_prune p value a
  | list items =>
    obtain ⟨targetFields, rfl⟩ := exists_mapping_of_itemName? ht
    cases applied <;> rfl
  | _ => cases applied <;> rfl

/-- Pruning against the first items of its name leaves an item its name. -/
theorem itemName?_prune_partner {predicted target applied : Document} (hp : predicted.WellFormed)
    (ha : applied.WellFormed) :
    (prune predicted (target.partner predicted) (applied.partner predicted)).itemName? =
      predicted.itemName? := by
  cases hfirst : predicted.itemName?.bind target.namedItem? with
  | none =>
    rw [partner, hfirst, Option.getD_none, prune_against_null]
  | some first =>
    obtain ⟨name, -, hnamed⟩ := Option.bind_eq_some_iff.mp hfirst
    have hname : first.itemName? = some name := by
      cases target with
      | list items => exact (mem_of_namedItem? hnamed).2
      | _ => cases hnamed
    rw [partner, hfirst, Option.getD_some,
      itemName?_prune hp (wellFormed_partner ha predicted) hname]

end Names

section Lists

theorem pruneNamed_eq (item target : Document) (name : String) (applied : List Document) :
    pruneNamed item target name applied =
      prune item target ((findNamed? applied name).getD .null) := by
  induction applied with
  | nil => exact (prune_null item target).symm
  | cons a rest ih =>
    rw [pruneNamed]
    by_cases h : a.itemName? = some name
    · rw [if_pos h, findNamed?, List.find?_cons_of_pos (by simpa using h)]
      rfl
    · rw [if_neg h, ih, findNamed?, findNamed?, List.find?_cons_of_neg (by simpa using h)]

/-- Every item is pruned against the first items of its name. -/
theorem prune_list (items : List Document) (target applied : Document) :
    prune (list items) target applied =
      list (items.map fun item => prune item (target.partner item) (applied.partner item)) := by
  have keep : (∀ item, target.partner item = .null ∨ applied.partner item = .null) →
      list items =
        list (items.map fun item => prune item (target.partner item) (applied.partner item)) := by
    intro h
    apply Eq.symm (list_map_eq_self _)
    intro item _
    rcases h item with ht | ha
    · rw [ht, prune_against_null]
    · rw [ha, prune_null]
  have none_partner : ∀ {d : Document}, (∀ name, d.namedItem? name = none) →
      ∀ item, d.partner item = .null := by
    intro d h item
    unfold partner
    cases item.itemName? with
    | none => rfl
    | some name => rw [Option.bind_some, h name]; rfl
  cases applied with
  | list applied =>
    cases target with
    | list targets =>
      rw [prune]
      by_cases hn : isNamedList applied = true ∧ isNamedList targets = true
      · rw [if_pos (by simp [hn])]
        refine congrArg list (List.map_congr_left ?_)
        intro item _
        unfold partner
        cases item.itemName? with
        | none => exact (prune_null item _).symm
        | some name =>
          simp only [Option.bind_some, namedItem?, hn.1, hn.2, if_true]
          cases findNamed? targets name with
          | none => exact (prune_against_null item _).symm
          | some t => exact pruneNamed_eq item t name applied
      · rw [if_neg (by simpa using hn)]
        apply keep
        intro item
        by_cases ha : isNamedList applied = true
        · have ht : isNamedList targets = false := by simpa [ha] using hn
          exact .inl (none_partner (namedItem?_of_not_named ht) item)
        · exact .inr (none_partner (namedItem?_of_not_named (by simpa using ha)) item)
    | _ => exact keep fun item => .inl (none_partner (fun _ => rfl) item)
  | _ => exact keep fun item => .inr (none_partner (fun _ => rfl) item)

theorem mergeItems_eq (base patch : List Document) :
    mergeItems base patch =
      patch.map fun p => merge ((p.itemName?.bind (findNamed? base)).getD empty) p := by
  induction patch with
  | nil => rfl
  | cons p rest ih => rw [mergeItems, ih]; rfl

/-- A named list is laid over another document item by item. -/
theorem merge_list {patch : List Document} (hp : (list patch).WellFormed)
    (hn : isNamedList patch = true) (base : Document) :
    merge base (list patch) = list (patch.map fun p => merge (base.partner p) p) := by
  have hover : (∀ name, base.namedItem? name = none) →
      list patch = list (patch.map fun p => merge (base.partner p) p) := by
    intro h
    apply Eq.symm (list_map_eq_self _)
    intro p hm
    obtain ⟨name, hname⟩ := (isNamedList_iff.mp hn).2 p hm
    rw [partner, hname, Option.bind_some, h name]
    exact merge_null p
  cases base with
  | list items =>
    rw [merge]
    by_cases hb : isNamedList items = true
    · rw [if_pos (by simp [hb, hn]), mergeItems_eq]
      refine congrArg list (List.map_congr_left ?_)
      intro p hm
      obtain ⟨name, hname⟩ := (isNamedList_iff.mp hn).2 p hm
      obtain ⟨fields, rfl⟩ := exists_mapping_of_itemName? hname
      simp only [partner, hname, Option.bind_some, namedItem?, hb, if_true]
      cases findNamed? items name with
      | none => exact (merge_empty (wellFormed_list.mp hp _ hm)).trans (merge_null _).symm
      | some b => rfl
    · rw [if_neg (by simp [hb])]
      exact hover (namedItem?_of_not_named (by simpa using hb))
  | _ => exact hover fun _ => rfl

theorem merge_plain_list {patch : List Document} (hn : isNamedList patch = false)
    (base : Document) : merge base (list patch) = list patch := by
  cases base with
  | list items => rw [merge, if_neg (by simp [hn])]
  | _ => rfl

end Lists
end DeployDrift.Document
