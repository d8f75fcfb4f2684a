import DeployDrift.Proofs.Merge.Declared

/-!
# Predictions do not see the signs of zeros

Laying over and pruning commute with dropping the signs of zeros, so that the predictions for the
same documents are the same.
-/
namespace DeployDrift.Document

theorem IsScalar.withoutZeroSign {d : Document} (h : d.IsScalar) : d.withoutZeroSign.IsScalar := by
  cases d with
  | list _ => exact h.elim
  | mapping _ => exact h.elim
  | _ => trivial

theorem WellFormed.withoutZeroSign {d : Document} (h : d.WellFormed) :
    d.withoutZeroSign.WellFormed := by
  induction d using inductionOn with
  | scalar d hs =>
    have hstrip := hs.withoutZeroSign
    revert hstrip
    cases d.withoutZeroSign <;> simp [IsScalar, WellFormed]
  | list items ih =>
    rw [withoutZeroSign_list, wellFormed_list, List.forall_mem_map]
    exact fun d hd => ih d hd (wellFormed_list.mp h d hd)
  | mapping fields ih =>
    obtain ⟨hs, hw⟩ := wellFormed_mapping.mp h
    rw [withoutZeroSign_mapping, wellFormed_mapping, List.forall_mem_map]
    exact ⟨List.pairwise_map.mpr hs, fun e he => ih e he (hw e he)⟩

theorem fieldOrNull_withoutZeroSign (d : Document) (field : String) :
    d.withoutZeroSign.fieldOrNull field = (d.fieldOrNull field).withoutZeroSign := by
  rw [fieldOrNull, fieldOrNull, get?_withoutZeroSign]
  cases d.get? field <;> rfl

theorem isNamedList_withoutZeroSign (items : List Document) :
    isNamedList (items.map withoutZeroSign) = isNamedList items :=
  isNamedList_congr (map_itemName?_withoutZeroSign items)

theorem namedItem?_withoutZeroSign (d : Document) (name : String) :
    d.withoutZeroSign.namedItem? name = (d.namedItem? name).map withoutZeroSign := by
  cases d with
  | list items =>
    rw [withoutZeroSign_list, namedItem?, namedItem?, isNamedList_withoutZeroSign]
    split
    · have hname : ((fun d => d.itemName? == some name) ∘ withoutZeroSign) =
          fun d => d.itemName? == some name := by
        funext d
        rw [Function.comp_apply, itemName?_withoutZeroSign]
      rw [findNamed?, findNamed?, List.find?_map, hname]
    · rfl
  | mapping fields => rw [withoutZeroSign_mapping]; rfl
  | _ => rfl

theorem partner_withoutZeroSign (d item : Document) :
    d.withoutZeroSign.partner item.withoutZeroSign = (d.partner item).withoutZeroSign := by
  rw [partner, partner, itemName?_withoutZeroSign]
  cases item.itemName? with
  | none => rfl
  | some name =>
    rw [Option.bind_some, Option.bind_some, namedItem?_withoutZeroSign]
    cases d.namedItem? name <;> rfl

/-- Merging does not look at the signs of zeros. -/
theorem withoutZeroSign_merge {base patch : Document} (hb : base.WellFormed)
    (hp : patch.WellFormed) :
    (merge base patch).withoutZeroSign = merge base.withoutZeroSign patch.withoutZeroSign := by
  induction patch using inductionOn generalizing base with
  | scalar d hs => rw [merge_scalar hs, merge_scalar hs.withoutZeroSign]
  | mapping fields ih =>
    obtain ⟨-, hw⟩ := wellFormed_mapping.mp hp
    have hstrip := hp.withoutZeroSign
    have hleft := (merge_wellFormed base hb _ hp).withoutZeroSign
    have hright := merge_wellFormed _ hb.withoutZeroSign _ hstrip
    rw [withoutZeroSign_mapping] at hstrip hright ⊢
    apply eq_of_get? hleft hright
    · rw [merge_mapping hp, withoutZeroSign_mapping]
      exact ⟨_, rfl⟩
    · rw [merge_mapping hstrip]
      exact ⟨_, rfl⟩
    intro field
    rw [get?_withoutZeroSign, get?_merge hp, get?_merge hstrip, fieldOrNull_withoutZeroSign,
      get?_withoutZeroSign, Table.get?_map fields (fun _ d => d.withoutZeroSign)]
    cases hvalue : Table.get? fields field with
    | none => rfl
    | some p =>
      have hm := Table.mem_of_get? hvalue
      exact congrArg some (ih _ hm (wellFormed_fieldOrNull hb field) (hw _ hm))
  | list items ih =>
    have hstrip := hp.withoutZeroSign
    have hnamed := isNamedList_withoutZeroSign items
    rw [withoutZeroSign_list] at hstrip ⊢
    cases hn : isNamedList items with
    | false =>
      rw [merge_plain_list hn, merge_plain_list (hnamed.trans hn), withoutZeroSign_list]
    | true =>
      rw [merge_list hp hn, merge_list hstrip (hnamed.trans hn), withoutZeroSign_list, List.map_map,
        List.map_map]
      refine congrArg list (List.map_congr_left ?_)
      intro t hm
      rw [Function.comp_apply, Function.comp_apply, partner_withoutZeroSign]
      exact ih t hm (wellFormed_partner hb t) (wellFormed_list.mp hp t hm)

theorem dropsField_withoutZeroSign (applied first : Document) (field : String) :
    dropsField applied.withoutZeroSign first.withoutZeroSign field =
      dropsField applied first field := by
  have hfields : first.withoutZeroSign.fields?.isSome = first.fields?.isSome := by
    cases first with
    | mapping fields => rw [withoutZeroSign_mapping]; rfl
    | list items => rw [withoutZeroSign_list]; rfl
    | _ => rfl
  rw [dropsField, dropsField, hfields, get?_withoutZeroSign, get?_withoutZeroSign,
    Option.isNone_map, Option.isSome_map]

/-- Pruning does not look at the signs of zeros. -/
theorem withoutZeroSign_prune {predicted applied : Document} (hp : predicted.WellFormed)
    (ha : applied.WellFormed) (target : Document) :
    (prune predicted target applied).withoutZeroSign =
      prune predicted.withoutZeroSign target.withoutZeroSign applied.withoutZeroSign := by
  induction predicted using inductionOn generalizing target applied with
  | scalar d hs => rw [prune_scalar hs, prune_scalar hs.withoutZeroSign]
  | mapping fields ih =>
    obtain ⟨-, hw⟩ := wellFormed_mapping.mp hp
    have hstrip := hp.withoutZeroSign
    have isMapping : ∀ (predicted : Fields) (first applied : Document),
        ∃ pruned, prune (mapping predicted) first applied = mapping pruned := by
      intro predicted first applied
      cases first with
      | mapping firstFields => exact ⟨_, prune_mapping predicted firstFields applied⟩
      | _ => exact ⟨predicted, prune_of_no_mapping rfl predicted applied⟩
    have hleft := (prune_wellFormed (mapping fields) target hp applied).withoutZeroSign
    have hright := prune_wellFormed _ target.withoutZeroSign hstrip applied.withoutZeroSign
    apply eq_of_get? hleft hright
    · obtain ⟨pruned, hpruned⟩ := isMapping fields target applied
      rw [hpruned, withoutZeroSign_mapping]
      exact ⟨_, rfl⟩
    · rw [withoutZeroSign_mapping]
      exact isMapping _ _ _
    intro field
    rw [get?_withoutZeroSign, get?_prune_eq hp ha, get?_prune_eq hstrip ha.withoutZeroSign,
      dropsField_withoutZeroSign, get?_withoutZeroSign, fieldOrNull_withoutZeroSign,
      fieldOrNull_withoutZeroSign]
    split
    · rfl
    · cases hvalue : (mapping fields).get? field with
      | none => rfl
      | some p =>
        have hm := Table.mem_of_get? hvalue
        exact congrArg some (ih _ hm (hw _ hm) (wellFormed_fieldOrNull ha field) _)
  | list items ih =>
    rw [withoutZeroSign_list, prune_list, prune_list, withoutZeroSign_list, List.map_map,
      List.map_map]
    refine congrArg list (List.map_congr_left ?_)
    intro item hm
    rw [Function.comp_apply, Function.comp_apply, partner_withoutZeroSign, partner_withoutZeroSign]
    exact ih item hm (wellFormed_list.mp hp item hm) (wellFormed_partner ha item) _

/-- The predictions for the same documents are the same. -/
theorem same_predict {live live' target target' applied : Document} (hl : live.WellFormed)
    (hl' : live'.WellFormed) (ht : target.WellFormed) (ht' : target'.WellFormed)
    (ha : applied.WellFormed) (hlive : live.same live' = true)
    (htarget : target.same target' = true) :
    (predict live target applied).same (predict live' target' applied) = true := by
  have hm := merge_wellFormed live hl target ht
  have hm' := merge_wellFormed live' hl' target' ht'
  rw [same_iff] at hlive htarget ⊢
  rw [predict, predict, withoutZeroSign_prune hm ha, withoutZeroSign_prune hm' ha,
    withoutZeroSign_merge hl ht, withoutZeroSign_merge hl' ht', hlive, htarget]

end DeployDrift.Document
