import DeployDrift.Proofs.Merge.Survival

/-!
# Predictions are steady

What a prediction holds at a path is live and undeclared, or it is the prediction for what is
declared there.  Predicting once more from a prediction, with the same target and with what was
applied before or with nothing, changes nothing, if no named list of the target repeats a name.
-/
namespace DeployDrift.Document

/-- A predicted value is a live one that is not declared, or the prediction for a declared one. -/
theorem fieldAt?_of_predict {live target applied value : Document} {path : List String}
    (hl : live.WellFormed) (ht : target.WellFormed) (ha : applied.WellFormed)
    (h : (predict live target applied).fieldAt? path = some value) :
    live.fieldAt? path = some value ∧ target.fieldAt? path = none ∨
      ∃ l t a, target.fieldAt? path = some t ∧ value = predict l t a := by
  induction path generalizing live target applied with
  | nil => exact .inr ⟨live, target, applied, rfl, (Option.some.inj h).symm⟩
  | cons field rest ih =>
    rw [fieldAt?_cons] at h
    cases target with
    | mapping fields =>
      rw [get?_predict hl ht ha] at h
      rw [fieldAt?_cons, fieldAt?_cons]
      cases htarget : Table.get? fields field with
      | none =>
        have hnone : (mapping fields).get? field = none := htarget
        rw [htarget] at h
        cases happlied : (applied.get? field).isSome with
        | true =>
          rw [happlied] at h
          cases h
        | false =>
          rw [happlied] at h
          exact .inl ⟨h, by rw [hnone, Option.bind_none]⟩
      | some t =>
        have hsome : (mapping fields).get? field = some t := htarget
        rw [htarget, Option.bind_some] at h
        rw [hsome, Option.bind_some]
        rcases ih (wellFormed_fieldOrNull hl field) (ht.get? htarget)
          (wellFormed_fieldOrNull ha field) h with ⟨hlive, hnone⟩ | hdeclared
        · refine .inl ⟨?_, hnone⟩
          cases hvalue : live.get? field with
          | some l => rwa [fieldOrNull, hvalue] at hlive
          | none =>
            -- null has a value at the empty path alone, where something is declared
            rw [fieldOrNull, hvalue, Option.getD_none] at hlive
            cases rest with
            | nil => cases hnone
            | cons below rest => cases hlive
        · exact .inr hdeclared
    | list items =>
      obtain ⟨predicted, hpredicted⟩ := exists_predict_list ht live applied
      rw [hpredicted] at h
      cases h
    | _ =>
      rw [predict_scalar (by trivial)] at h
      cases h

theorem fieldAt?_predict_eq_none {live target applied : Document} {path : List String}
    (hl : live.WellFormed) (ht : target.WellFormed) (ha : applied.WellFormed)
    (hlive : live.fieldAt? path = none) (htarget : target.fieldAt? path = none) :
    (predict live target applied).fieldAt? path = none := by
  cases hvalue : (predict live target applied).fieldAt? path with
  | none => rfl
  | some value =>
    rcases fieldAt?_of_predict hl ht ha hvalue with ⟨hsome, -⟩ | ⟨l, t, a, hsome, -⟩
    · cases hlive.symm.trans hsome
    · cases htarget.symm.trans hsome

theorem text?_predict (live target applied : Document) :
    (predict live target applied).text? = target.text? := by
  rw [predict, text?_prune]
  cases target with
  | list items =>
    cases live with
    | list liveItems => rw [merge]; split <;> rfl
    | _ => rfl
  | mapping fields => cases live <;> rfl
  | _ => rfl

/-- A predicted text is live or declared. -/
theorem textAt_of_predict {live target applied : Document} {path : List String} {s : String}
    (hl : live.WellFormed) (ht : target.WellFormed) (ha : applied.WellFormed)
    (h : (predict live target applied).fieldAt? path = some (.text s)) :
    live.fieldAt? path = some (.text s) ∨ target.fieldAt? path = some (.text s) := by
  rcases fieldAt?_of_predict hl ht ha h with ⟨hlive, -⟩ | ⟨l, t, a, htarget, hvalue⟩
  · exact .inl hlive
  · apply Or.inr
    have htext := text?_predict l t a
    rw [← hvalue] at htext
    cases t with
    | text r => rw [htarget, Option.some.inj htext]
    | _ => cases htext

theorem itemName?_predict {live target applied : Document} (ht : target.WellFormed)
    (hl : live.WellFormed) (ha : applied.WellFormed) {name : String}
    (h : target.itemName? = some name) : (predict live target applied).itemName? = some name := by
  rw [predict, itemName?_prune (merge_wellFormed live hl target ht) ha h, itemName?_merge ht h]

/-- Under the name of a target item stands the prediction for it. -/
theorem partner_predict {live applied item : Document} {target : List Document}
    (hl : live.WellFormed) (ht : (list target).WellFormed) (ha : applied.WellFormed)
    (hn : isNamedList target = true) (hd : (target.map itemName?).Nodup) (hm : item ∈ target) :
    (predict live (list target) applied).partner item =
      predict (live.partner item) item (applied.partner item) := by
  have hname : ∀ t ∈ target,
      (predict (live.partner t) t (applied.partner t)).itemName? = t.itemName? := by
    intro t hmem
    obtain ⟨name, hname⟩ := (isNamedList_iff.mp hn).2 t hmem
    rw [itemName?_predict (wellFormed_list.mp ht t hmem) (wellFormed_partner hl t)
      (wellFormed_partner ha t) hname, hname]
  have hnames : (target.map fun t => predict (live.partner t) t (applied.partner t)).map
      itemName? = target.map itemName? := by
    rw [List.map_map]
    exact List.map_congr_left hname
  rw [predict_distinct_list ht hn hd, ← partner_congr _ (hname item hm)]
  exact partner_of_mem ((isNamedList_congr hnames).trans hn) (hnames ▸ hd)
    (List.mem_map_of_mem hm)

/-- A prediction is not changed by predicting from it again. -/
theorem predict_again {live target applied again : Document} (hl : live.WellFormed)
    (ht : target.WellFormed) (ha : applied.WellFormed) (hd : target.DistinctNames)
    (hagain : again = applied ∨ again = .null) :
    predict (predict live target applied) target again = predict live target applied := by
  induction target using inductionOn generalizing live applied again with
  | scalar d hs => rw [predict_scalar hs, predict_scalar hs]
  | mapping fields ih =>
    obtain ⟨hs, hw⟩ := wellFormed_mapping.mp ht
    have hp := predict_wellFormed hl ht applied
    have hw' : again.WellFormed := by
      rcases hagain with rfl | rfl
      · exact ha
      · simp [WellFormed]
    apply eq_of_get? (predict_wellFormed hp ht again) hp (exists_predict_mapping ht _ again)
      (exists_predict_mapping ht live applied)
    intro field
    have hget := get?_predict hl ht ha field
    rw [get?_predict hp ht hw']
    cases htarget : Table.get? fields field with
    | none =>
      rw [htarget] at hget
      rcases hagain with rfl | rfl
      · rw [hget]
        cases (again.get? field).isSome <;> rfl
      · rfl
    | some t =>
      rw [htarget] at hget
      have hm := Table.mem_of_get? htarget
      have hvalue : (predict live (mapping fields) applied).fieldOrNull field =
          predict (live.fieldOrNull field) t (applied.fieldOrNull field) := by
        rw [fieldOrNull, hget, Option.getD_some]
      have hbelow : again.fieldOrNull field = applied.fieldOrNull field ∨
          again.fieldOrNull field = .null := by
        rcases hagain with rfl | rfl
        · exact .inl rfl
        · exact .inr rfl
      rw [hvalue, hget]
      exact congrArg some (ih _ hm (wellFormed_fieldOrNull hl field) (hw _ hm)
        (wellFormed_fieldOrNull ha field) (everyList_mapping.mp hd _ hm) hbelow)
  | list items ih =>
    obtain ⟨hnodup, hitems⟩ := everyList_list.mp hd
    cases hn : isNamedList items with
    | false => rw [predict_plain_list hn, predict_plain_list hn]
    | true =>
      rw [predict_distinct_list ht hn (hnodup hn)]
      refine Eq.trans ?_ (predict_distinct_list ht hn (hnodup hn)).symm
      refine congrArg list (List.map_congr_left ?_)
      intro t hm
      have hbelow : again.partner t = applied.partner t ∨ again.partner t = .null := by
        rcases hagain with rfl | rfl
        · exact .inl rfl
        · exact .inr (partner_null t)
      rw [partner_predict hl ht ha hn (hnodup hn) hm]
      exact ih t hm (wellFormed_partner hl t) (wellFormed_list.mp ht t hm) (wellFormed_partner ha t)
        (hitems t hm) hbelow

end DeployDrift.Document
