import DeployDrift.Proofs.Merge.Prediction

/-!
# The three-way merge

`Document.threeWay` merges a live document, a target and what was applied before in one pass over
the target.  Laying the target over the live document and pruning the result afterwards comes to
the same, whatever the live document and the applied one look like, if no named list of the target
repeats a name.
-/
namespace DeployDrift.Document

/-- The live fields that are neither declared nor were applied. -/
def keptFields (live target : Fields) (applied : Option Document) : Fields :=
  live.filter fun e => !Table.contains target e.1 && (applied.bind (·.get? e.1)).isNone

mutual
/-- The target with what is live and was not applied filled in where the target does not say. -/
def threeWay (live : Document) : (target : Document) → (applied : Option Document) → Document
  | .mapping target, applied =>
    match live with
    | .mapping fields =>
      .mapping (threeWayFields fields applied (keptFields fields target applied) target)
    | _ => .mapping target
  | .list target, applied =>
    match live with
    | .list items =>
      if isNamedList items && isNamedList target then .list (threeWayItems items applied target)
      else .list target
    | _ => .list target
  | target, _ => target
termination_by structural target => target

/-- The kept fields and, over them, the fields of the target. -/
def threeWayFields (live : Fields) (applied : Option Document) (kept : Fields) :
    List (String × Document) → Fields
  | [] => kept
  | (field, target) :: rest =>
    Table.insert (threeWayFields live applied kept rest) field
      (match Table.get? live field with
      | some value => threeWay value target (applied.bind (·.get? field))
      | none => target)
termination_by structural target => target

/-- Each item of the target with the first live item and the first applied item of its name. -/
def threeWayItems (live : List Document) (applied : Option Document) :
    List Document → List Document
  | [] => []
  | target :: rest =>
    threeWay ((target.itemName?.bind (findNamed? live)).getD empty) target
        (target.itemName?.bind fun name => applied.bind (·.namedItem? name)) ::
      threeWayItems live applied rest
termination_by structural target => target
end

theorem threeWay_scalar {target : Document} (h : target.IsScalar) (live : Document)
    (applied : Option Document) : threeWay live target applied = target := by
  cases target with
  | list _ => exact h.elim
  | mapping _ => exact h.elim
  | _ => rfl

theorem sorted_threeWayFields {live kept : Fields} (h : Table.Sorted kept)
    (applied : Option Document) (target : List (String × Document)) :
    Table.Sorted (threeWayFields live applied kept target) := by
  induction target with
  | nil => exact h
  | cons e rest ih =>
    rw [threeWayFields]
    exact Table.sorted_insert ih _ _

theorem get?_threeWayFields (live kept : Fields) (applied : Option Document) (target : Fields)
    (field : String) :
    Table.get? (threeWayFields live applied kept target) field =
      match Table.get? target field with
      | some t =>
        some (match Table.get? live field with
          | some value => threeWay value t (applied.bind (·.get? field))
          | none => t)
      | none => Table.get? kept field := by
  induction target with
  | nil => rfl
  | cons e rest ih =>
    obtain ⟨k, t⟩ := e
    rw [threeWayFields, Table.get?_insert, Table.get?_cons, ih]
    by_cases hk : k = field
    · subst hk
      simp
    · simp [hk, Ne.symm hk]

theorem threeWayItems_eq (live : List Document) (applied : Option Document)
    (target : List Document) :
    threeWayItems live applied target = target.map fun t =>
      threeWay ((t.itemName?.bind (findNamed? live)).getD empty) t
        (t.itemName?.bind fun name => applied.bind (·.namedItem? name)) := by
  induction target with
  | nil => rfl
  | cons t rest ih => rw [threeWayItems, ih]; rfl

section Absent

variable (applied : Option Document)

theorem fieldOrNull_getD (field : String) :
    (applied.getD .null).fieldOrNull field = (applied.bind (·.get? field)).getD .null := by
  cases applied <;> rfl

theorem get?_getD (field : String) :
    (applied.getD .null).get? field = applied.bind (·.get? field) := by
  cases applied <;> rfl

theorem partner_getD (item : Document) :
    (applied.getD .null).partner item =
      (item.itemName?.bind fun name => applied.bind (·.namedItem? name)).getD .null := by
  cases applied with
  | none => rw [Option.getD_none, partner_null]; cases item.itemName? <;> rfl
  | some a => rfl

end Absent

/-- The prediction is the three-way merge, also where nothing was applied. -/
theorem predict_eq_threeWay {live target : Document} (applied : Option Document)
    (hl : live.WellFormed) (ht : target.WellFormed) (ha : (applied.getD .null).WellFormed)
    (hd : target.DistinctNames) :
    predict live target (applied.getD .null) = threeWay live target applied := by
  induction target using inductionOn generalizing live applied with
  | scalar d hs => rw [predict_scalar hs, threeWay_scalar hs]
  | mapping fields ih =>
    cases live with
    | mapping liveFields =>
      obtain ⟨hs, hw⟩ := wellFormed_mapping.mp ht
      obtain ⟨predicted, hp⟩ := exists_predict_mapping ht (mapping liveFields) (applied.getD .null)
      have hkept : Table.Sorted (keptFields liveFields fields applied) :=
        (wellFormed_mapping.mp hl).1.filter _
      rw [threeWay]
      refine eq_mapping_of_get? (predict_wellFormed hl ht _) hp
        (sorted_threeWayFields hkept applied fields) ?_
      intro field
      rw [get?_predict hl ht ha, get?_threeWayFields]
      cases htarget : Table.get? fields field with
      | none =>
        rw [get?_getD]
        have hfilter := Table.get?_filter liveFields (fun k => !Table.contains fields k &&
          (applied.bind (·.get? k)).isNone) field
        refine Eq.trans ?_ hfilter.symm
        cases happlied : applied.bind (·.get? field) with
        | none => simp [Table.contains, htarget]; rfl
        | some a => simp
      | some t =>
        have hm := Table.mem_of_get? htarget
        have hw' : ((applied.bind (·.get? field)).getD .null).WellFormed := by
          rw [← fieldOrNull_getD]
          exact wellFormed_fieldOrNull ha field
        have hd' := everyList_mapping.mp hd _ hm
        rw [fieldOrNull_getD]
        cases hlive : Table.get? liveFields field with
        | none =>
          have hnull : fieldOrNull (mapping liveFields) field = .null := by
            rw [fieldOrNull, get?_eq]
            exact congrArg (·.getD Document.null) hlive
          rw [hnull]
          exact congrArg some (predict_over_null (hw _ hm) hw' hd')
        | some value =>
          rw [fieldOrNull_mapping hlive]
          exact congrArg some (ih _ hm _ (hl.get? hlive) (hw _ hm) hw' hd')
    | _ => exact predict_over_null ht ha hd
  | list items ih =>
    obtain ⟨hnodup, hitems⟩ := everyList_list.mp hd
    have plain : merge live (list items) = list items →
        predict live (list items) (applied.getD .null) = list items := by
      intro h
      rw [predict, h]
      exact predict_over_null ht ha hd
    cases live with
    | list liveItems =>
      rw [threeWay]
      by_cases hn : isNamedList liveItems = true ∧ isNamedList items = true
      · rw [if_pos (by simp [hn]), predict_distinct_list ht hn.2 (hnodup hn.2), threeWayItems_eq]
        refine congrArg list (List.map_congr_left ?_)
        intro t hm
        have hw := wellFormed_list.mp ht t hm
        have hw' := wellFormed_partner ha t
        obtain ⟨name, hname⟩ := (isNamedList_iff.mp hn.2).2 t hm
        rw [partner_getD] at hw' ⊢
        simp only [partner, hname, Option.bind_some, namedItem?, hn.1, if_true] at hw' ⊢
        cases hfound : findNamed? liveItems name with
        | some l =>
          exact ih t hm _ (wellFormed_list.mp hl l (List.mem_of_find?_eq_some hfound)) hw hw'
            (hitems t hm)
        | none =>
          -- an item that is not live is laid over the empty mapping, which is as good as null
          obtain ⟨fields, rfl⟩ := exists_mapping_of_itemName? hname
          refine Eq.trans ?_ (ih _ hm _ wellFormed_empty hw hw' (hitems _ hm))
          rw [predict, predict, Option.getD_none, Option.getD_none, merge_empty hw, merge_null]
      · rw [if_neg (by simpa using hn)]
        apply plain
        rw [merge, if_neg (by simpa using hn)]
    | _ => exact plain rfl

/-- Laying a target over a live document and pruning what was applied before is the three-way
merge of the three, if no named list of the target repeats a name. -/
theorem prune_merge_eq_threeWay {live target applied : Document} (hl : live.WellFormed)
    (ht : target.WellFormed) (ha : applied.WellFormed) (hd : target.DistinctNames) :
    prune (merge live target) target applied = threeWay live target (some applied) :=
  predict_eq_threeWay (some applied) hl ht ha hd

/-- A pod of one container as it runs. -/
def livePod : Document := .mapping [("containers", .list [.mapping [
  ("env", .mapping [("A", .text "1"), ("B", .text "2")]), ("name", .text "web"),
  ("pullPolicy", .text "Always")]])]

/-- The pod as it was applied. -/
def appliedPod : Document := .mapping [("containers", .list [.mapping [
  ("env", .mapping [("A", .text "1"), ("B", .text "2")]), ("name", .text "web")]])]

/-- The pod as it is declared now, with a second container and one variable less. -/
def targetPod : Document := .mapping [("containers", .list [
  .mapping [("name", .text "log")],
  .mapping [("env", .mapping [("A", .text "3")]), ("name", .text "web")]])]

/-- Of the running container the variable that is declared no longer goes, and what only the
cluster knows stays. -/
theorem threeWay_pod :
    livePod.WellFormed ∧ targetPod.WellFormed ∧ appliedPod.WellFormed ∧
      targetPod.DistinctNames ∧
      prune (merge livePod targetPod) targetPod appliedPod =
        threeWay livePod targetPod (some appliedPod) ∧
      threeWay livePod targetPod (some appliedPod) = .mapping [("containers", .list [
        .mapping [("name", .text "log")],
        .mapping [("env", .mapping [("A", .text "3")]), ("name", .text "web"),
          ("pullPolicy", .text "Always")]])] := by
  have hl : livePod.WellFormed := by decide
  have ht : targetPod.WellFormed := by decide
  have ha : appliedPod.WellFormed := by decide
  have hd : targetPod.DistinctNames := by decide
  exact ⟨hl, ht, ha, hd, prune_merge_eq_threeWay hl ht ha hd, by decide⟩

end DeployDrift.Document
