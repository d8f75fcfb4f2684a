import DeployDrift.Document

/-!
# Laying a target over a live object

`Document.merge` lays a document over another one: mappings merge field by field, and lists in which
every item is a mapping with a name merge item by item, in the order of the upper one; everything
else is replaced.  `Document.prune` then takes away the fields that an earlier configuration had and
the present one has no longer.
-/
namespace DeployDrift.Document

/-- The field that identifies the items of a named list. -/
def itemNameField : String := "name"

/-- The name of a list item: the text in the field `name` of a mapping. -/
def itemName? (d : Document) : Option String := (d.get? itemNameField).bind text?

/-- The list is not empty and every item has a name. -/
def isNamedList (items : List Document) : Bool :=
  !items.isEmpty && items.all fun d => d.itemName?.isSome

/-- The first item with the given name. -/
def findNamed? (items : List Document) (name : String) : Option Document :=
  items.find? fun d => d.itemName? == some name

mutual
/-- The base with a patch laid over it. -/
def merge (base : Document) : Document → Document
  | .mapping patch =>
    match base with
    | .mapping fields => .mapping (mergeFields fields patch)
    | _ => .mapping patch
  | .list patch =>
    match base with
    | .list items =>
      if isNamedList items && isNamedList patch then .list (mergeItems items patch)
      else .list patch
    | _ => .list patch
  | patch => patch

/-- The base fields with the fields of a patch laid over them, one after another. -/
def mergeFields (base : Fields) : List (String × Document) → Fields
  | [] => base
  | (field, patch) :: rest =>
    mergeFields
      (Table.insert base field
        (match Table.get? base field with
        | some value => merge value patch
        | none => patch))
      rest

/-- Each patch item laid over the first base item of its name, or over the empty mapping. -/
def mergeItems (base : List Document) : List Document → List Document
  | [] => []
  | patch :: rest =>
    merge ((patch.itemName?.bind (findNamed? base)).getD empty) patch :: mergeItems base rest
end

mutual
/-- The predicted document without the fields that were applied and the target lacks. -/
def prune (predicted target : Document) : (applied : Document) → Document
  | .mapping applied =>
    match predicted, target with
    | .mapping fields, .mapping targetFields => .mapping (pruneFields fields targetFields applied)
    | _, _ => predicted
  | .list applied =>
    match predicted, target with
    | .list items, .list targetItems =>
      if isNamedList applied && isNamedList targetItems then
        .list (items.map fun item =>
          match item.itemName? with
          | none => item
          | some name =>
            match findNamed? targetItems name with
            | none => item
            | some targetItem => pruneNamed item targetItem name applied)
      else predicted
    | _, _ => predicted
  | _ => predicted
termination_by structural applied => applied

def pruneFields (predicted target : Fields) : List (String × Document) → Fields
  | [] => predicted
  | (field, applied) :: rest =>
    pruneFields
      (match Table.get? target field with
      | none => Table.erase predicted field
      | some value => Table.modify predicted field fun p => prune p value applied)
      target rest
termination_by structural applied => applied

/-- An item pruned against the first applied item of its name. -/
def pruneNamed (item target : Document) (name : String) : List Document → Document
  | [] => item
  | applied :: rest =>
    if applied.itemName? = some name then prune item target applied
    else pruneNamed item target name rest
termination_by structural applied => applied
end

/-!
## Merging and pruning keep documents well formed
-/

theorem wellFormed_findNamed {items : List Document} (h : ∀ d ∈ items, d.WellFormed)
    {name? : Option String} : ((name?.bind (findNamed? items)).getD empty).WellFormed := by
  cases hf : name?.bind (findNamed? items) with
  | none => exact wellFormed_empty
  | some d =>
    obtain ⟨name, -, hd⟩ := Option.bind_eq_some_iff.mp hf
    exact h d (List.mem_of_find?_eq_some hd)

mutual
theorem merge_wellFormed (base : Document) (hb : base.WellFormed) :
    (patch : Document) → patch.WellFormed → (merge base patch).WellFormed
  | .mapping patch, hp => by
    cases base with
    | mapping fields =>
      exact mergeFields_wellFormed fields hb patch (wellFormed_mapping.mp hp).2
    | _ => exact hp
  | .list patch, hp => by
    cases base with
    | list items =>
      rw [merge]
      split
      · exact wellFormed_list.mpr
          (mergeItems_wellFormed items (wellFormed_list.mp hb) patch (wellFormed_list.mp hp))
      · exact hp
    | _ => exact hp
  | .null, _ => by simp [merge, WellFormed]
  | .bool _, _ => by simp [merge, WellFormed]
  | .number _, _ => by simp [merge, WellFormed]
  | .text _, _ => by simp [merge]

theorem mergeFields_wellFormed (base : Fields) (hb : (mapping base).WellFormed) :
    (patch : List (String × Document)) → (∀ e ∈ patch, e.2.WellFormed) →
      (mapping (mergeFields base patch)).WellFormed
  | [], _ => hb
  | (field, patch) :: rest, hp => by
    rw [mergeFields]
    refine mergeFields_wellFormed _ (wellFormed_insert hb field ?_) rest
      fun e he => hp e (List.mem_cons_of_mem _ he)
    have hv : patch.WellFormed := hp (field, patch) List.mem_cons_self
    split
    next value hvalue => exact merge_wellFormed value (hb.get? hvalue) patch hv
    next => exact hv

theorem mergeItems_wellFormed (base : List Document) (hb : ∀ d ∈ base, d.WellFormed) :
    (patch : List Document) → (∀ d ∈ patch, d.WellFormed) →
      ∀ d ∈ mergeItems base patch, d.WellFormed
  | [], _ => by simp [mergeItems]
  | patch :: rest, hp => by
    intro d hd
    rw [mergeItems, List.mem_cons] at hd
    rcases hd with rfl | hd
    · exact merge_wellFormed _ (wellFormed_findNamed hb) patch (hp patch List.mem_cons_self)
    · exact mergeItems_wellFormed base hb rest (fun d h => hp d (List.mem_cons_of_mem _ h)) d hd
end

mutual
theorem prune_wellFormed (predicted target : Document) (hp : predicted.WellFormed) :
    (applied : Document) → (prune predicted target applied).WellFormed
  | .mapping applied => by
    cases predicted with
    | mapping fields =>
      cases target with
      | mapping targetFields => exact pruneFields_wellFormed fields targetFields hp applied
      | _ => exact hp
    | _ => exact hp
  | .list applied => by
    cases predicted with
    | list items =>
      cases target with
      | list targetItems =>
        rw [prune]
        split
        · refine wellFormed_list.mpr fun d hd => ?_
          obtain ⟨item, hi, rfl⟩ := List.mem_map.mp hd
          have hw := wellFormed_list.mp hp item hi
          split
          · exact hw
          · split
            · exact hw
            · exact pruneNamed_wellFormed _ _ hw _ applied
        · exact hp
      | _ => exact hp
    | _ => exact hp
  | .null => by simpa [prune] using hp
  | .bool _ => by simpa [prune] using hp
  | .number _ => by simpa [prune] using hp
  | .text _ => by simpa [prune] using hp
termination_by structural applied => applied

theorem pruneFields_wellFormed (predicted target : Fields) (hp : (mapping predicted).WellFormed) :
    (applied : List (String × Document)) →
      (mapping (pruneFields predicted target applied)).WellFormed
  | [] => hp
  | (field, applied) :: rest => by
    rw [pruneFields]
    refine pruneFields_wellFormed _ target ?_ rest
    split
    · exact wellFormed_erase hp field
    · exact wellFormed_modify hp field fun p h => prune_wellFormed p _ h applied
termination_by structural applied => applied

theorem pruneNamed_wellFormed (item target : Document) (hi : item.WellFormed) (name : String) :
    (applied : List Document) → (pruneNamed item target name applied).WellFormed
  | [] => hi
  | applied :: rest => by
    rw [pruneNamed]
    split
    · exact prune_wellFormed item target hi applied
    · exact pruneNamed_wellFormed item target hi name rest
termination_by structural applied => applied
end

end DeployDrift.Document
