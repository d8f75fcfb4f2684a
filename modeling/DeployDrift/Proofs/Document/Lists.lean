import DeployDrift.Drift.Merge

/-!
# Induction over documents, and lists inside them

Scalars are one case of the induction.  `Document.EveryList` says of every list at any depth what it
is given to say; the names of list items are distinct in two senses, one of which speaks of all
lists and the other of those lists alone that merge item by item.
-/
namespace DeployDrift.Document

/-- Neither a list nor a mapping. -/
def IsScalar : Document → Prop
  | .list _ | .mapping _ => False
  | _ => True

/-- Induction over documents: the hypothesis is there for every item and for every field. -/
@[elab_as_elim]
theorem inductionOn {motive : Document → Prop} (d : Document)
    (scalar : ∀ d, d.IsScalar → motive d)
    (list : ∀ items, (∀ d ∈ items, motive d) → motive (.list items))
    (mapping : ∀ fields : Fields, (∀ e ∈ fields, motive e.2) → motive (.mapping fields)) :
    motive d :=
  @Document.rec motive (fun items => ∀ d ∈ items, motive d)
    (fun fields => ∀ e ∈ fields, motive e.2) (fun e => motive e.2)
    (scalar _ trivial) (fun _ => scalar _ trivial) (fun _ => scalar _ trivial)
    (fun _ => scalar _ trivial) list mapping
    nofun (fun _ _ hd hrest => List.forall_mem_cons.mpr ⟨hd, hrest⟩)
    nofun (fun _ _ he hrest => List.forall_mem_cons.mpr ⟨he, hrest⟩)
    (fun _ _ h => h) d

section EveryList

mutual
/-- The predicate holds of every list in the document, at any depth. -/
def EveryList (p : List Document → Prop) : Document → Prop
  | .list items => p items ∧ ItemsEveryList p items
  | .mapping fields => FieldsEveryList p fields
  | _ => True

def ItemsEveryList (p : List Document → Prop) : List Document → Prop
  | [] => True
  | d :: rest => d.EveryList p ∧ ItemsEveryList p rest

def FieldsEveryList (p : List Document → Prop) : List (String × Document) → Prop
  | [] => True
  | (_, d) :: rest => d.EveryList p ∧ FieldsEveryList p rest
end

variable {p q : List Document → Prop}

theorem itemsEveryList_iff {items : List Document} :
    ItemsEveryList p items ↔ ∀ d ∈ items, d.EveryList p := by
  induction items with
  | nil => simp [ItemsEveryList]
  | cons d rest ih => simp [ItemsEveryList, ih]

theorem fieldsEveryList_iff {fields : List (String × Document)} :
    FieldsEveryList p fields ↔ ∀ e ∈ fields, e.2.EveryList p := by
  induction fields with
  | nil => simp [FieldsEveryList]
  | cons e rest ih => obtain ⟨k, d⟩ := e; simp [FieldsEveryList, ih]

theorem everyList_list {items : List Document} :
    (list items).EveryList p ↔ p items ∧ ∀ d ∈ items, d.EveryList p := by
  rw [EveryList, itemsEveryList_iff]

theorem everyList_mapping {fields : Fields} :
    (mapping fields).EveryList p ↔ ∀ e ∈ fields, e.2.EveryList p := by
  rw [EveryList, fieldsEveryList_iff]

theorem IsScalar.everyList {d : Document} (h : d.IsScalar) : d.EveryList p := by
  cases d with
  | list _ => exact h.elim
  | mapping _ => exact h.elim
  | _ => trivial

theorem EveryList.get? {d c : Document} {field : String} (h : d.EveryList p)
    (hc : d.get? field = some c) : c.EveryList p := by
  cases d with
  | mapping fields => exact everyList_mapping.mp h _ (Table.mem_of_get? hc)
  | _ => cases hc

theorem EveryList.mono (hpq : ∀ items, p items → q items) {d : Document} (h : d.EveryList p) :
    d.EveryList q := by
  induction d using inductionOn with
  | scalar d hd => exact hd.everyList
  | list items ih =>
    obtain ⟨hp, hi⟩ := everyList_list.mp h
    exact everyList_list.mpr ⟨hpq items hp, fun d hd => ih d hd (hi d hd)⟩
  | mapping fields ih =>
    exact everyList_mapping.mpr fun e he => ih e he (everyList_mapping.mp h e he)

section Decision

variable [DecidablePred p]

mutual
def decEveryList : (d : Document) → Decidable (d.EveryList p)
  | .list items => @instDecidableAnd _ _ inferInstance (decItemsEveryList items)
  | .mapping fields => decFieldsEveryList fields
  | .null | .bool _ | .number _ | .text _ => isTrue trivial

def decItemsEveryList : (items : List Document) → Decidable (ItemsEveryList p items)
  | [] => isTrue trivial
  | d :: rest => @instDecidableAnd _ _ (decEveryList d) (decItemsEveryList rest)

def decFieldsEveryList : (fields : List (String × Document)) → Decidable (FieldsEveryList p fields)
  | [] => isTrue trivial
  | (_, d) :: rest => @instDecidableAnd _ _ (decEveryList d) (decFieldsEveryList rest)
end

instance (d : Document) : Decidable (d.EveryList p) := decEveryList d

end Decision

end EveryList

/-- In every list that merges item by item the names are pairwise distinct. -/
def DistinctNames (d : Document) : Prop :=
  d.EveryList fun items => isNamedList items = true → (items.map itemName?).Nodup

/-- In every list the items that have a name have pairwise distinct ones. -/
def DistinctItemNames (d : Document) : Prop :=
  d.EveryList fun items => (items.filterMap itemName?).Nodup

instance (d : Document) : Decidable d.DistinctNames := inferInstanceAs (Decidable (EveryList _ d))

instance (d : Document) : Decidable d.DistinctItemNames :=
  inferInstanceAs (Decidable (EveryList _ d))

theorem isNamedList_iff {items : List Document} :
    isNamedList items = true ↔ items ≠ [] ∧ ∀ d ∈ items, ∃ name, d.itemName? = some name := by
  simp [isNamedList, Option.isSome_iff_exists]

theorem isNamedList_congr {xs ys : List Document} (h : xs.map itemName? = ys.map itemName?) :
    isNamedList xs = isNamedList ys := by
  have hn : ∀ zs : List Document,
      isNamedList zs = (!(zs.map itemName?).isEmpty && (zs.map itemName?).all (·.isSome)) := by
    intro zs
    simp [isNamedList, List.all_map, Function.comp_def]
  rw [hn xs, hn ys, h]

/-- Distinct names of all named items are distinct names in named lists. -/
theorem DistinctItemNames.distinctNames {d : Document} (h : d.DistinctItemNames) :
    d.DistinctNames := by
  refine EveryList.mono (fun items hi hnamed => ?_) h
  have hsome : items.map itemName? = (items.filterMap itemName?).map some := by
    obtain ⟨-, hall⟩ := isNamedList_iff.mp hnamed
    clear hnamed hi
    induction items with
    | nil => rfl
    | cons d rest ih =>
      obtain ⟨name, hname⟩ := hall d List.mem_cons_self
      have hrest := ih fun e he => hall e (List.mem_cons_of_mem _ he)
      simp [hname, hrest]
  rw [hsome]
  exact List.pairwise_map.mpr (List.Pairwise.imp (fun hab heq => hab (Option.some.inj heq)) hi)

end DeployDrift.Document
