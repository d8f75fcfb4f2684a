import DeployDrift.Number
import DeployDrift.Table

/-!
# Documents

The schema-free values that resources, manifests and plugin blocks are made of.  A mapping is a
table sorted by field name.  Equality of documents in the sense of the comparison engine does not
tell the two zeros apart: it is equality after `Document.withoutZeroSign`.
-/
namespace DeployDrift

/-- A schema-free value. -/
inductive Document where
  | null
  | bool (b : Bool)
  | number (n : Number)
  | text (s : String)
  | list (items : List Document)
  | mapping (fields : List (String × Document))
  deriving Repr, Inhabited

/-- The fields of a mapping. -/
abbrev Fields := Table String Document

namespace Document

def empty : Document := .mapping []

def typeName : Document → String
  | .null => "null"
  | .bool _ => "bool"
  | .number _ => "number"
  | .text _ => "string"
  | .list _ => "sequence"
  | .mapping _ => "mapping"

def text? : Document → Option String
  | .text s => some s
  | _ => none

def bool? : Document → Option Bool
  | .bool b => some b
  | _ => none

def list? : Document → Option (List Document)
  | .list items => some items
  | _ => none

def fields? : Document → Option Fields
  | .mapping fields => some fields
  | _ => none

def fieldsOrEmpty : Document → Fields
  | .mapping fields => fields
  | _ => []

def get? (d : Document) (field : String) : Option Document :=
  match d with
  | .mapping fields => Table.get? fields field
  | _ => none

def textField? (d : Document) (field : String) : Option String := (d.get? field).bind text?

/-- A mapping of the given entries; of several with equal names the last one counts. -/
def ofFields (entries : List (String × Document)) : Document := .mapping (Table.ofList entries)

mutual
/-- The document with the sign of every zero dropped. -/
def withoutZeroSign : Document → Document
  | .number n => .number n.withoutZeroSign
  | .list items => .list (itemsWithoutZeroSign items)
  | .mapping fields => .mapping (fieldsWithoutZeroSign fields)
  | d => d

def itemsWithoutZeroSign : List Document → List Document
  | [] => []
  | d :: rest => d.withoutZeroSign :: itemsWithoutZeroSign rest

def fieldsWithoutZeroSign : List (String × Document) → List (String × Document)
  | [] => []
  | (k, d) :: rest => (k, d.withoutZeroSign) :: fieldsWithoutZeroSign rest
end

mutual
def decEq : (a b : Document) → Decidable (a = b)
  | .null, b => by cases b <;> first | exact isTrue rfl | exact isFalse nofun
  | .bool x, b => by
    cases b with
    | bool y => exact decidable_of_iff (x = y) (by simp)
    | _ => exact isFalse nofun
  | .number x, b => by
    cases b with
    | number y => exact decidable_of_iff (x = y) (by simp)
    | _ => exact isFalse nofun
  | .text x, b => by
    cases b with
    | text y => exact decidable_of_iff (x = y) (by simp)
    | _ => exact isFalse nofun
  | .list xs, b => match b with
    | .list ys => @decidable_of_iff _ (xs = ys) (by simp) (decEqItems xs ys)
    | .null | .bool _ | .number _ | .text _ | .mapping _ => isFalse nofun
  | .mapping xs, b => match b with
    | .mapping ys => @decidable_of_iff _ (xs = ys) (by simp) (decEqFields xs ys)
    | .null | .bool _ | .number _ | .text _ | .list _ => isFalse nofun

def decEqItems : (xs ys : List Document) → Decidable (xs = ys)
  | [], [] => isTrue rfl
  | [], _ :: _ => isFalse nofun
  | _ :: _, [] => isFalse nofun
  | x :: xs, y :: ys =>
    match decEq x y, decEqItems xs ys with
    | isTrue hx, isTrue hxs => isTrue (by rw [hx, hxs])
    | isFalse hx, _ => isFalse fun h => hx (List.cons.inj h).1
    | _, isFalse hxs => isFalse fun h => hxs (List.cons.inj h).2

def decEqFields : (xs ys : List (String × Document)) → Decidable (xs = ys)
  | [], [] => isTrue rfl
  | [], _ :: _ => isFalse nofun
  | _ :: _, [] => isFalse nofun
  | (k, x) :: xs, (l, y) :: ys =>
    match decEq x y, decEqFields xs ys with
    | isTrue hx, isTrue hxs =>
      if hk : k = l then isTrue (by rw [hk, hx, hxs])
      else isFalse fun h => hk (Prod.mk.inj (List.cons.inj h).1).1
    | isFalse hx, _ => isFalse fun h => hx (Prod.mk.inj (List.cons.inj h).1).2
    | _, isFalse hxs => isFalse fun h => hxs (List.cons.inj h).2
end

instance : DecidableEq Document := decEq

/-- The two documents are equal up to the signs of zeros. -/
def same (a b : Document) : Bool := a.withoutZeroSign = b.withoutZeroSign

mutual
/-- Every mapping in the document lists its fields in strictly ascending order. -/
def WellFormed : Document → Prop
  | .list items => ItemsWellFormed items
  | .mapping fields => Table.Sorted fields ∧ FieldsWellFormed fields
  | _ => True

def ItemsWellFormed : List Document → Prop
  | [] => True
  | d :: rest => d.WellFormed ∧ ItemsWellFormed rest

def FieldsWellFormed : List (String × Document) → Prop
  | [] => True
  | (_, d) :: rest => d.WellFormed ∧ FieldsWellFormed rest
end

mutual
/-- The document with every mapping's fields sorted; of several with equal names the last one
counts. -/
def canonical : Document → Document
  | .list items => .list (canonicalItems items)
  | .mapping fields => .mapping (Table.ofList (canonicalFields fields))
  | d => d

def canonicalItems : List Document → List Document
  | [] => []
  | d :: rest => d.canonical :: canonicalItems rest

def canonicalFields : List (String × Document) → List (String × Document)
  | [] => []
  | (k, d) :: rest => (k, d.canonical) :: canonicalFields rest
end

end Document
end DeployDrift

/-!
## Well-formed documents

A document is well formed when every mapping in it lists its fields in strictly ascending order.
Sorting a document makes it well formed, and the operations on fields keep it so.
-/
namespace DeployDrift.Document

mutual
def decWellFormed : (d : Document) → Decidable d.WellFormed
  | .list items => decItemsWellFormed items
  | .mapping fields =>
    @instDecidableAnd _ _ (inferInstanceAs (Decidable (List.Pairwise _ fields)))
      (decFieldsWellFormed fields)
  | .null | .bool _ | .number _ | .text _ => isTrue trivial

def decItemsWellFormed : (items : List Document) → Decidable (ItemsWellFormed items)
  | [] => isTrue trivial
  | d :: rest => @instDecidableAnd _ _ (decWellFormed d) (decItemsWellFormed rest)

def decFieldsWellFormed : (fields : List (String × Document)) → Decidable (FieldsWellFormed fields)
  | [] => isTrue trivial
  | (_, d) :: rest => @instDecidableAnd _ _ (decWellFormed d) (decFieldsWellFormed rest)
end

instance (d : Document) : Decidable d.WellFormed := decWellFormed d

theorem itemsWellFormed_iff {items : List Document} :
    ItemsWellFormed items ↔ ∀ d ∈ items, d.WellFormed := by
  induction items with
  | nil => simp [ItemsWellFormed]
  | cons d rest ih => simp [ItemsWellFormed, ih]

theorem fieldsWellFormed_iff {fields : List (String × Document)} :
    FieldsWellFormed fields ↔ ∀ e ∈ fields, e.2.WellFormed := by
  induction fields with
  | nil => simp [FieldsWellFormed]
  | cons e rest ih => obtain ⟨k, d⟩ := e; simp [FieldsWellFormed, ih]

theorem wellFormed_list {items : List Document} :
    (list items).WellFormed ↔ ∀ d ∈ items, d.WellFormed := by
  rw [WellFormed, itemsWellFormed_iff]

theorem wellFormed_mapping {fields : Fields} :
    (mapping fields).WellFormed ↔ Table.Sorted fields ∧ ∀ e ∈ fields, e.2.WellFormed := by
  rw [WellFormed, fieldsWellFormed_iff]

theorem wellFormed_empty : empty.WellFormed := wellFormed_mapping.mpr (by simp)

@[simp] theorem wellFormed_text (s : String) : (text s).WellFormed := by simp [WellFormed]

theorem wellFormed_ofFields {entries : List (String × Document)}
    (h : ∀ e ∈ entries, e.2.WellFormed) : (ofFields entries).WellFormed :=
  wellFormed_mapping.mpr ⟨Table.sorted_ofList entries, fun e he => h e (Table.mem_ofList he)⟩

theorem wellFormed_insert {fields : Fields} (h : (mapping fields).WellFormed) (field : String)
    {value : Document} (hv : value.WellFormed) :
    (mapping (Table.insert fields field value)).WellFormed := by
  obtain ⟨hs, hf⟩ := wellFormed_mapping.mp h
  refine wellFormed_mapping.mpr ⟨Table.sorted_insert hs field value, fun e he => ?_⟩
  rcases Table.mem_insert he with he | he
  · exact he ▸ hv
  · exact hf e he

theorem wellFormed_erase {fields : Fields} (h : (mapping fields).WellFormed) (field : String) :
    (mapping (Table.erase fields field)).WellFormed := by
  obtain ⟨hs, hf⟩ := wellFormed_mapping.mp h
  exact wellFormed_mapping.mpr
    ⟨Table.sorted_erase hs field, fun e he => hf e (Table.mem_of_mem_erase he)⟩

theorem wellFormed_modify {fields : Fields} (h : (mapping fields).WellFormed) (field : String)
    {f : Document → Document} (hf : ∀ d, d.WellFormed → (f d).WellFormed) :
    (mapping (Table.modify fields field f)).WellFormed := by
  obtain ⟨hs, hw⟩ := wellFormed_mapping.mp h
  refine wellFormed_mapping.mpr ⟨Table.sorted_modify hs field f, fun e he => ?_⟩
  obtain ⟨v, hv, h | h⟩ := Table.mem_modify he
  · exact h ▸ hw _ hv
  · exact h ▸ hf _ (hw _ hv)

theorem WellFormed.get? {fields : Fields} (h : (mapping fields).WellFormed) {field : String}
    {value : Document} (hv : Table.get? fields field = some value) : value.WellFormed :=
  (wellFormed_mapping.mp h).2 _ (Table.mem_of_get? hv)

mutual
theorem canonical_wellFormed : (d : Document) → d.canonical.WellFormed
  | .null => by simp [canonical, WellFormed]
  | .bool _ => by simp [canonical, WellFormed]
  | .number _ => by simp [canonical, WellFormed]
  | .text _ => by simp [canonical]
  | .list items => by
    rw [canonical, wellFormed_list]
    exact canonicalItems_wellFormed items
  | .mapping fields => by
    rw [canonical, ← ofFields]
    exact wellFormed_ofFields (canonicalFields_wellFormed fields)

theorem canonicalItems_wellFormed : (items : List Document) →
    ∀ d ∈ canonicalItems items, d.WellFormed
  | [] => by simp [canonicalItems]
  | d :: rest => by
    intro e he
    simp only [canonicalItems, List.mem_cons] at he
    rcases he with rfl | he
    · exact canonical_wellFormed d
    · exact canonicalItems_wellFormed rest e he

theorem canonicalFields_wellFormed : (fields : List (String × Document)) →
    ∀ e ∈ canonicalFields fields, e.2.WellFormed
  | [] => by simp [canonicalFields]
  | (k, d) :: rest => by
    intro e he
    simp only [canonicalFields, List.mem_cons] at he
    rcases he with rfl | he
    · exact canonical_wellFormed d
    · exact canonicalFields_wellFormed rest e he
end

end DeployDrift.Document
