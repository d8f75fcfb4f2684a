import DeployDrift.Proofs.Pointer.Removal
import DeployDrift.Proofs.Pointer.Spelling

/-!
# Positions in a document

A position is the list of fields and list indexes on the way from the root.  A pointer leads to one
position at most, and several positions can be taken out of a document all at once: what is left of
a list keeps its order, and a position is counted in the list as it was before.
-/
namespace DeployDrift.Document

/-- A part directly inside a document. -/
inductive Slot where
  /-- The value of a field. -/
  | member (field : String)
  /-- The item of a list at an index. -/
  | element (index : Nat)
  deriving DecidableEq, Repr

/-- What stands in a slot. -/
def inSlot? (d : Document) : Slot → Option Document
  | .member field => d.get? field
  | .element i =>
    match d with
    | .list items => items[i]?
    | _ => none

/-- What stands at a position. -/
def part? (d : Document) : List Slot → Option Document
  | [] => some d
  | slot :: below => (d.inSlot? slot).bind fun c => c.part? below

/-- The slot that a token names. -/
def slot? (d : Document) (token : String) : Option Slot :=
  match d with
  | .mapping _ => some (.member token)
  | .list _ => (Pointer.index? token).map .element
  | _ => none

/-- The position that tokens lead to. -/
def position? (d : Document) : List String → Option (List Slot)
  | [] => some []
  | token :: rest =>
    (d.child? token).bind fun c =>
      (d.slot? token).bind fun slot => (c.position? rest).map (slot :: ·)

/-- The position that a pointer leads to. -/
def locate? (d : Document) (pointer : String) : Option (List Slot) :=
  (Pointer.tokens? pointer.toList).bind d.position?

mutual
/-- The document without the members and elements at the positions that are gone. -/
def without (gone : List Slot → Bool) : Document → Document
  | .list items => .list (elementsWithout gone 0 items)
  | .mapping fields => .mapping (membersWithout gone fields)
  | d => d

/-- The members of a mapping that stay, less what is gone inside them. -/
def membersWithout (gone : List Slot → Bool) : List (String × Document) → List (String × Document)
  | [] => []
  | (field, d) :: rest =>
    if gone [.member field] then membersWithout gone rest
    else (field, d.without fun below => gone (.member field :: below)) :: membersWithout gone rest

/-- The elements of a list from an index on that stay, less what is gone inside them. -/
def elementsWithout (gone : List Slot → Bool) (index : Nat) : List Document → List Document
  | [] => []
  | d :: rest =>
    if gone [.element index] then elementsWithout gone (index + 1) rest
    else d.without (fun below => gone (.element index :: below)) ::
      elementsWithout gone (index + 1) rest
end

section Lookup

variable {d : Document} {tokens tokens' : List String} {position : List Slot}

/-- A token leads to what stands in the slot that it names. -/
theorem child?_eq_inSlot? (d : Document) (token : String) :
    d.child? token = (d.slot? token).bind d.inSlot? := by
  cases d with
  | list items =>
    rw [child?, slot?]
    cases Pointer.index? token <;> rfl
  | _ => rfl

/-- A look-up finds what stands at the position. -/
theorem at?_eq_part? (d : Document) (tokens : List String) :
    d.at? tokens = (d.position? tokens).bind d.part? := by
  induction tokens generalizing d with
  | nil => rfl
  | cons token rest ih =>
    rw [at?, position?]
    cases hc : d.child? token with
    | none => rfl
    | some c =>
      rw [child?_eq_inSlot?] at hc
      obtain ⟨slot, hslot, hin⟩ := Option.bind_eq_some_iff.mp hc
      rw [hslot, Option.bind_some, Option.bind_some, Option.bind_some, ih]
      cases c.position? rest with
      | none => rfl
      | some below =>
        rw [Option.map_some, Option.bind_some, Option.bind_some, part?, hin]
        rfl

theorem find?_eq_part? (d : Document) (pointer : String) :
    d.find? pointer = (d.locate? pointer).bind d.part? := by
  rw [find?, locate?]
  cases Pointer.tokens? pointer.toList with
  | none => rfl
  | some tokens => exact at?_eq_part? d tokens

/-- Behind the first token the position goes on from what it leads to. -/
theorem position?_cons_eq_some {token : String} {rest : List String} :
    d.position? (token :: rest) = some position ↔
      ∃ slot c below, d.slot? token = some slot ∧ d.inSlot? slot = some c ∧
        c.position? rest = some below ∧ position = slot :: below := by
  rw [position?, child?_eq_inSlot?]
  constructor
  · intro h
    obtain ⟨c, hc, h⟩ := Option.bind_eq_some_iff.mp h
    obtain ⟨slot, hslot, h⟩ := Option.bind_eq_some_iff.mp h
    obtain ⟨below, hbelow, rfl⟩ := Option.map_eq_some_iff.mp h
    rw [hslot] at hc
    exact ⟨slot, c, below, hslot, hc, hbelow, rfl⟩
  · rintro ⟨slot, c, below, hslot, hc, hbelow, rfl⟩
    rw [hslot, Option.bind_some, hc, Option.bind_some, Option.bind_some, hbelow, Option.map_some]

theorem length_of_position? (h : d.position? tokens = some position) :
    position.length = tokens.length := by
  induction tokens generalizing d position with
  | nil =>
    cases h
    rfl
  | cons token rest ih =>
    obtain ⟨slot, c, below, -, -, hbelow, rfl⟩ := position?_cons_eq_some.mp h
    rw [List.length_cons, List.length_cons, ih hbelow]

/-- Behind some tokens the position goes on from what they lead to. -/
theorem position?_append (d : Document) (tokens tokens' : List String) :
    d.position? (tokens ++ tokens') =
      (d.position? tokens).bind fun above =>
        (d.part? above).bind fun c => (c.position? tokens').map (above ++ ·) := by
  induction tokens generalizing d with
  | nil => simp [position?, part?]
  | cons token rest ih =>
    rw [List.cons_append, position?, position?]
    cases hc : d.child? token with
    | none => rfl
    | some c =>
      rw [child?_eq_inSlot?] at hc
      obtain ⟨slot, hslot, hin⟩ := Option.bind_eq_some_iff.mp hc
      rw [hslot, Option.bind_some, Option.bind_some, Option.bind_some, Option.bind_some, ih]
      cases c.position? rest with
      | none => rfl
      | some below =>
        rw [Option.map_some, Option.bind_some, Option.bind_some, part?, hin, Option.bind_some]
        cases c.part? below with
        | none => rfl
        | some inner => exact Option.map_map _ _ _

theorem isSome_part? (h : d.position? tokens = some position) :
    (d.part? position).isSome = true := by
  induction tokens generalizing d position with
  | nil =>
    cases h
    rfl
  | cons token rest ih =>
    obtain ⟨slot, c, below, -, hc, hbelow, rfl⟩ := position?_cons_eq_some.mp h
    rw [part?, hc]
    exact ih hbelow

/-- A pointer resolves exactly if it has a position. -/
theorem isSome_locate? (d : Document) (pointer : String) :
    (d.locate? pointer).isSome = (d.find? pointer).isSome := by
  rw [find?_eq_part?]
  cases h : d.locate? pointer with
  | none => rfl
  | some position =>
    obtain ⟨tokens, -, hposition⟩ := Option.bind_eq_some_iff.mp h
    exact (isSome_part? hposition).symm

/-- A slot has one spelling. -/
theorem slot?_injective {token token' : String} {slot : Slot} (h : d.slot? token = some slot)
    (h' : d.slot? token' = some slot) : token = token' := by
  cases d with
  | mapping fields =>
    cases h
    cases h'
    rfl
  | list items =>
    obtain ⟨i, hi, rfl⟩ := Option.map_eq_some_iff.mp h
    obtain ⟨j, hj, heq⟩ := Option.map_eq_some_iff.mp h'
    cases heq
    exact Pointer.index?_injective hi hj
  | _ => cases h

/-- So has a position. -/
theorem position?_injective (h : d.position? tokens = some position)
    (h' : d.position? tokens' = some position) : tokens = tokens' := by
  induction tokens generalizing d tokens' position with
  | nil =>
    have hlength := length_of_position? h'
    cases h
    exact (List.length_eq_zero_iff.mp hlength.symm).symm
  | cons token rest ih =>
    obtain ⟨slot, c, below, hslot, hc, hbelow, rfl⟩ := position?_cons_eq_some.mp h
    cases tokens' with
    | nil => cases h'
    | cons token' rest' =>
      obtain ⟨slot', c', below', hslot', hc', hbelow', heq⟩ := position?_cons_eq_some.mp h'
      cases heq
      cases hc.symm.trans hc'
      rw [slot?_injective hslot hslot', ih hbelow hbelow']

end Lookup

section Without

variable {gone gone' : List Slot → Bool}

theorem without_scalar {d : Document} (h : d.IsScalar) (gone : List Slot → Bool) :
    d.without gone = d := by
  cases d with
  | list _ => exact h.elim
  | mapping _ => exact h.elim
  | _ => rfl

/-- A member is gone, or is left without what is gone below it. -/
theorem get?_membersWithout (gone : List Slot → Bool) (fields : Fields) (field : String) :
    Table.get? (membersWithout gone fields) field =
      if gone [.member field] then none
      else (Table.get? fields field).map (without fun below => gone (.member field :: below)) := by
  induction fields with
  | nil => simp [membersWithout]
  | cons e rest ih =>
    obtain ⟨k, d⟩ := e
    rw [membersWithout, Table.get?_cons]
    by_cases hk : k = field
    · subst hk
      split
      next hgone => rw [ih, if_pos hgone]
      next => rw [Table.get?_cons, if_pos rfl, if_pos rfl, Option.map_some]
    · rw [if_neg hk]
      split
      next => exact ih
      next => rw [Table.get?_cons, if_neg hk, ih]

/-- What is left under a field. -/
theorem get?_without (gone : List Slot → Bool) (d : Document) (field : String) :
    (d.without gone).get? field =
      if gone [.member field] then none
      else (d.get? field).map (without fun below => gone (.member field :: below)) := by
  cases d with
  | mapping fields => exact get?_membersWithout gone fields field
  | _ => simp [without, get?]

theorem keys_membersWithout (gone : List Slot → Bool) (fields : Fields) :
    ((membersWithout gone fields).map (·.1)).Sublist (fields.map (·.1)) := by
  induction fields with
  | nil => exact .slnil
  | cons e rest ih =>
    rw [membersWithout]
    split
    · exact ih.cons e.1
    · exact ih.cons_cons e.1

theorem sorted_membersWithout {fields : Fields} (h : Table.Sorted fields) :
    Table.Sorted (membersWithout gone fields) :=
  List.pairwise_map.mp ((List.pairwise_map.mpr h).sublist (keys_membersWithout gone fields))

theorem length_elementsWithout_le (gone : List Slot → Bool) (index : Nat) (items : List Document) :
    (elementsWithout gone index items).length ≤ items.length := by
  induction items generalizing index with
  | nil => exact Nat.le_refl 0
  | cons d rest ih =>
    have hrest := ih (index + 1)
    rw [elementsWithout]
    split
    · simp only [List.length_cons]
      omega
    · simp only [List.length_cons]
      omega

/-- The elements from an index on depend on what is gone from there on. -/
theorem elementsWithout_congr {index : Nat}
    (h : ∀ i, index ≤ i → ∀ below, gone (.element i :: below) = gone' (.element i :: below))
    (items : List Document) :
    elementsWithout gone index items = elementsWithout gone' index items := by
  induction items generalizing index with
  | nil => rfl
  | cons d rest ih =>
    have hhead := h index (Nat.le_refl index)
    rw [elementsWithout, elementsWithout, hhead [], funext hhead,
      ih fun i hi => h i (by omega)]

/-- If no element is gone as a whole, each is still in its place. -/
theorem getElem?_elementsWithout (h : ∀ i, gone [.element i] = false) (index : Nat)
    (items : List Document) (i : Nat) :
    (elementsWithout gone index items)[i]? =
      items[i]?.map (without fun below => gone (.element (index + i) :: below)) := by
  induction items generalizing index i with
  | nil => rfl
  | cons d rest ih =>
    rw [elementsWithout, h, if_neg Bool.false_ne_true]
    cases i with
    | zero => rfl
    | succ i => rw [List.getElem?_cons_succ, List.getElem?_cons_succ, ih, Nat.add_right_comm]; rfl

/-- An element is taken out of its own place if no element up to it is gone. -/
theorem eraseIdx_elementsWithout {index i : Nat} (items : List Document)
    (h : ∀ j, gone [.element j] = true → index + i < j) :
    (elementsWithout gone index items).eraseIdx i =
      elementsWithout (fun position => gone position || position == [.element (index + i)]) index
        items := by
  induction items generalizing index i with
  | nil => rfl
  | cons d rest ih =>
    have hstays : gone [.element index] = false := by
      cases hgone : gone [.element index] with
      | false => rfl
      | true =>
        have hlater := h index hgone
        omega
    rw [elementsWithout, hstays, if_neg Bool.false_ne_true, elementsWithout, hstays]
    cases i with
    | zero =>
      rw [List.eraseIdx_cons_zero, if_pos (by simp)]
      apply elementsWithout_congr
      intro i hi below
      have hne : i ≠ index := by omega
      simp [hne]
    | succ i =>
      have hrest : (elementsWithout gone (index + 1) rest).eraseIdx i =
          elementsWithout (fun position => gone position ||
            position == [.element (index + 1 + i)]) (index + 1) rest :=
        ih fun j hj => by
          have hlater := h j hj
          omega
      rw [List.eraseIdx_cons_succ, hrest, if_neg (by simp)]
      have hsame : index + 1 + i = index + (i + 1) := by omega
      have hother : (Slot.element index == Slot.element (index + (i + 1))) = false :=
        beq_false_of_ne (by simp)
      simp [hsame, hother]

/-- Taking parts away keeps the order of fields. -/
theorem WellFormed.without {d : Document} (h : d.WellFormed) (gone : List Slot → Bool) :
    (d.without gone).WellFormed := by
  induction d using inductionOn generalizing gone with
  | scalar d hs => rwa [without_scalar hs]
  | list items ih =>
    have hitems := wellFormed_list.mp h
    rw [Document.without, wellFormed_list]
    suffices ∀ index, ∀ d ∈ elementsWithout gone index items, d.WellFormed from this 0
    clear h
    induction items with
    | nil => simp [elementsWithout]
    | cons d rest ihrest =>
      obtain ⟨hhead, hrest⟩ := List.forall_mem_cons.mp ih
      obtain ⟨hwhead, hwrest⟩ := List.forall_mem_cons.mp hitems
      intro index
      rw [elementsWithout]
      split
      · exact ihrest hrest hwrest (index + 1)
      · exact List.forall_mem_cons.mpr ⟨hhead hwhead _, ihrest hrest hwrest (index + 1)⟩
  | mapping fields ih =>
    obtain ⟨hs, hfields⟩ := wellFormed_mapping.mp h
    rw [Document.without, wellFormed_mapping]
    refine ⟨sorted_membersWithout hs, ?_⟩
    clear h hs
    induction fields with
    | nil => simp [membersWithout]
    | cons e rest ihrest =>
      obtain ⟨hhead, hrest⟩ := List.forall_mem_cons.mp ih
      obtain ⟨hwhead, hwrest⟩ := List.forall_mem_cons.mp hfields
      rw [membersWithout]
      split
      · exact ihrest hrest hwrest
      · exact List.forall_mem_cons.mpr ⟨hhead hwhead _, ihrest hrest hwrest⟩

/-- Where nothing is gone, everything stays. -/
theorem without_none (d : Document) : d.without (fun _ => false) = d := by
  induction d using inductionOn with
  | scalar d hs =>
    cases d with
    | list _ => exact hs.elim
    | mapping _ => exact hs.elim
    | _ => rfl
  | list items ih =>
    rw [without]
    congr 1
    apply List.ext_getElem?
    intro i
    rw [getElem?_elementsWithout (fun _ => rfl)]
    cases hitem : items[i]? with
    | none => rfl
    | some d => exact congrArg some (ih d (List.mem_of_getElem? hitem))
  | mapping fields ih =>
    rw [without]
    congr 1
    induction fields with
    | nil => rfl
    | cons e rest ihrest =>
      obtain ⟨hhead, hrest⟩ := List.forall_mem_cons.mp ih
      rw [membersWithout, if_neg Bool.false_ne_true, ihrest hrest, hhead]

end Without

end DeployDrift.Document
