import DeployDrift.Proofs.Merge.Survival
import DeployDrift.Proofs.Pointer.Removal

/-!
# Pointers through fields alone

A pointer none of whose tokens reads as a position leads through mappings and nowhere else.  What it
removes is gone for good, whatever is removed afterwards; and whether it is removed before another
pointer as well as after it makes no difference, even if the other one moves the items of lists.
-/
namespace DeployDrift.Document

section Paths

variable {tokens : List String} {last : List Char} {d : Document}

theorem get?_removeAt_last (hw : d.WellFormed) (last : List Char) (field : String) :
    (removeAt [] last d).get? field =
      if field = String.ofList last then none else d.get? field := by
  cases d with
  | mapping fields => exact get?_removeAt_nil last (wellFormed_mapping.mp hw).1 field
  | list items =>
    obtain ⟨items', h⟩ := exists_removeAt_list last [] items
    simp [h, get?]
  | _ => simp [removeAt_nil, removeChild?, get?]

theorem get?_removeAt_below (d : Document) (token : String) (rest : List String)
    (last : List Char) (field : String) :
    (removeAt (token :: rest) last d).get? field =
      if field = token then (d.get? field).map (removeAt rest last) else d.get? field := by
  cases d with
  | mapping fields => exact get?_removeAt_cons last token rest fields field
  | list items =>
    obtain ⟨items', h⟩ := exists_removeAt_list last (token :: rest) items
    simp [h, get?]
  | _ => simp [removeAt_cons, child?, get?]

/-- What a removal leaves under a field depends on what stood there. -/
theorem get?_removeAt_congr {a b : Document} (ha : a.WellFormed) (hb : b.WellFormed)
    {field : String} (h : a.get? field = b.get? field) (tokens : List String) (last : List Char) :
    (removeAt tokens last a).get? field = (removeAt tokens last b).get? field := by
  cases tokens with
  | nil => rw [get?_removeAt_last ha, get?_removeAt_last hb, h]
  | cons token rest => rw [get?_removeAt_below, get?_removeAt_below, h]

/-- What stands at a path after a removal stood there before, less what was removed inside it. -/
theorem fieldAt?_of_removeAt (hw : d.WellFormed) {path : List String} {value : Document}
    (h : (removeAt tokens last d).fieldAt? path = some value) :
    ∃ original, d.fieldAt? path = some original ∧ value.text? = original.text? := by
  induction path generalizing tokens d with
  | nil =>
    cases h
    exact ⟨d, rfl, text?_removeAt tokens last d⟩
  | cons field below ih =>
    rw [fieldAt?_cons] at h
    obtain ⟨c, hc, hbelow⟩ := Option.bind_eq_some_iff.mp h
    cases tokens with
    | nil =>
      rw [get?_removeAt_last hw] at hc
      split at hc
      · cases hc
      · exact ⟨value, by rw [fieldAt?_cons, hc]; exact hbelow, rfl⟩
    | cons token rest =>
      rw [get?_removeAt_below] at hc
      split at hc
      · obtain ⟨child, hchild, rfl⟩ := Option.map_eq_some_iff.mp hc
        have hwc : child.WellFormed := by
          obtain ⟨fields, rfl⟩ := exists_mapping_of_get? hchild
          exact hw.get? hchild
        obtain ⟨original, horiginal, htext⟩ := ih hwc hbelow
        exact ⟨original, by rw [fieldAt?_cons, hchild]; exact horiginal, htext⟩
      · exact ⟨value, by rw [fieldAt?_cons, hc]; exact hbelow, rfl⟩

/-- What is removed is gone. -/
theorem fieldAt?_removeAt_self (hw : d.WellFormed) (tokens : List String) (last : List Char) :
    (removeAt tokens last d).fieldAt? (tokens ++ [String.ofList last]) = none := by
  induction tokens generalizing d with
  | nil => rw [List.nil_append, fieldAt?_cons, get?_removeAt_last hw, if_pos rfl, Option.bind_none]
  | cons token rest ih =>
    rw [List.cons_append, fieldAt?_cons, get?_removeAt_below, if_pos rfl]
    cases hc : d.get? token with
    | none => rfl
    | some c =>
      obtain ⟨fields, rfl⟩ := exists_mapping_of_get? hc
      exact ih (hw.get? hc)

end Paths

section Fields

theorem child?_eq_get? {token : String} (h : Pointer.isPosition token = false) (d : Document) :
    d.child? token = d.get? token := by
  cases d with
  | list items => rw [child?, Pointer.index?_eq_none h]; rfl
  | _ => rfl

theorem at?_eq_fieldAt? {tokens : List String}
    (h : ∀ token ∈ tokens, Pointer.isPosition token = false) (d : Document) :
    d.at? tokens = d.fieldAt? tokens := by
  induction tokens generalizing d with
  | nil => rfl
  | cons token rest ih =>
    obtain ⟨htoken, hrest⟩ := List.forall_mem_cons.mp h
    rw [at?, child?_eq_get? htoken, fieldAt?_cons]
    cases d.get? token with
    | none => rfl
    | some c => exact ih hrest c

variable {tokens : List String} {last : List Char}

/-- Where the fields lead nowhere, nothing is removed. -/
theorem removeAt_eq_self (h : ∀ t ∈ tokens ++ [String.ofList last], Pointer.isPosition t = false)
    {d : Document} (hnone : d.fieldAt? (tokens ++ [String.ofList last]) = none) :
    removeAt tokens last d = d := by
  induction tokens generalizing d with
  | nil =>
    have hlast := h _ List.mem_cons_self
    rw [List.nil_append, fieldAt?_cons] at hnone
    cases d with
    | mapping fields =>
      have habsent : Table.get? fields (String.ofList last) = none := by
        cases hc : Table.get? fields (String.ofList last) with
        | none => rfl
        | some c =>
          rw [get?, hc] at hnone
          cases hnone
      simp [removeAt_nil, removeChild?, Table.contains, habsent]
    | list items => simp [removeAt_nil, removeChild?, Pointer.looseIndex?_eq_none hlast]
    | _ => rfl
  | cons token rest ih =>
    obtain ⟨htoken, hrest⟩ := List.forall_mem_cons.mp h
    rw [List.cons_append, fieldAt?_cons] at hnone
    rw [removeAt_cons, child?_eq_get? htoken]
    cases hc : d.get? token with
    | none => rfl
    | some c =>
      rw [hc] at hnone
      have hsame : removeAt rest last c = c := ih hrest hnone
      change d.replaceChild token (removeAt rest last c) = d
      rw [hsame]
      exact replaceChild_child? ((child?_eq_get? htoken d).trans hc)

theorem removeAt_of_no_mapping
    (h : ∀ t ∈ tokens ++ [String.ofList last], Pointer.isPosition t = false) {d : Document}
    (hd : d.fields? = none) : removeAt tokens last d = d := by
  apply removeAt_eq_self h
  have hget : ∀ field, d.get? field = none := by
    intro field
    cases d with
    | mapping fields => cases hd
    | _ => rfl
  cases tokens with
  | nil => rw [List.nil_append, fieldAt?_cons, hget, Option.bind_none]
  | cons token rest => rw [List.cons_append, fieldAt?_cons, hget, Option.bind_none]

theorem removeAt_idem (h : ∀ t ∈ tokens ++ [String.ofList last], Pointer.isPosition t = false)
    {d : Document} (hw : d.WellFormed) :
    removeAt tokens last (removeAt tokens last d) = removeAt tokens last d :=
  removeAt_eq_self h (fieldAt?_removeAt_self hw tokens last)

/-- For a mapping the order of two removals is decided field by field; nothing else is changed by
fields at all. -/
theorem removeAt_absorb_of_get?
    (h : ∀ t ∈ tokens ++ [String.ofList last], Pointer.isPosition t = false)
    {d : Document} (hw : d.WellFormed) {others : List String} {other : List Char}
    (hget : ∀ field,
      (removeAt tokens last (removeAt others other (removeAt tokens last d))).get? field =
        (removeAt tokens last (removeAt others other d)).get? field) :
    removeAt tokens last (removeAt others other (removeAt tokens last d)) =
      removeAt tokens last (removeAt others other d) := by
  cases hd : d.fields? with
  | none => rw [removeAt_of_no_mapping h hd]
  | some fields =>
    have hmapping : d = mapping fields := by
      cases d with
      | mapping _ => exact congrArg mapping (Option.some.inj hd)
      | _ => cases hd
    subst hmapping
    have hmapping : ∀ (d : Document) (tokens : List String) (last : List Char),
        (∃ fields, d = mapping fields) → ∃ fields, removeAt tokens last d = mapping fields := by
      rintro _ tokens last ⟨fields, rfl⟩
      exact exists_removeAt_mapping last tokens fields
    have hroot : ∃ inner, mapping fields = mapping inner := ⟨fields, rfl⟩
    apply eq_of_get? (((hw.removeAt last tokens).removeAt other others).removeAt last tokens)
      ((hw.removeAt other others).removeAt last tokens) _ _ hget
    · exact hmapping _ _ _ (hmapping _ _ _ (hmapping _ _ _ hroot))
    · exact hmapping _ _ _ (hmapping _ _ _ hroot)

/-- What is removed after another removal may be removed before it as well. -/
theorem removeAt_absorb (h : ∀ t ∈ tokens ++ [String.ofList last], Pointer.isPosition t = false)
    {d : Document} (hw : d.WellFormed) (others : List String) (other : List Char) :
    removeAt tokens last (removeAt others other (removeAt tokens last d)) =
      removeAt tokens last (removeAt others other d) := by
  induction tokens generalizing d others with
  | nil =>
    apply removeAt_absorb_of_get? h hw
    intro field
    have hw' := hw.removeAt last []
    rw [get?_removeAt_last (hw'.removeAt other others),
      get?_removeAt_last (hw.removeAt other others)]
    split
    next => rfl
    next hne =>
      apply get?_removeAt_congr hw' hw
      rw [get?_removeAt_last hw, if_neg hne]
  | cons token rest ih =>
    apply removeAt_absorb_of_get? h hw
    intro field
    have hw' := hw.removeAt last (token :: rest)
    have hrest := (List.forall_mem_cons.mp h).2
    rw [get?_removeAt_below, get?_removeAt_below _ token]
    by_cases htoken : field = token
    · rw [if_pos htoken, if_pos htoken]
      have honce : (removeAt (token :: rest) last d).get? field =
          (d.get? field).map (removeAt rest last) := by
        rw [get?_removeAt_below, if_pos htoken]
      have hchild : ∀ c, d.get? field = some c → c.WellFormed := by
        intro c hc
        obtain ⟨fields, rfl⟩ := exists_mapping_of_get? hc
        exact hw.get? hc
      -- below the field the other removal has either taken all away, or left it, or gone on inside
      cases others with
      | nil =>
        rw [get?_removeAt_last hw', get?_removeAt_last hw, honce]
        split
        · rfl
        · cases hc : d.get? field with
          | none => rfl
          | some c => exact congrArg some (removeAt_idem hrest (hchild c hc))
      | cons below others =>
        rw [get?_removeAt_below, get?_removeAt_below d below, honce]
        split
        · cases hc : d.get? field with
          | none => rfl
          | some c => exact congrArg some (ih hrest (hchild c hc) others)
        · cases hc : d.get? field with
          | none => rfl
          | some c => exact congrArg some (removeAt_idem hrest (hchild c hc))
    · rw [if_neg htoken, if_neg htoken]
      apply get?_removeAt_congr hw' hw
      rw [get?_removeAt_below, if_neg htoken]

/-- What is said of every list holds after a removal of fields, which touches no list. -/
theorem EveryList.removeAt
    (h : ∀ t ∈ tokens ++ [String.ofList last], Pointer.isPosition t = false)
    {q : List Document → Prop} {d : Document} (hq : d.EveryList q) :
    (removeAt tokens last d).EveryList q := by
  induction tokens generalizing d with
  | nil =>
    cases d with
    | mapping fields =>
      rw [removeAt_nil, removeChild?]
      split
      · exact everyList_mapping.mpr fun e he =>
          everyList_mapping.mp hq e (Table.mem_of_mem_erase he)
      · exact hq
    | _ => rwa [removeAt_of_no_mapping h (by rfl)]
  | cons token rest ih =>
    cases d with
    | mapping fields =>
      rw [removeAt_cons, child?]
      cases hc : Table.get? fields token with
      | none => exact hq
      | some c =>
        have hchild := everyList_mapping.mp hq _ (Table.mem_of_get? hc)
        apply everyList_mapping.mpr
        intro e he
        obtain ⟨value, hvalue, heq | heq⟩ := Table.mem_modify he
        · rw [heq]
          exact everyList_mapping.mp hq _ hvalue
        · rw [heq]
          exact ih (List.forall_mem_cons.mp h).2 hchild
    | _ => rwa [removeAt_of_no_mapping h (by rfl)]

end Fields

section Pointers

variable {p : String} {d : Document}

theorem find?_eq_fieldAt? (hp : Pointer.FieldsOnly p) {tokens : List String}
    (ht : Pointer.tokens? p.toList = some tokens) (d : Document) :
    d.find? p = d.fieldAt? tokens := by
  rw [find?, ht]
  exact at?_eq_fieldAt? (hp tokens ht) d

theorem find?_remove_self (hp : Pointer.FieldsOnly p) (hne : p ≠ "") (hw : d.WellFormed) :
    (d.remove p).find? p = none := by
  rcases remove_cases p with ⟨tokens, last, ht, hremove⟩ | ⟨hnil, -⟩
  · rw [find?_eq_fieldAt? hp ht, hremove]
    exact fieldAt?_removeAt_self hw tokens last
  · rw [find?]
    cases ht : Pointer.tokens? p.toList with
    | none => rfl
    | some tokens =>
      rw [hnil tokens ht] at ht
      exact absurd ht (Pointer.tokens?_ne_nil hne)

/-- What stands at a path after a removal stood there before, less what was removed inside it. -/
theorem fieldAt?_of_remove (hw : d.WellFormed) {q : String} {path : List String} {value : Document}
    (h : (d.remove q).fieldAt? path = some value) :
    ∃ original, d.fieldAt? path = some original ∧ value.text? = original.text? := by
  rcases remove_cases q with ⟨tokens, last, -, hremove⟩ | ⟨-, hremove⟩
  · rw [hremove] at h
    exact fieldAt?_of_removeAt hw h
  · rw [hremove] at h
    exact ⟨value, h, rfl⟩

/-- A removal makes nothing appear where there was nothing. -/
theorem find?_remove_of_none (hp : Pointer.FieldsOnly p) (hw : d.WellFormed)
    (h : d.find? p = none) (q : String) : (d.remove q).find? p = none := by
  cases ht : Pointer.tokens? p.toList with
  | none => rw [find?, ht]; rfl
  | some tokens =>
    rw [find?_eq_fieldAt? hp ht] at h ⊢
    cases hvalue : (d.remove q).fieldAt? tokens with
    | none => rfl
    | some value =>
      obtain ⟨original, horiginal, -⟩ := fieldAt?_of_remove hw hvalue
      rw [h] at horiginal
      cases horiginal

theorem remove_eq_self (hp : Pointer.FieldsOnly p) (h : d.find? p = none) : d.remove p = d := by
  rcases remove_cases p with ⟨tokens, last, ht, hremove⟩ | ⟨-, hremove⟩
  · rw [find?_eq_fieldAt? hp ht] at h
    rw [hremove]
    exact removeAt_eq_self (hp _ ht) h
  · exact hremove d

theorem remove_idem (hp : Pointer.FieldsOnly p) (hw : d.WellFormed) :
    (d.remove p).remove p = d.remove p := by
  rcases remove_cases p with ⟨tokens, last, ht, hremove⟩ | ⟨-, hremove⟩
  · rw [hremove, hremove]
    exact removeAt_idem (hp _ ht) hw
  · rw [hremove]

/-- What is removed after another pointer may be removed before it as well. -/
theorem remove_absorb (hp : Pointer.FieldsOnly p) (hw : d.WellFormed) (q : String) :
    ((d.remove p).remove q).remove p = (d.remove q).remove p := by
  rcases remove_cases p with ⟨tokens, last, ht, hremove⟩ | ⟨-, hremove⟩
  · rcases remove_cases q with ⟨others, other, -, hother⟩ | ⟨-, hother⟩
    · simp only [hremove, hother]
      exact removeAt_absorb (hp _ ht) hw others other
    · rw [hother, hother]
      exact remove_idem hp hw
  · simp only [hremove]

theorem EveryList.remove (hp : Pointer.FieldsOnly p) {q : List Document → Prop}
    (hq : d.EveryList q) : (d.remove p).EveryList q := by
  rcases remove_cases p with ⟨tokens, last, ht, hremove⟩ | ⟨-, hremove⟩
  · rw [hremove]
    exact EveryList.removeAt (hp _ ht) hq
  · rwa [hremove]

end Pointers

/-- The document without what the pointers lead to, one after another. -/
def removeEach (d : Document) (pointers : List String) : Document := pointers.foldl remove d

section Sequences

variable {p : String} {d : Document} {pointers : List String}

theorem removeEach_cons (d : Document) (q : String) (rest : List String) :
    d.removeEach (q :: rest) = (d.remove q).removeEach rest := rfl

theorem WellFormed.removeEach (hw : d.WellFormed) (pointers : List String) :
    (d.removeEach pointers).WellFormed := by
  induction pointers generalizing d with
  | nil => exact hw
  | cons q rest ih => exact ih (hw.remove q)

theorem same_removeEach {a b : Document} (h : a.same b = true) (pointers : List String) :
    (a.removeEach pointers).same (b.removeEach pointers) = true := by
  induction pointers generalizing a b with
  | nil => exact h
  | cons q rest ih => exact ih (same_remove h q)

theorem find?_removeEach_of_none (hp : Pointer.FieldsOnly p) (hw : d.WellFormed)
    (h : d.find? p = none) (pointers : List String) : (d.removeEach pointers).find? p = none := by
  induction pointers generalizing d with
  | nil => exact h
  | cons q rest ih => exact ih (hw.remove q) (find?_remove_of_none hp hw h q)

/-- What was removed once is not there in the end. -/
theorem find?_removeEach (hp : Pointer.FieldsOnly p) (hne : p ≠ "") (hw : d.WellFormed)
    (hm : p ∈ pointers) : (d.removeEach pointers).find? p = none := by
  induction pointers generalizing d with
  | nil => cases hm
  | cons q rest ih =>
    rw [removeEach_cons]
    rcases List.mem_cons.mp hm with rfl | hrest
    · exact find?_removeEach_of_none hp (hw.remove p) (find?_remove_self hp hne hw) rest
    · exact ih (hw.remove q) hrest

/-- A pointer that is removed anyway may be removed beforehand. -/
theorem removeEach_remove (hp : Pointer.FieldsOnly p) (hw : d.WellFormed) (hm : p ∈ pointers) :
    (d.remove p).removeEach pointers = d.removeEach pointers := by
  induction pointers generalizing d with
  | nil => cases hm
  | cons q rest ih =>
    rw [removeEach_cons, removeEach_cons]
    rcases List.mem_cons.mp hm with rfl | hrest
    · rw [remove_idem hp hw]
    · calc ((d.remove p).remove q).removeEach rest
          = (((d.remove p).remove q).remove p).removeEach rest :=
            (ih ((hw.remove p).remove q) hrest).symm
        _ = ((d.remove q).remove p).removeEach rest := by rw [remove_absorb hp hw]
        _ = (d.remove q).removeEach rest := ih (hw.remove q) hrest

theorem removeEach_eq_self (h : ∀ q ∈ pointers, d.remove q = d) : d.removeEach pointers = d := by
  induction pointers with
  | nil => rfl
  | cons q rest ih =>
    obtain ⟨hq, hrest⟩ := List.forall_mem_cons.mp h
    rw [removeEach_cons, hq, ih hrest]

theorem fieldAt?_of_removeEach (hw : d.WellFormed) {path : List String} {value : Document}
    (h : (d.removeEach pointers).fieldAt? path = some value) :
    ∃ original, d.fieldAt? path = some original ∧ value.text? = original.text? := by
  induction pointers generalizing d with
  | nil => exact ⟨value, h, rfl⟩
  | cons q rest ih =>
    obtain ⟨between, hbetween, htext⟩ := ih (hw.remove q) h
    obtain ⟨original, horiginal, htext'⟩ := fieldAt?_of_remove hw hbetween
    exact ⟨original, horiginal, htext.trans htext'⟩

theorem EveryList.removeEach (h : ∀ q ∈ pointers, Pointer.FieldsOnly q) {q : List Document → Prop}
    (hq : d.EveryList q) : (d.removeEach pointers).EveryList q := by
  induction pointers generalizing d with
  | nil => exact hq
  | cons p rest ih =>
    obtain ⟨hp, hrest⟩ := List.forall_mem_cons.mp h
    exact ih hrest (EveryList.remove hp hq)

end Sequences

end DeployDrift.Document
