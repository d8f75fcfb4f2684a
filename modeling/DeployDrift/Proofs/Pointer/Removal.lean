import DeployDrift.Drift.IgnoreRules
import DeployDrift.Proofs.Merge.Covering
import DeployDrift.Proofs.Pointer.Tokens
import Mathlib.Data.List.InsertIdx

/-!
# Removing what a pointer leads to

A removal follows one token after another and changes nothing beside its way.  Taking the same
pointer off two documents keeps them the same if they were, and keeps containment; no removal gives
an item a name it did not have.
-/
namespace DeployDrift.Document

/-- The document without the child that the last token leads to, below where the tokens lead. -/
def removeAt (tokens : List String) (last : List Char) (d : Document) : Document :=
  (change? (removeChild? last) tokens d).getD d

/-- A pointer without tokens removes nothing; any other removes what its last token leads to below
where the others lead. -/
theorem remove_cases (pointer : String) :
    (∃ tokens last, Pointer.tokens? pointer.toList = some (tokens ++ [String.ofList last]) ∧
        ∀ d : Document, d.remove pointer = removeAt tokens last d) ∨
      (∀ tokens ∈ Pointer.tokens? pointer.toList, tokens = []) ∧
        ∀ d : Document, d.remove pointer = d := by
  unfold remove remove?
  cases hsplit : Text.splitLast? '/' pointer.toList with
  | none =>
    refine .inr ⟨fun tokens ht => Pointer.eq_nil_of_splitLast?_eq_none hsplit ht, fun d => rfl⟩
  | some split =>
    obtain ⟨parent, last⟩ := split
    rw [Pointer.tokens?_eq_of_splitLast? hsplit]
    cases htokens : Pointer.tokens? parent with
    | none => exact .inr ⟨nofun, fun d => by simp [htokens]⟩
    | some tokens =>
      exact .inl ⟨tokens, Pointer.unescape last, rfl, fun d => by simp [htokens, removeAt]⟩

theorem replaceChild_child? {d c : Document} {token : String} (h : d.child? token = some c) :
    d.replaceChild token c = d := by
  cases d with
  | mapping fields => exact congrArg mapping (Table.modify_get? h)
  | list items =>
    obtain ⟨i, hi, hc⟩ := Option.bind_eq_some_iff.mp h
    rw [replaceChild, hi]
    obtain ⟨hlt, rfl⟩ := List.getElem?_eq_some_iff.mp hc
    exact congrArg list (List.set_getElem_self hlt)
  | _ => rfl

section Steps

variable (last : List Char)

theorem removeAt_nil (d : Document) : removeAt [] last d = (removeChild? last d).getD d := rfl

theorem removeAt_cons (token : String) (rest : List String) (d : Document) :
    removeAt (token :: rest) last d =
      match d.child? token with
      | none => d
      | some c => d.replaceChild token (removeAt rest last c) := by
  unfold removeAt
  rw [change?]
  cases hc : d.child? token with
  | none => rfl
  | some c =>
    cases hr : change? (removeChild? last) rest c with
    | none => simp [hr, replaceChild_child? hc]
    | some c' => simp [hr]

theorem removeAt_scalar {d : Document} (h : d.IsScalar) (tokens : List String) :
    removeAt tokens last d = d := by
  cases d with
  | list _ => exact h.elim
  | mapping _ => exact h.elim
  | _ => cases tokens <;> rfl

theorem exists_removeAt_mapping (tokens : List String) (fields : Fields) :
    ∃ fields', removeAt tokens last (mapping fields) = mapping fields' := by
  cases tokens with
  | nil =>
    rw [removeAt_nil, removeChild?]
    split
    · exact ⟨_, rfl⟩
    · exact ⟨fields, rfl⟩
  | cons token rest =>
    rw [removeAt_cons]
    split
    · exact ⟨fields, rfl⟩
    · exact ⟨_, rfl⟩

theorem exists_removeAt_list (tokens : List String) (items : List Document) :
    ∃ items', removeAt tokens last (list items) = list items' := by
  cases tokens with
  | nil =>
    rw [removeAt_nil, removeChild?]
    split
    · split
      · exact ⟨_, rfl⟩
      · exact ⟨items, rfl⟩
    · exact ⟨items, rfl⟩
  | cons token rest =>
    rw [removeAt_cons]
    split
    · exact ⟨items, rfl⟩
    · rw [replaceChild]
      split
      · exact ⟨_, rfl⟩
      · exact ⟨items, rfl⟩

theorem get?_removeAt_nil {fields : Fields} (h : Table.Sorted fields) (field : String) :
    (removeAt [] last (mapping fields)).get? field =
      if field = String.ofList last then none else Table.get? fields field := by
  rw [removeAt_nil, removeChild?]
  by_cases hc : Table.contains fields (String.ofList last) = true
  · rw [if_pos hc]
    exact Table.get?_erase h (String.ofList last) field
  · rw [if_neg hc]
    change Table.get? fields field = _
    split
    next heq => simpa [Table.contains, heq] using hc
    next => rfl

theorem get?_removeAt_cons (token : String) (rest : List String) (fields : Fields)
    (field : String) :
    (removeAt (token :: rest) last (mapping fields)).get? field =
      if field = token then (Table.get? fields field).map (removeAt rest last)
      else Table.get? fields field := by
  rw [removeAt_cons, child?]
  cases hc : Table.get? fields token with
  | none =>
    change Table.get? fields field = _
    split
    next heq => rw [heq, hc]; rfl
    next => rfl
  | some c =>
    change Table.get? (Table.modify fields token fun _ => removeAt rest last c) field = _
    rw [Table.get?_modify]
    split
    next heq => rw [heq, hc]; rfl
    next => rfl

theorem WellFormed.removeAt {d : Document} (h : d.WellFormed) (tokens : List String) :
    (removeAt tokens last d).WellFormed := by
  unfold Document.removeAt
  cases hr : Document.change? (Document.removeChild? last) tokens d with
  | none => exact h
  | some e => exact h.change? (fun _ _ hd hde => hd.removeChild? hde) hr

end Steps

section Sameness

theorem child?_withoutZeroSign (d : Document) (token : String) :
    d.withoutZeroSign.child? token = (d.child? token).map withoutZeroSign := by
  cases d with
  | mapping fields => exact get?_withoutZeroSign (mapping fields) token
  | list items =>
    rw [withoutZeroSign_list, child?, child?]
    cases Pointer.index? token with
    | none => rfl
    | some i => simp
  | _ => rfl

theorem replaceChild_withoutZeroSign (d c : Document) (token : String) :
    (d.replaceChild token c).withoutZeroSign =
      d.withoutZeroSign.replaceChild token c.withoutZeroSign := by
  cases d with
  | mapping fields =>
    rw [replaceChild, withoutZeroSign_mapping, withoutZeroSign_mapping, replaceChild,
      Table.map_modify]
  | list items =>
    rw [withoutZeroSign_list, replaceChild, replaceChild]
    cases Pointer.index? token with
    | none => exact withoutZeroSign_list items
    | some i =>
      rw [withoutZeroSign_list]
      simp
  | _ => rfl

theorem removeChild?_withoutZeroSign (d : Document) (last : List Char) :
    removeChild? last d.withoutZeroSign = (removeChild? last d).map withoutZeroSign := by
  cases d with
  | mapping fields =>
    have hcontains : Table.contains (fields.map fun e => (e.1, e.2.withoutZeroSign))
        (String.ofList last) = Table.contains fields (String.ofList last) := by
      simp [Table.contains, Table.get?_map fields (fun _ d => d.withoutZeroSign)]
    rw [withoutZeroSign_mapping, removeChild?, removeChild?, hcontains]
    split
    · rw [← Table.map_erase, Option.map_some, withoutZeroSign_mapping]
    · rfl
  | list items =>
    rw [withoutZeroSign_list, removeChild?, removeChild?, List.length_map]
    cases Pointer.looseIndex? last with
    | none => rfl
    | some i =>
      by_cases hi : i < items.length
      · simp [hi, withoutZeroSign_list, List.eraseIdx_map]
      · simp [hi]
  | _ => rfl

/-- Removal does not look at the signs of zeros. -/
theorem withoutZeroSign_removeAt (tokens : List String) (last : List Char) (d : Document) :
    (removeAt tokens last d).withoutZeroSign = removeAt tokens last d.withoutZeroSign := by
  induction tokens generalizing d with
  | nil =>
    rw [removeAt_nil, removeAt_nil, removeChild?_withoutZeroSign]
    cases removeChild? last d <;> rfl
  | cons token rest ih =>
    rw [removeAt_cons, removeAt_cons, child?_withoutZeroSign]
    cases d.child? token with
    | none => rfl
    | some c => exact (replaceChild_withoutZeroSign d _ token).trans (congrArg _ (ih c))

theorem same_removeAt {a b : Document} (h : a.same b = true) (tokens : List String)
    (last : List Char) : (removeAt tokens last a).same (removeAt tokens last b) = true := by
  rw [same_iff, withoutZeroSign_removeAt, withoutZeroSign_removeAt, same_iff.mp h]

end Sameness

/-- Taking the same away from both sides keeps containment. -/
theorem Contains.removeAt {live target : Document} (hl : live.WellFormed) (ht : target.WellFormed)
    (h : live.Contains target) (tokens : List String) (last : List Char) :
    (removeAt tokens last live).Contains (removeAt tokens last target) := by
  induction target using inductionOn generalizing live tokens with
  | scalar d hs =>
    have hsame := same_removeAt ((contains_scalar hs live).mp h) tokens last
    rw [removeAt_scalar last hs] at hsame ⊢
    exact (contains_scalar hs _).mpr hsame
  | list items _ =>
    have hsame := same_removeAt ((contains_list live items).mp h) tokens last
    obtain ⟨items', hitems⟩ := exists_removeAt_list last tokens items
    rw [hitems] at hsame ⊢
    exact (contains_list _ items').mpr hsame
  | mapping fields ih =>
    cases live with
    | mapping liveFields =>
      obtain ⟨hs, hw⟩ := wellFormed_mapping.mp ht
      have hcontains := (contains_mapping hs).mp h
      have ht' := ht.removeAt last tokens
      obtain ⟨live', hlive⟩ := exists_removeAt_mapping last tokens liveFields
      obtain ⟨fields', hfields⟩ := exists_removeAt_mapping last tokens fields
      have hgetLive : ∀ field, Table.get? live' field = _ := fun field =>
        congrArg (·.get? field) hlive.symm
      have hgetTarget : ∀ field, Table.get? fields' field = _ := fun field =>
        congrArg (·.get? field) hfields.symm
      rw [hfields] at ht' ⊢
      rw [hlive, contains_mapping (wellFormed_mapping.mp ht').1]
      intro field t hget
      rw [hgetTarget] at hget
      rw [hgetLive]
      cases tokens with
      | nil =>
        rw [get?_removeAt_nil last hs] at hget
        rw [get?_removeAt_nil last (wellFormed_mapping.mp hl).1]
        by_cases hlast : field = String.ofList last
        · rw [if_pos hlast] at hget
          cases hget
        · rw [if_neg hlast] at hget ⊢
          exact hcontains field t hget
      | cons token rest =>
        rw [get?_removeAt_cons] at hget ⊢
        by_cases htoken : field = token
        · rw [if_pos htoken] at hget ⊢
          obtain ⟨child, hchild, rfl⟩ := Option.map_eq_some_iff.mp hget
          obtain ⟨value, hvalue, hinside⟩ := hcontains field child hchild
          have hm := Table.mem_of_get? hchild
          rw [hvalue]
          exact ⟨_, rfl, ih _ hm (hl.get? hvalue) (hw _ hm) hinside rest⟩
        · rw [if_neg htoken] at hget ⊢
          exact hcontains field t hget
    | _ => exact h.elim

theorem text?_removeAt (tokens : List String) (last : List Char) (d : Document) :
    (removeAt tokens last d).text? = d.text? := by
  cases d with
  | mapping fields =>
    obtain ⟨fields', h⟩ := exists_removeAt_mapping last tokens fields
    rw [h]
    rfl
  | list items =>
    obtain ⟨items', h⟩ := exists_removeAt_list last tokens items
    rw [h]
    rfl
  | _ => exact congrArg text? (removeAt_scalar last (by trivial) tokens)

/-- A removal leaves an item its name or takes it away. -/
theorem itemName?_removeAt {d : Document} (hw : d.WellFormed) (tokens : List String)
    (last : List Char) :
    (removeAt tokens last d).itemName? = d.itemName? ∨
      (removeAt tokens last d).itemName? = none := by
  cases d with
  | mapping fields =>
    cases tokens with
    | nil =>
      rw [itemName?, get?_removeAt_nil last (wellFormed_mapping.mp hw).1]
      split
      · exact .inr rfl
      · exact .inl rfl
    | cons token rest =>
      apply Or.inl
      rw [itemName?, get?_removeAt_cons, itemName?, get?]
      split
      · cases Table.get? fields itemNameField with
        | none => rfl
        | some value => exact text?_removeAt rest last value
      · rfl
  | list items =>
    obtain ⟨items', h⟩ := exists_removeAt_list last tokens items
    rw [h]
    exact .inl rfl
  | _ => exact .inl (congrArg itemName? (removeAt_scalar last (by trivial) tokens))

/-- An element replaced by one of the same value, or of none, at most takes its value away.
-/
theorem filterMap_set_sublist {α β : Type} {f : α → Option β} {items : List α} {i : Nat} {c c' : α}
    (hc : items[i]? = some c) (h : f c' = f c ∨ f c' = none) :
    ((items.set i c').filterMap f).Sublist (items.filterMap f) := by
  induction items generalizing i with
  | nil => cases hc
  | cons d rest ih =>
    cases i with
    | zero =>
      cases hc
      rw [List.set_cons_zero]
      rcases h with h | h
      · have hsame : (c' :: rest).filterMap f = (c :: rest).filterMap f := by
          rw [List.filterMap_cons, List.filterMap_cons, h]
        exact hsame ▸ List.Sublist.refl _
      · rw [List.filterMap_cons_none h]
        exact (List.sublist_cons_self c rest).filterMap f
    | succ i =>
      rw [List.set_cons_succ, List.filterMap_cons, List.filterMap_cons]
      cases f d with
      | none => exact ih hc
      | some b => exact (ih hc).cons_cons b

/-- No removal makes two items of a list have one name. -/
theorem DistinctItemNames.removeAt {d : Document} (hw : d.WellFormed) (h : d.DistinctItemNames)
    (tokens : List String) (last : List Char) : (removeAt tokens last d).DistinctItemNames := by
  induction d using inductionOn generalizing tokens with
  | scalar d hs =>
    rw [removeAt_scalar last hs]
    exact hs.everyList
  | mapping fields ih =>
    have hitems := everyList_mapping.mp h
    have hfields := (wellFormed_mapping.mp hw).2
    cases tokens with
    | nil =>
      rw [removeAt_nil, removeChild?]
      split
      · exact everyList_mapping.mpr fun e he => hitems e (Table.mem_of_mem_erase he)
      · exact h
    | cons token rest =>
      rw [removeAt_cons, child?]
      cases hc : Table.get? fields token with
      | none => exact h
      | some c =>
        have hm := Table.mem_of_get? hc
        apply everyList_mapping.mpr
        intro e he
        obtain ⟨value, hvalue, heq | heq⟩ := Table.mem_modify he
        · rw [heq]
          exact hitems _ hvalue
        · rw [heq]
          exact ih _ hm (hfields _ hm) (hitems _ hm) rest
  | list items ih =>
    obtain ⟨hnodup, hitems⟩ := everyList_list.mp h
    have hfields := wellFormed_list.mp hw
    cases tokens with
    | nil =>
      rw [removeAt_nil, removeChild?]
      split
      next i _ =>
        split
        · refine everyList_list.mpr ⟨?_, fun e he => hitems e (List.mem_of_mem_eraseIdx he)⟩
          exact hnodup.sublist ((List.eraseIdx_sublist items i).filterMap itemName?)
        · exact h
      next => exact h
    | cons token rest =>
      rw [removeAt_cons]
      cases hc : (list items).child? token with
      | none => exact h
      | some c =>
        obtain ⟨i, hi, hitem⟩ := Option.bind_eq_some_iff.mp hc
        have hm := List.mem_of_getElem? hitem
        change ((list items).replaceChild token (Document.removeAt rest last c)).DistinctItemNames
        rw [replaceChild, hi]
        refine everyList_list.mpr ⟨?_, fun e he => ?_⟩
        · exact hnodup.sublist
            (filterMap_set_sublist hitem (itemName?_removeAt (hfields c hm) rest last))
        · rcases List.mem_or_eq_of_mem_set he with he | rfl
          · exact hitems e he
          · exact ih c hm (hfields c hm) (hitems c hm) rest

theorem same_remove {a b : Document} (h : a.same b = true) (pointer : String) :
    (a.remove pointer).same (b.remove pointer) = true := by
  rcases remove_cases pointer with ⟨tokens, last, -, hremove⟩ | ⟨-, hremove⟩
  · rw [hremove, hremove]
    exact same_removeAt h tokens last
  · rwa [hremove, hremove]

theorem Contains.remove {live target : Document} (hl : live.WellFormed) (ht : target.WellFormed)
    (h : live.Contains target) (pointer : String) :
    (live.remove pointer).Contains (target.remove pointer) := by
  rcases remove_cases pointer with ⟨tokens, last, -, hremove⟩ | ⟨-, hremove⟩
  · rw [hremove, hremove]
    exact h.removeAt hl ht tokens last
  · rwa [hremove, hremove]

theorem DistinctItemNames.remove {d : Document} (hw : d.WellFormed) (h : d.DistinctItemNames)
    (pointer : String) : (d.remove pointer).DistinctItemNames := by
  rcases remove_cases pointer with ⟨tokens, last, -, hremove⟩ | ⟨-, hremove⟩
  · rw [hremove]
    exact h.removeAt hw tokens last
  · rwa [hremove]

end DeployDrift.Document
