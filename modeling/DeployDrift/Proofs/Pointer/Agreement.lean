import DeployDrift.Proofs.Pointer.Fields
import DeployDrift.Proofs.Pointer.Positions

/-!
# Removals agree with look-ups

A removal takes out what stands at one position: the one that a look-up finds, or none.  Only where
the last token is a number loosely written does it take an element that no look-up finds.  From a
document out of which parts further down or further right are gone already it takes the same part as
from the whole document.
-/
namespace DeployDrift.Document

/-- The slot that the last token of a removal empties. -/
def lastSlot? (d : Document) (last : List Char) : Option Slot :=
  match d with
  | .mapping fields =>
    if Table.contains fields (String.ofList last) then some (.member (String.ofList last)) else none
  | .list items =>
    (Pointer.looseIndex? last).bind fun i => if i < items.length then some (.element i) else none
  | _ => none

/-- The position of what is removed. -/
def removalPosition? (d : Document) (last : List Char) (tokens : List String) :
    Option (List Slot) :=
  (d.position? tokens).bind fun above =>
    (d.part? above).bind fun c => (c.lastSlot? last).map fun slot => above ++ [slot]

section Position

variable {d : Document} {tokens : List String} {last : List Char} {position : List Slot}

theorem removalPosition?_nil (d : Document) (last : List Char) :
    d.removalPosition? last [] = (d.lastSlot? last).map ([·]) := rfl

theorem removalPosition?_cons (d : Document) (last : List Char) (token : String)
    (rest : List String) :
    d.removalPosition? last (token :: rest) =
      (d.child? token).bind fun c =>
        (d.slot? token).bind fun slot => (c.removalPosition? last rest).map (slot :: ·) := by
  rw [removalPosition?, position?]
  cases hc : d.child? token with
  | none => rfl
  | some c =>
    rw [child?_eq_inSlot?] at hc
    obtain ⟨slot, hslot, hin⟩ := Option.bind_eq_some_iff.mp hc
    rw [hslot, Option.bind_some, Option.bind_some, Option.bind_some, Option.bind_some,
      removalPosition?]
    cases c.position? rest with
    | none => rfl
    | some below =>
      rw [Option.map_some, Option.bind_some, Option.bind_some, part?, hin, Option.bind_some]
      cases c.part? below with
      | none => rfl
      | some inner =>
        rw [Option.bind_some, Option.bind_some, Option.map_map]
        rfl

/-- A removal empties one slot of the part that the tokens before the last one lead to. -/
theorem removalPosition?_eq_some :
    d.removalPosition? last tokens = some position ↔
      ∃ above c slot, d.position? tokens = some above ∧ d.part? above = some c ∧
        c.lastSlot? last = some slot ∧ position = above ++ [slot] := by
  constructor
  · intro h
    obtain ⟨above, habove, h⟩ := Option.bind_eq_some_iff.mp h
    obtain ⟨c, hc, h⟩ := Option.bind_eq_some_iff.mp h
    obtain ⟨slot, hslot, rfl⟩ := Option.map_eq_some_iff.mp h
    exact ⟨above, c, slot, habove, hc, hslot, rfl⟩
  · rintro ⟨above, c, slot, habove, hc, hslot, rfl⟩
    rw [removalPosition?, habove, Option.bind_some, hc, Option.bind_some, hslot, Option.map_some]

theorem length_of_removalPosition? (h : d.removalPosition? last tokens = some position) :
    position.length = tokens.length + 1 := by
  obtain ⟨above, c, slot, habove, -, -, rfl⟩ := removalPosition?_eq_some.mp h
  rw [List.length_append, length_of_position? habove, List.length_singleton]

theorem isSome_removeChild? (last : List Char) (d : Document) :
    (removeChild? last d).isSome = (d.lastSlot? last).isSome := by
  cases d with
  | mapping fields =>
    rw [removeChild?, lastSlot?]
    split <;> rfl
  | list items =>
    rw [removeChild?, lastSlot?]
    cases Pointer.looseIndex? last with
    | none => rfl
    | some i =>
      rw [Option.bind_some]
      dsimp only
      split <;> rfl
  | _ => rfl

/-- Something is removed exactly if there is a position for it. -/
theorem isSome_change? (last : List Char) (tokens : List String) (d : Document) :
    (change? (removeChild? last) tokens d).isSome = (d.removalPosition? last tokens).isSome := by
  induction tokens generalizing d with
  | nil => rw [change?, isSome_removeChild?, removalPosition?_nil, Option.isSome_map]
  | cons token rest ih =>
    rw [change?, removalPosition?_cons]
    cases hc : d.child? token with
    | none => rfl
    | some c =>
      rw [child?_eq_inSlot?] at hc
      obtain ⟨slot, hslot, -⟩ := Option.bind_eq_some_iff.mp hc
      rw [hslot, Option.bind_some, Option.bind_some, Option.bind_some, Option.isSome_map,
        Option.isSome_map, ih]

theorem lastSlot?_mapping (fields : Fields) (last : List Char) :
    ((mapping fields).lastSlot? last).map ([·]) =
      (mapping fields).position? [String.ofList last] := by
  rw [lastSlot?, position?, child?, slot?, Table.contains]
  cases Table.get? fields (String.ofList last) <;> rfl

theorem lastSlot?_eq_position? (h : Pointer.looseIndex? last = Pointer.index? (String.ofList last))
    (d : Document) : (d.lastSlot? last).map ([·]) = d.position? [String.ofList last] := by
  cases d with
  | mapping fields => exact lastSlot?_mapping fields last
  | list items =>
    rw [lastSlot?, position?, child?, slot?, h]
    cases Pointer.index? (String.ofList last) with
    | none => rfl
    | some i =>
      rw [Option.bind_some, Option.bind_some]
      by_cases hi : i < items.length
      · simp [hi, position?]
      · simp [hi]
  | _ => rfl

/-- What is removed is what is looked up, if the last token is read alike. -/
theorem removalPosition?_eq_position?
    (h : Pointer.looseIndex? last = Pointer.index? (String.ofList last)) (d : Document)
    (tokens : List String) :
    d.removalPosition? last tokens = d.position? (tokens ++ [String.ofList last]) := by
  rw [removalPosition?, position?_append]
  refine congrArg (Option.bind _) (funext fun above => ?_)
  refine congrArg (Option.bind _) (funext fun c => ?_)
  rw [← lastSlot?_eq_position? h, Option.map_map]
  rfl

end Position

section Step

variable {gone : List Slot → Bool} {last : List Char}

theorem map_cons_beq_some_cons {α : Type} [DecidableEq α] (o : Option (List α)) (a : α)
    (l : List α) : (o.map (a :: ·) == some (a :: l)) = (o == some l) := by
  cases o with
  | none => rfl
  | some l' => simp

/-- The last token empties its slot, if only elements behind it are gone. -/
theorem removeAt_nil_without {d : Document} (hw : d.WellFormed)
    (hafter : ∀ i j, d.lastSlot? last = some (.element i) → gone [.element j] = true → i < j) :
    removeAt [] last (d.without gone) =
      d.without fun σ => gone σ || d.removalPosition? last [] == some σ := by
  cases d with
  | mapping fields =>
    obtain ⟨hs, -⟩ := wellFormed_mapping.mp hw
    have hwithout := hw.without gone
    apply eq_of_get? (hwithout.removeAt last []) (hw.without _)
      (exists_removeAt_mapping last [] _) ⟨_, rfl⟩
    intro field
    rw [get?_removeAt_last hwithout, get?_without, get?_without, removalPosition?_nil, lastSlot?]
    by_cases hfield : field = String.ofList last
    · rw [if_pos hfield, Table.contains, ← hfield, get?]
      cases hget : Table.get? fields field with
      | none => simp
      | some c => simp
    · rw [if_neg hfield]
      have hother : ∀ below, (((if Table.contains fields (String.ofList last) = true then
          some (Slot.member (String.ofList last)) else none).map ([·])) ==
            some (Slot.member field :: below)) = false := by
        intro below
        split
        · simp [Ne.symm hfield]
        · rfl
      simp only [hother, Bool.or_false]
  | list items =>
    rw [without, removeAt_nil, removeChild?, removalPosition?_nil, without]
    cases hindex : Pointer.looseIndex? last with
    | none => simp [lastSlot?, hindex]
    | some i =>
      by_cases hi : i < items.length
      · have hslot : (list items).lastSlot? last = some (.element i) := by
          simp [lastSlot?, hindex, hi]
        have hgone : ∀ j, gone [.element j] = true → 0 + i < j := fun j hj => by
          have hlater := hafter i j hslot hj
          omega
        have herase := eraseIdx_elementsWithout items hgone
        have hsame : (fun σ => gone σ || some [Slot.element i] == some σ) =
            fun σ => gone σ || σ == [Slot.element (0 + i)] := by
          funext σ
          rw [Nat.zero_add]
          exact congrArg (gone σ || ·) BEq.comm
        rw [hslot, Option.map_some, hsame, ← herase]
        dsimp only
        split
        next => rfl
        next hlen => rw [List.eraseIdx_of_length_le (Nat.not_lt.mp hlen)]; rfl
      · have hslot : (list items).lastSlot? last = none := by simp [lastSlot?, hindex, hi]
        have hlen := length_elementsWithout_le gone 0 items
        have hnot : ¬ i < (elementsWithout gone 0 items).length := by omega
        simp [hslot, hnot]
  | _ => rfl

section Below

variable {token : String} {rest : List String}

/-- What is removed behind a first token is no child. -/
theorem removalPosition?_beq_singleton (d : Document) (slot : Slot) :
    (d.removalPosition? last (token :: rest) == some [slot]) = false := by
  refine beq_false_of_ne fun h => ?_
  have hlength := length_of_removalPosition? h
  simp at hlength

/-- It lies in no slot but the one that the first token names. -/
theorem removalPosition?_beq_of_ne {d : Document} {slot : Slot} (h : d.slot? token ≠ some slot)
    (below : List Slot) :
    (d.removalPosition? last (token :: rest) == some (slot :: below)) = false := by
  refine beq_false_of_ne fun hremoved => ?_
  rw [removalPosition?_cons] at hremoved
  obtain ⟨c, -, hremoved⟩ := Option.bind_eq_some_iff.mp hremoved
  obtain ⟨slot', hslot, hremoved⟩ := Option.bind_eq_some_iff.mp hremoved
  obtain ⟨below', -, heq⟩ := Option.map_eq_some_iff.mp hremoved
  cases heq
  exact h hslot

/-- The step at a mapping: what is removed below a member is gone together with what was
gone before. -/
theorem removeAt_mapping_without {fields : Fields} (hw : (mapping fields).WellFormed)
    (hgone : ∀ slot, gone [slot] = false)
    (hchild : ∀ c, Table.get? fields token = some c →
      removeAt rest last (c.without fun below => gone (.member token :: below)) =
        c.without fun below => gone (.member token :: below) ||
          (mapping fields).removalPosition? last (token :: rest) == some (.member token :: below)) :
    removeAt (token :: rest) last ((mapping fields).without gone) =
      (mapping fields).without fun σ =>
        gone σ || (mapping fields).removalPosition? last (token :: rest) == some σ := by
  apply eq_of_get? ((hw.without gone).removeAt last _) (hw.without _)
    (exists_removeAt_mapping last _ _) ⟨_, rfl⟩
  intro field
  simp only [get?_removeAt_below, get?_without, hgone, removalPosition?_beq_singleton, Bool.or_self]
  split
  next heq =>
    subst heq
    cases hget : Table.get? fields field with
    | none => simp [get?, hget]
    | some c => simpa [get?, hget] using hchild c hget
  next hne =>
    have hslot : (mapping fields).slot? token ≠ some (.member field) := by
      simpa [slot?] using Ne.symm hne
    simp [removalPosition?_beq_of_ne hslot]

/-- The step at a list: none of its own elements is gone yet, so the index still means the
same one. -/
theorem removeAt_list_without {items : List Document} (hgone : ∀ slot, gone [slot] = false)
    (hchild : ∀ i c, Pointer.index? token = some i → items[i]? = some c →
      removeAt rest last (c.without fun below => gone (.element i :: below)) =
        c.without fun below => gone (.element i :: below) ||
          (list items).removalPosition? last (token :: rest) == some (.element i :: below)) :
    removeAt (token :: rest) last ((list items).without gone) =
      (list items).without fun σ =>
        gone σ || (list items).removalPosition? last (token :: rest) == some σ := by
  have hitems := getElem?_elementsWithout (fun i => hgone (.element i)) 0 items
  simp only [Nat.zero_add] at hitems
  cases hc : (list items).child? token with
  | none =>
    have hnone : (list items).removalPosition? last (token :: rest) = none := by
      rw [removalPosition?_cons, hc]
      rfl
    have hchild : ((list items).without gone).child? token = none := by
      rw [without, child?]
      rw [child?] at hc
      cases hindex : Pointer.index? token with
      | none => rfl
      | some i =>
        rw [hindex, Option.bind_some] at hc
        rw [Option.bind_some, hitems, hc, Option.map_none]
    rw [removeAt_cons, hchild]
    simp [hnone]
  | some c =>
    obtain ⟨i, hindex, hitem⟩ := Option.bind_eq_some_iff.mp hc
    rw [without, removeAt_cons, child?, hindex, Option.bind_some, hitems, hitem]
    dsimp only [Option.map_some]
    rw [hchild i c hindex hitem, replaceChild, hindex, without]
    refine congrArg list (List.ext_getElem? fun j => ?_)
    have hstays : ∀ i, (gone [.element i] ||
        (list items).removalPosition? last (token :: rest) == some [.element i]) = false :=
      fun i => by rw [hgone, removalPosition?_beq_singleton, Bool.or_self]
    rw [getElem?_elementsWithout hstays, List.getElem?_set, hitems, Nat.zero_add]
    by_cases hij : i = j
    · subst hij
      have hlen : i < (elementsWithout gone 0 items).length := by
        have hsome := hitems i
        rw [hitem] at hsome
        exact (List.getElem?_eq_some_iff.mp hsome).1
      rw [if_pos rfl, if_pos hlen, hitem, Option.map_some]
    · have hslot : (list items).slot? token ≠ some (.element j) := by
        rw [slot?, hindex]
        simpa using hij
      simp only [if_neg hij, removalPosition?_beq_of_ne hslot, Bool.or_false]

end Below

/-- From what is left of a document the same part is removed as from the whole, if what is gone
lies deeper, or further right in the same list. -/
theorem removeAt_without {d : Document} (hw : d.WellFormed) {tokens : List String}
    (hdeep : ∀ σ, gone σ = true → tokens.length < σ.length)
    (hafter : ∀ above i j, d.removalPosition? last tokens = some (above ++ [.element i]) →
      gone (above ++ [.element j]) = true → i < j) :
    removeAt tokens last (d.without gone) =
      d.without fun σ => gone σ || d.removalPosition? last tokens == some σ := by
  induction tokens generalizing d gone with
  | nil =>
    apply removeAt_nil_without hw
    intro i j hslot hgone
    exact hafter [] i j (by rw [removalPosition?_nil, hslot]; rfl) hgone
  | cons token rest ih =>
    have hgone : ∀ slot, gone [slot] = false := by
      intro slot
      cases h : gone [slot] with
      | false => rfl
      | true =>
        have hlength := hdeep [slot] h
        simp at hlength
    have hbelow : ∀ {c slot}, c.WellFormed → d.child? token = some c → d.slot? token = some slot →
        removeAt rest last (c.without fun below => gone (slot :: below)) =
          c.without fun below => gone (slot :: below) ||
            d.removalPosition? last (token :: rest) == some (slot :: below) := by
      intro c slot hc hchild hslot
      have hposition : d.removalPosition? last (token :: rest) =
          (c.removalPosition? last rest).map (slot :: ·) := by
        rw [removalPosition?_cons, hchild, hslot]
        rfl
      simp only [hposition, map_cons_beq_some_cons]
      apply ih hc
      · intro σ hσ
        have hlength := hdeep _ hσ
        simpa using hlength
      · intro above i j hremoved hgone
        exact hafter (slot :: above) i j (by rw [hposition, hremoved]; rfl) hgone
    cases d with
    | mapping fields =>
      exact removeAt_mapping_without hw hgone fun c hc => hbelow (hw.get? hc) hc rfl
    | list items =>
      apply removeAt_list_without hgone
      intro i c hindex hitem
      apply hbelow (wellFormed_list.mp hw c (List.mem_of_getElem? hitem))
      · rw [child?, hindex, Option.bind_some, hitem]
      · rw [slot?, hindex, Option.map_some]
    | _ => rfl

end Step

section Pointers

variable {d : Document} {tokens : List String} {last : List Char}

/-- A removal takes out the part at its position and nothing else. -/
theorem change?_removeChild? (hw : d.WellFormed) (tokens : List String) (last : List Char) :
    change? (removeChild? last) tokens d =
      (d.removalPosition? last tokens).map fun position => d.without (· == position) := by
  have hsome := isSome_change? last tokens d
  have hremoved : removeAt tokens last (d.without fun _ => false) =
      d.without fun σ => false || d.removalPosition? last tokens == some σ :=
    removeAt_without hw nofun nofun
  rw [without_none] at hremoved
  cases hposition : d.removalPosition? last tokens with
  | none =>
    rw [hposition, Option.isSome_none, Option.isSome_eq_false_iff, Option.isNone_iff_eq_none]
      at hsome
    rw [hsome, Option.map_none]
  | some position =>
    rw [hposition] at hsome hremoved
    obtain ⟨e, he⟩ := Option.isSome_iff_exists.mp hsome
    rw [removeAt, he, Option.getD_some] at hremoved
    rw [he, hremoved, Option.map_some]
    congr 2
    funext σ
    rw [Bool.false_or]
    exact BEq.comm

/-- The last token leads a look-up to the slot that it empties, unless it is a number loosely
written behind a list. -/
theorem lastSlot?_cases (c : Document) (last : List Char) :
    (c.lastSlot? last).map ([·]) = c.position? [String.ofList last] ∨
      Pointer.isLooseNumber last = true ∧ (∃ items, c = list items) ∧
        c.position? [String.ofList last] = none := by
  cases hloose : Pointer.isLooseNumber last with
  | false => exact .inl (lastSlot?_eq_position? (Pointer.looseIndex?_eq_index? hloose) c)
  | true =>
    cases c with
    | mapping fields => exact .inl (lastSlot?_mapping fields last)
    | list items =>
      refine .inr ⟨rfl, ⟨items, rfl⟩, ?_⟩
      rw [position?, child?, Pointer.index?_of_isLooseNumber hloose]
      rfl
    | _ => exact .inl rfl

/-- What a removal takes away stands where a look-up ends, or in a list that a look-up reaches but
does not enter. -/
theorem removalPosition?_iff {position : List Slot} :
    d.removalPosition? last tokens = some position ↔
      d.position? (tokens ++ [String.ofList last]) = some position ∨
        Pointer.isLooseNumber last = true ∧ ∃ above items i, d.position? tokens = some above ∧
          d.part? above = some (list items) ∧ Pointer.looseIndex? last = some i ∧
          i < items.length ∧ position = above ++ [.element i] := by
  constructor
  · intro h
    obtain ⟨above, c, slot, habove, hc, hslot, rfl⟩ := removalPosition?_eq_some.mp h
    rcases lastSlot?_cases c last with hsame | ⟨hloose, ⟨items, rfl⟩, -⟩
    · apply Or.inl
      rw [position?_append, habove, Option.bind_some, hc, Option.bind_some, ← hsame, hslot]
      rfl
    · obtain ⟨i, hi, hslot⟩ := Option.bind_eq_some_iff.mp hslot
      obtain ⟨hlt, heq⟩ := Option.ite_none_right_eq_some.mp hslot
      cases heq
      exact .inr ⟨hloose, above, items, i, habove, hc, hi, hlt, rfl⟩
  · rintro (h | ⟨-, above, items, i, habove, hc, hi, hlt, rfl⟩)
    · rw [position?_append] at h
      obtain ⟨above, habove, h⟩ := Option.bind_eq_some_iff.mp h
      obtain ⟨c, hc, h⟩ := Option.bind_eq_some_iff.mp h
      obtain ⟨below, hbelow, rfl⟩ := Option.map_eq_some_iff.mp h
      rcases lastSlot?_cases c last with hsame | ⟨-, -, hnone⟩
      · rw [← hsame] at hbelow
        obtain ⟨slot, hslot, rfl⟩ := Option.map_eq_some_iff.mp hbelow
        exact removalPosition?_eq_some.mpr ⟨above, c, slot, habove, hc, hslot, rfl⟩
      · rw [hnone] at hbelow
        cases hbelow
    · have hslot : (list items).lastSlot? last = some (.element i) := by simp [lastSlot?, hi, hlt]
      exact removalPosition?_eq_some.mpr ⟨above, _, _, habove, hc, hslot, rfl⟩

/-- A list is not entered through a number loosely written. -/
theorem position?_of_isLooseNumber {above : List Slot} {items : List Document}
    (habove : d.position? tokens = some above) (hc : d.part? above = some (list items))
    (hloose : Pointer.isLooseNumber last = true) :
    d.position? (tokens ++ [String.ofList last]) = none := by
  rw [position?_append, habove, Option.bind_some, hc, Option.bind_some, position?, child?,
    Pointer.index?_of_isLooseNumber hloose]
  rfl

/-- A removal takes the last token for the index of an element, and a look-up does not: the token
is a decimal number with a plus sign or a superfluous zero in front. -/
def LooselyAt (d : Document) (pointer : String) (position : List Slot) : Prop :=
  ∃ parent last, Text.splitLast? '/' pointer.toList = some (parent, last) ∧
    Pointer.isLooseNumber (Pointer.unescape last) = true ∧
    ∃ above items i, d.locate? (String.ofList parent) = some above ∧
      d.part? above = some (list items) ∧ Pointer.looseIndex? (Pointer.unescape last) = some i ∧
      i < items.length ∧ position = above ++ [.element i]

/-- A removal takes a pointer apart at the last slash. -/
theorem exists_splitLast? {pointer : String} (h : pointer.toList.head? = some '/') :
    ∃ parent last tokens, Text.splitLast? '/' pointer.toList = some (parent, last) ∧
      Pointer.tokens? parent = some tokens ∧
      Pointer.tokens? pointer.toList = some (tokens ++ [Pointer.token last]) := by
  obtain ⟨cs, hcs⟩ := List.head?_eq_some_iff.mp h
  cases hsplit : Text.splitLast? '/' pointer.toList with
  | none =>
    have hslash := Text.not_mem_of_splitLast?_eq_none hsplit
    rw [hcs] at hslash
    exact absurd List.mem_cons_self hslash
  | some split =>
    obtain ⟨parent, last⟩ := split
    have htokens := Pointer.tokens?_eq_of_splitLast? hsplit
    cases hparent : Pointer.tokens? parent with
    | none =>
      rw [hparent, hcs] at htokens
      cases htokens
    | some tokens => exact ⟨parent, last, tokens, rfl, hparent, by rw [htokens, hparent]; rfl⟩

/-- The position of what a pointer removes. -/
def removed? (d : Document) (pointer : String) : Option (List Slot) :=
  (Text.splitLast? '/' pointer.toList).bind fun (parent, last) =>
    (Pointer.tokens? parent).bind (d.removalPosition? (Pointer.unescape last))

theorem remove?_eq_map (hw : d.WellFormed) (pointer : String) :
    d.remove? pointer = (d.removed? pointer).map fun position => d.without (· == position) := by
  rw [remove?, removed?]
  cases Text.splitLast? '/' pointer.toList with
  | none => rfl
  | some split =>
    obtain ⟨parent, last⟩ := split
    rw [Option.bind_some]
    dsimp only [Option.bind_eq_bind, Option.bind_some]
    cases Pointer.tokens? parent with
    | none => rfl
    | some tokens => exact change?_removeChild? hw tokens (Pointer.unescape last)

/-- A pointer removes what it locates, and besides that only elements whose index is loosely
written. -/
theorem removed?_eq_some_iff {pointer : String} {position : List Slot}
    (hp : pointer.toList.head? = some '/') :
    d.removed? pointer = some position ↔
      d.locate? pointer = some position ∨ d.LooselyAt pointer position := by
  obtain ⟨parent, last, tokens, hsplit, hparent, htokens⟩ := exists_splitLast? hp
  have hremoved : d.removed? pointer = d.removalPosition? (Pointer.unescape last) tokens := by
    simp only [removed?, hsplit, hparent, Option.bind_some]
  have hlocate : d.locate? pointer =
      d.position? (tokens ++ [String.ofList (Pointer.unescape last)]) := by
    rw [locate?, htokens]
    rfl
  have hloosely : d.LooselyAt pointer position ↔
      Pointer.isLooseNumber (Pointer.unescape last) = true ∧
        ∃ above items i, d.position? tokens = some above ∧ d.part? above = some (list items) ∧
          Pointer.looseIndex? (Pointer.unescape last) = some i ∧ i < items.length ∧
          position = above ++ [.element i] := by
    simp [LooselyAt, hsplit, locate?, hparent]
  rw [hremoved, hlocate, hloosely]
  exact removalPosition?_iff

/-- Where an index is loosely written, a look-up ends nowhere. -/
theorem LooselyAt.locate?_eq_none {pointer : String} {position : List Slot}
    (h : d.LooselyAt pointer position) : d.locate? pointer = none := by
  obtain ⟨parent, last, hsplit, hnumber, above, items, i, hlocate, hc, -⟩ := h
  obtain ⟨tokens, htokens, habove⟩ := Option.bind_eq_some_iff.mp hlocate
  rw [String.toList_ofList] at htokens
  rw [locate?, Pointer.tokens?_eq_of_splitLast? hsplit, htokens, Option.map_some, Option.bind_some]
  exact position?_of_isLooseNumber habove hc hnumber

/-- What a removal takes away is the part that a look-up finds, or an element that no look-up finds
because its index is loosely written; the two agree unless there is such an element. -/
theorem remove?_exact {pointer : String} (hw : d.WellFormed)
    (hp : pointer.toList.head? = some '/') :
    (∀ e, d.remove? pointer = some e ↔
      ∃ position, (d.locate? pointer = some position ∨ d.LooselyAt pointer position) ∧
        e = d.without (· == position)) ∧
    ((d.remove? pointer).isSome = (d.find? pointer).isSome ↔
      ∀ position, ¬ d.LooselyAt pointer position) ∧
    (d.remove? pointer = none → d.remove pointer = d) := by
  refine ⟨fun e => ?_, ⟨fun hsame position hloose => ?_, fun hstrict => ?_⟩,
    fun hnone => by rw [remove, hnone]; rfl⟩
  · rw [remove?_eq_map hw, Option.map_eq_some_iff]
    simp only [removed?_eq_some_iff hp, eq_comm]
  · have hremoved := (removed?_eq_some_iff hp).mpr (.inr hloose)
    rw [remove?_eq_map hw, hremoved, ← isSome_locate?, hloose.locate?_eq_none] at hsame
    cases hsame
  · have hremoved : d.removed? pointer = d.locate? pointer :=
      Option.ext fun position => by rw [removed?_eq_some_iff hp, or_iff_left (hstrict position)]
    rw [remove?_eq_map hw, Option.isSome_map, hremoved, isSome_locate?]

/-- A name with a slash in it, and the second item under it. -/
theorem remove?_second_route :
    (mapping [("a/b", .list [.text "x", .text "y"]), ("c", .null)]).remove? "/a~1b/1" =
      some (mapping [("a/b", .list [.text "x"]), ("c", .null)]) := by
  have hw : (mapping [("a/b", .list [.text "x", .text "y"]), ("c", .null)]).WellFormed := by
    decide
  have hp : "/a~1b/1".toList.head? = some '/' := by decide
  have hlocate : (mapping [("a/b", .list [.text "x", .text "y"]), ("c", .null)]).locate? "/a~1b/1" =
      some [.member "a/b", .element 1] := by decide +kernel
  refine ((remove?_exact hw hp).1 _).mpr ⟨_, .inl hlocate, ?_⟩
  decide +kernel

/-- With a plus sign in front, an index leads a look-up nowhere, and a removal to the element. -/
theorem remove?_signed_index :
    (mapping [("a", .list [.text "x"])]).find? "/a/+0" = none ∧
      (mapping [("a", .list [.text "x"])]).remove? "/a/+0" = some (mapping [("a", .list [])]) := by
  decide +kernel

end Pointers

end DeployDrift.Document
