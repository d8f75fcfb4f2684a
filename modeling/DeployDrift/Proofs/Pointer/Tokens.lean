import DeployDrift.Pointer

/-!
# The tokens of a pointer

A look-up takes a pointer apart at every slash, a removal at the last one first.  Both read the same
tokens.  A token that is no position, digits behind a plus sign or without one, is a field name and
nothing else, in a look-up as in a removal.
-/
namespace DeployDrift

namespace Text

variable {sep : Char} {cs before after : List Char}

theorem splitOnChar_ne_nil (sep : Char) (cs : List Char) : splitOnChar sep cs ≠ [] := by
  cases cs with
  | nil => simp [splitOnChar]
  | cons c rest =>
    rw [splitOnChar]
    split
    · simp
    · split <;> simp

theorem splitOnChar_of_not_mem (h : sep ∉ cs) : splitOnChar sep cs = [cs] := by
  induction cs with
  | nil => rfl
  | cons c rest ih =>
    have hc : c ≠ sep := fun heq => h (heq ▸ List.mem_cons_self)
    rw [splitOnChar, if_neg hc, ih fun hm => h (List.mem_cons_of_mem c hm)]

/-- A last piece is split off at the separator before it. -/
theorem splitOnChar_append (before : List Char) (h : sep ∉ after) :
    splitOnChar sep (before ++ sep :: after) = splitOnChar sep before ++ [after] := by
  induction before with
  | nil => simp [splitOnChar, splitOnChar_of_not_mem h]
  | cons c rest ih =>
    rw [List.cons_append, splitOnChar, splitOnChar, ih]
    by_cases hc : c = sep
    · simp [hc]
    · rw [if_neg hc, if_neg hc]
      cases hpieces : splitOnChar sep rest with
      | nil => exact absurd hpieces (splitOnChar_ne_nil sep rest)
      | cons piece pieces => rfl

theorem not_mem_of_splitLast?_eq_none (h : splitLast? sep cs = none) : sep ∉ cs := by
  induction cs with
  | nil => simp
  | cons c rest ih =>
    rw [splitLast?] at h
    cases hrest : splitLast? sep rest with
    | some split =>
      rw [hrest] at h
      cases h
    | none =>
      by_cases hc : c = sep
      · simp [hrest, hc] at h
      · intro hm
        rcases List.mem_cons.mp hm with heq | hm
        · exact hc heq.symm
        · exact ih hrest hm

theorem eq_append_of_splitLast? (h : splitLast? sep cs = some (before, after)) :
    cs = before ++ sep :: after ∧ sep ∉ after := by
  induction cs generalizing before with
  | nil => cases h
  | cons c rest ih =>
    rw [splitLast?] at h
    cases hrest : splitLast? sep rest with
    | some split =>
      obtain ⟨inner, last⟩ := split
      rw [hrest] at h
      cases h
      obtain ⟨heq, hlast⟩ := ih hrest
      exact ⟨by rw [heq, List.cons_append], hlast⟩
    | none =>
      rw [hrest] at h
      by_cases hc : c = sep
      · simp only [hc, if_true, Option.some.injEq, Prod.mk.injEq] at h
        obtain ⟨rfl, rfl⟩ := h
        exact ⟨by rw [hc, List.nil_append], not_mem_of_splitLast?_eq_none hrest⟩
      · simp [hc] at h

end Text

namespace Pointer

/-- The token reads as a position in a list: digits, behind a plus sign or without one. -/
def isPosition (token : String) : Bool :=
  match token.toList with
  | '+' :: cs => Text.isDecimal cs
  | cs => Text.isDecimal cs

/-- No token of the pointer reads as a position in a list. -/
def FieldsOnly (pointer : String) : Prop :=
  ∀ tokens ∈ tokens? pointer.toList, ∀ token ∈ tokens, isPosition token = false

instance (pointer : String) : Decidable (FieldsOnly pointer) :=
  inferInstanceAs (Decidable (∀ tokens ∈ tokens? pointer.toList, _))

theorem indexOfDigits?_eq_none {digits : List Char} (h : Text.isDecimal digits = false) :
    indexOfDigits? digits = none := by
  simp [indexOfDigits?, h]

theorem index?_eq_none {token : String} (h : isPosition token = false) : index? token = none := by
  unfold isPosition at h
  unfold index?
  split
  next heq =>
    rw [heq] at h
    revert h
    decide
  next => rfl
  next =>
    have hplus : ∀ cs, Text.isDecimal ('+' :: cs) = false := fun cs => by simp [Text.isDecimal]
    split at h
    next cs heq => rw [heq, indexOfDigits?_eq_none (hplus cs)]
    next => exact indexOfDigits?_eq_none h

theorem looseIndex?_eq_none {token : List Char} (h : isPosition (String.ofList token) = false) :
    looseIndex? token = none := by
  unfold isPosition at h
  rw [String.toList_ofList] at h
  unfold looseIndex?
  split
  next => exact indexOfDigits?_eq_none h
  next hunsigned =>
    split at h
    next cs => exact absurd rfl (hunsigned cs)
    next => exact indexOfDigits?_eq_none h

/-- The tokens of a pointer are those before the last slash, and the one behind it. -/
theorem tokens?_eq_of_splitLast? {cs parent last : List Char}
    (h : Text.splitLast? '/' cs = some (parent, last)) :
    tokens? cs = (tokens? parent).map (· ++ [token last]) := by
  obtain ⟨rfl, hlast⟩ := Text.eq_append_of_splitLast? h
  cases parent with
  | nil => simp [tokens?, Text.splitOnChar_of_not_mem hlast]
  | cons c rest =>
    by_cases hc : c = '/'
    · subst hc
      simp [tokens?, Text.splitOnChar_append rest hlast]
    · simp [tokens?, hc]

theorem eq_nil_of_splitLast?_eq_none {cs : List Char} (h : Text.splitLast? '/' cs = none)
    {tokens : List String} (ht : tokens? cs = some tokens) : tokens = [] := by
  have hslash := Text.not_mem_of_splitLast?_eq_none h
  cases cs with
  | nil => exact (Option.some.inj ht).symm
  | cons c rest =>
    have hc : c ≠ '/' := fun heq => hslash (heq ▸ List.mem_cons_self)
    simp [tokens?, hc] at ht

theorem tokens?_ne_nil {pointer : String} (h : pointer ≠ "") :
    tokens? pointer.toList ≠ some [] := by
  intro hnil
  cases hcs : pointer.toList with
  | nil => exact h (String.toList_eq_nil_iff.mp hcs)
  | cons c rest =>
    rw [hcs] at hnil
    by_cases hc : c = '/'
    · subst hc
      simp only [tokens?, Option.some.injEq, List.map_eq_nil_iff] at hnil
      exact Text.splitOnChar_ne_nil '/' rest hnil
    · simp [tokens?, hc] at hnil

end Pointer

end DeployDrift
