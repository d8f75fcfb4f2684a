import DeployDrift.Text
import Mathlib.Data.List.TakeWhile

/-!
# The two ends of a text

A text that starts with characters of one kind, followed by one of another kind or by nothing, is
taken apart between them.  A text is split at the first separator exactly if nothing before it is a
separator.  Where a text ends in a character that is kept, another one put behind it is trimmed on
its own.  A known beginning is found exactly if the text starts with it.
-/
namespace DeployDrift.Text

section Runs

variable {α : Type} {p : α → Bool} {front rest : List α}

/-- The text is empty or starts with a character of the other kind. -/
def Stops (p : α → Bool) (rest : List α) : Prop := ∀ c ∈ rest.head?, p c = false

@[simp] theorem stops_nil (p : α → Bool) : Stops p [] := by simp [Stops]

@[simp] theorem stops_cons {c : α} : Stops p (c :: rest) ↔ p c = false := by simp [Stops]

theorem stops_dropWhile (p : α → Bool) (cs : List α) : Stops p (cs.dropWhile p) := by
  induction cs with
  | nil => simp
  | cons c rest ih =>
    rw [List.dropWhile_cons]
    split
    next => exact ih
    next hc => simpa using hc

theorem takeWhile_eq_nil (h : Stops p rest) : rest.takeWhile p = [] := by
  cases rest with
  | nil => rfl
  | cons c cs => simp [stops_cons.mp h]

theorem dropWhile_eq_self (h : Stops p rest) : rest.dropWhile p = rest := by
  cases rest with
  | nil => rfl
  | cons c cs => simp [stops_cons.mp h]

theorem dropWhile_eq_self_iff : rest.dropWhile p = rest ↔ Stops p rest :=
  ⟨fun h => h ▸ stops_dropWhile p rest, dropWhile_eq_self⟩

theorem Stops.of_isPrefix (h : Stops p rest) (hfront : front <+: rest) : Stops p front := by
  cases front with
  | nil => exact stops_nil p
  | cons c cs =>
    obtain ⟨behind, rfl⟩ := hfront
    exact stops_cons.mpr (stops_cons.mp h)

theorem drop_length_takeWhile (p : α → Bool) (cs : List α) :
    cs.drop (cs.takeWhile p).length = cs.dropWhile p := by
  have h : (cs.takeWhile p ++ cs.dropWhile p).drop (cs.takeWhile p).length = cs.dropWhile p :=
    List.drop_left
  rwa [List.takeWhile_append_dropWhile] at h

/-- A text that starts with another kind of character, put behind, does not lengthen the front. -/
theorem takeWhile_append_of_stops (front : List α) (hrest : Stops p rest) :
    (front ++ rest).takeWhile p = front.takeWhile p := by
  rw [List.takeWhile_append]
  split
  next hall =>
    rw [takeWhile_eq_nil hrest, List.append_nil,
      (List.takeWhile_prefix p).eq_of_length hall]
  next => rfl

theorem takeWhile_append (hfront : ∀ c ∈ front, p c = true) (hrest : Stops p rest) :
    (front ++ rest).takeWhile p = front := by
  rw [List.takeWhile_append_of_pos hfront, takeWhile_eq_nil hrest, List.append_nil]

theorem dropWhile_append (hfront : ∀ c ∈ front, p c = true) (hrest : Stops p rest) :
    (front ++ rest).dropWhile p = rest := by
  rw [List.dropWhile_append_of_pos hfront, dropWhile_eq_self hrest]

end Runs

section Ends

variable {α : Type} {p : α → Bool} {cs ds : List α}

/-- The text is empty or ends in a character of the other kind. -/
def Closes (p : α → Bool) (cs : List α) : Prop := ∀ c ∈ cs.getLast?, p c = false

instance (p : α → Bool) (cs : List α) : Decidable (Closes p cs) :=
  decidable_of_iff ((cs.getLast?.all fun c => !p c) = true)
    (by cases h : cs.getLast? <;> simp [Closes, h])

/-- The list without the elements at its end that satisfy `p`. -/
def trimBack (p : α → Bool) (cs : List α) : List α := (cs.reverse.dropWhile p).reverse

theorem trimBy_eq (p : α → Bool) (cs : List α) : trimBy p cs = trimBack p (cs.dropWhile p) := rfl

theorem trimBack_sublist (p : α → Bool) (cs : List α) : (trimBack p cs).Sublist cs := by
  have h := (List.dropWhile_sublist p (l := cs.reverse)).reverse
  rwa [List.reverse_reverse] at h

theorem trimBack_isPrefix (p : α → Bool) (cs : List α) : trimBack p cs <+: cs := by
  have h := List.reverse_prefix.mpr (List.dropWhile_suffix p (l := cs.reverse))
  rwa [List.reverse_reverse] at h

theorem closes_trimBack (p : α → Bool) (cs : List α) : Closes p (trimBack p cs) := by
  rw [Closes, trimBack, List.getLast?_reverse]
  exact stops_dropWhile p cs.reverse

theorem trimBack_eq_nil_iff : trimBack p cs = [] ↔ ∀ c ∈ cs, p c = true := by
  rw [trimBack, List.reverse_eq_nil_iff, List.dropWhile_eq_nil_iff]
  simp only [List.mem_reverse]

theorem trimBack_eq_self_iff : trimBack p cs = cs ↔ Closes p cs := by
  rw [trimBack, List.reverse_eq_iff, dropWhile_eq_self_iff, Stops, List.head?_reverse, Closes]

/-- What is trimmed twice and still whole did not end in characters of the first kind. -/
theorem closes_of_trimBack_trimBack {q : α → Bool} (h : trimBack q (trimBack p cs) = cs) :
    Closes p cs := by
  have hshort : cs.length ≤ (trimBack p cs).length := by
    conv => lhs; rw [← h]
    exact (trimBack_isPrefix q _).length_le
  exact trimBack_eq_self_iff.mp ((trimBack_isPrefix p cs).eq_of_length_le hshort)

theorem trimBack_append (h : Closes p cs) (ds : List α) :
    trimBack p (cs ++ ds) = cs ++ trimBack p ds := by
  have hcs : cs.reverse.dropWhile p = cs.reverse := by
    rw [dropWhile_eq_self_iff, Stops, List.head?_reverse]
    exact h
  rw [trimBack, List.reverse_append, List.dropWhile_append]
  split
  next hblank =>
    rw [hcs, List.reverse_reverse, trimBack, List.isEmpty_iff.mp hblank, List.reverse_nil,
      List.append_nil]
  next => rw [List.reverse_append, List.reverse_reverse, trimBack]

theorem trimBack_append_of_eq_nil (h : trimBack p ds = []) (cs : List α) :
    trimBack p (cs ++ ds) = trimBack p cs := by
  have hall : ∀ d ∈ ds.reverse, p d = true := fun d hd =>
    trimBack_eq_nil_iff.mp h d (List.mem_reverse.mp hd)
  rw [trimBack, List.reverse_append, List.dropWhile_append_of_pos hall, trimBack]

theorem trimBack_append_of_ne_nil (h : trimBack p ds ≠ []) (cs : List α) :
    trimBack p (cs ++ ds) = cs ++ trimBack p ds := by
  rw [trimBack, ne_eq, List.reverse_eq_nil_iff] at h
  rw [trimBack, List.reverse_append, List.dropWhile_append, if_neg (by simpa using h),
    List.reverse_append, List.reverse_reverse, trimBack]

/-- A text that starts with a character of the other kind still does when its end is trimmed. -/
theorem trimBack_stops_iff :
    trimBack p cs ≠ [] ∧ Stops p (trimBack p cs) ↔ cs ≠ [] ∧ Stops p cs := by
  cases cs with
  | nil => rfl
  | cons c cs =>
    rw [stops_cons, and_iff_right (List.cons_ne_nil c cs)]
    constructor
    · rintro ⟨hne, hstops⟩
      obtain ⟨d, ds, hcons⟩ := List.exists_cons_of_ne_nil hne
      have hfront : d :: ds <+: c :: cs := hcons ▸ trimBack_isPrefix p (c :: cs)
      obtain ⟨rfl, -⟩ := List.cons_prefix_cons.mp hfront
      rw [hcons] at hstops
      exact stops_cons.mp hstops
    · intro hc
      have hclose : Closes p [c] := by simpa [Closes] using hc
      have hkept : trimBack p (c :: cs) = c :: trimBack p cs := trimBack_append hclose cs
      rw [hkept]
      exact ⟨List.cons_ne_nil _ _, stops_cons.mpr hc⟩

/-- The end of a text is the end of what is put behind it. -/
theorem trimBack_append_self (hne : ds ≠ []) (h : Closes p ds) (cs : List α) :
    trimBack p (cs ++ ds) = cs ++ ds := by
  rw [trimBack_eq_self_iff, Closes, List.getLast?_append, List.getLast?_eq_some_getLast hne,
    Option.some_or, ← List.getLast?_eq_some_getLast hne]
  exact h

/-- Put behind a text that does not end in blanks, another one is trimmed at its end only. -/
theorem trimBy_append (h : Closes p cs) (hne : cs ≠ []) (ds : List α) :
    trimBy p (cs ++ ds) = trimBy p cs ++ trimBack p ds := by
  have hsplit : cs.takeWhile p ++ cs.dropWhile p = cs := List.takeWhile_append_dropWhile
  have hfront : cs.dropWhile p ≠ [] := by
    intro hnil
    have hall : (cs.takeWhile p).all p = true := List.all_takeWhile
    rw [hnil, List.append_nil] at hsplit
    rw [hsplit, List.all_eq_true] at hall
    have hblank := hall _ (List.getLast_mem hne)
    rw [h _ (List.getLast_mem_getLast? hne)] at hblank
    cases hblank
  have hsame : (cs.dropWhile p).getLast? = cs.getLast? := by
    conv => rhs; rw [← hsplit]
    rw [List.getLast?_append, List.getLast?_eq_some_getLast hfront, Option.some_or]
  have hend : Closes p (cs.dropWhile p) := by
    rw [Closes, hsame]
    exact h
  rw [trimBy_eq, trimBy_eq, List.dropWhile_append, if_neg (by simpa using hfront),
    trimBack_append hend, trimBack_eq_self_iff.mpr hend]

theorem trimBy_eq_self (hstart : Stops p cs) (hend : Closes p cs) : trimBy p cs = cs := by
  rw [trimBy_eq, dropWhile_eq_self hstart, trimBack_eq_self_iff.mpr hend]

theorem stops_trimBy (p : α → Bool) (cs : List α) : Stops p (trimBy p cs) :=
  (stops_dropWhile p cs).of_isPrefix (trimBack_isPrefix p _)

theorem closes_trimBy (p : α → Bool) (cs : List α) : Closes p (trimBy p cs) :=
  closes_trimBack p _

theorem toList_trim (s : String) : (trim s).toList = trimBy isBlank s.toList :=
  String.toList_ofList

theorem toList_trimEnd (c : Char) (s : String) :
    (trimEnd c s).toList = trimBack (· == c) s.toList :=
  String.toList_ofList

theorem trim_eq_self {s : String} (hstart : Stops isBlank s.toList)
    (hend : Closes isBlank s.toList) : trim s = s := by
  rw [trim, trimBy_eq_self hstart hend, String.ofList_toList]

theorem trim_trim (s : String) : trim (trim s) = trim s := by
  apply trim_eq_self
  · rw [toList_trim]
    exact stops_trimBy isBlank s.toList
  · rw [toList_trim]
    exact closes_trimBy isBlank s.toList

end Ends

section Leads

variable {lead cs rest : List Char}

theorem dropLead?_eq_some_iff : dropLead? lead cs = some rest ↔ cs = lead ++ rest := by
  induction lead generalizing cs with
  | nil => simp [dropLead?]
  | cons l lead ih =>
    cases cs with
    | nil => simp [dropLead?]
    | cons c cs =>
      rw [dropLead?, List.cons_append, List.cons.injEq]
      split
      next h => rw [ih, and_iff_right h.symm]
      next h => simp [Ne.symm h]

theorem startsWith_iff {lead s : String} :
    startsWith lead s = true ↔ lead.toList <+: s.toList := by
  rw [startsWith, Option.isSome_iff_exists]
  exact exists_congr fun rest => dropLead?_eq_some_iff.trans eq_comm

end Leads

section First

variable {sep : Char} {cs before after : List Char}

theorem splitFirst?_eq_none_iff : splitFirst? sep cs = none ↔ sep ∉ cs := by
  induction cs with
  | nil => simp [splitFirst?]
  | cons c rest ih =>
    rw [splitFirst?]
    by_cases hc : c = sep
    · simp [hc]
    · simp [hc, Ne.symm hc, ih]

theorem splitFirst?_append (h : sep ∉ before) :
    splitFirst? sep (before ++ sep :: after) = some (before, after) := by
  induction before with
  | nil => simp [splitFirst?]
  | cons c rest ih =>
    rw [List.mem_cons, not_or] at h
    rw [List.cons_append, splitFirst?, if_neg (Ne.symm h.1), ih h.2, Option.map_some]

theorem eq_append_of_splitFirst? (h : splitFirst? sep cs = some (before, after)) :
    cs = before ++ sep :: after ∧ sep ∉ before := by
  induction cs generalizing before with
  | nil => cases h
  | cons c rest ih =>
    rw [splitFirst?] at h
    by_cases hc : c = sep
    · rw [if_pos hc] at h
      cases h
      exact ⟨by rw [hc, List.nil_append], List.not_mem_nil⟩
    · rw [if_neg hc, Option.map_eq_some_iff] at h
      obtain ⟨⟨inner, behind⟩, hsplit, heq⟩ := h
      cases heq
      obtain ⟨rfl, hinner⟩ := ih hsplit
      exact ⟨rfl, List.not_mem_cons_of_ne_of_not_mem (Ne.symm hc) hinner⟩

/-- What is put behind a text that is split stands behind its first separator. -/
theorem splitFirst?_append_right (h : splitFirst? sep cs = some (before, after))
    (tail : List Char) : splitFirst? sep (cs ++ tail) = some (before, after ++ tail) := by
  obtain ⟨rfl, hbefore⟩ := eq_append_of_splitFirst? h
  rw [List.append_assoc, List.cons_append, splitFirst?_append hbefore]

/-- A first piece is split off at the separator behind it. -/
theorem splitOnChar_front (h : sep ∉ before) (after : List Char) :
    splitOnChar sep (before ++ sep :: after) = before :: splitOnChar sep after := by
  induction before with
  | nil => rw [List.nil_append, splitOnChar, if_pos rfl]
  | cons c rest ih =>
    rw [List.mem_cons, not_or] at h
    rw [List.cons_append, splitOnChar, if_neg (Ne.symm h.1), ih h.2]

end First
end DeployDrift.Text
