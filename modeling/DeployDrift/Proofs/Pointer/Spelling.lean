import DeployDrift.Proofs.Pointer.Tokens
import Mathlib.Data.List.Basic
import Mathlib.Data.List.Induction

/-!
# How pointers are spelled

An index has one spelling only, and so has a field name if every tilde in it belongs to an escape.
Two pointers that keep to this are the same if their tokens are.  A removal alone reads more: digits
behind a plus sign or a superfluous zero, where a look-up finds no index.
-/
namespace DeployDrift

namespace Text

section Digits

variable {cs cs' : List Char}

theorem decimalValue_append (cs : List Char) (c : Char) :
    decimalValue (cs ++ [c]) = 10 * decimalValue cs + (c.toNat - '0'.toNat) := by
  rw [decimalValue, List.foldl_append]
  rfl

theorem isDigit_bounds {c : Char} (h : c.isDigit = true) :
    '0'.toNat ≤ c.toNat ∧ c.toNat ≤ '0'.toNat + 9 := by
  simp only [Char.isDigit, Bool.and_eq_true, decide_eq_true_eq] at h
  exact h

/-- Digits without a zero in front are not those of zero. -/
theorem decimalValue_pos (hne : cs ≠ []) (hd : cs.all Char.isDigit = true)
    (hzero : cs.head? ≠ some '0') : 0 < decimalValue cs := by
  induction cs using List.reverseRecOn with
  | nil => exact absurd rfl hne
  | append_singleton rest c ih =>
    rw [List.all_append, Bool.and_eq_true] at hd
    rw [decimalValue_append]
    cases rest with
    | nil =>
      have hbounds := isDigit_bounds (c := c) (by simpa using hd.2)
      have hcode : c.toNat ≠ '0'.toNat := fun h => by simp [Char.toNat_inj.mp h] at hzero
      omega
    | cons d rest =>
      have hpos := ih (List.cons_ne_nil d rest) hd.1 (by simpa using hzero)
      omega

/-- A number has one spelling without superfluous zeros. -/
theorem eq_of_decimalValue_eq (hd : cs.all Char.isDigit = true) (hd' : cs'.all Char.isDigit = true)
    (hzero : cs.head? ≠ some '0') (hzero' : cs'.head? ≠ some '0')
    (h : decimalValue cs = decimalValue cs') : cs = cs' := by
  induction cs using List.reverseRecOn generalizing cs' with
  | nil =>
    by_contra hne
    have hpos := decimalValue_pos (Ne.symm hne) hd' hzero'
    rw [← h] at hpos
    exact absurd hpos (by decide)
  | append_singleton rest c ih =>
    rcases List.eq_nil_or_concat cs' with rfl | ⟨rest', c', rfl⟩
    · have hpos := decimalValue_pos (by simp) hd hzero
      rw [h] at hpos
      exact absurd hpos (by decide)
    · rw [List.concat_eq_append] at *
      rw [List.all_append, Bool.and_eq_true] at hd hd'
      have hbounds := isDigit_bounds (c := c) (by simpa using hd.2)
      have hbounds' := isDigit_bounds (c := c') (by simpa using hd'.2)
      rw [decimalValue_append, decimalValue_append] at h
      have hlast : c = c' := Char.toNat_inj.mp (by omega)
      have hhead : ∀ {ds : List Char} {d : Char}, (ds ++ [d]).head? ≠ some '0' →
          ds.head? ≠ some '0' := by
        intro ds d hds
        cases ds with
        | nil => simp
        | cons e ds => simpa using hds
      rw [hlast, ih hd.1 hd'.1 (hhead hzero) (hhead hzero') (by omega)]

end Digits

section Split

variable {sep : Char} {cs piece : List Char}

theorem length_splitOnChar (sep : Char) (cs : List Char) :
    (splitOnChar sep cs).length = cs.count sep + 1 := by
  induction cs with
  | nil => rfl
  | cons c rest ih =>
    rw [splitOnChar, List.count_cons]
    by_cases hc : c = sep
    · simp [hc, ih]
    · rw [if_neg hc]
      cases hpieces : splitOnChar sep rest with
      | nil => exact absurd hpieces (splitOnChar_ne_nil sep rest)
      | cons piece pieces =>
        rw [hpieces] at ih
        simpa [hc] using ih

/-- Written behind separators, the pieces are the text again. -/
theorem flatMap_splitOnChar (sep : Char) (cs : List Char) :
    (splitOnChar sep cs).flatMap (sep :: ·) = sep :: cs := by
  induction cs with
  | nil => rfl
  | cons c rest ih =>
    rw [splitOnChar]
    by_cases hc : c = sep
    · rw [if_pos hc, List.flatMap_cons, ih, hc]
      rfl
    · rw [if_neg hc]
      cases hpieces : splitOnChar sep rest with
      | nil => exact absurd hpieces (splitOnChar_ne_nil sep rest)
      | cons piece pieces =>
        rw [hpieces, List.flatMap_cons] at ih
        simpa using ih

theorem not_mem_of_mem_splitOnChar (h : piece ∈ splitOnChar sep cs) : sep ∉ piece := by
  induction cs generalizing piece with
  | nil =>
    rw [splitOnChar, List.mem_singleton] at h
    simp [h]
  | cons c rest ih =>
    rw [splitOnChar] at h
    by_cases hc : c = sep
    · rw [if_pos hc] at h
      rcases List.mem_cons.mp h with rfl | h
      · simp
      · exact ih h
    · rw [if_neg hc] at h
      cases hpieces : splitOnChar sep rest with
      | nil => exact absurd hpieces (splitOnChar_ne_nil sep rest)
      | cons first pieces =>
        rw [hpieces] at h ih
        rcases List.mem_cons.mp h with rfl | h
        · have hfirst : sep ∉ first := ih List.mem_cons_self
          simp [Ne.symm hc, hfirst]
        · exact ih (List.mem_cons_of_mem first h)

end Split

end Text

namespace Pointer

section Indexes

variable {token token' : String} {cs : List Char} {i : Nat}

/-- A decimal number with a plus sign or a superfluous zero in front. -/
def isLooseNumber : List Char → Bool
  | '+' :: cs => Text.isDecimal cs
  | '0' :: cs => Text.isDecimal cs
  | _ => false

theorem indexOfDigits?_eq_some (h : indexOfDigits? cs = some i) :
    Text.isDecimal cs = true ∧ Text.decimalValue cs = i := by
  unfold indexOfDigits? at h
  split at h
  next hdigits =>
    rw [Bool.and_eq_true] at hdigits
    exact ⟨hdigits.1, Option.some.inj h⟩
  next => cases h

/-- An index is written in digits without superfluous zeros. -/
theorem index?_eq_some (h : index? token = some i) :
    token.toList.all Char.isDigit = true ∧ Text.decimalValue token.toList = i ∧
      (token.toList = ['0'] ∨ token.toList ≠ [] ∧ token.toList.head? ≠ some '0') := by
  unfold index? at h
  split at h
  next heq =>
    cases h
    rw [heq]
    exact ⟨rfl, rfl, .inl rfl⟩
  next => cases h
  next hzero =>
    obtain ⟨hdecimal, hvalue⟩ := indexOfDigits?_eq_some h
    simp only [Text.isDecimal, Bool.and_eq_true, Bool.not_eq_true', List.isEmpty_eq_false_iff]
      at hdecimal
    refine ⟨hdecimal.2, hvalue, .inr ⟨hdecimal.1, fun hhead => ?_⟩⟩
    obtain ⟨rest, hrest⟩ := List.head?_eq_some_iff.mp hhead
    exact hzero rest hrest

/-- An index has one spelling. -/
theorem index?_injective (h : index? token = some i) (h' : index? token' = some i) :
    token = token' := by
  obtain ⟨hdigits, hvalue, hspelling⟩ := index?_eq_some h
  obtain ⟨hdigits', hvalue', hspelling'⟩ := index?_eq_some h'
  have hzero : Text.decimalValue ['0'] = 0 := rfl
  apply String.toList_inj.mp
  rcases hspelling with hspelling | ⟨hne, hhead⟩
  · rcases hspelling' with hspelling' | ⟨hne', hhead'⟩
    · rw [hspelling, hspelling']
    · have hpos := Text.decimalValue_pos hne' hdigits' hhead'
      rw [hspelling, hzero] at hvalue
      omega
  · rcases hspelling' with hspelling' | ⟨hne', hhead'⟩
    · have hpos := Text.decimalValue_pos hne hdigits hhead
      rw [hspelling', hzero] at hvalue'
      omega
    · exact Text.eq_of_decimalValue_eq hdigits hdigits' hhead hhead' (hvalue.trans hvalue'.symm)

theorem index?_ofList (hzero : ∀ ds, cs ≠ '0' :: ds) :
    index? (String.ofList cs) = indexOfDigits? cs := by
  unfold index?
  rw [String.toList_ofList]
  split
  next => exact absurd rfl (hzero [])
  next ds _ => exact absurd rfl (hzero ds)
  next => rfl

theorem isDecimal_cons_of_not {c : Char} {ds : List Char} (hne : ds ≠ [])
    (h : Text.isDecimal ds = false) : Text.isDecimal (c :: ds) = false := by
  have hall : ds.all Char.isDigit = false := by simpa [Text.isDecimal, hne] using h
  simp only [Text.isDecimal, List.all_cons, hall, Bool.and_false]

/-- Look-ups and removals read a token alike unless it is a number loosely written. -/
theorem looseIndex?_eq_index? (h : isLooseNumber cs = false) :
    looseIndex? cs = index? (String.ofList cs) := by
  unfold isLooseNumber at h
  split at h
  next ds =>
    have hplus : Text.isDecimal ('+' :: ds) = false := by simp [Text.isDecimal]
    rw [index?_ofList (by simp), indexOfDigits?_eq_none hplus]
    exact indexOfDigits?_eq_none h
  next ds =>
    cases ds with
    | nil => rfl
    | cons d ds =>
      have hdecimal := isDecimal_cons_of_not (c := '0') (List.cons_ne_nil d ds) h
      unfold index?
      rw [String.toList_ofList]
      exact indexOfDigits?_eq_none hdecimal
  next hplus hzero =>
    rw [index?_ofList hzero]
    unfold looseIndex?
    split
    next ds => exact absurd rfl (hplus ds)
    next => rfl

theorem index?_of_isLooseNumber (h : isLooseNumber cs = true) :
    index? (String.ofList cs) = none := by
  unfold isLooseNumber at h
  split at h
  next ds =>
    have hplus : Text.isDecimal ('+' :: ds) = false := by simp [Text.isDecimal]
    rw [index?_ofList (by simp), indexOfDigits?_eq_none hplus]
  next ds =>
    cases ds with
    | nil => cases h
    | cons d ds =>
      unfold index?
      rw [String.toList_ofList]
      rfl
  next => cases h

end Indexes

section Escapes

variable {cs cs' : List Char} {tokens : List String}

/-- Every tilde is followed by `0` or `1`. -/
def escapesValid : List Char → Bool
  | [] => true
  | c :: cs => (c != '~' || cs.head? == some '0' || cs.head? == some '1') && escapesValid cs

/-- The escaped text of a token. -/
def escape : List Char → List Char
  | [] => []
  | c :: cs =>
    (if c = '/' then ['~', '1'] else if c = '~' then ['~', '0'] else [c]) ++ escape cs

theorem escapesValid_cons {c : Char} :
    escapesValid (c :: cs) = true ↔
      (c = '~' → cs.head? = some '0' ∨ cs.head? = some '1') ∧ escapesValid cs = true := by
  simp [escapesValid, imp_iff_not_or, or_assoc]

/-- A valid escaped text is the only spelling of its token. -/
theorem escape_unescape (h : escapesValid cs = true) (hslash : '/' ∉ cs) :
    escape (unescape cs) = cs := by
  induction cs using unescape.induct with
  | case1 cs ih =>
    have hrest := (escapesValid_cons.mp (escapesValid_cons.mp h).2).2
    rw [unescape, escape, ih hrest (fun hm => hslash (by simp [hm]))]
    rfl
  | case2 cs ih =>
    have hrest := (escapesValid_cons.mp (escapesValid_cons.mp h).2).2
    rw [unescape, escape, ih hrest (fun hm => hslash (by simp [hm]))]
    rfl
  | case3 c cs hone hzero ih =>
    obtain ⟨htilde, hrest⟩ := escapesValid_cons.mp h
    have hc : c ≠ '/' := fun heq => hslash (by simp [heq])
    have hplain : c ≠ '~' := by
      intro heq
      rcases htilde heq with hhead | hhead
      · obtain ⟨rest, rfl⟩ := List.head?_eq_some_iff.mp hhead
        exact hzero rest heq rfl
      · obtain ⟨rest, rfl⟩ := List.head?_eq_some_iff.mp hhead
        exact hone rest heq rfl
    rw [unescape, escape, ih hrest (fun hm => hslash (by simp [hm])), if_neg hc, if_neg hplain]
    · rfl
    · exact hone
    · exact hzero
  | case4 => rfl

theorem escape_of_digits (h : cs.all Char.isDigit = true) : escape cs = cs := by
  induction cs with
  | nil => rfl
  | cons c rest ih =>
    rw [List.all_cons, Bool.and_eq_true] at h
    have hslash : c ≠ '/' := fun hc => absurd (hc ▸ h.1) (by decide)
    have htilde : c ≠ '~' := fun hc => absurd (hc ▸ h.1) (by decide)
    rw [escape, if_neg hslash, if_neg htilde, ih h.2]
    rfl

/-- A token that is an index is written in the same digits without its escapes. -/
theorem looseIndex?_of_index?_token {i : Nat} (h : escapesValid cs = true) (hslash : '/' ∉ cs)
    (hi : index? (token cs) = some i) : looseIndex? cs = some i := by
  obtain ⟨hdigits, -, -⟩ := index?_eq_some hi
  rw [token, String.toList_ofList] at hdigits
  have hcs : unescape cs = cs := (escape_of_digits hdigits).symm.trans (escape_unescape h hslash)
  rw [token, hcs] at hi
  cases hloose : isLooseNumber cs with
  | false => rw [looseIndex?_eq_index? hloose, hi]
  | true =>
    rw [index?_of_isLooseNumber hloose] at hi
    cases hi

theorem escapesValid_of_append {before after : List Char}
    (h : escapesValid (before ++ '/' :: after) = true) :
    escapesValid before = true ∧ escapesValid after = true := by
  induction before with
  | nil => exact ⟨rfl, (escapesValid_cons.mp h).2⟩
  | cons c rest ih =>
    rw [List.cons_append, escapesValid_cons] at h
    obtain ⟨hrest, hafter⟩ := ih h.2
    refine ⟨escapesValid_cons.mpr ⟨fun hc => ?_, hrest⟩, hafter⟩
    have hhead := h.1 hc
    cases rest with
    | nil => simp at hhead
    | cons d rest => exact hhead

/-- No escape is cut in two by a separator. -/
theorem escapesValid_of_mem_splitOnChar (h : escapesValid cs = true) :
    ∀ piece ∈ Text.splitOnChar '/' cs, escapesValid piece = true := by
  induction cs with
  | nil => simp [Text.splitOnChar, escapesValid]
  | cons c rest ih =>
    obtain ⟨htilde, hrest⟩ := escapesValid_cons.mp h
    have hpieces := ih hrest
    rw [Text.splitOnChar]
    by_cases hc : c = '/'
    · rw [if_pos hc]
      exact List.forall_mem_cons.mpr ⟨rfl, hpieces⟩
    · rw [if_neg hc]
      cases hsplit : Text.splitOnChar '/' rest with
      | nil => exact absurd hsplit (Text.splitOnChar_ne_nil '/' rest)
      | cons first pieces =>
        rw [hsplit] at hpieces
        obtain ⟨hfirst, hpieces⟩ := List.forall_mem_cons.mp hpieces
        refine List.forall_mem_cons.mpr ⟨escapesValid_cons.mpr ⟨fun heq => ?_, hfirst⟩, hpieces⟩
        -- what follows a tilde is no separator, and so it is in the same piece
        have hhead : ∀ d, d ≠ '/' → rest.head? = some d → first.head? = some d := by
          intro d hd hhead
          obtain ⟨tail, rfl⟩ := List.head?_eq_some_iff.mp hhead
          rw [Text.splitOnChar, if_neg hd] at hsplit
          split at hsplit
          · cases hsplit
            rfl
          · cases hsplit
            rfl
        exact (htilde heq).imp (hhead '0' (by decide)) (hhead '1' (by decide))

/-- The pointer with the given tokens. -/
def spell (tokens : List String) : List Char :=
  tokens.flatMap fun token => '/' :: escape token.toList

/-- A valid pointer is the only spelling of its tokens. -/
theorem spell_of_tokens? (h : escapesValid cs = true) (ht : tokens? cs = some tokens) :
    spell tokens = cs := by
  cases cs with
  | nil =>
    cases ht
    rfl
  | cons c rest =>
    by_cases hc : c = '/'
    · subst hc
      have hvalid := escapesValid_of_mem_splitOnChar (escapesValid_cons.mp h).2
      cases ht
      rw [spell, List.flatMap_map, ← Text.flatMap_splitOnChar]
      apply List.flatMap_congr
      intro piece hm
      rw [token, String.toList_ofList,
        escape_unescape (hvalid piece hm) (Text.not_mem_of_mem_splitOnChar hm)]
    · simp [tokens?, hc] at ht

/-- Pointers without stray tildes are the same if their tokens are. -/
theorem eq_of_tokens?_eq (h : escapesValid cs = true) (h' : escapesValid cs' = true)
    (ht : tokens? cs = some tokens) (ht' : tokens? cs' = some tokens) : cs = cs' :=
  (spell_of_tokens? h ht).symm.trans (spell_of_tokens? h' ht')

/-- There are as many tokens as slashes. -/
theorem length_of_tokens? (ht : tokens? cs = some tokens) : tokens.length = cs.count '/' := by
  cases cs with
  | nil =>
    cases ht
    rfl
  | cons c rest =>
    by_cases hc : c = '/'
    · subst hc
      cases ht
      simp [Text.length_splitOnChar]
    · simp [tokens?, hc] at ht

end Escapes

end Pointer

end DeployDrift
