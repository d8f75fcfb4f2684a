import DeployDrift.Proofs.Drift.Convergence
import DeployDrift.Proofs.Pointer.Agreement
import Mathlib.Data.Char
import Mathlib.Data.List.Lex
import Mathlib.Data.Prod.Lex
import Mathlib.Order.WithBot

/-!
# Ignored fields go all at once

Pointers are removed one after another, but in an order in which no removal moves what a later
pointer leads to: the deeper come first, and of the elements of one list those further right.  So
what is left is the object without everything that any of the pointers leads to in the object as it
was, and the order and the repetition of the pointers do not matter.
-/
namespace DeployDrift

namespace RemovalRank

variable {a b : RemovalRank}

/-- The place of an index among indexes in descending order, behind what is no index. -/
def descending (index : Option Nat) : WithBot ℕᵒᵈ := index.map .toDual

/-- A rank as a tuple that is compared in lexicographic order. -/
def sortKey (rank : RemovalRank) : ℕᵒᵈ ×ₗ List Char ×ₗ WithBot ℕᵒᵈ ×ₗ List Char :=
  toLex (.toDual rank.depth, toLex (rank.parent, toLex (descending rank.index, rank.last)))

theorem descending_injective : Function.Injective descending :=
  Option.map_injective OrderDual.toDual.injective

theorem sortKey_injective : Function.Injective sortKey := by
  intro a b h
  obtain ⟨depth, parent, index, last⟩ := a
  obtain ⟨depth', parent', index', last'⟩ := b
  simp only [sortKey, EmbeddingLike.apply_eq_iff_eq, Prod.mk.injEq,
    descending_injective.eq_iff] at h
  obtain ⟨rfl, rfl, rfl, rfl⟩ := h
  rfl

theorem indexLe_iff (i j : Option Nat) : indexLe i j = true ↔ descending i ≤ descending j := by
  cases i with
  | none => exact iff_of_true rfl bot_le
  | some i =>
    cases j with
    | none => exact iff_of_false (by simp [indexLe]) (WithBot.not_coe_le_bot _)
    | some j =>
      rw [indexLe, decide_eq_true_iff]
      exact (WithBot.coe_le_coe.trans OrderDual.toDual_le_toDual).symm

/-- Ranks are compared as their sort keys are, in lexicographic order. -/
theorem le_iff (a b : RemovalRank) : a.le b = true ↔ a.sortKey ≤ b.sortKey := by
  rw [sortKey, sortKey, Prod.Lex.toLex_le_toLex, Prod.Lex.toLex_le_toLex, Prod.Lex.toLex_le_toLex,
    le]
  by_cases hdepth : a.depth = b.depth
  · rw [if_neg (not_not.mpr hdepth)]
    by_cases hparent : a.parent = b.parent
    · rw [if_neg (not_not.mpr hparent)]
      by_cases hindex : a.index = b.index
      · rw [if_neg (not_not.mpr hindex)]
        simp [hdepth, hparent, hindex]
      · rw [if_pos hindex, indexLe_iff]
        have hne := descending_injective.ne hindex
        simp [hdepth, hparent, hne, le_iff_lt_or_eq]
    · rw [if_pos hparent]
      simp [hdepth, hparent]
  · rw [if_pos hdepth]
    simp [hdepth]

/-- What is removed before is not less deep. -/
theorem depth_le (h : a.le b = true) : b.depth ≤ a.depth := by
  unfold le at h
  split at h
  next => exact (of_decide_eq_true h).le
  next heq => exact (not_not.mp heq).ge

/-- In one list the elements further right are removed before. -/
theorem index_le {i j : Nat} (h : a.le b = true) (hdepth : a.depth = b.depth)
    (hparent : a.parent = b.parent) (ha : a.index = some j) (hb : b.index = some i) : i ≤ j := by
  rw [le, if_neg (not_not.mpr hdepth), if_neg (not_not.mpr hparent), ha, hb] at h
  split at h
  next => simpa [indexLe] using h
  next heq => simp at heq; omega

theorem ofPointer_of_splitLast? {pointer : String} {parent last : List Char}
    (h : Text.splitLast? '/' pointer.toList = some (parent, last)) :
    ofPointer pointer = ⟨parent.count '/' + 1, parent, Pointer.looseIndex? last, last⟩ := by
  obtain ⟨heq, hlast⟩ := Text.eq_append_of_splitLast? h
  have hcount : pointer.toList.count '/' = parent.count '/' + 1 := by
    rw [heq, List.count_append, List.count_cons_self, List.count_eq_zero.mpr hlast]
  rw [ofPointer, hcount, h]
  rfl

/-- A pointer is determined by its rank. -/
theorem ofPointer_injective : Function.Injective ofPointer := by
  intro p q h
  apply String.toList_inj.mp
  have hroot : ∀ {pointer : String}, Text.splitLast? '/' pointer.toList = none →
      ofPointer pointer = ⟨0, [], Pointer.looseIndex? pointer.toList, pointer.toList⟩ := by
    intro pointer h
    rw [ofPointer, List.count_eq_zero.mpr (Text.not_mem_of_splitLast?_eq_none h), h]
    rfl
  cases hp : Text.splitLast? '/' p.toList with
  | none =>
    cases hq : Text.splitLast? '/' q.toList with
    | none =>
      rw [hroot hp, hroot hq] at h
      exact congrArg last h
    | some split =>
      rw [hroot hp, ofPointer_of_splitLast? hq] at h
      cases congrArg depth h
  | some split =>
    cases hq : Text.splitLast? '/' q.toList with
    | none =>
      rw [ofPointer_of_splitLast? hp, hroot hq] at h
      cases congrArg depth h
    | some split' =>
      rw [ofPointer_of_splitLast? hp, ofPointer_of_splitLast? hq] at h
      have hparent := congrArg parent h
      have hlast := congrArg last h
      rw [(Text.eq_append_of_splitLast? hp).1, (Text.eq_append_of_splitLast? hq).1]
      exact congrArg₂ (· ++ '/' :: ·) hparent hlast

end RemovalRank

section Order

variable {α : Type} [DecidableEq α]

/-- Of a list in order nothing is left twice. -/
theorem pairwise_dropRepeats {r : α → α → Prop} (hanti : ∀ a b, r a b → r b a → a = b)
    {xs : List α} (h : xs.Pairwise r) : (dropRepeats xs).Pairwise fun a b => r a b ∧ a ≠ b := by
  induction xs with
  | nil => exact .nil
  | cons x rest ih =>
    cases rest with
    | nil => exact List.pairwise_singleton _ x
    | cons y rest =>
      obtain ⟨hx, hrest⟩ := List.pairwise_cons.mp h
      rw [dropRepeats]
      split
      next => exact ih hrest
      next hne =>
        refine List.pairwise_cons.mpr ⟨fun z hz => ?_, ih hrest⟩
        rw [mem_dropRepeats] at hz
        refine ⟨hx z hz, ?_⟩
        rintro rfl
        rcases List.mem_cons.mp hz with heq | hz
        · exact hne heq
        · exact hne (hanti x y (hx y List.mem_cons_self)
            ((List.pairwise_cons.mp hrest).1 x hz))

/-- Of two pointers the one with the lesser rank is removed first, and none is removed twice. -/
theorem pairwise_removalOrder (pointers : List String) :
    (removalOrder pointers).Pairwise fun q p =>
      (RemovalRank.ofPointer q).le (RemovalRank.ofPointer p) = true ∧ q ≠ p := by
  apply pairwise_dropRepeats
  · intro q p hqp hpq
    rw [RemovalRank.le_iff] at hqp hpq
    exact RemovalRank.ofPointer_injective (RemovalRank.sortKey_injective (le_antisymm hqp hpq))
  · apply List.pairwise_mergeSort
    · intro a b c hab hbc
      rw [RemovalRank.le_iff] at hab hbc ⊢
      exact hab.trans hbc
    · intro a b
      rw [Bool.or_eq_true, RemovalRank.le_iff, RemovalRank.le_iff]
      exact le_total _ _

end Order

namespace Pointer

/-- Every tilde belongs to an escape, and the last token is no number loosely written. -/
def Strict (pointer : String) : Prop :=
  escapesValid pointer.toList = true ∧
    ∀ tokens ∈ tokens? pointer.toList, ∀ token ∈ tokens.getLast?,
      isLooseNumber token.toList = false

instance (pointer : String) : Decidable (Strict pointer) :=
  inferInstanceAs (Decidable (_ ∧ ∀ tokens ∈ tokens? pointer.toList, _))

end Pointer

namespace Document

/-- One of the pointers, and not an empty one, leads to the position. -/
def isLocated (d : Document) (pointers : List String) (position : List Slot) : Bool :=
  pointers.any fun pointer => pointer != "" && d.locate? pointer == some position

section Located

variable {d : Document} {p q : String} {above : List Slot} {i j : Nat}

/-- A pointer to an element ends with its index, behind a pointer to the list. -/
theorem exists_parent_of_locate? (h : d.locate? p = some (above ++ [.element i])) :
    ∃ parent last tokens, Text.splitLast? '/' p.toList = some (parent, last) ∧
      Pointer.tokens? parent = some tokens ∧ d.position? tokens = some above ∧
      Pointer.index? (Pointer.token last) = some i := by
  obtain ⟨all, hall, hposition⟩ := Option.bind_eq_some_iff.mp h
  cases hsplit : Text.splitLast? '/' p.toList with
  | none =>
    have hlength := length_of_position? hposition
    rw [Pointer.eq_nil_of_splitLast?_eq_none hsplit hall] at hlength
    simp at hlength
  | some split =>
    obtain ⟨parent, last⟩ := split
    rw [Pointer.tokens?_eq_of_splitLast? hsplit] at hall
    obtain ⟨tokens, htokens, rfl⟩ := Option.map_eq_some_iff.mp hall
    rw [position?_append] at hposition
    obtain ⟨above', habove, hposition⟩ := Option.bind_eq_some_iff.mp hposition
    obtain ⟨c, hc, hposition⟩ := Option.bind_eq_some_iff.mp hposition
    obtain ⟨below, hbelow, heq⟩ := Option.map_eq_some_iff.mp hposition
    obtain ⟨slot, c', rest, hslot, -, hrest, rfl⟩ := position?_cons_eq_some.mp hbelow
    cases hrest
    obtain ⟨rfl, hlast⟩ := List.append_inj' heq rfl
    cases hlast
    refine ⟨parent, last, tokens, rfl, htokens, habove, ?_⟩
    cases c with
    | list items =>
      obtain ⟨i, hi, heq⟩ := Option.map_eq_some_iff.mp hslot
      cases heq
      exact hi
    | _ => cases hslot

/-- Of two elements of one list the one further right is removed first. -/
theorem index_lt_of_locate? (hp : Pointer.Strict p) (hq : Pointer.Strict q)
    (hle : (RemovalRank.ofPointer q).le (RemovalRank.ofPointer p) = true) (hne : q ≠ p)
    (hpi : d.locate? p = some (above ++ [.element i]))
    (hqj : d.locate? q = some (above ++ [.element j])) : i < j := by
  obtain ⟨parent, last, tokens, hsplit, htokens, habove, hi⟩ := exists_parent_of_locate? hpi
  obtain ⟨parent', last', tokens', hsplit', htokens', habove', hj⟩ := exists_parent_of_locate? hqj
  obtain ⟨heq, hlast⟩ := Text.eq_append_of_splitLast? hsplit
  obtain ⟨heq', hlast'⟩ := Text.eq_append_of_splitLast? hsplit'
  have hvalid := Pointer.escapesValid_of_append (heq ▸ hp.1)
  have hvalid' := Pointer.escapesValid_of_append (heq' ▸ hq.1)
  -- one list, so the tokens that lead to it are the same, and so are their spellings
  cases position?_injective habove habove'
  cases Pointer.eq_of_tokens?_eq hvalid.1 hvalid'.1 htokens htokens'
  rw [RemovalRank.ofPointer_of_splitLast? hsplit,
    RemovalRank.ofPointer_of_splitLast? hsplit'] at hle
  have hle : i ≤ j := RemovalRank.index_le hle rfl rfl
    (Pointer.looseIndex?_of_index?_token hvalid'.2 hlast' hj)
    (Pointer.looseIndex?_of_index?_token hvalid.2 hlast hi)
  refine lt_of_le_of_ne hle fun hij => hne ?_
  subst hij
  obtain ⟨all, hall, hposition⟩ := Option.bind_eq_some_iff.mp hpi
  obtain ⟨all', hall', hposition'⟩ := Option.bind_eq_some_iff.mp hqj
  cases position?_injective hposition hposition'
  exact String.toList_inj.mp (Pointer.eq_of_tokens?_eq hq.1 hp.1 hall' hall)

theorem length_of_locate? {position : List Slot} (h : d.locate? p = some position) :
    position.length = p.toList.count '/' := by
  obtain ⟨tokens, htokens, hposition⟩ := Option.bind_eq_some_iff.mp h
  rw [length_of_position? hposition, Pointer.length_of_tokens? htokens]

/-- A strict pointer removes the part that it leads to in the whole document, if what is gone
already lies deeper, as deep elsewhere, or further right in the same list. -/
theorem remove_without {gone : List Slot → Bool} (hp : Pointer.Strict p) (hw : d.WellFormed)
    (hdeep : ∀ σ, gone σ = true → p.toList.count '/' ≤ σ.length)
    (hafter : ∀ above i j, d.locate? p = some (above ++ [.element i]) →
      gone (above ++ [.element j]) = true → i < j) :
    (d.without gone).remove p =
      d.without fun σ => gone σ || (p != "" && d.locate? p == some σ) := by
  rcases remove_cases p with ⟨tokens, last, htokens, hremove⟩ | ⟨hnil, hremove⟩
  · have hlast : Pointer.isLooseNumber last = false := by
      have hstrict := hp.2 _ htokens (String.ofList last) (by simp)
      rwa [String.toList_ofList] at hstrict
    have hlocate : d.removalPosition? last tokens = d.locate? p := by
      rw [removalPosition?_eq_position? (Pointer.looseIndex?_eq_index? hlast), locate?, htokens]
      rfl
    have hlength := Pointer.length_of_tokens? htokens
    rw [List.length_append, List.length_singleton] at hlength
    have hne : p ≠ "" := by
      rintro rfl
      have hroot : "".toList.count '/' = 0 := rfl
      omega
    have hremoved : removeAt tokens last (d.without gone) =
        d.without fun σ => gone σ || d.removalPosition? last tokens == some σ := by
      apply removeAt_without hw
      · intro σ hσ
        have hle := hdeep σ hσ
        omega
      · rw [hlocate]
        exact hafter
    rw [hremove, hremoved, hlocate, bne_iff_ne.mpr hne]
    rfl
  · have hnowhere : ∀ σ, (p != "" && d.locate? p == some σ) = false := by
      intro σ
      rw [Bool.and_eq_false_imp, bne_iff_ne]
      intro hne
      have hnone : Pointer.tokens? p.toList = none := by
        cases htokens : Pointer.tokens? p.toList with
        | none => rfl
        | some tokens =>
          cases hnil tokens htokens
          exact absurd htokens (Pointer.tokens?_ne_nil hne)
      rw [locate?, hnone]
      rfl
    simp only [hremove, hnowhere, Bool.or_false]

/-- Removed one after another in their order, strict pointers take away what each of them leads to
in the document as it was. -/
theorem removeEach_eq_without {pointers : List String} (hw : d.WellFormed)
    (hstrict : ∀ p ∈ pointers, Pointer.Strict p)
    (horder : pointers.Pairwise fun q p =>
      (RemovalRank.ofPointer q).le (RemovalRank.ofPointer p) = true ∧ q ≠ p) :
    d.removeEach pointers = d.without (d.isLocated pointers) := by
  induction pointers using List.reverseRecOn with
  | nil => exact (without_none d).symm
  | append_singleton before p ih =>
    obtain ⟨hbefore, -, hlast⟩ := List.pairwise_append.mp horder
    have hrest : d.removeEach before = d.without (d.isLocated before) :=
      ih (fun q hq => hstrict q (List.mem_append_left _ hq)) hbefore
    have hfirst : ∀ σ, d.isLocated before σ = true → ∃ q ∈ before, d.locate? q = some σ := by
      intro σ hσ
      obtain ⟨q, hq, hlocated⟩ := List.any_eq_true.mp hσ
      rw [Bool.and_eq_true, beq_iff_eq] at hlocated
      exact ⟨q, hq, hlocated.2⟩
    have hp := hstrict p (by simp)
    have hlater : d.removeEach (before ++ [p]) = (d.removeEach before).remove p :=
      List.foldl_append
    have hlocated : (fun σ => d.isLocated before σ || (p != "" && d.locate? p == some σ)) =
        d.isLocated (before ++ [p]) := by
      funext σ
      simp [isLocated]
    rw [hlater, hrest, ← hlocated]
    apply remove_without hp hw
    · intro σ hσ
      obtain ⟨q, hq, hlocated⟩ := hfirst σ hσ
      rw [length_of_locate? hlocated]
      exact RemovalRank.depth_le (hlast q hq p (by simp)).1
    · intro above i j hlocate hgone
      obtain ⟨q, hq, hlocated⟩ := hfirst _ hgone
      obtain ⟨hle, hne⟩ := hlast q hq p (by simp)
      exact index_lt_of_locate? hp (hstrict q (List.mem_append_left _ hq)) hle hne hlocate hlocated

theorem isLocated_congr {pointers pointers' : List String}
    (h : ∀ p, p ∈ pointers ↔ p ∈ pointers') (d : Document) :
    d.isLocated pointers = d.isLocated pointers' := by
  funext σ
  rw [isLocated, isLocated, Bool.eq_iff_iff, List.any_eq_true, List.any_eq_true]
  simp only [h]

end Located

end Document

namespace ResourceObject

variable {key : ResourceKey} {config : DriftConfig}

theorem document_normalize_eq_without (hroles : config.ignoreAggregatedRoles = false)
    (hstrict : ∀ pointer ∈ config.ignoredPointers key, Pointer.Strict pointer)
    (o : ResourceObject) :
    (o.normalize key config).document =
      o.document.without (o.document.isLocated (config.ignoredPointers key)) := by
  rw [document_normalize_eq_removeEach hroles,
    Document.removeEach_eq_without (d := o.document) o.wellFormed
      (fun p hp => hstrict p (mem_removalOrder.mp hp)) (pairwise_removalOrder _),
    Document.isLocated_congr (fun p => mem_removalOrder)]

/-- What is ignored goes all at once: an object is normalized by taking out what the pointers lead
to in it as it was, and so neither their order nor their repetition counts. -/
theorem normalize_all_at_once (hroles : config.ignoreAggregatedRoles = false)
    (hstrict : ∀ pointer ∈ config.ignoredPointers key, Pointer.Strict pointer)
    (o : ResourceObject) :
    (o.normalize key config).document =
        o.document.without (o.document.isLocated (config.ignoredPointers key)) ∧
      ∀ config' : DriftConfig, config'.ignoreAggregatedRoles = false →
        (∀ pointer, pointer ∈ config'.ignoredPointers key ↔
          pointer ∈ config.ignoredPointers key) →
        o.normalize key config' = o.normalize key config := by
  have hnormalize := document_normalize_eq_without hroles hstrict o
  refine ⟨hnormalize, fun config' hroles' hsame => ?_⟩
  have hstrict' : ∀ pointer ∈ config'.ignoredPointers key, Pointer.Strict pointer :=
    fun pointer hm => hstrict pointer ((hsame pointer).mp hm)
  apply document_injective
  rw [hnormalize, document_normalize_eq_without hroles' hstrict' o, Document.isLocated_congr hsame]

/-- Three items in a list, and labels whose names are numbers. -/
def itemizedSettings : ResourceObject where
  fields := [("apiVersion", .text "v1"),
    ("items", .list [.text "a", .text "b", .mapping [("note", .text "c")]]),
    ("kind", .text "ConfigMap"), ("labels", .mapping [("0", .text "x"), ("1", .text "y")])]
  wellFormed := by decide

/-- Ignores two of the items, what stands inside one of them, and a label. -/
def itemsIgnored : DriftConfig where
  rules := [⟨"", "ConfigMap", "", "", ["/items/0", "/items/2/note", "/items/2", "/labels/1"]⟩]
  overrides := [(everyKind, ["/items/0"])]
  tracking := .standard
  ignoreAggregatedRoles := false

/-- Ignores the same, declared the other way round. -/
def itemsIgnoredBackwards : DriftConfig where
  rules := [⟨"", "ConfigMap", "", "", ["/labels/1", "/items/2", "/items/2/note"]⟩]
  overrides := [("ConfigMap", ["/items/0"])]
  tracking := .standard
  ignoreAggregatedRoles := false

theorem normalize_itemizedSettings :
    (itemizedSettings.normalize Comparison.settingsKey itemsIgnored).document =
        .mapping [("apiVersion", .text "v1"), ("items", .list [.text "b"]),
          ("kind", .text "ConfigMap"), ("labels", .mapping [("0", .text "x")])] ∧
      itemizedSettings.normalize Comparison.settingsKey itemsIgnoredBackwards =
        itemizedSettings.normalize Comparison.settingsKey itemsIgnored := by
  have hstrict : ∀ pointer ∈ itemsIgnored.ignoredPointers Comparison.settingsKey,
      Pointer.Strict pointer := by decide +kernel
  have hpointers : itemsIgnored.ignoredPointers Comparison.settingsKey =
      ["/items/0", "/items/2/note", "/items/2", "/labels/1", "/items/0"] := by decide +kernel
  have hbackwards : itemsIgnoredBackwards.ignoredPointers Comparison.settingsKey =
      ["/labels/1", "/items/2", "/items/2/note", "/items/0"] := by decide +kernel
  obtain ⟨hnormalize, hsame⟩ := normalize_all_at_once rfl hstrict itemizedSettings
  constructor
  · rw [hnormalize, hpointers]
    decide +kernel
  · apply hsame itemsIgnoredBackwards rfl
    intro pointer
    rw [hpointers, hbackwards]
    simp only [List.mem_cons, List.not_mem_nil]
    tauto

end ResourceObject

end DeployDrift
