/-!
# Tables sorted by key

A table is a list of entries in strictly ascending order of their keys.  `Table.get?` is its view:
two tables with the same look-ups are the same list.
-/
namespace DeployDrift

/-- Entries in ascending order of their keys, one for each key. -/
abbrev Table (κ α : Type) := List (κ × α)

namespace Table

variable {κ α : Type} [DecidableEq κ] [LT κ] [DecidableLT κ]

def get? : Table κ α → κ → Option α
  | [], _ => none
  | (k, v) :: rest, key => if k = key then some v else get? rest key

def contains (t : Table κ α) (key : κ) : Bool := (t.get? key).isSome

/-- Puts a value under a key, in place of an earlier one. -/
def insert : Table κ α → κ → α → Table κ α
  | [], key, value => [(key, value)]
  | (k, v) :: rest, key, value =>
    if k = key then (key, value) :: rest
    else if key < k then (key, value) :: (k, v) :: rest
    else (k, v) :: insert rest key value

def erase : Table κ α → κ → Table κ α
  | [], _ => []
  | (k, v) :: rest, key => if k = key then rest else (k, v) :: erase rest key

def modify : Table κ α → κ → (α → α) → Table κ α
  | [], _, _ => []
  | (k, v) :: rest, key, f =>
    if k = key then (k, f v) :: rest else (k, v) :: modify rest key f

/-- The table of a list of entries; of several with equal keys the last one counts. -/
def ofList (entries : List (κ × α)) : Table κ α :=
  entries.foldl (fun t e => insert t e.1 e.2) []

def keys (t : Table κ α) : List κ := t.map (·.1)

/-- The keys ascend strictly. -/
def Sorted (t : Table κ α) : Prop := t.Pairwise fun a b => a.1 < b.1

end Table
end DeployDrift

/-!
## What the operations on tables do

Insertion, removal and change keep a table sorted, and each of them is described by the look-ups of
its result.
-/
namespace DeployDrift.Table

variable {κ α : Type} [DecidableEq κ] [LT κ] [DecidableLT κ]

omit [DecidableEq κ] [DecidableLT κ] in
@[simp] theorem sorted_nil : Sorted ([] : Table κ α) := List.Pairwise.nil

omit [DecidableEq κ] [DecidableLT κ] in
theorem sorted_cons {e : κ × α} {t : Table κ α} :
    Sorted (e :: t) ↔ (∀ f ∈ t, e.1 < f.1) ∧ Sorted t := List.pairwise_cons

theorem mem_insert {t : Table κ α} {key : κ} {value : α} {e : κ × α}
    (h : e ∈ insert t key value) : e = (key, value) ∨ e ∈ t := by
  induction t with
  | nil => simpa [insert] using h
  | cons f t ih =>
    obtain ⟨k, v⟩ := f
    simp only [insert] at h
    split at h
    · rcases List.mem_cons.mp h with h | h
      · exact .inl h
      · exact .inr (List.mem_cons_of_mem _ h)
    · split at h
      · rcases List.mem_cons.mp h with h | h
        · exact .inl h
        · exact .inr h
      · rcases List.mem_cons.mp h with h | h
        · exact .inr (h ▸ List.mem_cons_self)
        · rcases ih h with h | h
          · exact .inl h
          · exact .inr (List.mem_cons_of_mem _ h)

omit [LT κ] [DecidableLT κ] in
theorem mem_of_mem_erase {t : Table κ α} {key : κ} {e : κ × α} (h : e ∈ erase t key) : e ∈ t := by
  induction t with
  | nil => exact h
  | cons f t ih =>
    obtain ⟨k, v⟩ := f
    simp only [erase] at h
    split at h
    · exact List.mem_cons_of_mem _ h
    · rcases List.mem_cons.mp h with h | h
      · exact h ▸ List.mem_cons_self
      · exact List.mem_cons_of_mem _ (ih h)

omit [LT κ] [DecidableLT κ] in
theorem mem_modify {t : Table κ α} {key : κ} {f : α → α} {e : κ × α}
    (h : e ∈ modify t key f) : ∃ v, (e.1, v) ∈ t ∧ (e.2 = v ∨ e.2 = f v) := by
  induction t with
  | nil => cases h
  | cons g t ih =>
    obtain ⟨k, v⟩ := g
    simp only [modify] at h
    split at h
    · rcases List.mem_cons.mp h with h | h
      · exact ⟨v, by simp [h], .inr (by simp [h])⟩
      · exact ⟨e.2, List.mem_cons_of_mem _ h, .inl rfl⟩
    · rcases List.mem_cons.mp h with h | h
      · exact ⟨v, by simp [h], .inl (by simp [h])⟩
      · obtain ⟨w, hw, hv⟩ := ih h
        exact ⟨w, List.mem_cons_of_mem _ hw, hv⟩

omit [LT κ] [DecidableLT κ] in
theorem mem_of_get? {t : Table κ α} {key : κ} {value : α} (h : t.get? key = some value) :
    (key, value) ∈ t := by
  induction t with
  | nil => cases h
  | cons f t ih =>
    obtain ⟨k, v⟩ := f
    simp only [get?] at h
    split at h
    next hk =>
      cases h
      exact hk ▸ List.mem_cons_self
    next => exact List.mem_cons_of_mem _ (ih h)

section Order

variable [Trans (α := κ) (· < ·) (· < ·) (· < ·)] [Std.Trichotomous (α := κ) (· < ·)]

theorem sorted_insert {t : Table κ α} (h : Sorted t) (key : κ) (value : α) :
    Sorted (insert t key value) := by
  induction t with
  | nil => simp [insert, Sorted]
  | cons f t ih =>
    obtain ⟨k, v⟩ := f
    obtain ⟨hk, ht⟩ := sorted_cons.mp h
    simp only [insert]
    split
    next heq => exact sorted_cons.mpr ⟨fun e he => heq ▸ hk e he, ht⟩
    next hne =>
      split
      next hlt =>
        refine sorted_cons.mpr ⟨fun e he => ?_, h⟩
        rcases List.mem_cons.mp he with he | he
        · exact he ▸ hlt
        · exact Trans.trans hlt (hk e he)
      next hnlt =>
        have hgt : k < key := by
          rcases Std.Trichotomous.rel_or_eq_or_rel_swap (r := (· < ·)) (a := k) (b := key) with
            h | h | h
          · exact h
          · exact absurd h hne
          · exact absurd h hnlt
        refine sorted_cons.mpr ⟨fun e he => ?_, ih ht⟩
        rcases mem_insert he with he | he
        · exact he ▸ hgt
        · exact hk e he

theorem sorted_ofList (entries : List (κ × α)) : Sorted (ofList entries) := by
  unfold ofList
  suffices ∀ t : Table κ α, Sorted t → Sorted (entries.foldl (fun t e => insert t e.1 e.2) t) from
    this [] sorted_nil
  induction entries with
  | nil => exact fun _ h => h
  | cons e rest ih => exact fun t h => ih _ (sorted_insert h e.1 e.2)

end Order

omit [DecidableLT κ] in
theorem sorted_erase {t : Table κ α} (h : Sorted t) (key : κ) : Sorted (erase t key) := by
  induction t with
  | nil => exact h
  | cons f t ih =>
    obtain ⟨k, v⟩ := f
    obtain ⟨hk, ht⟩ := sorted_cons.mp h
    simp only [erase]
    split
    · exact ht
    · exact sorted_cons.mpr ⟨fun e he => hk e (mem_of_mem_erase he), ih ht⟩

omit [DecidableLT κ] in
theorem sorted_modify {t : Table κ α} (h : Sorted t) (key : κ) (f : α → α) :
    Sorted (modify t key f) := by
  induction t with
  | nil => exact h
  | cons g t ih =>
    obtain ⟨k, v⟩ := g
    obtain ⟨hk, ht⟩ := sorted_cons.mp h
    simp only [modify]
    split
    · exact sorted_cons.mpr ⟨hk, ht⟩
    · refine sorted_cons.mpr ⟨fun e he => ?_, ih ht⟩
      obtain ⟨w, hw, -⟩ := mem_modify he
      exact (hk (e.1, w) hw : k < (e.1, w).1)

theorem mem_ofList {entries : List (κ × α)} {e : κ × α} (h : e ∈ ofList entries) :
    e ∈ entries := by
  unfold ofList at h
  suffices ∀ t : Table κ α, e ∈ entries.foldl (fun t e => insert t e.1 e.2) t →
      e ∈ t ∨ e ∈ entries by
    rcases this [] h with h | h
    · cases h
    · exact h
  clear h
  induction entries with
  | nil => exact fun _ h => .inl h
  | cons f rest ih =>
    intro t h
    rcases ih _ h with h | h
    · rcases mem_insert h with h | h
      · exact .inr (h ▸ List.mem_cons_self)
      · exact .inl h
    · exact .inr (List.mem_cons_of_mem _ h)

end DeployDrift.Table
