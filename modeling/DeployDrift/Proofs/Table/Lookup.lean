import DeployDrift.Table

/-!
# Look-ups in tables

Every operation on a table is described by the look-ups of its result, and two sorted tables with
the same look-ups are the same list.
-/
namespace DeployDrift.Table

section Search

variable {κ α β : Type} [DecidableEq κ]

@[simp] theorem get?_nil (key : κ) : get? ([] : Table κ α) key = none := rfl

theorem get?_cons (k : κ) (v : α) (rest : Table κ α) (key : κ) :
    get? ((k, v) :: rest) key = if k = key then some v else get? rest key := rfl

theorem get?_eq_none_iff {t : Table κ α} {key : κ} :
    t.get? key = none ↔ ∀ e ∈ t, e.1 ≠ key := by
  induction t with
  | nil => simp
  | cons e rest ih =>
    obtain ⟨k, v⟩ := e
    by_cases h : k = key
    · simp [get?_cons, h]
    · simp [get?_cons, h, ih]

theorem isSome_get?_iff {t : Table κ α} {key : κ} : (t.get? key).isSome = true ↔ key ∈ t.keys := by
  rw [← Option.ne_none_iff_isSome, Ne, get?_eq_none_iff, keys]
  simp

theorem get?_modify (t : Table κ α) (key : κ) (f : α → α) (k : κ) :
    get? (modify t key f) k = if k = key then (get? t k).map f else get? t k := by
  induction t with
  | nil => simp [modify]
  | cons e rest ih =>
    obtain ⟨l, v⟩ := e
    by_cases hl : l = key
    · subst hl
      by_cases hk : l = k
      · simp [modify, get?_cons, hk]
      · simp [modify, get?_cons, hk, Ne.symm hk]
    · by_cases hk : l = k
      · subst hk
        simp [modify, get?_cons, hl]
      · simp [modify, get?_cons, hl, hk, ih]

/-- Putting the value of a key in its own place changes nothing. -/
theorem modify_get? {t : Table κ α} {key : κ} {value : α} (h : t.get? key = some value) :
    modify t key (fun _ => value) = t := by
  induction t with
  | nil => rfl
  | cons e rest ih =>
    obtain ⟨k, v⟩ := e
    rw [get?_cons] at h
    by_cases hk : k = key
    · rw [if_pos hk] at h
      cases h
      simp [modify, hk]
    · rw [if_neg hk] at h
      simp [modify, hk, ih h]

theorem map_modify (t : Table κ α) (key : κ) (value : α) (f : α → β) :
    (modify t key fun _ => value).map (fun e => (e.1, f e.2)) =
      modify (t.map fun e => (e.1, f e.2)) key fun _ => f value := by
  induction t with
  | nil => rfl
  | cons e rest ih =>
    obtain ⟨k, v⟩ := e
    by_cases hk : k = key
    · simp [modify, hk]
    · simp [modify, hk, ih]

theorem map_erase (t : Table κ α) (key : κ) (f : α → β) :
    (erase t key).map (fun e => (e.1, f e.2)) = erase (t.map fun e => (e.1, f e.2)) key := by
  induction t with
  | nil => rfl
  | cons e rest ih =>
    obtain ⟨k, v⟩ := e
    by_cases hk : k = key
    · simp [erase, hk]
    · simp [erase, hk, ih]

theorem get?_filter (t : Table κ α) (p : κ → Bool) (key : κ) :
    get? (t.filter fun e => p e.1) key = if p key then get? t key else none := by
  induction t with
  | nil => simp
  | cons e rest ih =>
    obtain ⟨k, v⟩ := e
    by_cases hk : k = key
    · subst hk
      by_cases hp : p k
      · simp [hp, get?_cons]
      · simp [hp, ih]
    · by_cases hp : p k
      · simp [hp, get?_cons, hk, ih]
      · simp [hp, get?_cons, hk, ih]

theorem get?_map (t : Table κ α) (f : κ → α → β) (key : κ) :
    get? (t.map fun e => (e.1, f e.1 e.2)) key = (get? t key).map (f key) := by
  induction t with
  | nil => rfl
  | cons e rest ih =>
    obtain ⟨k, v⟩ := e
    by_cases hk : k = key
    · subst hk
      simp [get?_cons]
    · simp [get?_cons, hk, ih]

end Search

section Order

variable {κ α : Type} [DecidableEq κ] [LT κ] [DecidableLT κ]

/-- A value that was put in is found under its key, and all other keys keep theirs. -/
theorem get?_insert (t : Table κ α) (key : κ) (value : α) (k : κ) :
    get? (insert t key value) k = if k = key then some value else get? t k := by
  induction t with
  | nil => simp [insert, get?_cons, eq_comm]
  | cons e rest ih =>
    obtain ⟨l, v⟩ := e
    simp only [insert]
    split
    next heq =>
      subst heq
      by_cases hk : l = k
      · simp [get?_cons, hk]
      · simp [get?_cons, hk, Ne.symm hk]
    next hne =>
      split
      · by_cases hk : key = k
        · simp [get?_cons, hk]
        · simp [get?_cons, hk, Ne.symm hk]
      · by_cases hk : l = k
        · subst hk
          simp [get?_cons, hne]
        · simp [get?_cons, hk, ih]

variable [Trans (α := κ) (· < ·) (· < ·) (· < ·)] [Std.Irrefl (α := κ) (· < ·)]

omit [DecidableEq κ] [DecidableLT κ] in
theorem not_lt_of_lt {a b : κ} (h : a < b) : ¬ b < a := fun h' =>
  Std.Irrefl.irrefl (r := (· < ·)) a (Trans.trans h h')

omit [DecidableEq κ] [DecidableLT κ] [Trans (α := κ) (· < ·) (· < ·) (· < ·)] in
theorem ne_of_lt {a b : κ} (h : a < b) : a ≠ b := fun heq =>
  Std.Irrefl.irrefl (r := (· < ·)) a (by rw [← heq] at h; exact h)

omit [DecidableLT κ] [Trans (α := κ) (· < ·) (· < ·) (· < ·)] in
theorem get?_eq_some_iff {t : Table κ α} (h : Sorted t) {key : κ} {value : α} :
    t.get? key = some value ↔ (key, value) ∈ t := by
  constructor
  · exact mem_of_get?
  · intro hm
    induction t with
    | nil => cases hm
    | cons e rest ih =>
      obtain ⟨k, v⟩ := e
      obtain ⟨hk, hr⟩ := sorted_cons.mp h
      rcases List.mem_cons.mp hm with heq | hm
      · cases heq
        simp [get?_cons]
      · have hne : k ≠ key := ne_of_lt (hk _ hm)
        simp [get?_cons, hne, ih hr hm]

omit [DecidableLT κ] [Trans (α := κ) (· < ·) (· < ·) (· < ·)] in
theorem get?_erase {t : Table κ α} (h : Sorted t) (key k : κ) :
    get? (erase t key) k = if k = key then none else get? t k := by
  induction t with
  | nil => simp [erase]
  | cons e rest ih =>
    obtain ⟨l, v⟩ := e
    obtain ⟨hl, hr⟩ := sorted_cons.mp h
    by_cases heq : l = key
    · subst heq
      have hgone : get? rest l = none :=
        get?_eq_none_iff.mpr fun e he => (ne_of_lt (hl e he)).symm
      by_cases hk : k = l
      · simp [erase, hk, hgone]
      · simp [erase, get?_cons, hk, Ne.symm hk]
    · by_cases hk : l = k
      · subst hk
        simp [erase, get?_cons, heq]
      · simp [erase, get?_cons, heq, hk, ih hr]

omit [DecidableLT κ] in
/-- Two sorted tables with the same look-ups are the same. -/
theorem ext {a b : Table κ α} (ha : Sorted a) (hb : Sorted b)
    (h : ∀ key, a.get? key = b.get? key) : a = b := by
  induction a generalizing b with
  | nil =>
    cases b with
    | nil => rfl
    | cons e rest =>
      have hhead := h e.1
      simp [get?] at hhead
  | cons e rest ih =>
    obtain ⟨k, v⟩ := e
    cases b with
    | nil =>
      have hhead := h k
      simp [get?] at hhead
    | cons f rest' =>
      obtain ⟨l, w⟩ := f
      obtain ⟨hk, hr⟩ := sorted_cons.mp ha
      obtain ⟨hl, hr'⟩ := sorted_cons.mp hb
      -- each head is the least key of its table, so the two heads agree
      have heads : k = l := by
        by_cases hne : k = l
        · exact hne
        · have hkb : get? ((l, w) :: rest') k = some v := by
            rw [← h k]
            simp [get?_cons]
          have hla : get? ((k, v) :: rest) l = some w := by
            rw [h l]
            simp [get?_cons]
          have hlk : l < k := hl (k, v) (mem_of_get? (by simpa [get?_cons, Ne.symm hne] using hkb))
          have hkl : k < l := hk (l, w) (mem_of_get? (by simpa [get?_cons, hne] using hla))
          exact absurd hlk (not_lt_of_lt hkl)
      subst heads
      have values : v = w := by simpa [get?_cons] using h k
      subst values
      have tails : rest = rest' := by
        apply ih hr hr'
        intro key
        by_cases hkey : k = key
        · subst hkey
          rw [get?_eq_none_iff.mpr fun e he => (ne_of_lt (hk e he)).symm,
            get?_eq_none_iff.mpr fun e he => (ne_of_lt (hl e he)).symm]
        · simpa [get?_cons, hkey] using h key
      rw [tails]

end Order

section Entries

variable {κ α : Type} [DecidableEq κ] [LT κ] [DecidableLT κ]

/-- Of several values under one key the last one counts. -/
theorem get?_foldl_insert (entries : List (κ × α)) (t : Table κ α) (key : κ) :
    get? (entries.foldl (fun t e => insert t e.1 e.2) t) key =
      ((entries.reverse.find? fun e => e.1 == key).map (·.2)).or (get? t key) := by
  induction entries generalizing t with
  | nil => simp
  | cons e rest ih =>
    rw [List.foldl_cons, ih, get?_insert, List.reverse_cons, List.find?_append]
    by_cases hk : e.1 = key
    · cases hf : rest.reverse.find? fun e => e.1 == key with
      | none => simp [hk]
      | some f => simp
    · simp [hk, Ne.symm hk]

/-- Of several entries with equal keys the last one counts. -/
theorem get?_ofList (entries : List (κ × α)) (key : κ) :
    get? (ofList entries) key = (entries.reverse.find? fun e => e.1 == key).map (·.2) := by
  rw [ofList, get?_foldl_insert, get?_nil, Option.or_none]

/-- Under a key stands the value of the last entry with it. -/
theorem get?_ofList_eq_some_iff {entries : List (κ × α)} {key : κ} {value : α} :
    get? (ofList entries) key = some value ↔
      ∃ before after, entries = before ++ (key, value) :: after ∧ ∀ e ∈ after, e.1 ≠ key := by
  have hlast : get? (ofList entries) key = some value ↔
      entries.reverse.find? (fun e => e.1 == key) = some (key, value) := by
    rw [get?_ofList]
    constructor
    · intro h
      obtain ⟨⟨k, v⟩, hfind, hvalue⟩ := Option.map_eq_some_iff.mp h
      have hkey : k = key := by simpa using List.find?_some hfind
      have hvalue : v = value := hvalue
      rw [hfind, hkey, hvalue]
    · intro h
      rw [h, Option.map_some]
  rw [hlast, List.find?_eq_some_iff_append]
  constructor
  · rintro ⟨-, after, before, hsplit, hafter⟩
    refine ⟨before.reverse, after.reverse, ?_, ?_⟩
    · rw [← List.reverse_reverse entries, hsplit]
      simp
    · intro e he
      simpa using hafter e (List.mem_reverse.mp he)
  · rintro ⟨before, after, rfl, hafter⟩
    refine ⟨by simp, after.reverse, before.reverse, by simp, ?_⟩
    intro e he
    simpa using hafter e (List.mem_reverse.mp he)

theorem mem_keys_ofList {entries : List (κ × α)} {key : κ} :
    key ∈ (ofList entries).keys ↔ ∃ e ∈ entries, e.1 = key := by
  rw [← isSome_get?_iff, get?_ofList, Option.isSome_map, List.find?_isSome]
  simp

variable [Trans (α := κ) (· < ·) (· < ·) (· < ·)] [Std.Trichotomous (α := κ) (· < ·)]
  [Std.Irrefl (α := κ) (· < ·)]

omit [Trans (α := κ) (· < ·) (· < ·) (· < ·)] [Std.Trichotomous (α := κ) (· < ·)] in
/-- Entries in ascending order are put into a table over what stands there. -/
theorem get?_foldl_insert_of_sorted {β : Type} {f : α → β} {entries : Table κ α}
    (h : Sorted entries) (t : Table κ β) (key : κ) :
    get? (entries.foldl (fun t e => insert t e.1 (f e.2)) t) key =
      ((get? entries key).map f).or (get? t key) := by
  induction entries generalizing t with
  | nil => simp
  | cons e rest ih =>
    obtain ⟨k, v⟩ := e
    obtain ⟨hk, hr⟩ := sorted_cons.mp h
    rw [List.foldl_cons, ih hr, get?_insert, get?_cons]
    by_cases heq : k = key
    · subst heq
      have hgone : get? rest k = none :=
        get?_eq_none_iff.mpr fun e he => (ne_of_lt (hk e he)).symm
      simp [hgone]
    · simp [heq, Ne.symm heq]

theorem ofList_eq_self {t : Table κ α} (h : Sorted t) : ofList t = t := by
  apply ext (sorted_ofList t) h
  intro key
  have hget := get?_foldl_insert_of_sorted (f := id) h [] key
  simpa [ofList] using hget

/-- Putting the value of a key in its own place changes nothing. -/
theorem insert_get? {t : Table κ α} (h : Sorted t) {key : κ} {value : α}
    (hv : t.get? key = some value) : insert t key value = t := by
  apply ext (sorted_insert h key value) h
  intro k
  rw [get?_insert]
  split
  next heq => rw [heq, hv]
  next => rfl

omit [Trans (α := κ) (· < ·) (· < ·) (· < ·)] [Std.Trichotomous (α := κ) (· < ·)]
  [Std.Irrefl (α := κ) (· < ·)] in
/-- Of two values put under one key the second counts. -/
theorem insert_insert (t : Table κ α) (key : κ) (v w : α) :
    insert (insert t key v) key w = insert t key w := by
  induction t with
  | nil => simp [insert]
  | cons e rest ih =>
    obtain ⟨k, u⟩ := e
    simp only [insert]
    split
    next => simp [insert]
    next hne =>
      split
      next => simp [insert]
      next hlt => simp [insert, hne, hlt, ih]

theorem insert_comm {t : Table κ α} (h : Sorted t) {k l : κ} (hkl : k ≠ l) (v w : α) :
    insert (insert t k v) l w = insert (insert t l w) k v := by
  apply ext (sorted_insert (sorted_insert h k v) l w) (sorted_insert (sorted_insert h l w) k v)
  intro key
  simp only [get?_insert]
  by_cases hl : key = l
  · rw [if_pos hl, if_neg fun hk => hkl (hk.symm.trans hl), if_pos hl]
  · rw [if_neg hl, if_neg hl]

omit [Trans (α := κ) (· < ·) (· < ·) (· < ·)] [Std.Trichotomous (α := κ) (· < ·)]
  [Std.Irrefl (α := κ) (· < ·)] in
theorem get?_ofList_of_nodup {entries : List (κ × α)} (h : (entries.map (·.1)).Nodup) {key : κ}
    {value : α} (hm : (key, value) ∈ entries) : get? (ofList entries) key = some value := by
  rw [get?_ofList]
  have hnodup : (entries.reverse.map (·.1)).Nodup := by
    rw [List.map_reverse]
    exact List.pairwise_reverse.mpr (h.imp Ne.symm)
  have hmem := List.mem_reverse.mpr hm
  revert hnodup hmem
  induction entries.reverse with
  | nil =>
    intro _ hmem
    cases hmem
  | cons e rest ih =>
    intro hnodup hmem
    obtain ⟨hfresh, hrest⟩ := List.nodup_cons.mp hnodup
    rcases List.mem_cons.mp hmem with rfl | hmem
    · simp
    · have hne : e.1 ≠ key := fun heq => hfresh (List.mem_map.mpr ⟨_, hmem, heq.symm⟩)
      rw [List.find?_cons_of_neg (by simpa using hne)]
      exact ih hrest hmem

/-- If no key occurs twice, the order of the entries does not matter. -/
theorem ofList_eq_of_perm {entries entries' : List (κ × α)} (hp : entries.Perm entries')
    (h : (entries.map (·.1)).Nodup) : ofList entries = ofList entries' := by
  have h' : (entries'.map (·.1)).Nodup := (hp.map _).nodup_iff.mp h
  have hget : ∀ {xs : List (κ × α)}, (xs.map (·.1)).Nodup → ∀ key value,
      get? (ofList xs) key = some value ↔ (key, value) ∈ xs := by
    intro xs hxs key value
    refine ⟨fun hvalue => ?_, get?_ofList_of_nodup hxs⟩
    obtain ⟨before, after, rfl, -⟩ := get?_ofList_eq_some_iff.mp hvalue
    simp
  apply ext (sorted_ofList entries) (sorted_ofList entries')
  intro key
  apply Option.ext
  intro value
  rw [hget h, hget h', hp.mem_iff]

end Entries
end DeployDrift.Table
