import DeployDrift.Drift.Detection
import DeployDrift.Proofs.Table.Lookup
import Mathlib.Data.List.Induction
import Mathlib.Data.List.Nodup

/-!
# What is paired

What stands under a key after pairing depends on the records of this key and on the target under it
alone.  The live side is the live object of the last record that has one.  The first record takes
the target; a later one with a live object finds none left and replaces what was paired before, so
that the target is lost.  Nothing else is: without such a record every target stays on its unit.
-/
namespace DeployDrift

/-- The sides, unless both are absent. -/
def Sides.present? (s : Sides) : Option Sides :=
  if s.live.isNone && s.target.isNone then none else some s

namespace Sides

theorem present?_eq_some_iff {s t : Sides} :
    s.present? = some t ↔ (s.live.isSome = true ∨ s.target.isSome = true) ∧ s = t := by
  unfold present?
  cases s.live <;> cases s.target <;> simp

theorem isSome_present? {s : Sides} :
    s.present?.isSome = true ↔ s.live.isSome = true ∨ s.target.isSome = true := by
  unfold present?
  cases s.live <;> cases s.target <;> simp

end Sides

/-- A target as it is compared: marked unless it is a definition of a custom resource. -/
def Tracking.mark (t : Tracking) (app : String) (key : ResourceKey) (target : ResourceObject) :
    ResourceObject :=
  if key.isDefinition then target else t.stamp app key target

theorem Sides.stamp_eq (tracking : Tracking) (app : String) (key : ResourceKey) (s : Sides) :
    s.stamp tracking app key = ⟨s.live, s.target.map (tracking.mark app key)⟩ := by
  unfold Sides.stamp Tracking.mark
  split
  · simp
  · rfl

/-- The live object in the last record of a key that has one. -/
def lastLive? (records : List LiveRecord) (key : ResourceKey) : Option ResourceObject :=
  records.reverse.findSome? fun r => if r.1 = key then r.2 else none

/-- A record of the key other than the first one has a live object. -/
def hasLaterLive (records : List LiveRecord) (key : ResourceKey) : Bool :=
  ((records.filter fun r => r.1 = key).drop 1).any fun r => r.2.isSome

/-- What the records leave under a key: the last live object, and the target if no later record with
a live object has replaced the one that took it. -/
def sidesUnder (records : List LiveRecord) (targets : ResourceTable) (key : ResourceKey) : Sides :=
  ⟨lastLive? records key, if hasLaterLive records key then none else targets.get? key⟩

section Records

variable {records : List LiveRecord} {key : ResourceKey}

theorem lastLive?_append (records : List LiveRecord) (r : LiveRecord) (key : ResourceKey) :
    lastLive? (records ++ [r]) key =
      (if r.1 = key then r.2 else none).or (lastLive? records key) := by
  unfold lastLive?
  rw [List.reverse_append, List.reverse_singleton, List.singleton_append, List.findSome?_cons]
  cases (if r.1 = key then r.2 else none) <;> rfl

theorem mem_of_lastLive? {live : ResourceObject} (h : lastLive? records key = some live) :
    (key, some live) ∈ records := by
  obtain ⟨r, hr, hlive⟩ := List.exists_of_findSome?_eq_some h
  split at hlive
  next heq => exact heq ▸ hlive ▸ List.mem_reverse.mp hr
  next => cases hlive

/-- A key has a last live object exactly if some record of it has one. -/
theorem isSome_lastLive? :
    (lastLive? records key).isSome = true ↔ ∃ live, (key, some live) ∈ records := by
  constructor
  · intro h
    obtain ⟨live, hlive⟩ := Option.isSome_iff_exists.mp h
    exact ⟨live, mem_of_lastLive? hlive⟩
  · rintro ⟨live, hm⟩
    unfold lastLive?
    rw [List.findSome?_isSome_iff]
    exact ⟨_, List.mem_reverse.mpr hm, by simp⟩

theorem lastLive?_of_not_mem (h : key ∉ records.map (·.1)) : lastLive? records key = none := by
  cases hlive : lastLive? records key with
  | none => rfl
  | some live => exact absurd (List.mem_map_of_mem (f := (·.1)) (mem_of_lastLive? hlive)) h

theorem filter_eq_nil_iff_not_mem :
    (records.filter fun r => r.1 = key) = [] ↔ key ∉ records.map (·.1) := by
  rw [List.filter_eq_nil_iff]
  constructor
  · intro h hm
    obtain ⟨r, hr, heq⟩ := List.mem_map.mp hm
    exact h r hr (by simpa using heq)
  · intro h r hr heq
    exact h (List.mem_map.mpr ⟨r, hr, by simpa using heq⟩)

/-- One more record adds a later live object only to its own key, and only if it is not the
first. -/
theorem hasLaterLive_append (records : List LiveRecord) (r : LiveRecord) (key : ResourceKey) :
    hasLaterLive (records ++ [r]) key = (hasLaterLive records key ||
      (decide (key ∈ records.map (·.1)) && decide (r.1 = key) && r.2.isSome)) := by
  unfold hasLaterLive
  rw [List.filter_append]
  by_cases hr : r.1 = key
  · cases hf : records.filter fun r => r.1 = key with
    | nil =>
      have hnew := filter_eq_nil_iff_not_mem.mp hf
      simp [hr, hnew]
    | cons first rest =>
      have hold : key ∈ records.map (·.1) := by
        by_contra hnew
        rw [filter_eq_nil_iff_not_mem.mpr hnew] at hf
        cases hf
      simp [hr, hold]
  · simp [hr]

theorem hasLaterLive_of_not_mem (h : key ∉ records.map (·.1)) :
    hasLaterLive records key = false := by
  rw [hasLaterLive, filter_eq_nil_iff_not_mem.mpr h]
  rfl

theorem sidesUnder_append (records : List LiveRecord) (r : LiveRecord) (targets : ResourceTable)
    (key : ResourceKey) :
    sidesUnder (records ++ [r]) targets key =
      ⟨(if r.1 = key then r.2 else none).or (lastLive? records key),
        if hasLaterLive records key || (decide (key ∈ records.map (·.1)) && decide (r.1 = key) &&
          r.2.isSome) then none else targets.get? key⟩ := by
  rw [sidesUnder, lastLive?_append, hasLaterLive_append]

theorem exists_live_of_hasLaterLive (h : hasLaterLive records key = true) :
    ∃ live, (key, some live) ∈ records := by
  obtain ⟨r, hm, hr⟩ := List.any_eq_true.mp h
  obtain ⟨live, hlive⟩ := Option.isSome_iff_exists.mp hr
  obtain ⟨hrecord, hkey⟩ := List.mem_filter.mp (List.mem_of_mem_drop hm)
  have heq : r.1 = key := by simpa using hkey
  exact ⟨live, heq ▸ hlive ▸ hrecord⟩

/-- Something is left under a key if it has a live object or a target. -/
theorem isSome_present?_sidesUnder (records : List LiveRecord) (targets : ResourceTable)
    (key : ResourceKey) :
    (sidesUnder records targets key).present?.isSome = true ↔
      (∃ live, (key, some live) ∈ records) ∨ (targets.get? key).isSome = true := by
  rw [Sides.isSome_present?, ← isSome_lastLive?, sidesUnder]
  cases hlater : hasLaterLive records key with
  | false => simp
  | true =>
    -- a target is lost only where a live object takes its place
    have hlive := isSome_lastLive?.mpr (exists_live_of_hasLaterLive hlater)
    simp [hlive]

/-- If no key is recorded twice, no record comes after another one of its key. -/
theorem hasLaterLive_of_nodup (h : (records.map (·.1)).Nodup) (key : ResourceKey) :
    hasLaterLive records key = false := by
  induction records using List.reverseRecOn with
  | nil => rfl
  | append_singleton rest r ih =>
    rw [List.map_append, List.nodup_append] at h
    obtain ⟨hrest, -, hdisjoint⟩ := h
    rw [hasLaterLive_append, ih hrest]
    by_cases hr : r.1 = key
    · have hnew : key ∉ rest.map (·.1) := fun hm => hdisjoint key hm key (by simp [hr]) rfl
      simp [hnew]
    · simp [hr]

/-- If no key is recorded twice, every record gives the live side of its key. -/
theorem lastLive?_of_nodup (h : (records.map (·.1)).Nodup) {live : Option ResourceObject}
    (hm : (key, live) ∈ records) : lastLive? records key = live := by
  cases hlast : lastLive? records key with
  | none =>
    cases live with
    | none => rfl
    | some o =>
      have hsome := isSome_lastLive?.mpr ⟨o, hm⟩
      rw [hlast] at hsome
      cases hsome
  | some o =>
    have heq := List.inj_on_of_nodup_map h hm (mem_of_lastLive? hlast) rfl
    exact (congrArg Prod.snd heq).symm

end Records

namespace PairingState

variable {s : PairingState}

theorem left_add (s : PairingState) (r : LiveRecord) : (s.add r).left = s.left.erase r.1 := rfl

theorem sorted_left_add (hs : Table.Sorted s.left) (r : LiveRecord) :
    Table.Sorted (s.add r).left :=
  Table.sorted_erase hs r.1

/-- Every record takes its target off, if it was left. -/
theorem get?_left_foldl_add (records : List LiveRecord) (hs : Table.Sorted s.left)
    (key : ResourceKey) :
    (records.foldl add s).left.get? key =
      if key ∈ records.map (·.1) then none else s.left.get? key := by
  induction records generalizing s with
  | nil => simp
  | cons r rest ih =>
    rw [List.foldl_cons, ih (sorted_left_add hs r), left_add, Table.get?_erase hs, List.map_cons]
    by_cases hkey : key = r.1
    · simp [hkey]
    · rw [if_neg hkey]
      simp only [List.mem_cons, hkey, false_or]

theorem sorted_left_foldl_add (records : List LiveRecord) (hs : Table.Sorted s.left) :
    Table.Sorted (records.foldl add s).left := by
  induction records generalizing s with
  | nil => exact hs
  | cons r rest ih => exact ih (sorted_left_add hs r)

/-- A record changes nothing but what stands under its own key. -/
theorem get?_paired_add (s : PairingState) (r : LiveRecord) (key : ResourceKey) :
    (s.add r).paired.get? key =
      if r.1 = key ∧ key.isSecret = false then
        (Sides.present? ⟨r.2, s.left.get? key⟩).or (s.paired.get? key)
      else s.paired.get? key := by
  obtain ⟨own, live⟩ := r
  unfold add Sides.present?
  dsimp only
  by_cases hkey : own = key
  · subst hkey
    cases own.isSecret with
    | true => simp
    | false =>
      cases hempty : live.isNone && (s.left.get? own).isNone with
      | true => simp
      | false => simp [Table.get?_insert]
  · split
    · simp [hkey]
    · rw [Table.get?_insert]
      simp [hkey, Ne.symm hkey]

theorem sorted_paired_add (hs : Table.Sorted s.paired) (r : LiveRecord) :
    Table.Sorted (s.add r).paired := by
  obtain ⟨key, live⟩ := r
  unfold add
  dsimp only
  split
  · exact hs
  · exact Table.sorted_insert hs key _

theorem sorted_paired_foldl_add (records : List LiveRecord) (hs : Table.Sorted s.paired) :
    Table.Sorted (records.foldl add s).paired := by
  induction records generalizing s with
  | nil => exact hs
  | cons r rest ih => exact ih (sorted_paired_add hs r)

/-- Under a key that is recorded stands what its records leave there. -/
theorem get?_paired_foldl_add {targets : ResourceTable} (hs : Table.Sorted targets)
    (records : List LiveRecord) (key : ResourceKey) :
    (records.foldl add ⟨[], targets⟩).paired.get? key =
      if key.isSecret = false ∧ key ∈ records.map (·.1) then
        (sidesUnder records targets key).present?
      else none := by
  induction records using List.reverseRecOn with
  | nil => simp
  | append_singleton rest r ih =>
    have hleft := get?_left_foldl_add (s := ⟨[], targets⟩) rest hs key
    have hkeys : key ∈ (rest ++ [r]).map (·.1) ↔ key ∈ rest.map (·.1) ∨ r.1 = key := by
      simp [eq_comm]
    rw [List.foldl_append, List.foldl_cons, List.foldl_nil, get?_paired_add, ih, hleft,
      sidesUnder_append]
    by_cases hr : r.1 = key
    · cases hsecret : key.isSecret with
      | true => simp
      | false =>
        by_cases hold : key ∈ rest.map (·.1)
        · -- the target is taken already, so that only a live object changes anything
          cases hlive : r.2 with
          | none => simp [hr, hold, sidesUnder, Sides.present?]
          | some live => simp [hr, hold, Sides.present?]
        · rw [lastLive?_of_not_mem hold, hasLaterLive_of_not_mem hold]
          simp [hr, hold]
    · simp only [hkeys, hr, false_and, if_false, or_false]
      simp [sidesUnder]

theorem get?_finish (hs : Table.Sorted s.left) (key : ResourceKey) :
    s.finish.get? key =
      if key.isSecret = false then
        ((s.left.get? key).map fun target => ⟨none, some target⟩).or (s.paired.get? key)
      else s.paired.get? key := by
  have hfiltered := Table.get?_filter s.left (fun k => !k.isSecret) key
  have hfold := Table.get?_foldl_insert_of_sorted (f := fun target => (⟨none, some target⟩ : Sides))
    (hs.filter fun e => !e.1.isSecret) s.paired key
  refine hfold.trans ?_
  rw [hfiltered]
  cases key.isSecret <;> simp

theorem sorted_finish (hs : Table.Sorted s.paired) : Table.Sorted s.finish := by
  unfold finish
  generalize s.left.filter (fun e => !e.1.isSecret) = left
  generalize s.paired = paired at hs
  induction left generalizing paired with
  | nil => exact hs
  | cons t rest ih => exact ih _ (Table.sorted_insert hs t.1 _)

end PairingState

section Pairs

variable {records : List LiveRecord} {targets : ResourceTable}

theorem sorted_pairSides (records : List LiveRecord) (targets : ResourceTable) :
    Table.Sorted (pairSides records targets) :=
  PairingState.sorted_finish (PairingState.sorted_paired_foldl_add records Table.sorted_nil)

/-- What stands under a key: nothing under that of a secret, and else what its records and the
target under it come to, unless that is nothing. -/
theorem get?_pairSides (hs : Table.Sorted targets) (records : List LiveRecord)
    (key : ResourceKey) :
    (pairSides records targets).get? key =
      if key.isSecret = false then (sidesUnder records targets key).present? else none := by
  have hstart : Table.Sorted (PairingState.mk [] targets).left := hs
  rw [pairSides, PairingState.get?_finish (PairingState.sorted_left_foldl_add records hstart),
    PairingState.get?_left_foldl_add records hstart, PairingState.get?_paired_foldl_add hs]
  cases hsecret : key.isSecret with
  | true => simp
  | false =>
    by_cases hm : key ∈ records.map (·.1)
    · simp only [hm, if_true, and_self]
      rfl
    · simp only [hm, sidesUnder, lastLive?_of_not_mem hm, hasLaterLive_of_not_mem hm]
      cases targets.get? key <;> rfl

/-- The sides under a key are a record and the target under its key, or a target of no record. -/
theorem mem_pairSides (hs : Table.Sorted targets) (hd : (records.map (·.1)).Nodup)
    {e : ResourceKey × Sides} (h : e ∈ pairSides records targets) :
    (∃ live, (e.1, live) ∈ records ∧ e.2 = ⟨live, targets.get? e.1⟩) ∨
      e.1 ∉ records.map (·.1) ∧ ∃ target, targets.get? e.1 = some target ∧
        e.2 = ⟨none, some target⟩ := by
  obtain ⟨key, sides⟩ := e
  have hget := (Table.get?_eq_some_iff (sorted_pairSides records targets)).mpr h
  rw [get?_pairSides hs] at hget
  split at hget
  next =>
    obtain ⟨hpresent, rfl⟩ := Sides.present?_eq_some_iff.mp hget
    rw [sidesUnder, hasLaterLive_of_nodup hd] at hpresent ⊢
    by_cases hm : key ∈ records.map (·.1)
    · obtain ⟨r, hr, rfl⟩ := List.mem_map.mp hm
      rw [lastLive?_of_nodup hd hr]
      exact .inl ⟨r.2, hr, rfl⟩
    · rw [lastLive?_of_not_mem hm] at hpresent ⊢
      obtain ⟨target, htarget⟩ : ∃ target, targets.get? key = some target := by
        simpa [Option.isSome_iff_exists] using hpresent
      exact .inr ⟨hm, target, htarget, congrArg (Sides.mk none) htarget⟩
  next => cases hget

end Pairs

section Units

variable {records : List LiveRecord} {targets : ResourceTable}

theorem get?_pairForDrift (hs : Table.Sorted targets) (records : List LiveRecord)
    (tracking : Tracking) (app : String) (key : ResourceKey) :
    (pairForDrift records targets tracking app).get? key =
      if key.isSecret = false then
        (sidesUnder records targets key).present?.map (Sides.stamp tracking app key)
      else none := by
  have hmap := Table.get?_map (pairSides records targets) (Sides.stamp tracking app) key
  refine hmap.trans ?_
  rw [get?_pairSides hs]
  split
  · rfl
  · rfl

theorem sorted_pairForDrift (records : List LiveRecord) (targets : ResourceTable)
    (tracking : Tracking) (app : String) :
    Table.Sorted (pairForDrift records targets tracking app) :=
  List.pairwise_map.mpr (sorted_pairSides records targets)

/-- What is paired has a side, and is what the records leave under its key. -/
theorem of_mem_pairForDrift (hs : Table.Sorted targets) {tracking : Tracking} {app : String}
    {key : ResourceKey} {sides : Sides}
    (h : (key, sides) ∈ pairForDrift records targets tracking app) :
    (sides.live.isSome = true ∨ sides.target.isSome = true) ∧
      (sidesUnder records targets key).stamp tracking app key = sides := by
  have hget := (Table.get?_eq_some_iff (sorted_pairForDrift records targets tracking app)).mpr h
  rw [get?_pairForDrift hs] at hget
  split at hget
  next =>
    obtain ⟨unmarked, hunmarked, rfl⟩ := Option.map_eq_some_iff.mp hget
    obtain ⟨hpresent, rfl⟩ := Sides.present?_eq_some_iff.mp hunmarked
    rw [Sides.stamp_eq, Option.isSome_map]
    exact ⟨hpresent, rfl⟩
  next => cases hget

/-- Pairing gives one pair of sides, in ascending order, for each key that is no secret's and has a
live object or a target.  Its live side is the last live object recorded under the key, if there is
any; its target is the target under the key, marked unless it is a definition, if no live object
comes in a later record of the key than the first. -/
theorem pairForDrift_exact (hs : Table.Sorted targets) (records : List LiveRecord)
    (tracking : Tracking) (app : String) :
    Table.Sorted (pairForDrift records targets tracking app) ∧
      (∀ key, key ∈ (pairForDrift records targets tracking app).keys ↔
        key.isSecret = false ∧
          ((∃ live, (key, some live) ∈ records) ∨ ∃ target, (key, target) ∈ targets)) ∧
      ∀ key sides, (key, sides) ∈ pairForDrift records targets tracking app →
        (sides.live.isSome = true ↔ ∃ live, (key, some live) ∈ records) ∧
        sides.live = lastLive? records key ∧
        sides.target =
          (if hasLaterLive records key then none
            else (targets.get? key).map (tracking.mark app key)) ∧
        ¬ (sides.live = none ∧ sides.target = none) := by
  have hsorted := sorted_pairForDrift records targets tracking app
  refine ⟨hsorted, ?_, ?_⟩
  · intro key
    have htarget : (targets.get? key).isSome = true ↔ ∃ target, (key, target) ∈ targets := by
      simp only [Option.isSome_iff_exists, Table.get?_eq_some_iff hs]
    rw [← Table.isSome_get?_iff, get?_pairForDrift hs]
    split
    next hopen =>
      rw [Option.isSome_map, isSome_present?_sidesUnder, htarget, hopen, and_iff_right rfl]
    next hsecret => simp [hsecret]
  · intro key sides hm
    obtain ⟨hpresent, rfl⟩ := of_mem_pairForDrift hs hm
    rw [Sides.stamp_eq] at hpresent ⊢
    refine ⟨isSome_lastLive?, rfl, ?_, ?_⟩
    · rw [sidesUnder]
      split
      · rfl
      · rfl
    · rintro ⟨hlive, htarget⟩
      rw [hlive, htarget] at hpresent
      simp at hpresent

/-- A service, live and declared. -/
def webService : ResourceObject where
  fields := [("apiVersion", .text "v1"), ("kind", .text "Service"),
    ("metadata", .mapping [("name", .text "web"), ("namespace", .text "prod")])]
  wellFormed := by decide

def webKey : ResourceKey := ⟨"", "Service", "prod", "web"⟩

/-- The service as it is compared. -/
def markedService : ResourceObject where
  fields := [("apiVersion", .text "v1"), ("kind", .text "Service"),
    ("metadata", .mapping [("labels", .mapping [("app.kubernetes.io/instance", .text "shop")]),
      ("name", .text "web"), ("namespace", .text "prod")])]
  wellFormed := by decide

/-- Recorded once, the service is paired with its target. -/
theorem pairForDrift_web :
    Table.Sorted [(webKey, webService)] ∧
      (webKey, ⟨some webService, some markedService⟩) ∈
        pairForDrift [(webKey, some webService)] [(webKey, webService)] .standard "shop" ∧
      some webService = lastLive? [(webKey, some webService)] webKey ∧
      some markedService = (if hasLaterLive [(webKey, some webService)] webKey then none
        else (Table.get? [(webKey, webService)] webKey).map
          (Tracking.standard.mark "shop" webKey)) := by
  have hs : Table.Sorted [(webKey, webService)] := List.pairwise_singleton _ _
  have hm : (webKey, (⟨some webService, some markedService⟩ : Sides)) ∈
      pairForDrift [(webKey, some webService)] [(webKey, webService)] .standard "shop" := by decide
  obtain ⟨-, hlive, htarget, -⟩ := (pairForDrift_exact hs _ _ _).2.2 _ _ hm
  exact ⟨hs, hm, hlive, htarget⟩

/-- Recorded once without a live object and then with one, the service loses its target. -/
theorem pairForDrift_loses_target :
    Table.Sorted [(webKey, webService)] ∧
      (webKey, webService) ∈ [(webKey, webService)] ∧
      pairForDrift [(webKey, none), (webKey, some webService)] [(webKey, webService)] .standard
        "shop" = [(webKey, ⟨some webService, none⟩)] :=
  ⟨List.pairwise_singleton _ _, List.mem_singleton_self _, by decide⟩

end Units
end DeployDrift
