import DeployDrift.Proofs.Table.Lookup
import DeployDrift.Resource.Ownership

/-!
# Where resources are expected

A placement says which kinds are namespaced, which namespace an application is deployed to, and how
its resources are marked.  It fixes the key under which a manifest is expected to be live, and what
the manifest is compared as.  Grouping learns the scope of a kind from the keys of the live objects
alone; if those are where the placement expects them, it comes to the same.
-/
namespace DeployDrift

/-- What decides where the resources of an application are expected and how they are marked. -/
structure Placement where
  /-- The group and kind are namespaced. -/
  scope : String → String → Bool
  destination : String
  tracking : Tracking
  app : String

namespace Placement

variable (p : Placement)

/-- The namespace of a manifest with the given key: its own, or else the destination for a
namespaced kind. -/
def expectedNamespace (own : ResourceKey) : String :=
  if own.namespace ≠ "" then own.namespace
  else if p.scope own.group own.kind then p.destination
  else ""

/-- The key of a manifest in its expected namespace. -/
def expectedKey (own : ResourceKey) : ResourceKey :=
  ⟨own.group, own.kind, p.expectedNamespace own, own.name⟩

/-- The manifest with the expected namespace filled in, if there is one. -/
def placed (own : ResourceKey) (target : ResourceObject) : ResourceObject :=
  if p.expectedNamespace own = "" then target else target.setNamespace (p.expectedNamespace own)

/-- The manifest in its expected namespace, marked unless it is a definition. -/
def expected (own : ResourceKey) (target : ResourceObject) : ResourceObject :=
  if own.isDefinition then p.placed own target
  else p.tracking.stamp p.app (p.expectedKey own) (p.placed own target)

theorem expectedKey_eq_self {p : Placement} {own : ResourceKey}
    (h : p.expectedNamespace own = own.namespace) : p.expectedKey own = own := by
  rw [expectedKey, h]

end Placement

theorem ResourceKey.namespace_of_ofObject {o : ResourceObject} {key : ResourceKey}
    (h : ofObject o = .ok key) : key.namespace = o.namespace := by
  unfold ofObject at h
  cases hg : o.group with
  | error fault =>
    rw [hg] at h
    cases h
  | ok group =>
    rw [hg] at h
    dsimp only [bind, Except.bind] at h
    split at h
    · cases h
    · cases h
    · cases h
      rfl

/-- Setting the namespace that an object has changes nothing. -/
theorem ResourceObject.setNamespace_self {o : ResourceObject} (h : o.namespace ≠ "") :
    o.setNamespace o.namespace = o := by
  unfold «namespace» metadataText metadata at h
  cases hfield : o.field? "metadata" with
  | none => simp [hfield] at h
  | some d =>
    cases d with
    | mapping fields =>
      have hmetadata : o.metadata = fields := by simp [metadata, hfield, Document.fieldsOrEmpty]
      cases hvalue : Table.get? fields "namespace" with
      | none => simp [hfield, Document.fieldsOrEmpty, hvalue] at h
      | some v =>
        cases v with
        | text s =>
          have hname : o.namespace = s := by
            simp [«namespace», metadataText, hmetadata, hvalue, Document.text?]
          have hsorted := (Document.wellFormed_mapping.mp o.wellFormed).1
          have hinner := (Document.wellFormed_mapping.mp o.wellFormed_metadata).1
          apply ext
          change Table.insert o.fields "metadata"
            (.mapping (Table.insert o.metadata "namespace" (.text o.namespace))) = o.fields
          rw [hmetadata] at hinner ⊢
          rw [hname, Table.insert_get? hinner hvalue]
          exact Table.insert_get? hsorted hfield
        | _ => simp [hfield, Document.fieldsOrEmpty, hvalue, Document.text?] at h
    | _ => simp [hfield, Document.fieldsOrEmpty] at h

section Scope

variable {live : List ResourceKey}

/-- One live object in a namespace is enough. -/
theorem isNamespaced_of_mem {key : ResourceKey} (hm : key ∈ live) (h : key.namespace ≠ "") :
    isNamespaced live key.group key.kind = true := by
  have hseen : key ∈ live.filter fun k => k.group == key.group && k.kind == key.kind :=
    List.mem_filter.mpr ⟨hm, by simp⟩
  unfold isNamespaced
  split
  next hempty =>
    rw [hempty] at hseen
    cases hseen
  next => exact List.any_eq_true.mpr ⟨key, hseen, by simpa using h⟩

/-- A kind that is live, but never in a namespace, is taken as cluster-scoped. -/
theorem isNamespaced_eq_false {key : ResourceKey} (hm : key ∈ live)
    (h : ∀ k ∈ live, k.group = key.group → k.kind = key.kind → k.namespace = "") :
    isNamespaced live key.group key.kind = false := by
  have hseen : key ∈ live.filter fun k => k.group == key.group && k.kind == key.kind :=
    List.mem_filter.mpr ⟨hm, by simp⟩
  unfold isNamespaced
  split
  next hempty =>
    rw [hempty] at hseen
    cases hseen
  next =>
    apply List.any_eq_false.mpr
    intro k hk
    obtain ⟨hmem, hkind⟩ := List.mem_filter.mp hk
    simp only [Bool.and_eq_true, beq_iff_eq] at hkind
    simp [h k hmem hkind.1 hkind.2]

end Scope

/-- If the live objects are where they are expected, a target gets its expected namespace. -/
theorem withNamespace_eq (p : Placement) {live : List ResourceKey} {own : ResourceKey}
    {target : ResourceObject} (hkey : ResourceKey.ofObject target = .ok own)
    (hm : p.expectedKey own ∈ live)
    (hlive : p.scope own.group own.kind = false →
      ∀ k ∈ live, k.group = own.group → k.kind = own.kind → k.namespace = "") :
    withNamespace live p.destination own target = (p.expectedKey own, p.placed own target) := by
  -- where nothing is due, the key is the expected one already
  have keep : p.expectedNamespace own = own.namespace →
      ¬ (own.namespace = "" ∧ p.destination ≠ "" ∧ isNamespaced live own.group own.kind = true) →
      withNamespace live p.destination own target = (p.expectedKey own, p.placed own target) := by
    intro hsame hdue
    rw [withNamespace, if_neg hdue, Placement.expectedKey_eq_self hsame, Placement.placed, hsame]
    by_cases hown : own.namespace = ""
    · rw [if_pos hown]
    · have hname := ResourceKey.namespace_of_ofObject hkey
      rw [if_neg hown, hname, ResourceObject.setNamespace_self (hname ▸ hown)]
  by_cases hown : own.namespace = ""
  · cases hs : p.scope own.group own.kind with
    | false =>
      have hexpected : p.expectedNamespace own = own.namespace := by
        simp [Placement.expectedNamespace, hown, hs]
      have hcluster := isNamespaced_eq_false hm (hlive hs)
      change isNamespaced live own.group own.kind = false at hcluster
      exact keep hexpected (by simp [hcluster])
    | true =>
      have hexpected : p.expectedNamespace own = p.destination := by
        simp [Placement.expectedNamespace, hown, hs]
      by_cases hd : p.destination = ""
      · exact keep (by rw [hexpected, hd, hown]) (by simp [hd])
      · have hplaced : (p.expectedKey own).namespace ≠ "" := by
          change p.expectedNamespace own ≠ ""
          rwa [hexpected]
        have hnamespaced := isNamespaced_of_mem hm hplaced
        rw [withNamespace, if_pos ⟨hown, hd, hnamespaced⟩, Placement.expectedKey, Placement.placed,
          hexpected, if_neg hd]
  · have hexpected : p.expectedNamespace own = own.namespace := by
      simp [Placement.expectedNamespace, hown]
    exact keep hexpected fun h => hown h.1

section Grouping

variable {α : Type} {items : List α}

theorem keysOf_map {object : α → ResourceObject} {key : α → ResourceKey}
    (h : ∀ i ∈ items, ResourceKey.ofObject (object i) = .ok (key i)) :
    keysOf (items.map object) = .ok (items.map key) := by
  induction items with
  | nil => rfl
  | cons i rest ih =>
    have hhead := h i List.mem_cons_self
    have htail := ih fun j hj => h j (List.mem_cons_of_mem _ hj)
    rw [List.map_cons, keysOf, hhead, htail]
    rfl

/-- Grouping collects the targets under their keys after namespace defaulting. -/
theorem groupByKey_ok {own : α → ResourceKey} {target : α → ResourceObject}
    {live : List ResourceObject} {liveKeys : List ResourceKey} {destination : String}
    (hlive : keysOf live = .ok liveKeys)
    (hkey : ∀ i ∈ items, ResourceKey.ofObject (target i) = .ok (own i)) :
    groupByKey (items.map target) live destination =
      .ok (Table.ofList (items.map fun i =>
        withNamespace liveKeys destination (own i) (target i))) := by
  have hzip : ((items.map own).zip (items.map target)).map
        (fun e => withNamespace liveKeys destination e.1 e.2) =
      items.map fun i => withNamespace liveKeys destination (own i) (target i) := by
    rw [List.zip_map', List.map_map]
    rfl
  unfold groupByKey namespacedTargets
  rw [hlive, keysOf_map hkey]
  exact congrArg (fun entries => Except.ok (Table.ofList entries)) hzip

/-- If the live objects are where they are expected, so are the targets after grouping. -/
theorem groupByKey_map (p : Placement) {own : α → ResourceKey} {target : α → ResourceObject}
    {live : List ResourceObject} {liveKeys : List ResourceKey} (hlive : keysOf live = .ok liveKeys)
    (hkey : ∀ i ∈ items, ResourceKey.ofObject (target i) = .ok (own i))
    (hm : ∀ i ∈ items, p.expectedKey (own i) ∈ liveKeys)
    (hscope : ∀ k ∈ liveKeys, p.scope k.group k.kind = false → k.namespace = "") :
    groupByKey (items.map target) live p.destination =
      .ok (Table.ofList (items.map fun i =>
        (p.expectedKey (own i), p.placed (own i) (target i)))) := by
  have hplaced : items.map (fun i => withNamespace liveKeys p.destination (own i) (target i)) =
      items.map fun i => (p.expectedKey (own i), p.placed (own i) (target i)) := by
    apply List.map_congr_left
    intro i hi
    apply withNamespace_eq p (hkey i hi) (hm i hi)
    intro hs k hk hgroup hkind
    exact hscope k hk (by rw [hgroup, hkind, hs])
  rw [groupByKey_ok hlive hkey, hplaced]

end Grouping

end DeployDrift
