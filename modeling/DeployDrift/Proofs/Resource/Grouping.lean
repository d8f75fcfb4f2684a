import DeployDrift.Proofs.Resource.Metadata
import DeployDrift.Proofs.Resource.Placement

/-!
# What grouping gives

Grouping fails with the fault of the first object that has no key, and otherwise gives a table that
is described here without it: its keys are the final keys of the targets, under each stands the last
target with it, and each object in it carries the key that it stands under.  So grouping the objects
of the table once more gives the table again.
-/
namespace DeployDrift

/-- Why the object has no key, if it has none. -/
def ResourceObject.keyFault? (o : ResourceObject) : Option ResourceFault :=
  match ResourceKey.ofObject o with
  | .error fault => some fault
  | .ok _ => none

section Reference

variable (live : List ResourceObject) (destination : String)

/-- Some live object is of the kind, and its key meets the condition. -/
def SeenLive (group kind : String) (condition : ResourceKey → Prop) : Prop :=
  ∃ o ∈ live, ∃ key, ResourceKey.ofObject o = .ok key ∧ key.group = group ∧ key.kind = kind ∧
    condition key

/-- A live object of the kind has a namespace, or the kind is neither live nor well known to be
cluster-scoped. -/
def NamespacedKind (group kind : String) : Prop :=
  SeenLive live group kind (·.namespace ≠ "") ∨
    ¬ SeenLive live group kind (fun _ => True) ∧ (group, kind) ∉ clusterScopedKinds

/-- The destination namespace is to be filled in. -/
def NamespaceDue (own : ResourceKey) : Prop :=
  own.namespace = "" ∧ destination ≠ "" ∧ NamespacedKind live own.group own.kind

/-- The key that a target is grouped under. -/
def FinalKey (target : ResourceObject) (key : ResourceKey) : Prop :=
  ∃ own, ResourceKey.ofObject target = .ok own ∧
    (NamespaceDue live destination own ∧ key = { own with «namespace» := destination } ∨
      ¬ NamespaceDue live destination own ∧ key = own)

end Reference

/-- The object is the target with a namespace in its metadata, which is created, or replaced if it
is no mapping. -/
structure Renamespaced (target : ResourceObject) (value : String) (stored : ResourceObject) :
    Prop where
  beside : ∀ field, field ≠ "metadata" → stored.field? field = target.field? field
  inside : ∃ metadata, stored.field? "metadata" = some (.mapping metadata) ∧
    Table.get? metadata "namespace" = some (.text value) ∧
    ∀ field, field ≠ "namespace" → Table.get? metadata field = Table.get? target.metadata field

/-- What grouping targets gives. -/
structure Grouped (targets live : List ResourceObject) (destination : String)
    (table : ResourceTable) : Prop where
  ascending : Table.Sorted table
  keys : ∀ key, key ∈ table.keys ↔ ∃ target ∈ targets, FinalKey live destination target key
  /-- Under a key stands the last target that has it as its final key. -/
  last : ∀ key stored, (key, stored) ∈ table →
    ∃ before target after, targets = before ++ target :: after ∧
      FinalKey live destination target key ∧
      (∀ t ∈ after, ¬ FinalKey live destination t key) ∧
      (ResourceKey.ofObject target = .ok key ∧ stored = target ∨
        ResourceKey.ofObject target ≠ .ok key ∧ Renamespaced target destination stored)
  carried : ∀ key stored, (key, stored) ∈ table → ResourceKey.ofObject stored = .ok key
  again : groupByKey (table.map (·.2)) live destination = .ok table

/-- The key of the object, if it has one. -/
def ResourceObject.ownKey (o : ResourceObject) : ResourceKey :=
  (ResourceKey.ofObject o).toOption.getD default

section Faults

variable {objects : List ResourceObject}

/-- The first object without a key decides about the fault. -/
theorem keysOf_of_fault {fault : ResourceFault}
    (h : objects.findSome? ResourceObject.keyFault? = some fault) :
    keysOf objects = .error fault := by
  induction objects with
  | nil => cases h
  | cons o rest ih =>
    rw [List.findSome?_cons] at h
    cases hkey : ResourceKey.ofObject o with
    | error e =>
      have hfault : o.keyFault? = some e := by rw [ResourceObject.keyFault?, hkey]
      rw [hfault] at h
      cases h
      rw [keysOf, hkey]
      rfl
    | ok key =>
      have hnone : o.keyFault? = none := by rw [ResourceObject.keyFault?, hkey]
      rw [hnone] at h
      rw [keysOf, hkey, ih h]
      rfl

theorem ofObject_of_no_fault (h : objects.findSome? ResourceObject.keyFault? = none) :
    ∀ o ∈ objects, ResourceKey.ofObject o = .ok o.ownKey := by
  intro o hm
  have hnone : o.keyFault? = none := List.findSome?_eq_none_iff.mp h o hm
  cases hkey : ResourceKey.ofObject o with
  | error fault =>
    rw [ResourceObject.keyFault?, hkey] at hnone
    cases hnone
  | ok key => rw [ResourceObject.ownKey, hkey]; rfl

end Faults

section Scope

variable {live : List ResourceObject}

theorem seenLive_iff (hlive : ∀ o ∈ live, ResourceKey.ofObject o = .ok o.ownKey)
    (group kind : String) (condition : ResourceKey → Prop) :
    SeenLive live group kind condition ↔
      ∃ k ∈ live.map ResourceObject.ownKey, k.group = group ∧ k.kind = kind ∧ condition k := by
  constructor
  · rintro ⟨o, ho, key, hkey, hcondition⟩
    have hown := hlive o ho
    rw [hkey] at hown
    cases hown
    exact ⟨o.ownKey, List.mem_map_of_mem ho, hcondition⟩
  · rintro ⟨k, hk, hcondition⟩
    obtain ⟨o, ho, rfl⟩ := List.mem_map.mp hk
    exact ⟨o, ho, o.ownKey, hlive o ho, hcondition⟩

/-- A kind is taken as namespaced by what is seen live of it, and by the table of known
kinds where nothing is. -/
theorem isNamespaced_iff (hlive : ∀ o ∈ live, ResourceKey.ofObject o = .ok o.ownKey)
    (group kind : String) :
    isNamespaced (live.map ResourceObject.ownKey) group kind = true ↔
      NamespacedKind live group kind := by
  rw [NamespacedKind, seenLive_iff hlive, seenLive_iff hlive]
  unfold isNamespaced
  have hseen : ∀ k, k ∈ (live.map ResourceObject.ownKey).filter
      (fun k => k.group == group && k.kind == kind) ↔
        k ∈ live.map ResourceObject.ownKey ∧ k.group = group ∧ k.kind = kind := by
    intro k
    simp [List.mem_filter]
  split
  next hempty =>
    rw [hempty] at hseen
    have hnone : ∀ k ∈ live.map ResourceObject.ownKey, ¬ (k.group = group ∧ k.kind = kind) :=
      fun k hk hkind => List.not_mem_nil ((hseen k).mpr ⟨hk, hkind⟩)
    constructor
    · intro h
      refine .inr ⟨?_, by simpa using h⟩
      rintro ⟨k, hk, hgroup, hkind, -⟩
      exact hnone k hk ⟨hgroup, hkind⟩
    · rintro (⟨k, hk, hgroup, hkind, -⟩ | ⟨-, hscope⟩)
      · exact absurd ⟨hgroup, hkind⟩ (hnone k hk)
      · simpa using hscope
  next hsome =>
    rw [List.any_eq_true]
    constructor
    · rintro ⟨k, hk, hnamespace⟩
      obtain ⟨hm, hgroup, hkind⟩ := (hseen k).mp hk
      exact .inl ⟨k, hm, hgroup, hkind, by simpa using hnamespace⟩
    · rintro (⟨k, hk, hgroup, hkind, hnamespace⟩ | ⟨hnone, -⟩)
      · exact ⟨k, (hseen k).mpr ⟨hk, hgroup, hkind⟩, by simpa using hnamespace⟩
      · exfalso
        obtain ⟨k, hk⟩ := List.exists_mem_of_ne_nil _ hsome
        obtain ⟨hm, hgroup, hkind⟩ := (hseen k).mp hk
        exact hnone ⟨k, hm, hgroup, hkind, trivial⟩

end Scope

namespace ResourceObject

variable (o : ResourceObject) (value : String)

theorem field?_setNamespace {field : String} (h : field ≠ "metadata") :
    (o.setNamespace value).field? field = o.field? field := by
  change Table.get? (Table.insert o.fields "metadata" _) field = _
  rw [Table.get?_insert, if_neg h]
  rfl

theorem metadata_setNamespace :
    (o.setNamespace value).metadata = Table.insert o.metadata "namespace" (.text value) :=
  metadata_setMetadata o _ _

theorem renamespaced_setNamespace : Renamespaced o value (o.setNamespace value) where
  beside := fun _ h => o.field?_setNamespace value h
  inside := by
    refine ⟨Table.insert o.metadata "namespace" (.text value), ?_, ?_, ?_⟩
    · change Table.get? (Table.insert o.fields "metadata" _) "metadata" = _
      rw [Table.get?_insert, if_pos rfl]
    · rw [Table.get?_insert, if_pos rfl]
    · intro field h
      rw [Table.get?_insert, if_neg h]

theorem ofObject_eq_ok_iff {o : ResourceObject} {key : ResourceKey} :
    ResourceKey.ofObject o = .ok key ↔
      o.group = .ok key.group ∧ o.kind? = some key.kind ∧ key.kind ≠ "" ∧
        key.namespace = o.namespace ∧ key.name = o.name := by
  rw [ResourceKey.ofObject]
  cases o.group with
  | error fault => simp [bind, Except.bind]
  | ok group =>
    dsimp only [bind, Except.bind]
    split
    next hnone => simp [hnone]
    next hempty =>
      rw [hempty]
      constructor
      · intro h
        cases h
      · rintro ⟨-, hkind, hne, -⟩
        exact absurd (Option.some.inj hkind).symm hne
    next kind hne hkind =>
      rw [hkind]
      constructor
      · intro h
        cases h
        exact ⟨rfl, rfl, hne, rfl, rfl⟩
      · rintro ⟨hg, hk, -, hnamespace, hname⟩
        obtain ⟨g, k, ns, n⟩ := key
        cases hg
        cases hk
        cases hnamespace
        cases hname
        rfl

/-- An object keeps its group, kind and name when its namespace is set. -/
theorem ofObject_setNamespace {own : ResourceKey} (h : ResourceKey.ofObject o = .ok own) :
    ResourceKey.ofObject (o.setNamespace value) =
      .ok { own with «namespace» := value } := by
  obtain ⟨hgroup, hkind, hne, -, hname⟩ := ofObject_eq_ok_iff.mp h
  rw [ofObject_eq_ok_iff]
  refine ⟨?_, ?_, hne, ?_, ?_⟩
  · rw [group, apiVersion?, field?_setNamespace o value (by decide)]
    exact hgroup
  · rw [kind?, field?_setNamespace o value (by decide)]
    exact hkind
  · rw [«namespace», metadataText, metadata_setNamespace, Table.get?_insert, if_pos rfl]
    rfl
  · rw [name, metadataText, metadata_setNamespace, Table.get?_insert, if_neg (by decide)]
    exact hname

end ResourceObject

section Targets

variable {live : List ResourceObject} {destination : String} {target : ResourceObject}
  {own : ResourceKey}

theorem withNamespace_cases (hlive : ∀ o ∈ live, ResourceKey.ofObject o = .ok o.ownKey)
    (destination : String) (own : ResourceKey) (target : ResourceObject) :
    NamespaceDue live destination own ∧
        withNamespace (live.map ResourceObject.ownKey) destination own target =
          ({ own with «namespace» := destination }, target.setNamespace destination) ∨
      ¬ NamespaceDue live destination own ∧
        withNamespace (live.map ResourceObject.ownKey) destination own target = (own, target) := by
  rw [withNamespace, NamespaceDue, ← isNamespaced_iff hlive]
  by_cases hdue : own.namespace = "" ∧ destination ≠ "" ∧
      isNamespaced (live.map ResourceObject.ownKey) own.group own.kind = true
  · exact .inl ⟨hdue, if_pos hdue⟩
  · exact .inr ⟨hdue, if_neg hdue⟩

theorem finalKey_iff (hlive : ∀ o ∈ live, ResourceKey.ofObject o = .ok o.ownKey)
    (hkey : ResourceKey.ofObject target = .ok own) (key : ResourceKey) :
    FinalKey live destination target key ↔
      (withNamespace (live.map ResourceObject.ownKey) destination own target).1 = key := by
  have hown : FinalKey live destination target key ↔
      NamespaceDue live destination own ∧ key = { own with «namespace» := destination } ∨
        ¬ NamespaceDue live destination own ∧ key = own := by
    constructor
    · rintro ⟨other, hother, hfinal⟩
      rw [hkey] at hother
      cases hother
      exact hfinal
    · exact fun hfinal => ⟨own, hkey, hfinal⟩
  rw [hown]
  rcases withNamespace_cases hlive destination own target with ⟨hdue, heq⟩ | ⟨hdue, heq⟩
  · simp [hdue, heq, eq_comm]
  · simp [hdue, heq, eq_comm]

theorem ofObject_withNamespace (live : List ResourceKey) (destination : String)
    (hkey : ResourceKey.ofObject target = .ok own) :
    ResourceKey.ofObject (withNamespace live destination own target).2 =
      .ok (withNamespace live destination own target).1 := by
  rw [withNamespace]
  split
  · exact target.ofObject_setNamespace destination hkey
  · exact hkey

/-- A namespace is filled in once. -/
theorem withNamespace_again (live : List ResourceKey) (destination : String) (own : ResourceKey)
    (target : ResourceObject) :
    withNamespace live destination (withNamespace live destination own target).1
        (withNamespace live destination own target).2 =
      withNamespace live destination own target := by
  by_cases hdue : own.namespace = "" ∧ destination ≠ "" ∧
      isNamespaced live own.group own.kind = true
  · have hplaced : withNamespace live destination own target =
        (⟨own.group, own.kind, destination, own.name⟩, target.setNamespace destination) :=
      if_pos hdue
    rw [hplaced, withNamespace, if_neg fun h => hdue.2.1 h.1]
  · have hplaced : withNamespace live destination own target = (own, target) := if_neg hdue
    rw [hplaced, hplaced]

/-- A target is stored as it is, or with the destination for its namespace. -/
theorem stored_cases (hlive : ∀ o ∈ live, ResourceKey.ofObject o = .ok o.ownKey)
    (hkey : ResourceKey.ofObject target = .ok own) {key : ResourceKey} {stored : ResourceObject}
    (h : withNamespace (live.map ResourceObject.ownKey) destination own target = (key, stored)) :
    ResourceKey.ofObject target = .ok key ∧ stored = target ∨
      ResourceKey.ofObject target ≠ .ok key ∧ Renamespaced target destination stored := by
  rcases withNamespace_cases hlive destination own target with ⟨hdue, heq⟩ | ⟨-, heq⟩
  · rw [heq] at h
    cases h
    refine .inr ⟨?_, target.renamespaced_setNamespace destination⟩
    intro hsame
    rw [hkey] at hsame
    obtain ⟨hempty, hne, -⟩ := hdue
    have hnamespace : own.namespace = destination :=
      congrArg ResourceKey.namespace (Except.ok.inj hsame)
    exact hne (hnamespace.symm.trans hempty)
  · rw [heq] at h
    cases h
    exact .inl ⟨hkey, rfl⟩

end Targets

/-- The targets under their final keys, where every object has a key. -/
def placedTargets (targets live : List ResourceObject) (destination : String) :
    List (ResourceKey × ResourceObject) :=
  targets.map fun t => withNamespace (live.map ResourceObject.ownKey) destination t.ownKey t

section Table

variable {targets live : List ResourceObject}

theorem carried_placedTargets (htargets : ∀ o ∈ targets, ResourceKey.ofObject o = .ok o.ownKey)
    (live : List ResourceObject) (destination : String) :
    ∀ e ∈ Table.ofList (placedTargets targets live destination),
      ResourceKey.ofObject e.2 = .ok e.1 := by
  intro e he
  obtain ⟨t, ht, rfl⟩ := List.mem_map.mp (Table.mem_ofList he)
  exact ofObject_withNamespace (live.map ResourceObject.ownKey) destination (htargets t ht)

theorem keysOf_live (hlive : ∀ o ∈ live, ResourceKey.ofObject o = .ok o.ownKey) :
    keysOf live = .ok (live.map ResourceObject.ownKey) := by
  have hkeys : keysOf (live.map id) = .ok (live.map ResourceObject.ownKey) := keysOf_map hlive
  rwa [List.map_id] at hkeys

theorem groupByKey_placedTargets (hlive : ∀ o ∈ live, ResourceKey.ofObject o = .ok o.ownKey)
    (htargets : ∀ o ∈ targets, ResourceKey.ofObject o = .ok o.ownKey) (destination : String) :
    groupByKey targets live destination =
      .ok (Table.ofList (placedTargets targets live destination)) := by
  have hgroup : groupByKey (targets.map id) live destination =
      .ok (Table.ofList (placedTargets targets live destination)) :=
    groupByKey_ok (keysOf_live hlive) htargets
  rwa [List.map_id] at hgroup

/-- Grouping the objects of the table changes none and brings each back to its place. -/
theorem groupByKey_again (hlive : ∀ o ∈ live, ResourceKey.ofObject o = .ok o.ownKey)
    (htargets : ∀ o ∈ targets, ResourceKey.ofObject o = .ok o.ownKey) (destination : String) :
    groupByKey ((Table.ofList (placedTargets targets live destination)).map (·.2)) live
        destination = .ok (Table.ofList (placedTargets targets live destination)) := by
  have hsame : (Table.ofList (placedTargets targets live destination)).map
      (fun e => withNamespace (live.map ResourceObject.ownKey) destination e.1 e.2) =
        Table.ofList (placedTargets targets live destination) := by
    refine (List.map_congr_left ?_).trans (List.map_id _)
    intro e he
    obtain ⟨t, -, rfl⟩ := List.mem_map.mp (Table.mem_ofList he)
    exact withNamespace_again _ destination t.ownKey t
  rw [groupByKey_ok (keysOf_live hlive) (carried_placedTargets htargets live destination), hsame,
    Table.ofList_eq_self (Table.sorted_ofList _)]

/-- Placing the targets one by one and keeping the last of each key gives what grouping has
to give. -/
theorem grouped_placedTargets (hlive : ∀ o ∈ live, ResourceKey.ofObject o = .ok o.ownKey)
    (htargets : ∀ o ∈ targets, ResourceKey.ofObject o = .ok o.ownKey) (destination : String) :
    Grouped targets live destination (Table.ofList (placedTargets targets live destination)) where
  ascending := Table.sorted_ofList _
  keys := by
    intro key
    rw [Table.mem_keys_ofList]
    constructor
    · rintro ⟨e, he, hkey⟩
      obtain ⟨t, ht, rfl⟩ := List.mem_map.mp he
      exact ⟨t, ht, (finalKey_iff hlive (htargets t ht) key).mpr hkey⟩
    · rintro ⟨t, ht, hfinal⟩
      exact ⟨_, List.mem_map_of_mem ht, (finalKey_iff hlive (htargets t ht) key).mp hfinal⟩
  last := by
    intro key stored hm
    have hget := (Table.get?_eq_some_iff (Table.sorted_ofList _)).mpr hm
    obtain ⟨placedBefore, placedAfter, hsplit, hlater⟩ := Table.get?_ofList_eq_some_iff.mp hget
    obtain ⟨before, rest, rfl, -, hrest⟩ := List.map_eq_append_iff.mp hsplit
    obtain ⟨target, after, rfl, hplaced, rfl⟩ := List.map_eq_cons_iff.mp hrest
    have htarget := htargets target (by simp)
    refine ⟨before, target, after, rfl, ?_, ?_, stored_cases hlive htarget hplaced⟩
    · rw [finalKey_iff hlive htarget, hplaced]
    · intro t ht hfinal
      have hkey := htargets t (by simp [ht])
      exact hlater _ (List.mem_map_of_mem ht) ((finalKey_iff hlive hkey key).mp hfinal)
  carried := fun key stored hm =>
    carried_placedTargets htargets live destination (key, stored) hm
  again := groupByKey_again hlive htargets destination

end Table

/-- Grouping fails with the fault of the first object without a key, live objects first; if every
object has one it gives what the reference says. -/
theorem groupByKey_exact (targets live : List ResourceObject) (destination : String) :
    match (live ++ targets).findSome? ResourceObject.keyFault? with
    | some fault => groupByKey targets live destination = .error fault
    | none => ∃ table, groupByKey targets live destination = .ok table ∧
        Grouped targets live destination table := by
  rw [List.findSome?_append]
  cases hlive : live.findSome? ResourceObject.keyFault? with
  | some fault =>
    change groupByKey targets live destination = .error fault
    rw [groupByKey, namespacedTargets, keysOf_of_fault hlive]
    rfl
  | none =>
    have hliveKeys := ofObject_of_no_fault hlive
    cases htargets : targets.findSome? ResourceObject.keyFault? with
    | some fault =>
      change groupByKey targets live destination = .error fault
      rw [groupByKey, namespacedTargets, keysOf_live hliveKeys, keysOf_of_fault htargets]
      rfl
    | none =>
      have htargetKeys := ofObject_of_no_fault htargets
      exact ⟨_, groupByKey_placedTargets hliveKeys htargetKeys destination,
        grouped_placedTargets hliveKeys htargetKeys destination⟩

end DeployDrift
