import DeployDrift.Proofs.Drift.Answers
import DeployDrift.Proofs.Drift.InSync
import Mathlib.Data.List.Forall2

/-!
# What secrets hold

Secrets of the core group take part in all that comes before pairing: they are read, they teach which
kinds are namespaced, and they compete for their keys.  None of this looks at more than what
identifies them, and pairing drops them.  So the runs against two servers are the same if only the
contents of secrets differ.
-/
namespace DeployDrift

/-- The outcomes are one fault, or results that are related. -/
inductive SameOutcome {ε α : Type} (related : α → α → Prop) : Except ε α → Except ε α → Prop
  | error (fault : ε) : SameOutcome related (.error fault) (.error fault)
  | ok {x x' : α} (h : related x x') : SameOutcome related (.ok x) (.ok x')

namespace SameOutcome

variable {ε α β : Type} {related : α → α → Prop} {related' : β → β → Prop}
  {result result' : Except ε α}

theorem of_eq (h : result = result') : SameOutcome Eq result result' := by
  subst h
  cases result with
  | error fault => exact .error fault
  | ok x => exact .ok rfl

theorem map {f : α → β} (h : SameOutcome related result result')
    (hf : ∀ x x', related x x' → related' (f x) (f x')) :
    SameOutcome related' (f <$> result) (f <$> result') := by
  cases h with
  | error fault => exact .error fault
  | ok h => exact .ok (hf _ _ h)

theorem bind {f f' : α → Except ε β} (h : SameOutcome related result result')
    (hf : ∀ x x', related x x' → SameOutcome related' (f x) (f' x')) :
    SameOutcome related' (result >>= f) (result' >>= f') := by
  cases h with
  | error fault => exact .error fault
  | ok h => exact hf _ _ h

/-- What is related item by item comes to the same fault, or to results that are. -/
theorem mapM {f : α → Except ε β} (hf : ∀ x x', related x x' → SameOutcome related' (f x) (f x'))
    {xs xs' : List α} (h : List.Forall₂ related xs xs') :
    SameOutcome (List.Forall₂ related') (xs.mapM f) (xs'.mapM f) := by
  induction h with
  | nil => exact .ok .nil
  | cons hx _ ih =>
    rw [List.mapM_cons, List.mapM_cons]
    exact (hf _ _ hx).bind fun _ _ hy => ih.bind fun _ _ hys => .ok (.cons hy hys)

end SameOutcome

namespace ResourceObject

/-- The objects have the same identity. -/
structure Twins (o o' : ResourceObject) : Prop where
  apiVersion : o.apiVersion? = o'.apiVersion?
  kind : o.kind? = o'.kind?
  name : o.name = o'.name
  «namespace» : o.namespace = o'.namespace

theorem Twins.refl (o : ResourceObject) : o.Twins o := ⟨rfl, rfl, rfl, rfl⟩

theorem Twins.ofObject_eq {o o' : ResourceObject} (h : o.Twins o') :
    ResourceKey.ofObject o = ResourceKey.ofObject o' := by
  unfold ResourceKey.ofObject group
  rw [h.apiVersion, h.kind, h.name, h.namespace]

/-- The object is a secret of the core group. -/
def IsSecret (o : ResourceObject) : Prop :=
  ∃ key, ResourceKey.ofObject o = .ok key ∧ key.isSecret = true

end ResourceObject

theorem keysOf_eq_of_twins {objects objects' : List ResourceObject}
    (h : List.Forall₂ ResourceObject.Twins objects objects') : keysOf objects = keysOf objects' := by
  induction h with
  | nil => rfl
  | cons ho _ ih => rw [keysOf, keysOf, ho.ofObject_eq, ih]

section Answers

/-- Records that are the same, or records of one secret, with live objects of one identity. -/
inductive SameRecord : ManagedResource → ManagedResource → Prop
  | same (r : ManagedResource) : SameRecord r r
  | secret {r r' : ManagedResource} {o o' : ResourceObject} (hkey : r.key = r'.key)
      (hsecret : r.key.isSecret = true)
      (hread : ResourceObject.ofLiveState r.effectiveLiveState = .ok (some o))
      (hread' : ResourceObject.ofLiveState r'.effectiveLiveState = .ok (some o'))
      (htwins : o.Twins o') : SameRecord r r'

/-- Manifests that are the same, or manifests of secrets of one identity. -/
inductive SameManifest : String → String → Prop
  | same (manifest : String) : SameManifest manifest manifest
  | secret {manifest manifest' : String} {o o' : ResourceObject}
      (hread : ResourceObject.ofManifest manifest = .ok o)
      (hread' : ResourceObject.ofManifest manifest' = .ok o') (hsecret : o.IsSecret)
      (htwins : o.Twins o') : SameManifest manifest manifest'

/-- Entries under one key, with the same value unless it is the key of a secret. -/
structure SameEntry {α : Type} (e e' : ResourceKey × α) : Prop where
  key : e.1 = e'.1
  value : e.1.isSecret = false → e.2 = e'.2

/-- What is read from records that are the same but for secrets. -/
structure TwinRecords (r r' : LiveRecord) : Prop extends SameEntry r r' where
  live : Option.Rel ResourceObject.Twins r.2 r'.2

/-- What is read from manifests that are the same but for secrets. -/
structure TwinTargets (o o' : ResourceObject) : Prop extends o.Twins o' where
  visible : ¬ o.IsSecret → o = o'

theorem optionRel_twins_refl (live : Option ResourceObject) :
    Option.Rel ResourceObject.Twins live live := by
  cases live with
  | none => exact .none
  | some o => exact .some (.refl o)

/-- Reading the records fails alike, or gives records that differ in secrets only. -/
theorem sameOutcome_liveRecords {resources resources' : List ManagedResource}
    (h : List.Forall₂ SameRecord resources resources') :
    SameOutcome (List.Forall₂ TwinRecords) (liveRecords resources) (liveRecords resources') := by
  refine SameOutcome.mapM ?_ h
  intro r r' hr
  cases hr with
  | same =>
    exact (SameOutcome.of_eq rfl).map fun live live' hlive =>
      hlive ▸ ⟨⟨rfl, fun _ => rfl⟩, optionRel_twins_refl live⟩
  | secret hkey hsecret hread hread' htwins =>
    rw [hread, hread']
    refine .ok ⟨⟨hkey, fun hvisible => ?_⟩, .some htwins⟩
    exact absurd (hsecret.symm.trans hvisible) (by decide)

theorem targetsOf_eq_mapM (manifests : List String) :
    DriftReport.targetsOf manifests = manifests.mapM ResourceObject.ofManifest := by
  induction manifests with
  | nil => rfl
  | cons manifest rest ih =>
    rw [DriftReport.targetsOf, List.mapM_cons, ← ih]
    cases ResourceObject.ofManifest manifest with
    | error fault => rfl
    | ok target =>
      cases DriftReport.targetsOf rest with
      | error fault => rfl
      | ok targets => rfl

/-- Reading the manifests fails alike, or gives targets that differ in secrets only. -/
theorem sameOutcome_targetsOf {manifests manifests' : List String}
    (h : List.Forall₂ SameManifest manifests manifests') :
    SameOutcome (List.Forall₂ TwinTargets) (DriftReport.targetsOf manifests)
      (DriftReport.targetsOf manifests') := by
  rw [targetsOf_eq_mapM, targetsOf_eq_mapM]
  refine SameOutcome.mapM ?_ h
  intro manifest manifest' hmanifest
  cases hmanifest with
  | same =>
    cases ResourceObject.ofManifest manifest with
    | error fault => exact .error fault
    | ok o => exact .ok ⟨.refl o, fun _ => rfl⟩
  | secret hread hread' hsecret htwins =>
    rw [hread, hread']
    exact .ok ⟨htwins, fun hvisible => absurd hsecret hvisible⟩

end Answers

section Grouping

variable {targets targets' live live' : List ResourceObject} {destination : String}

/-- Filling in a namespace makes no secret and undoes none. -/
theorem isSecret_withNamespace (live : List ResourceKey) (destination : String) (key : ResourceKey)
    (target : ResourceObject) :
    (withNamespace live destination key target).1.isSecret = key.isSecret := by
  unfold withNamespace
  split
  · rfl
  · rfl

theorem key_withNamespace (live : List ResourceKey) (destination : String) (key : ResourceKey)
    (target target' : ResourceObject) :
    (withNamespace live destination key target).1 =
      (withNamespace live destination key target').1 := by
  unfold withNamespace
  split
  · rfl
  · rfl

theorem TwinTargets.sameEntry {o o' : ResourceObject} (h : TwinTargets o o') {key : ResourceKey}
    (hkey : ResourceKey.ofObject o = .ok key) (live : List ResourceKey) (destination : String) :
    SameEntry (withNamespace live destination key o) (withNamespace live destination key o') := by
  refine ⟨key_withNamespace live destination key o o', fun hvisible => ?_⟩
  rw [isSecret_withNamespace] at hvisible
  have heq : o = o' := by
    refine h.visible ?_
    rintro ⟨own, hown, hsecret⟩
    cases hkey.symm.trans hown
    exact absurd (hsecret.symm.trans hvisible) (by decide)
  rw [heq]

theorem sameEntries_withNamespace (h : List.Forall₂ TwinTargets targets targets')
    {keys : List ResourceKey} (hkeys : keysOf targets = .ok keys) (live : List ResourceKey)
    (destination : String) :
    List.Forall₂ SameEntry
      ((keys.zip targets).map fun (key, target) => withNamespace live destination key target)
      ((keys.zip targets').map fun (key, target) => withNamespace live destination key target) := by
  induction h generalizing keys with
  | nil =>
    cases hkeys
    exact .nil
  | cons ho _ ih =>
    rw [keysOf] at hkeys
    obtain ⟨key, hkey, hkeys⟩ := exists_of_bind_ok hkeys
    obtain ⟨rest, hrest, hkeys⟩ := exists_of_bind_ok hkeys
    cases hkeys
    exact .cons (ho.sameEntry hkey live destination) (ih hrest)

/-- Warnings name keys only. -/
theorem groupingWarnings_eq (htargets : List.Forall₂ TwinTargets targets targets')
    (hlive : List.Forall₂ ResourceObject.Twins live live') (destination : String) :
    groupingWarnings targets live destination = groupingWarnings targets' live' destination := by
  unfold groupingWarnings
  rw [keysOf_eq_of_twins hlive]
  cases keysOf live' with
  | error fault => rfl
  | ok liveKeys =>
    have hkeyed : List.Forall₂ Eq
        (targets.map fun t => (ResourceKey.ofObject t).map fun k =>
          (withNamespace liveKeys destination k t).1)
        (targets'.map fun t => (ResourceKey.ofObject t).map fun k =>
          (withNamespace liveKeys destination k t).1) := by
      refine List.rel_map (fun o o' (ho : TwinTargets o o') => ?_) htargets
      rw [ho.ofObject_eq]
      congr 1
      funext key
      exact key_withNamespace liveKeys destination key o o'
    rw [List.forall₂_eq_eq_eq] at hkeyed
    dsimp only
    rw [hkeyed]

/-- The tables have the same under every key but those of secrets. -/
structure SameTable (table table' : ResourceTable) : Prop where
  sorted : Table.Sorted table
  sorted' : Table.Sorted table'
  visible : ∀ key, key.isSecret = false → table.get? key = table'.get? key

/-- Entries under the key of no secret are the same on both sides. -/
theorem filter_key_eq {α : Type} {entries entries' : List (ResourceKey × α)}
    (h : List.Forall₂ SameEntry entries entries') {key : ResourceKey}
    (hkey : key.isSecret = false) :
    (entries.filter fun e => e.1 = key) = entries'.filter fun e => e.1 = key := by
  induction h with
  | nil => rfl
  | @cons e e' rest rest' he _ ih =>
    rw [List.filter_cons, List.filter_cons, ih, ← he.key]
    by_cases hown : e.1 = key
    · have heq : e = e' := Prod.ext he.key (he.value (hown ▸ hkey))
      rw [heq]
    · simp only [hown, decide_false, Bool.false_eq_true, if_false]

/-- The last entry of a key is the last one of those with the key. -/
theorem sameTable_ofList {entries entries' : List (ResourceKey × ResourceObject)}
    (h : List.Forall₂ SameEntry entries entries') :
    SameTable (Table.ofList entries) (Table.ofList entries') := by
  refine ⟨Table.sorted_ofList entries, Table.sorted_ofList entries', fun key hkey => ?_⟩
  have hfilter := filter_key_eq h hkey
  rw [Table.get?_ofList, Table.get?_ofList, ← List.head?_filter, ← List.head?_filter,
    List.filter_reverse, List.filter_reverse]
  exact congrArg (fun found => found.reverse.head?.map (·.2)) hfilter

/-- Grouping asks the objects for nothing but their identity: it fails alike, or its tables
agree but for secrets. -/
theorem sameOutcome_groupByKey (htargets : List.Forall₂ TwinTargets targets targets')
    (hlive : List.Forall₂ ResourceObject.Twins live live') (destination : String) :
    SameOutcome SameTable (groupByKey targets live destination)
      (groupByKey targets' live' destination) := by
  refine SameOutcome.map ?_ fun entries entries' => sameTable_ofList
  unfold namespacedTargets
  have hkeys : keysOf targets = keysOf targets' :=
    keysOf_eq_of_twins (htargets.imp fun _ _ ho => ho.toTwins)
  rw [keysOf_eq_of_twins hlive, ← hkeys]
  refine (SameOutcome.of_eq rfl).bind ?_
  rintro liveKeys _ rfl
  cases h : keysOf targets with
  | error fault => exact .error fault
  | ok keys => exact .ok (sameEntries_withNamespace htargets h liveKeys destination)

end Grouping

section Pairing

variable {records records' : List LiveRecord} {targets targets' : ResourceTable}

theorem lastLive?_filter (records : List LiveRecord) (key : ResourceKey) :
    lastLive? (records.filter fun r => r.1 = key) key = lastLive? records key := by
  induction records using List.reverseRecOn with
  | nil => rfl
  | append_singleton rest r ih =>
    rw [List.filter_append, lastLive?_append, ← ih]
    by_cases hown : r.1 = key
    · simp [hown, lastLive?_append]
    · simp [hown]

/-- Pairing does not look at what secrets hold. -/
theorem pairForDrift_eq (hrecords : List.Forall₂ TwinRecords records records')
    (htargets : SameTable targets targets') (tracking : Tracking) (app : String) :
    pairForDrift records targets tracking app = pairForDrift records' targets' tracking app := by
  have hentries : List.Forall₂ SameEntry records records' :=
    hrecords.imp fun _ _ hr => hr.toSameEntry
  refine Table.ext (sorted_pairForDrift _ _ _ _) (sorted_pairForDrift _ _ _ _) fun key => ?_
  rw [get?_pairForDrift htargets.sorted, get?_pairForDrift htargets.sorted']
  cases hkey : key.isSecret with
  | true => rfl
  | false =>
    have hfilter := filter_key_eq hentries hkey
    have hlast : lastLive? records key = lastLive? records' key := by
      rw [← lastLive?_filter records, hfilter, lastLive?_filter]
    rw [sidesUnder, sidesUnder, hlast, hasLaterLive, hasLaterLive, hfilter,
      htargets.visible key hkey]

/-- No secret is paired. -/
theorem isSecret_of_mem_pairForDrift (hs : Table.Sorted targets) {tracking : Tracking} {app : String}
    {e : ResourceKey × Sides} (h : e ∈ pairForDrift records targets tracking app) :
    e.1.isSecret = false := by
  have hget := (Table.get?_eq_some_iff (sorted_pairForDrift records targets tracking app)).mpr h
  rw [get?_pairForDrift hs] at hget
  split at hget
  next hvisible => exact hvisible
  next => cases hget

end Pairing

namespace DiffAction

open DriftReport

section Steps

variable {β : Type} {services services' : Services}

theorem matches_orFail {ε α : Type} {related : α → α → Prop} {result result' : Except ε α}
    {failure : ε → Failure} {next next' : α → Program (Except Failure β)}
    (h : SameOutcome related result result')
    (hnext : ∀ x x', related x x' → (next x).Matches services services' (next' x')) :
    (orFail result failure next).Matches services services' (orFail result' failure next') := by
  cases h with
  | error fault => exact .done _
  | ok h => exact hnext _ _ h

theorem matches_ask {c : Call} {operation : String} {related : c.Result → c.Result → Prop}
    {next next' : c.Result → Program (Except Failure β)}
    (h : SameOutcome related (services c).outcome (services' c).outcome)
    (hnext : ∀ x x', related x x' → (next x).Matches services services' (next' x')) :
    (askOrFail c operation next).Matches services services' (askOrFail c operation next') :=
  .call c (matches_orFail h hnext)

theorem matches_warn {messages messages' : List String} (h : messages = messages')
    {next next' : Program β} (hnext : next.Matches services services' next') :
    (warn messages next).Matches services services' (warn messages' next') := by
  subst h
  induction messages with
  | nil => exact hnext
  | cons message rest ih => exact .log _ ih

end Steps

/-- The servers answer the calls of the action alike, except for what secrets hold. -/
structure DifferInSecrets (a : DiffAction) (services services' : Services) : Prop where
  application :
    (services (.application a.app.name a.app.namespace
      (Refresh.ofFlags a.refresh a.hardRefresh))).outcome =
      (services' (.application a.app.name a.app.namespace
        (Refresh.ofFlags a.refresh a.hardRefresh))).outcome
  managed : SameOutcome (List.Forall₂ SameRecord)
    (services (.managedResources a.app.name a.app.namespace)).outcome
    (services' (.managedResources a.app.name a.app.namespace)).outcome
  manifests : SameOutcome (List.Forall₂ SameManifest)
    (services (.manifests a.app.name a.app.namespace a.revision)).outcome
    (services' (.manifests a.app.name a.app.namespace a.revision)).outcome
  settings : (services .settings).outcome = (services' .settings).outcome

section Runs

variable {a : DiffAction} {services services' : Services}

/-- The two servers are asked the same at every stage, and what is done with the answers
differs in secrets only. -/
theorem matches_program (h : a.DifferInSecrets services services') :
    a.program.Matches services services' a.program := by
  refine matches_ask (.of_eq h.application) fun app _ happ => ?_
  subst happ
  refine matches_ask h.managed fun resources resources' hresources => ?_
  refine matches_orFail (sameOutcome_liveRecords hresources) fun records records' hrecords => ?_
  refine matches_ask h.manifests fun manifests manifests' hmanifests => ?_
  refine matches_orFail (sameOutcome_targetsOf hmanifests) fun targets targets' htargets => ?_
  have hlive : List.Forall₂ ResourceObject.Twins (records.filterMap (·.2))
      (records'.filterMap (·.2)) := by
    refine List.rel_filterMap (fun r r' (hr : TwinRecords r r') => hr.live) hrecords
  refine matches_warn (groupingWarnings_eq htargets hlive _) ?_
  refine matches_orFail (sameOutcome_groupByKey htargets hlive _) fun grouped grouped' hgrouped => ?_
  refine matches_ask (.of_eq h.settings) fun settings _ hsettings => ?_
  subst hsettings
  refine matches_warn rfl (matches_orFail (.of_eq rfl) fun config _ hconfig => ?_)
  subst hconfig
  rw [pairForDrift_eq hrecords hgrouped]
  exact matches_warn rfl (.done _)

/-- No secret is reported. -/
theorem isSecret_of_mem_report {report : DriftReport}
    (h : (a.program.run services).outcome = .ok report) {d : ResourceDrift}
    (hd : d ∈ report.resources) : d.key.isSecret = false := by
  obtain ⟨r⟩ := Answers.exists_of_outcome h
  obtain ⟨-, hdrifts⟩ := r.driftOfAll_of_outcome h
  obtain ⟨e, he, hdrift⟩ := (mem_driftOfAll_iff hdrifts).mp hd
  rw [(of_driftOf hdrift).1]
  exact isSecret_of_mem_pairForDrift (Table.sorted_ofList _) he

/-- What secrets hold makes no difference to a run, whether under a deadline or not, and no secret is
reported. -/
theorem run_independent_of_secrets (a : DiffAction) (services services' : Services)
    (h : a.DifferInSecrets services services') :
    a.program.run services = a.program.run services' ∧
      ((∀ c, (services c).delay = (services' c).delay) → a.run services = a.run services') ∧
      ∀ report, (a.program.run services).outcome = .ok report ∨
        (a.run services).outcome = .ok report →
          ∀ d ∈ report.resources, d.key.isSecret = false := by
  have hmatches := matches_program h
  refine ⟨hmatches.run_eq, ?_, ?_⟩
  · intro hdelay
    unfold run
    cases Deadline.start a.timeout with
    | error fault => rfl
    | ok deadline =>
      dsimp only
      rw [hmatches.runWithin_eq hdelay]
  · rintro report (hreport | hreport) d hd
    · exact isSecret_of_mem_report hreport hd
    · exact isSecret_of_mem_report (outcome_of_run_ok hreport) hd

end Runs

section Vault

/-- A secret with some data, as it is declared and as it is deployed. -/
def vaultText (data : String) : String :=
  "\x7b\"apiVersion\":\"v1\",\"kind\":\"Secret\",\"metadata\":\x7b\"name\":\"vault\"," ++
    "\"namespace\":\"prod\"\x7d,\"data\":\x7b\"key\":\"" ++ data ++ "\"\x7d\x7d"

def vaultFields (data : String) : Fields := [
  ("apiVersion", .text "v1"),
  ("data", .mapping [("key", .text data)]),
  ("kind", .text "Secret"),
  ("metadata", .mapping [("name", .text "vault"), ("namespace", .text "prod")])]

/-- The secret as the first server tells of it, and as the second one does. -/
def vaults : ResourceObject × ResourceObject :=
  (⟨vaultFields "b25l", by decide⟩, ⟨vaultFields "dHdv", by decide⟩)

/-- A server that tells of `shop` with a secret. -/
def vaultServer (data : String) : Services
  | .application .. => ⟨0, .ok shop⟩
  | .managedResources .. =>
    ⟨0, .ok [⟨"", "Secret", "prod", "vault", "", vaultText data, ""⟩, shopMode.record]⟩
  | .manifests .. => ⟨0, .ok [vaultText data, shopMode.manifest]⟩
  | .settings => ⟨0, .ok shopSettings⟩
  | .sync .. => ⟨0, .ok ()⟩

theorem twins_vaults : vaults.1.Twins vaults.2 := ⟨rfl, rfl, rfl, rfl⟩

/-- The secret has another key on each server, and the runs are the same. -/
theorem run_independent_of_vault :
    vaultText "b25l" ≠ vaultText "dHdv" ∧
      diffShop.program.run (vaultServer "b25l") = diffShop.program.run (vaultServer "dHdv") ∧
      diffShop.run (vaultServer "b25l") = diffShop.run (vaultServer "dHdv") := by
  have hsecret : vaults.1.IsSecret := ⟨⟨"", "Secret", "prod", "vault"⟩, by decide, by decide⟩
  have hrecord : SameRecord ⟨"", "Secret", "prod", "vault", "", vaultText "b25l", ""⟩
      ⟨"", "Secret", "prod", "vault", "", vaultText "dHdv", ""⟩ :=
    .secret rfl (by decide) (by decide +kernel) (by decide +kernel) twins_vaults
  have hmanifest : SameManifest (vaultText "b25l") (vaultText "dHdv") :=
    .secret (by decide +kernel) (by decide +kernel) hsecret twins_vaults
  have hdiffer : diffShop.DifferInSecrets (vaultServer "b25l") (vaultServer "dHdv") :=
    { application := rfl
      managed := .ok (.cons hrecord (.cons (.same _) .nil))
      manifests := .ok (.cons hmanifest (.cons (.same _) .nil))
      settings := rfl }
  obtain ⟨hprogram, hrun, -⟩ := run_independent_of_secrets diffShop _ _ hdiffer
  refine ⟨by decide +kernel, hprogram, hrun ?_⟩
  rintro (_ | _ | _ | _ | _)
  all_goals rfl

end Vault
end DiffAction
end DeployDrift
