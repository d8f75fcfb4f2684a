import DeployDrift.Proofs.Drift.Answers
import DeployDrift.Proofs.Drift.InSync

/-!
# The report is the drift

If no two managed resources are recorded under one key, a report lists what has drifted and nothing
else.  Whether something is a hook is asked of the documents as the server gives them: that
manifests get a namespace and a mark before they are compared makes no hook and hides none.
-/
namespace DeployDrift

theorem ResourceObject.isHook_mark (o : ResourceObject) (t : Tracking) (app : String)
    (key : ResourceKey) : (t.mark app key o).isHook = o.isHook := by
  unfold Tracking.mark
  split
  · rfl
  · exact o.isHook_stamp t app key

theorem Declaration.isHook_target {live : List ResourceKey} {destination : String}
    (d : Declaration live destination) : d.target.isHook = d.manifest.isHook :=
  isHook_withNamespace live destination d.own d.manifest

theorem Sides.Drifted.present {config : DriftConfig} {key : ResourceKey} {s : Sides}
    (h : s.Drifted config key) : s.live.isSome = true ∨ s.target.isSome = true := by
  obtain ⟨live, target⟩ := s
  cases live with
  | some live => exact .inl rfl
  | none =>
    cases target with
    | some target => exact .inr rfl
    | none => cases h

namespace DiffAction

open DriftReport

namespace Answers

variable {a : DiffAction} {services : Services}

/-- The live object in the first record under a key. -/
def live? (r : Answers a services) (key : ResourceKey) : Option ResourceObject :=
  (r.records.find? fun e => e.1 = key).bind (·.2)

/-- The last manifest that comes under a key after namespace defaulting. -/
def declaration? (r : Answers a services) (key : ResourceKey) :
    Option (Declaration r.liveKeys r.app.destinationNamespace) :=
  r.declarations.reverse.find? fun d => d.key = key

/-- The live object and the manifest under a key, the manifest as it is compared. -/
def sides (r : Answers a services) (key : ResourceKey) : Sides :=
  ⟨r.live? key, (r.declaration? key).map fun d => r.config.tracking.mark a.app.name key d.target⟩

/-- The sides that are found under a key, whatever is recorded: of several records of the key the last
live object counts, and a later record with one leaves the manifest out of the comparison. -/
def found (r : Answers a services) (key : ResourceKey) : Sides :=
  ⟨lastLive? r.records key, if hasLaterLive r.records key then none
    else (r.declaration? key).map fun d => r.config.tracking.mark a.app.name key d.target⟩

/-- The report lists all that has drifted and nothing else, in the order of the keys. -/
structure Complete (r : Answers a services) (report : DriftReport) : Prop where
  app : report.app = a.app.name
  ascending : (report.resources.map (·.key)).Pairwise (· < ·)
  reported : ∀ key, key ∈ report.resources.map (·.key) ↔
    key.isSecret = false ∧
      (∀ live, (r.found key).live = some live → live.isHook = false) ∧
      (∀ d, hasLaterLive r.records key = false → r.declaration? key = some d →
        d.manifest.isHook = false) ∧
      (r.found key).Drifted r.config key
  added : ∀ d ∈ report.resources, d.status = .added ↔
    (r.found d.key).live = none ∧ (r.found d.key).target.isSome = true
  deleted : ∀ d ∈ report.resources, d.status = .deleted ↔
    (r.found d.key).live.isSome = true ∧ (r.found d.key).target = none
  modified : ∀ d ∈ report.resources, d.status = .modified ↔
    (r.found d.key).live.isSome = true ∧ (r.found d.key).target.isSome = true

/-- The report lists the drift and nothing else, in the order of the keys. -/
structure Exact (r : Answers a services) (report : DriftReport) : Prop where
  app : report.app = a.app.name
  ascending : (report.resources.map (·.key)).Pairwise (· < ·)
  reported : ∀ key, key ∈ report.resources.map (·.key) ↔
    key.isSecret = false ∧ (∀ live, r.live? key = some live → live.isHook = false) ∧
      (∀ d, r.declaration? key = some d → d.manifest.isHook = false) ∧
      (r.sides key).Drifted r.config key
  added : ∀ d ∈ report.resources, d.status = .added ↔
    r.live? d.key = none ∧ (r.declaration? d.key).isSome = true
  deleted : ∀ d ∈ report.resources, d.status = .deleted ↔
    (r.live? d.key).isSome = true ∧ r.declaration? d.key = none
  modified : ∀ d ∈ report.resources, d.status = .modified ↔
    (r.live? d.key).isSome = true ∧ (r.declaration? d.key).isSome = true

section Pairs

variable (r : Answers a services)

theorem get?_targets (key : ResourceKey) :
    r.targets.get? key = (r.declaration? key).map (·.target) := by
  have hentry : ((fun e : ResourceKey × ResourceObject => e.1 == key) ∘ Declaration.entry) =
      fun d : Declaration r.liveKeys r.app.destinationNamespace => decide (d.key = key) := rfl
  unfold targets declaration?
  rw [Table.get?_ofList, ← List.map_reverse, List.find?_map, Option.map_map, hentry]
  rfl

theorem stamp_sidesUnder (key : ResourceKey) :
    (sidesUnder r.records r.targets key).stamp r.config.tracking a.app.name key = r.found key := by
  rw [Sides.stamp_eq, sidesUnder, get?_targets, found]
  cases hasLaterLive r.records key with
  | true => rfl
  | false => simp [Option.map_map, Function.comp_def]

/-- What is compared are the sides of the keys that are no secret's and have a side. -/
theorem mem_pairs_iff {key : ResourceKey} {s : Sides} :
    (key, s) ∈ r.pairs ↔
      key.isSecret = false ∧ (s.live.isSome = true ∨ s.target.isSome = true) ∧ r.found key = s := by
  have htargets : Table.Sorted r.targets := Table.sorted_ofList _
  have hpairs : Table.Sorted r.pairs := sorted_pairForDrift _ _ _ _
  rw [← Table.get?_eq_some_iff hpairs, pairs, get?_pairForDrift htargets]
  have hfound := r.stamp_sidesUnder key
  have hpresent : ((r.found key).live.isSome = true ∨ (r.found key).target.isSome = true) ↔
      ((sidesUnder r.records r.targets key).live.isSome = true ∨
        (sidesUnder r.records r.targets key).target.isSome = true) := by
    rw [← hfound, Sides.stamp_eq]
    simp
  cases hsecret : key.isSecret with
  | true => simp
  | false =>
    rw [if_pos rfl, Option.map_eq_some_iff]
    constructor
    · rintro ⟨unmarked, hunmarked, rfl⟩
      obtain ⟨hsome, rfl⟩ := Sides.present?_eq_some_iff.mp hunmarked
      rw [hfound]
      exact ⟨rfl, hpresent.mpr hsome, rfl⟩
    · rintro ⟨-, hsome, rfl⟩
      exact ⟨_, Sides.present?_eq_some_iff.mpr ⟨hpresent.mp hsome, rfl⟩, hfound⟩

/-- Whether something is a hook is not changed before it is asked. -/
theorem isHook_found (key : ResourceKey) :
    (r.found key).isHook = false ↔
      (∀ live, (r.found key).live = some live → live.isHook = false) ∧
        ∀ d, hasLaterLive r.records key = false → r.declaration? key = some d →
          d.manifest.isHook = false := by
  unfold Sides.isHook found
  rw [Bool.or_eq_false_iff]
  refine and_congr ?_ ?_
  · cases lastLive? r.records key <;> simp
  · cases hasLaterLive r.records key with
    | true => simp
    | false =>
      cases r.declaration? key with
      | none => simp
      | some d => simp [ResourceObject.isHook_mark, d.isHook_target]

/-- With one record for each key the last live object of a key is its only one. -/
theorem lastLive?_records (h : (r.resources.map (·.key)).Nodup) (key : ResourceKey) :
    lastLive? r.records key = r.live? key := by
  rw [← keys_of_liveRecords r.decoded] at h
  unfold live?
  cases hfind : r.records.find? fun e => e.1 = key with
  | none =>
    refine lastLive?_of_not_mem fun hm => ?_
    obtain ⟨e, he, hkey⟩ := List.mem_map.mp hm
    exact List.find?_eq_none.mp hfind e he (by simpa using hkey)
  | some e =>
    have hkey : e.1 = key := by simpa using List.find?_some hfind
    subst hkey
    exact lastLive?_of_nodup h (List.mem_of_find?_eq_some hfind)

/-- Where no key is recorded twice, the only record of a key counts. -/
theorem found_of_nodup (h : (r.resources.map (·.key)).Nodup) (key : ResourceKey) :
    hasLaterLive r.records key = false ∧ r.found key = r.sides key := by
  have hrecords : (r.records.map (·.1)).Nodup := by
    rwa [keys_of_liveRecords r.decoded]
  have honce := hasLaterLive_of_nodup hrecords key
  refine ⟨honce, ?_⟩
  rw [found, sides, lastLive?_records r h, honce]
  rfl

end Pairs

section Reports

variable {r : Answers a services} {drifts : List ResourceDrift} {report : DriftReport}

/-- The drift that is listed is that of the sides under its key. -/
theorem driftOf_of_mem (h : driftOfAll r.config r.pairs = .ok drifts) {d : ResourceDrift}
    (hd : d ∈ drifts) :
    d.key.isSecret = false ∧
      ((r.found d.key).live.isSome = true ∨ (r.found d.key).target.isSome = true) ∧
      driftOf r.config d.key (r.found d.key) = .ok (some d) := by
  obtain ⟨⟨key, s⟩, hpair, hdrift⟩ := (mem_driftOfAll_iff h).mp hd
  obtain ⟨hsecret, hpresent, rfl⟩ := r.mem_pairs_iff.mp hpair
  obtain ⟨rfl, -⟩ := of_driftOf hdrift
  exact ⟨hsecret, hpresent, hdrift⟩

/-- The sides under a key are listed if they have drifted and are no hook. -/
theorem mem_keys_iff (h : driftOfAll r.config r.pairs = .ok drifts) (key : ResourceKey) :
    key ∈ drifts.map (·.key) ↔
      key.isSecret = false ∧ (r.found key).isHook = false ∧ (r.found key).Drifted r.config key := by
  constructor
  · intro hm
    obtain ⟨d, hd, rfl⟩ := List.mem_map.mp hm
    obtain ⟨hsecret, hpresent, hdrift⟩ := driftOf_of_mem h hd
    obtain ⟨drift, hdrift', hlisted⟩ := exists_driftOf r.config d.key hpresent
    rw [hdrift] at hdrift'
    cases hdrift'
    exact ⟨hsecret, hlisted.mp rfl⟩
  · rintro ⟨hsecret, hdrifted⟩
    have hpresent := hdrifted.2.present
    obtain ⟨drift, hdrift, hlisted⟩ := exists_driftOf r.config key hpresent
    obtain ⟨d, rfl⟩ := Option.isSome_iff_exists.mp (hlisted.mpr hdrifted)
    have hpair : (key, r.found key) ∈ r.pairs := r.mem_pairs_iff.mpr ⟨hsecret, hpresent, rfl⟩
    exact List.mem_map.mpr ⟨d, (mem_driftOfAll_iff h).mpr ⟨_, hpair, hdrift⟩, (of_driftOf hdrift).1⟩

/-- A report on answers that could be read is complete. -/
theorem complete_of_outcome (h : (a.program.run services).outcome = .ok report) :
    r.Complete report := by
  obtain ⟨happ, hdrifts⟩ := r.driftOfAll_of_outcome h
  have hpairs : Table.Sorted r.pairs := sorted_pairForDrift _ _ _ _
  have hascending := (List.pairwise_map.mpr hpairs).sublist (keys_driftOfAll hdrifts)
  have hlisted {d : ResourceDrift} (hd : d ∈ report.resources) :
      ((r.found d.key).live.isSome = true ∨ (r.found d.key).target.isSome = true) ∧
        d.status = .ofSides (r.found d.key).live.isSome (r.found d.key).target.isSome := by
    obtain ⟨-, hpresent, hdrift⟩ := driftOf_of_mem hdrifts hd
    exact ⟨hpresent, (of_driftOf hdrift).2⟩
  refine ⟨happ, hascending, ?_, ?_, ?_, ?_⟩
  · intro key
    rw [mem_keys_iff hdrifts, isHook_found, and_assoc]
  · intro d hd
    obtain ⟨hpresent, hstatus⟩ := hlisted hd
    rw [hstatus]
    cases hlive : (r.found d.key).live with
    | none => simpa [DriftStatus.ofSides, hlive] using hpresent
    | some live => cases (r.found d.key).target <;> simp [DriftStatus.ofSides]
  · intro d hd
    rw [(hlisted hd).2]
    cases (r.found d.key).live <;> cases (r.found d.key).target <;> simp [DriftStatus.ofSides]
  · intro d hd
    rw [(hlisted hd).2]
    cases (r.found d.key).live <;> cases (r.found d.key).target <;> simp [DriftStatus.ofSides]

/-- With one record for each key, the sides compared are the recorded object and the last
manifest of a key. -/
theorem Complete.exact (hkeys : (r.resources.map (·.key)).Nodup) (h : r.Complete report) :
    r.Exact report := by
  have hsides (key : ResourceKey) := r.found_of_nodup hkeys key
  refine ⟨h.app, h.ascending, ?_, ?_, ?_, ?_⟩
  · intro key
    rw [h.reported, (hsides key).2, (hsides key).1]
    simp [sides]
  · intro d hd
    rw [h.added d hd, (hsides d.key).2]
    simp [sides]
  · intro d hd
    rw [h.deleted d hd, (hsides d.key).2]
    simp [sides]
  · intro d hd
    rw [h.modified d hd, (hsides d.key).2]
    simp [sides]

/-- Said of the sides as they are compared, a key is reported under the same conditions. -/
theorem Complete.reported_iff_found (h : r.Complete report) (key : ResourceKey) :
    key ∈ report.resources.map (·.key) ↔
      key.isSecret = false ∧ (r.found key).isHook = false ∧ (r.found key).Drifted r.config key := by
  rw [h.reported, isHook_found, and_assoc]

theorem Exact.reported_iff_sides (hkeys : (r.resources.map (·.key)).Nodup) (h : r.Exact report)
    (key : ResourceKey) : key ∈ report.resources.map (·.key) ↔
      key.isSecret = false ∧ (r.sides key).isHook = false ∧ (r.sides key).Drifted r.config key := by
  obtain ⟨honce, hfound⟩ := r.found_of_nodup hkeys key
  have hhook := r.isHook_found key
  rw [hfound, honce] at hhook
  rw [h.reported, hhook, and_assoc]
  simp [sides]

end Reports

end Answers

/-- A report, with or without a deadline, comes from answers that could be read, and if these record
no key twice it lists exactly the drift between what they say is live and what they declare. -/
theorem report_exact {a : DiffAction} {services : Services} {report : DriftReport}
    (h : (a.program.run services).outcome = .ok report ∨
      (a.run services).outcome = .ok report) :
    Nonempty (Answers a services) ∧
      ∀ r : Answers a services, (r.resources.map (·.key)).Nodup → r.Exact report := by
  have hprogram : (a.program.run services).outcome = .ok report := by
    rcases h with h | h
    · exact h
    · exact outcome_of_run_ok h
  exact ⟨Answers.exists_of_outcome hprogram,
    fun r hkeys => (Answers.complete_of_outcome hprogram).exact hkeys⟩

section Drifting

/-- The live object of `shopTarget` before it was marked. -/
def unmarkedMode : ResourceObject where
  fields := [("apiVersion", .text "v1"), ("kind", .text "ConfigMap"),
    ("metadata", .mapping [("name", .text "mode"), ("namespace", .text "prod")])]
  wellFormed := by decide

/-- A live object that no manifest declares. -/
def orphan : ResourceObject where
  fields := [("apiVersion", .text "v1"), ("kind", .text "ConfigMap"),
    ("metadata", .mapping [("name", .text "old"), ("namespace", .text "prod")])]
  wellFormed := by decide

/-- A manifest that is run before a sync and stays no longer. -/
def migration : ResourceObject where
  fields := [("apiVersion", .text "batch/v1"), ("kind", .text "Job"),
    ("metadata", .mapping [("annotations", .mapping [("argocd.argoproj.io/hook", .text "PreSync")]),
      ("name", .text "migrate")])]
  wellFormed := by decide

def driftingRecords : List ManagedResource := [
  ⟨"", "ConfigMap", "prod", "old", "",
    "\x7b\"apiVersion\":\"v1\",\"kind\":\"ConfigMap\",\"metadata\":" ++
      "\x7b\"name\":\"old\",\"namespace\":\"prod\"\x7d\x7d", ""⟩,
  ⟨"", "ConfigMap", "prod", "mode", "",
    "\x7b\"apiVersion\":\"v1\",\"kind\":\"ConfigMap\",\"metadata\":" ++
      "\x7b\"name\":\"mode\",\"namespace\":\"prod\"\x7d\x7d", ""⟩]

def driftingManifests : List String := [
  "\x7b\"apiVersion\":\"batch/v1\",\"kind\":\"Job\",\"metadata\":" ++
    "\x7b\"name\":\"migrate\"," ++
    "\"annotations\":\x7b\"argocd.argoproj.io/hook\":\"PreSync\"\x7d\x7d\x7d",
  shopMode.manifest]

/-- A server that tells of `shop` after it has drifted. -/
def driftingServer : Services
  | .application .. => ⟨0, .ok shop⟩
  | .managedResources .. => ⟨0, .ok driftingRecords⟩
  | .manifests .. => ⟨0, .ok driftingManifests⟩
  | .settings => ⟨0, .ok shopSettings⟩
  | .sync .. => ⟨0, .ok ()⟩

def orphanKey : ResourceKey := ⟨"", "ConfigMap", "prod", "old"⟩

def modeKey : ResourceKey := ⟨"", "ConfigMap", "prod", "mode"⟩

def migrationKey : ResourceKey := ⟨"batch", "Job", "prod", "migrate"⟩

theorem liveRecords_drifting : liveRecords driftingRecords =
    .ok [(orphanKey, some orphan), (modeKey, some unmarkedMode)] := by
  decide +kernel

theorem targetsOf_drifting : targetsOf driftingManifests = .ok [migration, shopTarget] := by
  decide +kernel

theorem keysOf_drifting : keysOf [orphan, unmarkedMode] = .ok [orphanKey, modeKey] := by decide

def driftingAnswers : Answers diffShop driftingServer where
  app := shop
  resources := driftingRecords
  records := [(orphanKey, some orphan), (modeKey, some unmarkedMode)]
  liveKeys := [orphanKey, modeKey]
  manifests := driftingManifests
  declarations := [⟨migration, ⟨"batch", "Job", "", "migrate"⟩, by decide⟩,
    ⟨shopTarget, shopMode.own, shopMode.keyed⟩]
  settings := shopSettings
  config := shopConfig
  application := rfl
  managed := rfl
  decoded := liveRecords_drifting
  embedded := keysOf_drifting
  rendered := rfl
  readable := targetsOf_drifting
  known := rfl
  accepted := rfl

/-- The orphan and the unmarked object are reported, and the hook is not. -/
theorem report_drifting :
    (driftingRecords.map (·.key)).Nodup ∧
      ∃ report, (diffShop.program.run driftingServer).outcome = .ok report ∧
        orphanKey ∈ report.resources.map (·.key) ∧ modeKey ∈ report.resources.map (·.key) ∧
        migrationKey ∉ report.resources.map (·.key) := by
  have hkeys : (driftingRecords.map (·.key)).Nodup := by decide
  obtain ⟨report, hreport⟩ := Answers.exists_report_iff.mpr ⟨driftingAnswers⟩
  have hexact := (report_exact (.inl hreport)).2 driftingAnswers hkeys
  refine ⟨hkeys, report, hreport, ?_, ?_, ?_⟩
  · have hsides : driftingAnswers.sides orphanKey = ⟨some orphan, none⟩ := by decide +kernel
    rw [hexact.reported_iff_sides hkeys, hsides]
    exact ⟨by decide, by decide, trivial⟩
  · have hsides : driftingAnswers.sides modeKey =
        ⟨some unmarkedMode, some (shopPlacement.expected shopMode.own shopTarget)⟩ := by
      decide +kernel
    rw [hexact.reported_iff_sides hkeys, hsides]
    exact ⟨by decide, by decide +kernel, _, Comparison.ofSides_both _ _ _ _, by decide +kernel⟩
  · rw [hexact.reported]
    rintro ⟨-, -, hdeclared, -⟩
    have hhook : migration.isHook = false := hdeclared ⟨migration, _, _⟩ rfl
    revert hhook
    decide

end Drifting

end DiffAction
end DeployDrift
