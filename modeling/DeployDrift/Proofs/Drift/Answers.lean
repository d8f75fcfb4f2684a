import DeployDrift.Proofs.Drift.Detection
import DeployDrift.Proofs.Drift.Pairing
import DeployDrift.Proofs.Resource.Placement

/-!
# What the server says of an application

The detection comes to a report exactly if the server answers all that it is asked, and everything
in the answers can be read.  The answers, together with what is read from them, then determine the
report: it is the drift of the pairs that they give rise to.
-/
namespace DeployDrift

/-- A manifest and the key it carries, to be placed among live objects with the given keys. -/
structure Declaration (live : List ResourceKey) (destination : String) where
  manifest : ResourceObject
  /-- The key of the manifest as it is written. -/
  own : ResourceKey
  keyed : ResourceKey.ofObject manifest = .ok own

namespace Declaration

variable {live : List ResourceKey} {destination : String}

/-- The manifest with its namespace filled in, under its key. -/
def entry (d : Declaration live destination) : ResourceKey × ResourceObject :=
  withNamespace live destination d.own d.manifest

/-- The key of the manifest after namespace defaulting. -/
def key (d : Declaration live destination) : ResourceKey := d.entry.1

/-- The manifest after namespace defaulting. -/
def target (d : Declaration live destination) : ResourceObject := d.entry.2

/-- Manifests with keys are declarations. -/
theorem exists_of_keysOf (live : List ResourceKey) (destination : String)
    {targets : List ResourceObject} {keys : List ResourceKey} (h : keysOf targets = .ok keys) :
    ∃ declarations : List (Declaration live destination),
      declarations.map (·.manifest) = targets := by
  induction targets generalizing keys with
  | nil => exact ⟨[], rfl⟩
  | cons target rest ih =>
    rw [keysOf] at h
    obtain ⟨own, hown, h⟩ := exists_of_bind_ok h
    obtain ⟨tail, htail, -⟩ := exists_of_bind_ok h
    obtain ⟨declarations, rfl⟩ := ih htail
    exact ⟨⟨target, own, hown⟩ :: declarations, rfl⟩

end Declaration

theorem keysOf_of_groupByKey {targets live : List ResourceObject} {destination : String}
    {grouped : ResourceTable} (h : groupByKey targets live destination = .ok grouped) :
    (∃ keys, keysOf live = .ok keys) ∧ ∃ keys, keysOf targets = .ok keys := by
  obtain ⟨entries, hentries, -⟩ := exists_of_map_ok h
  obtain ⟨liveKeys, hlive, hentries⟩ := exists_of_bind_ok hentries
  obtain ⟨targetKeys, htargets, -⟩ := exists_of_bind_ok hentries
  exact ⟨⟨liveKeys, hlive⟩, ⟨targetKeys, htargets⟩⟩

/-- The records of managed resources keep their keys and their order. -/
theorem keys_of_liveRecords {resources : List ManagedResource} {records : List LiveRecord}
    (h : liveRecords resources = .ok records) : records.map (·.1) = resources.map (·.key) := by
  unfold liveRecords at h
  induction resources generalizing records with
  | nil =>
    cases h
    rfl
  | cons resource rest ih =>
    rw [List.mapM_cons] at h
    obtain ⟨record, hrecord, h⟩ := exists_of_bind_ok h
    obtain ⟨live, -, rfl⟩ := exists_of_map_ok hrecord
    obtain ⟨tail, htail, h⟩ := exists_of_bind_ok h
    cases h
    rw [List.map_cons, List.map_cons, ih htail]

namespace DiffAction

open DriftReport

/-- What a server answers to the calls of a detection, and what is read from the answers. -/
structure Answers (a : DiffAction) (services : Services) where
  app : Application
  resources : List ManagedResource
  records : List LiveRecord
  liveKeys : List ResourceKey
  manifests : List String
  declarations : List (Declaration liveKeys app.destinationNamespace)
  settings : ServerSettings
  config : DriftConfig
  application : (services (.application a.app.name a.app.namespace
    (Refresh.ofFlags a.refresh a.hardRefresh))).outcome = .ok app
  managed : (services (.managedResources a.app.name a.app.namespace)).outcome = .ok resources
  decoded : liveRecords resources = .ok records
  embedded : keysOf (records.filterMap (·.2)) = .ok liveKeys
  rendered : (services (.manifests a.app.name a.app.namespace a.revision)).outcome = .ok manifests
  readable : targetsOf manifests = .ok (declarations.map (·.manifest))
  known : (services .settings).outcome = .ok settings
  accepted : configFor app settings = .ok config

namespace Answers

variable {a : DiffAction} {services : Services}

/-- The manifests under their keys; of several with one key the last one stays. -/
def targets (r : Answers a services) : ResourceTable := Table.ofList (r.declarations.map (·.entry))

/-- The sides that are compared. -/
def pairs (r : Answers a services) : Table ResourceKey Sides :=
  pairForDrift r.records r.targets r.config.tracking a.app.name

/-- The answers decide the outcome. -/
theorem outcome_eq (r : Answers a services) :
    (a.program.run services).outcome =
      (driftOfAll r.config r.pairs).map (⟨a.app.name, ·⟩) := by
  have hgrouped : groupByKey (r.declarations.map (·.manifest)) (r.records.filterMap (·.2))
      r.app.destinationNamespace = .ok r.targets :=
    groupByKey_ok r.embedded fun d _ => d.keyed
  unfold program
  refine (run_ask r.application _ _).trans ?_
  refine (run_ask r.managed _ _).trans ?_
  rw [orFail_ok r.decoded]
  refine (run_ask r.rendered _ _).trans ?_
  rw [orFail_ok r.readable]
  dsimp only
  rw [run_warn, orFail_ok hgrouped]
  refine (run_ask r.known _ _).trans ?_
  rw [run_warn, orFail_ok r.accepted, run_warn]
  rfl

/-- A report is the drift of the pairs. -/
theorem driftOfAll_of_outcome (r : Answers a services) {report : DriftReport}
    (h : (a.program.run services).outcome = .ok report) :
    report.app = a.app.name ∧ driftOfAll r.config r.pairs = .ok report.resources := by
  rw [r.outcome_eq] at h
  obtain ⟨drifts, hdrifts, hmade⟩ := exists_of_map_ok h
  subst hmade
  exact ⟨rfl, hdrifts⟩

/-- Where there is a report, everything was answered and could be read. -/
theorem exists_of_outcome {report : DriftReport}
    (h : (a.program.run services).outcome = .ok report) : Nonempty (Answers a services) := by
  unfold program at h
  obtain ⟨app, happ, h⟩ := run_ask_ok h
  obtain ⟨resources, hresources, h⟩ := run_ask_ok h
  obtain ⟨records, hrecords, h⟩ := run_orFail_ok h
  obtain ⟨manifests, hmanifests, h⟩ := run_ask_ok h
  obtain ⟨targets, htargets, h⟩ := run_orFail_ok h
  rw [run_warn] at h
  obtain ⟨grouped, hgrouped, h⟩ := run_orFail_ok h
  obtain ⟨settings, hsettings, h⟩ := run_ask_ok h
  rw [run_warn] at h
  obtain ⟨config, hconfig, -⟩ := run_orFail_ok h
  obtain ⟨⟨liveKeys, hlive⟩, ⟨targetKeys, hkeys⟩⟩ := keysOf_of_groupByKey hgrouped
  obtain ⟨declarations, rfl⟩ := Declaration.exists_of_keysOf liveKeys app.destinationNamespace hkeys
  exact ⟨⟨app, resources, records, liveKeys, manifests, declarations, settings, config, happ,
    hresources, hrecords, hlive, hmanifests, htargets, hsettings, hconfig⟩⟩

/-- There is a report exactly if everything is answered and can be read. -/
theorem exists_report_iff :
    (∃ report, (a.program.run services).outcome = .ok report) ↔ Nonempty (Answers a services) := by
  constructor
  · rintro ⟨report, h⟩
    exact exists_of_outcome h
  · rintro ⟨r⟩
    have hsorted : Table.Sorted r.targets := Table.sorted_ofList _
    obtain ⟨drifts, hdrifts⟩ := exists_driftOfAll r.config
      fun e (he : e ∈ r.pairs) => (of_mem_pairForDrift hsorted he).1
    exact ⟨⟨a.app.name, drifts⟩, by rw [r.outcome_eq, hdrifts]; rfl⟩

end Answers

end DiffAction
end DeployDrift
