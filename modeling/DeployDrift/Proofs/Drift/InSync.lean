import DeployDrift.Proofs.Drift.Detection
import DeployDrift.Proofs.Drift.Pairing
import DeployDrift.Proofs.Merge.Exactness
import DeployDrift.Proofs.Resource.Metadata
import DeployDrift.Proofs.Resource.Placement

/-!
# An application in sync

If every manifest has exactly one live object, under the key where it is expected and containing
what is expected of it, and no other resource is managed, then no drift is reported, whatever the
server says is to be ignored.
-/
namespace DeployDrift

/-- A manifest, the record of its resource, and what they stand for: the live object is where the
placement expects it, records no configuration applied last, and contains what is expected of the
manifest. -/
structure SyncedResource (p : Placement) where
  manifest : String
  record : ManagedResource
  target : ResourceObject
  /-- The key of the manifest as it is written. -/
  own : ResourceKey
  live : ResourceObject
  readable : ResourceObject.ofManifest manifest = .ok target
  keyed : ResourceKey.ofObject target = .ok own
  clusterScoped : p.scope own.group own.kind = false → own.namespace = ""
  names : target.document.DistinctItemNames
  recorded : record.key = p.expectedKey own
  deployed : ResourceObject.ofLiveState record.effectiveLiveState = .ok (some live)
  embedded : ResourceKey.ofObject live = .ok (p.expectedKey own)
  unapplied : live.annotationText? lastAppliedKey = none
  contained : live.document.Contains (p.expected own target).document

namespace SyncedResource

variable {p : Placement}

/-- The key under which the resource is live, recorded and declared. -/
def key (r : SyncedResource p) : ResourceKey := p.expectedKey r.own

def liveRecord (r : SyncedResource p) : LiveRecord := (r.key, some r.live)

/-- The manifest under its key after grouping. -/
def entry (r : SyncedResource p) : ResourceKey × ResourceObject :=
  (r.key, p.placed r.own r.target)

/-- The two sides of the resource when it is compared. -/
def sides (r : SyncedResource p) : Sides := ⟨some r.live, some (p.expected r.own r.target)⟩

/-- A cluster-scoped kind is expected without a namespace. -/
theorem namespace_of_clusterScoped (r : SyncedResource p)
    (h : p.scope r.key.group r.key.kind = false) : r.key.namespace = "" := by
  have hscope : p.scope r.own.group r.own.kind = false := h
  have hown := r.clusterScoped hscope
  simp [key, Placement.expectedKey, Placement.expectedNamespace, hown, hscope]

theorem names_expected (r : SyncedResource p) :
    (p.expected r.own r.target).document.DistinctItemNames := by
  have hplaced : (p.placed r.own r.target).document.DistinctItemNames := by
    unfold Placement.placed
    split
    · exact r.names
    · exact ResourceObject.everyList_setNamespace r.names _
  unfold Placement.expected
  split
  · exact hplaced
  · exact ResourceObject.everyList_stamp hplaced _ _ _

theorem stamp_sides (r : SyncedResource p) :
    Sides.stamp p.tracking p.app r.key ⟨some r.live, some (p.placed r.own r.target)⟩ =
      r.sides := by
  have hkind : r.key.isDefinition = r.own.isDefinition := rfl
  rw [Sides.stamp, hkind, sides, Placement.expected]
  split
  · rfl
  · rfl

/-- A resource in sync has not drifted. -/
theorem driftOf_sides (r : SyncedResource p) {config : DriftConfig}
    (hroles : config.ignoreAggregatedRoles = false) (key : ResourceKey) :
    DriftReport.driftOf config key r.sides = .ok none := by
  obtain ⟨comparison, hcomparison, hmodified⟩ :=
    Comparison.unmodified_of_contains hroles r.contained r.names_expected r.unapplied key
  unfold DriftReport.driftOf
  split
  · rfl
  · have hsides : Comparison.ofSides key r.sides.live r.sides.target config = .ok comparison :=
      hcomparison
    rw [hsides]
    simp [hmodified]

section Answers

variable (resources : List (SyncedResource p))

theorem liveRecords_eq :
    liveRecords (resources.map (·.record)) = .ok (resources.map (·.liveRecord)) := by
  unfold liveRecords
  induction resources with
  | nil => rfl
  | cons r rest ih =>
    rw [List.map_cons, List.mapM_cons, ih, r.deployed, r.recorded]
    rfl

theorem liveObjects_eq :
    (resources.map (·.liveRecord)).filterMap (·.2) = resources.map (·.live) := by
  rw [List.filterMap_map]
  exact congrFun (List.filterMap_eq_map (f := SyncedResource.live)) resources

theorem targetsOf_eq :
    DriftReport.targetsOf (resources.map (·.manifest)) = .ok (resources.map (·.target)) := by
  induction resources with
  | nil => rfl
  | cons r rest ih =>
    rw [List.map_cons, DriftReport.targetsOf, r.readable, ih]
    rfl

end Answers

section Pairs

variable {recorded manifested : List (SyncedResource p)}

/-- Every manifest keeps the key that it has in its expected namespace, since its live
object is recorded there. -/
theorem groupByKey_eq (h : ∀ r ∈ manifested, r ∈ recorded) :
    groupByKey (manifested.map (·.target)) (recorded.map (·.live)) p.destination =
      .ok (Table.ofList (manifested.map (·.entry))) := by
  have hlive : keysOf (recorded.map (·.live)) = .ok (recorded.map (·.key)) :=
    keysOf_map fun r _ => r.embedded
  refine groupByKey_map p hlive (fun r _ => r.keyed) ?_ ?_
  · intro r hr
    exact List.mem_map.mpr ⟨r, h r hr, rfl⟩
  · intro k hk hs
    obtain ⟨r, -, rfl⟩ := List.mem_map.mp hk
    exact r.namespace_of_clusterScoped hs

/-- All that is compared are the two sides of each resource. -/
theorem mem_pairForDrift (hperm : recorded.Perm manifested)
    (hkeys : (manifested.map (·.key)).Nodup) {e : ResourceKey × Sides}
    (he : e ∈ pairForDrift (recorded.map (·.liveRecord))
      (Table.ofList (manifested.map (·.entry))) p.tracking p.app) :
    ∃ r ∈ recorded, e = (r.key, r.sides) := by
  obtain ⟨⟨key, sides⟩, hm, rfl⟩ := List.mem_map.mp he
  have hentries : ((manifested.map (·.entry)).map (·.1)).Nodup := by
    rw [List.map_map]
    exact hkeys
  have hrecords : ((recorded.map (·.liveRecord)).map (·.1)).Nodup := by
    rw [List.map_map]
    exact (hperm.map SyncedResource.key).nodup_iff.mpr hkeys
  rcases mem_pairSides (Table.sorted_ofList _) hrecords hm with
    ⟨live, hrecord, hsides⟩ | ⟨hfree, target, htarget, -⟩
  · obtain ⟨r, hr, heq⟩ := List.mem_map.mp hrecord
    have hkey : r.key = key := congrArg Prod.fst heq
    have hlive : some r.live = live := congrArg Prod.snd heq
    subst hkey hlive
    have hsides : sides = ⟨some r.live, (Table.ofList (manifested.map (·.entry))).get? r.key⟩ :=
      hsides
    have hentry := Table.get?_ofList_of_nodup hentries
      (List.mem_map.mpr ⟨r, hperm.mem_iff.mp hr, rfl⟩)
    refine ⟨r, hr, congrArg (Prod.mk r.key) ?_⟩
    rw [hsides, hentry, stamp_sides]
  · -- every target has a record, so none is left without one
    obtain ⟨r, hr, heq⟩ := List.mem_map.mp (Table.mem_ofList (Table.mem_of_get? htarget))
    have hkey : r.key = key := congrArg Prod.fst heq
    refine absurd ?_ hfree
    rw [List.map_map]
    exact List.mem_map.mpr ⟨r, hperm.mem_iff.mpr hr, hkey⟩

end Pairs

end SyncedResource

namespace DiffAction

/-- Where the resources of the application are expected, if the scopes of kinds are as given. -/
def placement (a : DiffAction) (scope : String → String → Bool) (app : Application)
    (settings : ServerSettings) : Placement :=
  ⟨scope, app.destinationNamespace,
    Tracking.ofSettings settings.appLabelKey settings.trackingMethod, a.app.name⟩

section InSync

variable {a : DiffAction} {services : Services} {scope : String → String → Bool}
  {app : Application} {settings : ServerSettings} {config : DriftConfig}
  {recorded manifested : List (SyncedResource (a.placement scope app settings))}
  (happ : (services (.application a.app.name a.app.namespace
    (Refresh.ofFlags a.refresh a.hardRefresh))).outcome = .ok app)
  (hrecords : (services (.managedResources a.app.name a.app.namespace)).outcome =
    .ok (recorded.map (·.record)))
  (hmanifests : (services (.manifests a.app.name a.app.namespace a.revision)).outcome =
    .ok (manifested.map (·.manifest)))
  (hsettings : (services .settings).outcome = .ok settings)
  (hconfig : DriftReport.configFor app settings = .ok config)
  (hperm : recorded.Perm manifested) (hkeys : (manifested.map (·.key)).Nodup)

include happ hrecords hmanifests hsettings hconfig hperm hkeys

/-- Every pair is unmodified and none is left without its other side, so that the report is
empty. -/
theorem outcome_program_inSync : (a.program.run services).outcome = .ok ⟨a.app.name, []⟩ := by
  obtain ⟨htracking, hroles⟩ := DriftReport.configFor_ok hconfig
  have hgrouped : groupByKey (manifested.map (·.target)) (recorded.map (·.live))
      app.destinationNamespace = .ok (Table.ofList (manifested.map (·.entry))) :=
    SyncedResource.groupByKey_eq fun r hr => hperm.mem_iff.mpr hr
  have hdrift : DriftReport.driftOfAll config (pairForDrift (recorded.map (·.liveRecord))
      (Table.ofList (manifested.map (·.entry)))
      (Tracking.ofSettings settings.appLabelKey settings.trackingMethod) a.app.name) = .ok [] := by
    apply DriftReport.driftOfAll_eq_nil
    intro e he
    obtain ⟨r, -, rfl⟩ := SyncedResource.mem_pairForDrift hperm hkeys he
    exact r.driftOf_sides hroles r.key
  unfold program
  refine (run_ask happ _ _).trans ?_
  refine (run_ask hrecords _ _).trans ?_
  rw [orFail_ok (SyncedResource.liveRecords_eq recorded)]
  refine (run_ask hmanifests _ _).trans ?_
  rw [orFail_ok (SyncedResource.targetsOf_eq manifested)]
  dsimp only
  rw [run_warn, SyncedResource.liveObjects_eq, orFail_ok hgrouped]
  refine (run_ask hsettings _ _).trans ?_
  rw [run_warn, orFail_ok hconfig, run_warn, htracking, hdrift]
  rfl

/-- An application in sync is reported without drift, by the detection itself and under the deadline
of the action if the server answers in time.  The resources that are managed are those of the
manifests, in any order; their keys are distinct, and the ignore rules are accepted. -/
theorem report_inSync :
    (a.program.run services).outcome = .ok ⟨a.app.name, []⟩ ∧
      ∀ deadline, Deadline.start a.timeout = .ok deadline →
        deadline.allows (a.program.duration services) = true →
        (a.run services).outcome = .ok ⟨a.app.name, []⟩ := by
  have houtcome := outcome_program_inSync happ hrecords hmanifests hsettings hconfig hperm hkeys
  constructor
  · exact houtcome
  · intro deadline hstart hallowed
    exact (outcome_run a hstart hallowed).trans houtcome

end InSync

section Shop

/-- Asks for the drift of the application `shop`. -/
def diffShop : DiffAction := ⟨⟨"shop", "argocd"⟩, "", false, false, ""⟩

/-- The application, deployed to the namespace `prod`. -/
def shop : Application := ⟨"shop", "argocd", "", "prod", "", []⟩

def shopSettings : ServerSettings := ⟨"app", "", []⟩

/-- Where the resources of `shop` are expected if every kind is namespaced. -/
def shopPlacement : Placement := diffShop.placement (fun _ _ => true) shop shopSettings

/-- A manifest of `shop`. -/
def shopTarget : ResourceObject where
  fields := [("apiVersion", .text "v1"), ("kind", .text "ConfigMap"),
    ("metadata", .mapping [("name", .text "mode")])]
  wellFormed := by decide

/-- Its live object, which the cluster gave an identity. -/
def shopLive : ResourceObject where
  fields := [("apiVersion", .text "v1"), ("kind", .text "ConfigMap"),
    ("metadata", .mapping [("labels", .mapping [("app", .text "shop")]),
      ("name", .text "mode"), ("namespace", .text "prod"), ("uid", .text "7")])]
  wellFormed := by decide

def shopMode : SyncedResource shopPlacement where
  manifest := "\x7b\"apiVersion\":\"v1\",\"kind\":\"ConfigMap\"," ++
    "\"metadata\":\x7b\"name\":\"mode\"\x7d\x7d"
  record := ⟨"", "ConfigMap", "prod", "mode", "",
    "\x7b\"apiVersion\":\"v1\",\"kind\":\"ConfigMap\",\"metadata\":\x7b\"name\":\"mode\"," ++
    "\"namespace\":\"prod\",\"labels\":\x7b\"app\":\"shop\"\x7d,\"uid\":\"7\"\x7d\x7d", ""⟩
  target := shopTarget
  own := ⟨"", "ConfigMap", "", "mode"⟩
  live := shopLive
  readable := by decide +kernel
  keyed := by decide
  clusterScoped := by simp [shopPlacement, placement]
  names := by decide
  recorded := by decide
  deployed := by decide +kernel
  embedded := by decide
  unapplied := by decide
  contained := by
    have hexpected : (shopPlacement.expected ⟨"", "ConfigMap", "", "mode"⟩ shopTarget).document =
        .mapping [("apiVersion", .text "v1"), ("kind", .text "ConfigMap"),
          ("metadata", .mapping [("labels", .mapping [("app", .text "shop")]),
            ("name", .text "mode"), ("namespace", .text "prod")])] := by decide
    rw [hexpected]
    simp [shopLive, ResourceObject.document, Document.Contains, Document.FieldsContained,
      Table.get?]

def shopConfig : DriftConfig := ⟨[], [], ⟨"app", .labels⟩, false⟩

end Shop

section Market

/-- Asks for the drift of the application `market`. -/
def diffMarket : DiffAction := ⟨⟨"market", "argocd"⟩, "", false, false, ""⟩

/-- The application, in whose pods the first argument is ignored. -/
def market : Application := ⟨"market", "argocd", "", "prod", "",
  [⟨"", "Pod", "", "", ["/spec/args/0"], [], []⟩]⟩

/-- Settings by which one field is ignored in all resources. -/
def marketSettings : ServerSettings := ⟨"app", "label", [("*/*", ⟨["/metadata/uid"], [], []⟩)]⟩

def marketConfig : DriftConfig :=
  ⟨[⟨"", "Pod", "", "", ["/spec/args/0"]⟩], [("*/*", ["/metadata/uid"])],
    ⟨"app", .labels⟩, false⟩

/-- Where the resources of `market` are expected: pods are namespaced, and other kinds are not. -/
def marketPlacement : Placement :=
  diffMarket.placement (fun _ kind => kind == "Pod") market marketSettings

def webTarget : ResourceObject where
  fields := [("apiVersion", .text "v1"), ("kind", .text "Pod"),
    ("metadata", .mapping [("name", .text "web")]),
    ("spec", .mapping [("args", .list [.text "a", .text "b"])])]
  wellFormed := by decide

def webLive : ResourceObject where
  fields := [("apiVersion", .text "v1"), ("kind", .text "Pod"),
    ("metadata", .mapping [("labels", .mapping [("app", .text "market")]), ("name", .text "web"),
      ("namespace", .text "prod")]),
    ("spec", .mapping [("args", .list [.text "a", .text "b"])]),
    ("status", .mapping [])]
  wellFormed := by decide

/-- A pod, which goes to the destination of the application. -/
def marketWeb : SyncedResource marketPlacement where
  manifest := "\x7b\"apiVersion\":\"v1\",\"kind\":\"Pod\",\"metadata\":\x7b\"name\":\"web\"\x7d," ++
    "\"spec\":\x7b\"args\":[\"a\",\"b\"]\x7d\x7d"
  record := ⟨"", "Pod", "prod", "web", "",
    "\x7b\"apiVersion\":\"v1\",\"kind\":\"Pod\",\"metadata\":\x7b\"labels\":" ++
      "\x7b\"app\":\"market\"\x7d,\"name\":\"web\",\"namespace\":\"prod\"\x7d," ++
      "\"spec\":\x7b\"args\":[\"a\",\"b\"]\x7d,\"status\":\x7b\x7d\x7d", ""⟩
  target := webTarget
  own := ⟨"", "Pod", "", "web"⟩
  live := webLive
  readable := by decide +kernel
  keyed := by decide
  clusterScoped := fun _ => rfl
  names := by decide
  recorded := by decide
  deployed := by decide +kernel
  embedded := by decide
  unapplied := by decide
  contained := by
    have hexpected : (marketPlacement.expected ⟨"", "Pod", "", "web"⟩ webTarget).document =
        .mapping [("apiVersion", .text "v1"), ("kind", .text "Pod"),
          ("metadata", .mapping [("labels", .mapping [("app", .text "market")]),
            ("name", .text "web"), ("namespace", .text "prod")]),
          ("spec", .mapping [("args", .list [.text "a", .text "b"])])] := by decide
    rw [hexpected]
    simp [webLive, ResourceObject.document, Document.Contains, Document.FieldsContained,
      Table.get?]

def prodTarget : ResourceObject where
  fields := [("apiVersion", .text "v1"), ("kind", .text "Namespace"),
    ("metadata", .mapping [("name", .text "prod")])]
  wellFormed := by decide

def prodLive : ResourceObject where
  fields := [("apiVersion", .text "v1"), ("kind", .text "Namespace"),
    ("metadata", .mapping [("labels", .mapping [("app", .text "market")]),
      ("name", .text "prod"), ("uid", .text "2")])]
  wellFormed := by decide

/-- A namespace, which is in none itself. -/
def marketProd : SyncedResource marketPlacement where
  manifest := "\x7b\"apiVersion\":\"v1\",\"kind\":\"Namespace\"," ++
    "\"metadata\":\x7b\"name\":\"prod\"\x7d\x7d"
  record := ⟨"", "Namespace", "", "prod", "",
    "\x7b\"apiVersion\":\"v1\",\"kind\":\"Namespace\",\"metadata\":\x7b\"labels\":" ++
      "\x7b\"app\":\"market\"\x7d,\"name\":\"prod\",\"uid\":\"2\"\x7d\x7d", ""⟩
  target := prodTarget
  own := ⟨"", "Namespace", "", "prod"⟩
  live := prodLive
  readable := by decide +kernel
  keyed := by decide
  clusterScoped := fun _ => rfl
  names := by decide
  recorded := by decide
  deployed := by decide +kernel
  embedded := by decide
  unapplied := by decide
  contained := by
    have hexpected : (marketPlacement.expected ⟨"", "Namespace", "", "prod"⟩
        prodTarget).document = .mapping [("apiVersion", .text "v1"), ("kind", .text "Namespace"),
          ("metadata", .mapping [("labels", .mapping [("app", .text "market")]),
            ("name", .text "prod")])] := by decide
    rw [hexpected]
    simp [prodLive, ResourceObject.document, Document.Contains, Document.FieldsContained,
      Table.get?]

def cartsTarget : ResourceObject where
  fields := [("apiVersion", .text "apiextensions.k8s.io/v1"),
    ("kind", .text "CustomResourceDefinition"), ("metadata", .mapping [("name", .text "carts.io")])]
  wellFormed := by decide

def cartsLive : ResourceObject where
  fields := [("apiVersion", .text "apiextensions.k8s.io/v1"),
    ("kind", .text "CustomResourceDefinition"),
    ("metadata", .mapping [("name", .text "carts.io"), ("uid", .text "3")])]
  wellFormed := by decide

/-- A definition, which is not marked. -/
def marketCarts : SyncedResource marketPlacement where
  manifest := "\x7b\"apiVersion\":\"apiextensions.k8s.io/v1\",\"kind\":" ++
    "\"CustomResourceDefinition\",\"metadata\":\x7b\"name\":\"carts.io\"\x7d\x7d"
  record := ⟨"apiextensions.k8s.io", "CustomResourceDefinition", "", "carts.io", "",
    "\x7b\"apiVersion\":\"apiextensions.k8s.io/v1\",\"kind\":\"CustomResourceDefinition\"," ++
      "\"metadata\":\x7b\"name\":\"carts.io\",\"uid\":\"3\"\x7d\x7d", ""⟩
  target := cartsTarget
  own := ⟨"apiextensions.k8s.io", "CustomResourceDefinition", "", "carts.io"⟩
  live := cartsLive
  readable := by decide +kernel
  keyed := by decide
  clusterScoped := fun _ => rfl
  names := by decide
  recorded := by decide
  deployed := by decide +kernel
  embedded := by decide
  unapplied := by decide
  contained := by
    have hexpected : (marketPlacement.expected ⟨"apiextensions.k8s.io",
        "CustomResourceDefinition", "", "carts.io"⟩ cartsTarget).document =
          cartsTarget.document := by decide
    rw [hexpected]
    simp [cartsLive, cartsTarget, ResourceObject.document, Document.Contains,
      Document.FieldsContained, Table.get?]

/-- A server that tells of `market`.  The records come in another order than the manifests. -/
def marketServer : Services
  | .application .. => ⟨1, .ok market⟩
  | .managedResources .. => ⟨1, .ok [marketCarts.record, marketProd.record, marketWeb.record]⟩
  | .manifests .. => ⟨1, .ok [marketWeb.manifest, marketProd.manifest, marketCarts.manifest]⟩
  | .settings => ⟨1, .ok marketSettings⟩
  | .sync .. => ⟨1, .ok ()⟩

theorem report_market :
    DriftReport.configFor market marketSettings = .ok marketConfig ∧
      (diffMarket.program.run marketServer).outcome = .ok ⟨"market", []⟩ ∧
      (diffMarket.run marketServer).outcome = .ok ⟨"market", []⟩ := by
  have hconfig : DriftReport.configFor market marketSettings = .ok marketConfig :=
    eq_ok_of_toOption (by decide +kernel)
  have hkeys : ([marketWeb, marketProd, marketCarts].map (·.key)).Nodup := by decide
  have hperm : [marketCarts, marketProd, marketWeb].Perm [marketWeb, marketProd, marketCarts] :=
    List.reverse_perm [marketWeb, marketProd, marketCarts]
  obtain ⟨hprogram, hrun⟩ := @report_inSync diffMarket marketServer (fun _ kind => kind == "Pod")
    market marketSettings marketConfig _ _ rfl rfl rfl rfl hconfig hperm hkeys
  exact ⟨hconfig, hprogram, hrun .never (by decide) rfl⟩

end Market

end DiffAction
end DeployDrift
