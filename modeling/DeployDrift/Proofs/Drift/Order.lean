import DeployDrift.Proofs.Drift.Exactness
import DeployDrift.Proofs.Drift.Secrets
import Mathlib.Data.List.Perm.Basic
import Mathlib.Data.List.TakeWhile

/-!
# The order of the server's lists

The managed resources and the manifests come as lists, and both are folded into tables.  If no key
occurs twice in either, nothing of what a detection does depends on the order in which they come:
the kinds that the live objects show to be namespaced are the same, every target is placed in the
same way, and the pairs are compared in the order of their keys.
-/
namespace DeployDrift

section Reading

variable {ε α β : Type} {f : α → Except ε β} {xs xs' : List α} {ys : List β}

theorem mapM_ok_iff : xs.mapM f = .ok ys ↔ List.Forall₂ (fun x y => f x = .ok y) xs ys := by
  induction xs generalizing ys with
  | nil =>
    rw [List.mapM_nil, List.forall₂_nil_left_iff]
    exact ⟨fun h => (Except.ok.inj h).symm, fun h => h ▸ rfl⟩
  | cons x rest ih =>
    rw [List.mapM_cons, List.forall₂_cons_left_iff]
    constructor
    · intro h
      obtain ⟨y, hy, h⟩ := exists_of_bind_ok h
      obtain ⟨tail, htail, h⟩ := exists_of_bind_ok h
      exact ⟨y, tail, hy, ih.mp htail, (Except.ok.inj h).symm⟩
    · rintro ⟨y, tail, hy, htail, rfl⟩
      rw [hy, ih.mpr htail]
      rfl

/-- What can be read in one order can be read in any. -/
theorem exists_mapM_of_perm (hp : xs.Perm xs') (h : xs.mapM f = .ok ys) :
    ∃ ys', xs'.mapM f = .ok ys' ∧ ys.Perm ys' := by
  obtain ⟨ys', hread, hys⟩ := List.perm_comp_forall₂ hp.symm (mapM_ok_iff.mp h)
  exact ⟨ys', mapM_ok_iff.mpr hread, hys.symm⟩

/-- What has been made into a list can be made into it in another order. -/
theorem exists_map_of_perm {g : α → β} (h : (xs.map g).Perm ys) :
    ∃ xs', xs.Perm xs' ∧ xs'.map g = ys := by
  have hmap : List.Forall₂ (fun y x => y = g x) (xs.map g) xs :=
    List.forall₂_map_left_iff.mpr (List.forall₂_same.mpr fun _ _ => rfl)
  obtain ⟨xs', hxs', hp⟩ := List.perm_comp_forall₂ h.symm hmap
  refine ⟨xs', hp.symm, ?_⟩
  rw [← List.forall₂_map_right_iff, List.forall₂_eq_eq_eq] at hxs'
  exact hxs'.symm

theorem keysOf_eq_mapM (objects : List ResourceObject) :
    keysOf objects = objects.mapM ResourceKey.ofObject := by
  induction objects with
  | nil => rfl
  | cons o rest ih => rw [keysOf, List.mapM_cons, ih]

end Reading

section Grouping

variable {live live' : List ResourceKey}

/-- Whether a kind is namespaced depends on which keys are live, not on their order. -/
theorem isNamespaced_perm (hp : live.Perm live') (group kind : String) :
    isNamespaced live group kind = isNamespaced live' group kind := by
  have hseen := hp.filter fun k => k.group == group && k.kind == kind
  unfold isNamespaced
  generalize live.filter (fun k => k.group == group && k.kind == kind) = seen at hseen ⊢
  generalize live'.filter (fun k => k.group == group && k.kind == kind) = seen' at hseen ⊢
  cases seen with
  | nil =>
    cases hseen.nil_eq
    rfl
  | cons k rest =>
    cases seen' with
    | nil => cases hseen.eq_nil
    | cons k' rest' => exact hseen.any_eq

theorem withNamespace_perm (hp : live.Perm live') (destination : String) (key : ResourceKey)
    (target : ResourceObject) :
    withNamespace live destination key target = withNamespace live' destination key target := by
  rw [withNamespace, withNamespace, isNamespaced_perm hp]

/-- Nothing repeats in a list without repetitions. -/
theorem repeatedKeys_of_nodup {seen keys : List ResourceKey} (h : keys.Nodup)
    (hseen : ∀ k ∈ keys, k ∉ seen) : repeatedKeys seen keys = [] := by
  induction keys generalizing seen with
  | nil => rfl
  | cons k rest ih =>
    obtain ⟨hfresh, hrest⟩ := List.nodup_cons.mp h
    rw [repeatedKeys, if_neg (hseen k List.mem_cons_self), List.nil_append]
    apply ih hrest
    intro l hl hm
    rcases List.mem_cons.mp hm with rfl | hm
    · exact hfresh hl
    · exact hseen l (List.mem_cons_of_mem _ hl) hm

/-- Declarations under keys that differ give no reason to warn. -/
theorem groupingWarnings_of_nodup {objects : List ResourceObject} {destination : String}
    {declarations : List (Declaration live destination)} (hkeys : keysOf objects = .ok live')
    (hp : live.Perm live') (h : (declarations.map (·.key)).Nodup) :
    groupingWarnings (declarations.map (·.manifest)) objects destination = [] := by
  have hkeyed : ∀ d : Declaration live destination,
      ((ResourceKey.ofObject d.manifest).map fun k =>
        (withNamespace live' destination k d.manifest).1) = .ok d.key := by
    intro d
    rw [d.keyed, Except.map, ← withNamespace_perm hp]
    rfl
  have hkeyed : (declarations.map (·.manifest)).map (fun t => (ResourceKey.ofObject t).map fun k =>
      (withNamespace live' destination k t).1) =
        (declarations.map (·.key)).map Except.ok := by
    rw [List.map_map, List.map_map]
    exact List.map_congr_left fun d _ => hkeyed d
  have hread : ((declarations.map (·.key)).map (Except.ok (ε := ResourceFault))).takeWhile
      (fun k => k.toOption.isSome) = (declarations.map (·.key)).map Except.ok := by
    rw [List.takeWhile_eq_self_iff]
    intro k hk
    obtain ⟨key, -, rfl⟩ := List.mem_map.mp hk
    rfl
  unfold groupingWarnings
  rw [hkeys]
  dsimp only
  have hkeys : (declarations.map (·.key)).filterMap ((fun k => k.toOption) ∘
      Except.ok (ε := ResourceFault)) = declarations.map (·.key) := List.filterMap_some
  rw [hkeyed, hread, List.filterMap_map, hkeys, repeatedKeys_of_nodup h fun _ _ => List.not_mem_nil,
    List.map_nil]

/-- Declarations under keys that differ make one table in any order. -/
theorem groupByKey_perm {objects : List ResourceObject} {destination : String}
    {declarations declarations' : List (Declaration live destination)}
    (hkeys : keysOf objects = .ok live') (hlive : live.Perm live')
    (hp : declarations.Perm declarations') (h : (declarations.map (·.key)).Nodup) :
    groupByKey (declarations'.map (·.manifest)) objects destination =
      .ok (Table.ofList (declarations.map (·.entry))) := by
  have hentries : declarations'.map (fun d => withNamespace live' destination d.own d.manifest) =
      declarations'.map (·.entry) :=
    List.map_congr_left fun d _ => (withNamespace_perm hlive destination d.own d.manifest).symm
  have hnodup : ((declarations.map (·.entry)).map (·.1)).Nodup := by rwa [List.map_map]
  rw [groupByKey_ok hkeys fun d _ => d.keyed, hentries, Table.ofList_eq_of_perm (hp.map _) hnodup]

end Grouping

section Pairing

variable {records records' : List LiveRecord}

theorem lastLive?_perm (hp : records.Perm records') (h : (records.map (·.1)).Nodup)
    (key : ResourceKey) : lastLive? records key = lastLive? records' key := by
  have h' : (records'.map (·.1)).Nodup := (hp.map _).nodup_iff.mp h
  by_cases hm : key ∈ records.map (·.1)
  · obtain ⟨⟨own, live⟩, hr, rfl⟩ := List.mem_map.mp hm
    rw [lastLive?_of_nodup h hr, lastLive?_of_nodup h' (hp.mem_iff.mp hr)]
  · have hm' : key ∉ records'.map (·.1) := fun hmem => hm ((hp.map _).mem_iff.mpr hmem)
    rw [lastLive?_of_not_mem hm, lastLive?_of_not_mem hm']

/-- Records of different keys are paired alike in any order. -/
theorem pairForDrift_perm (hp : records.Perm records') (h : (records.map (·.1)).Nodup)
    {targets : ResourceTable} (hs : Table.Sorted targets) (tracking : Tracking) (app : String) :
    pairForDrift records targets tracking app = pairForDrift records' targets tracking app := by
  have h' : (records'.map (·.1)).Nodup := (hp.map _).nodup_iff.mp h
  apply Table.ext (sorted_pairForDrift _ _ _ _) (sorted_pairForDrift _ _ _ _)
  intro key
  rw [get?_pairForDrift hs, get?_pairForDrift hs, sidesUnder, sidesUnder, lastLive?_perm hp h,
    hasLaterLive_of_nodup h, hasLaterLive_of_nodup h']

end Pairing

namespace DiffAction

open DriftReport

/-- The servers answer the calls of the action alike, except for the order of their lists. -/
structure DifferInOrder (a : DiffAction) (services services' : Services) : Prop where
  application :
    (services (.application a.app.name a.app.namespace
      (Refresh.ofFlags a.refresh a.hardRefresh))).outcome =
      (services' (.application a.app.name a.app.namespace
        (Refresh.ofFlags a.refresh a.hardRefresh))).outcome
  managed : SameOutcome List.Perm
    (services (.managedResources a.app.name a.app.namespace)).outcome
    (services' (.managedResources a.app.name a.app.namespace)).outcome
  manifests : SameOutcome List.Perm
    (services (.manifests a.app.name a.app.namespace a.revision)).outcome
    (services' (.manifests a.app.name a.app.namespace a.revision)).outcome
  settings : (services .settings).outcome = (services' .settings).outcome

section Steps

variable {β : Type} {services services' : Services}

theorem matches_orFail_ok {ε α : Type} {result result' : Except ε α} {x x' : α}
    (h : result = .ok x) (h' : result' = .ok x') {failure : ε → Failure}
    {next next' : α → Program (Except Failure β)}
    (hnext : (next x).Matches services services' (next' x')) :
    (orFail result failure next).Matches services services' (orFail result' failure next') := by
  rwa [orFail_ok h, orFail_ok h']

theorem matches_ask_ok {c : Call} {operation : String} {x x' : c.Result}
    (h : (services c).outcome = .ok x) (h' : (services' c).outcome = .ok x')
    {next next' : c.Result → Program (Except Failure β)}
    (hnext : (next x).Matches services services' (next' x')) :
    (askOrFail c operation next).Matches services services' (askOrFail c operation next') :=
  .call c (matches_orFail_ok h h' hnext)

end Steps

section Runs

variable {a : DiffAction} {services services' : Services}

/-- If the answers take equally long, an action does the same under its deadline. -/
theorem run_eq_of_matches (h : a.program.Matches services services' a.program)
    (hdelay : ∀ c, (services c).delay = (services' c).delay) :
    a.run services = a.run services' := by
  unfold run
  cases Deadline.start a.timeout with
  | error fault => rfl
  | ok deadline =>
    dsimp only
    rw [h.runWithin_eq hdelay]

theorem exists_ok_of_perm {ε α : Type} {result result' : Except ε (List α)} {xs : List α}
    (h : SameOutcome List.Perm result result') (hok : result = .ok xs) :
    ∃ xs', result' = .ok xs' ∧ xs.Perm xs' := by
  subst hok
  cases h with
  | ok hp => exact ⟨_, rfl, hp⟩

/-- Both servers lead through the same stages: the tables that are built from permuted lists
with distinct keys are equal. -/
theorem matches_program_of_order (h : a.DifferInOrder services services') (r : Answers a services)
    (hrecords : (r.resources.map (·.key)).Nodup) (hdeclared : (r.declarations.map (·.key)).Nodup) :
    a.program.Matches services services' a.program := by
  obtain ⟨resources', hmanaged', hresources⟩ := exists_ok_of_perm h.managed r.managed
  obtain ⟨records', hdecoded', hperm⟩ := exists_mapM_of_perm hresources r.decoded
  obtain ⟨manifests', hrendered', hmanifests⟩ := exists_ok_of_perm h.manifests r.rendered
  have hreadable := r.readable
  rw [targetsOf_eq_mapM] at hreadable
  obtain ⟨targets', hreadable', htargets⟩ := exists_mapM_of_perm hmanifests hreadable
  rw [← targetsOf_eq_mapM] at hreadable'
  have hembedded := r.embedded
  rw [keysOf_eq_mapM] at hembedded
  obtain ⟨liveKeys', hembedded', hlive⟩ :=
    exists_mapM_of_perm (hperm.filterMap (·.2)) hembedded
  rw [← keysOf_eq_mapM] at hembedded'
  have hkeys : (r.records.map (·.1)).Nodup := by rwa [keys_of_liveRecords r.decoded]
  obtain ⟨declarations', hdeclarations, rfl⟩ := exists_map_of_perm htargets
  have hdeclared' : (declarations'.map (·.key)).Nodup :=
    (hdeclarations.map _).nodup_iff.mp hdeclared
  refine matches_ask_ok r.application (h.application ▸ r.application) ?_
  refine matches_ask_ok r.managed hmanaged' ?_
  refine matches_orFail_ok r.decoded hdecoded' ?_
  refine matches_ask_ok r.rendered hrendered' ?_
  refine matches_orFail_ok r.readable hreadable' ?_
  refine matches_warn ?_ ?_
  · rw [groupingWarnings_of_nodup r.embedded (.refl _) hdeclared,
      groupingWarnings_of_nodup hembedded' hlive hdeclared']
  refine matches_orFail_ok (groupByKey_perm r.embedded (.refl _) (.refl _) hdeclared)
    (groupByKey_perm hembedded' hlive hdeclarations hdeclared) ?_
  refine matches_ask_ok r.known (h.settings ▸ r.known) ?_
  refine matches_warn rfl (matches_orFail_ok r.accepted r.accepted ?_)
  rw [pairForDrift_perm hperm hkeys (Table.sorted_ofList _)]
  exact matches_warn rfl (.done _)

/-- Where the answers come to a report, and no key occurs twice among the records or among the
manifests as they are placed, the lists may come in any order: the runs are the same, under a
deadline too, and so are the reports and their texts. -/
theorem run_independent_of_order (h : a.DifferInOrder services services') (r : Answers a services)
    (hrecords : (r.resources.map (·.key)).Nodup) (hdeclared : (r.declarations.map (·.key)).Nodup) :
    a.program.run services = a.program.run services' ∧
      ((∀ c, (services c).delay = (services' c).delay) → a.run services = a.run services') ∧
      ∃ report report', (a.program.run services).outcome = .ok report ∧
        (a.program.run services').outcome = .ok report' ∧ report = report' ∧
        report.text = report'.text := by
  have hmatches := matches_program_of_order h r hrecords hdeclared
  refine ⟨hmatches.run_eq, run_eq_of_matches hmatches, ?_⟩
  obtain ⟨report, hreport⟩ := Answers.exists_report_iff.mpr ⟨r⟩
  exact ⟨report, report, hreport, hmatches.run_eq ▸ hreport, rfl, rfl⟩

end Runs

/-- The server of `driftingServer`, which tells of everything the other way round. -/
def backwardServer : Services
  | .application .. => ⟨0, .ok shop⟩
  | .managedResources .. => ⟨0, .ok driftingRecords.reverse⟩
  | .manifests .. => ⟨0, .ok driftingManifests.reverse⟩
  | .settings => ⟨0, .ok shopSettings⟩
  | .sync .. => ⟨0, .ok ()⟩

theorem run_backwardServer :
    (driftingRecords.map (·.key)).Nodup ∧ driftingRecords ≠ driftingRecords.reverse ∧
      diffShop.program.run driftingServer = diffShop.program.run backwardServer ∧
      diffShop.run driftingServer = diffShop.run backwardServer := by
  have hrecords : (driftingAnswers.resources.map (·.key)).Nodup := by decide
  have hdeclared : (driftingAnswers.declarations.map (·.key)).Nodup := by decide +kernel
  have hdiffer : diffShop.DifferInOrder driftingServer backwardServer :=
    { application := rfl
      managed := .ok (List.reverse_perm _).symm
      manifests := .ok (List.reverse_perm _).symm
      settings := rfl }
  obtain ⟨hprogram, hrun, -⟩ :=
    run_independent_of_order hdiffer driftingAnswers hrecords hdeclared
  refine ⟨hrecords, by decide, hprogram, hrun ?_⟩
  rintro (_ | _ | _ | _ | _)
  all_goals rfl

end DiffAction

end DeployDrift
