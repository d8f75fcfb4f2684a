import DeployDrift.Proofs.Sync.Accounting

/-!
# What the interleavings of a batch come to

The tasks that have started are those that have made their calls, the tasks that are joined are
those whose failures are collected, and a task that is over has failed for its own cause or not at
all.  At the end of an execution, therefore, the calls and failures are those of a run.
-/
namespace DeployDrift.Batch

/-- How a task that is over came to its end. -/
def Stage.ending? : Stage → Option Ending
  | .ended ending => some ending
  | .joined ending => some ending
  | _ => none

/-- Why the task failed, if it did. -/
def Stage.failure? (p : Stage) : Option String := p.ending?.bind (·.failure?)

/-- The answer to a call made then, with the time from the start of the deadline to its end. -/
def answerSince (b : Batch) (i since : Nat) : Timed (Except ServerFault Unit) :=
  ⟨since + (b.answers i).delay, (b.answers i).outcome⟩

/-- The list holds the tasks whose stage meets the condition, each once. -/
structure Enumerates (condition : Stage → Prop) (stage : Nat → Stage) (tasks : List Nat) :
    Prop where
  nodup : tasks.Nodup
  mem_iff : ∀ i, i ∈ tasks ↔ condition (stage i)

namespace Snapshot

/-- No call ended at the deadline, as its task sees it: none ended when the deadline was over and
the task, not polled since, had yet to notice. -/
def Untied (b : Batch) (s : Snapshot) : Prop :=
  ∀ i ending, s.stage i = .joined ending → ∀ limit, b.deadline.timeout = some limit →
    (b.answerSince i ending.since).delay < limit.nanos ∨
      ending.polled < (b.answerSince i ending.since).delay

/-- What the program returns at the end of an execution. -/
def result (b : Batch) (s : Snapshot) : Run (Except Failure Unit) :=
  SyncBatch.conclude b.apps s.calls s.failures

/-- Each task that has started has made its call, and no other call was made. -/
def CallsMade (b : Batch) (s : Snapshot) : Prop :=
  ∃ started, Enumerates (· ≠ .waiting) s.stage started ∧
    s.calls = SyncBatch.atPlaces (b.apps.map (·.syncCall b.options)) started

end Snapshot

variable {b : Batch} {s t : Snapshot}

section Enumeration

variable {condition : Stage → Prop} {tasks : List Nat} {i : Nat} {p : Stage}

theorem enumerates_initial (h : ¬ condition .waiting) (elapsed : Nat) :
    Enumerates condition (Snapshot.initial elapsed).stage [] where
  nodup := List.nodup_nil
  mem_iff := by
    intro i
    constructor
    · intro hi
      cases hi
    · exact fun hi => absurd hi h

theorem Enumerates.advance (h : Enumerates condition s.stage tasks)
    (hsame : condition p ↔ condition (s.stage i)) :
    Enumerates condition (s.advance i p).stage tasks where
  nodup := h.nodup
  mem_iff := by
    intro j
    by_cases hj : j = i
    · subst hj
      rw [stage_advance_self, hsame, h.mem_iff]
    · rw [stage_advance_of_ne hj, h.mem_iff]

/-- A task that comes to meet the condition is listed last. -/
theorem Enumerates.append (h : Enumerates condition s.stage tasks) (hold : ¬ condition (s.stage i))
    (hnew : condition p) : Enumerates condition (s.advance i p).stage (tasks ++ [i]) where
  nodup := by
    have hfresh : i ∉ tasks := fun hi => hold ((h.mem_iff i).mp hi)
    rw [List.nodup_append]
    refine ⟨h.nodup, List.nodup_singleton i, ?_⟩
    rintro j hj k hk rfl
    exact hfresh (List.mem_singleton.mp hk ▸ hj)
  mem_iff := by
    intro j
    rw [List.mem_append, List.mem_singleton]
    by_cases hj : j = i
    · subst hj
      rw [stage_advance_self]
      exact ⟨fun _ => hnew, fun _ => .inr rfl⟩
    · rw [stage_advance_of_ne hj, ← h.mem_iff j]
      simp [hj]

theorem Enumerates.perm_range (h : Enumerates condition s.stage tasks) {n : Nat}
    (hrange : ∀ i, condition (s.stage i) ↔ i < n) : tasks.Perm (List.range n) := by
  apply (List.perm_ext_iff_of_nodup h.nodup List.nodup_range).mpr
  intro i
  rw [h.mem_iff, hrange, List.mem_range]

end Enumeration

section Calls

theorem callsMade_advance (h : s.CallsMade b) {i : Nat} {p : Stage} (hold : s.stage i ≠ .waiting)
    (hnew : p ≠ .waiting) : (s.advance i p).CallsMade b := by
  obtain ⟨started, hstarted, hcalls⟩ := h
  exact ⟨started, hstarted.advance ⟨fun _ => hold, fun _ => hnew⟩, hcalls⟩

/-- A call is recorded when its task starts, and by no other step. -/
theorem callsMade_step (h : s.CallsMade b) (hstep : Step b s t) : t.CallsMade b := by
  cases hstep with
  | spawn hlt => exact h
  | answer happ hstage hover => exact callsMade_advance h (by simp [hstage]) (by simp)
  | expire happ hstage hlimit hreached hrunning =>
    exact callsMade_advance h (by simp [hstage]) (by simp)
  | join hall hstage => exact callsMade_advance h (by simp [hstage]) (by simp)
  | @start i app hspawned happ hstage =>
    obtain ⟨started, hstarted, hcalls⟩ := h
    refine ⟨started ++ [i], hstarted.append (by simp [hstage]) (by simp), ?_⟩
    have hcall : (b.apps.map (·.syncCall b.options))[i]? = some (app.syncCall b.options) := by
      rw [List.getElem?_map, happ, Option.map_some]
    rw [SyncBatch.atPlaces_append, SyncBatch.atPlaces_singleton hcall, ← hcalls]
    rfl

end Calls

section Failures

end Failures

section Fates

variable {i : Nat} {ending : Ending} {fate : Fate}

end Fates

section Ends

theorem Reaches.callsMade (h : Reaches b s) : s.CallsMade b := by
  induction h with
  | initial _ => exact ⟨[], enumerates_initial (by simp) _, rfl⟩
  | wait _ _ ih => exact ih
  | step _ hstep ih => exact callsMade_step ih hstep

/-- At the end every task has made its call. -/
theorem Reaches.exists_started (h : Reaches b s) (hdone : s.Done b) :
    ∃ started : List Nat, started.Perm (List.range b.apps.length) ∧
      s.calls = SyncBatch.atPlaces (b.apps.map (·.syncCall b.options)) started := by
  obtain ⟨started, hstarted, hcalls⟩ := h.callsMade
  refine ⟨started, hstarted.perm_range fun i => ⟨h.listed.lt_length, fun hi => ?_⟩, hcalls⟩
  obtain ⟨ending, hstage⟩ := hdone.2 i hi
  simp [hstage]

theorem Reaches.calls_perm (h : Reaches b s) (hdone : s.Done b) :
    s.calls.Perm (b.apps.map (·.syncCall b.options)) := by
  obtain ⟨started, hstarted, hcalls⟩ := h.exists_started hdone
  rw [hcalls]
  exact SyncBatch.atPlaces_perm (by simpa using hstarted)

end Ends

section Shop

/-- One application listed twice, and another one.  The first call is refused in time, the second is
too slow, and the third would be in time if it were made at once. -/
def shopTwice : Batch where
  apps := [⟨"shop", "argocd"⟩, ⟨"shop", "argocd"⟩, ⟨"cart", ""⟩]
  options := ["Prune=true"]
  deadline := ⟨some ⟨2⟩⟩
  answers := fun
    | 0 => ⟨1, .error (.refused 500 "sync exploded")⟩
    | 1 => ⟨5, .ok ()⟩
    | _ => ⟨1, .ok ()⟩

def shopTwiceFailures : List String := [
  "failed to sync app \"shop\": context deadline exceeded after 2ns",
  "failed to sync app \"cart\": context deadline exceeded after 2ns",
  "failed to sync app \"shop\": Argo CD API request failed: 500 - sync exploded"]

/-- No task is polled before the deadline is over, and the last one is not even started. -/
theorem exists_execution_shopTwice :
    ∃ s, Reaches shopTwice s ∧ s.Done shopTwice ∧ s.Untied shopTwice ∧
      s.calls = [.sync "shop" "argocd" ["Prune=true"], .sync "shop" "argocd" ["Prune=true"],
        .sync "cart" "" ["Prune=true"]] ∧
      s.failures = shopTwiceFailures := by
  have hbegin : Reaches shopTwice (.initial 0) := .initial 0
  have hspawned := hbegin.step (.spawn (by decide))
  have hfirst := hspawned.step (.start (i := 0) (by decide) rfl rfl)
  have hboth := hfirst.step (.spawn (by decide))
  have hsecond := hboth.step (.start (i := 1) (by decide) rfl rfl)
  have hlate := (hsecond.wait 3).step (.spawn (by decide))
  have hexpired := hlate.step (.expire (i := 1) rfl rfl rfl (by decide) (by decide))
  have hrefused := hexpired.step (.answer (i := 0) rfl rfl (by decide))
  have hthird := hrefused.step (.start (i := 2) (by decide) rfl rfl)
  have hended := hthird.step (.expire (i := 2) rfl rfl rfl (by decide) (by decide))
  have hslow := hended.step (.join (i := 1) rfl rfl)
  have hlast := hslow.step (.join (i := 2) rfl rfl)
  refine ⟨_, hlast.step (.join (i := 0) rfl rfl), ⟨rfl, ?_⟩, ?_, rfl, by decide +kernel⟩
  · rintro (_ | _ | _ | i) hi
    · exact ⟨_, rfl⟩
    · exact ⟨_, rfl⟩
    · exact ⟨_, rfl⟩
    · change i + 3 < 3 at hi
      omega
  · rintro (_ | _ | _ | i) ending hstage limit hlimit
    · cases hstage
      cases hlimit
      exact .inl (by decide)
    · cases hstage
      cases hlimit
      exact .inr (by decide)
    · cases hstage
      cases hlimit
      exact .inr (by decide)
    · cases hstage

end Shop

end DeployDrift.Batch
