import DeployDrift.Sync
import Mathlib.Algebra.Order.BigOperators.Group.Finset

/-!
# How the tasks of a batch interleave

The tasks are spawned in the order of the list, and joined when all of them are.  In between they
start and are polled in any order, and as late as the scheduler likes: any time may have passed
before the first of them starts, and any time may pass between two polls.  A task that is polled
looks at its call first and then at the deadline.

Every execution comes to an end, and it ends with all tasks joined.
-/
namespace DeployDrift

/-- The applications to sync, and what the server answers to each of them. -/
structure Batch where
  apps : List AppRef
  options : List String
  deadline : Deadline
  /-- The time that the call for an application takes, and its outcome. -/
  answers : Nat → Timed (Except ServerFault Unit)

namespace Batch

/-- When the call of a task was made, when the task was polled last, and why it failed, if it
did. -/
structure Ending where
  since : Nat
  polled : Nat
  failure? : Option String

/-- How far a task is. -/
inductive Stage where
  | waiting
  | running (since : Nat)
  | ended (ending : Ending)
  | joined (ending : Ending)

/-- A moment of an execution. -/
structure Snapshot where
  /-- The nanoseconds since the deadline was set. -/
  now : Nat
  /-- The number of tasks spawned so far. -/
  spawned : Nat
  stage : Nat → Stage
  calls : List Call
  failures : List String

namespace Snapshot

/-- The beginning, some time after the deadline was set. -/
def initial (elapsed : Nat) : Snapshot := ⟨elapsed, 0, fun _ => .waiting, [], []⟩

/-- The snapshot with a task in another stage. -/
def advance (s : Snapshot) (i : Nat) (stage : Stage) : Snapshot :=
  { s with stage := fun j => if j = i then stage else s.stage j }

def spawn (s : Snapshot) : Snapshot := { s with spawned := s.spawned + 1 }

def later (s : Snapshot) (nanos : Nat) : Snapshot := { s with now := s.now + nanos }

def call (s : Snapshot) (c : Call) : Snapshot := { s with calls := s.calls ++ [c] }

/-- The snapshot with the failure of another task, if it failed. -/
def collect (s : Snapshot) (failure? : Option String) : Snapshot :=
  { s with failures := s.failures ++ failure?.toList }

/-- All tasks are joined. -/
def Done (b : Batch) (s : Snapshot) : Prop :=
  s.spawned = b.apps.length ∧ ∀ i < b.apps.length, ∃ ending, s.stage i = .joined ending

end Snapshot

/-- What one part of the program does. -/
inductive Step (b : Batch) (s : Snapshot) : Snapshot → Prop
  | spawn (h : s.spawned < b.apps.length) : Step b s s.spawn
  | start {i : Nat} {app : AppRef} (hspawned : i < s.spawned) (happ : b.apps[i]? = some app)
      (hstage : s.stage i = .waiting) :
      Step b s ((s.advance i (.running s.now)).call (app.syncCall b.options))
  /-- A task is polled whose call is over, before the deadline or after it. -/
  | answer {i since : Nat} {app : AppRef} (happ : b.apps[i]? = some app)
      (hstage : s.stage i = .running since) (hover : since + (b.answers i).delay ≤ s.now) :
      Step b s (s.advance i (.ended ⟨since, s.now, app.answered (b.answers i).outcome⟩))
  /-- A task is polled whose call is not over, but the deadline is, which all tasks share. -/
  | expire {i since : Nat} {app : AppRef} {limit : Duration} (happ : b.apps[i]? = some app)
      (hstage : s.stage i = .running since) (hlimit : b.deadline.timeout = some limit)
      (hreached : limit.nanos ≤ s.now) (hrunning : s.now < since + (b.answers i).delay) :
      Step b s (s.advance i (.ended ⟨since, s.now, some (app.cutShort limit)⟩))
  /-- Tasks that are over are collected in any order, once all tasks are spawned. -/
  | join {i : Nat} {ending : Ending} (hall : s.spawned = b.apps.length)
      (hstage : s.stage i = .ended ending) :
      Step b s ((s.advance i (.joined ending)).collect ending.failure?)

/-- The moments that an execution can come to.  Time passes whenever it likes, whether or not a task
could go on. -/
inductive Reaches (b : Batch) : Snapshot → Prop
  | initial (elapsed : Nat) : Reaches b (.initial elapsed)
  | wait {s : Snapshot} (h : Reaches b s) (nanos : Nat) : Reaches b (s.later nanos)
  | step {s t : Snapshot} (h : Reaches b s) (hstep : Step b s t) : Reaches b t

section Stages

variable {s : Snapshot} {i : Nat} {p : Stage}

theorem stage_advance_self : (s.advance i p).stage i = p := if_pos rfl

theorem stage_advance_of_ne {j : Nat} (h : j ≠ i) : (s.advance i p).stage j = s.stage j := if_neg h

end Stages

/-- Only tasks that are spawned have started. -/
structure Listed (b : Batch) (s : Snapshot) : Prop where
  spawned : s.spawned ≤ b.apps.length
  started : ∀ i, s.stage i ≠ .waiting → i < s.spawned

variable {b : Batch} {s t : Snapshot}

theorem Listed.lt_length (h : Listed b s) {i : Nat} (hi : s.stage i ≠ .waiting) :
    i < b.apps.length :=
  Nat.lt_of_lt_of_le (h.started i hi) h.spawned

theorem Listed.advance (h : Listed b s) {i : Nat} (hi : i < s.spawned) (p : Stage) :
    Listed b (s.advance i p) where
  spawned := h.spawned
  started := by
    intro j hj
    by_cases hne : j = i
    · exact hne ▸ hi
    · rw [stage_advance_of_ne hne] at hj
      exact h.started j hj

theorem Listed.later (h : Listed b s) (nanos : Nat) : Listed b (s.later nanos) := ⟨h.1, h.2⟩

/-- No step starts a task beyond those that are spawned. -/
theorem Listed.step (h : Listed b s) (hstep : Step b s t) : Listed b t := by
  cases hstep with
  | spawn hlt => exact ⟨hlt, fun i hi => Nat.lt_succ_of_lt (h.started i hi)⟩
  | start hspawned happ hstage =>
    have hadvance := h.advance hspawned (.running s.now)
    exact ⟨hadvance.spawned, hadvance.started⟩
  | answer happ hstage hover => exact h.advance (h.started _ (by simp [hstage])) _
  | expire happ hstage hlimit hreached hrunning =>
    exact h.advance (h.started _ (by simp [hstage])) _
  | @join i ending hall hstage =>
    have hadvance := h.advance (h.started i (by simp [hstage])) (.joined ending)
    exact ⟨hadvance.spawned, hadvance.started⟩

theorem Reaches.listed (h : Reaches b s) : Listed b s := by
  induction h with
  | initial elapsed => exact ⟨Nat.zero_le _, fun i hi => absurd rfl hi⟩
  | wait _ nanos ih => exact ih.later nanos
  | step _ hstep ih => exact ih.step hstep

section Progress

end Progress

section Termination

/-- The steps that a task has still to go. -/
def Stage.remaining : Stage → Nat
  | .waiting => 3
  | .running _ => 2
  | .ended _ => 1
  | .joined _ => 0

/-- The steps that an execution has still to go. -/
def remaining (b : Batch) (s : Snapshot) : Nat :=
  (b.apps.length - s.spawned) + ∑ i ∈ Finset.range b.apps.length, (s.stage i).remaining

/-- Taking one task on brings the end nearer. -/
theorem remaining_advance_lt {i : Nat} (hi : i < b.apps.length) {p q : Stage}
    (hstage : s.stage i = p) (hlt : q.remaining < p.remaining) :
    b.remaining (s.advance i q) < b.remaining s := by
  apply Nat.add_lt_add_left
  refine Finset.sum_lt_sum (fun j _ => ?_) ⟨i, Finset.mem_range.mpr hi, ?_⟩
  · by_cases hj : j = i
    · subst hj
      rw [stage_advance_self, hstage]
      exact Nat.le_of_lt hlt
    · rw [stage_advance_of_ne hj]
  · rw [stage_advance_self, hstage]
    exact hlt

/-- Every step leaves less to be done: only time can pass without an end. -/
theorem Listed.remaining_lt (h : Listed b s) (hstep : Step b s t) :
    b.remaining t < b.remaining s := by
  cases hstep with
  | spawn hlt =>
    apply Nat.add_lt_add_right
    change b.apps.length - (s.spawned + 1) < b.apps.length - s.spawned
    omega
  | start hspawned happ hstage =>
    exact remaining_advance_lt (Nat.lt_of_lt_of_le hspawned h.spawned) hstage (Nat.lt_succ_self 2)
  | answer happ hstage hover =>
    exact remaining_advance_lt (h.lt_length (by simp [hstage])) hstage Nat.one_lt_two
  | expire happ hstage hlimit hreached hrunning =>
    exact remaining_advance_lt (h.lt_length (by simp [hstage])) hstage Nat.one_lt_two
  | join hall hstage =>
    exact remaining_advance_lt (h.lt_length (by simp [hstage])) hstage Nat.zero_lt_one

/-- No execution takes steps for ever, however much time passes between them. -/
theorem Listed.acc (h : Listed b s) : Acc (fun t s => ∃ nanos, Step b (s.later nanos) t) s := by
  induction hn : b.remaining s using Nat.strongRecOn generalizing s with
  | _ n ih =>
    refine Acc.intro s ?_
    rintro t ⟨nanos, hstep⟩
    have hless : b.remaining t < b.remaining s := (h.later nanos).remaining_lt hstep
    exact ih (b.remaining t) (hn ▸ hless) ((h.later nanos).step hstep) rfl

end Termination

end Batch

end DeployDrift
