import DeployDrift.Server.Program

/-!
# Runs of programs

What a program does under a deadline and without one, and when it makes its calls.
-/
namespace DeployDrift

/-!
## Results

A computation that goes on after a result succeeds only if the result is a success.
-/

section Results

variable {ε α β : Type} {result : Except ε α} {b : β}

theorem exists_of_bind_ok {next : α → Except ε β} (h : result >>= next = .ok b) :
    ∃ a, result = .ok a ∧ next a = .ok b := by
  cases result with
  | error fault => cases h
  | ok a => exact ⟨a, rfl, h⟩

theorem exists_of_map_ok {f : α → β} (h : f <$> result = .ok b) :
    ∃ a, result = .ok a ∧ f a = b := by
  cases result with
  | error fault => cases h
  | ok a => exact ⟨a, rfl, Except.ok.inj h⟩

theorem eq_ok_of_toOption {a : α} (h : result.toOption = some a) : result = .ok a := by
  cases result with
  | error fault => cases h
  | ok b => exact congrArg Except.ok (Option.some.inj h)

/-- The fault that a result is, if it is one. -/
def fault? : Except ε α → Option ε
  | .ok _ => none
  | .error fault => some fault

theorem eq_error_of_fault? {fault : ε} (h : fault? result = some fault) :
    result = .error fault := by
  cases result with
  | error other => exact congrArg Except.error (Option.some.inj h)
  | ok a => cases h

end Results

/-!
## Runs that end in time

A program whose answers all come in time does under a deadline what it does without one, and one
that is not cut short ends the way it does without one.
-/

namespace Deadline

/-- What ends after this time ends before the deadline. -/
def Follows (d : Deadline) (nanos : Nat) : Prop :=
  ∀ limit, d.timeout = some limit → nanos < limit.nanos

/-- What ends after this time does not end exactly at the deadline. -/
def Avoids (d : Deadline) (nanos : Nat) : Prop :=
  ∀ limit, d.timeout = some limit → nanos ≠ limit.nanos

theorem follows_some_iff {limit : Duration} {nanos : Nat} :
    Follows ⟨some limit⟩ nanos ↔ nanos < limit.nanos := by
  simp [Follows]

theorem avoids_some_iff {limit : Duration} {nanos : Nat} :
    Avoids ⟨some limit⟩ nanos ↔ nanos ≠ limit.nanos := by
  simp [Avoids]

theorem allows_iff {d : Deadline} {nanos : Nat} :
    d.allows nanos = true ↔ nanos = 0 ∨ d.Follows nanos := by
  unfold allows Follows
  cases d.timeout with
  | none => simp
  | some limit => simp

/-- What is done in time would have been so earlier. -/
theorem allows_of_le {d : Deadline} {m n : Nat} (hle : m ≤ n) (h : d.allows n = true) :
    d.allows m = true := by
  rw [allows_iff] at h ⊢
  rcases h with rfl | hfollows
  · exact .inl (Nat.le_zero.mp hle)
  · exact .inr fun limit hlimit => Nat.lt_of_le_of_lt hle (hfollows limit hlimit)

end Deadline

namespace Program

variable {α : Type} (services : Services)

/-- A deadline that comes after the end changes nothing. -/
theorem runWithin_of_allowed {deadline : Deadline} (p : Program α) {elapsed : Nat}
    (h : deadline.allows (elapsed + p.duration services) = true) :
    p.runWithin services deadline elapsed =
      { p.run services with outcome := some (p.run services).outcome } := by
  induction p generalizing elapsed with
  | done a => rfl
  | log entry next ih =>
    rw [runWithin, ih h]
    rfl
  | call c next ih =>
    rw [duration] at h
    have hstarted : deadline.allows (elapsed + (services c).delay) = true :=
      Deadline.allows_of_le (by omega) h
    rw [← Nat.add_assoc] at h
    rw [runWithin]
    simp only [hstarted, if_true, ih (services c).outcome h]
    rfl

/-- A program that comes to its end under a deadline comes to the end it has without one. -/
theorem outcome_of_runWithin {deadline : Deadline} (p : Program α) {elapsed : Nat} {outcome : α}
    (h : (p.runWithin services deadline elapsed).outcome = some outcome) :
    (p.run services).outcome = outcome := by
  induction p generalizing elapsed with
  | done a => exact Option.some.inj h
  | log entry next ih => exact ih h
  | call c next ih =>
    rw [runWithin] at h
    dsimp only at h
    split at h
    · exact ih _ h
    · cases h

end Program

/-!
## What programs come to

Some things hold of every ending of a program, however its calls are answered.  They are shown step
by step on the program, and then hold of all its runs, with or without a deadline.

Two programs match if they do the same against a server each.  They then have the same runs.
-/
namespace Program

/-- However its calls are answered, the program ends with a result that meets the condition. -/
inductive Ends {α : Type} (condition : α → Prop) : Program α → Prop
  | done {a : α} (h : condition a) : Ends condition (.done a)
  | log {entry : LogEntry} {next : Program α} (h : Ends condition next) :
      Ends condition (.log entry next)
  | call {c : Call} {next : Except ServerFault c.Result → Program α}
      (h : ∀ answer, Ends condition (next answer)) : Ends condition (.call c next)

section Endings

variable {α : Type} {condition : α → Prop} {p : Program α}

theorem Ends.outcome_run (h : p.Ends condition) (services : Services) :
    condition (p.run services).outcome := by
  induction h with
  | done h => exact h
  | log _ ih => exact ih
  | call _ ih => exact ih _

/-- A program that is not cut short ends as it does without a deadline. -/
theorem Ends.outcome_runWithin (h : p.Ends condition) (services : Services) (deadline : Deadline)
    {elapsed : Nat} {outcome : α}
    (hend : (p.runWithin services deadline elapsed).outcome = some outcome) :
    condition outcome := by
  rw [← outcome_of_runWithin services p hend]
  exact h.outcome_run services

/-- A call that a program begins with is started, however little time is left. -/
theorem calls_runWithin_call (services : Services) (deadline : Deadline) (elapsed : Nat) (c : Call)
    (next : Except ServerFault c.Result → Program α) :
    ((Program.call c next).runWithin services deadline elapsed).calls ≠ [] := by
  rw [runWithin]
  dsimp only
  split
  · exact List.cons_ne_nil _ _
  · exact List.cons_ne_nil _ _

end Endings

/-- The programs do the same step by step, each against a server of its own. -/
inductive Matches {α : Type} (services services' : Services) : Program α → Program α → Prop
  | done (a : α) : Matches services services' (.done a) (.done a)
  | log (entry : LogEntry) {next next' : Program α} (h : Matches services services' next next') :
      Matches services services' (.log entry next) (.log entry next')
  | call (c : Call) {next next' : Except ServerFault c.Result → Program α}
      (h : Matches services services' (next (services c).outcome) (next' (services' c).outcome)) :
      Matches services services' (.call c next) (.call c next')

section Matching

variable {α : Type} {services services' : Services} {p p' : Program α}

theorem Matches.run_eq (h : p.Matches services services' p') :
    p.run services = p'.run services' := by
  induction h with
  | done a => rfl
  | log entry _ ih => rw [run, run, ih]
  | call c _ ih => rw [run, run, ih]

/-- If the answers take equally long, the programs are cut short at the same call. -/
theorem Matches.runWithin_eq (h : p.Matches services services' p')
    (hdelay : ∀ c, (services c).delay = (services' c).delay) (deadline : Deadline) (elapsed : Nat) :
    p.runWithin services deadline elapsed = p'.runWithin services' deadline elapsed := by
  induction h generalizing elapsed with
  | done a => rfl
  | log entry _ ih => rw [runWithin, runWithin, ih]
  | call c _ ih => rw [runWithin, runWithin, ← hdelay c, ih]

end Matching

end Program

/-!
## When calls are started

A program makes its calls one after another: each is started at the moment the one before it is
answered.  Under a deadline those calls are started whose moment comes in time, and the program
comes to its end if the last answer does.
-/

/-- Calls made one after another, each with the moment at which it is started. -/
def startTimes (services : Services) : (elapsed : Nat) → List Call → List (Nat × Call)
  | _, [] => []
  | elapsed, c :: rest => (elapsed, c) :: startTimes services (elapsed + (services c).delay) rest

/-- How long calls take that are made one after another. -/
def totalDelay (services : Services) : List Call → Nat
  | [] => 0
  | c :: rest => (services c).delay + totalDelay services rest

/-- The calls that are started by a moment. -/
def startedBy (services : Services) (limit : Nat) (calls : List Call) : List Call :=
  ((startTimes services 0 calls).filter fun e => e.1 ≤ limit).map (·.2)

section Moments

variable {services : Services} {elapsed : Nat} {calls : List Call} {e : Nat × Call}

theorem le_of_mem_startTimes (h : e ∈ startTimes services elapsed calls) : elapsed ≤ e.1 := by
  induction calls generalizing elapsed with
  | nil => cases h
  | cons c rest ih =>
    rcases List.mem_cons.mp h with rfl | h
    · exact Nat.le_refl elapsed
    · have hlater := ih h
      omega

/-- A call is started at the beginning or when another one is answered. -/
theorem startTime_cases (h : e ∈ startTimes services elapsed calls) :
    e.1 = elapsed ∨
      ∃ earlier ∈ startTimes services elapsed calls,
        e.1 = earlier.1 + (services earlier.2).delay := by
  induction calls generalizing elapsed with
  | nil => cases h
  | cons c rest ih =>
    rcases List.mem_cons.mp h with rfl | h
    · exact .inl rfl
    · rcases ih h with hfirst | ⟨earlier, hearlier, hlater⟩
      · exact .inr ⟨(elapsed, c), List.mem_cons_self, hfirst⟩
      · exact .inr ⟨earlier, List.mem_cons_of_mem _ hearlier, hlater⟩

/-- If no call ends exactly at the deadline, no other one is started then: those that are allowed
are those that are started by the deadline. -/
theorem allows_startTime_iff {limit : Duration}
    (havoids : ∀ e ∈ startTimes services 0 calls,
      Deadline.Avoids ⟨some limit⟩ (e.1 + (services e.2).delay))
    (h : e ∈ startTimes services 0 calls) :
    Deadline.allows ⟨some limit⟩ e.1 = true ↔ e.1 ≤ limit.nanos := by
  rw [Deadline.allows_iff, Deadline.follows_some_iff]
  rcases startTime_cases h with hfirst | ⟨earlier, hearlier, hmoment⟩
  · omega
  · have hne := Deadline.avoids_some_iff.mp (havoids earlier hearlier)
    omega

end Moments

namespace Program

variable {α : Type} (services : Services) {deadline : Deadline}

theorem duration_eq (p : Program α) :
    p.duration services = totalDelay services (p.run services).calls := by
  induction p with
  | done a => rfl
  | log entry next ih => exact ih
  | call c next ih => rw [duration, ih, run, totalDelay]

/-- A deadline changes nothing about the calls but where they stop. -/
theorem calls_runWithin_initial (p : Program α) (elapsed : Nat) :
    (p.runWithin services deadline elapsed).calls <+: (p.run services).calls := by
  induction p generalizing elapsed with
  | done a => exact List.prefix_rfl
  | log entry next ih => exact ih elapsed
  | call c next ih =>
    rw [runWithin, run]
    dsimp only
    split
    · exact List.cons_prefix_cons.mpr ⟨rfl, ih _ _⟩
    · exact List.cons_prefix_cons.mpr ⟨rfl, List.nil_prefix⟩

/-- Under a deadline exactly those calls are made that would start before it. -/
theorem calls_runWithin (p : Program α) {elapsed : Nat} (h : deadline.allows elapsed = true) :
    (p.runWithin services deadline elapsed).calls =
      ((startTimes services elapsed (p.run services).calls).filter
        fun e => deadline.allows e.1).map (·.2) := by
  induction p generalizing elapsed with
  | done a => rfl
  | log entry next ih => exact ih h
  | call c next ih =>
    have hstarts : startTimes services elapsed ((Program.call c next).run services).calls =
        (elapsed, c) :: startTimes services (elapsed + (services c).delay)
          ((next (services c).outcome).run services).calls := rfl
    rw [hstarts, List.filter_cons, if_pos h, List.map_cons, runWithin]
    dsimp only
    split
    next hintime => rw [ih _ hintime]
    next hlate =>
      -- every later call would be started later still
      have hnone : (startTimes services (elapsed + (services c).delay)
          ((next (services c).outcome).run services).calls).filter
            (fun e => deadline.allows e.1) = [] := by
        rw [List.filter_eq_nil_iff]
        intro e he hallowed
        exact hlate (Deadline.allows_of_le (le_of_mem_startTimes he) hallowed)
      rw [hnone, List.map_nil]

/-- A program whose last answer comes too late is cut short. -/
theorem outcome_runWithin_of_late (p : Program α) {elapsed : Nat}
    (h : deadline.allows elapsed = true)
    (hlate : ¬ deadline.allows (elapsed + p.duration services) = true) :
    (p.runWithin services deadline elapsed).outcome = none := by
  induction p generalizing elapsed with
  | done a => exact absurd h hlate
  | log entry next ih => exact ih h hlate
  | call c next ih =>
    rw [runWithin]
    dsimp only
    split
    next hintime =>
      rw [duration, ← Nat.add_assoc] at hlate
      exact ih _ hintime hlate
    next => rfl

end Program
end DeployDrift
