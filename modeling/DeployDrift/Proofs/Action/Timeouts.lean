import DeployDrift.Action

/-!
# The timeout of a chosen action

Choosing an action changes nothing of it but the timeout: an empty one is replaced by the shared
timeout.  A timeout of blanks is not empty, although it sets no deadline either, so that an action
with such a timeout has no deadline even where there is a shared one.
-/
namespace DeployDrift

namespace Deadline

theorem start_eq_never_iff {timeout : String} :
    start timeout = .ok never ↔ Text.isBlankText timeout = true := by
  unfold start
  split
  next hblank => simp [hblank]
  next hblank =>
    cases Duration.parse timeout with
    | error fault => simp [hblank]
    | ok d => simp [hblank, never]

theorem start_empty : start "" = .ok never := start_eq_never_iff.mpr rfl

end Deadline

namespace Action

/-- The action with another timeout. -/
def withTimeout (timeout : String) : Action → Action
  | .sync a => .sync { a with timeout := timeout }
  | .diff a => .diff { a with timeout := timeout }

@[simp] theorem timeout_withTimeout (timeout : String) (action : Action) :
    (action.withTimeout timeout).timeout = timeout := by
  cases action <;> rfl

end Action

namespace ActionSpec

/-- The action that a request asks for, as it is written there; none if there is not exactly one. -/
def written? (spec : ActionSpec) : Option Action :=
  spec.app.bind fun app =>
    match app.sync, app.diff with
    | some a, none => some (.sync a)
    | none, some a => some (.diff a)
    | _, _ => none

variable {spec : ActionSpec} {action : Action}

theorem route_eq_ok_iff : spec.route = .ok action ↔
    ∃ own, spec.written? = some own ∧
      action = own.withTimeout (inheritTimeout own.timeout spec.timeout) := by
  obtain ⟨app?, shared⟩ := spec
  cases app? with
  | none => simp [route, written?]
  | some app =>
    obtain ⟨sync?, diff?⟩ := app
    cases sync? <;> cases diff? <;>
      simp [route, written?, Action.withTimeout, Action.timeout, eq_comm]

/-- An action keeps everything but its timeout when it is chosen, and also that unless it sets no
deadline.  If it sets none, the action gets the deadline of the shared timeout exactly if its own
one is empty or the shared one sets none either. -/
theorem route_timeout_exact (h : spec.route = .ok action) :
    ∃ own, spec.written? = some own ∧ action = own.withTimeout action.timeout ∧
      (Deadline.start own.timeout = .ok .never →
        (Deadline.start action.timeout = Deadline.start spec.timeout ↔
          own.timeout = "" ∨ Deadline.start spec.timeout = .ok .never)) ∧
      (Deadline.start own.timeout ≠ .ok .never → action.timeout = own.timeout) := by
  obtain ⟨own, hwritten, rfl⟩ := route_eq_ok_iff.mp h
  refine ⟨own, hwritten, by rw [Action.timeout_withTimeout], ?_, ?_⟩
  · intro hnever
    rw [Action.timeout_withTimeout, inheritTimeout]
    split
    next hempty => simp [hempty]
    next hblank => rw [hnever, or_iff_right hblank, eq_comm]
  · intro hsets
    have hown : own.timeout ≠ "" := fun hempty => hsets (hempty ▸ Deadline.start_empty)
    rw [Action.timeout_withTimeout, inheritTimeout, if_neg hown]

/-- A request for the drift of an application, with a timeout of its own and a shared one. -/
def driftSpec (own shared : String) : ActionSpec :=
  ⟨some ⟨none, some ⟨⟨"shop", ""⟩, "", false, false, own⟩⟩, shared⟩

/-- Without a timeout of its own the action gets the shared five minutes. -/
theorem route_shared_timeout :
    (driftSpec "" "5m").route = .ok (.diff ⟨⟨"shop", ""⟩, "", false, false, "5m"⟩) ∧
      Deadline.start (Action.diff ⟨⟨"shop", ""⟩, "", false, false, "5m"⟩).timeout =
        Deadline.start (driftSpec "" "5m").timeout := by
  have hroute : (driftSpec "" "5m").route =
      .ok (.diff ⟨⟨"shop", ""⟩, "", false, false, "5m"⟩) := rfl
  obtain ⟨own, hown, -, hshared, -⟩ := route_timeout_exact hroute
  have heq : own = .diff ⟨⟨"shop", ""⟩, "", false, false, ""⟩ := (Option.some.inj hown).symm
  subst heq
  exact ⟨hroute, (hshared Deadline.start_empty).mpr (.inl rfl)⟩

/-- With a timeout of one blank the action has no deadline, in spite of the shared five minutes. -/
theorem route_blank_timeout :
    ∃ action, (driftSpec " " "5m").route = .ok action ∧
      Deadline.start " " = .ok .never ∧
      Deadline.start action.timeout = .ok .never ∧
      (Deadline.start (driftSpec " " "5m").timeout).toOption = some ⟨some ⟨300000000000⟩⟩ := by
  have hblank : Deadline.start " " = .ok .never := Deadline.start_eq_never_iff.mpr (by decide)
  exact ⟨.diff ⟨⟨"shop", ""⟩, "", false, false, " "⟩, rfl, hblank, hblank, by decide +kernel⟩

end ActionSpec
end DeployDrift
