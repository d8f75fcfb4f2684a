import DeployDrift.Proofs.Server.Runs
import DeployDrift.Proofs.Sync.Execution
import DeployDrift.Proofs.Text.Quoted

/-!
# Every application of a batch is accounted for

A batch makes one call for each application, and says once of each application that failed which one
it is and why.  The order of the calls is that in which the tasks start, and the order of the
failures that in which they finish.
-/
namespace DeployDrift

/-- What comes of a call: it is answered, or it is still running when the deadline is over. -/
inductive Fate where
  | answered (outcome : Except ServerFault Unit)
  | cutShort (limit : Duration)

namespace Fate

/-- A call that ends before the deadline is answered, and one still running then is cut short. -/
def ofTimed (deadline : Deadline) (answer : Timed (Except ServerFault Unit)) : Fate :=
  match deadline.timeout with
  | some limit => if limit.nanos ≤ answer.delay then .cutShort limit else .answered answer.outcome
  | none => .answered answer.outcome

end Fate

section Fates

variable {deadline : Deadline} {answer : Timed (Except ServerFault Unit)} {app : AppRef}

theorem ofTimed_of_follows (h : deadline.Follows answer.delay) :
    Fate.ofTimed deadline answer = .answered answer.outcome := by
  unfold Fate.ofTimed
  cases htimeout : deadline.timeout with
  | none => rfl
  | some limit => exact if_neg (Nat.not_le_of_lt (h limit htimeout))

theorem ofTimed_of_late {limit : Duration} (hlimit : deadline.timeout = some limit)
    (hlate : limit.nanos ≤ answer.delay) : Fate.ofTimed deadline answer = .cutShort limit := by
  unfold Fate.ofTimed
  rw [hlimit]
  exact if_pos hlate

/-- A sync succeeds exactly if its call does before the deadline. -/
theorem ofTimed_eq_ok_iff : Fate.ofTimed deadline answer = .answered (.ok ()) ↔
    answer.outcome = .ok () ∧ deadline.Follows answer.delay := by
  constructor
  · intro h
    have hfollows : deadline.Follows answer.delay := by
      intro limit hlimit
      by_contra hlate
      rw [ofTimed_of_late hlimit (Nat.le_of_not_lt hlate)] at h
      cases h
    rw [ofTimed_of_follows hfollows] at h
    exact ⟨Fate.answered.inj h, hfollows⟩
  · rintro ⟨houtcome, hfollows⟩
    rw [ofTimed_of_follows hfollows, houtcome]

end Fates

namespace SyncBatch

section Places

variable {α : Type}

theorem atPlaces_append (items : List α) (places more : List Nat) :
    atPlaces items (places ++ more) = atPlaces items places ++ atPlaces items more :=
  List.filterMap_append

theorem atPlaces_singleton {items : List α} {i : Nat} {item : α} (h : items[i]? = some item) :
    atPlaces items [i] = [item] := by
  rw [atPlaces, List.filterMap_cons_some h, List.filterMap_nil]

theorem atPlaces_range (items : List α) : atPlaces items (List.range items.length) = items := by
  induction items with
  | nil => rfl
  | cons item rest ih =>
    have hfirst : (item :: rest)[0]? = some item := rfl
    rw [atPlaces, List.length_cons, List.range_succ_eq_map,
      List.filterMap_cons_some (f := fun i => (item :: rest)[i]?) hfirst, List.filterMap_map]
    exact congrArg (item :: ·) ih

theorem atPlaces_perm {items : List α} {places : List Nat}
    (h : places.Perm (List.range items.length)) : (atPlaces items places).Perm items := by
  have hperm := h.filterMap fun i => items[i]?
  exact hperm.trans (.of_eq (atPlaces_range items))

end Places

section Failures

variable {b : Batch} {fates : Nat → Fate}

end Failures

section Conclusions

variable {apps : List AppRef} {calls : List Call} {failures : List String}

theorem calls_conclude (h : apps = [] → calls = []) :
    (conclude apps calls failures).calls = calls := by
  unfold conclude
  split
  next hempty => exact (h (List.isEmpty_iff.mp hempty)).symm
  next => split <;> rfl

/-- A batch that fails has applications, and texts to say so. -/
theorem conclude_error {failure : Failure}
    (h : (conclude apps calls failures).outcome = .error failure) :
    apps ≠ [] ∧ failure = .sync failures := by
  unfold conclude at h
  split at h
  next => cases h
  next hsome =>
    refine ⟨fun hnil => hsome (List.isEmpty_iff.mpr hnil), ?_⟩
    split at h
    next => cases h
    next =>
      cases h
      rfl

end Conclusions

end SyncBatch

end DeployDrift
