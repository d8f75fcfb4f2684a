import DeployDrift.Proofs.Merge.Prediction

/-!
# Stale fields

A position in a document is reached through fields of mappings and through items of named lists.  A
field is stale if at one and the same position the applied document and the live one have it and
the target is a mapping without it.
-/
namespace DeployDrift.Document

/-- A step towards a position inside a document. -/
inductive Step where
  /-- Into the value of a field. -/
  | field (name : String)
  /-- Into the first item of a name. -/
  | item (name : String)
  deriving DecidableEq, Repr

/-- The part of the document that one step leads to. -/
def step? (d : Document) : Step → Option Document
  | .field name => d.get? name
  | .item name => d.namedItem? name

/-- The part of the document at a position. -/
def reach? (d : Document) : List Step → Option Document
  | [] => some d
  | step :: rest => (d.step? step).bind fun c => c.reach? rest

/-- At some position all three are mappings, and some field was applied and is live, but is not
declared. -/
def StaleField (applied target live : Document) : Prop :=
  ∃ (path : List Step) (appliedFields targetFields liveFields : Fields) (field : String),
    applied.reach? path = some (.mapping appliedFields) ∧
    target.reach? path = some (.mapping targetFields) ∧
    live.reach? path = some (.mapping liveFields) ∧
    Table.contains appliedFields field = true ∧
    Table.contains liveFields field = true ∧
    Table.contains targetFields field = false

/-- At the root of the three some field was applied and is live, but is not declared. -/
def StaleHere (applied target live : Document) : Prop :=
  ∃ (targetFields : Fields) (field : String), target = .mapping targetFields ∧
    (applied.get? field).isSome = true ∧ (live.get? field).isSome = true ∧
    Table.get? targetFields field = none

theorem staleHere_iff {applied target live : Document} :
    StaleHere applied target live ↔
      ∃ (appliedFields targetFields liveFields : Fields) (field : String),
        applied = .mapping appliedFields ∧ target = .mapping targetFields ∧
        live = .mapping liveFields ∧ Table.contains appliedFields field = true ∧
        Table.contains liveFields field = true ∧ Table.contains targetFields field = false := by
  constructor
  · rintro ⟨targetFields, field, rfl, ha, hl, ht⟩
    cases applied with
    | mapping appliedFields =>
      cases live with
      | mapping liveFields =>
        exact ⟨appliedFields, targetFields, liveFields, field, rfl, rfl, rfl, ha, hl,
          by simp [Table.contains, ht]⟩
      | _ => cases hl
    | _ => cases ha
  · rintro ⟨appliedFields, targetFields, liveFields, field, rfl, rfl, rfl, ha, hl, ht⟩
    exact ⟨targetFields, field, rfl, ha, hl, by simpa [Table.contains] using ht⟩

/-- A stale field is at the root or behind a common first step. -/
theorem staleField_iff {applied target live : Document} :
    StaleField applied target live ↔ StaleHere applied target live ∨
      ∃ step a t l, applied.step? step = some a ∧ target.step? step = some t ∧
        live.step? step = some l ∧ StaleField a t l := by
  rw [staleHere_iff]
  constructor
  · rintro ⟨path, af, tf, lf, field, ha, ht, hl, hfields⟩
    cases path with
    | nil =>
      exact .inl ⟨af, tf, lf, field, Option.some.inj ha, Option.some.inj ht, Option.some.inj hl,
        hfields⟩
    | cons step rest =>
      obtain ⟨a, hsa, ha⟩ := Option.bind_eq_some_iff.mp ha
      obtain ⟨t, hst, ht⟩ := Option.bind_eq_some_iff.mp ht
      obtain ⟨l, hsl, hl⟩ := Option.bind_eq_some_iff.mp hl
      exact .inr ⟨step, a, t, l, hsa, hst, hsl, rest, af, tf, lf, field, ha, ht, hl, hfields⟩
  · rintro (⟨af, tf, lf, field, rfl, rfl, rfl, hfields⟩ |
      ⟨step, a, t, l, hsa, hst, hsl, path, af, tf, lf, field, ha, ht, hl, hfields⟩)
    · exact ⟨[], af, tf, lf, field, rfl, rfl, rfl, hfields⟩
    · refine ⟨step :: path, af, tf, lf, field, ?_, ?_, ?_, hfields⟩
      · rw [reach?, hsa]; exact ha
      · rw [reach?, hst]; exact ht
      · rw [reach?, hsl]; exact hl

/-- Where nothing was applied nothing is stale. -/
theorem not_stale_of_null (target live : Document) : ¬ StaleField .null target live := by
  rw [staleField_iff]
  rintro (⟨tf, field, -, ha, -⟩ | ⟨step, a, t, l, ha, -⟩)
  · cases ha
  · cases step <;> cases ha

/-- Where nothing is live nothing is stale. -/
theorem not_stale_in_null (applied target : Document) : ¬ StaleField applied target .null := by
  rw [staleField_iff]
  rintro (⟨tf, field, -, -, hl, -⟩ | ⟨step, a, t, l, -, -, hl, -⟩)
  · cases hl
  · cases step <;> cases hl

theorem not_stale_scalar {target : Document} (h : target.IsScalar) (applied live : Document) :
    ¬ StaleField applied target live := by
  rw [staleField_iff]
  rintro (⟨tf, field, rfl, -⟩ | ⟨step, a, t, l, -, ht, -⟩)
  · exact h
  · cases target with
    | list _ => exact h
    | mapping _ => exact h
    | _ => cases step <;> cases ht

/-- Between mappings every field stands for itself. -/
theorem not_stale_mapping {applied : Document} {target live : Fields} :
    ¬ StaleField applied (mapping target) (mapping live) ↔ ∀ field,
      match Table.get? target field with
      | none => (applied.get? field).isSome = true → Table.get? live field = none
      | some t => ¬ StaleField (applied.fieldOrNull field) t
          ((mapping live).fieldOrNull field) := by
  rw [staleField_iff, not_or]
  constructor
  · rintro ⟨hhere, hbelow⟩ field
    cases ht : Table.get? target field with
    | none =>
      intro ha
      cases hl : Table.get? live field with
      | none => rfl
      | some l =>
        have hlive : ((mapping live).get? field).isSome = true := by
          rw [get?_eq]
          simp [fieldsOrEmpty, hl]
        exact absurd ⟨target, field, rfl, ha, hlive, ht⟩ hhere
    | some t =>
      intro hstale
      unfold fieldOrNull at hstale
      cases ha : applied.get? field with
      | none => exact not_stale_of_null t _ (by simpa [ha] using hstale)
      | some a =>
        cases hl : (mapping live).get? field with
        | none => exact not_stale_in_null a t (by simpa [ha, hl] using hstale)
        | some l =>
          exact hbelow ⟨.field field, a, t, l, ha, ht, hl, by simpa [ha, hl] using hstale⟩
  · intro h
    constructor
    · rintro ⟨_, field, heq, ha, hl, ht⟩
      cases heq
      have hfield := h field
      simp only [ht] at hfield
      rw [get?_eq] at hl
      simp [fieldsOrEmpty, hfield ha] at hl
    · rintro ⟨step, a, t, l, ha, ht, hl, hstale⟩
      cases step with
      | item name => cases ht
      | field field =>
        have hfield := h field
        have ht' : Table.get? target field = some t := ht
        have ha' : applied.get? field = some a := ha
        have hl' : (mapping live).get? field = some l := hl
        simp only [ht', fieldOrNull, ha', hl', Option.getD_some] at hfield
        exact hfield hstale

/-- Between lists every item of the target stands for itself, if they are named differently. -/
theorem not_stale_list {applied live : Document} {target : List Document}
    (hn : isNamedList target = true) (hd : (target.map itemName?).Nodup) :
    ¬ StaleField applied (list target) live ↔
      ∀ t ∈ target, ¬ StaleField (applied.partner t) t (live.partner t) := by
  rw [staleField_iff, not_or]
  constructor
  · rintro ⟨-, hbelow⟩ t hm hstale
    obtain ⟨name, hname⟩ := (isNamedList_iff.mp hn).2 t hm
    have hself := partner_of_mem hn hd hm
    rw [partner, hname, Option.bind_some] at hself hstale
    rw [partner, hname, Option.bind_some] at hstale
    cases ht : (list target).namedItem? name with
    | none =>
      rw [ht, Option.getD_none] at hself
      subst hself
      cases hname
    | some first =>
      cases ha : applied.namedItem? name with
      | none => exact not_stale_of_null t _ (by simpa [ha] using hstale)
      | some a =>
        cases hl : live.namedItem? name with
        | none => exact not_stale_in_null a t (by simpa [ha, hl] using hstale)
        | some l =>
          have hfirst : first = t := by simpa [ht] using hself
          exact hbelow ⟨.item name, a, t, l, ha, hfirst ▸ ht, hl, by simpa [ha, hl] using hstale⟩
  · intro h
    constructor
    · rintro ⟨_, _, heq, -⟩
      cases heq
    · rintro ⟨step, a, t, l, ha, ht, hl, hstale⟩
      cases step with
      | field field => cases ht
      | item name =>
        have ht' : (list target).namedItem? name = some t := ht
        have ha' : applied.namedItem? name = some a := ha
        have hl' : live.namedItem? name = some l := hl
        obtain ⟨hm, hname⟩ := mem_of_namedItem? ht'
        apply h t hm
        rw [partner, partner, hname, Option.bind_some, Option.bind_some, ha', hl']
        exact hstale

/-- No item is reached in a list that is not named. -/
theorem not_stale_plain_list {target : List Document} (hn : isNamedList target = false)
    (applied live : Document) : ¬ StaleField applied (list target) live := by
  rw [staleField_iff]
  rintro (⟨_, _, heq, -⟩ | ⟨step, a, t, l, -, ht, -⟩)
  · cases heq
  · cases step with
    | field field => cases ht
    | item name =>
      have ht' : (list target).namedItem? name = some t := ht
      rw [namedItem?_of_not_named hn] at ht'
      cases ht'

end DeployDrift.Document
