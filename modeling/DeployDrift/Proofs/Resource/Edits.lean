import DeployDrift.Proofs.Resource.Metadata

/-!
# Sequences of edits to metadata

The setters of metadata write texts to places: the namespace, a label, an annotation.  However they
follow on one another and whatever stood in the metadata before, a place holds what was last written
to it, all other places and fields are as they were, and edits of different places can be exchanged.
-/
namespace DeployDrift

/-- A place in the metadata of an object that the setters write a text to. -/
inductive MetadataPlace where
  | «namespace»
  | labels (key : String)
  | annotations (key : String)
  deriving DecidableEq, Repr

/-- A text is set, or the object is marked as belonging to an application. -/
inductive MetadataEdit where
  | setNamespace (value : String)
  | setLabel (key value : String)
  | annotate (key value : String)
  | stamp (tracking : Tracking) (app : String) (key : ResourceKey)
  deriving DecidableEq, Repr

namespace MetadataEdit

def apply (o : ResourceObject) : MetadataEdit → ResourceObject
  | .setNamespace value => o.setNamespace value
  | .setLabel key value => o.setLabelText key value
  | .annotate key value => o.setAnnotationText key value
  | .stamp tracking app key => tracking.stamp app key o

/-- The places that an edit writes to and what it writes there, in order. -/
def writes : MetadataEdit → List (MetadataPlace × String)
  | .setNamespace value => [(.namespace, value)]
  | .setLabel key value => [(.labels key, value)]
  | .annotate key value => [(.annotations key, value)]
  | .stamp tracking app key =>
    (if tracking.method.usesLabels then [(.labels tracking.labelKey, app)] else []) ++
      if tracking.method.usesAnnotations then [(.annotations trackingKey, Tracking.id app key)]
      else []

/-- The places that an edit writes to. -/
def places (e : MetadataEdit) : List MetadataPlace := e.writes.map (·.1)

/-- What was last written to a place, if anything was. -/
def lastWritten? (edits : List MetadataEdit) (place : MetadataPlace) : Option String :=
  ((edits.flatMap writes).reverse.find? fun w => w.1 == place).map (·.2)

end MetadataEdit

/-- The object after edits, one after another. -/
def ResourceObject.edit (o : ResourceObject) (edits : List MetadataEdit) : ResourceObject :=
  edits.foldl MetadataEdit.apply o

namespace MetadataPlace

/-- The field of the metadata that a place belongs to. -/
def field : MetadataPlace → String
  | .namespace => "namespace"
  | .labels _ => "labels"
  | .annotations _ => "annotations"

/-- The value of that field once a text is written to the place. -/
def fill (text : String) (old? : Option Document) : MetadataPlace → Document
  | .namespace => .text text
  | .labels key | .annotations key =>
    .mapping (Table.insert ((old?.map (·.fieldsOrEmpty)).getD []) key (.text text))

/-- The metadata with a text written to the place. -/
def write (place : MetadataPlace) (text : String) (metadata : Fields) : Fields :=
  Table.insert metadata place.field (place.fill text (Table.get? metadata place.field))

/-- The text that a value of that field holds for the place. -/
def textIn? (value? : Option Document) : MetadataPlace → Option String
  | .namespace => value?.bind Document.text?
  | .labels key | .annotations key =>
    ((value?.bind Document.fields?).bind (Table.get? · key)).bind Document.text?

variable {p q : MetadataPlace}

/-- Writing to a place is read back there, and seen at no other place of the same field. -/
theorem textIn?_fill (text : String) (old? : Option Document) (hfield : q.field = p.field) :
    q.textIn? (some (p.fill text old?)) = if q = p then some text else q.textIn? old? := by
  have hinside : ∀ key other : String,
      (Table.get? (Table.insert ((old?.map (·.fieldsOrEmpty)).getD []) key (.text text)) other).bind
          Document.text? =
        if other = key then some text
        else ((old?.bind Document.fields?).bind (Table.get? · other)).bind Document.text? := by
    intro key other
    rw [Table.get?_insert]
    split
    · rfl
    · cases old? with
      | none => rfl
      | some d => cases d <;> rfl
  cases p <;> cases q <;> simp [field] at hfield
  case «namespace».«namespace» => rfl
  case labels.labels key other => simpa [textIn?, fill, Document.fields?] using hinside key other
  case annotations.annotations key other =>
    simpa [textIn?, fill, Document.fields?] using hinside key other

theorem wellFormed_fill (text : String) {old? : Option Document}
    (h : ∀ d, old? = some d → d.WellFormed) (p : MetadataPlace) :
    (p.fill text old?).WellFormed := by
  cases p with
  | «namespace» => simp [fill]
  | labels key => exact Document.wellFormed_insert (ResourceObject.wellFormed_getD h) _ (by simp)
  | annotations key =>
    exact Document.wellFormed_insert (ResourceObject.wellFormed_getD h) _ (by simp)

theorem wellFormed_write {metadata : Fields} (h : (Document.mapping metadata).WellFormed)
    (p : MetadataPlace) (text : String) : (Document.mapping (p.write text metadata)).WellFormed :=
  Document.wellFormed_insert h _ (wellFormed_fill text (fun _ hd => h.get? hd) p)

/-- Two places of one field are filled in either order. -/
theorem fill_comm (hne : p ≠ q) (hfield : q.field = p.field) (v w : String) {old? : Option Document}
    (h : ∀ d, old? = some d → d.WellFormed) :
    q.fill w (some (p.fill v old?)) = p.fill v (some (q.fill w old?)) := by
  have hsorted := (Document.wellFormed_mapping.mp (ResourceObject.wellFormed_getD h)).1
  cases p <;> cases q <;> simp [field] at hfield
  case «namespace».«namespace» => exact absurd rfl hne
  case labels.labels key other =>
    have hkeys : key ≠ other := fun heq => hne (congrArg labels heq)
    exact congrArg Document.mapping (Table.insert_comm hsorted hkeys _ _)
  case annotations.annotations key other =>
    have hkeys : key ≠ other := fun heq => hne (congrArg annotations heq)
    exact congrArg Document.mapping (Table.insert_comm hsorted hkeys _ _)

theorem write_comm (hne : p ≠ q) (v w : String) {metadata : Fields}
    (h : (Document.mapping metadata).WellFormed) :
    q.write w (p.write v metadata) = p.write v (q.write w metadata) := by
  unfold write
  simp only [Table.get?_insert]
  by_cases hfield : q.field = p.field
  · rw [if_pos hfield, if_pos hfield.symm, hfield, Table.insert_insert, Table.insert_insert,
      fill_comm hne hfield v w fun _ hd => h.get? hd]
  · rw [if_neg hfield, if_neg (Ne.symm hfield)]
    exact Table.insert_comm (Document.wellFormed_mapping.mp h).1 (Ne.symm hfield) _ _

end MetadataPlace

namespace ResourceObject

variable (o : ResourceObject)

/-- The object with a text written to a place of its metadata. -/
def put (place : MetadataPlace) (text : String) : ResourceObject :=
  o.setMetadata (place.write text o.metadata)
    (MetadataPlace.wellFormed_write o.wellFormed_metadata place text)

/-- The text at a place of the metadata, if there is one. -/
def textAt? (place : MetadataPlace) : Option String :=
  place.textIn? (Table.get? o.metadata place.field)

section Put

variable (place : MetadataPlace) (text : String)

theorem metadata_put : (o.put place text).metadata = place.write text o.metadata :=
  metadata_setMetadata o _ _

theorem get?_metadata_put {field : String} (h : field ≠ place.field) :
    Table.get? (o.put place text).metadata field = Table.get? o.metadata field := by
  rw [metadata_put, MetadataPlace.write, Table.get?_insert, if_neg h]

theorem field?_put {field : String} (h : field ≠ "metadata") :
    (o.put place text).field? field = o.field? field := by
  unfold field? put setMetadata
  rw [Table.get?_insert, if_neg h]

theorem textAt?_put (other : MetadataPlace) :
    (o.put place text).textAt? other = if other = place then some text else o.textAt? other := by
  unfold textAt?
  by_cases hfield : other.field = place.field
  · rw [metadata_put, MetadataPlace.write, Table.get?_insert, if_pos hfield,
      MetadataPlace.textIn?_fill text _ hfield, hfield]
  · have hne : other ≠ place := fun heq => hfield (congrArg MetadataPlace.field heq)
    rw [get?_metadata_put o place text hfield, if_neg hne]

theorem fields_put_put (p q : MetadataPlace) (v w : String) :
    ((o.put p v).put q w).fields =
      Table.insert o.fields "metadata" (.mapping (q.write w (p.write v o.metadata))) := by
  have hinner := metadata_put o p v
  change Table.insert (Table.insert o.fields "metadata" _) "metadata"
    (.mapping (q.write w (o.put p v).metadata)) = _
  rw [hinner, Table.insert_insert]

/-- Writes to different places can be exchanged. -/
theorem put_comm {p q : MetadataPlace} (h : p ≠ q) (v w : String) :
    (o.put p v).put q w = (o.put q w).put p v := by
  apply ext
  rw [fields_put_put, fields_put_put, MetadataPlace.write_comm h v w o.wellFormed_metadata]

end Put

/-- The object with texts written to places, one after another. -/
def putAll (writes : List (MetadataPlace × String)) : ResourceObject :=
  writes.foldl (fun o w => o.put w.1 w.2) o

section PutAll

variable (writes : List (MetadataPlace × String))

/-- A place holds what was written to it last. -/
theorem textAt?_putAll (place : MetadataPlace) :
    (o.putAll writes).textAt? place =
      ((writes.reverse.find? fun w => w.1 == place).map (·.2)).or (o.textAt? place) := by
  unfold putAll
  induction writes generalizing o with
  | nil => simp
  | cons w rest ih =>
    rw [List.foldl_cons, ih, textAt?_put, List.reverse_cons, List.find?_append]
    by_cases hplace : w.1 = place
    · cases hfind : rest.reverse.find? fun w => w.1 == place with
      | none => simp [hplace]
      | some later => simp
    · simp [hplace, Ne.symm hplace]

theorem get?_metadata_putAll {field : String} (h : ∀ place : MetadataPlace, field ≠ place.field) :
    Table.get? (o.putAll writes).metadata field = Table.get? o.metadata field := by
  unfold putAll
  induction writes generalizing o with
  | nil => rfl
  | cons w rest ih => rw [List.foldl_cons, ih, get?_metadata_put o w.1 w.2 (h w.1)]

theorem field?_putAll {field : String} (h : field ≠ "metadata") :
    (o.putAll writes).field? field = o.field? field := by
  unfold putAll
  induction writes generalizing o with
  | nil => rfl
  | cons w rest ih => rw [List.foldl_cons, ih, field?_put o w.1 w.2 h]

theorem putAll_append (later : List (MetadataPlace × String)) :
    o.putAll (writes ++ later) = (o.putAll writes).putAll later :=
  List.foldl_append

theorem putAll_put {place : MetadataPlace} (h : place ∉ writes.map (·.1)) (text : String) :
    (o.put place text).putAll writes = (o.putAll writes).put place text := by
  unfold putAll
  induction writes generalizing o with
  | nil => rfl
  | cons w rest ih =>
    rw [List.map_cons, List.mem_cons, not_or] at h
    rw [List.foldl_cons, List.foldl_cons, put_comm o h.1, ih _ h.2]

theorem putAll_comm {later : List (MetadataPlace × String)}
    (h : ∀ place ∈ writes.map (·.1), place ∉ later.map (·.1)) :
    (o.putAll writes).putAll later = (o.putAll later).putAll writes := by
  induction writes generalizing o with
  | nil => rfl
  | cons w rest ih =>
    rw [List.map_cons, List.forall_mem_cons] at h
    change ((o.put w.1 w.2).putAll rest).putAll later = ((o.putAll later).put w.1 w.2).putAll rest
    rw [ih _ h.2, putAll_put o later h.1]

end PutAll

end ResourceObject

namespace MetadataEdit

open ResourceObject

theorem apply_eq_putAll (o : ResourceObject) (e : MetadataEdit) :
    e.apply o = o.putAll e.writes := by
  cases e with
  | setNamespace value => rfl
  | setLabel key value => rfl
  | annotate key value => rfl
  | stamp tracking app key =>
    obtain ⟨labelKey, method⟩ := tracking
    cases method <;> rfl

end MetadataEdit

namespace ResourceObject

variable (o : ResourceObject)

theorem edit_eq_putAll (edits : List MetadataEdit) :
    o.edit edits = o.putAll (edits.flatMap MetadataEdit.writes) := by
  unfold edit
  induction edits generalizing o with
  | nil => rfl
  | cons e rest ih =>
    rw [List.foldl_cons, ih, List.flatMap_cons, putAll_append, MetadataEdit.apply_eq_putAll]

theorem textAt?_edit (edits : List MetadataEdit) (place : MetadataPlace) :
    (o.edit edits).textAt? place =
      (MetadataEdit.lastWritten? edits place).or (o.textAt? place) := by
  rw [edit_eq_putAll, textAt?_putAll, MetadataEdit.lastWritten?]

/-- What edits make of an object. -/
structure Edited (edits : List MetadataEdit) (before after : ResourceObject) : Prop where
  labels : ∀ key, after.labelText? key =
    (MetadataEdit.lastWritten? edits (.labels key)).or (before.labelText? key)
  annotations : ∀ key, after.annotationText? key =
    (MetadataEdit.lastWritten? edits (.annotations key)).or (before.annotationText? key)
  «namespace» : after.namespace =
    (MetadataEdit.lastWritten? edits .namespace).getD before.namespace
  name : after.name = before.name
  apiVersion : after.apiVersion? = before.apiVersion?
  kind : after.kind? = before.kind?
  field : ∀ field, field ≠ "metadata" → after.field? field = before.field? field
  metadata : ∀ field, field ≠ "namespace" → field ≠ "labels" → field ≠ "annotations" →
    Table.get? after.metadata field = Table.get? before.metadata field
  mapping : ∃ fields, after.document = .mapping fields ∧ Table.Sorted fields

/-- After a run of edits every place holds what was last written to it, and all else stands
as it did. -/
theorem edited_edit (edits : List MetadataEdit) : Edited edits o (o.edit edits) := by
  have hfield : ∀ field, field ≠ "metadata" → (o.edit edits).field? field = o.field? field := by
    intro field hne
    rw [edit_eq_putAll, field?_putAll o _ hne]
  have hmetadata : ∀ field, field ≠ "namespace" → field ≠ "labels" → field ≠ "annotations" →
      Table.get? (o.edit edits).metadata field = Table.get? o.metadata field := by
    intro field hnamespace hlabels hannotations
    rw [edit_eq_putAll, get?_metadata_putAll]
    rintro (_ | _ | _)
    · exact hnamespace
    · exact hlabels
    · exact hannotations
  constructor
  case labels => exact fun key => o.textAt?_edit edits (.labels key)
  case annotations => exact fun key => o.textAt?_edit edits (.annotations key)
  case «namespace» =>
    have htext := o.textAt?_edit edits .namespace
    change ((o.edit edits).textAt? .namespace).getD "" = _
    rw [htext]
    cases MetadataEdit.lastWritten? edits .namespace <;> rfl
  case name =>
    unfold name metadataText
    rw [hmetadata "name" (by decide) (by decide) (by decide)]
  case apiVersion => exact congrArg (·.bind Document.text?) (hfield "apiVersion" (by decide))
  case kind => exact congrArg (·.bind Document.text?) (hfield "kind" (by decide))
  case field => exact hfield
  case metadata => exact hmetadata
  case mapping => exact ⟨_, rfl, (Document.wellFormed_mapping.mp (o.edit edits).wellFormed).1⟩

/-- Whatever stood in the metadata, after edits each place holds what was last written to it and
everything else is as it was; edits of different places can be exchanged. -/
theorem edit_exact (o : ResourceObject) :
    (∀ edits, Edited edits o (o.edit edits)) ∧
      ∀ before a b after, (∀ place ∈ a.places, place ∉ b.places) →
        o.edit (before ++ a :: b :: after) = o.edit (before ++ b :: a :: after) := by
  refine ⟨o.edited_edit, fun before a b after hapart => ?_⟩
  have hexchange : ∀ o : ResourceObject, (o.putAll a.writes).putAll b.writes =
      (o.putAll b.writes).putAll a.writes := fun o => o.putAll_comm a.writes hapart
  simp only [edit_eq_putAll, List.flatMap_append, List.flatMap_cons, putAll_append, hexchange]

/-- A service with labels that are no mapping, and without annotations. -/
def mislabelledService : ResourceObject where
  fields := [("apiVersion", .text "v1"), ("kind", .text "Service"),
    ("metadata", .mapping [("labels", .text "none"), ("name", .text "web")])]
  wellFormed := by decide

/-- Marking by label and annotation. -/
def markShop : MetadataEdit := .stamp ⟨"app", .both⟩ "shop" ⟨"", "Service", "prod", "web"⟩

/-- The namespace can be set before the service is marked or after. -/
theorem edit_mislabelledService :
    (∀ place ∈ (MetadataEdit.setNamespace "prod").places, place ∉ markShop.places) ∧
      mislabelledService.edit [.setLabel "team" "a", .setNamespace "prod", markShop] =
        mislabelledService.edit [.setLabel "team" "a", markShop, .setNamespace "prod"] ∧
      (mislabelledService.edit [.setLabel "team" "a", .setNamespace "prod", markShop]).labelText?
        "team" = some "a" := by
  have hapart : ∀ place ∈ (MetadataEdit.setNamespace "prod").places, place ∉ markShop.places := by
    decide
  obtain ⟨hedited, hexchange⟩ := edit_exact mislabelledService
  have hteam : MetadataEdit.lastWritten?
      [.setLabel "team" "a", .setNamespace "prod", markShop] (.labels "team") = some "a" := by
    decide
  refine ⟨hapart, hexchange [_] _ _ [] hapart, ?_⟩
  rw [(hedited _).labels, hteam]
  rfl

end ResourceObject
end DeployDrift
