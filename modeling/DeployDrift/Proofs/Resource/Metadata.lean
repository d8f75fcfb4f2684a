import DeployDrift.Proofs.Document.Lists
import DeployDrift.Proofs.Table.Lookup
import DeployDrift.Resource.Ownership

/-!
# Setting metadata

Namespaces, labels and annotations are texts in mappings, so that setting them brings no new list
into an object.
-/
namespace DeployDrift

/-- What setting a label and setting the tracking id keep, marking keeps. -/
theorem Tracking.stamp_induction {motive : ResourceObject → Prop} (t : Tracking) (app : String)
    (key : ResourceKey) {o : ResourceObject} (h : motive o)
    (labelled : ∀ o, motive o → motive (o.setLabelText t.labelKey app))
    (identified : ∀ o, motive o → motive (o.setAnnotationText trackingKey (id app key))) :
    motive (t.stamp app key o) := by
  have hlabelled : motive (if t.method.usesLabels then o.setLabelText t.labelKey app else o) := by
    split
    · exact labelled o h
    · exact h
  unfold stamp
  dsimp only
  split
  · exact identified _ hlabelled
  · exact hlabelled

namespace Document

variable {q : List Document → Prop}

theorem everyList_insert {fields : Fields} (h : (mapping fields).EveryList q) (field : String)
    {value : Document} (hv : value.EveryList q) :
    (mapping (Table.insert fields field value)).EveryList q := by
  apply everyList_mapping.mpr
  intro e he
  rcases Table.mem_insert he with rfl | he
  · exact hv
  · exact everyList_mapping.mp h e he

theorem everyList_fieldsOrEmpty {d : Document} (h : d.EveryList q) :
    (mapping d.fieldsOrEmpty).EveryList q := by
  cases d with
  | mapping fields => exact h
  | _ => exact everyList_mapping.mpr nofun

theorem everyList_part {fields : Fields} (h : (mapping fields).EveryList q) (field : String) :
    (mapping (((Table.get? fields field).map (·.fieldsOrEmpty)).getD [])).EveryList q := by
  cases hv : Table.get? fields field with
  | none => exact everyList_mapping.mpr nofun
  | some d => exact everyList_fieldsOrEmpty (h.get? (d := mapping fields) hv)

end Document

namespace ResourceObject

open Document

variable {q : List Document → Prop} {o : ResourceObject}

theorem everyList_setNamespace (h : o.document.EveryList q) (value : String) :
    (o.setNamespace value).document.EveryList q :=
  everyList_insert h _ (everyList_insert (everyList_part h _) _ trivial)

theorem everyList_setMetadataPart (h : o.document.EveryList q) (part key value : String) :
    (o.setMetadataPart part key value).document.EveryList q :=
  everyList_insert h _ (everyList_insert (everyList_part h _) _
    (everyList_insert (everyList_part (everyList_part h _) _) _ trivial))

theorem everyList_stamp (h : o.document.EveryList q) (t : Tracking) (app : String)
    (key : ResourceKey) : (t.stamp app key o).document.EveryList q :=
  t.stamp_induction app key (motive := fun stamped => stamped.document.EveryList q) h
    (fun _ h => everyList_setMetadataPart h _ _ _) fun _ h => everyList_setMetadataPart h _ _ _

end ResourceObject

/-!
## Hooks stay hooks

Filling in a namespace and marking a resource write to its metadata, and create or replace the
mappings on the way.  Neither touches an annotation that makes a hook, so that a manifest is a hook
after both exactly if it was one before.
-/

namespace ResourceObject

variable (o : ResourceObject)

theorem metadata_setMetadata (metadata : Fields) (h : (Document.mapping metadata).WellFormed) :
    (o.setMetadata metadata h).metadata = metadata := by
  have hfield : (o.setMetadata metadata h).field? "metadata" = some (.mapping metadata) := by
    unfold field? setMetadata
    rw [Table.get?_insert, if_pos rfl]
  rw [ResourceObject.metadata, hfield]
  rfl

theorem metadataPart_setNamespace (value : String) {part : String} (h : part ≠ "namespace") :
    (o.setNamespace value).metadataPart part = o.metadataPart part := by
  unfold metadataPart setNamespace
  rw [metadata_setMetadata, Table.get?_insert, if_neg h]

theorem metadataPart_setMetadataPart (part key value other : String) :
    (o.setMetadataPart part key value).metadataPart other =
      if other = part then Table.insert (o.metadataPart part) key (.text value)
      else o.metadataPart other := by
  rw [metadataPart, setMetadataPart, metadata_setMetadata, Table.get?_insert]
  split
  · rfl
  · rfl

theorem annotationText?_eq (key : String) :
    o.annotationText? key =
      (Table.get? (o.metadataPart "annotations") key).bind Document.text? := by
  unfold annotationText? annotations? metadataPart
  cases Table.get? o.metadata "annotations" with
  | none => rfl
  | some d => cases d <;> rfl

theorem annotationText?_setNamespace (value key : String) :
    (o.setNamespace value).annotationText? key = o.annotationText? key := by
  rw [annotationText?_eq, annotationText?_eq, metadataPart_setNamespace o value (by decide)]

theorem annotationText?_setLabelText (label value key : String) :
    (o.setLabelText label value).annotationText? key = o.annotationText? key := by
  rw [annotationText?_eq, annotationText?_eq, setLabelText, metadataPart_setMetadataPart,
    if_neg (by decide)]

theorem annotationText?_setAnnotationText (value : String) {written key : String}
    (h : key ≠ written) :
    (o.setAnnotationText written value).annotationText? key = o.annotationText? key := by
  rw [annotationText?_eq, annotationText?_eq, setAnnotationText, metadataPart_setMetadataPart,
    if_pos rfl, Table.get?_insert, if_neg h]

/-- Nothing but two annotations decides whether an object is a hook. -/
theorem isHook_congr {a b : ResourceObject}
    (hook : a.annotationText? hookKey = b.annotationText? hookKey)
    (chart : a.annotationText? chartHookKey = b.annotationText? chartHookKey) :
    a.isHook = b.isHook := by
  rw [isHook, isHook, hook, chart]

theorem isHook_setNamespace (value : String) : (o.setNamespace value).isHook = o.isHook :=
  isHook_congr (annotationText?_setNamespace o value _) (annotationText?_setNamespace o value _)

theorem isHook_setLabelText (label value : String) :
    (o.setLabelText label value).isHook = o.isHook :=
  isHook_congr (annotationText?_setLabelText o label value _)
    (annotationText?_setLabelText o label value _)

theorem isHook_setTrackingId (value : String) :
    (o.setAnnotationText trackingKey value).isHook = o.isHook :=
  isHook_congr (annotationText?_setAnnotationText o value (by decide))
    (annotationText?_setAnnotationText o value (by decide))

theorem isHook_stamp (t : Tracking) (app : String) (key : ResourceKey) :
    (t.stamp app key o).isHook = o.isHook :=
  t.stamp_induction app key (motive := fun stamped => stamped.isHook = o.isHook) rfl
    (fun stamped h => (isHook_setLabelText stamped _ _).trans h)
    fun stamped h => (isHook_setTrackingId stamped _).trans h

end ResourceObject

theorem isHook_withNamespace (live : List ResourceKey) (destination : String) (key : ResourceKey)
    (target : ResourceObject) :
    (withNamespace live destination key target).2.isHook = target.isHook := by
  unfold withNamespace
  split
  · exact target.isHook_setNamespace destination
  · rfl

end DeployDrift
