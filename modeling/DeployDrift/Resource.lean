import DeployDrift.Json.Reader
import DeployDrift.Pointer

/-!
# Resource objects

A resource object is a live cluster resource or a manifest: a well-formed document that is a
mapping.  Only the few fields that matter for identity and tracking have accessors of their own.
A setter of metadata creates the mappings on its way, and replaces what stands there and is no
mapping.
-/
namespace DeployDrift

inductive ResourceFault where
  | unreadable (message : String)
  | notAMapping (found : String)
  | missingApiVersion
  | invalidApiVersion (text : String)
  | missingKind (apiVersion : String)
  deriving DecidableEq, Repr

def ResourceFault.message : ResourceFault → String
  | .unreadable text => "failed to parse resource document: " ++ text
  | .notAMapping found => "resource document must be a mapping, found " ++ found
  | .missingApiVersion => "resource is missing apiVersion"
  | .invalidApiVersion text => "invalid apiVersion " ++ Text.quote text
  | .missingKind apiVersion =>
    "resource with apiVersion " ++ Text.quote apiVersion ++ " is missing kind"

structure ResourceObject where
  fields : Fields
  wellFormed : (Document.mapping fields).WellFormed

namespace ResourceObject

@[ext] theorem ext {a b : ResourceObject} (h : a.fields = b.fields) : a = b := by
  cases a; cases b; cases h; rfl

instance : DecidableEq ResourceObject := fun a b =>
  decidable_of_iff (Document.mapping a.fields = .mapping b.fields)
    ⟨fun h => ext (Document.mapping.inj h), fun h => h ▸ rfl⟩

def document (o : ResourceObject) : Document := .mapping o.fields

/-- The object that a mapping stands for. -/
def ofDocument (d : Document) : Except ResourceFault ResourceObject :=
  match d with
  | .mapping fields =>
    .ok ⟨Table.ofList (Document.canonicalFields fields),
      Document.canonical_wellFormed (.mapping fields)⟩
  | d => .error (.notAMapping d.typeName)

/-- The object that a well-formed document stands for, if it is a mapping. -/
def ofWellFormed : (d : Document) → d.WellFormed → Except ResourceFault ResourceObject
  | .mapping fields, h => .ok ⟨fields, h⟩
  | d, _ => .error (.notAMapping d.typeName)

/-- The object that a manifest describes, in JSON or in YAML.  If it is neither, the fault is that
of the JSON. -/
def ofManifest (manifest : String) : Except ResourceFault ResourceObject :=
  match Json.readDocument manifest with
  | .ok d => ofDocument d
  | .error fault =>
    match Yaml.readDocument manifest with
    | .ok d => ofDocument d
    | .error _ => .error (.unreadable fault.message)

/-- The live object that a text describes; a blank text and `null` stand for none. -/
def ofLiveState (state : String) : Except ResourceFault (Option ResourceObject) :=
  let trimmed := Text.trim state
  if trimmed = "" ∨ trimmed = "null" then .ok none
  else
    match Json.readDocument trimmed with
    | .error fault => .error (.unreadable fault.message)
    | .ok .null => .ok none
    | .ok d => some <$> ofDocument d

def field? (o : ResourceObject) (name : String) : Option Document := Table.get? o.fields name

/-- The fields of `metadata`; none if it is no mapping. -/
def metadata (o : ResourceObject) : Fields := ((o.field? "metadata").map (·.fieldsOrEmpty)).getD []

def metadataText (o : ResourceObject) (name : String) : String :=
  ((Table.get? o.metadata name).bind Document.text?).getD ""

def apiVersion? (o : ResourceObject) : Option String := (o.field? "apiVersion").bind Document.text?

def kind? (o : ResourceObject) : Option String := (o.field? "kind").bind Document.text?

def name (o : ResourceObject) : String := o.metadataText "name"

def «namespace» (o : ResourceObject) : String := o.metadataText "namespace"

/-- The group in `apiVersion`: what stands before the slash, empty where there is none. -/
def group (o : ResourceObject) : Except ResourceFault String :=
  match o.apiVersion? with
  | none => .error .missingApiVersion
  | some apiVersion =>
    match Text.splitFirst? '/' apiVersion.toList with
    | none => if apiVersion = "" then .error (.invalidApiVersion apiVersion) else .ok ""
    | some (group, version) =>
      if group = [] ∨ version = [] ∨ '/' ∈ version then .error (.invalidApiVersion apiVersion)
      else .ok (String.ofList group)

def annotations? (o : ResourceObject) : Option Fields :=
  (Table.get? o.metadata "annotations").bind Document.fields?

def annotationText? (o : ResourceObject) (key : String) : Option String :=
  (o.annotations?.bind (Table.get? · key)).bind Document.text?

def labels? (o : ResourceObject) : Option Fields :=
  (Table.get? o.metadata "labels").bind Document.fields?

def labelText? (o : ResourceObject) (key : String) : Option String :=
  (o.labels?.bind (Table.get? · key)).bind Document.text?

theorem wellFormed_fieldsOrEmpty {d : Document} (h : d.WellFormed) :
    (Document.mapping d.fieldsOrEmpty).WellFormed := by
  cases d with
  | mapping fields => exact h
  | _ => exact Document.wellFormed_empty

theorem wellFormed_getD {value? : Option Document} (h : ∀ d, value? = some d → d.WellFormed) :
    (Document.mapping ((value?.map (·.fieldsOrEmpty)).getD [])).WellFormed := by
  cases value? with
  | none => exact Document.wellFormed_empty
  | some d => exact wellFormed_fieldsOrEmpty (h d rfl)

theorem wellFormed_metadata (o : ResourceObject) : (Document.mapping o.metadata).WellFormed :=
  wellFormed_getD fun _ h => o.wellFormed.get? h

def setMetadata (o : ResourceObject) (metadata : Fields)
    (h : (Document.mapping metadata).WellFormed) : ResourceObject :=
  ⟨Table.insert o.fields "metadata" (.mapping metadata),
    Document.wellFormed_insert o.wellFormed _ h⟩

def setNamespace (o : ResourceObject) (value : String) : ResourceObject :=
  o.setMetadata (Table.insert o.metadata "namespace" (.text value))
    (Document.wellFormed_insert o.wellFormed_metadata _ (by simp))

/-- The fields of a mapping inside `metadata`; none if there is no mapping. -/
def metadataPart (o : ResourceObject) (part : String) : Fields :=
  ((Table.get? o.metadata part).map (·.fieldsOrEmpty)).getD []

def setMetadataPart (o : ResourceObject) (part key value : String) : ResourceObject :=
  o.setMetadata
    (Table.insert o.metadata part (.mapping (Table.insert (o.metadataPart part) key (.text value))))
    (Document.wellFormed_insert o.wellFormed_metadata _
      (Document.wellFormed_insert (wellFormed_getD fun _ h => o.wellFormed_metadata.get? h) _
        (by simp)))

def setLabelText (o : ResourceObject) (key value : String) : ResourceObject :=
  o.setMetadataPart "labels" key value

def setAnnotationText (o : ResourceObject) (key value : String) : ResourceObject :=
  o.setMetadataPart "annotations" key value

/-- The object without what the pointer leads to; the flag says whether it led anywhere. -/
def removePointer (o : ResourceObject) (pointer : String) : ResourceObject × Bool :=
  match h : o.document.remove? pointer with
  | some (.mapping fields) => (⟨fields, o.wellFormed.remove? h⟩, true)
  | _ => (o, false)

end ResourceObject
end DeployDrift
