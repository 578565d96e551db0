import PeerFirewall.Json.Printer
import PeerFirewall.Resource.Labels
import PeerFirewall.Time.Instant

/-!
# Metadata of objects

What every object of the API carries besides its content: its name and namespace, the identity and
the version that the API server gives it, labels, owners, finalizers and who wrote which fields. An
absent map or list is different from an empty one and stays absent when the metadata is written
back.
-/
namespace PeerFirewall

open Time (Instant)

/-- One of the objects that own an object. -/
structure OwnerReference where
  apiVersion : String
  kind : String
  name : String
  uid : String
  controller : Option Bool
  blockOwnerDeletion : Option Bool
deriving DecidableEq, Repr

namespace OwnerReference

/-- An owner reference as an object. -/
def encode (owner : OwnerReference) : Json :=
  .record [
    ("apiVersion", some (.str owner.apiVersion)),
    ("blockOwnerDeletion", owner.blockOwnerDeletion.map .bool),
    ("controller", owner.controller.map .bool),
    ("kind", some (.str owner.kind)),
    ("name", some (.str owner.name)),
    ("uid", some (.str owner.uid))]

/-- The fields of an owner reference. -/
def fields : Record OwnerReference :=
  (fun apiVersion blockOwnerDeletion controller kind name uid =>
    { apiVersion, kind, name, uid, controller, blockOwnerDeletion : OwnerReference })
  <$> Record.lenientField "apiVersion" Decoder.string ""
  <*> Record.optionalField "blockOwnerDeletion" Decoder.bool
  <*> Record.optionalField "controller" Decoder.bool
  <*> Record.lenientField "kind" Decoder.string ""
  <*> Record.lenientField "name" Decoder.string ""
  <*> Record.lenientField "uid" Decoder.string ""

/-- Reads an owner reference. -/
def decode : Decoder OwnerReference := fields.decodeBuiltIn "OwnerReference" []

end OwnerReference

namespace Decoder

/-- A point in time. -/
def instant : Decoder Instant
  | .str text =>
    match Instant.parse text with
    | .ok t => .ok t
    | .error fault => .error (.badTime fault.message)
  | value => mismatch value "an RFC 3339 formatted date and time string"

/-- A point in time, to the second. -/
def wholeInstant : Decoder Instant := fun value =>
  (instant value).map Instant.wholeSecond

end Decoder

/-- A point in time as the shape of a field. -/
def Shape.time : Shape := of Decoder.instant

/-- Which fields of an object one writer has set. -/
structure ManagedFields where
  apiVersion : Option String
  fieldsType : Option String
  /-- The fields, in the form that the type of fields says. -/
  fieldsV1 : Option Json
  manager : Option String
  operation : Option String
  subresource : Option String
  time : Option Instant
deriving DecidableEq, Repr

namespace ManagedFields

/-- One writer's fields as an object. -/
def encode (managed : ManagedFields) : Json :=
  .record [
    ("apiVersion", managed.apiVersion.map .str),
    ("fieldsType", managed.fieldsType.map .str),
    ("fieldsV1", managed.fieldsV1),
    ("manager", managed.manager.map .str),
    ("operation", managed.operation.map .str),
    ("subresource", managed.subresource.map .str),
    ("time", managed.time.map fun t => .str t.text)]

/-- How many arrays and objects an object has around the fields of a writer. -/
def fieldsDepth : Nat := 4

/-- The fields of one writer's entry. -/
def fields : Record ManagedFields :=
  ManagedFields.mk
  <$> Record.optionalField "apiVersion" Decoder.string
  <*> Record.optionalField "fieldsType" Decoder.string
  <*> Record.optionalField "fieldsV1"
    (fun value => (Decoder.keep fieldsDepth value).map Json.sorted)
  <*> Record.optionalField "manager" Decoder.string
  <*> Record.optionalField "operation" Decoder.string
  <*> Record.optionalField "subresource" Decoder.string
  <*> Record.optionalField "time" Decoder.wholeInstant

/-- Reads one writer's fields. -/
def decode : Decoder ManagedFields := fields.decodeBuiltIn "ManagedFieldsEntry" []

end ManagedFields

/-- The metadata of an object. -/
structure Metadata where
  annotations : Option Labels
  creationTimestamp : Option Instant
  deletionGracePeriodSeconds : Option Int64
  deletionTimestamp : Option Instant
  finalizers : Option (List String)
  generateName : Option String
  generation : Option Int64
  labels : Option Labels
  managedFields : Option (List ManagedFields)
  name : Option String
  «namespace» : Option String
  ownerReferences : Option (List OwnerReference)
  resourceVersion : Option String
  selfLink : Option String
  uid : Option String
deriving DecidableEq, Repr

namespace Metadata

/-- Metadata without any field. -/
def empty : Metadata where
  annotations := none
  creationTimestamp := none
  deletionGracePeriodSeconds := none
  deletionTimestamp := none
  finalizers := none
  generateName := none
  generation := none
  labels := none
  managedFields := none
  name := none
  «namespace» := none
  ownerReferences := none
  resourceVersion := none
  selfLink := none
  uid := none

instance : Inhabited Metadata := ⟨empty⟩

/-- The name to call an object by: its name, else the stem its name is generated from, else
nothing. -/
def displayName (metadata : Metadata) : String :=
  metadata.name.getD (metadata.generateName.getD "")

/-- The text of a label. -/
def label? (metadata : Metadata) (name : String) : Option String :=
  metadata.labels.bind (·.find? name)

/-- The owner references, none if they are absent. -/
def owners (metadata : Metadata) : List OwnerReference := metadata.ownerReferences.getD []

/-- The finalizers, none if they are absent. -/
def finalizerList (metadata : Metadata) : List String := metadata.finalizers.getD []

/-- A point in time as text. -/
def encodeTime (t : Instant) : Json := .str t.text

/-- Metadata as an object. -/
def encode (metadata : Metadata) : Json :=
  .record [
    ("annotations", metadata.annotations.map Labels.encode),
    ("creationTimestamp", metadata.creationTimestamp.map encodeTime),
    ("deletionGracePeriodSeconds",
      metadata.deletionGracePeriodSeconds.map fun n => .int n.toInt),
    ("deletionTimestamp", metadata.deletionTimestamp.map encodeTime),
    ("finalizers", metadata.finalizers.map (Json.list .str)),
    ("generateName", metadata.generateName.map .str),
    ("generation", metadata.generation.map fun n => .int n.toInt),
    ("labels", metadata.labels.map Labels.encode),
    ("managedFields", metadata.managedFields.map (Json.list ManagedFields.encode)),
    ("name", metadata.name.map .str),
    ("namespace", metadata.namespace.map .str),
    ("ownerReferences", metadata.ownerReferences.map (Json.list OwnerReference.encode)),
    ("resourceVersion", metadata.resourceVersion.map .str),
    ("selfLink", metadata.selfLink.map .str),
    ("uid", metadata.uid.map .str)]

/-- The fields of metadata. -/
def fields : Record Metadata :=
  Metadata.mk
  <$> Record.optionalField "annotations" Labels.decode
  <*> Record.optionalField "creationTimestamp" Decoder.wholeInstant
  <*> Record.optionalField "deletionGracePeriodSeconds" Decoder.int64
  <*> Record.optionalField "deletionTimestamp" Decoder.wholeInstant
  <*> Record.optionalField "finalizers" (Decoder.list Decoder.string)
  <*> Record.optionalField "generateName" Decoder.string
  <*> Record.optionalField "generation" Decoder.int64
  <*> Record.optionalField "labels" Labels.decode
  <*> Record.optionalField "managedFields" (Decoder.list ManagedFields.decode)
  <*> Record.optionalField "name" Decoder.string
  <*> Record.optionalField "namespace" Decoder.string
  <*> Record.optionalField "ownerReferences" (Decoder.list OwnerReference.decode)
  <*> Record.optionalField "resourceVersion" Decoder.string
  <*> Record.optionalField "selfLink" Decoder.string
  <*> Record.optionalField "uid" Decoder.string

/-- Reads metadata. -/
def decode : Decoder Metadata := fields.decodeBuiltIn "ObjectMeta" []

end Metadata

end PeerFirewall
