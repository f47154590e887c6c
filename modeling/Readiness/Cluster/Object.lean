import Readiness.Cluster.Shape
import Readiness.Snapshot

/-!
# Objects — what a server sends about a resource

* `metadataShape` is the shape of the part that identifies an object;
* `Snapshot.ofObject?` is the observed part of an object, if it can be read;
* `Snapshot.ofObjects?` is that of every object of a listing.
-/

namespace Readiness

open Json (Value)

namespace Cluster

def ownerShape : Shape :=
  .loose
    [("apiVersion", .text), ("blockOwnerDeletion", .flag), ("controller", .flag), ("kind", .text),
      ("name", .text), ("uid", .text)]

def managedShape : Shape :=
  .loose
    [("apiVersion", .text), ("fieldsType", .text), ("fieldsV1", .any), ("manager", .text),
      ("operation", .text), ("subresource", .text), ("time", .instant)]

def metadataShape : Shape :=
  .loose
    [("annotations", .table .text), ("creationTimestamp", .instant),
      ("deletionGracePeriodSeconds", .whole), ("deletionTimestamp", .instant),
      ("finalizers", .list .text), ("generateName", .text), ("generation", .whole),
      ("labels", .table .text), ("managedFields", .list managedShape), ("name", .text),
      ("namespace", .text), ("ownerReferences", .list ownerShape), ("resourceVersion", .text),
      ("selfLink", .text), ("uid", .text)]

def objectShape : Shape := .hasKey "metadata" metadataShape

def listMetadataShape : Shape :=
  .loose
    [("continue", .text), ("remainingItemCount", .whole), ("resourceVersion", .text),
      ("selfLink", .text)]

def labelsOf (metadata : Value) : Dict String :=
  match metadata.get? "labels" with
  | some (.obj entries) => entries.map fun (key, v) => (key, v.asString?.getD "")
  | _ => []

end Cluster

namespace Snapshot

def ofMetadata (kind : Kind) (object metadata : Value) : Snapshot :=
  ⟨kind, metadata.getString? "namespace", (metadata.getString? "name").getD "",
    Cluster.labelsOf metadata, (object.get? "status").getD .null⟩

/-- The observed part of an object, of the kind that was asked for. -/
def ofObject? (kind : Kind) (object : Value) : Option Snapshot :=
  if Cluster.objectShape object then
    some (ofMetadata kind object ((object.get? "metadata").getD .null))
  else none

/-- The observed parts of the objects of a listing; null stands for no objects. -/
def ofObjects? (kind : Kind) (listing : Value) : Option (List Snapshot) :=
  if Cluster.Shape.hasKey "metadata" Cluster.listMetadataShape listing then
    match listing.get? "items" with
    | some .null => some []
    | some (.arr items) => items.mapM (ofObject? kind)
    | _ => none
  else none

end Snapshot

end Readiness
