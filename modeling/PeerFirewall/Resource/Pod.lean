import PeerFirewall.Resource.Kind
import PeerFirewall.Resource.Shape.Pod

/-!
# Pods

Of a pod only its metadata, the node it is scheduled on and its address are kept; everything else is
checked.
-/
namespace PeerFirewall

/-- A pod. -/
structure Pod where
  metadata : Metadata
  nodeName : Option String
  podIp : Option String
deriving DecidableEq, Repr, Inhabited

namespace Pod

/-- The content of a pod that matters: its node. -/
def decodeSpec : Decoder (Option String) :=
  (Record.optionalField "nodeName" Decoder.string).decodeBuiltIn "PodSpec" Shape.podSpecFields

/-- The status of a pod that matters: its address. -/
def decodeStatus : Decoder (Option String) :=
  (Record.optionalField "podIP" Decoder.string).decodeBuiltIn "PodStatus" Shape.podStatusFields

/-- A pod as an object. -/
def encode (pod : Pod) : Json :=
  .record (Resource.typeMembers .pod ++ [
    ("metadata", some pod.metadata.encode),
    ("spec", pod.nodeName.map fun node => .record [("nodeName", some (.str node))]),
    ("status", pod.podIp.map fun ip => .record [("podIP", some (.str ip))])])

/-- The fields of a pod. -/
def fields : Record Pod :=
  (fun () metadata spec status => Pod.mk metadata spec.join status.join)
  <$> Resource.typeFields .pod
  <*> Record.lenientField "metadata" Metadata.decode .empty
  <*> Record.optionalField "spec" decodeSpec
  <*> Record.optionalField "status" decodeStatus

/-- Reads a pod. -/
def decode : Decoder Pod := fields.decodeBuiltIn "Pod" []

instance : Resource Pod where
  kind := .pod
  metadata := Pod.metadata
  encode := encode
  decode := decode

/-- A pod of which only the address is known. -/
def ofIp (ip : Option String) : Pod := ⟨.empty, none, ip⟩

end Pod

end PeerFirewall
