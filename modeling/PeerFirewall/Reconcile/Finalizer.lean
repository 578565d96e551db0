import PeerFirewall.Resource.Policy

/-!
# The finalizer

A policy that is deleted stays until its finalizers are removed, so the controller marks a policy
before it writes anything for it. The patches that add and remove the mark are refused if the
finalizers have changed since they were read.
-/
namespace PeerFirewall

namespace Finalizer

/-- The mark that keeps a policy until its firewall configuration is deleted. -/
def name : String := "connectivity.liqo.io/firewall-cleanup"

/-- Where the finalizers of an object are. -/
def path : String := "/metadata/finalizers"

/-- The operation of a patch that refuses it unless the member has that value. -/
def testOperation (path : String) (value : Json) : Json :=
  .obj [("op", .str "test"), ("path", .str path), ("value", value)]

/-- The operation of a patch that adds a member. -/
def addOperation (path : String) (value : Json) : Json :=
  .obj [("op", .str "add"), ("path", .str path), ("value", value)]

/-- The operation of a patch that removes a member. -/
def removeOperation (path : String) : Json :=
  .obj [("op", .str "remove"), ("path", .str path)]

/-- The patch that adds the finalizer to those that are there, unless they have changed. -/
def added (present : List String) : Json :=
  if present.isEmpty then
    .arr [testOperation path .null,
      addOperation path (.arr [.str name])]
  else
    .arr [testOperation path (Json.list .str present),
      addOperation (path ++ "/-") (.str name)]

/-- The patch that removes the finalizer from that place, if it still stands there. -/
def removed (place : Nat) : Json :=
  let member := path ++ "/" ++ toString place
  .arr [testOperation member (.str name), removeOperation member]

/-- Where the mark stands among the finalizers of an object, if it is there. -/
def place? (metadata : Metadata) : Option Nat := metadata.finalizerList.idxOf? name

end Finalizer

end PeerFirewall
