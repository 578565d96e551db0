import PeerFirewall.Controller.Loop
import PeerFirewall.Fabric.Reads
import PeerFirewall.Leadership.Lease
import PeerFirewall.Service.Arguments

/-!
# Starting the program

The program needs the name of the instance it is, claims the lease under that name, finds out what
the API server serves, and then runs the controller and, unless it is switched off, the admission
service.
-/
namespace PeerFirewall

/-- Why the program did not start, or did not end well. -/
inductive ServiceError where
  /-- Nobody says which instance this is. -/
  | noHostname
  | leadership (error : LeadershipError)
  /-- It was stopped before everything was done. -/
  | aborted
deriving DecidableEq, Repr

/-- The text of the error. -/
def ServiceError.message : ServiceError → String
  | noHostname =>
    "Failed to fetch `HOSTNAME` environment variable: environment variable not found"
  | leadership error => error.message
  | aborted => "Aborted"

/-- A program that has started. -/
structure Service where
  setting : Setting
  topics : List Topic
  /-- The lease as this instance knows it. -/
  lease : LeaseState
  /-- What the admission service judges policies by, if it runs. -/
  admission : Option Resolvers

namespace Arguments

/-- Where the local cluster publishes the state that policies are compiled against. -/
def clusterInfo (arguments : Arguments) : ClusterInfo :=
  ⟨⟨arguments.tenantStem⟩, arguments.fabricNamespace, arguments.podCidrNetwork⟩

/-- What policies are resolved with. -/
def resolvers (arguments : Arguments) : Resolvers :=
  ⟨arguments.groups, arguments.privateSubnets⟩

end Arguments

namespace Service

/-- Starts the program. -/
def start (arguments : Arguments) (hostname : Option String) :
    Program world (Except ServiceError Service) := do
  match hostname with
  | none => return .error .noHostname
  | some hostname =>
    match ← (Leadership.acquire arguments.namespace arguments.deployment hostname).run with
    | .error error => return .error (.leadership error)
    | .ok lease =>
      let networks ← isServed .network
      let offloadings ← isServed .namespaceOffloading
      return .ok {
        setting := {
          resolvers := arguments.resolvers
          info := arguments.clusterInfo
          leadership := lease.leadership hostname
          «instance» := hostname
          resync := arguments.resyncPeriod.toNat
          lookUp := arguments.clusterInfo.read }
        topics := Topic.watched networks offloadings
        lease
        admission := if arguments.admissionDisabled then none else some arguments.resolvers }

/-- Stops the program: the controller makes no more passes, and the lease is given back. -/
def stop (service : Service) (arguments : Arguments) : Program world Unit :=
  service.lease.release arguments.namespace service.setting.leadership.hostname

end Service

end PeerFirewall
