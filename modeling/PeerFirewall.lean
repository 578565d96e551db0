import PeerFirewall.Main
import PeerFirewall.Proofs.Admission.Agreement
import PeerFirewall.Proofs.Compile.Meaning
import PeerFirewall.Proofs.Reconcile.Controllers
import PeerFirewall.Proofs.Reconcile.Convergence
import PeerFirewall.Proofs.Reconcile.Outlive
import PeerFirewall.Resource.Definition
import PeerFirewall.Proofs.Json.Excerpt
import PeerFirewall.Proofs.Resource.FirewallExcerpt
import PeerFirewall.Proofs.Api.Body
import PeerFirewall.Proofs.Compile.Ipv4
import PeerFirewall.Proofs.Reconcile.Release
import PeerFirewall.Proofs.Reconcile.EventsUnheeded
import PeerFirewall.Proofs.Reconcile.Unchanged
import PeerFirewall.Proofs.Reconcile.OtherConditions
import PeerFirewall.Proofs.Compile.Faults
import PeerFirewall.Proofs.Reconcile.Confinement
import PeerFirewall.Proofs.Reconcile.Visibility
import PeerFirewall.Proofs.Watch.Heeded
import PeerFirewall.Proofs.Reconcile.Independence
import PeerFirewall.Proofs.Reconcile.Merge
import PeerFirewall.Proofs.Reconcile.Attempts
import PeerFirewall.Proofs.Reconcile.Guard
import PeerFirewall.Proofs.Reconcile.Uncompiled
import PeerFirewall.Proofs.Readiness.History
import PeerFirewall.Proofs.Reconcile.StatusWrite
import PeerFirewall.Proofs.Reconcile.Retries
import PeerFirewall.Proofs.Compile.RuleOrder
import PeerFirewall.Proofs.Admission.FirstFault
import PeerFirewall.Proofs.Compile.Listings
import PeerFirewall.Proofs.Resource.RoundTrip
import PeerFirewall.Proofs.Admission.Identity
import PeerFirewall.Proofs.Fabric.Offloaded
import PeerFirewall.Proofs.Service.Lists
import PeerFirewall.Proofs.Reconcile.Tally
import PeerFirewall.Proofs.Resource.GroupNames
import PeerFirewall.Proofs.Resource.GroupNames
