import PeerFirewall.Proofs.Api.Server
import PeerFirewall.Proofs.Reconcile.Honesty

/-!
# Writes that nobody disturbs

Where a pass is alone with a server, what it writes is what is stored afterwards. The first attempt
to bring the firewall configuration up to date succeeds, whatever is stored, if it can be read
(`Firewall.run_upsert`), and the status that is written is the one that is read from then on
(`Policy.run_updateStatus`). Both are left as they are where they say already what they should.
-/
namespace PeerFirewall

open Cluster (policiesOf firewallsOf)

/-- Where the firewall configuration of a peer is stored. -/
def firewallKey (space clusterId : String) : Collection × String :=
  (firewallsOf space, ClusterInfo.firewallName clusterId)

/-- Where a policy is stored. -/
def policyKey (space name : String) : Collection × String := (policiesOf space, name)

variable {around : Surroundings} {scene : Scene} {space clusterId name : String} {policy : Policy}
  {spec : FirewallSpec} {desired : Firewall}

/-! ### Addresses -/

/-- Whether the requests of a pass over the policy of a name can be sent. -/
structure Addresses (space clusterId name : String) : Prop where
  policy : (ApiCall.readRequest Policy space name).IsSendable
  status : ∀ (policy : Policy) status, policy.metadata.displayName = name →
    (policy.statusRequest space status).IsSendable
  firewall :
    (ApiCall.readRequest Firewall space (ClusterInfo.firewallName clusterId)).IsSendable
  creation : ∀ desired, (Firewall.createRequest space desired).IsSendable
  replacement : ∀ updated,
    (Firewall.replaceRequest space (ClusterInfo.firewallName clusterId) updated).IsSendable

/-- Requests can be sent where no name has a character that may not stand in a path or more than
thirty thousand bytes. -/
theorem Addresses.of_fits (spaceFits : Uri.Fits space 30000)
    (nameFits : Uri.Fits name 30000) (clusterFits : Uri.Fits clusterId 30000) :
    Addresses space clusterId name := by
  have policies : Uri.Fits (policiesOf space).path 30200 :=
    Collection.fits_path (by decide) (by decide) spaceFits
  have firewalls : Uri.Fits (firewallsOf space).path 30200 :=
    Collection.fits_path (by decide) (by decide) spaceFits
  have slash : Uri.Fits "/" 1 := by decide
  have firewall : Uri.Fits ((firewallsOf space).path ++ "/" ++ ClusterInfo.firewallName clusterId)
      (30200 + 1 + (30000 + 16)) :=
    (firewalls.append slash).append (clusterFits.append (by decide))
  have policy : Uri.Fits ((policiesOf space).path ++ "/" ++ name) (30200 + 1 + 30000) :=
    (policies.append slash).append nameFits
  let writer := Uri.encodeQuery (ApiCall.writtenBy controllerName)
  have room {most : Nat} (short : most ≤ 65000) : most + (writer.utf8ByteSize + 2) ≤ Uri.longest :=
    Nat.le_trans (Nat.add_le_add_right short _) (by decide +kernel)
  exact {
    policy := Request.isSendable policy (by decide)
    status := fun other status named => by
      rw [Policy.statusRequest, named]
      exact Request.isSendable (policy.append (by decide : Uri.Fits "/status" 7)) (by decide)
    firewall := Request.isSendable firewall (by decide)
    creation := fun desired => Request.isSendable firewalls (room (by decide))
    replacement := fun updated => Request.isSendable firewall (room (by decide)) }

/-! ### The firewall configuration -/

/-- Whether the firewall configuration that is stored for a peer has all that a policy should own:
the content, the labels of the fabric and the policy as its owner. -/
def Server.Enforces (server : Server) (space clusterId : String) (policy : Policy)
    (spec : FirewallSpec) : Prop :=
  ∃ object firewall owner, server.stored (firewallKey space clusterId) = some object ∧
    Firewall.decode object = .ok firewall ∧
    Resource.controllerReference? .policy policy.metadata = some owner ∧
    Firewall.LaidOver owner spec firewall firewall

/-- The configuration is the same where the same is stored. -/
theorem Server.Enforces.of_stored {server later : Server}
    (enforces : server.Enforces space clusterId policy spec)
    (same : later.stored (firewallKey space clusterId) =
      server.stored (firewallKey space clusterId)) :
    later.Enforces space clusterId policy spec := by
  obtain ⟨object, firewall, owner, stored, rest⟩ := enforces
  exact ⟨object, firewall, owner, same.trans stored, rest⟩

namespace Firewall

/-- The desired configuration has all that the policy should own. -/
theorem laidOver_desired (built : policy.desiredFirewall? clusterId spec = some desired) :
    ∃ owner, Resource.controllerReference? .policy policy.metadata = some owner ∧
      LaidOver owner spec desired desired := by
  obtain ⟨owner, refers, _, rfl⟩ := Policy.desiredFirewall?_eq_some built
  refine ⟨owner, refers, rfl, rfl, rfl, fun _ _ => rfl, ?_, rfl, rfl⟩
  simp [Metadata.owners]

/-- Where nothing is stored, the desired configuration is created. -/
theorem run_create (around : Surroundings) (addresses : Addresses space clusterId name)
    (built : policy.desiredFirewall? clusterId spec = some desired)
    (absent : scene.server.stored (firewallKey space clusterId) = none) :
    ∃ after, (ApiCall.create (some space) (ApiCall.writtenBy controllerName) desired).run.run
        around.respond scene = (.ok desired, after) ∧
      after.server.Enforces space clusterId policy spec ∧
      after.server.AgreesBut scene.server (firewallsOf space) := by
  obtain ⟨owner, refers, laid⟩ := laidOver_desired built
  have readsBack := (readsBack (Policy.sound_of_desired built)).read
  have served := Server.serve_post absent (ApiCall.writtenBy controllerName)
    (name_encode_desired built)
  exact ⟨_, scene.run_exchange (addresses.creation desired) served readsBack,
    ⟨_, _, owner, scene.stored_after served, readsBack, refers, laid⟩, scene.agreesBut_after rfl⟩

/-- Where a configuration is stored, another one takes its place. -/
theorem run_replace (around : Surroundings) (addresses : Addresses space clusterId name)
    {object : Json} (stored : scene.server.stored (firewallKey space clusterId) = some object)
    {updated : Firewall} (sound : updated.metadata.Sound) {owner : OwnerReference}
    (refers : Resource.controllerReference? .policy policy.metadata = some owner)
    (laid : LaidOver owner spec updated updated) :
    ∃ after, (ApiCall.replace (some space) (ClusterInfo.firewallName clusterId)
        (ApiCall.writtenBy controllerName) updated).run.run around.respond scene =
          (.ok updated, after) ∧
      after.server.Enforces space clusterId policy spec ∧
      after.server.AgreesBut scene.server (firewallsOf space) := by
  have readsBack := (readsBack sound).read
  have served := Server.serve_put stored (ApiCall.writtenBy controllerName) updated.encode
  exact ⟨_, (scene.run_byName (firewallName_ne_empty clusterId) _).trans
      (scene.run_exchange (addresses.replacement updated) served readsBack),
    ⟨_, _, owner, scene.stored_after served, readsBack, refers, laid⟩, scene.agreesBut_after rfl⟩

/-- An attempt that finds nothing goes on to create the desired configuration. -/
theorem run_attempt_absent (addresses : Addresses space clusterId name)
    (absent : scene.server.stored (firewallKey space clusterId) = none) :
    (attempt space (ClusterInfo.firewallName clusterId) desired).run.run around.respond scene =
      (attemptEnd .created <$>
        (ApiCall.create (some space) (ApiCall.writtenBy controllerName) desired).run).run
        around.respond (scene.fetched Firewall space (ClusterInfo.firewallName clusterId)) := by
  rw [attempt, ExceptT.run_mk, Program.bind_eq_bind, Program.run_bind,
    scene.run_get?_absent (firewallName_ne_empty clusterId) addresses.firewall absent]

/-- An attempt that finds a configuration goes on to lay the desired one over it, if that changes
something. -/
theorem run_attempt_stored (addresses : Addresses space clusterId name) {object : Json}
    {current : Firewall} (stored : scene.server.stored (firewallKey space clusterId) = some object)
    (readable : decode object = .ok current) :
    (attempt space (ClusterInfo.firewallName clusterId) desired).run.run around.respond scene =
      Program.run around.respond (match current.merge desired with
        | none => .done (.ok (some .unchanged))
        | some updated => attemptEnd .updated <$>
          (ApiCall.replace (some space) (ClusterInfo.firewallName clusterId)
            (ApiCall.writtenBy controllerName) updated).run)
        (scene.fetched Firewall space (ClusterInfo.firewallName clusterId)) := by
  rw [attempt, ExceptT.run_mk, Program.bind_eq_bind, Program.run_bind,
    scene.run_get?_stored (firewallName_ne_empty clusterId) addresses.firewall stored readable]
  rfl

/-- Attempts end with the first one that does not come too late. -/
theorem run_upsert_of_attempt (built : policy.desiredFirewall? clusterId spec = some desired)
    {after : Scene} {operation : WriteOperation}
    (attempts : (attempt space (ClusterInfo.firewallName clusterId) desired).run.run
      around.respond scene = (.ok (some operation), after)) :
    (desired.upsert space).run.run around.respond scene = (.ok operation, after) := by
  have named : desired.metadata.displayName = ClusterInfo.firewallName clusterId := by
    rw [Metadata.displayName, Policy.name_of_desired built, Option.getD_some]
  rw [upsert, named, maxAttempts, upsertWithin, ExceptT.run_bind, Program.bind_eq_bind,
    Program.run_bind, attempts]
  rfl

/-- Where the configuration has all that the policy should own, it is read and left as it is. -/
theorem run_upsert_enforced (around : Surroundings) (addresses : Addresses space clusterId name)
    (built : policy.desiredFirewall? clusterId spec = some desired)
    (enforces : scene.server.Enforces space clusterId policy spec) :
    (desired.upsert space).run.run around.respond scene =
      (.ok .unchanged, scene.fetched Firewall space (ClusterInfo.firewallName clusterId)) := by
  obtain ⟨object, current, owner, stored, readable, refers, laid⟩ := enforces
  have unchanged : current.merge desired = none := (merge_eq_none_iff built refers).2 laid
  apply run_upsert_of_attempt built
  rw [run_attempt_stored addresses stored readable, unchanged]
  rfl

/-- Whatever configuration is stored, if any, one is stored afterwards that has all that the policy
should own, and nothing else is changed. -/
theorem run_upsert (around : Surroundings) (addresses : Addresses space clusterId name)
    (built : policy.desiredFirewall? clusterId spec = some desired)
    (readable : ∀ object, scene.server.stored (firewallKey space clusterId) = some object →
      ∃ current, decode object = .ok current) :
    ∃ operation after,
      (desired.upsert space).run.run around.respond scene = (.ok operation, after) ∧
      after.server.Enforces space clusterId policy spec ∧
      after.server.AgreesBut scene.server (firewallsOf space) := by
  -- Reading changes nothing, so that what is found is still stored when it is written.
  have unread := scene.server_fetched Firewall space (ClusterInfo.firewallName clusterId)
  cases stored : scene.server.stored (firewallKey space clusterId) with
  | none =>
    obtain ⟨after, creates, enforces, agrees⟩ := run_create around addresses built (unread ▸ stored)
    refine ⟨.created, after, run_upsert_of_attempt built ?_, enforces, unread ▸ agrees⟩
    rw [run_attempt_absent addresses stored, Program.run_map, creates]
    rfl
  | some object =>
    obtain ⟨current, decodes⟩ := readable object stored
    obtain ⟨owner, refers, laid⟩ := overlay_laidOver built current
    cases merges : current.merge desired with
    | none =>
      have enforces : scene.server.Enforces space clusterId policy spec :=
        ⟨object, current, owner, stored, decodes, refers, (merge_eq_none_iff built refers).1 merges⟩
      refine ⟨_, _, run_upsert_enforced around addresses built enforces, unread ▸ enforces, ?_⟩
      exact fun _ _ => by rw [unread]
    | some updated =>
      obtain rfl := merge_eq_some merges
      obtain ⟨after, replaces, enforces, agrees⟩ := run_replace around addresses (unread ▸ stored)
        (overlay_sound decodes desired) refers laid.self
      refine ⟨.updated, after, run_upsert_of_attempt built ?_, enforces, unread ▸ agrees⟩
      rw [run_attempt_stored addresses stored decodes, merges, Program.run_map, replaces]
      rfl

end Firewall

/-! ### The status -/

/-- Whether a policy is what is stored under a name. -/
def Server.HasPolicy (server : Server) (space name : String) (policy : Policy) : Prop :=
  ∃ members, server.stored (policyKey space name) = some (.obj members) ∧
    Policy.decode (.obj members) = .ok policy

/-- The policy is the same where the same is stored. -/
theorem Server.HasPolicy.of_stored {server later : Server}
    (holds : server.HasPolicy space name policy)
    (same : later.stored (policyKey space name) = server.stored (policyKey space name)) :
    later.HasPolicy space name policy := by
  obtain ⟨members, stored, reads⟩ := holds
  exact ⟨members, same.trans stored, reads⟩

/-- The merge patch that writes a status lays it over the status that there is. -/
theorem PolicyStatus.mergePatch_patch (status : PolicyStatus) (members : List (String × Json)) :
    status.patch.mergePatch (.obj members) =
      (Json.obj members).withMember "status"
        (status.encode.mergePatch (((Json.obj members).get? "status").getD .null)) := by
  have present : status.encode ≠ .null := nofun
  rw [patch, Json.mergePatch, Json.mergeMembers, Json.mergeMembers, if_neg present, Json.members]

namespace Policy

/-- A status that is written takes the place of the one that is stored. -/
theorem serve_statusRequest {server : Server} (holds : server.HasPolicy space name policy)
    {other : Policy} (named : other.metadata.displayName = name) (status : PolicyStatus) :
    ∃ members generation, server.serve (other.statusRequest space status) =
        (Store.reply (.obj members), server.set (policyKey space name) (some (.obj members))) ∧
      decode (.obj members) =
        .ok { policy with status := some (status.laidOver generation) } := by
  obtain ⟨members, stored, reads⟩ := holds
  have served := Server.serve_patch_status stored [] status.patch
  rw [PolicyStatus.mergePatch_patch, Json.withStatusOf, Json.get?_withMember, if_pos rfl] at served
  rw [statusRequest, named]
  obtain ⟨generation, reads⟩ := decode_patched reads status
  exact ⟨_, generation, served, reads⟩

/-- A status that says already how a pass ended is left as it is. -/
theorem run_updateStatus_told {outcome : Outcome}
    (told : policy.status = some (.afterPass policy.status policy.metadata.generation outcome
      (around.clock scene.readings))) :
    (policy.updateStatus space outcome).run.run around.respond scene = (.ok (), scene.tick) := by
  rw [updateStatus_eq, Program.run_bind, scene.run_readClock]
  simp only [if_pos told]
  rfl

/-- Whatever the status is, it says afterwards how the pass ended, and nothing else is changed. -/
theorem run_updateStatus (around : Surroundings) (addresses : Addresses space clusterId name)
    (holds : scene.server.HasPolicy space name policy)
    (named : policy.metadata.displayName = name) (nonempty : name ≠ "") {generation : Int64}
    (counted : policy.metadata.generation = some generation) (outcome : Outcome) :
    let status := PolicyStatus.afterPass policy.status policy.metadata.generation outcome
      (around.clock scene.readings)
    ∃ after, (policy.updateStatus space outcome).run.run around.respond scene =
        (.ok (), after) ∧
      after.server.HasPolicy space name { policy with status := some status } ∧
      after.server.AgreesBut scene.server (policiesOf space) := by
  intro status
  by_cases told : policy.status = some status
  · refine ⟨_, run_updateStatus_told told, ?_, fun _ _ => rfl⟩
    rw [← told]
    exact holds
  · have isAbout : status.observedGeneration = some generation := counted
    have holdsNow : scene.tick.server.HasPolicy space name policy := holds
    obtain ⟨members, about, served, reads⟩ := serve_statusRequest holdsNow named status
    rw [PolicyStatus.laidOver_of_isSome (isAbout ▸ rfl)] at reads
    have writes : (ApiCall.patchStatus (some space) policy.metadata.displayName status.patch :
        ApiCall Policy).run.run around.respond scene.tick =
          (.ok { policy with status := some status },
            scene.tick.after (policy.statusRequest space status)) :=
      (scene.tick.run_byName (named ▸ nonempty) _).trans
        (scene.tick.run_exchange (addresses.status policy status named) served reads)
    refine ⟨scene.tick.after (policy.statusRequest space status), ?_, ?_, ?_⟩
    · rw [updateStatus_eq, Program.run_bind, scene.run_readClock]
      change Program.run _ (if policy.status = some status then _ else _) scene.tick = _
      rw [if_neg told, Program.run_map, writes]
      rfl
    · exact ⟨members, scene.tick.stored_after served, reads⟩
    · exact scene.tick.agreesBut_after rfl

end Policy

end PeerFirewall
