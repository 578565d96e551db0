import Mathlib.Logic.Relation
import PeerFirewall.Fabric.Reads
import PeerFirewall.Proofs.Reconcile.PassSafety

/-!
# No firewall configuration outlives its policy

A `Course` is what the API server holds of a namespace together with the passes that are being made
over its policies, one for each policy at most. `Course.Step` lists what may happen next: a pass
goes on by one question, a request is lost and takes effect later or never, a pass is cut off, or
others change policies and firewall configurations. Wherever such steps lead, a firewall
configuration that has the identity of a policy among its owners has that policy beside it, which
carries the mark of the controller (`Course.keeps_of_owned`).
-/
namespace PeerFirewall

/-- An object whose deletion was asked for at a time. -/
def Json.withDeletion (object : Json) (time : String) : Json :=
  object.withMember "metadata" (object.metadata.withMember "deletionTimestamp" (.str time))

/-- Asking for the deletion of an object sets a member of its metadata. -/
theorem Json.metadata_withDeletion (object : Json) (time : String) :
    (object.withDeletion time).metadata =
      object.metadata.withMember "deletionTimestamp" (.str time) := by
  rw [metadata, withDeletion, get?_withMember, if_pos rfl, Option.getD_some]

/-- Asking for the deletion of an object changes nothing else of its metadata. -/
theorem Json.get?_metadata_withDeletion (object : Json) (time : String) {name : String}
    (other : name ≠ "deletionTimestamp") :
    (object.withDeletion time).metadata.get? name = object.metadata.get? name := by
  rw [metadata_withDeletion, get?_withMember, if_neg other]

/-- The deletion of an object was asked for once it is. -/
theorem Json.deletion?_withDeletion (object : Json) (time : String) :
    (object.withDeletion time).deletion? = some (.str time) := by
  rw [deletion?, metadata_withDeletion, get?_withMember, if_pos rfl]

namespace Cluster

variable {versions : Versions} {tenants : Tenants} {space uid : String}
  {cluster later : Cluster versions}

/-- What users and other clients may do: they do not take the mark away, and they do not write the
identity as an owner where it is none. -/
inductive Disturbance (uid : String) (cluster : Cluster versions) : Cluster versions → Prop where
  /-- A policy is created, and the API server gives it an identity that no policy has had. -/
  | createPolicy {name given : String} {object : Json}
      (absent : (cluster.policies name).stored = none) (fresh : given ∉ cluster.issued)
      (named : object.name? = some (.str name)) (isGiven : object.uid? = some (.str given)) :
      Disturbance uid cluster
        { cluster.setPolicy name ((cluster.policies name).put object) with
          issued := given :: cluster.issued }
  /-- A policy is edited. -/
  | editPolicy {name : String} {object edited : Json}
      (stored : (cluster.policies name).stored = some object) (same : object.SameIdentity edited)
      (deletion : edited.deletion? = object.deletion?)
      (marked : object.IsMarked → edited.IsMarked) :
      Disturbance uid cluster (cluster.setPolicy name ((cluster.policies name).settle edited))
  /-- The deletion of a policy is asked for. -/
  | deletePolicy {name : String} {object : Json}
      (stored : (cluster.policies name).stored = some object) (time : String) :
      Disturbance uid cluster
        (cluster.setPolicy name ((cluster.policies name).settle (object.withDeletion time)))
  /-- A firewall configuration is created or edited. -/
  | writeFirewall {name : String} {object : Json}
      (owned : uid ∈ object.ownerUids → cluster.Owned uid name) :
      Disturbance uid cluster (cluster.setFirewall name ((cluster.firewalls name).put object))
  /-- A firewall configuration is deleted. -/
  | deleteFirewall (name : String) :
      Disturbance uid cluster (cluster.setFirewall name (cluster.firewalls name).remove)

/-- What others do is a move that anybody may make. -/
theorem Disturbance.move (disturbance : Disturbance uid cluster later) :
    cluster.Move tenants space uid .plain later := by
  cases disturbance with
  | createPolicy absent fresh named isGiven =>
    exact .create absent fresh rfl ((Json.name?_stamp ..).trans named)
      ((Json.uid?_stamp ..).trans isGiven)
  | editPolicy stored same deletion marked => exact .settle stored same marked
  | @deletePolicy name object stored time =>
    refine .settle stored ⟨?_, ?_⟩ fun isMarked => ?_
    · exact Json.get?_metadata_withDeletion object time (by decide)
    · exact Json.get?_metadata_withDeletion object time (by decide)
    · unfold Json.IsMarked Json.finalizers
      rw [Json.get?_metadata_withDeletion object time (by decide)]
      exact isMarked
  | @writeFirewall name object owned =>
    refine .firewall (.put _ object) ?_
    intro stored isStored isOwner
    cases isStored
    exact owned (Json.ownerUids_stamp object _ ▸ isOwner)
  | deleteFirewall name => exact .firewall (.remove _) nofun

end Cluster

/-- A pass that is being made. -/
structure RunningPass where
  /-- What is left of it. -/
  program : Program world (Except NamelessObject Turn × Ledger)
  /-- The requests that it has given up on and that may still take effect. -/
  pending : List Request

/-- What the API server holds of a namespace, and the passes over its policies by name. -/
structure Course (versions : Versions) where
  cluster : Cluster versions
  passes : String → Option RunningPass

namespace Course

variable {versions : Versions}

/-- The course as a pass has gone on. -/
def goOn (course : Course versions) (name : String) (cluster : Cluster versions)
    (pass : Option RunningPass) : Course versions :=
  ⟨cluster, Function.update course.passes name pass⟩

/-- A pass that has gone on is what it has become. -/
theorem passes_goOn {course : Course versions} {name : String} {cluster : Cluster versions}
    {pass : Option RunningPass} : (course.goOn name cluster pass).passes name = pass :=
  Function.update_self ..

/-- A pass that goes on leaves the others. -/
theorem passes_goOn_of_ne {course : Course versions} {name other : String}
    {cluster : Cluster versions} {pass : Option RunningPass} (isOther : other ≠ name) :
    (course.goOn name cluster pass).passes other = course.passes other :=
  Function.update_of_ne isOther ..

/-- What may happen next in a namespace. -/
inductive Step (tenants : Tenants) (space uid : String) (course : Course versions) :
    Course versions → Prop where
  /-- A pass begins over a policy over which none is being made. -/
  | start {name : String} {setting : Setting} {policy : Policy} {ledger : Ledger}
      (idle : course.passes name = none) (looksOnly : setting.LooksOnly)
      (sameTenants : setting.info.tenants = tenants)
      (inSpace : policy.metadata.namespace = some space)
      (named : policy.metadata.displayName = name) :
      Step tenants space uid course
        (course.goOn name course.cluster (some ⟨(setting.turn policy).run ledger, []⟩))
  /-- A request is served. -/
  | serve {name : String} {request : Request} {next : Reply → Program world _}
      {pending : List Request}
      (running : course.passes name = some ⟨.ask (WorldQuestion.send request) next, pending⟩)
      (elsewhere : Reply) (status : Json) :
      Step tenants space uid course
        (course.goOn name (course.cluster.serve space request elsewhere status).2
          (some ⟨next (course.cluster.serve space request elsewhere status).1, pending⟩))
  /-- A request fails. It may take effect all the same. -/
  | lose {name : String} {request : Request} {next : Reply → Program world _}
      {pending : List Request}
      (running : course.passes name = some ⟨.ask (WorldQuestion.send request) next, pending⟩)
      {reply : Reply} (isLost : reply.IsLost) :
      Step tenants space uid course
        (course.goOn name course.cluster (some ⟨next reply, request :: pending⟩))
  /-- A request that has failed takes effect while the pass is being made. -/
  | arrive {name : String} {pass : RunningPass} {request : Request}
      (running : course.passes name = some pass) (isPending : request ∈ pass.pending)
      (elsewhere : Reply) (status : Json) :
      Step tenants space uid course
        (course.goOn name (course.cluster.serve space request elsewhere status).2
          (some ⟨pass.program, pass.pending.erase request⟩))
  /-- A pass looks at the clock. -/
  | clock {name : String} {next : Time.Instant → Program world _} {pending : List Request}
      (running : course.passes name = some ⟨.ask WorldQuestion.clock next, pending⟩)
      (now : Time.Instant) :
      Step tenants space uid course
        (course.goOn name course.cluster (some ⟨next now, pending⟩))
  /-- A pass learns about the state of the cluster otherwise. -/
  | look {name : String} {query : Query} {next : query.Answer → Program world _}
      {pending : List Request}
      (running : course.passes name = some ⟨.ask (WorldQuestion.look query) next, pending⟩)
      (answer : query.Answer) :
      Step tenants space uid course
        (course.goOn name course.cluster (some ⟨next answer, pending⟩))
  /-- A pass has ended, or it is cut off; what has not taken effect never will. -/
  | stop (name : String) : Step tenants space uid course (course.goOn name course.cluster none)
  /-- Others do something. -/
  | disturb {later : Cluster versions} (others : course.cluster.Disturbance uid later) :
      Step tenants space uid course ⟨later, course.passes⟩

/-! ### One step -/

variable {tenants : Tenants} {space uid : String} {course later : Course versions}

/-- The scope of the pass over the policy of a name. -/
def scope (versions : Versions) (tenants : Tenants) (space uid name : String) : Scope :=
  ⟨versions, tenants, space, uid, name⟩

/-- Whether a pass relies on what is true and goes on safely, and whether what it has given up on
does no harm. -/
def Guarded (tenants : Tenants) (space uid name : String) (cluster : Cluster versions)
    (pass : RunningPass) : Prop :=
  let scope := scope versions tenants space uid name
  ∃ footing, scope.Holds footing cluster ∧ scope.Safe (fun _ _ => True) pass.program footing ∧
    ∀ request ∈ pass.pending, scope.Permits footing request

/-- Whether all is well with the policy of an identity and with every pass. -/
structure Sound (tenants : Tenants) (space uid : String) (course : Course versions) : Prop where
  cluster : course.cluster.Sound tenants space uid
  passes : ∀ name pass, course.passes name = some pass →
    Guarded tenants space uid name course.cluster pass

/-- A step of a pass over the policy of a name is sound if it is a move that the pass may make and
leaves the pass guarded. -/
theorem Sound.goOn (sound : course.Sound tenants space uid) {name : String}
    {cluster : Cluster versions} {act : Act} {footing : Footing}
    (move : course.cluster.Move tenants space uid act cluster) (allows : footing.Allows name act)
    {pass : Option RunningPass}
    (guarded : ∀ going, pass = some going → Guarded tenants space uid name cluster going) :
    (course.goOn name cluster pass).Sound tenants space uid where
  cluster := move.sound sound.cluster
  passes other going running := by
    by_cases isName : other = name
    · subst isName
      rw [passes_goOn] at running
      exact guarded going running
    · rw [passes_goOn_of_ne isName] at running
      obtain ⟨otherFooting, holds, safe, permits⟩ := sound.passes other going running
      exact ⟨otherFooting, holds.other sound.cluster move (Ne.symm isName) allows, safe, permits⟩

/-- A step of a pass that changes nothing stored is sound if it leaves the pass guarded. -/
theorem Sound.goOn_self (sound : course.Sound tenants space uid) {name : String}
    {pass : Option RunningPass}
    (guarded : ∀ going, pass = some going →
      Guarded tenants space uid name course.cluster going) :
    (course.goOn name course.cluster pass).Sound tenants space uid :=
  sound.goOn .stay (show Footing.none.Allows name .plain from trivial) guarded

/-- Whatever happens next, all is well afterwards. -/
theorem Step.sound (step : Step tenants space uid course later)
    (sound : course.Sound tenants space uid) : later.Sound tenants space uid := by
  cases step with
  | @start name setting policy ledger idle looksOnly sameTenants inSpace named =>
    refine sound.goOn_self ?_
    intro going isGoing
    cases isGoing
    have safe : (scope versions tenants space uid name).Safe (fun _ _ => True)
        ((setting.turn policy).run ledger) .none :=
      Scope.safe_turn looksOnly sameTenants inSpace named
    exact ⟨.none, ⟨nofun, nofun, nofun⟩, safe, List.forall_mem_nil _⟩
  | @serve name request next pending running elsewhere status =>
    obtain ⟨footing, holds, ⟨permits, _, served⟩, pendingPermits⟩ := sound.passes name _ running
    obtain ⟨act, allows, move⟩ := permits course.cluster sound.cluster holds elsewhere status
    obtain ⟨more, extend, holdsMore, safe⟩ := served course.cluster sound.cluster holds elsewhere
      status
    refine sound.goOn move allows ?_
    intro going isGoing
    cases isGoing
    exact ⟨more, holdsMore, safe, fun request isPending =>
      (pendingPermits request isPending).of_extends extend⟩
  | @lose name request next pending running reply isLost =>
    obtain ⟨footing, holds, ⟨permits, lost, _⟩, pendingPermits⟩ := sound.passes name _ running
    refine sound.goOn_self ?_
    intro going isGoing
    cases isGoing
    refine ⟨footing, holds, lost reply isLost, ?_⟩
    exact List.forall_mem_cons.2 ⟨permits, pendingPermits⟩
  | @arrive name pass request running isPending elsewhere status =>
    obtain ⟨footing, holds, safe, pendingPermits⟩ := sound.passes name _ running
    have permits := pendingPermits request isPending
    obtain ⟨act, allows, move⟩ := permits course.cluster sound.cluster holds elsewhere status
    refine sound.goOn move allows ?_
    intro going isGoing
    cases isGoing
    refine ⟨footing, holds.own sound.cluster move allows, safe, fun request isLeft => ?_⟩
    exact pendingPermits request (List.mem_of_mem_erase isLeft)
  | @clock name next pending running now =>
    obtain ⟨footing, holds, safe, pendingPermits⟩ := sound.passes name _ running
    refine sound.goOn_self ?_
    intro going isGoing
    cases isGoing
    exact ⟨footing, holds, safe now, pendingPermits⟩
  | @look name query next pending running answer =>
    obtain ⟨footing, holds, safe, pendingPermits⟩ := sound.passes name _ running
    refine sound.goOn_self ?_
    intro going isGoing
    cases isGoing
    exact ⟨footing, holds, safe answer, pendingPermits⟩
  | stop name => exact sound.goOn_self nofun
  | disturb others =>
    have move : course.cluster.Move tenants space uid .plain _ := others.move
    refine ⟨move.sound sound.cluster, fun name pass running => ?_⟩
    obtain ⟨footing, holds, safe, permits⟩ := sound.passes name pass running
    exact ⟨footing, holds.own sound.cluster move trivial, safe, permits⟩

/-! ### Whole runs -/

/-- Whether a course is one to begin with: no pass is being made, the policies have their names and
different identities, and no firewall configuration has the identity as an owner. -/
structure Initial (uid : String) (course : Course versions) : Prop where
  idle : ∀ name, course.passes name = none
  named : ∀ name object, (course.cluster.policies name).stored = some object →
    object.name? = some (.str name)
  unique : ∀ name other, course.cluster.Has uid name → course.cluster.Has uid other → name = other
  issued : ∀ name, course.cluster.Has uid name → uid ∈ course.cluster.issued
  unowned : ∀ firewall, ¬ course.cluster.Owned uid firewall

/-- All is well in the beginning. -/
theorem Initial.sound (initial : course.Initial uid) : course.Sound tenants space uid where
  cluster :=
    { named := initial.named
      unique := initial.unique
      issued := initial.issued
      owned := fun firewall owned => absurd owned (initial.unowned firewall) }
  passes name pass running := by
    cases (initial.idle name).symm.trans running

/-- All is well at any time. -/
theorem sound_of_run {start : Course versions} (initial : start.Initial uid)
    (run : Relation.ReflTransGen (Step tenants space uid) start course) :
    course.Sound tenants space uid := by
  induction run with
  | refl => exact initial.sound
  | tail _ step sound => exact step.sound sound

/-! ### Passes that are made to their end -/

/-- Answers a pass that is left alone: every request is served, and nothing else is known. -/
def answer (space : String) (now : Time.Instant) :
    (question : world.Question) → Cluster versions → world.Answer question × Cluster versions
  | .send request, cluster => cluster.serve space request ⟨500, .text ""⟩ .null
  | .clock, cluster => (now, cluster)
  | .look (.cidr _), cluster => (.error ⟨"unknown", []⟩, cluster)
  | .look (.pods _), cluster => (.error ⟨"unknown", []⟩, cluster)

/-- A pass that is being made may be left alone until it has ended. -/
theorem run_to_end (now : Time.Instant) {name : String}
    {program : Program world (Except NamelessObject Turn × Ledger)} {pending : List Request}
    (running : course.passes name = some ⟨program, pending⟩) :
    Relation.ReflTransGen (Step tenants space uid) course
      (course.goOn name (program.run (answer space now) course.cluster).2
        (some ⟨.done (program.run (answer space now) course.cluster).1, pending⟩)) := by
  induction program generalizing course with
  | done value =>
    have same : course.goOn name course.cluster (some ⟨.done value, pending⟩) = course := by
      rw [goOn, ← running, Function.update_eq_self]
    rw [Program.run_done, same]
  | ask question next ih =>
    have goOn_twice {middle final : Cluster versions} {first second : Option RunningPass} :
        (course.goOn name middle first).goOn name final second = course.goOn name final second := by
      simp only [goOn, Function.update_idem]
    have onwards {middle : Cluster versions} {reached : world.Answer question}
        (step : Step tenants space uid course
          (course.goOn name middle (some ⟨next reached, pending⟩))) :
        Relation.ReflTransGen (Step tenants space uid) course
          (course.goOn name ((next reached).run (answer space now) middle).2
            (some ⟨.done ((next reached).run (answer space now) middle).1, pending⟩)) := by
      have runs : (course.goOn name middle (some ⟨next reached, pending⟩)).passes name =
          some ⟨next reached, pending⟩ := passes_goOn
      have rest := ih reached runs
      rw [goOn_twice] at rest
      exact .head step rest
    cases question with
    | send request => exact onwards (.serve running _ _)
    | clock => exact onwards (.clock running now)
    | look query => cases query <;> exact onwards (.look running _)

/-- What is stored after a pass that is left alone. -/
def turned (space : String) (now : Time.Instant) (setting : Setting) (policy : Policy)
    (ledger : Ledger) (cluster : Cluster versions) : Cluster versions :=
  (((setting.turn policy).run ledger).run (answer space now) cluster).2

/-- A pass may begin over a policy over which none is being made, and be left alone. -/
theorem run_of_turn {name : String} {setting : Setting} {policy : Policy}
    (idle : course.passes name = none) (looksOnly : setting.LooksOnly)
    (sameTenants : setting.info.tenants = tenants)
    (inSpace : policy.metadata.namespace = some space)
    (named : policy.metadata.displayName = name) (ledger : Ledger) (now : Time.Instant) :
    ∃ passes, Relation.ReflTransGen (Step tenants space uid) course
      ⟨turned space now setting policy ledger course.cluster, passes⟩ := by
  have begins : Step tenants space uid course
      (course.goOn name course.cluster (some ⟨(setting.turn policy).run ledger, []⟩)) :=
    .start idle looksOnly sameTenants inSpace named
  exact ⟨_, .head begins (run_to_end now passes_goOn)⟩

/-- The deletion of a policy may be asked for at any time. -/
theorem run_deleted {start : Course versions} {cluster : Cluster versions}
    {passes : String → Option RunningPass} {name : String} {object : Json}
    (made : Relation.ReflTransGen (Step tenants space uid) start ⟨cluster, passes⟩)
    (stored : (cluster.policies name).stored = some object) (time : String) :
    Relation.ReflTransGen (Step tenants space uid) start
      ⟨cluster.setPolicy name ((cluster.policies name).settle (object.withDeletion time)),
        passes⟩ :=
  made.tail (.disturb (.deletePolicy stored time))

/-! ### The policy is there -/

/-- Whatever has happened, where a firewall configuration has the identity of a policy among its
owners, that policy is there and carries the mark of the controller. -/
theorem keeps_of_owned {start : Course versions} (initial : start.Initial uid)
    (run : Relation.ReflTransGen (Step tenants space uid) start course) (firewall : String)
    (owned : course.cluster.Owned uid firewall) : ∃ policy, course.cluster.Keeps uid policy :=
  ((sound_of_run initial run).cluster.owned firewall owned).2

/-- A namespace in which a single policy is stored, which carries the mark. -/
def lonely : Course .byLength where
  cluster :=
    { policies := Function.update (fun _ => .empty) "rules" (Store.empty.put (.obj [
        ("metadata", .obj [("name", .str "rules"), ("uid", .str "u1"),
          ("finalizers", .arr [.str Finalizer.name])]),
        ("spec", .obj [("rules", .arr [])])]))
      firewalls := fun _ => .empty
      issued := ["u1"] }
  passes := fun _ => none

/-- That policy is the only one. -/
theorem policy_lonely {name : String} {object : Json}
    (stored : (lonely.cluster.policies name).stored = some object) :
    name = "rules" ∧ object.name? = some (.str "rules") := by
  by_cases isName : name = "rules"
  · subst isName
    cases stored
    exact ⟨rfl, by decide⟩
  · simp only [lonely, Function.update_of_ne isName] at stored
    cases stored

/-- A run may begin with that policy. -/
theorem initial_lonely : lonely.Initial "u1" := by
  constructor
  case idle => exact fun _ => rfl
  case named =>
    intro name object stored
    obtain ⟨rfl, named⟩ := policy_lonely stored
    exact named
  case unique =>
    intro name other has hasOther
    obtain ⟨object, stored, _⟩ := has
    obtain ⟨objectToo, storedToo, _⟩ := hasOther
    exact (policy_lonely stored).1.trans (policy_lonely storedToo).1.symm
  case issued => exact fun _ _ => List.mem_cons_self
  case unowned =>
    intro firewall owned
    obtain ⟨object, stored, _⟩ := owned
    cases stored

/-- A setting in which nothing but reads is known of the cluster. -/
def lonelySetting : Setting where
  resolvers := ⟨[], []⟩
  info := .standard
  leadership := ⟨⟨"host", ⟨1, 0⟩⟩, "host"⟩
  «instance» := "host"
  resync := 60
  lookUp := ClusterInfo.standard.read

/-- That policy as it is known to whoever begins a pass over it. -/
def lonelyTrigger : Policy :=
  ⟨{ Metadata.empty with name := some "rules", «namespace» := some "liqo-tenant-c" }, ⟨[]⟩, none⟩

/-- What is stored in that namespace after a pass. -/
def lonelyEnd : Cluster .byLength :=
  turned "liqo-tenant-c" ⟨0, 0⟩ lonelySetting lonelyTrigger .fresh lonely.cluster

/-- A pass may be made over that policy. -/
theorem run_lonely : ∃ passes,
    Relation.ReflTransGen (Step .standard "liqo-tenant-c" uid) lonely ⟨lonelyEnd, passes⟩ := by
  have looksOnly : lonelySetting.LooksOnly := ClusterInfo.standard.read_asks
  have idle : lonely.passes "rules" = none := rfl
  have named : lonelyTrigger.metadata.displayName = "rules" := rfl
  exact run_of_turn idle looksOnly rfl rfl named .fresh ⟨0, 0⟩

/-- A policy that is deleted after a pass has written its firewall configuration stays. -/
theorem keeps_of_owned_deleted :
    ∃ course, Relation.ReflTransGen (Step .standard "liqo-tenant-c" "u1") lonely course ∧
      course.cluster.Owned "u1" "c-security-fabric" ∧
      (course.cluster.policies "rules").stored.map Json.isDeleted = some true ∧
      ∃ policy, course.cluster.Keeps "u1" policy := by
  have evaluated : (lonelyEnd.policies "rules").stored.map Json.finalizers =
        some [.str Finalizer.name] ∧
      (lonelyEnd.firewalls "c-security-fabric").stored.map Json.ownerUids = some ["u1"] := by
    decide +kernel
  obtain ⟨policy, stored, finalizers⟩ := Option.map_eq_some_iff.1 evaluated.1
  obtain ⟨firewall, isFound, owners⟩ := Option.map_eq_some_iff.1 evaluated.2
  have owned : lonelyEnd.Owned "u1" "c-security-fabric" :=
    ⟨firewall, isFound, owners ▸ List.mem_cons_self⟩
  have marked : .str Finalizer.name ∈ (policy.withDeletion "2026-01-01T00:00:00Z").finalizers := by
    rw [Json.finalizers, Json.get?_metadata_withDeletion _ _ (by decide)]
    exact (congrArg (_ ∈ ·) finalizers).mpr List.mem_cons_self
  obtain ⟨passes, made⟩ := run_lonely
  have run := run_deleted made stored "2026-01-01T00:00:00Z"
  have stillOwned := owned.setPolicy "rules"
    ((lonelyEnd.policies "rules").settle (policy.withDeletion "2026-01-01T00:00:00Z"))
  refine ⟨_, run, stillOwned, ?_, keeps_of_owned initial_lonely run _ stillOwned⟩
  rw [Cluster.policies_setPolicy, Store.settle_of_mem marked, Store.put, Option.map_some,
    Json.isDeleted, Store.next, Json.deletion?_stamp, Json.deletion?_withDeletion]
  decide

end Course

end PeerFirewall
