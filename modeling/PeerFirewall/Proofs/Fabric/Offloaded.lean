import Mathlib.Data.List.Sort
import PeerFirewall.Proofs.Compile.Listings
import PeerFirewall.Proofs.Fabric.Listing

/-!
# Listing the pods of offloaded namespaces

The pods in offloaded namespaces are read in two steps: the marks of offloaded namespaces are
listed, and then the pods of each namespace that is marked. However the marks are ordered and
repeated, every namespace is listed once, and the namespaces in ascending order
(`ClusterRead.ascending_eq`). What is sent and what the reading ends with, whatever is replied, is
said by `ClusterInfo.ReadsOffloaded`.
-/
namespace PeerFirewall

namespace ClusterRead

/-! ### Each name once, in order -/

/-- Putting a name into its place adds it and nothing else. -/
@[simp] theorem mem_insertName {name other : String} {names : List String} :
    name ∈ insertName other names ↔ name = other ∨ name ∈ names := by
  induction names with
  | nil => simp [insertName]
  | cons head rest ih =>
    unfold insertName
    split
    · exact List.mem_cons
    · split
      · rename_i same
        simp [same]
      · simp only [List.mem_cons, ih]
        exact or_left_comm

/-- Putting a name into its place keeps the order. -/
theorem insertName_sorted {name : String} {names : List String}
    (sorted : names.Pairwise (· < ·)) : (insertName name names).Pairwise (· < ·) := by
  induction names with
  | nil => simp [insertName]
  | cons head rest ih =>
    have ⟨above, tail⟩ := List.pairwise_cons.1 sorted
    unfold insertName
    split
    · rename_i lower
      refine List.pairwise_cons.2 ⟨fun other member => ?_, sorted⟩
      rcases List.mem_cons.1 member with rfl | member
      · exact lower
      · exact String.lt_trans lower (above other member)
    · rename_i notLower
      split
      · exact sorted
      · rename_i different
        refine List.pairwise_cons.2 ⟨fun other member => ?_, ih tail⟩
        rcases mem_insertName.1 member with rfl | member
        · exact Std.lt_of_le_of_ne (String.not_lt.1 notLower) (Ne.symm different)
        · exact above other member

/-- The ascending names are the names. -/
@[simp] theorem mem_ascending {name : String} {names : List String} :
    name ∈ ascending names ↔ name ∈ names := by
  induction names with
  | nil => simp [ascending]
  | cons head rest ih =>
    rw [List.mem_cons, ← ih]
    exact mem_insertName

/-- The ascending names are in order. -/
theorem ascending_sorted (names : List String) : (ascending names).Pairwise (· < ·) := by
  induction names with
  | nil => exact .nil
  | cons head rest ih => exact insertName_sorted ih

/-- Names in order are the ascending ones of all lists that have just these names. -/
theorem ascending_eq {names sorted : List String} (isSorted : sorted.Pairwise (· < ·))
    (same : ∀ name, name ∈ sorted ↔ name ∈ names) : ascending names = sorted := by
  exact (ascending_sorted names).eq_of_mem_iff isSorted fun name => by rw [mem_ascending, same]

end ClusterRead

/-! ### Exchanges -/

/-- How an exchange fails: there is no address to send its request to, or no value in the reply. -/
inductive ApiCall.Fails {α : Type} (decode : Decoder α) (request : Request) :
    Transcript world → ApiError → Prop
  | unaddressed {fault : UriFault} (noAddress : request.uri? = .error fault) :
      Fails decode request [] (.unsent (.badAddress fault))
  | refused {reply : Reply} {error : ApiError} (sendable : request.IsSendable)
      (refuses : reply.read decode = .error error) :
      Fails decode request [WorldStep.sent request reply] error

/-- An exchange that is part of a read sends its request and ends with the value in the reply, or it
fails. -/
theorem ClusterRead.goes_calling_exchange_iff {α : Type} {decode : Decoder α} {request : Request}
    {context : String} {t : Transcript world} {result : Except ReadError α} :
    (calling context (ApiCall.exchange decode request)).run.Goes t result ↔
      (∃ reply a, request.IsSendable ∧ reply.read decode = .ok a ∧
        t = [WorldStep.sent request reply] ∧ result = .ok a) ∨
      ∃ error, ApiCall.Fails decode request t error ∧ result = .error (explain context error) := by
  unfold calling
  rw [ExceptT.run_mk, Program.goes_map]
  constructor
  · rintro ⟨given, exchanges, rfl⟩
    unfold ApiCall.exchange ApiCall.send at exchanges
    split at exchanges
    · obtain ⟨rfl, rfl⟩ := exchanges
      exact .inr ⟨_, .unaddressed ‹_›, rfl⟩
    · obtain ⟨reply, _, rfl, rfl, rfl⟩ := exchanges
      have sendable : request.IsSendable := ⟨_, ‹_›⟩
      cases reads : reply.read decode with
      | ok a => exact .inl ⟨reply, a, sendable, reads, rfl, rfl⟩
      | error error => exact .inr ⟨error, .refused sendable reads, rfl⟩
  · rintro (⟨reply, a, ⟨uri, address⟩, reads, rfl, rfl⟩ | ⟨error, fails, rfl⟩)
    · exact ⟨.ok a, reads ▸ ApiCall.send_goes address reply, rfl⟩
    · refine ⟨.error error, ?_, rfl⟩
      cases fails with
      | unaddressed noAddress =>
        unfold ApiCall.exchange ApiCall.send
        rw [noAddress]
        exact ⟨rfl, rfl⟩
      | refused sendable refuses =>
        obtain ⟨uri, address⟩ := sendable
        exact refuses ▸ ApiCall.send_goes address _

/-- Two steps of a read go one after the other, or the first one fails. -/
theorem ClusterRead.goes_bind_iff {α β : Type} {first : ClusterRead α} {next : α → ClusterRead β}
    {t : Transcript world} {result : Except ReadError β} :
    (first >>= next).run.Goes t result ↔
      (∃ error, first.run.Goes t (.error error) ∧ result = .error error) ∨
      ∃ before later a, t = before ++ later ∧ first.run.Goes before (.ok a) ∧
        (next a).run.Goes later result := by
  rw [ExceptT.run_bind, Program.bind_eq_bind, Program.goes_bind]
  constructor
  · rintro ⟨before, later, given, rfl, goes, ends⟩
    cases given with
    | error error =>
      obtain ⟨rfl, rfl⟩ := ends
      exact .inl ⟨error, (List.append_nil before).symm ▸ goes, rfl⟩
    | ok a => exact .inr ⟨before, later, a, rfl, goes, ends⟩
  · rintro (⟨error, goes, rfl⟩ | ⟨before, later, a, rfl, goes, ends⟩)
    · exact ⟨t, [], .error error, (List.append_nil t).symm, goes, rfl, rfl⟩
    · exact ⟨before, later, .ok a, rfl, goes, ends⟩

/-! ### One namespace after the other -/

/-- The request for the list of the pods in a namespace, shadow pods apart. -/
def Pod.residentsRequest (space : String) : Request :=
  ⟨.get, .collection ⟨.pod, some space⟩, [("labelSelector", FabricLabel.nonShadowPods)], none⟩

/-- The pods of a namespace are asked for at an address whose path fits if the name does. -/
theorem Pod.fits_residents {space : String} (fits : Uri.Fits space 500) :
    Uri.Fits (⟨.pod, some space⟩ : Collection).path 700 :=
  Collection.fits_path (by decide) (by decide) fits

/-- The pods of a namespace are asked for if its name fits into an address. -/
theorem Pod.residentsRequest_isSendable {space : String} (fits : Uri.Fits space 500) :
    (residentsRequest space).IsSendable := by
  have short : (ApiCall.Selector.byLabels FabricLabel.nonShadowPods).IsShort := by
    rintro _ (⟨⟨⟩⟩ | ⟨⟨⟩⟩)
    decide
  exact Request.isSendable (fits_residents fits)
    (Nat.le_trans (Nat.add_le_add_left (Nat.add_le_add_right short.query_le 2) 700) (by decide))

/-- The list that is asked for holds the pods of the namespace that are not marked as shadow
pods. -/
theorem Pod.lists_residentsRequest {space : String} (fits : Uri.Fits space 500) {pod : Pod} :
    (residentsRequest space).Lists pod ↔ pod.metadata.namespace = some space ∧
      pod.metadata.label? "liqo.io/local-pod" ≠ some "true" := by
  obtain ⟨uri, isUri⟩ := residentsRequest_isSendable fits
  have unmarked (c : Char) (isIn : c ∈ (⟨.pod, some space⟩ : Collection).path.toList) :
      c ≠ '?' ∧ c ≠ '#' := Uri.ne_mark_of_inPath ((fits_residents fits).plain c isIn)
  have isQuery : uri.query = (ApiCall.Selector.byLabels FabricLabel.nonShadowPods).query :=
    Request.query_of_uri? rfl unmarked isUri
  obtain ⟨isLabels, isFields⟩ := ApiCall.Selector.parameter?_query isQuery
  have terms : Selector.parse? FabricLabel.nonShadowPods =
      some [⟨"liqo.io/local-pod", "true", false⟩] := by decide
  have admits : Selector.Admits FabricLabel.nonShadowPods
      (fun term => term.Holds pod.metadata.label?) ↔
      pod.metadata.label? "liqo.io/local-pod" ≠ some "true" := by
    simp only [Selector.Admits, terms, Option.some.injEq, exists_eq_left',
      List.forall_mem_singleton, SelectorTerm.Holds, Bool.false_eq_true, iff_false, ne_eq]
  rw [← admits]
  constructor
  · rintro ⟨_, _, other, isList, here, isOther, selects⟩
    cases isList
    cases isUri.symm.trans isOther
    exact ⟨(here.resolve_left (Option.some_ne_none _)).symm, selects.labels _ isLabels⟩
  · rintro ⟨here, selects⟩
    refine ⟨rfl, some space, uri, rfl, .inr here.symm, isUri, ?_, ?_⟩
    · rintro _ isText
      cases isLabels.symm.trans isText
      exact selects
    · rintro _ isText
      cases isFields.symm.trans isText

/-- Reads a list of pods. -/
def Pod.decodeList : Decoder (List Pod) := ApiCall.decodeList Pod.decode

/-- The pods of a namespace as they have been listed. -/
structure NamespaceListing where
  space : String
  reply : Reply
  pods : List Pod
  /-- The request makes an address, so it has been sent. -/
  sendable : (Pod.residentsRequest space).IsSendable
  answers : reply.read Pod.decodeList = .ok pods

/-- What has been asked for a listing. -/
def NamespaceListing.step (listing : NamespaceListing) : WorldStep :=
  WorldStep.sent (Pod.residentsRequest listing.space) listing.reply

namespace ClusterRead

/-- Whether the pods of namespaces were listed one namespace after the other, and with what result.
-/
inductive ListsInTurn : List String → Transcript world → Except ReadError (List Pod) → Prop
  /-- Each namespace was listed, and the pods are those listed for the first one, for the second one
  and so on. -/
  | all (listings : List NamespaceListing) :
      ListsInTurn (listings.map (·.space)) (listings.map (·.step))
        (.ok (listings.flatMap (·.pods)))
  /-- Listing one of them failed, and nothing was asked after that. -/
  | stops (listings : List NamespaceListing) {space : String} {rest : List String}
      {last : Transcript world} {error : ApiError}
      (fails : ApiCall.Fails Pod.decodeList (Pod.residentsRequest space) last error) :
      ListsInTurn (listings.map (·.space) ++ space :: rest) (listings.map (·.step) ++ last)
        (.error (explain "failed to list pods" error))

variable {space : String} {names : List String} {t : Transcript world}
  {result : Except ReadError (List Pod)}

/-- What is listed in turn after a listing. -/
theorem ListsInTurn.cons (listing : NamespaceListing) (lists : ListsInTurn names t result) :
    ListsInTurn (listing.space :: names) (listing.step :: t)
      (result.map (listing.pods ++ ·)) := by
  cases lists with
  | all listings => exact .all (listing :: listings)
  | stops listings fails => exact .stops (listing :: listings) fails

/-- What was listed in turn began with a listing, or it failed there. -/
theorem ListsInTurn.of_cons (lists : ListsInTurn (space :: names) t result) :
    (∃ error, ApiCall.Fails Pod.decodeList (Pod.residentsRequest space) t error ∧
      result = .error (explain "failed to list pods" error)) ∨
    ∃ listing : NamespaceListing, listing.space = space ∧ ∃ later rest,
      t = listing.step :: later ∧ ListsInTurn names later rest ∧
        result = rest.map (listing.pods ++ ·) := by
  generalize isCons : space :: names = spaces at lists
  cases lists with
  | all listings =>
    cases listings with
    | nil => cases isCons
    | cons listing listings =>
      cases isCons
      exact .inr ⟨listing, rfl, _, _, rfl, .all listings, rfl⟩
  | stops listings fails =>
    cases listings with
    | nil =>
      cases isCons
      exact .inl ⟨_, fails, rfl⟩
    | cons listing listings =>
      cases isCons
      exact .inr ⟨listing, rfl, _, _, rfl, .stops listings fails, rfl⟩

/-- The pods of namespaces are listed in turn. -/
theorem goes_podsOfNamespaces_iff :
    (podsOfNamespaces names).run.Goes t result ↔ ListsInTurn names t result := by
  induction names generalizing t result with
  | nil =>
    constructor
    · rintro ⟨rfl, rfl⟩
      exact .all []
    · intro lists
      generalize isNil : ([] : List String) = spaces at lists
      cases lists with
      | all listings =>
        cases listings with
        | nil => exact ⟨rfl, rfl⟩
        | cons => cases isNil
      | stops listings => simp at isNil
  | cons space rest ih =>
    have here : pods (some space) (.byLabels FabricLabel.nonShadowPods) =
        calling "failed to list pods"
          (ApiCall.exchange Pod.decodeList (Pod.residentsRequest space)) := rfl
    have behind (listed : List Pod) :
        (podsOfNamespaces rest >>= fun others => pure (listed ++ others) : ClusterRead _).run =
          Except.map (listed ++ ·) <$> (podsOfNamespaces rest).run := by
      rw [bind_pure_comp, ExceptT.run_map]
    simp only [podsOfNamespaces, goes_bind_iff, here, goes_calling_exchange_iff, behind,
      Program.goes_map, ih]
    constructor
    · rintro (⟨error, fails, rfl⟩ | ⟨_, later, listed, rfl, answered, others, more, rfl⟩)
      · rcases fails with ⟨_, _, _, _, _, isOk⟩ | ⟨fault, fails, same⟩
        · cases isOk
        · cases same
          exact .stops [] fails
      · rcases answered with ⟨reply, _, sendable, answers, rfl, same⟩ | ⟨_, _, isError⟩
        · cases same
          exact more.cons ⟨space, reply, listed, sendable, answers⟩
        · cases isError
    · intro lists
      rcases lists.of_cons with ⟨error, fails, rfl⟩ | ⟨listing, rfl, later, others, rfl, more, rfl⟩
      · exact .inl ⟨_, .inr ⟨error, fails, rfl⟩, rfl⟩
      · exact .inr ⟨[listing.step], later, listing.pods, rfl,
          .inl ⟨listing.reply, listing.pods, listing.sendable, listing.answers, rfl, rfl⟩, others,
          more, rfl⟩

end ClusterRead

/-! ### The marks of offloaded namespaces -/

namespace NamespaceOffloading

/-- The request for the list of all marks. -/
def listRequest : Request := ⟨.get, .collection ⟨.namespaceOffloading, none⟩, [], none⟩

/-- Reads a list of marks. -/
def decodeList : Decoder (List NamespaceOffloading) := ApiCall.decodeList decode

/-- The list of all marks is always asked for. -/
theorem listRequest_isSendable : listRequest.IsSendable := by
  have fits : Uri.Fits listRequest.endpoint.path 100 := by decide
  exact Request.isSendable fits (by decide)

/-- Whether names are those of the namespaces that are marked, each of them once and in ascending
order of their bytes. -/
structure Marks (offloadings : List NamespaceOffloading) (names : List String) : Prop where
  ascending : names.Pairwise fun name other => Text.utf8Bytes name < Text.utf8Bytes other
  each : ∀ name, name ∈ names ↔
    ∃ offloading ∈ offloadings, offloading.metadata.namespace = some name

/-- The namespaces that are marked are the ascending ones of the marks. -/
theorem marks_iff {offloadings : List NamespaceOffloading} {names : List String} :
    Marks offloadings names ↔
      names = ClusterRead.ascending (offloadings.filterMap (·.metadata.namespace)) := by
  have member (name : String) : name ∈ offloadings.filterMap (·.metadata.namespace) ↔
      ∃ offloading ∈ offloadings, offloading.metadata.namespace = some name := List.mem_filterMap
  constructor
  · intro marks
    have sorted : names.Pairwise (· < ·) :=
      marks.ascending.imp (Text.utf8Bytes_lt_iff _ _).1
    exact (ClusterRead.ascending_eq sorted fun name => by rw [marks.each, member]).symm
  · rintro rfl
    exact ⟨(ClusterRead.ascending_sorted _).imp (Text.utf8Bytes_lt_iff _ _).2,
      fun name => by rw [ClusterRead.mem_ascending, member]⟩

/-- No namespace that is marked has its name there twice. -/
theorem Marks.nodup {offloadings : List NamespaceOffloading} {names : List String}
    (marks : Marks offloadings names) : names.Nodup := by
  refine marks.ascending.imp fun {name other} lower same => ?_
  rw [same] at lower
  exact List.lt_irrefl _ lower

/-- Whether two lists of marks mark the same namespaces. -/
def MarkSame (offloadings others : List NamespaceOffloading) : Prop :=
  ∀ name, (∃ offloading ∈ offloadings, offloading.metadata.namespace = some name) ↔
    ∃ offloading ∈ others, offloading.metadata.namespace = some name

/-- Marks of the same namespaces have the same names. -/
theorem MarkSame.marks {offloadings others : List NamespaceOffloading} {names : List String}
    (same : MarkSame offloadings others) : Marks offloadings names ↔ Marks others names := by
  constructor <;> intro marks
  · exact ⟨marks.ascending, fun name => (marks.each name).trans (same name)⟩
  · exact ⟨marks.ascending, fun name => (marks.each name).trans (same name).symm⟩

end NamespaceOffloading

namespace ClusterInfo

open ClusterRead

/-- Whether the pods in offloaded namespaces were read as they should be. -/
inductive ReadsOffloaded : Transcript world → Except ReadError (List Pod) → Prop
  /-- The marks could not be listed, and nothing else was asked. -/
  | unmarked {reply : Reply} {error : ApiError}
      (refuses : reply.read NamespaceOffloading.decodeList = .error error) :
      ReadsOffloaded [WorldStep.sent NamespaceOffloading.listRequest reply]
        (.error (explain "failed to list NamespaceOffloadings" error))
  /-- The namespaces that are marked were listed in turn. -/
  | marked {reply : Reply} {offloadings : List NamespaceOffloading} {names : List String}
      {t : Transcript world} {result : Except ReadError (List Pod)}
      (answers : reply.read NamespaceOffloading.decodeList = .ok offloadings)
      (marks : NamespaceOffloading.Marks offloadings names) (lists : ListsInTurn names t result) :
      ReadsOffloaded (WorldStep.sent NamespaceOffloading.listRequest reply :: t) result

variable {t : Transcript world} {result : Except ReadError (List Pod)}

/-- The pods in offloaded namespaces are read as they should be. -/
theorem goes_readOffloadedNamespaces_iff :
    readOffloadedNamespaces.run.Goes t result ↔ ReadsOffloaded t result := by
  have marks : (ApiCall.list none .all : ApiCall (List NamespaceOffloading)) =
      ApiCall.exchange NamespaceOffloading.decodeList NamespaceOffloading.listRequest := rfl
  rw [readOffloadedNamespaces, marks, goes_bind_iff]
  simp only [goes_calling_exchange_iff, goes_podsOfNamespaces_iff]
  constructor
  · rintro (⟨error, fails, rfl⟩ | ⟨_, later, offloadings, rfl, answered, lists⟩)
    · rcases fails with ⟨_, _, _, _, _, isOk⟩ | ⟨fault, fails, same⟩
      · cases isOk
      · cases same
        cases fails with
        | unaddressed noAddress =>
          obtain ⟨uri, address⟩ := NamespaceOffloading.listRequest_isSendable
          cases noAddress.symm.trans address
        | refused _ refuses => exact .unmarked refuses
    · rcases answered with ⟨reply, _, _, answers, rfl, same⟩ | ⟨_, _, isError⟩
      · cases same
        exact .marked answers (NamespaceOffloading.marks_iff.2 rfl) lists
      · cases isError
  · intro reads
    have sendable := NamespaceOffloading.listRequest_isSendable
    cases reads with
    | unmarked refuses => exact .inl ⟨_, .inr ⟨_, .refused sendable refuses, rfl⟩, rfl⟩
    | marked answers marks lists =>
      obtain rfl := NamespaceOffloading.marks_iff.1 marks
      exact .inr ⟨[_], _, _, rfl, .inl ⟨_, _, sendable, answers, rfl, rfl⟩, lists⟩

/-- What is read does not depend on how the same namespaces are marked. -/
theorem ReadsOffloaded.remark {reply other : Reply} {offloadings others : List NamespaceOffloading}
    (answers : reply.read NamespaceOffloading.decodeList = .ok offloadings)
    (answersToo : other.read NamespaceOffloading.decodeList = .ok others)
    (same : NamespaceOffloading.MarkSame offloadings others)
    (reads : ReadsOffloaded (WorldStep.sent NamespaceOffloading.listRequest reply :: t) result) :
    ReadsOffloaded (WorldStep.sent NamespaceOffloading.listRequest other :: t) result := by
  generalize isCons : WorldStep.sent NamespaceOffloading.listRequest reply :: t = whole at reads
  cases reads with
  | unmarked refuses =>
    cases isCons
    cases answers.symm.trans refuses
  | marked answersFirst marks lists =>
    cases isCons
    cases answers.symm.trans answersFirst
    exact .marked answersToo (same.marks.1 marks) lists

end ClusterInfo

/-! ### No pod twice -/

/-- What tells pods apart: the namespace and the name. -/
def Pod.identity (pod : Pod) : Option String × Option String :=
  (pod.metadata.namespace, pod.metadata.name)

/-- Whether every list of the pods of a namespace holds pods of that namespace, and none twice. -/
def Transcript.ListsOwn (t : Transcript world) : Prop :=
  ∀ e ∈ Transcript.sent t, ∀ space pods, e.request = Pod.residentsRequest space →
    e.reply.read Pod.decodeList = .ok pods →
      (∀ pod ∈ pods, pod.metadata.namespace = some space) ∧ (pods.map Pod.identity).Nodup

/-- Pods that are listed in turn, from different namespaces, are different. -/
theorem ClusterRead.ListsInTurn.nodup {names : List String} {t : Transcript world}
    {pods : List Pod} (lists : ListsInTurn names t (.ok pods)) (once : names.Nodup)
    (own : Transcript.ListsOwn t) : (pods.map Pod.identity).Nodup := by
  generalize isOk : (.ok pods : Except ReadError (List Pod)) = result at lists
  cases lists with
  | stops => cases isOk
  | all listings =>
    cases isOk
    have each (listing : NamespaceListing) (member : listing ∈ listings) :
        (∀ pod ∈ listing.pods, pod.metadata.namespace = some listing.space) ∧
          (listing.pods.map Pod.identity).Nodup :=
      own _ (Transcript.mem_sent_of_mem (List.mem_map_of_mem member)) _ _ rfl listing.answers
    rw [List.map_flatMap, List.nodup_flatMap]
    refine ⟨fun listing member => (each listing member).2, ?_⟩
    refine (List.pairwise_map.1 once).imp_of_mem fun {first second} isFirst isSecond differs => ?_
    intro identity inFirst inSecond
    obtain ⟨pod, isPod, rfl⟩ := List.mem_map.1 inFirst
    obtain ⟨other, isOther, same⟩ := List.mem_map.1 inSecond
    have here := (each first isFirst).1 pod isPod
    have there := (each second isSecond).1 other isOther
    have spaces : other.metadata.namespace = pod.metadata.namespace := congrArg Prod.fst same
    rw [here, there, Option.some.injEq] at spaces
    exact differs spaces.symm

namespace ClusterInfo

open ClusterRead

/-- No pod is read twice where the lists of different namespaces hold different pods. -/
theorem ReadsOffloaded.nodup {t : Transcript world} {pods : List Pod}
    (reads : ReadsOffloaded t (.ok pods)) (own : Transcript.ListsOwn t) :
    (pods.map Pod.identity).Nodup := by
  generalize isOk : (.ok pods : Except ReadError (List Pod)) = result at reads
  cases reads with
  | unmarked => cases isOk
  | marked answers marks lists =>
    cases isOk
    exact lists.nodup marks.nodup fun e member => own e (List.mem_cons_of_mem _ member)

/-- The set of the pods in offloaded namespaces is filled with the pods that are read. -/
theorem goes_makeSet {info : ClusterInfo} {resolvers : Resolvers} {clusterId : String}
    {t : Transcript world} {set : AddressSet}
    (goes : ((resolvers.makeSet clusterId .virtualClusterLocal).run.answeredBy info.read).Goes t
      (.ok set)) :
    ∃ pods, (info.read (.pods .inOffloadedNamespaces)).Goes t (.ok pods) ∧
      set = podSet "vclocal" pods := by
  obtain ⟨before, later, answer, rfl, reads, filled⟩ := Program.goes_bind.1 goes
  cases answer with
  | error error => cases filled.2
  | ok pods =>
    obtain ⟨rfl, same⟩ := filled
    cases same
    exact ⟨pods, (List.append_nil before).symm ▸ reads, rfl⟩

/-- The pods in offloaded namespaces are listed once per namespace. What is asked, and what it ends
with, is the list of the marks and then one list of pods for each namespace that is marked, in
ascending order, up to the first failure; that list is asked for if the name of the namespace fits
into an address, and holds the pods there that are not marked as shadow pods. It is the same however
the same namespaces are marked. So the set of these pods holds their addresses, each as often as
pods in these lists have it; and where the lists of different namespaces hold different pods, no pod
counts twice. -/
theorem read_offloaded (info : ClusterInfo) :
    (∀ t result, (info.read (.pods .inOffloadedNamespaces)).Goes t result ↔
      ReadsOffloaded t result) ∧
    (∀ space, Uri.Fits space 500 → (Pod.residentsRequest space).IsSendable ∧
      ∀ pod : Pod, (Pod.residentsRequest space).Lists pod ↔
        pod.metadata.namespace = some space ∧
          pod.metadata.label? "liqo.io/local-pod" ≠ some "true") ∧
    (∀ (reply other : Reply) offloadings others,
      reply.read NamespaceOffloading.decodeList = .ok offloadings →
      other.read NamespaceOffloading.decodeList = .ok others →
      NamespaceOffloading.MarkSame offloadings others →
      ∀ t result,
        (info.read (.pods .inOffloadedNamespaces)).Goes
            (WorldStep.sent NamespaceOffloading.listRequest reply :: t) result ↔
          (info.read (.pods .inOffloadedNamespaces)).Goes
            (WorldStep.sent NamespaceOffloading.listRequest other :: t) result) ∧
    ∀ (resolvers : Resolvers) clusterId t set,
      ((resolvers.makeSet clusterId .virtualClusterLocal).run.answeredBy info.read).Goes t
          (.ok set) →
        ∃ pods, ReadsOffloaded t (.ok pods) ∧ set.name = "vclocal" ∧ set.Lists pods ∧
          (Transcript.ListsOwn t → (pods.map Pod.identity).Nodup) := by
  have reads (t : Transcript world) (result : Except ReadError (List Pod)) :
      (info.read (.pods .inOffloadedNamespaces)).Goes t result ↔ ReadsOffloaded t result :=
    goes_readOffloadedNamespaces_iff
  refine ⟨reads, fun space fits => ⟨Pod.residentsRequest_isSendable fits, fun pod =>
    Pod.lists_residentsRequest fits⟩, ?_, ?_⟩
  · intro reply other offloadings others answers answersToo same t result
    rw [reads, reads]
    exact ⟨.remark answers answersToo same, .remark answersToo answers fun name => (same name).symm⟩
  · intro resolvers clusterId t set goes
    obtain ⟨pods, readsPods, rfl⟩ := goes_makeSet goes
    have whole := (reads t _).1 readsPods
    exact ⟨pods, whole, rfl, podSet_lists _ pods, whole.nodup⟩

/-- A list as it is replied. -/
def repliedList (items : List Json) : Reply := ⟨200, .json (.obj [("items", .arr items)])⟩

/-- The mark of a namespace, or one that stands nowhere. -/
def markOf (space : Option String) : NamespaceOffloading :=
  ⟨{ Metadata.empty with «namespace» := space }, none, none⟩

/-- A pod of a namespace. -/
def webOf (space : String) : Pod :=
  ⟨{ Metadata.empty with name := some "web", «namespace» := some space }, none, none⟩

/-- Listing a namespace with one pod. -/
def listingOf (space : String) : WorldStep :=
  WorldStep.sent (Pod.residentsRequest space) (repliedList [(webOf space).encode])

/-- Two namespaces are marked, one of them twice and before the other; one mark is nowhere. What is
read is what is read where each of the namespaces is marked once. -/
theorem read_offloaded_repeated :
    let marks : Reply := repliedList [(markOf (some "shop")).encode, (markOf (some "bank")).encode,
      (markOf none).encode, (markOf (some "shop")).encode]
    let marksToo : Reply :=
      repliedList [(markOf (some "bank")).encode, (markOf (some "shop")).encode]
    let reading := standard.read (.pods .inOffloadedNamespaces)
    reading.Goes (WorldStep.sent NamespaceOffloading.listRequest marks ::
        [listingOf "bank", listingOf "shop"]) (.ok [webOf "bank", webOf "shop"]) ∧
      reading.Goes (WorldStep.sent NamespaceOffloading.listRequest marksToo ::
        [listingOf "bank", listingOf "shop"]) (.ok [webOf "bank", webOf "shop"]) := by
  intro marks marksToo reading
  have answers : marks.read NamespaceOffloading.decodeList =
      .ok [markOf (some "shop"), markOf (some "bank"), markOf none, markOf (some "shop")] := by
    decide +kernel
  have answersToo : marksToo.read NamespaceOffloading.decodeList =
      .ok [markOf (some "bank"), markOf (some "shop")] := by decide +kernel
  have same : NamespaceOffloading.MarkSame
      [markOf (some "shop"), markOf (some "bank"), markOf none, markOf (some "shop")]
      [markOf (some "bank"), markOf (some "shop")] := by
    intro name
    simp only [markOf, List.mem_cons, List.not_mem_nil, or_false, exists_eq_or_imp,
      exists_eq_left, reduceCtorEq, false_or]
    tauto
  have isMarked : NamespaceOffloading.Marks [markOf (some "bank"), markOf (some "shop")]
      ["bank", "shop"] := NamespaceOffloading.marks_iff.2 (by decide)
  have lists : ListsInTurn ["bank", "shop"] [listingOf "bank", listingOf "shop"]
      (.ok [webOf "bank", webOf "shop"]) :=
    .all [
      ⟨"bank", _, [webOf "bank"], Pod.residentsRequest_isSendable (by decide), by decide +kernel⟩,
      ⟨"shop", _, [webOf "shop"], Pod.residentsRequest_isSendable (by decide), by decide +kernel⟩]
  obtain ⟨reads, -, remarked, -⟩ := read_offloaded standard
  have goes := (reads _ _).2 (.marked answersToo isMarked lists)
  exact ⟨(remarked marks marksToo _ _ answers answersToo same _ _).2 goes, goes⟩

end ClusterInfo

end PeerFirewall
