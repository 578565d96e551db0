import PeerFirewall.Admission.Service
import PeerFirewall.Proofs.Api.Body
import PeerFirewall.Proofs.Json.Record

/-!
# Answers and the requests they belong to

The API server gives every request for admission an identifier and takes an answer only under the
same one. This module compares the two as they stand in the texts that are sent: where a request
states its identifier (`AdmissionRequest.statedUid?_of_decode`) and under which one it is answered,
by the way in which it is judged (`Admission.Judges`). The answer to a request about a policy
belongs to it, however it is judged; the answer to any other request has no identifier
(`Admission.serve_identifies`).
-/
namespace PeerFirewall

namespace AdmissionRequest

/-- The value in the place of the identifier of a request: the member of that name, or the first
element where an array stands for the request. -/
def statedUid? : Json → Option Json
  | .arr elements => elements.head?
  | value => value.get? "uid"

/-- The identifier is read from its place. -/
theorem uid_relates :
    (Record.field "uid" Decoder.string).Relates fun value uid =>
      statedUid? value = some (.str uid) where
  members members uid reads := by
    rcases Record.fieldOr_of_reads reads with ⟨value, named, readable⟩ | ⟨_, absent⟩
    · rw [statedUid?, named, Decoder.string_eq_ok readable]
      exact nofun
    · cases absent
  elements elements uid reads := by
    match elements with
    | [] => cases reads
    | first :: rest =>
      have text := Decoder.string_eq_ok (Reading.ofResult_eq_read.1 reads)
      rw [statedUid?, List.head?_cons, text]

/-- A request that is read has the identifier that it states. -/
theorem statedUid?_of_decode {value : Json} {request : AdmissionRequest}
    (reads : decode value = .ok request) : statedUid? value = some (.str request.uid) := by
  have relates : fields.Relates fun value request =>
      statedUid? value = some (.str request.uid) := by
    -- The identifier is the first of the fields; the others do not matter.
    repeat refine Record.Relates.seq ?_
    exact uid_relates.map fun _ _ states _ _ _ _ _ _ _ _ _ _ _ _ _ _ => states
  exact relates.decode reads

end AdmissionRequest

namespace AdmissionReview

/-- The identifier of what a review asks, as the review states it. -/
def askedUid? (review : Json) : Option Json :=
  (review.get? "request").bind AdmissionRequest.statedUid?

/-- A review that is read and asks states the identifier of what it asks. -/
theorem askedUid?_of_decode {value : Json} {review : AdmissionReview} {request : AdmissionRequest}
    (reads : decode value = .ok review) (asks : review.request = some request) :
    askedUid? value = some (.str request.uid) := by
  unfold decode at reads
  cases content : contentFields.decodeWhole "AdmissionReview" 0 value with
  | error error =>
    rw [content] at reads
    cases reads
  | ok found =>
    have isFound : found = review.request := by
      rw [content] at reads
      cases types : typeFields.decodeAgain "AdmissionReview" value with
      | error error =>
        simp [types, bind, Except.bind] at reads
      | ok names =>
        simp only [types, bind, Except.bind, pure, Except.pure, Except.ok.injEq] at reads
        rw [← reads]
    subst isFound
    cases value with
    | obj members =>
      have ⟨_, readsFields⟩ := Record.readMembers_eq_read.1 (Record.finish_eq_ok.1 content)
      simp only [contentFields, Record.reads_seq, Record.reads_map] at readsFields
      obtain ⟨_, ⟨found, readsRequest, rfl⟩, _, _, same⟩ := readsFields
      rw [show found = some request from same.trans asks] at readsRequest
      obtain ⟨stated, named, readable⟩ := Record.get?_of_optionalField readsRequest
      rw [askedUid?, named, Option.bind_some, AdmissionRequest.statedUid?_of_decode readable]
    | _ => cases content

end AdmissionReview

namespace AdmissionResponse

/-- The identifier under which a review answers. -/
def answeredUid? (answer : Json) : Option Json :=
  (answer.get? "response").bind (·.get? "uid")

/-- An answer is written under its identifier. -/
theorem answeredUid?_encode (response : AdmissionResponse) :
    answeredUid? response.encode = some (.str response.uid) := rfl

end AdmissionResponse

namespace Admission

variable {resolvers : Resolvers}

/-- What is said to a request about a policy. -/
inductive Judges (resolvers : Resolvers) (request : AdmissionRequest) : Verdict → Prop
  | objectless (absent : request.object = none) :
    Judges resolvers request (.denied "admission request missing 'object")
  | contentless {object : Json} (present : request.object = some object)
      (absent : object.get? "spec" = none) :
    Judges resolvers request (.denied "admission request missing 'spec'")
  | unreadable {object content : Json} {error : DecodeError}
      (present : request.object = some object) (holds : object.get? "spec" = some content)
      (unreadable : PolicySpec.decode content = .error error) :
    Judges resolvers request (.denied error.message)
  | faulty {object content : Json} {spec : PolicySpec} {fault : RuleFault}
      (present : request.object = some object) (holds : object.get? "spec" = some content)
      (readable : PolicySpec.decode content = .ok spec)
      (faulty : resolvers.validate spec.rules = .error fault) :
    Judges resolvers request (.denied fault.message)
  | sound {object content : Json} {spec : PolicySpec}
      (present : request.object = some object) (holds : object.get? "spec" = some content)
      (readable : PolicySpec.decode content = .ok spec)
      (valid : resolvers.validate spec.rules = .ok ()) :
    Judges resolvers request .allowed

/-- A request is judged by whether there is an objection. -/
theorem judges_objection (resolvers : Resolvers) (request : AdmissionRequest) :
    Judges resolvers request
      (match objection? resolvers request with
        | none => .allowed
        | some message => .denied message) := by
  unfold objection?
  cases present : request.object with
  | none => exact .objectless present
  | some object =>
    cases holds : object.get? "spec" with
    | none => simpa only [holds] using .contentless present holds
    | some content =>
      cases readable : PolicySpec.decode content with
      | error error => simpa only [holds, readable] using .unreadable present holds readable
      | ok spec =>
        cases valid : resolvers.validate spec.rules with
        | error fault =>
          simpa only [holds, readable, valid] using .faulty present holds readable valid
        | ok => simpa only [holds, readable, valid] using .sound present holds readable valid

/-- How a request is answered: under its own identifier where it is about a policy, and under none
where it is not. -/
inductive Settles (resolvers : Resolvers) (review : AdmissionReview) (request : AdmissionRequest) :
    AdmissionResponse → Prop
  | policy {verdict : Verdict} (isPolicy : isPolicy request.kind = true)
      (judged : Judges resolvers request verdict) :
    Settles resolvers review request ⟨review.apiVersion, review.kind, request.uid, verdict⟩
  | foreign (isForeign : isPolicy request.kind = false) :
    Settles resolvers review request ⟨"admission.k8s.io/v1beta1", "AdmissionReview", "",
      .invalid ("unsupported resource type: " ++ request.kind.group ++ "." ++
        request.kind.version ++ "." ++ request.kind.kind)⟩

/-- Every request is answered in one of these ways. -/
theorem settles_judge (resolvers : Resolvers) (review : AdmissionReview)
    (request : AdmissionRequest) :
    Settles resolvers review request (judge resolvers review request) := by
  unfold judge
  split
  · exact .policy ‹_› (judges_objection resolvers request)
  · exact .foreign (Bool.eq_false_iff.2 ‹_›)

/-- An answer has the identifier of its request just where that is about a policy, or has none. -/
theorem Settles.uid_eq_iff {review : AdmissionReview} {request : AdmissionRequest}
    {response : AdmissionResponse} (settles : Settles resolvers review request response) :
    response.uid = request.uid ↔ isPolicy request.kind = true ∨ request.uid = "" := by
  cases settles with
  | policy isPolicy _ => simp only [isPolicy, true_or]
  | foreign isForeign => simp only [isForeign, Bool.false_eq_true, false_or, eq_comm]

/-- A review that is posted to the root, can be read and asks something is answered with the
judgement of what it asks. -/
theorem serve_eq_judge {posted : HttpRequest} {review : AdmissionReview}
    {request : AdmissionRequest} (isPost : posted.method = "POST")
    (isRoot : pathOf posted.path = "/")
    (reads : AdmissionReview.decode.readText posted.body = .ok review)
    (asks : review.request = some request) :
    serve resolvers posted = ⟨200, some (judge resolvers review request).encode⟩ := by
  simp only [serve, isPost, isRoot, and_self, if_true, answer, reads, asks]

/-- Every review that is posted, can be read and asks something is answered, in one of the ways of
`Settles`. The identifier that it states is the one of its request as it is read; the identifier
under which the answer is written is the same just where the request is about a policy, whether the
answer allows or denies it for whatever reason, or where it states an empty one. -/
theorem serve_identifies (resolvers : Resolvers) (posted : HttpRequest)
    {review : AdmissionReview} {request : AdmissionRequest} (isPost : posted.method = "POST")
    (isRoot : pathOf posted.path = "/")
    (reads : AdmissionReview.decode.readText posted.body = .ok review)
    (asks : review.request = some request) :
    ∃ response, serve resolvers posted = ⟨200, some response.encode⟩ ∧
      Settles resolvers review request response ∧
      AdmissionReview.askedUid? (Json.read posted.body).1 = some (.str request.uid) ∧
      (AdmissionResponse.answeredUid? response.encode =
          AdmissionReview.askedUid? (Json.read posted.body).1 ↔
        isPolicy request.kind = true ∨ request.uid = "") := by
  have settles := settles_judge resolvers review request
  have asked : AdmissionReview.askedUid? (Json.read posted.body).1 = some (.str request.uid) :=
    AdmissionReview.askedUid?_of_decode (Decoder.decode_of_readText reads) asks
  refine ⟨_, serve_eq_judge isPost isRoot reads asks, settles, asked, ?_⟩
  rw [asked, AdmissionResponse.answeredUid?_encode, Option.some.injEq, Json.str.injEq,
    settles.uid_eq_iff]

deriving instance DecidableEq for AdmissionRequest, AdmissionReview

/-- A request that asks, under the identifier 7, whether an object of some kind may be created, and
does not hold the object. -/
def bareRequest (group kind : String) : Json :=
  .obj [
    ("uid", .str "7"),
    ("kind", .obj [("group", .str group), ("version", .str "v1"), ("kind", .str kind)]),
    ("resource", .obj [("group", .str group), ("version", .str "v1"), ("resource", .str "any")]),
    ("operation", .str "CREATE"),
    ("userInfo", .obj [])]

/-- The review of such a request, as it is posted. -/
def bareReview (group kind : String) : HttpRequest :=
  ⟨"POST", "/", (Json.obj [
    ("apiVersion", .str "admission.k8s.io/v1"),
    ("kind", .str "AdmissionReview"),
    ("request", bareRequest group kind)]).write⟩

/-- A policy that is not held by the request is denied under the identifier of the request. -/
theorem serve_identifies_policy :
    let posted := bareReview "connectivity.liqo.io" "PeeringConnectivity"
    let request : AdmissionRequest :=
      ⟨"7", ⟨"connectivity.liqo.io", "v1", "PeeringConnectivity"⟩, none⟩
    let review : AdmissionReview := ⟨"admission.k8s.io/v1", "AdmissionReview", some request⟩
    (posted.method = "POST" ∧ pathOf posted.path = "/" ∧
      AdmissionReview.decode.readText posted.body = .ok review ∧
      review.request = some request) ∧
    ∃ response : AdmissionResponse, serve ⟨[], []⟩ posted = ⟨200, some response.encode⟩ ∧
      response.verdict = .denied "admission request missing 'object" ∧
      AdmissionResponse.answeredUid? response.encode = some (.str "7") := by
  intro posted request review
  have isRoot : pathOf posted.path = "/" := by decide +kernel
  have reads : AdmissionReview.decode.readText posted.body = .ok review := by decide +kernel
  have isPolicy : isPolicy request.kind = true := by decide +kernel
  refine ⟨⟨rfl, isRoot, reads, rfl⟩, ?_⟩
  obtain ⟨response, served, settles, asked, same⟩ :=
    serve_identifies ⟨[], []⟩ posted rfl isRoot reads rfl
  refine ⟨response, served, ?_, (same.2 (.inl isPolicy)).trans asked⟩
  cases settles with
  | policy _ judged =>
    cases judged with
    | objectless => rfl
    | contentless present | unreadable present | faulty present | sound present => cases present
  | foreign isForeign => cases isPolicy.symm.trans isForeign

/-- A request about an object of another kind is answered, but not under its identifier. -/
theorem serve_identifies_foreign :
    ¬ ∀ (resolvers : Resolvers) (posted : HttpRequest) (review : AdmissionReview)
      (request : AdmissionRequest) (answer : Json), posted.method = "POST" →
        pathOf posted.path = "/" → AdmissionReview.decode.readText posted.body = .ok review →
        review.request = some request → serve resolvers posted = ⟨200, some answer⟩ →
        AdmissionResponse.answeredUid? answer = some (.str request.uid) := by
  intro belongs
  have isRoot : pathOf (bareReview "" "Pod").path = "/" := by decide +kernel
  have reads : AdmissionReview.decode.readText (bareReview "" "Pod").body =
      .ok ⟨"admission.k8s.io/v1", "AdmissionReview", some ⟨"7", ⟨"", "v1", "Pod"⟩, none⟩⟩ := by
    decide +kernel
  have same := belongs ⟨[], []⟩ _ _ _ _ rfl isRoot reads rfl (serve_eq_judge rfl isRoot reads rfl)
  revert same
  decide +kernel

end Admission

end PeerFirewall
