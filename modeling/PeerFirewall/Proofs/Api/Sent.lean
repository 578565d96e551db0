import PeerFirewall.Api.Client
import PeerFirewall.Proofs.Transcript

/-!
# What a program sends

The requests in a transcript, with their replies, are what a program has sent. A call to the API
server sends its request, if it has an address, and ends with what it reads from the reply
(`ApiCall.goes_send`).
-/
namespace PeerFirewall

/-- A request with its reply. -/
structure Sent where
  request : Request
  reply : Reply

/-- A question to the world with its answer. -/
abbrev WorldStep := (question : world.Question) × world.Answer question

namespace WorldStep

/-- A request was sent and answered. -/
def sent (request : Request) (reply : Reply) : WorldStep := ⟨WorldQuestion.send request, reply⟩

/-- The clock was read. -/
def clock (now : Time.Instant) : WorldStep := ⟨WorldQuestion.clock, now⟩

end WorldStep

/-- The requests in a transcript, with their replies. -/
def Transcript.sent (t : Transcript world) : List Sent :=
  t.filterMap fun step =>
    match step with
    | ⟨.send request, reply⟩ => some ⟨request, reply⟩
    | ⟨.clock, _⟩ | ⟨.look _, _⟩ => none

namespace Transcript

variable {t : Transcript world}

@[simp] theorem sent_nil : sent [] = [] := rfl

@[simp] theorem sent_cons_clock (now : Time.Instant) :
    sent (WorldStep.clock now :: t) = sent t := rfl

@[simp] theorem sent_cons_sent (request : Request) (reply : Reply) :
    sent (WorldStep.sent request reply :: t) = ⟨request, reply⟩ :: sent t := rfl

/-- What is sent in two transcripts one after the other. -/
@[simp] theorem sent_append (first second : Transcript world) :
    sent (first ++ second) = sent first ++ sent second := List.filterMap_append

/-- What is sent has been asked. -/
theorem mem_of_mem_sent {e : Sent} (member : e ∈ sent t) :
    WorldStep.sent e.request e.reply ∈ t := by
  obtain ⟨⟨question, answer⟩, isIn, same⟩ := List.mem_filterMap.1 member
  cases question with
  | send request =>
    cases same
    exact isIn
  | clock => cases same
  | look query => cases same

/-- A request that has been asked is sent. -/
theorem mem_sent_of_mem {request : Request} {reply : Reply}
    (member : WorldStep.sent request reply ∈ t) : ⟨request, reply⟩ ∈ sent t :=
  List.mem_filterMap.2 ⟨_, member, rfl⟩

/-- What is sent by a program that asks certain questions only is permitted. -/
theorem sent_of_asks {α : Type} {permitted : WorldQuestion → Prop} {p : Program world α}
    (asks : p.Asks permitted) {a : α} (goes : p.Goes t a) :
    ∀ e ∈ sent t, permitted (.send e.request) :=
  fun _ member => asks.of_goes goes _ (mem_of_mem_sent member)

end Transcript

namespace ApiCall

variable {α : Type} {t : Transcript world}

/-- A call sends its request and reads the reply, or there is no address to send it to. -/
theorem goes_send {read : Reply → Except ApiError α} {request : Request}
    {result : Except ApiError α} (goes : (send read request).run.Goes t result) :
    (∃ fault, request.uri? = .error fault ∧ t = [] ∧
      result = .error (.unsent (.badAddress fault))) ∨
    ∃ reply, t = [WorldStep.sent request reply] ∧ result = read reply := by
  unfold send at goes
  split at goes
  · obtain ⟨rfl, rfl⟩ := goes
    exact .inl ⟨_, ‹_›, rfl, rfl⟩
  · obtain ⟨reply, _, rfl, rfl, rfl⟩ := goes
    exact .inr ⟨reply, rfl, rfl⟩

/-- A call whose request has an address goes as it is replied to. -/
theorem send_goes {read : Reply → Except ApiError α} {request : Request} {uri : Uri}
    (address : request.uri? = .ok uri) (reply : Reply) :
    (send read request).run.Goes [WorldStep.sent request reply] (read reply) := by
  rw [send, address]
  exact ⟨reply, [], rfl, rfl, rfl⟩

/-- A call for an object by its name does what the call does, or there is no name. -/
theorem goes_byName {name : String} {call : ApiCall α} {result : Except ApiError α}
    (goes : (byName name call).run.Goes t result) :
    (name = "" ∧ t = [] ∧ result = .error (.unsent .emptyName)) ∨ call.run.Goes t result := by
  unfold byName at goes
  split at goes
  · obtain ⟨rfl, rfl⟩ := goes
    exact .inl ⟨‹_›, rfl, rfl⟩
  · exact .inr goes

/-- A call for an object by its name sends its request and reads the reply, or it sends nothing and
fails. -/
theorem goes_byName_send {name : String} {read : Reply → Except ApiError α} {request : Request}
    {result : Except ApiError α} (goes : (byName name (send read request)).run.Goes t result) :
    (t = [] ∧ ∃ fault, result = .error (.unsent fault)) ∨
      ∃ reply, t = [WorldStep.sent request reply] ∧ result = read reply := by
  rcases goes_byName goes with ⟨_, rfl, rfl⟩ | goes
  · exact .inl ⟨rfl, _, rfl⟩
  · rcases goes_send goes with ⟨_, _, rfl, rfl⟩ | sent
    · exact .inl ⟨rfl, _, rfl⟩
    · exact .inr sent

/-- The request that reads an object. -/
def readRequest (α : Type) [Resource α] («namespace» name : String) : Request :=
  ⟨.get, .object (objects α (some «namespace»)) name, [], none⟩

/-- A reading sends its request and reads the reply, or it sends nothing and fails. -/
theorem goes_get? [resource : Resource α] {«namespace» name : String}
    {found : Except ApiError (Option α)}
    (goes : (get? (some «namespace») name : ApiCall (Option α)).run.Goes t found) :
    (t = [] ∧ ∃ fault, found = .error (.unsent fault)) ∨
      ∃ reply, t = [WorldStep.sent (readRequest α «namespace» name) reply] ∧
        found = absenceIsNone (reply.read resource.decode) := by
  obtain ⟨result, gets, rfl⟩ := Program.goes_map.1 goes
  have sends : (byName name (send (Reply.read resource.decode)
      (readRequest α «namespace» name))).run.Goes t result := gets
  rcases goes_byName_send sends with ⟨rfl, fault, rfl⟩ | ⟨reply, rfl, rfl⟩
  · exact .inl ⟨rfl, fault, rfl⟩
  · exact .inr ⟨reply, rfl, rfl⟩

/-- A reading of an object that has a name and an address goes as it is replied to. -/
theorem get?_goes [resource : Resource α] {«namespace» name : String} {uri : Uri}
    (named : name ≠ "") (address : (readRequest α «namespace» name).uri? = .ok uri)
    (reply : Reply) :
    (get? (some «namespace») name : ApiCall (Option α)).run.Goes
      [WorldStep.sent (readRequest α «namespace» name) reply]
      (absenceIsNone (reply.read resource.decode)) := by
  have sends : (byName name (send (Reply.read resource.decode)
      (readRequest α «namespace» name))).run.Goes
        [WorldStep.sent (readRequest α «namespace» name) reply]
        (reply.read resource.decode) := by
    rw [byName, if_neg named]
    exact send_goes address reply
  exact Program.goes_map.2 ⟨_, sends, rfl⟩

/-- A reading that finds a value has been answered with it. -/
theorem eq_of_absenceIsNone {result : Except ApiError α} {a : α}
    (found : absenceIsNone result = .ok (some a)) : result = .ok a := by
  cases result with
  | ok b =>
    cases found
    rfl
  | error error =>
    cases error with
    | refused refusal =>
      simp only [absenceIsNone] at found
      split at found <;> cases found
    | undecodable fault => cases found
    | unsent fault => cases found

/-- A reading that finds nothing, or fails, has been answered with an error. -/
theorem ne_ok_of_absenceIsNone {result : Except ApiError α}
    (nothing : ∀ a, absenceIsNone result ≠ .ok (some a)) (a : α) : result ≠ .ok a := by
  rintro rfl
  exact nothing a rfl

end ApiCall

end PeerFirewall
