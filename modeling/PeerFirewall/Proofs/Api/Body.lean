import PeerFirewall.Api.Reply

/-!
# The bodies of replies

A body stands for one JSON value, whether it is given as text or as that value. Whatever is read
from a reply is decoded from this value (`Reply.decode_of_read`).
-/
namespace PeerFirewall

/-- The JSON value that a body stands for. -/
def Content.value : Content → Json
  | json value => value
  | text raw => (Json.read raw).1

/-- A result whose errors are changed is a value just where the result is one. -/
theorem mapError_eq_ok {ε δ α : Type} {f : ε → δ} {result : Except ε α} {a : α} :
    result.mapError f = .ok a ↔ result = .ok a := by
  cases result with
  | error error => exact ⟨nofun, nofun⟩
  | ok b =>
    constructor <;>
    · intro same
      cases same
      rfl

/-- What is read from a text is decoded from the value at its front. -/
theorem Decoder.decode_of_readText {α : Type} {decode : Decoder α} {text : String} {a : α}
    (reads : decode.readText text = .ok a) : decode (Json.read text).1 = .ok a := by
  simp only [readText] at reads
  split at reads
  · cases reads
  · rename_i b decoded
    split at reads
    · cases reads
      exact decoded
    · cases reads

/-- What is read from a body is decoded from its value. -/
theorem Content.decode_of_read {α : Type} {decode : Decoder α} {content : Content} {a : α}
    (reads : content.read decode = .ok a) : decode content.value = .ok a := by
  cases content with
  | json value => exact mapError_eq_ok.1 reads
  | text raw => exact Decoder.decode_of_readText reads

/-- What is read from a reply that reports no failure is decoded from the value of its body. -/
theorem Reply.decode_of_read {α : Type} {decode : Decoder α} {reply : Reply} {a : α}
    (reads : reply.read decode = .ok a) :
    reply.isFailure = false ∧ decode reply.content.value = .ok a := by
  unfold Reply.read at reads
  split at reads
  · cases reads
  · exact ⟨Bool.eq_false_iff.2 ‹_›, Content.decode_of_read (mapError_eq_ok.1 reads)⟩

end PeerFirewall
