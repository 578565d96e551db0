import PeerFirewall.Json.Record

/-!
# Statuses

A status says how a request ended. It may stand for the object in the reply to a deletion, and a
review may hold one. Nothing in it matters but that it is sound.
-/
namespace PeerFirewall.Status

/-- Checks one of the causes that a status lists. -/
def checkCause : Decoder Unit :=
  ((fun (_ _ _ : String) => ())
  <$> Record.fieldWithDefault "reason" Decoder.string ""
  <*> Record.fieldWithDefault "message" Decoder.string ""
  <*> Record.fieldWithDefault "field" Decoder.string "").decode "StatusCause"

/-- Checks the details of a status. -/
def checkDetails : Decoder Unit :=
  ((fun (_ _ _ _ : String) (_ : List Unit) (_ : UInt32) => ())
  <$> Record.fieldWithDefault "name" Decoder.string ""
  <*> Record.fieldWithDefault "group" Decoder.string ""
  <*> Record.fieldWithDefault "kind" Decoder.string ""
  <*> Record.fieldWithDefault "uid" Decoder.string ""
  <*> Record.fieldWithDefault "causes" (Decoder.list checkCause) []
  <*> Record.fieldWithDefault "retryAfterSeconds" Decoder.uint32 0).decode "StatusDetails"

/-- Checks a status. -/
def check : Decoder Unit :=
  ((fun (_ : Option Unit) (_ : UInt16) (_ _ : String) (_ : Option Unit) => ())
  <$> Record.optionalField "status" (Decoder.choice [("Success", ()), ("Failure", ())])
  <*> Record.fieldWithDefault "code" Decoder.uint16 0
  <*> Record.fieldWithDefault "message" Decoder.string ""
  <*> Record.fieldWithDefault "reason" Decoder.string ""
  <*> Record.optionalField "details" checkDetails).decode "Status"

end PeerFirewall.Status
