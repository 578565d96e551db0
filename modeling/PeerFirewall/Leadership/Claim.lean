import PeerFirewall.Time.Instant

/-!
# Who may write

Of several instances of the controller one at a time may write: the one whose claim on the lease
has not expired.
-/
namespace PeerFirewall

open Time (Instant)

/-- A claim on the lease. -/
structure Claim where
  holder : String
  expiry : Instant
deriving DecidableEq, Repr

namespace Claim

/-- Whether the claim has not expired. -/
def isCurrent (claim : Claim) (now : Instant) : Bool := now.before claim.expiry

/-- Whether the claim has not expired and is that of the claimant. -/
def isCurrentFor (claim : Claim) (claimant : String) (now : Instant) : Bool :=
  claim.holder = claimant && claim.isCurrent now

end Claim

/-- What an instance knows about the right to write. -/
structure Leadership where
  claim : Claim
  /-- The name under which this instance claims the lease. -/
  hostname : String
deriving DecidableEq, Repr

/-- Whether this instance may write. -/
def Leadership.isCurrent (leadership : Leadership) (now : Instant) : Bool :=
  leadership.claim.isCurrentFor leadership.hostname now

end PeerFirewall
