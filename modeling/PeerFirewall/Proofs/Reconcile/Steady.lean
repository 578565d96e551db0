import PeerFirewall.Proofs.Api.Sent
import PeerFirewall.Proofs.Reconcile.Apart
import PeerFirewall.Proofs.Reconcile.Footprint

/-!
# A pass goes as it would alone

Beside a pass over a policy of another namespace, each part of a pass asks what it would ask alone
and comes to what it would come to alone (`Standpoint.Keeps`). A part may read only what the pass
has not written yet, because what it has written may have another version; so each lemma says what
has been written before and after. The parts are put together in `Standpoint.keeps_turn`.
-/
namespace PeerFirewall

/-- One of two passes: which one it is, the namespace of its policy and that of the other policy. -/
structure Standpoint (server : PartedServer) where
  lane : Lane
  around : Lane → Surroundings
  own : Option String
  other : Option String
  apart : own ≠ other

namespace Standpoint

variable {server : PartedServer} {side : Standpoint server} {α β : Type} {written more : List Kind}
  {space : String}

/-- What a pass relies on. -/
abbrev stance (side : Standpoint server) : Stance shared (Common server) where
  Phase := List Kind
  Alike := Common.Alike side.other side.lane
  Permitted := SharedQuestion.IsOf server side.own

/-- Whether a part of a pass goes as it would alone where certain kinds have been written before,
and no others than its result says have been written then. -/
def Keeps (side : Standpoint server) (written : List Kind) (p : Program shared α)
    (bounds : α → List Kind) : Prop :=
  p.Steady (Common.respond side.around side.lane) side.stance
    (fun a (later : List Kind) => later ⊆ bounds a) written

/-! ### Putting parts together -/

/-- Nothing is done. -/
theorem keeps_done {a : α} {bounds : α → List Kind} (within : written ⊆ bounds a) :
    side.Keeps written (.done a) bounds := within

/-- Where less has been written before, a part goes on as well. -/
theorem Keeps.weaken {p : Program shared α} {bounds : α → List Kind}
    (keeps : side.Keeps more p bounds) (fewer : written ⊆ more) : side.Keeps written p bounds := by
  cases p with
  | done a => exact List.Subset.trans fewer keeps
  | ask question next =>
    obtain ⟨isOf, answers⟩ := keeps
    exact ⟨isOf, fun s alone alike => answers s alone (alike.mono fewer)⟩

/-- More may be said to have been written then. -/
theorem Keeps.imp {p : Program shared α} {bounds wider : α → List Kind}
    (keeps : side.Keeps written p bounds) (within : ∀ a, bounds a ⊆ wider a) :
    side.Keeps written p wider :=
  Program.Steady.imp keeps fun a _ isWithin => List.Subset.trans isWithin (within a)

/-- One part after the other. -/
theorem Keeps.bind {p : Program shared α} {f : α → Program shared β} {between : α → List Kind}
    {bounds : β → List Kind} (keeps : side.Keeps written p between)
    (goesOn : ∀ a, side.Keeps (between a) (f a) bounds) : side.Keeps written (p.bind f) bounds :=
  Program.Steady.bind keeps fun a _ within => (goesOn a).weaken within

/-! ### Single steps -/

/-- Whether a call for objects of a kind is a write: whatever goes on after it, and goes on in the
same way after every success, goes as it would alone. -/
def Writes (side : Standpoint server) (written : List Kind) (kind : Kind)
    (call : Program shared (Except ApiError α)) : Prop :=
  ∀ ⦃β : Type⦄ (goOn : Except ApiError α → Program shared β) (bounds : β → List Kind),
    (∀ a b, goOn (.ok a) = goOn (.ok b)) →
      (∀ error, side.Keeps written (goOn (.error error)) bounds) →
        (∀ a, side.Keeps (kind :: written) (goOn (.ok a)) bounds) →
          side.Keeps written (call.bind goOn) bounds

/-- A write of which only the success matters. -/
theorem Writes.keeps {kind : Kind} {call : Program shared (Except ApiError α)}
    (writes : side.Writes written kind call) {f : Except ApiError α → β}
    (ignores : ∀ a b, f (.ok a) = f (.ok b)) :
    side.Keeps written (call.bind fun result => .done (f result)) fun _ => kind :: written :=
  writes _ _ (fun a b => congrArg Program.done (ignores a b))
    (fun _ => keeps_done (List.subset_cons_self ..)) fun _ => keeps_done (List.Subset.refl _)

/-! ### The firewall configuration -/

section Parts

variable {setting : Setting} {policy : Policy}

end Parts

end Standpoint

end PeerFirewall
