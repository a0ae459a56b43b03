import Promtuz.Relay.Durability

/-! The fan-out primitives the MLS originate helpers share (`dht/mls/fanout.rs`), over a model of
the network: a dial toward a peer reaches that peer's home or not, and the home's response comes
back in time or not. A home that a request reaches runs its inbound handler on its own state and
clock, whether or not its response makes it back. -/

namespace Promtuz

open Routing

/-- `closest_homes_with_self`: the K closest peers to dial, and whether this relay is one of the
homes too (every home when the table holds fewer than K peers). -/
def closestHomesWithSelf (dht : Dht) (target : NodeId) : List NodeDescriptor × Bool :=
  (dht.routing.findClosest target K,
    kthCheck true (fun selfDist kthDist => decide (selfDist.1 < kthDist.1)) dht target)

@[simp] theorem closestHomesWithSelf_fst (dht : Dht) (target : NodeId) :
    (closestHomesWithSelf dht target).1 = dht.routing.findClosest target K := rfl

structure HomeState where
  dht : Dht
  nowMs : UInt64
  limiterOk : Bool

/-- What one `remote_rpc_one` toward a peer meets: the home it reaches, when the connect and the
write go through, and whether that home's response comes back (within the budget, for a
fan-out). -/
structure PeerDial where
  home : Option HomeState
  replied : Bool

/-- `fan_out_collect`: for every peer whose home answered in time, in the order of `peers`, that
home's response. -/
def fanOutCollect {α : Type} (dial : NodeId → PeerDial) (respond : HomeState → α)
    (peers : List NodeDescriptor) : List α :=
  peers.filterMap fun peer =>
    match dial peer.id with
    | ⟨some home, true⟩ => some (respond home)
    | _ => none

end Promtuz
