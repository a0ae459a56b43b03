import Promtuz.Relay.Routing
import Promtuz.Relay.Storage

namespace Promtuz

open Routing

/-- The parts of `Dht` the modelled handlers read and write. -/
structure Dht where
  nodeId : NodeId
  routing : RoutingTable
  routingDense : Bool
  store : Store

/-- `Dht::new`: a fresh routing table for `nodeId` over an already opened store. -/
def Dht.new (nodeId : NodeId) (now : Nat) (store : Store) : Dht :=
  ⟨nodeId, RoutingTable.empty nodeId now, false, store⟩

def kthCheck (sparse : Bool) (cmp : Bytes 32 → Bytes 32 → Bool) (dht : Dht) (target : Bytes 32) :
    Bool :=
  let descriptors := dht.routing.findClosest target K
  if h : descriptors.length < K then sparse
  else
    cmp (xor32 dht.nodeId target)
      (xor32 (descriptors.get ⟨K - 1, by unfold K at h ⊢; omega⟩).id target)

/-- `self_is_in_k` inside `forward::forward_to_homes`. -/
def forwardToHomesSelfIsInK (dht : Dht) (userIpk : Bytes 32) : Bool :=
  kthCheck true (fun selfDist kthDist => decide (selfDist.1 < kthDist.1)) dht userIpk

def forwardSelfIsInKClosest (dht : Dht) (target : Bytes 32) : Bool :=
  kthCheck true (fun selfDist kthDist => decide (selfDist.1 ≤ kthDist.1)) dht target

def selfIsInKClosestQd (dht : Dht) (target : Bytes 32) : Bool :=
  kthCheck true (fun selfDist kthDist => decide (selfDist.1 ≤ kthDist.1)) dht target

def drainSelfIsInKClosest (dht : Dht) (userIpk : Bytes 32) : Bool :=
  kthCheck true (fun selfDist kthDist => decide (selfDist.1 < kthDist.1)) dht userIpk

/-- `drifted_now` inside `store::plan_drift_migrations`. -/
def driftedNow (dht : Dht) (userIpk : Bytes 32) : Bool :=
  kthCheck false (fun selfDist kthDist => decide (kthDist.1 < selfDist.1)) dht userIpk

/-- `routing::self_in_top_k`: asks for `K + 1` peers, answers from the dense
flag on a sparse table, and records a dense table. -/
def selfInTopK (dht : Dht) (target : NodeId) : Bool × Dht :=
  let candidates := dht.routing.findClosest target (K + 1)
  if h : candidates.length < K then (!dht.routingDense, dht)
  else
    let dht := { dht with routingDense := true }
    (decide ((xor32 dht.nodeId target).1 ≤
      (xor32 (candidates.get ⟨K - 1, by unfold K at h ⊢; omega⟩).id target).1), dht)

theorem selfInTopK_store (dht : Dht) (target : NodeId) : (selfInTopK dht target).2.store = dht.store := by
  simp only [selfInTopK]
  split <;> rfl

end Promtuz
