import Promtuz.Relay.KeyPackageOutcome
import Promtuz.Relay.Fanout

/-! The originating side of the KeyPackage RPCs (`dht/mls/kp_originate.rs`, `dht/mls/fanout.rs`).
A phone hands its home relay a publish, a refill or a fetch; the relay runs the inbound handler on
itself when it is one of the K homes and dials the K closest peers. A publish or a refill is
collected in parallel and counted against `FORWARD_K_MIN`. A fetch dials one home at a time and
stops at the first `Found` that comes back, since every home that answers `Found` has spent a
KeyPackage: a lost answer is the only way a fetch spends more than one. -/

namespace Promtuz

open Routing

namespace Kp

inductive KpPublishMode where
  | publish
  | refill
  deriving DecidableEq

def buildPublishReq (ipk : Bytes 32) (records : List KeyPackageRecord) (timestamp : UInt64) (sig : Bytes 64) :
    KeyPackagePublishReq :=
  ⟨ipk, records, timestamp, sig⟩

def buildRefillReq (ipk : Bytes 32) (records : List KeyPackageRecord) (timestamp : UInt64) (sig : Bytes 64) :
    KeyPackageRefillReq :=
  ⟨ipk, records, timestamp, sig⟩

structure KpPublishQuorum where
  homesSucceeded : UInt8
  quorumMet : Bool

section Publish

variable (crypto : Crypto) (codec : Codec KeyPackageRecord) (ipk : Bytes 32) (records : List KeyPackageRecord)
  (mode : KpPublishMode) (timestamp : UInt64) (sig : Bytes 64)

def storeAtHome (dht : Dht) (nowMs : UInt64) : Bool × Dht :=
  match mode with
  | .publish =>
      let handled := handleKeypackagePublish crypto codec dht (buildPublishReq ipk records timestamp sig) nowMs
      (decide (handled.1 = .stored), handled.2)
  | .refill =>
      let handled := handleKeypackageRefill crypto codec dht (buildRefillReq ipk records timestamp sig) nowMs
      (decide (handled.1 = .appended), handled.2)

def originatePublish (dial : NodeId → PeerDial) (dht : Dht) (nowMs : UInt64) : KpPublishQuorum × Dht :=
  let homes := closestHomesWithSelf dht (stashPrefix crypto ipk)
  -- the self-store shortcut: the inbound handler on this relay's own state, no network hop
  let own := if homes.2 then storeAtHome crypto codec ipk records mode timestamp sig dht nowMs else (false, dht)
  let homesSucceeded : UInt8 := if own.1 then 1 else 0
  -- the remote fan-out, each response tallied as the mode's success or not
  let replies := fanOutCollect dial
    (fun home => (storeAtHome crypto codec ipk records mode timestamp sig home.dht home.nowMs).1) homes.1
  let homesSucceeded := replies.foldl (fun n success => if success then saturatingAdd n 1 else n) homesSucceeded
  (⟨homesSucceeded, decide (FORWARD_K_MIN ≤ homesSucceeded.toNat)⟩, own.2)

end Publish

structure KpFetchResult where
  record : Option KeyPackageRecord
  remaining : UInt32
  staticHash : Bytes 32

def KpFetchResult.ofFound (f : KeyPackageFetchFound) : KpFetchResult :=
  ⟨some f.record, f.remaining, f.staticHash⟩

def KpFetchResult.empty : KpFetchResult := ⟨none, 0, Bytes.replicate 32 0⟩

@[simp] theorem KpFetchResult.record_getD (found : Option KeyPackageFetchFound) :
    ((found.map KpFetchResult.ofFound).getD .empty).record = found.map (·.record) := by
  cases found <;> rfl

structure FetchVisit where
  id : NodeId
  outcome : KeyPackageFetchOutcome
  replied : Bool
  dht : Dht

section Fetch

variable (crypto : Crypto) (codec : Codec KeyPackageRecord)

/-- The attempts of `originate_fetch`, in order, until a `Found` comes back. A home that the request
reaches runs its handler whether or not its answer makes it back; the loop returns the record and
the homes it reached. -/
def fetchLoop (req : KeyPackageFetchReq) (selfId : NodeId) :
    List (NodeId × PeerDial) → Option KeyPackageFetchFound × List FetchVisit
  | [] => (none, [])
  | (id, dial) :: rest =>
      match dial.home with
      | none => fetchLoop req selfId rest
      | some home =>
          let (outcome, dht) := handleKeypackageFetch crypto codec home.limiterOk home.dht req selfId home.nowMs
          match dial.replied, outcome with
          | true, .found f => (some f, [⟨id, .found f, true, dht⟩])
          | replied, outcome =>
              let (found, visits) := fetchLoop req selfId rest
              (found, ⟨id, outcome, replied, dht⟩ :: visits)

/-- `originate_fetch`. `limiterOk` is this relay's own limiter, met by the self shortcut. -/
def originateFetch (dial : NodeId → PeerDial) (limiterOk : Bool) (dht : Dht) (targetIpk : Bytes 32)
    (nowMs : UInt64) : KpFetchResult × List FetchVisit :=
  let homes := closestHomesWithSelf dht (stashPrefix crypto targetIpk)
  let req : KeyPackageFetchReq := ⟨targetIpk, dht.nodeId, nowMs⟩
  -- self first, on this relay's own state and clock, where no answer can be lost
  let own : List (NodeId × PeerDial) := if homes.2 then [(dht.nodeId, ⟨some ⟨dht, nowMs, limiterOk⟩, true⟩)] else []
  let run := fetchLoop crypto codec req dht.nodeId (own ++ homes.1.map fun peer => (peer.id, dial peer.id))
  ((run.1.map KpFetchResult.ofFound).getD .empty, run.2)

end Fetch

end Kp

end Promtuz
