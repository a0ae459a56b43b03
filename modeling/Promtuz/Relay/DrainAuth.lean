import Promtuz.Relay.QueueFetch

/-! The sticky-home drain authorisation (`quic/handler/client/events/drain_auth.rs`). A user
reconnecting to a relay outside its K homes signs `(ipk, relay id, timestamp)` once; the relay
checks the pair with `verify_drain_auth`, keeps it on the connection, and forwards it verbatim to
every home as the `QueueFetch` of `fetch_remote_queues_with_homes`, where `QueueFetch::verify`
checks it again. -/

namespace Promtuz

/-- `drain_auth::DrainAuth`: the pair as the connection keeps it. -/
structure DrainAuth where
  timestamp : UInt64
  sig : Bytes 64
  deriving DecidableEq

inductive DrainAuthError where
  | staleTimestamp
  | futureTimestamp
  | badSig
  deriving DecidableEq, Repr

/-- `verify_drain_auth`: the freshness window first, then the signature over the `QueueFetch`
transcript with this relay's own id as the requester. -/
def verifyDrainAuth (crypto : Crypto) (userIpk : Bytes 32) (relayId : NodeId) (nowMs timestamp : UInt64)
    (sig : Bytes 64) : Except DrainAuthError DrainAuth :=
  match skewCheck .staleTimestamp .futureTimestamp timestamp nowMs with
  | .error e => .error e
  | .ok () =>
      if !crypto.verifyStrict userIpk.1 (queueFetchSigningInput userIpk relayId timestamp) sig.1 then
        .error .badSig
      else .ok ⟨timestamp, sig⟩

/-- `handle_drain_auth` on `ctx.drain_auth`. With the DHT off there is no relay id to verify
against and the packet is dropped; a verified pair replaces what the connection held, and a
rejected one leaves it. The handler itself always returns `Ok(())`. -/
def handleDrainAuth (crypto : Crypto) (ipk : Bytes 32) (dhtNodeId : Option NodeId) (nowMs timestamp : UInt64)
    (sig : Bytes 64) (drainAuth : Option DrainAuth) : Option DrainAuth :=
  match dhtNodeId with
  | none => drainAuth
  | some relayId =>
      match verifyDrainAuth crypto ipk relayId nowMs timestamp sig with
      | .ok auth => some auth
      | .error _ => drainAuth

/-- Step 3 of `fetch_remote_queues_with_homes`: the one `QueueFetch` sent to every home. -/
def drainFetch (userIpk : Bytes 32) (auth : DrainAuth) (selfRelayId : NodeId) : QueueFetch :=
  ⟨userIpk, selfRelayId, auth.timestamp, auth.sig⟩

end Promtuz
