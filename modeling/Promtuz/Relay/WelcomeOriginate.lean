import Promtuz.Relay.WelcomeFetch
import Promtuz.Relay.Fanout

/-! The originating side of the Welcome queue RPCs (`dht/mls/welcome_originate.rs`). A publish
goes to the recipient's K homes and counts `Stored` against `FORWARD_K_MIN`; a fetch drains the
user's own K homes and merges what they answer, one entry per `(group_id, kp_ref_used)`, since
each replica mints its own `welcome_id`; an ack is sent to every home and its answers dropped. -/

namespace Promtuz

open Routing

namespace Welcome

section Originate

variable (crypto : Crypto) (codec : Codec WelcomeEnvelopeP) (dial : NodeId → PeerDial) (limiterOk : Bool)
  (dht : Dht)

/-- `originate_welcome_publish`. `limiterOk` is this relay's own bucket, met by the self shortcut. -/
def originateWelcomePublish (envelope : WelcomeEnvelopeP) (timestamp nowMs : UInt64) : Bool × Dht :=
  let homes := closestHomesWithSelf dht (stashPrefix crypto envelope.recipientIpk)
  let req : WelcomePublishReq := ⟨envelope, timestamp⟩
  let own :=
    if homes.2 then
      let handled := handleWelcomePublish crypto codec limiterOk dht req nowMs
      (decide (handled.1 = .stored), handled.2)
    else (false, dht)
  let homesSucceeded := if own.1 then 1 else 0
  let replies := fanOutCollect dial
    (fun home => (handleWelcomePublish crypto codec home.limiterOk home.dht req home.nowMs).1) homes.1
  let homesSucceeded := replies.foldl (fun n outcome => if outcome = .stored then n + 1 else n) homesSucceeded
  (decide (FORWARD_K_MIN ≤ homesSucceeded), own.2)

/-- The pair `absorb` dedupes on: `welcome_id` differs per replica, so it cannot be the key. -/
def dedupeKey (e : WelcomeEntry) : Bytes 32 × Bytes 32 := (e.envelope.groupId, e.envelope.kpRefUsed)

def absorbOne (acc : List (Bytes 32 × Bytes 32) × List WelcomeEntry) (e : WelcomeEntry) :
    List (Bytes 32 × Bytes 32) × List WelcomeEntry :=
  if dedupeKey e ∈ acc.1 then acc else (dedupeKey e :: acc.1, acc.2 ++ [e])

/-- `absorb`: the entries merged into `(seen, merged)`, in order. -/
def absorb (entries : List WelcomeEntry) (acc : List (Bytes 32 × Bytes 32) × List WelcomeEntry) :
    List (Bytes 32 × Bytes 32) × List WelcomeEntry :=
  entries.foldl absorbOne acc

/-- What `originate_welcome_fetch` does with one answer: absorbs a `Found`, ignores the rest. -/
def absorbFound (acc : List (Bytes 32 × Bytes 32) × List WelcomeEntry) :
    WelcomeFetchOutcome → List (Bytes 32 × Bytes 32) × List WelcomeEntry
  | .found found => absorb found.welcomes acc
  | _ => acc

/-- `originate_welcome_fetch`: the merged entries, and this relay's state after its own handler. -/
def originateWelcomeFetch (userIpk : Bytes 32) (timestamp : UInt64) (sig : Bytes 64) (nowMs : UInt64) :
    List WelcomeEntry × Dht :=
  let homes := closestHomesWithSelf dht (stashPrefix crypto userIpk)
  let req : WelcomeFetchReq := ⟨userIpk, dht.nodeId, timestamp, sig⟩
  -- the self shortcut runs only when this relay is one of the homes
  let own := handleWelcomeFetch crypto codec limiterOk dht req dht.nodeId nowMs
  let acc := if homes.2 then absorbFound ([], []) own.1 else ([], [])
  let replies := fanOutCollect dial
    (fun home => (handleWelcomeFetch crypto codec home.limiterOk home.dht req dht.nodeId home.nowMs).1) homes.1
  ((replies.foldl absorbFound acc).2, if homes.2 then own.2 else dht)

/-- `originate_welcome_ack`: best effort, every answer dropped; what is left is this relay's own
state after its handler. -/
def originateWelcomeAck (userIpk : Bytes 32) (welcomeIds : List (Bytes WELCOME_ID_LEN)) (timestamp : UInt64)
    (sig : Bytes 64) (nowMs : UInt64) : Dht :=
  let homes := closestHomesWithSelf dht (stashPrefix crypto userIpk)
  let req : WelcomeAckReq := ⟨userIpk, dht.nodeId, welcomeIds, timestamp, sig⟩
  if homes.2 then (handleWelcomeAck crypto limiterOk dht req dht.nodeId nowMs).2 else dht

end Originate

end Welcome

end Promtuz
