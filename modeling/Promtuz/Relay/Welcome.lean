import Promtuz.Relay.KeyPackage
import Promtuz.Relay.Queue

namespace Promtuz

open Routing

def Dht.setWelcome (dht : Dht) (welcome : Keyspace) : Dht :=
  { dht with store := { dht.store with welcome := welcome } }

@[simp] theorem Dht.setWelcome_welcome (dht : Dht) (welcome : Keyspace) :
    (dht.setWelcome welcome).store.welcome = welcome := rfl

namespace Welcome

def STASH_PREFIX_LEN : Nat := 32

def STORAGE_KEY_LEN : Nat := STASH_PREFIX_LEN + WELCOME_ID_LEN

def MAX_WELCOMES_PER_SENDER : Nat := 4

def WELCOME_FETCH_MAX_BYTES : Nat := MAX_FRAME_BYTES - 64 * 1024

def stashPrefix (crypto : Crypto) (ipk : Bytes 32) : Bytes 32 :=
  Mls.stashPrefix crypto "welcome:".toUTF8.toList ipk

def storageKey (crypto : Crypto) (ipk : Bytes 32) (welcomeId : Bytes WELCOME_ID_LEN) :
    Bytes STORAGE_KEY_LEN :=
  ⟨(stashPrefix crypto ipk).1 ++ welcomeId.1, by
    simp [STORAGE_KEY_LEN, STASH_PREFIX_LEN, (stashPrefix crypto ipk).2, welcomeId.2]⟩

/-- `welcome_id`: `BLAKE3(recipient || group_id || kp_ref_used || BLAKE3(welcome_blob))`
cut to `WELCOME_ID_LEN` bytes. -/
def welcomeId (crypto : Crypto) (env : WelcomeEnvelopeP) : Bytes WELCOME_ID_LEN :=
  let blobDigest := nodeIdNew crypto env.welcomeBlob
  let buf := env.recipientIpk.1 ++ env.groupId.1 ++ env.kpRefUsed.1 ++ blobDigest.1
  ⟨(nodeIdNew crypto buf).1.take WELCOME_ID_LEN, by simp [(nodeIdNew crypto buf).2, WELCOME_ID_LEN]⟩

def selfIsOwnerForRecipient (crypto : Crypto) (dht : Dht) (recipientIpk : Bytes 32) : Bool × Dht :=
  selfInTopK dht (stashPrefix crypto recipientIpk)

inductive WelcomeVerifyError where
  | malformed
  | badSig
  deriving DecidableEq, Repr

def senderSigOk (crypto : Crypto) (env : WelcomeEnvelopeP) : Bool :=
  crypto.verifyStrict env.senderIpk.1
    (welcomeEnvelopeSigningInput crypto MLS_WIRE_VERSION env.groupId env.senderIpk env.recipientIpk
      env.kpRefUsed env.welcomeBlob)
    env.senderSig.1

/-- `verify_welcome_envelope`; as for KeyPackage records, a `sender_ipk` that does not parse
fails `verifyStrict`, and the one caller answers `BadSig` to every error. -/
def verifyWelcomeEnvelope (crypto : Crypto) (env : WelcomeEnvelopeP) : Except WelcomeVerifyError Unit :=
  if env.welcomeBlob.isEmpty then .error .malformed
  else if MAX_WELCOME_BYTES < env.welcomeBlob.length then .error .malformed
  else if !senderSigOk crypto env then .error .badSig
  else .ok ()

/-- `iterate_welcomes`: for each well-formed row under the recipient's prefix, its key, the
envelope, the expiry read from the first eight bytes of the value, and the value's length. -/
def iterateWelcomes (crypto : Crypto) (codec : Codec WelcomeEnvelopeP) (dht : Dht) (ipk : Bytes 32) :
    List (Bytes STORAGE_KEY_LEN × WelcomeEnvelopeP × UInt64 × Nat) :=
  (dht.store.welcome.prefixScan (stashPrefix crypto ipk).1).filterMap fun r =>
    if h : r.1.length = STORAGE_KEY_LEN then
      if r.2.length < 8 then none
      else (codec.deser (r.2.drop 8)).map fun env =>
        (⟨r.1, h⟩, env, UInt64.ofNat (Bytes.beValue (r.2.take 8)), r.2.length)
    else none

/-- The loop of `welcome_queue_full`: meeting the new key ends it with "not full". -/
def queueFullLoop (senderIpk : Bytes 32) (key : Bytes STORAGE_KEY_LEN) (total fromSender : Nat) :
    List (Bytes STORAGE_KEY_LEN × WelcomeEnvelopeP × UInt64 × Nat) → Bool
  | [] => decide (MAX_WELCOMES_PER_RECIPIENT ≤ total) || decide (MAX_WELCOMES_PER_SENDER ≤ fromSender)
  | (k, env, _, _) :: rest =>
      if k = key then false
      else queueFullLoop senderIpk key (total + 1)
        (if env.senderIpk = senderIpk then fromSender + 1 else fromSender) rest

def welcomeQueueFull (crypto : Crypto) (codec : Codec WelcomeEnvelopeP) (dht : Dht) (ipk senderIpk : Bytes 32)
    (key : Bytes STORAGE_KEY_LEN) : Bool :=
  queueFullLoop senderIpk key 0 0 (iterateWelcomes crypto codec dht ipk)

/-- `handle_welcome_publish`. `limiterOk` is the answer of the per-relay welcome bucket. -/
def handleWelcomePublish (crypto : Crypto) (codec : Codec WelcomeEnvelopeP) (limiterOk : Bool) (dht : Dht)
    (req : WelcomePublishReq) (nowMs : UInt64) : WelcomePublishOutcome × Dht :=
  if MAX_KP_SKEW_MS < nowMs.absDiff req.timestamp then (.staleTimestamp, dht)
  else if !limiterOk then (.rateLimited, dht)
  else
    let (owner, dht) := selfIsOwnerForRecipient crypto dht req.envelope.recipientIpk
    if !owner then (.notOwner, dht)
    else
      match verifyWelcomeEnvelope crypto req.envelope with
      | .error _ => (.badSig, dht)
      | .ok () =>
          let key := storageKey crypto req.envelope.recipientIpk (welcomeId crypto req.envelope)
          if welcomeQueueFull crypto codec dht req.envelope.recipientIpk req.envelope.senderIpk key then
            (.queueFull, dht)
          else
            match codec.ser req.envelope with
            | none => (.badSig, dht)
            | some envelopeBytes =>
                let expiresAtMs := nowMs.saturatingAdd WELCOME_LIFETIME_MS
                let value := Bytes.toBeBytes 8 expiresAtMs.toNat ++ envelopeBytes
                (.stored, dht.setWelcome (dht.store.welcome.insert key.1 value))

structure CollectScan where
  toEvict : List (Bytes STORAGE_KEY_LEN)
  welcomes : List WelcomeEntry
  used : Nat

theorem length_drop_storageKey (key : Bytes STORAGE_KEY_LEN) :
    (key.1.drop STASH_PREFIX_LEN).length = WELCOME_ID_LEN := by
  simp [key.2, STORAGE_KEY_LEN, STASH_PREFIX_LEN, WELCOME_ID_LEN]

/-- Step 6 of `handle_welcome_fetch`: expired rows are marked for eviction, live ones
collected until the count or the byte budget would be exceeded, where the loop breaks. -/
def collectLoop (nowMs : UInt64) :
    CollectScan → List (Bytes STORAGE_KEY_LEN × WelcomeEnvelopeP × UInt64 × Nat) → CollectScan
  | s, [] => s
  | s, (key, env, expiresAtMs, storedLen) :: rest =>
      if expiresAtMs ≤ nowMs then collectLoop nowMs { s with toEvict := s.toEvict ++ [key] } rest
      else if MAX_WELCOMES_PER_RECIPIENT ≤ s.welcomes.length || WELCOME_FETCH_MAX_BYTES < s.used + storedLen then s
      else
        let entry : WelcomeEntry := ⟨⟨key.1.drop STASH_PREFIX_LEN, length_drop_storageKey key⟩, env⟩
        collectLoop nowMs ⟨s.toEvict, s.welcomes ++ [entry], s.used + storedLen⟩ rest

def handleWelcomeFetch (crypto : Crypto) (codec : Codec WelcomeEnvelopeP) (limiterOk : Bool) (dht : Dht)
    (req : WelcomeFetchReq) (authenticatedPeerId : NodeId) (nowMs : UInt64) : WelcomeFetchOutcome × Dht :=
  if req.requesterRelayId ≠ authenticatedPeerId then (.badSig, dht)
  else if MAX_KP_SKEW_MS < nowMs.absDiff req.timestamp then (.badSig, dht)
  else if !limiterOk then (.rateLimited, dht)
  else
    let (owner, dht) := selfIsOwnerForRecipient crypto dht req.userIpk
    if !owner then (.notOwner, dht)
    else if !crypto.verifyStrict req.userIpk.1
        (welcomeFetchSigningInput MLS_WIRE_VERSION req.userIpk req.requesterRelayId req.timestamp) req.userSig.1 then
      (.badSig, dht)
    else
      let scan := collectLoop nowMs ⟨[], [], 0⟩ (iterateWelcomes crypto codec dht req.userIpk)
      (.found ⟨scan.welcomes⟩, dht.setWelcome (dht.store.welcome.eraseAll (scan.toEvict.map (·.1))))

def handleWelcomeAck (crypto : Crypto) (limiterOk : Bool) (dht : Dht) (req : WelcomeAckReq)
    (authenticatedPeerId : NodeId) (nowMs : UInt64) : WelcomeAckResp × Dht :=
  if MAX_WELCOME_ACK_IDS < req.welcomeIds.length then (⟨false⟩, dht)
  else if req.requesterRelayId ≠ authenticatedPeerId then (⟨false⟩, dht)
  else if MAX_KP_SKEW_MS < nowMs.absDiff req.timestamp then (⟨false⟩, dht)
  else if !limiterOk then (⟨false⟩, dht)
  else
    let (owner, dht) := selfIsOwnerForRecipient crypto dht req.userIpk
    if !owner then (⟨false⟩, dht)
    else if !crypto.verifyStrict req.userIpk.1
        (welcomeAckSigningInput crypto MLS_WIRE_VERSION req.userIpk req.requesterRelayId req.welcomeIds
          req.timestamp) req.userSig.1 then
      (⟨false⟩, dht)
    else
      (⟨true⟩, dht.setWelcome (dht.store.welcome.eraseAll
        (req.welcomeIds.map fun id => (storageKey crypto req.userIpk id).1)))

/-- The home-side calls on `dht_welcome`, with what each depends on beyond the state. -/
inductive WelcomeOp where
  | publish (req : WelcomePublishReq) (limiterOk : Bool) (nowMs : UInt64)
  | fetch (req : WelcomeFetchReq) (authenticatedPeerId : NodeId) (limiterOk : Bool) (nowMs : UInt64)
  | ack (req : WelcomeAckReq) (authenticatedPeerId : NodeId) (limiterOk : Bool) (nowMs : UInt64)

def applyWelcomeOp (crypto : Crypto) (codec : Codec WelcomeEnvelopeP) (dht : Dht) : WelcomeOp → Dht
  | .publish req limiterOk nowMs => (handleWelcomePublish crypto codec limiterOk dht req nowMs).2
  | .fetch req peer limiterOk nowMs => (handleWelcomeFetch crypto codec limiterOk dht req peer nowMs).2
  | .ack req peer limiterOk nowMs => (handleWelcomeAck crypto limiterOk dht req peer nowMs).2

end Welcome

end Promtuz
