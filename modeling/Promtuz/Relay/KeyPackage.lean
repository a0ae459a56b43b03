import Promtuz.Relay.Dht
import Promtuz.Common.MlsWire

namespace Promtuz

open Routing

def Dht.setKeypackage (dht : Dht) (keypackage : Keyspace) : Dht :=
  { dht with store := { dht.store with keypackage := keypackage } }

@[simp] theorem Dht.setKeypackage_keypackage (dht : Dht) (keypackage : Keyspace) :
    (dht.setKeypackage keypackage).store.keypackage = keypackage := rfl

def Mls.stashPrefix (crypto : Crypto) (domain : List UInt8) (ipk : Bytes 32) : Bytes 32 :=
  nodeIdNew crypto (domain ++ ipk.1)

namespace Kp

def KP_REF_LEN : Nat := 32

def STASH_PREFIX_LEN : Nat := 32

def STORAGE_KEY_LEN : Nat := STASH_PREFIX_LEN + KP_REF_LEN

def stashPrefix (crypto : Crypto) (ipk : Bytes 32) : Bytes 32 :=
  Mls.stashPrefix crypto "kp:".toUTF8.toList ipk

def storageKey (crypto : Crypto) (ipk : Bytes 32) (kpRef : List UInt8) :
    Option (Bytes STORAGE_KEY_LEN) :=
  if h : kpRef.length = KP_REF_LEN then
    some ⟨(stashPrefix crypto ipk).1 ++ kpRef, by
      simp [STORAGE_KEY_LEN, STASH_PREFIX_LEN, h, (stashPrefix crypto ipk).2]⟩
  else none

def selfIsOwnerForStash (crypto : Crypto) (dht : Dht) (ipk : Bytes 32) : Bool × Dht :=
  selfInTopK dht (stashPrefix crypto ipk)

inductive KeyPackageVerifyError where
  | malformed
  | badSig
  | expired
  deriving DecidableEq, Repr

/-- Step 3 of `verify_record`: `owner_sig` verifies under `ipk` over
`kp_record_signing_input`. -/
def ownerSigOk (crypto : Crypto) (rec : KeyPackageRecord) : Bool :=
  crypto.verifyStrict rec.ipk.1
    (kpRecordSigningInput crypto MLS_WIRE_VERSION rec.ipk rec.kpRef rec.kpBytes rec.expiresAtMs)
    rec.ownerSig.1

/-- `verify_record`. An `ipk` that does not parse as an Ed25519 key fails `verifyStrict`
here, where the source reports `Malformed`; both handlers answer `BadSig` to either. -/
def verifyRecord (crypto : Crypto) (rec : KeyPackageRecord) (nowMs : UInt64) :
    Except KeyPackageVerifyError Unit :=
  if rec.kpRef.length ≠ KP_REF_LEN then .error .malformed
  else if rec.kpBytes.isEmpty then .error .malformed
  else if !ownerSigOk crypto rec then .error .badSig
  else if rec.expiresAtMs ≤ nowMs then .error .expired
  else if (nowMs.saturatingAdd KEYPACKAGE_LIFETIME_MS).saturatingAdd MAX_KP_SKEW_MS < rec.expiresAtMs then
    .error .malformed
  else .ok ()

/-- `verify_outer_sig`: the skew check, then the publisher's signature over the batch
transcript of its domain. -/
def verifyOuterSig (crypto : Crypto) (publisherIpk : Bytes 32) (outerSig : Bytes 64)
    (records : List KeyPackageRecord) (timestamp : UInt64) (isRefill : Bool) (nowMs : UInt64) : Bool :=
  if MAX_KP_SKEW_MS < nowMs.absDiff timestamp then false
  else
    let digest := kpPublishRecordsDigest crypto MLS_WIRE_VERSION records
    let count := records.length.toUInt32
    let msg := if isRefill then kpRefillSigningInput MLS_WIRE_VERSION publisherIpk digest count timestamp
      else kpPublishSigningInput MLS_WIRE_VERSION publisherIpk digest count timestamp
    crypto.verifyStrict publisherIpk.1 msg outerSig.1

inductive InsertError where
  | staticFieldsConflict
  | storage
  deriving DecidableEq, Repr

/-- `insert_record`: a record already stored under the key must be byte-identical. -/
def insertRecord (crypto : Crypto) (codec : Codec KeyPackageRecord) (ks : Keyspace)
    (rec : KeyPackageRecord) : Except InsertError Keyspace :=
  match storageKey crypto rec.ipk rec.kpRef with
  | none => .error .storage
  | some key =>
      match codec.ser rec with
      | none => .error .storage
      | some bytes =>
          match ks.get? key.1 with
          | some existing => if existing ≠ bytes then .error .staticFieldsConflict else .ok (ks.insert key.1 bytes)
          | none => .ok (ks.insert key.1 bytes)

/-- `iterate_stash`: the stash's rows in key order, skipping keys of the wrong length and
values that do not decode. -/
def iterateStash (crypto : Crypto) (codec : Codec KeyPackageRecord) (dht : Dht) (ipk : Bytes 32) :
    List (Bytes STORAGE_KEY_LEN × KeyPackageRecord) :=
  (dht.store.keypackage.prefixScan (stashPrefix crypto ipk).1).filterMap fun r =>
    if h : r.1.length = STORAGE_KEY_LEN then (codec.deser r.2).map fun rec => (⟨r.1, h⟩, rec) else none

/-- The per-record loop publish and refill both run before storing anything, answering
with the handler's own `badSig` and `expired`. -/
def verifyLoop {β : Type} (crypto : Crypto) (ipk : Bytes 32) (nowMs : UInt64) (badSig expired : β) :
    List KeyPackageRecord → Option β
  | [] => none
  | rec :: rest =>
      -- smuggling: a record under someone else's `ipk`
      if rec.ipk ≠ ipk then some badSig
      else
        match verifyRecord crypto rec nowMs with
        | .ok () => verifyLoop crypto ipk nowMs badSig expired rest
        | .error .expired => some expired
        | .error _ => some badSig

/-- The insert loop of publish and refill: each record is written as it is reached, so
a failure part-way keeps the records before it. -/
def insertLoop {β : Type} (crypto : Crypto) (codec : Codec KeyPackageRecord) (conflict storage : β) :
    Keyspace → List KeyPackageRecord → Option β × Keyspace
  | ks, [] => (none, ks)
  | ks, rec :: rest =>
      match insertRecord crypto codec ks rec with
      | .ok ks => insertLoop crypto codec conflict storage ks rest
      | .error .staticFieldsConflict => (some conflict, ks)
      | .error .storage => (some storage, ks)

/-- Step 5 of publish: the keys of stored records whose `kp_ref` the snapshot lacks. -/
def absentKeys (stash : List (Bytes STORAGE_KEY_LEN × KeyPackageRecord)) (incoming : List (List UInt8)) :
    List (List UInt8) :=
  (stash.filter fun e => !incoming.contains e.2.kpRef).map fun e => e.1.1

/-- `handle_keypackage_publish`: the snapshot replaces the stash. -/
def handleKeypackagePublish (crypto : Crypto) (codec : Codec KeyPackageRecord) (dht : Dht)
    (req : KeyPackagePublishReq) (nowMs : UInt64) : KeyPackagePublishOutcome × Dht :=
  if KP_STASH_TARGET < req.records.length then (.tooMany, dht)
  else if req.records.isEmpty then (.stored, dht)
  else if !verifyOuterSig crypto req.ipk req.sig req.records req.timestamp false nowMs then (.badSig, dht)
  else
    let (owner, dht) := selfIsOwnerForStash crypto dht req.ipk
    if !owner then (.notOwner, dht)
    else
      match verifyLoop crypto req.ipk nowMs .badSig .expired req.records with
      | some outcome => (outcome, dht)
      | none =>
          let incoming := req.records.map (·.kpRef)
          let ks := dht.store.keypackage.eraseAll (absentKeys (iterateStash crypto codec dht req.ipk) incoming)
          let (failed, ks) := insertLoop crypto codec .staticFieldsConflict .badSig ks req.records
          (failed.getD .stored, dht.setKeypackage ks)

/-- `handle_keypackage_refill`: additive, after bounding the stored records the batch
does not name plus the batch. -/
def handleKeypackageRefill (crypto : Crypto) (codec : Codec KeyPackageRecord) (dht : Dht)
    (req : KeyPackageRefillReq) (nowMs : UInt64) : KeyPackageRefillOutcome × Dht :=
  if KP_STASH_TARGET < req.records.length then (.tooMany, dht)
  else if req.records.isEmpty then (.appended, dht)
  else if !verifyOuterSig crypto req.ipk req.sig req.records req.timestamp true nowMs then (.badSig, dht)
  else
    let (owner, dht) := selfIsOwnerForStash crypto dht req.ipk
    if !owner then (.notOwner, dht)
    else
      let incoming := req.records.map (·.kpRef)
      let retained := ((iterateStash crypto codec dht req.ipk).filter fun e =>
        !incoming.contains e.2.kpRef).length
      if KP_STASH_TARGET < retained + req.records.length then (.tooMany, dht)
      else
        match verifyLoop crypto req.ipk nowMs .badSig .expired req.records with
        | some outcome => (outcome, dht)
        | none =>
            let (failed, ks) := insertLoop crypto codec .staticFieldsConflict .badSig
              dht.store.keypackage req.records
            (failed.getD .appended, dht.setKeypackage ks)

def popSelector (crypto : Crypto) (requester : NodeId) (targetIpk : Bytes 32) : Bytes 32 :=
  nodeIdNew crypto (requester.1 ++ targetIpk.1)

def computeStaticHash (crypto : Crypto) (rec : KeyPackageRecord) : Bytes 32 :=
  let kpBytesDigest := nodeIdNew crypto rec.kpBytes
  nodeIdNew crypto (rec.ipk.1 ++ rec.kpRef ++ kpBytesDigest.1)

/-- The state of the fetch's selection loop. The source keeps the popped index and reads
the key back as `stash[popped_idx].0`; the scan keeps that key beside the record. -/
structure PopScan where
  popped : Option (Bytes STORAGE_KEY_LEN × KeyPackageRecord)
  bestDistance : Bytes 32
  toEvict : List (Bytes STORAGE_KEY_LEN)

/-- The selection loop of `handle_keypackage_fetch`: expired records are marked for
eviction, and the live record nearest the selector by XOR wins, the first on a tie. -/
def popLoop (selector : Bytes 32) (nowMs : UInt64) :
    PopScan → List (Bytes STORAGE_KEY_LEN × KeyPackageRecord) → PopScan
  | s, [] => s
  | s, (key, rec) :: rest =>
      if rec.expiresAtMs ≤ nowMs then popLoop selector nowMs { s with toEvict := s.toEvict ++ [key] } rest
      else if h : rec.kpRef.length = KP_REF_LEN then
        let distance := xor32 ⟨rec.kpRef, h⟩ selector
        if s.popped.isNone || distance < s.bestDistance then
          popLoop selector nowMs { s with bestDistance := distance, popped := some (key, rec) } rest
        else popLoop selector nowMs s rest
      else popLoop selector nowMs s rest

def PopScan.init : PopScan := ⟨none, Bytes.replicate 32 0xff, []⟩

/-- `handle_keypackage_fetch`. `limiterOk` is the answer of the two `governor` buckets, and
`removeOk` says which of its `remove` calls on the keyspace go through: the handler drops their
errors (`let _ =`), and a failed one leaves its row. -/
def handleKeypackageFetchWith (crypto : Crypto) (codec : Codec KeyPackageRecord) (limiterOk : Bool)
    (removeOk : Bytes STORAGE_KEY_LEN → Bool) (dht : Dht) (req : KeyPackageFetchReq) (authenticatedPeerId : NodeId)
    (nowMs : UInt64) : KeyPackageFetchOutcome × Dht :=
  -- a requester-binding mismatch and a skewed clock both look rate-limited to the caller
  if req.requesterRelayId ≠ authenticatedPeerId then (.rateLimited, dht)
  else if MAX_KP_SKEW_MS < nowMs.absDiff req.timestamp then (.rateLimited, dht)
  else
    let (owner, dht) := selfIsOwnerForStash crypto dht req.targetIpk
    if !owner then (.notOwner, dht)
    else if !limiterOk then (.rateLimited, dht)
    else
      let stash := iterateStash crypto codec dht req.targetIpk
      let selector := popSelector crypto req.requesterRelayId req.targetIpk
      let scan := popLoop selector nowMs PopScan.init stash
      let ks := dht.store.keypackage.eraseAll ((scan.toEvict.filter removeOk).map (·.1))
      match scan.popped with
      | none => (.noStash, dht.setKeypackage ks)
      | some (poppedKey, poppedRecord) =>
          let remaining := (stash.filter fun e => !scan.toEvict.contains e.1 && e.1 != poppedKey).length
          (.found ⟨poppedRecord, remaining.toUInt32, computeStaticHash crypto poppedRecord⟩,
            dht.setKeypackage (if removeOk poppedKey then ks.erase poppedKey.1 else ks))

/-- `handle_keypackage_fetch` when every `remove` goes through. -/
def handleKeypackageFetch (crypto : Crypto) (codec : Codec KeyPackageRecord) (limiterOk : Bool)
    (dht : Dht) (req : KeyPackageFetchReq) (authenticatedPeerId : NodeId) (nowMs : UInt64) :
    KeyPackageFetchOutcome × Dht :=
  handleKeypackageFetchWith crypto codec limiterOk (fun _ => true) dht req authenticatedPeerId nowMs

/-- The home-side calls on `dht_keypackage`, with what each depends on beyond the state. -/
inductive KpOp where
  | publish (req : KeyPackagePublishReq) (nowMs : UInt64)
  | refill (req : KeyPackageRefillReq) (nowMs : UInt64)
  | fetch (req : KeyPackageFetchReq) (authenticatedPeerId : NodeId) (limiterOk : Bool)
      (removeOk : Bytes STORAGE_KEY_LEN → Bool) (nowMs : UInt64)

def applyKpOp (crypto : Crypto) (codec : Codec KeyPackageRecord) (dht : Dht) : KpOp → Dht
  | .publish req nowMs => (handleKeypackagePublish crypto codec dht req nowMs).2
  | .refill req nowMs => (handleKeypackageRefill crypto codec dht req nowMs).2
  | .fetch req peer limiterOk removeOk nowMs =>
      (handleKeypackageFetchWith crypto codec limiterOk removeOk dht req peer nowMs).2

end Kp

end Promtuz
