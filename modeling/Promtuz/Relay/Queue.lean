import Promtuz.Relay.Dht
import Promtuz.Common.Wire
import Promtuz.Common.Pack

namespace Promtuz

open Routing MessageKey

def MAX_QUEUED_PER_SENDER : Nat := 128

def SENDER_SCAN_BYTE_BUDGET : Nat := 8 * 1024 * 1024

def QUEUE_ENTRY_TTL_MS : Nat := 7 * 24 * 3600000

def MAX_EXPIRE_PER_SWEEP : Nat := 1024

def QUEUE_BATCH_MAX_BYTES : Nat := MAX_FRAME_BYTES - 64 * 1024

def Dht.setQueue (dht : Dht) (queue : Keyspace) : Dht :=
  { dht with store := { dht.store with queue := queue } }

@[simp] theorem Dht.setQueue_queue (dht : Dht) (queue : Keyspace) :
    (dht.setQueue queue).store.queue = queue := rfl

@[simp] theorem Dht.setQueue_routing (dht : Dht) (queue : Keyspace) :
    (dht.setQueue queue).routing = dht.routing := rfl

@[simp] theorem Dht.setQueue_self (dht : Dht) : dht.setQueue dht.store.queue = dht := rfl

@[simp] theorem Dht.setQueue_nodeId (dht : Dht) (queue : Keyspace) :
    (dht.setQueue queue).nodeId = dht.nodeId := rfl

def Dht.setMessages (dht : Dht) (messages : Keyspace) : Dht :=
  { dht with store := { dht.store with messages := messages } }

@[simp] theorem Dht.setMessages_messages (dht : Dht) (messages : Keyspace) :
    (dht.setMessages messages).store.messages = messages := rfl

@[simp] theorem Dht.setMessages_queue (dht : Dht) (messages : Keyspace) :
    (dht.setMessages messages).store.queue = dht.store.queue := rfl

@[simp] theorem Dht.setQueue_messages (dht : Dht) (queue : Keyspace) :
    (dht.setQueue queue).store.messages = dht.store.messages := rfl

inductive QueueAdmission where
  | insert
  | alreadyQueued
  | idTakenByOther
  | full
  | scanFailed
  deriving DecidableEq, Repr

structure AdmitScan where
  total : Nat
  fromSender : Nat
  attributedBytes : Nat

/-- The loop of `admit_to_queue` over the recipient's rows: `.inl` is a
`return` from inside the loop, `.inr` the counters where the loop ends or breaks. -/
def admitLoop (dispatchId : List UInt8) (sender : Bytes 32)
    (senderOf : List UInt8 → Option (Bytes 32)) :
    AdmitScan → List (List UInt8 × List UInt8) → QueueAdmission ⊕ AdmitScan
  | s, [] => .inr s
  | s, (keyBytes, value) :: rows =>
      if keyBytes.length ≠ SIZE then admitLoop dispatchId sender senderOf s rows
      else
        let attributable := decide (s.attributedBytes < SENDER_SCAN_BYTE_BUDGET)
        let sameSender := attributable && (senderOf value).any fun f => decide (f = sender)
        let attributedBytes :=
          if attributable then s.attributedBytes + value.length else s.attributedBytes
        if keyId keyBytes = dispatchId then
          .inl (if sameSender then .alreadyQueued else .idTakenByOther)
        else
          let total := s.total + 1
          let fromSender := if sameSender then s.fromSender + 1 else s.fromSender
          let next : AdmitScan := ⟨total, fromSender, attributedBytes⟩
          if sameSender && decide (MAX_QUEUED_PER_SENDER ≤ fromSender) then .inr next
          else if MAX_QUEUED_PER_RECIPIENT + 1 ≤ total then .inr next
          else admitLoop dispatchId sender senderOf next rows

def admitToQueue (ks : Keyspace) (recipient : Bytes 32) (dispatchId : Bytes 16)
    (sender : Bytes 32) (senderOf : List UInt8 → Option (Bytes 32)) : QueueAdmission :=
  match admitLoop dispatchId.1 sender senderOf ⟨0, 0, 0⟩ (ks.prefixScan recipient.1) with
  | .inl admission => admission
  | .inr s =>
      if MAX_QUEUED_PER_RECIPIENT ≤ s.total ∨ MAX_QUEUED_PER_SENDER ≤ s.fromSender then .full
      else .insert

/-- The `sender_of` closure `enqueue_for_home` passes: the sender of a queued dispatch. -/
def dispatchFrom (codec : Codec DispatchP) (value : List UInt8) : Option (Bytes 32) :=
  (codec.deser value).map DispatchP.from

def enqueueForHome (codec : Codec DispatchP) (dht : Dht) (userIpk : Bytes 32)
    (dispatch : DispatchP) (nowMs : UInt64) : ForwardOutcome × Dht :=
  match admitToQueue dht.store.queue userIpk dispatch.id dispatch.from (dispatchFrom codec) with
  | .insert =>
      let key := MessageKey.new userIpk nowMs dispatch.id
      match codec.ser dispatch with
      | none => (.badSig, dht)
      | some value => (.stored, dht.setQueue (dht.store.queue.insert key.asBytes value))
  | .alreadyQueued => (.stored, dht)
  | .idTakenByOther | .scanFailed => (.badSig, dht)
  | .full => (.queueFull, dht)

/-- The loop of `queue_batch_for_user`: the batch, the oversize keys to drop,
and whether the scan reached the end of the prefix. -/
def batchLoop (codec : Codec DispatchP) (max : Nat) :
    List (MessageKey × DispatchP) → Nat → List (List UInt8) → List (List UInt8 × List UInt8) →
      List (MessageKey × DispatchP) × List (List UInt8) × Bool
  | out, _, oversize, [] => (out, oversize, true)
  | out, used, oversize, (keyBytes, value) :: rows =>
      match parse keyBytes with
      | none => batchLoop codec max out used oversize rows
      | some key =>
          if QUEUE_BATCH_MAX_BYTES < value.length then
            batchLoop codec max out used (oversize ++ [keyBytes]) rows
          else if max ≤ out.length ∨ QUEUE_BATCH_MAX_BYTES < used + value.length then
            (out, oversize, false)
          else
            match codec.deser value with
            | none => batchLoop codec max out used oversize rows
            | some dispatch =>
                batchLoop codec max (out ++ [(key, dispatch)]) (used + value.length) oversize rows

def queueBatchForUser (codec : Codec DispatchP) (dht : Dht) (userIpk : Bytes 32) (max : Nat) :
    (List (MessageKey × DispatchP) × Bool) × Dht :=
  if max = 0 then (([], false), dht)
  else
    let (out, oversize, exhausted) := batchLoop codec max [] 0 [] (dht.store.queue.prefixScan userIpk.1)
    ((out, exhausted), dht.setQueue (dht.store.queue.eraseAll oversize))

def lookupQueueForUser (codec : Codec DispatchP) (dht : Dht) (userIpk : Bytes 32) (max : Nat) :
    List (MessageKey × DispatchP) × Dht :=
  let (batch, dht) := queueBatchForUser codec dht userIpk max
  (batch.1, dht)

def deleteQueueEntries (dht : Dht) (userIpk : Bytes 32) (dispatchIds : List (Bytes 16)) :
    Nat × Dht :=
  if dispatchIds.isEmpty then (0, dht)
  else
    let victims := ((dht.store.queue.prefixScan userIpk.1).filter fun r =>
      decide (r.1.length = SIZE) && decide (keyId r.1 ∈ dispatchIds.map Subtype.val)).map Prod.fst
    (victims.length, dht.setQueue (dht.store.queue.eraseAll victims))

/-- The walk of `plan_drift_migrations`, with its per-recipient `drifted` cache. -/
def driftLoop (codec : Codec DispatchP) (dht : Dht) (max : Nat) (nowMs : UInt64) :
    List (MessageKey × DispatchP) → List (List UInt8) → List (Bytes 32 × Bool) →
      List (List UInt8 × List UInt8) → List (MessageKey × DispatchP) × List (List UInt8)
  | out, expired, _, [] => (out, expired)
  | out, expired, drifted, (keyBytes, value) :: rows =>
      if h : keyBytes.length = SIZE then
        let userIpk : Bytes 32 := ⟨keyBytes.take 32, length_take_recipient h⟩
        let tsMs := Bytes.beValue ((keyBytes.drop 32).take 8)
        if QUEUE_ENTRY_TTL_MS < nowMs.toNat - tsMs then
          let expired := if expired.length < MAX_EXPIRE_PER_SWEEP then expired ++ [keyBytes] else expired
          driftLoop codec dht max nowMs out expired drifted rows
        else
          let (isDrifted, drifted) := match drifted.lookup userIpk with
            | some b => (b, drifted)
            | none => (driftedNow dht userIpk, (userIpk, driftedNow dht userIpk) :: drifted)
          if !isDrifted then driftLoop codec dht max nowMs out expired drifted rows
          else
            match parse keyBytes, codec.deser value with
            | some key, some dispatch =>
                let out := out ++ [(key, dispatch)]
                if max ≤ out.length then (out, expired)
                else driftLoop codec dht max nowMs out expired drifted rows
            | _, _ => driftLoop codec dht max nowMs out expired drifted rows
      else driftLoop codec dht max nowMs out expired drifted rows

def planDriftMigrations (codec : Codec DispatchP) (dht : Dht) (max : Nat) (nowMs : UInt64) :
    List (MessageKey × DispatchP) × Dht :=
  if max = 0 then ([], dht)
  else
    let (out, expired) := driftLoop codec dht max nowMs [] [] [] dht.store.queue.rows
    (out, dht.setQueue (dht.store.queue.eraseAll expired))

def deleteMigratedEntry (dht : Dht) (key : MessageKey) : Bool × Dht :=
  (true, dht.setQueue (dht.store.queue.erase key.asBytes))

/-- The calls that read or write the `dht_queue` keyspace. -/
inductive QueueOp where
  | enqueueForHome (userIpk : Bytes 32) (dispatch : DispatchP) (nowMs : UInt64)
  | deleteQueueEntries (userIpk : Bytes 32) (dispatchIds : List (Bytes 16))
  | queueBatchForUser (userIpk : Bytes 32) (max : Nat)
  | planDriftMigrations (max : Nat) (nowMs : UInt64)
  | deleteMigratedEntry (key : MessageKey)

def Dht.applyQueueOp (codec : Codec DispatchP) (dht : Dht) : QueueOp → Dht
  | .enqueueForHome userIpk dispatch nowMs => (enqueueForHome codec dht userIpk dispatch nowMs).2
  | .deleteQueueEntries userIpk dispatchIds => (deleteQueueEntries dht userIpk dispatchIds).2
  | .queueBatchForUser userIpk max => (queueBatchForUser codec dht userIpk max).2
  | .planDriftMigrations max nowMs => (planDriftMigrations codec dht max nowMs).2
  | .deleteMigratedEntry key => (deleteMigratedEntry dht key).2

end Promtuz
