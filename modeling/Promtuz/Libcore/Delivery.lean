import Promtuz.Common.Wire
import Promtuz.Common.MlsWire
import Promtuz.Libcore.Conversation

/-! The status of an outgoing message and the three paths that write it: the live send
(`messaging::send_payload`), the outbox reconciler (`delivery::reconcile`) and inbound receipts
(`Message::group_receipt_upto`), over the `messages`, `member_read_state` and
`conversation_members` tables and the `outbox` table. -/

namespace Promtuz

def STATUS_PENDING : UInt8 := 0

def STATUS_SENT : UInt8 := 1

def STATUS_FAILED : UInt8 := 2

def STATUS_DELIVERED : UInt8 := 3

def STATUS_READ : UInt8 := 4

/-- `db::messages::MessageRow`, with the columns the status writers read or write. -/
structure StatusRow where
  id : Bytes 16
  conversationId : Bytes 16
  outgoing : Bool
  timestamp : UInt64
  status : UInt8
  dispatchId : Option (List UInt8)
  deriving DecidableEq

/-- A `member_read_state` row, keyed by `(conversation_id, member_ipk)`. -/
structure MemberReadRow where
  conversationId : Bytes 16
  memberIpk : Bytes 32
  uptoDispatchId : List UInt8
  deriving DecidableEq

/-- `db::outbox::OpType`. -/
inductive OpType where
  | message
  | welcome
  | kpPublish
  | control
  deriving DecidableEq, Repr

/-- An `outbox` row; `state` is 0 while pending and 1 once dead. -/
structure OutboxRow where
  id : List UInt8
  opType : OpType
  targetIpk : Option (Bytes 32)
  payload : List UInt8
  createdAt : UInt64
  attempts : Nat
  nextAttempt : UInt64
  state : UInt8
  deriving DecidableEq

structure ClientDb where
  messages : List StatusRow
  readState : List MemberReadRow
  roster : ConversationsDb
  outbox : List OutboxRow
  lastAcceptedAt : List (Bytes 16 × UInt64)

/-- `mls_wire::ReceiptKind`. -/
inductive ReceiptKind where
  | delivered
  | read
  deriving DecidableEq, Repr

namespace Message

/-- `save_outgoing`: a pending outgoing row under a freshly minted dispatch id. -/
def saveOutgoing (rows : List StatusRow) (conversationId id dispatchId : Bytes 16) (timestamp : UInt64) :
    List StatusRow :=
  rows ++ [⟨id, conversationId, true, timestamp, STATUS_PENDING, some dispatchId.1⟩]

/-- `mark_sent`: by the local id, whatever the status. -/
def markSent (rows : List StatusRow) (id : Bytes 16) (timestamp : UInt64) : List StatusRow :=
  Table.update (fun r => decide (r.id = id)) (fun r => { r with status := STATUS_SENT, timestamp := timestamp }) rows

/-- `mark_failed`: by the local id, whatever the status. -/
def markFailed (rows : List StatusRow) (id : Bytes 16) : List StatusRow :=
  Table.update (fun r => decide (r.id = id)) (fun r => { r with status := STATUS_FAILED }) rows

/-- `mark_by_dispatch_id`: every outgoing row under the dispatch id, whatever its status;
`COALESCE(?2, timestamp)` keeps the timestamp when none is given. -/
def markByDispatchId (rows : List StatusRow) (dispatchId : List UInt8) (status : UInt8)
    (timestamp : Option UInt64) : List StatusRow :=
  Table.update (fun r => decide (r.dispatchId = some dispatchId) && r.outgoing)
    (fun r => { r with status := status, timestamp := timestamp.getD r.timestamp }) rows

/-- The rows `mark_receipt_upto` raises: outgoing, of the conversation, below `status`, with a
dispatch id at or below `upto` in byte order. -/
def receiptGuard (conversationId : Bytes 16) (upto : Bytes 16) (status : UInt8) (r : StatusRow) : Bool :=
  decide (r.conversationId = conversationId) && r.outgoing && decide (r.status < status) &&
    match r.dispatchId with
    | some d => decide (d ≤ upto.1)
    | none => false

/-- `mark_receipt_upto`: whether a row changed, and the rows. -/
def markReceiptUpto (rows : List StatusRow) (conversationId : Bytes 16) (upto : Bytes 16) (status : UInt8) :
    Bool × List StatusRow :=
  (decide (0 < rows.countP (receiptGuard conversationId upto status)),
    Table.update (receiptGuard conversationId upto status) (fun r => { r with status := status }) rows)

/-- The primary key `(conversation_id, member_ipk)` of `member_read_state`. -/
def readKey (conversationId : Bytes 16) (member : Bytes 32) (r : MemberReadRow) : Bool :=
  decide (r.conversationId = conversationId ∧ r.memberIpk = member)

/-- The upsert of `group_receipt_upto`: insert, or on the key's conflict take the new
watermark only when it is higher. -/
def upsertWatermark (rows : List MemberReadRow) (conversationId : Bytes 16) (member : Bytes 32) (upto : Bytes 16) :
    List MemberReadRow :=
  if rows.any (readKey conversationId member) then
    Table.update (fun r => readKey conversationId member r && decide (r.uptoDispatchId < upto.1))
      (fun r => { r with uptoDispatchId := upto.1 }) rows
  else rows ++ [⟨conversationId, member, upto.1⟩]

def blobMin : List (List UInt8) → Option (List UInt8)
  | [] => none
  | v :: vs => some (vs.foldl (fun a b => if b < a then b else a) v)

/-- `slowest_member_watermark`: the least watermark over the active members other than us,
none while any of them has none (the `LEFT JOIN` counts) or there is no such member. -/
def slowestMemberWatermark (me : Option (Bytes 32)) (roster : ConversationsDb) (readState : List MemberReadRow)
    (conversationId : Bytes 16) : Option (Bytes 16) :=
  let me := me.getD (Bytes.replicate 32 0)
  let members := roster.members.filter fun m =>
    decide (m.conversationId = conversationId) && m.active && decide (m.memberIpk ≠ me)
  let marks := members.filterMap fun m =>
    (readState.find? (readKey conversationId m.memberIpk)).map (·.uptoDispatchId)
  if members.length = 0 ∨ marks.length < members.length then none
  else (blobMin marks).bind fun v => if h : v.length = 16 then some ⟨v, h⟩ else none

/-- `group_receipt_upto`: record the member's watermark, then raise the conversation's
messages up to the slowest active member's. -/
def groupReceiptUpto (me : Option (Bytes 32)) (db : ClientDb) (conversationId : Bytes 16) (member : Bytes 32)
    (upto : Bytes 16) (status : UInt8) : Bool × ClientDb :=
  let readState := upsertWatermark db.readState conversationId member upto
  match slowestMemberWatermark me db.roster readState conversationId with
  | none => (false, { db with readState := readState })
  | some slowest =>
      let (changed, messages) := markReceiptUpto db.messages conversationId slowest status
      (changed, { db with readState := readState, messages := messages })

end Message

def receiptStatus : ReceiptKind → UInt8
  | .delivered => STATUS_DELIVERED
  | .read => STATUS_READ

def handleReceipt (me : Option (Bytes 32)) (db : ClientDb) (conversationId : Bytes 16) (author : Bytes 32)
    (kind : ReceiptKind) (upto : Bytes 16) : ClientDb :=
  (Message.groupReceiptUpto me db conversationId author upto (receiptStatus kind)).2

namespace Delivery

/-- `delivery::LastOutcome`. -/
inductive LastOutcome where
  | durable
  | queued
  | reachable
  | terminal
  | silence
  deriving DecidableEq, Repr

/-- `outcome_for_ack`. -/
def outcomeForAck : DispatchAck → LastOutcome
  | .forwarded _ | .delivered _ | .queued _ => .durable
  | .queueFull | .error _ => .reachable
  | .notFound | .invalidSig => .terminal

/-- `accepted_at_secs`. -/
def acceptedAtSecs : DispatchAck → Option UInt64
  | .forwarded ms | .delivered ms | .queued ms => some (ms / 1000)
  | _ => none

/-- `ms_i64`: SQLite integers are `i64`, so a millisecond time saturates at `i64::MAX`. -/
def msI64 (ms : UInt64) : UInt64 := min ms 0x7fffffffffffffff

/-- The outbox key `(id, COALESCE(target_ipk, X''))`; a 32-byte target never equals `X''`. -/
def outboxKey (id : List UInt8) (target : Option (Bytes 32)) (r : OutboxRow) : Bool :=
  decide (r.id = id ∧ r.targetIpk = target)

/-- `enqueue`: `INSERT ... ON CONFLICT DO NOTHING`. -/
def enqueue (rows : List OutboxRow) (id : List UInt8) (op : OpType) (target : Option (Bytes 32))
    (payload : List UInt8) (nowMs : UInt64) : List OutboxRow :=
  if rows.any (outboxKey id target) then rows
  else rows ++ [⟨id, op, target, payload, msI64 nowMs, 0, 0, 0⟩]

/-- `retire`: drop one member's copy. -/
def retire (rows : List OutboxRow) (id : List UInt8) (target : Option (Bytes 32)) : List OutboxRow :=
  Table.delete (outboxKey id target) rows

/-- `any_pending`: some copy of the dispatch still in state 0. -/
def anyPending (rows : List OutboxRow) (id : List UInt8) : Bool :=
  rows.any fun r => decide (r.id = id) && decide (r.state = 0)

/-- `due`: the pending rows whose attempt time has come, oldest first. -/
def due (rows : List OutboxRow) (nowMs : UInt64) : List OutboxRow :=
  (rows.filter fun r => decide (r.state = 0) && decide (r.nextAttempt ≤ msI64 nowMs)).mergeSort
    fun a b => decide (a.createdAt ≤ b.createdAt)

/-- `record_attempt`. -/
def recordAttempt (rows : List OutboxRow) (id : List UInt8) (target : Option (Bytes 32)) (nextAttempt : UInt64) :
    List OutboxRow :=
  Table.update (outboxKey id target) (fun r => { r with attempts := r.attempts + 1, nextAttempt := msI64 nextAttempt })
    rows

/-- `mark_dead`. -/
def markDead (rows : List OutboxRow) (id : List UInt8) (target : Option (Bytes 32)) : List OutboxRow :=
  Table.update (outboxKey id target) (fun r => { r with state := 1 }) rows

def BASE_BACKOFF_MS : UInt64 := 1000

def CAP_BACKOFF_MS : UInt64 := 300000

def QUEUED_ESCALATION_MAX : Nat := 5

def DEAD_TTL_MS : UInt64 := 7 * 24 * 60 * 60 * 1000

def MESSAGE_SILENCE_MAX : Nat := 6

/-- `delivery::Next`. -/
inductive Next where
  | keepRetrying
  | retire
  | dead
  deriving DecidableEq, Repr

/-- `classify`: the terminal-decision policy. -/
def classify (op : OpType) (last : LastOutcome) (attempts : Nat) (ageMs : UInt64) : Next :=
  match last with
  | .durable | .terminal => .retire
  | .queued => if QUEUED_ESCALATION_MAX ≤ attempts then .retire else .keepRetrying
  | .reachable => .keepRetrying
  | .silence =>
      if op = .message ∧ MESSAGE_SILENCE_MAX ≤ attempts then .dead
      else if DEAD_TTL_MS < ageMs then .dead
      else .keepRetrying

/-- `next_backoff`. -/
def nextBackoff (attempts : Nat) : UInt64 :=
  min (BASE_BACKOFF_MS <<< UInt64.ofNat (min attempts 32)) CAP_BACKOFF_MS

/-- `mark_message_sent`. -/
def markMessageSent (rows : List StatusRow) (dispatchId : List UInt8) (timestamp : UInt64) : List StatusRow :=
  Message.markByDispatchId rows dispatchId STATUS_SENT (some timestamp)

/-- `mark_message_failed`. -/
def markMessageFailed (rows : List StatusRow) (dispatchId : List UInt8) : List StatusRow :=
  Message.markByDispatchId rows dispatchId STATUS_FAILED none

structure ReconcileEnv where
  connected : Bool
  nowMs : UInt64
  publish : OutboxRow → Option Bool
  ack : OutboxRow → Option DispatchAck

/-- The end of one row's turn in `reconcile`: classify the outcome, then retire, kill or
reschedule the copy, settling the message once no copy of it is left pending. -/
def settleRow (env : ReconcileEnv) (db : ClientDb) (row : OutboxRow) (outcome : LastOutcome)
    (acceptedTimestamp : Option UInt64) : ClientDb :=
  let age := env.nowMs.saturatingSub row.createdAt
  match classify row.opType outcome row.attempts age with
  | .retire =>
      let outbox := retire db.outbox row.id row.targetIpk
      if row.opType = .message ∧ !anyPending outbox row.id then
        -- a retired message copy that is not `Terminal` is `Durable`, whose ack carries a time
        if outcome = .terminal then { db with outbox := outbox, messages := markMessageFailed db.messages row.id }
        else { db with outbox := outbox, messages := markMessageSent db.messages row.id (acceptedTimestamp.getD 0) }
      else { db with outbox := outbox }
  | .dead =>
      let outbox := markDead db.outbox row.id row.targetIpk
      if row.opType = .message ∧ !anyPending outbox row.id then
        { db with outbox := outbox, messages := markMessageFailed db.messages row.id }
      else { db with outbox := outbox }
  | .keepRetrying =>
      { db with outbox := recordAttempt db.outbox row.id row.targetIpk (env.nowMs + nextBackoff row.attempts) }

/-- One row's turn in `reconcile`. A `KpPublish` row without a DHT client is skipped, and one
whose payload does not decode is dropped. -/
def reconcileRow (kpCodec : Codec (List KeyPackageRecord)) (env : ReconcileEnv) (db : ClientDb) (row : OutboxRow) :
    ClientDb :=
  match row.opType with
  | .kpPublish =>
      match env.publish row with
      | none => db
      | some ok =>
          match kpCodec.deser row.payload with
          | none => { db with outbox := retire db.outbox row.id row.targetIpk }
          | some _ => settleRow env db row (if ok then .durable else .reachable) none
  | _ =>
      match env.ack row with
      | some ack => settleRow env db row (outcomeForAck ack) (acceptedAtSecs ack)
      | none => settleRow env db row .silence none

/-- `reconcile`: with a relay connection, one turn for each row due at the start. -/
def reconcile (kpCodec : Codec (List KeyPackageRecord)) (env : ReconcileEnv) (db : ClientDb) : ClientDb :=
  if !env.connected then db
  else (due db.outbox env.nowMs).foldl (reconcileRow kpCodec env) db

end Delivery

namespace Messaging

open Delivery

structure MemberSend where
  frame : Option (List UInt8)
  ack : Option DispatchAck

/-- `dispatch_to_member`: enqueue the framed copy, send it, and retire it on a `Durable` or
`Terminal` ack, recording the acceptance time of a `Durable` one. -/
def dispatchToMember (db : ClientDb) (nowMs : UInt64) (recipient : Bytes 32) (id : Bytes 16) (op : OpType)
    (s : MemberSend) : LastOutcome × ClientDb :=
  match s.frame with
  | none => (.terminal, db)
  | some bytes =>
      let db := { db with outbox := enqueue db.outbox id.1 op (some recipient) bytes nowMs }
      match s.ack with
      | none => (.silence, db)
      | some ack =>
          let outcome := outcomeForAck ack
          if outcome = .durable then
            let lastAcceptedAt := Table.replace Prod.fst (id, (acceptedAtSecs ack).getD 0) db.lastAcceptedAt
            (outcome, { db with outbox := retire db.outbox id.1 (some recipient), lastAcceptedAt := lastAcceptedAt })
          else if outcome = .terminal then (outcome, { db with outbox := retire db.outbox id.1 (some recipient) })
          else (outcome, db)

/-- How `group_for_conversation` ends: a group, a missing KeyPackage, or another error. -/
inductive GroupLookup where
  | ok
  | noStash
  | error
  deriving DecidableEq, Repr

/-- What `send_payload` meets besides the databases: the clock, the signer, the group, the
leaf signer and the seal, whether the sealed message can be addressed to each member, and each
member's dispatch. -/
structure SendEnv where
  nowMs : UInt64
  signerOk : Bool
  group : GroupLookup
  leafOk : Bool
  sealOk : Bool
  address : Bytes 32 → Bool
  member : Bytes 32 → MemberSend

/-- The fan-out loop of `send_payload`: whether it reached the end (an addressing error
returns early), whether some copy was `Terminal`, and the database. -/
def fanOut (env : SendEnv) (id : Bytes 16) : ClientDb → Bool → List (Bytes 32) → Bool × Bool × ClientDb
  | db, terminal, [] => (true, terminal, db)
  | db, terminal, recipient :: rest =>
      if !env.address recipient then (false, terminal, db)
      else
        let (outcome, db) := dispatchToMember db env.nowMs recipient id .message (env.member recipient)
        fanOut env id db (terminal || decide (outcome = .terminal)) rest

/-- `send_payload` for the message `msgId` under `dispatchId`: fan out, then settle only once
no member's copy is left queued, `Sent` if some copy was accepted in this fan-out and `Failed`
if none was and some copy was `Terminal`. -/
def sendPayload (me : Option (Bytes 32)) (env : SendEnv) (db : ClientDb) (conversationId msgId dispatchId : Bytes 16) :
    ClientDb :=
  let recipients := Conversation.recipientsTx db.roster conversationId me
  if recipients.isEmpty then { db with messages := Message.markFailed db.messages msgId }
  else if me.isNone || !env.signerOk then db
  else
    match env.group with
    | .noStash => db
    | .error => { db with messages := Message.markFailed db.messages msgId }
    | .ok =>
        if !env.leafOk then db
        else if !env.sealOk then { db with messages := Message.markFailed db.messages msgId }
        else
          let (finished, terminal, db) := fanOut env dispatchId db false recipients
          if !finished || anyPending db.outbox dispatchId.1 then db
          else
            let accepted := (db.lastAcceptedAt.find? fun e => decide (e.1 = dispatchId)).map (·.2)
            let db := { db with lastAcceptedAt := db.lastAcceptedAt.filter fun e => decide (e.1 ≠ dispatchId) }
            match accepted with
            | some timestamp => { db with messages := Message.markSent db.messages msgId timestamp }
            | none => if terminal then { db with messages := Message.markFailed db.messages msgId } else db

end Messaging

inductive DeliveryOp where
  | save (conversationId id dispatchId : Bytes 16) (timestamp : UInt64)
  | send (conversationId msgId dispatchId : Bytes 16) (env : Messaging.SendEnv)
  | reconcile (env : Delivery.ReconcileEnv)
  | receipt (conversationId : Bytes 16) (author : Bytes 32) (kind : ReceiptKind) (upto : Bytes 16)

def applyDeliveryOp (kpCodec : Codec (List KeyPackageRecord)) (me : Option (Bytes 32)) (db : ClientDb) :
    DeliveryOp → ClientDb
  | .save conversationId id dispatchId timestamp =>
      { db with messages := Message.saveOutgoing db.messages conversationId id dispatchId timestamp }
  | .send conversationId msgId dispatchId env => Messaging.sendPayload me env db conversationId msgId dispatchId
  | .reconcile env => Delivery.reconcile kpCodec env db
  | .receipt conversationId author kind upto => handleReceipt me db conversationId author kind upto

end Promtuz
