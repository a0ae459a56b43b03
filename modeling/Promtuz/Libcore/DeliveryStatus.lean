import Promtuz.Libcore.Delivery

/-! What the three status writers do to an outgoing message: receipts only raise it, through
the slowest member's watermark of either kind, while the reconciler and the live send settle
it by overwriting, each on its own view of the fan-out. -/

namespace Promtuz

namespace Message

variable {rows : List StatusRow} {i : Nat} {m : StatusRow}

theorem getElem?_markByDispatchId (hm : rows[i]? = some m) {dispatchId : List UInt8}
    (hd : m.dispatchId = some dispatchId) (hout : m.outgoing = true) (status : UInt8) (timestamp : Option UInt64) :
    (markByDispatchId rows dispatchId status timestamp)[i]? =
      some { m with status := status, timestamp := timestamp.getD m.timestamp } := by
  rw [markByDispatchId, Table.getElem?_update, hm]
  simp [hd, hout]

theorem getElem?_markSent (hm : rows[i]? = some m) {id : Bytes 16} (hid : m.id = id) (timestamp : UInt64) :
    (markSent rows id timestamp)[i]? = some { m with status := STATUS_SENT, timestamp := timestamp } := by
  rw [markSent, Table.getElem?_update, hm]
  simp [hid]

theorem getElem?_markReceiptUpto_of_le (hm : rows[i]? = some m) {conversationId upto : Bytes 16}
    (hconv : m.conversationId = conversationId) (hout : m.outgoing = true) {d : List UInt8}
    (hd : m.dispatchId = some d) (hle : d ≤ upto.1) (status : UInt8) :
    (markReceiptUpto rows conversationId upto status).2[i]? =
      some (if m.status < status then { m with status := status } else m) := by
  rw [markReceiptUpto, Table.getElem?_update, hm]
  by_cases hlt : m.status < status <;> simp [receiptGuard, hconv, hout, hd, hle, hlt]

end Message

namespace Delivery

theorem anyPending_retire {rows : List OutboxRow} {id : List UInt8} {target : Option (Bytes 32)}
    (hlast : ∀ r ∈ rows, r.id = id → r.state = 0 → r.targetIpk = target) :
    anyPending (retire rows id target) id = false := by
  rw [anyPending, List.any_eq_false]
  intro r hr
  obtain ⟨hr, hkey⟩ := Table.mem_delete.1 hr
  simp only [outboxKey, decide_eq_false_iff_not, not_and] at hkey
  simp only [Bool.and_eq_true, decide_eq_true_eq, not_and]
  intro hid hstate
  exact hkey hid (hlast r hr hid hstate)

theorem mem_enqueue {rows : List OutboxRow} {id : List UInt8} {op : OpType} {target : Option (Bytes 32)}
    {payload : List UInt8} {nowMs : UInt64} {r : OutboxRow} (hr : r ∈ enqueue rows id op target payload nowMs) :
    r ∈ rows ∨ r = ⟨id, op, target, payload, msI64 nowMs, 0, 0, 0⟩ := by
  unfold enqueue at hr
  split_ifs at hr
  · exact .inl hr
  · simpa using hr

theorem anyPending_retire_enqueue {rows : List OutboxRow} {id : List UInt8} (hpend : anyPending rows id = false)
    (op : OpType) (target : Option (Bytes 32)) (payload : List UInt8) (nowMs : UInt64) :
    anyPending (retire (enqueue rows id op target payload nowMs) id target) id = false := by
  refine anyPending_retire fun r hr hid hstate => ?_
  rcases mem_enqueue hr with hr | rfl
  · -- no earlier copy was pending
    rw [anyPending, List.any_eq_false] at hpend
    exact absurd (by simp [hid, hstate]) (hpend r hr)
  · rfl

theorem reconcileRow_of_ack (kpCodec : Codec (List KeyPackageRecord)) (env : ReconcileEnv) (db : ClientDb)
    {row : OutboxRow} (hop : row.opType = .message) {ack : DispatchAck} (hack : env.ack row = some ack) :
    reconcileRow kpCodec env db row = settleRow env db row (outcomeForAck ack) (acceptedAtSecs ack) := by
  rw [reconcileRow, hop]
  simp only [hack]

theorem settleRow_last (env : ReconcileEnv) (db : ClientDb) {row : OutboxRow} (hop : row.opType = .message)
    {outcome : LastOutcome} (hretire : outcome = .durable ∨ outcome = .terminal) (acceptedTimestamp : Option UInt64)
    (hlast : ∀ r ∈ db.outbox, r.id = row.id → r.state = 0 → r.targetIpk = row.targetIpk) :
    (settleRow env db row outcome acceptedTimestamp).messages =
      if outcome = .terminal then markMessageFailed db.messages row.id
      else markMessageSent db.messages row.id (acceptedTimestamp.getD 0) := by
  have hclassify : classify row.opType outcome row.attempts (env.nowMs.saturatingSub row.createdAt) = .retire := by
    rcases hretire with rfl | rfl <;> rfl
  unfold settleRow
  simp only [hclassify]
  rw [if_pos ⟨hop, by simp [anyPending_retire hlast]⟩]
  split_ifs <;> rfl

end Delivery

namespace Messaging

open Delivery

variable (db : ClientDb) (nowMs : UInt64) (recipient : Bytes 32) (id : Bytes 16) (op : OpType)

theorem messages_dispatchToMember (s : MemberSend) :
    (dispatchToMember db nowMs recipient id op s).2.messages = db.messages := by
  unfold dispatchToMember
  split
  · rfl
  · split
    · rfl
    · dsimp only
      split_ifs <;> rfl

theorem dispatchToMember_retired {s : MemberSend} {bytes : List UInt8} {ack : DispatchAck}
    (hs : s = ⟨some bytes, some ack⟩) (hretire : outcomeForAck ack = .durable ∨ outcomeForAck ack = .terminal) :
    (dispatchToMember db nowMs recipient id op s).1 = outcomeForAck ack ∧
      (dispatchToMember db nowMs recipient id op s).2.outbox =
        retire (enqueue db.outbox id.1 op (some recipient) bytes nowMs) id.1 (some recipient) ∧
      (dispatchToMember db nowMs recipient id op s).2.lastAcceptedAt =
        if outcomeForAck ack = .durable then
          Table.replace Prod.fst (id, (acceptedAtSecs ack).getD 0) db.lastAcceptedAt
        else db.lastAcceptedAt := by
  subst hs
  rcases hretire with h | h
  · simp [dispatchToMember, h]
  · simp [dispatchToMember, h]

/-- A member whose copy is framed and acked `Durable` or `Terminal`. -/
def Retired (env : SendEnv) (recipient : Bytes 32) (outcome : LastOutcome) : Prop :=
  ∃ bytes ack, env.member recipient = ⟨some bytes, some ack⟩ ∧ outcomeForAck ack = outcome

theorem fanOut_retired (env : SendEnv) (id : Bytes 16) {rs : List (Bytes 32)}
    (hall : ∀ r ∈ rs, env.address r = true ∧ (Retired env r .durable ∨ Retired env r .terminal))
    (db : ClientDb) (terminal : Bool) (hpend : anyPending db.outbox id.1 = false) :
    (fanOut env id db terminal rs).1 = true ∧ (fanOut env id db terminal rs).2.2.messages = db.messages ∧
      anyPending (fanOut env id db terminal rs).2.2.outbox id.1 = false ∧
      ((∃ ts, db.lastAcceptedAt.find? (fun e => decide (e.1 = id)) = some (id, ts)) ∨
          (∃ r ∈ rs, Retired env r .durable) →
        ∃ ts, (fanOut env id db terminal rs).2.2.lastAcceptedAt.find? (fun e => decide (e.1 = id)) = some (id, ts)) := by
  induction rs generalizing db terminal with
  | nil =>
      refine ⟨rfl, rfl, hpend, fun h => ?_⟩
      rcases h with h | ⟨r, hr, -⟩
      · exact h
      · simp at hr
  | cons r rest ih =>
      obtain ⟨haddr, hret⟩ := hall r List.mem_cons_self
      have hbody : ∃ bytes ack, env.member r = ⟨some bytes, some ack⟩ ∧
          (outcomeForAck ack = .durable ∨ outcomeForAck ack = .terminal) := by
        rcases hret with ⟨bytes, ack, hs, h⟩ | ⟨bytes, ack, hs, h⟩
        · exact ⟨bytes, ack, hs, .inl h⟩
        · exact ⟨bytes, ack, hs, .inr h⟩
      obtain ⟨bytes, ack, hs, hout⟩ := hbody
      obtain ⟨hfst, hbox, hacc⟩ := dispatchToMember_retired db env.nowMs r id .message hs hout
      -- one member's turn, then the rest of the loop from the state it leaves
      have hstep : fanOut env id db terminal (r :: rest) =
          fanOut env id (dispatchToMember db env.nowMs r id .message (env.member r)).2
            (terminal || decide ((dispatchToMember db env.nowMs r id .message (env.member r)).1 = .terminal)) rest := by
        simp [fanOut, haddr]
      have hpend' : anyPending (dispatchToMember db env.nowMs r id .message (env.member r)).2.outbox id.1 = false := by
        rw [hbox]
        exact anyPending_retire_enqueue hpend _ _ _ _
      obtain ⟨h1, h2, h3, h4⟩ := ih (fun r' hr' => hall r' (List.mem_cons_of_mem _ hr')) _ _ hpend'
      refine ⟨by rw [hstep]; exact h1, by rw [hstep, h2, messages_dispatchToMember], by rw [hstep]; exact h3,
        fun hacc₀ => ?_⟩
      rw [hstep]
      refine h4 ?_
      -- the acceptance time is recorded by this member's `Durable` ack, or kept from before
      by_cases hdur : outcomeForAck ack = .durable
      · rw [hacc, if_pos hdur]
        exact .inl ⟨_, Table.find?_replace_self Prod.fst (id, (acceptedAtSecs ack).getD 0) db.lastAcceptedAt⟩
      · rw [hacc, if_neg hdur]
        rcases hacc₀ with hacc₀ | ⟨r', hr', hdur'⟩
        · exact .inl hacc₀
        · rcases List.mem_cons.1 hr' with rfl | hr'
          · obtain ⟨bytes', ack', hs', hd'⟩ := hdur'
            rw [hs] at hs'
            cases hs'
            exact absurd hd' hdur
          · exact .inr ⟨r', hr', hdur'⟩

theorem sendPayload_sent_of_retired (me : Option (Bytes 32)) (env : SendEnv) (db : ClientDb)
    (conversationId msgId id : Bytes 16)
    (hrecipients : Conversation.recipientsTx db.roster conversationId me ≠ []) (hme : me.isSome = true)
    (hsigner : env.signerOk = true) (hgroup : env.group = .ok) (hleaf : env.leafOk = true) (hseal : env.sealOk = true)
    (hall : ∀ r ∈ Conversation.recipientsTx db.roster conversationId me,
      env.address r = true ∧ (Retired env r .durable ∨ Retired env r .terminal))
    (hdurable : ∃ r ∈ Conversation.recipientsTx db.roster conversationId me, Retired env r .durable)
    (hpend : anyPending db.outbox id.1 = false) :
    ∃ ts, (sendPayload me env db conversationId msgId id).messages = Message.markSent db.messages msgId ts := by
  obtain ⟨hfin, hmsg, hpend', hacc⟩ := fanOut_retired env id hall db false hpend
  obtain ⟨ts, hts⟩ := hacc (.inr hdurable)
  refine ⟨ts, ?_⟩
  have hne : (Conversation.recipientsTx db.roster conversationId me).isEmpty = false :=
    List.isEmpty_eq_false_iff.2 hrecipients
  have hnone : me.isNone = false := by
    cases me
    · cases hme
    · rfl
  unfold sendPayload
  simp only [hne, hnone, hsigner, hgroup, hleaf, hseal, Bool.false_eq_true, if_false, Bool.not_true, Bool.or_false]
  rcases hres : fanOut env id db false (Conversation.recipientsTx db.roster conversationId me) with ⟨fin, term, db'⟩
  rw [hres] at hfin hmsg hpend' hts
  dsimp only at hfin hmsg hpend' hts ⊢
  subst hfin
  rw [hpend', hts]
  simp [hmsg]

end Messaging

section Reconcile

open Delivery

/-- The reconciler settles a message on the `Durable` ack of its last pending copy by writing
`Sent` over whatever status the message had, a receipt's `Delivered` or `Read` included. -/
theorem reconcile_durable_overwrites_status (kpCodec : Codec (List KeyPackageRecord)) (env : ReconcileEnv)
    (db : ClientDb) {row : OutboxRow} (hop : row.opType = .message) {ack : DispatchAck}
    (hack : env.ack row = some ack) (hdurable : outcomeForAck ack = .durable)
    (hlast : ∀ r ∈ db.outbox, r.id = row.id → r.state = 0 → r.targetIpk = row.targetIpk)
    {i : Nat} {m : StatusRow} (hm : db.messages[i]? = some m) (hout : m.outgoing = true)
    (hd : m.dispatchId = some row.id) :
    (reconcileRow kpCodec env db row).messages[i]? =
      some { m with status := STATUS_SENT, timestamp := (acceptedAtSecs ack).getD 0 } := by
  rw [reconcileRow_of_ack kpCodec env db hop hack, settleRow_last env db hop (.inl hdurable) _ hlast, hdurable,
    if_neg (by decide), markMessageSent, Message.getElem?_markByDispatchId hm hd hout, Option.getD_some]

def deviceIpk : Bytes 32 := Bytes.replicate 32 1

def peerB : Bytes 32 := Bytes.replicate 32 2

def peerC : Bytes 32 := Bytes.replicate 32 3

def directChatId : Bytes 16 := Bytes.replicate 16 5

def msgUlid : Bytes 16 := Bytes.replicate 16 7

def msgDispatch : Bytes 16 := Bytes.replicate 16 8

def directChatDb : ClientDb :=
  ⟨[], [], ⟨[⟨directChatId, KIND_DIRECT, none⟩],
    [⟨directChatId, deviceIpk, ROLE_MEMBER, true⟩, ⟨directChatId, peerB, ROLE_MEMBER, true⟩]⟩, [], []⟩

def noKpCodec : Codec (List KeyPackageRecord) := ⟨fun _ => none, fun _ => none⟩

def silentSend : Messaging.SendEnv := ⟨0, true, .ok, true, true, fun _ => true, fun _ => ⟨some [0], none⟩⟩

def ackedPass : ReconcileEnv := ⟨true, 1000, fun _ => none, fun _ => some (.delivered 5000)⟩

def readBeforeAck : ClientDb :=
  [DeliveryOp.save directChatId msgUlid msgDispatch 0, .send directChatId msgUlid msgDispatch silentSend,
    .receipt directChatId peerB .read msgDispatch].foldl (applyDeliveryOp noKpCodec (some deviceIpk)) directChatDb

def pendingCopy : OutboxRow := ⟨msgDispatch.1, .message, some peerB, [0], 0, 0, 0, 0⟩

theorem reconcile_durable_overwrites_status_read :
    readBeforeAck.messages[0]? = some ⟨msgUlid, directChatId, true, 0, STATUS_READ, some msgDispatch.1⟩ ∧
      (reconcile noKpCodec ackedPass readBeforeAck).messages =
        (reconcileRow noKpCodec ackedPass readBeforeAck pendingCopy).messages ∧
      (reconcileRow noKpCodec ackedPass readBeforeAck pendingCopy).messages[0]? =
        some ⟨msgUlid, directChatId, true, 5, STATUS_SENT, some msgDispatch.1⟩ := by
  have hm : readBeforeAck.messages[0]? = some ⟨msgUlid, directChatId, true, 0, STATUS_READ, some msgDispatch.1⟩ := by
    decide +kernel
  have hlast : ∀ r ∈ readBeforeAck.outbox, r.id = pendingCopy.id → r.state = 0 →
      r.targetIpk = pendingCopy.targetIpk := by
    decide +kernel
  exact ⟨hm, by decide +kernel,
    reconcile_durable_overwrites_status noKpCodec ackedPass readBeforeAck rfl rfl rfl hlast hm rfl rfl⟩

end Reconcile

section Receipts

/-- A `Read` receipt raises every outgoing message of its conversation at or below the slowest
member's watermark to `Read`; the watermarks it reads are raised by receipts of either kind. -/
theorem receipt_read_follows_any_watermark (me : Option (Bytes 32)) (db : ClientDb) (conversationId : Bytes 16)
    (author : Bytes 32) (upto : Bytes 16) {w : Bytes 16}
    (hw : Message.slowestMemberWatermark me db.roster
      (Message.upsertWatermark db.readState conversationId author upto) conversationId = some w)
    {i : Nat} {m : StatusRow} (hm : db.messages[i]? = some m) (hconv : m.conversationId = conversationId)
    (hout : m.outgoing = true) {d : List UInt8} (hd : m.dispatchId = some d) (hle : d ≤ w.1)
    (hbelow : m.status < STATUS_READ) :
    ((handleReceipt me db conversationId author .read upto).messages[i]?).map (·.status) = some STATUS_READ := by
  simp only [handleReceipt, Message.groupReceiptUpto, hw, receiptStatus]
  rw [Message.getElem?_markReceiptUpto_of_le hm hconv hout hd hle, if_pos hbelow]
  rfl

def laterUlid : Bytes 16 := Bytes.replicate 16 9

def laterDispatch : Bytes 16 := Bytes.replicate 16 10

def deliveredBoth : ClientDb :=
  [DeliveryOp.save directChatId msgUlid msgDispatch 0, .save directChatId laterUlid laterDispatch 0,
    .receipt directChatId peerB .delivered laterDispatch].foldl (applyDeliveryOp noKpCodec (some deviceIpk))
    directChatDb

/-- B then reports having read the earlier message only; the later one is marked read too. -/
theorem receipt_read_follows_any_watermark_direct :
    msgDispatch.1 < laterDispatch.1 ∧
      deliveredBoth.messages[1]? = some ⟨laterUlid, directChatId, true, 0, STATUS_DELIVERED, some laterDispatch.1⟩ ∧
      Message.slowestMemberWatermark (some deviceIpk) deliveredBoth.roster
        (Message.upsertWatermark deliveredBoth.readState directChatId peerB msgDispatch) directChatId = some laterDispatch ∧
      ((handleReceipt (some deviceIpk) deliveredBoth directChatId peerB .read msgDispatch).messages[1]?).map
        (·.status) = some STATUS_READ := by
  have hlt : msgDispatch.1 < laterDispatch.1 := by decide
  have hm : deliveredBoth.messages[1]? =
      some ⟨laterUlid, directChatId, true, 0, STATUS_DELIVERED, some laterDispatch.1⟩ := by
    decide +kernel
  have hw : Message.slowestMemberWatermark (some deviceIpk) deliveredBoth.roster
      (Message.upsertWatermark deliveredBoth.readState directChatId peerB msgDispatch) directChatId =
        some laterDispatch := by
    decide +kernel
  exact ⟨hlt, hm, hw, receipt_read_follows_any_watermark (some deviceIpk) deliveredBoth directChatId peerB
    msgDispatch hw hm rfl rfl rfl (List.le_refl _) (by decide)⟩

end Receipts

section FanOut

open Delivery Messaging

/-- A fan-out settles on whichever path ends it. The live send marks the message `Sent` once
every copy has left the queue and one was accepted, whatever the others' `Terminal` rejections;
the reconciler marks it `Failed` when the last copy it retires is rejected, whatever copies
were accepted before. -/
theorem fanout_settles_by_path :
    (∀ (me : Option (Bytes 32)) (env : SendEnv) (db : ClientDb) (conversationId msgId id : Bytes 16) (i : Nat)
      (m : StatusRow), Conversation.recipientsTx db.roster conversationId me ≠ [] → me.isSome = true →
      env.signerOk = true → env.group = .ok → env.leafOk = true → env.sealOk = true →
      (∀ r ∈ Conversation.recipientsTx db.roster conversationId me,
        env.address r = true ∧ (Retired env r .durable ∨ Retired env r .terminal)) →
      (∃ r ∈ Conversation.recipientsTx db.roster conversationId me, Retired env r .durable) →
      anyPending db.outbox id.1 = false → db.messages[i]? = some m → m.id = msgId →
      ∃ ts, (sendPayload me env db conversationId msgId id).messages[i]? =
        some { m with status := STATUS_SENT, timestamp := ts }) ∧
    (∀ (kpCodec : Codec (List KeyPackageRecord)) (env : ReconcileEnv) (db : ClientDb) (row : OutboxRow)
      (ack : DispatchAck) (i : Nat) (m : StatusRow), row.opType = .message → env.ack row = some ack →
      outcomeForAck ack = .terminal → (∀ r ∈ db.outbox, r.id = row.id → r.state = 0 → r.targetIpk = row.targetIpk) →
      db.messages[i]? = some m → m.outgoing = true → m.dispatchId = some row.id →
      (reconcileRow kpCodec env db row).messages[i]? = some { m with status := STATUS_FAILED }) := by
  constructor
  · intro me env db conversationId msgId id i m hrec hme hsigner hgroup hleaf hseal hall hdurable hpend hm hid
    obtain ⟨ts, hts⟩ := sendPayload_sent_of_retired me env db conversationId msgId id hrec hme hsigner hgroup hleaf
      hseal hall hdurable hpend
    exact ⟨ts, by rw [hts, Message.getElem?_markSent hm hid]⟩
  · intro kpCodec env db row ack i m hop hack hterminal hlast hm hout hd
    rw [reconcileRow_of_ack kpCodec env db hop hack, settleRow_last env db hop (.inr hterminal) _ hlast,
      if_pos hterminal, markMessageFailed, Message.getElem?_markByDispatchId hm hd hout, Option.getD_none]

def groupChatId : Bytes 16 := Bytes.replicate 16 6

def groupChatDb : ClientDb :=
  ⟨[⟨msgUlid, groupChatId, true, 0, STATUS_PENDING, some msgDispatch.1⟩], [],
    ⟨[⟨groupChatId, KIND_GROUP, none⟩], [⟨groupChatId, deviceIpk, ROLE_MEMBER, true⟩,
      ⟨groupChatId, peerB, ROLE_MEMBER, true⟩, ⟨groupChatId, peerC, ROLE_MEMBER, true⟩]⟩, [], []⟩

def splitSend : SendEnv :=
  ⟨0, true, .ok, true, true, fun _ => true, fun r =>
    if r = peerB then ⟨some [0], some (.delivered 5000)⟩ else ⟨some [1], some .notFound⟩⟩

def splitSendSilentC : SendEnv :=
  ⟨0, true, .ok, true, true, fun _ => true, fun r =>
    if r = peerB then ⟨some [0], some (.delivered 5000)⟩ else ⟨some [1], none⟩⟩

def rejectingPass : ReconcileEnv := ⟨true, 1000, fun _ => none, fun _ => some .notFound⟩

def copyForC : OutboxRow := ⟨msgDispatch.1, .message, some peerC, [1], 0, 0, 0, 0⟩

/-- The same outcomes per member (B accepted, C rejected) settle the message `Sent` when both
come back within the send, and `Failed` when C's comes back on a reconcile. -/
theorem fanout_settles_by_path_two_orders :
    ((sendPayload (some deviceIpk) splitSend groupChatDb groupChatId msgUlid msgDispatch).messages[0]?).map
        (·.status) = some STATUS_SENT ∧
      (reconcile noKpCodec rejectingPass
          (sendPayload (some deviceIpk) splitSendSilentC groupChatDb groupChatId msgUlid msgDispatch)).messages =
        (reconcileRow noKpCodec rejectingPass
          (sendPayload (some deviceIpk) splitSendSilentC groupChatDb groupChatId msgUlid msgDispatch) copyForC).messages ∧
      ((reconcileRow noKpCodec rejectingPass
          (sendPayload (some deviceIpk) splitSendSilentC groupChatDb groupChatId msgUlid msgDispatch)
          copyForC).messages[0]?).map (·.status) = some STATUS_FAILED := by
  have hrecipients : Conversation.recipientsTx groupChatDb.roster groupChatId (some deviceIpk) = [peerB, peerC] := by
    decide +kernel
  have hB : splitSend.member peerB = ⟨some [0], some (.delivered 5000)⟩ := by
    show (if peerB = peerB then (⟨some [0], some (.delivered 5000)⟩ : MemberSend) else ⟨some [1], some .notFound⟩) = _
    exact if_pos rfl
  have hC : splitSend.member peerC = ⟨some [1], some .notFound⟩ := by
    show (if peerC = peerB then (⟨some [0], some (.delivered 5000)⟩ : MemberSend) else ⟨some [1], some .notFound⟩) = _
    exact if_neg (by decide)
  have hall : ∀ r ∈ Conversation.recipientsTx groupChatDb.roster groupChatId (some deviceIpk),
      splitSend.address r = true ∧ (Retired splitSend r .durable ∨ Retired splitSend r .terminal) := by
    rw [hrecipients]
    intro r hr
    simp only [List.mem_cons, List.not_mem_nil, or_false] at hr
    rcases hr with rfl | rfl
    · exact ⟨rfl, .inl ⟨_, _, hB, rfl⟩⟩
    · exact ⟨rfl, .inr ⟨_, _, hC, rfl⟩⟩
  obtain ⟨ts, hsent⟩ := fanout_settles_by_path.1 (some deviceIpk) splitSend groupChatDb groupChatId msgUlid
    msgDispatch 0 _ (by rw [hrecipients]; exact List.cons_ne_nil _ _) rfl rfl rfl rfl rfl hall
    ⟨peerB, by rw [hrecipients]; exact List.mem_cons_self, _, _, hB, rfl⟩ rfl rfl rfl
  have hm : (sendPayload (some deviceIpk) splitSendSilentC groupChatDb groupChatId msgUlid msgDispatch).messages[0]? =
      some ⟨msgUlid, groupChatId, true, 0, STATUS_PENDING, some msgDispatch.1⟩ := by
    decide +kernel
  have hlast : ∀ r ∈ (sendPayload (some deviceIpk) splitSendSilentC groupChatDb groupChatId msgUlid msgDispatch).outbox,
      r.id = copyForC.id → r.state = 0 → r.targetIpk = copyForC.targetIpk := by
    decide +kernel
  refine ⟨by rw [hsent]; rfl, by decide +kernel, ?_⟩
  rw [fanout_settles_by_path.2 noKpCodec rejectingPass _ copyForC .notFound 0 _ rfl rfl rfl hlast hm rfl rfl]
  rfl

end FanOut

end Promtuz
