import Promtuz.Relay.QueueBatch

/-! The sticky-home queue RPCs: `QueueFetch` and `QueueFetchAck` as `common::proto::dht_p2p`
defines and verifies them, and their handlers in `relay/src/dht/queue_drain.rs`.

Both handlers first check that the requester field names the connection's authenticated peer,
then the user's signature and the skew window. A fetch also checks the K-closest set and reads one
page; an ack deletes the listed ids under the user's prefix. -/

namespace Promtuz

open MessageKey

def MAX_DHT_HELLO_SKEW_MS : Nat := 60000

def DHT_QUEUE_FETCH_SIG_DOMAIN : List UInt8 := "promtuz-dht-queue-fetch-v1".toUTF8.toList

def DHT_QUEUE_FETCH_ACK_SIG_DOMAIN : List UInt8 := "promtuz-dht-queue-fetch-ack-v1".toUTF8.toList

def queueFetchSigningInput (userIpk : Bytes 32) (requesterRelayId : NodeId) (timestamp : UInt64) :
    List UInt8 :=
  DHT_QUEUE_FETCH_SIG_DOMAIN ++ Bytes.toBeBytes 2 PROTOCOL_VERSION.toNat ++ userIpk.1 ++
    requesterRelayId.1 ++ Bytes.toBeBytes 8 timestamp.toNat

/-- The id count goes in as `len() as u32`. -/
def queueFetchAckSigningInput (userIpk : Bytes 32) (requesterRelayId : NodeId)
    (deliveredIds : List (Bytes 16)) (timestamp : UInt64) : List UInt8 :=
  DHT_QUEUE_FETCH_ACK_SIG_DOMAIN ++ Bytes.toBeBytes 2 PROTOCOL_VERSION.toNat ++ userIpk.1 ++
    requesterRelayId.1 ++ Bytes.toBeBytes 4 deliveredIds.length ++ deliveredIds.flatMap Subtype.val ++
    Bytes.toBeBytes 8 timestamp.toNat

structure QueueFetch where
  userIpk : Bytes 32
  requesterRelayId : NodeId
  timestamp : UInt64
  userSig : Bytes 64

structure QueueFetchAck where
  userIpk : Bytes 32
  requesterRelayId : NodeId
  deliveredIds : List (Bytes 16)
  timestamp : UInt64
  userSig : Bytes 64

/-- `MalformedField` (a key that is no Ed25519 point) is folded into `verifyStrict`, which fails
on such a key; the handlers answer every error alike. -/
inductive QueueFetchVerifyError where
  | badUserSig
  | staleTimestamp
  | futureTimestamp
  deriving DecidableEq, Repr

inductive QueueFetchAckVerifyError where
  | tooManyIds
  | badUserSig
  | staleTimestamp
  | futureTimestamp
  deriving DecidableEq, Repr

def skewCheck {ε : Type} (stale future : ε) (timestamp nowMs : UInt64) : Except ε Unit :=
  if timestamp < nowMs ∧ MAX_DHT_HELLO_SKEW_MS < (nowMs - timestamp).toNat then .error stale
  else if nowMs < timestamp ∧ MAX_DHT_HELLO_SKEW_MS < (timestamp - nowMs).toNat then .error future
  else .ok ()

def QueueFetch.verify (crypto : Crypto) (req : QueueFetch) (nowMs : UInt64) :
    Except QueueFetchVerifyError Unit :=
  if !crypto.verifyStrict req.userIpk.1 (queueFetchSigningInput req.userIpk req.requesterRelayId req.timestamp)
      req.userSig.1 then .error .badUserSig
  else skewCheck .staleTimestamp .futureTimestamp req.timestamp nowMs

def QueueFetchAck.verify (crypto : Crypto) (req : QueueFetchAck) (nowMs : UInt64) :
    Except QueueFetchAckVerifyError Unit :=
  if MAX_FETCH_QUEUE_ACK_IDS < req.deliveredIds.length then .error .tooManyIds
  else if !crypto.verifyStrict req.userIpk.1
      (queueFetchAckSigningInput req.userIpk req.requesterRelayId req.deliveredIds req.timestamp)
      req.userSig.1 then .error .badUserSig
  else skewCheck .staleTimestamp .futureTimestamp req.timestamp nowMs

structure QueueFetchResp where
  messages : List DispatchP
  exhausted : Bool

structure QueueFetchAckResp where
  ok : Bool

/-- `handle_queue_fetch_rpc`: every rejection is an empty, exhausted page. -/
def handleQueueFetchRpc (codec : Codec DispatchP) (crypto : Crypto) (dht : Dht) (req : QueueFetch)
    (authenticatedPeerId : NodeId) (nowMs : UInt64) : QueueFetchResp × Dht :=
  if req.requesterRelayId ≠ authenticatedPeerId then (⟨[], true⟩, dht)
  else
    match req.verify crypto nowMs with
    | .error _ => (⟨[], true⟩, dht)
    | .ok () =>
        if !selfIsInKClosestQd dht req.userIpk then (⟨[], true⟩, dht)
        else
          let ((batch, exhausted), dht) := queueBatchForUser codec dht req.userIpk MAX_FETCH_QUEUE_BATCH
          (⟨batch.map Prod.snd, exhausted⟩, dht)

def handleQueueFetchAckRpc (crypto : Crypto) (dht : Dht) (req : QueueFetchAck)
    (authenticatedPeerId : NodeId) (nowMs : UInt64) : QueueFetchAckResp × Dht :=
  if req.requesterRelayId ≠ authenticatedPeerId then (⟨false⟩, dht)
  else
    match req.verify crypto nowMs with
    | .error _ => (⟨false⟩, dht)
    | .ok () => (⟨true⟩, (deleteQueueEntries dht req.userIpk req.deliveredIds).2)

theorem skewCheck_eq_ok {ε : Type} (stale future : ε) (timestamp nowMs : UInt64) :
    skewCheck stale future timestamp nowMs = .ok () ↔
      (nowMs.absDiff timestamp).toNat ≤ MAX_DHT_HELLO_SKEW_MS := by
  unfold skewCheck UInt64.absDiff
  by_cases h : timestamp ≤ nowMs
  · have hsub := UInt64.toNat_sub_of_le nowMs timestamp h
    have hle := UInt64.le_iff_toNat_le.1 h
    simp only [h, if_true, UInt64.lt_iff_toNat_lt, hsub]
    split
    · simp only [reduceCtorEq, false_iff]; omega
    · split
      · omega
      · simp only [true_iff]; omega
  · -- the clock is behind the request: only the future check can fire
    have hlt : nowMs < timestamp :=
      UInt64.lt_iff_toNat_lt.2 (by have := mt UInt64.le_iff_toNat_le.2 h; omega)
    have hsub := UInt64.toNat_sub_of_le timestamp nowMs (UInt64.le_of_lt hlt)
    have hlt' := UInt64.lt_iff_toNat_lt.1 hlt
    simp only [h, if_false, UInt64.lt_iff_toNat_lt, hsub]
    split
    · omega
    · split
      · simp only [reduceCtorEq, false_iff]; omega
      · simp only [true_iff]; omega

/-- What a home has checked before it acts for `userIpk` on a request signed over `msg`: the
requester field names the connection's peer, the user's key verifies the signature, and the
timestamp is within `MAX_DHT_HELLO_SKEW_MS` of the home's clock. -/
structure SignedBy (crypto : Crypto) (userIpk : Bytes 32) (msg : List UInt8) (sig : Bytes 64)
    (requester peer : NodeId) (timestamp nowMs : UInt64) : Prop where
  requester_eq : requester = peer
  sig_ok : crypto.verifyStrict userIpk.1 msg sig.1 = true
  fresh : (nowMs.absDiff timestamp).toNat ≤ MAX_DHT_HELLO_SKEW_MS

def QueueFetch.Authorized (crypto : Crypto) (req : QueueFetch) (peer : NodeId) (nowMs : UInt64) : Prop :=
  SignedBy crypto req.userIpk (queueFetchSigningInput req.userIpk req.requesterRelayId req.timestamp)
    req.userSig req.requesterRelayId peer req.timestamp nowMs

def QueueFetchAck.Authorized (crypto : Crypto) (req : QueueFetchAck) (peer : NodeId) (nowMs : UInt64) :
    Prop :=
  req.deliveredIds.length ≤ MAX_FETCH_QUEUE_ACK_IDS ∧
    SignedBy crypto req.userIpk
      (queueFetchAckSigningInput req.userIpk req.requesterRelayId req.deliveredIds req.timestamp)
      req.userSig req.requesterRelayId peer req.timestamp nowMs

theorem QueueFetch.verify_eq_ok (crypto : Crypto) (req : QueueFetch) (nowMs : UInt64) :
    req.verify crypto nowMs = .ok () ↔
      crypto.verifyStrict req.userIpk.1 (queueFetchSigningInput req.userIpk req.requesterRelayId req.timestamp)
          req.userSig.1 = true ∧
        (nowMs.absDiff req.timestamp).toNat ≤ MAX_DHT_HELLO_SKEW_MS := by
  unfold QueueFetch.verify
  cases crypto.verifyStrict req.userIpk.1 (queueFetchSigningInput req.userIpk req.requesterRelayId req.timestamp)
    req.userSig.1
  · simp
  · simp [skewCheck_eq_ok]

theorem QueueFetchAck.verify_eq_ok (crypto : Crypto) (req : QueueFetchAck) (nowMs : UInt64) :
    req.verify crypto nowMs = .ok () ↔
      req.deliveredIds.length ≤ MAX_FETCH_QUEUE_ACK_IDS ∧
        crypto.verifyStrict req.userIpk.1
            (queueFetchAckSigningInput req.userIpk req.requesterRelayId req.deliveredIds req.timestamp)
            req.userSig.1 = true ∧
          (nowMs.absDiff req.timestamp).toNat ≤ MAX_DHT_HELLO_SKEW_MS := by
  unfold QueueFetchAck.verify
  by_cases hlen : MAX_FETCH_QUEUE_ACK_IDS < req.deliveredIds.length
  · simp only [hlen, if_true, reduceCtorEq, false_iff, not_and]
    exact fun h => absurd h (Nat.not_le.2 hlen)
  · cases crypto.verifyStrict req.userIpk.1
      (queueFetchAckSigningInput req.userIpk req.requesterRelayId req.deliveredIds req.timestamp) req.userSig.1
    · simp [hlen]
    · simp [hlen, skewCheck_eq_ok]
      omega

section Handlers

variable (codec : Codec DispatchP) (crypto : Crypto) (dht : Dht) (peer : NodeId) (nowMs : UInt64)

theorem handleQueueFetchRpc_cases (req : QueueFetch) :
    handleQueueFetchRpc codec crypto dht req peer nowMs = (⟨[], true⟩, dht) ∨
      req.Authorized crypto peer nowMs ∧ selfIsInKClosestQd dht req.userIpk = true ∧
        handleQueueFetchRpc codec crypto dht req peer nowMs =
          (⟨(queueBatchForUser codec dht req.userIpk MAX_FETCH_QUEUE_BATCH).1.1.map Prod.snd,
            (queueBatchForUser codec dht req.userIpk MAX_FETCH_QUEUE_BATCH).1.2⟩,
            (queueBatchForUser codec dht req.userIpk MAX_FETCH_QUEUE_BATCH).2) := by
  unfold handleQueueFetchRpc
  by_cases hpeer : req.requesterRelayId = peer
  · rcases hv : req.verify crypto nowMs with e | ⟨⟩
    · simp [hpeer]
    · obtain ⟨hsig, hfresh⟩ := (QueueFetch.verify_eq_ok crypto req nowMs).1 hv
      cases hk : selfIsInKClosestQd dht req.userIpk
      · simp [hpeer]
      · exact .inr ⟨⟨hpeer, hsig, hfresh⟩, rfl, by simp [hpeer]⟩
  · simp [hpeer]

theorem handleQueueFetchAckRpc_cases (req : QueueFetchAck) :
    handleQueueFetchAckRpc crypto dht req peer nowMs = (⟨false⟩, dht) ∨
      req.Authorized crypto peer nowMs ∧
        handleQueueFetchAckRpc crypto dht req peer nowMs =
          (⟨true⟩, (deleteQueueEntries dht req.userIpk req.deliveredIds).2) := by
  unfold handleQueueFetchAckRpc
  by_cases hpeer : req.requesterRelayId = peer
  · rcases hv : req.verify crypto nowMs with e | ⟨⟩
    · simp [hpeer]
    · obtain ⟨hlen, hsig, hfresh⟩ := (QueueFetchAck.verify_eq_ok crypto req nowMs).1 hv
      exact .inr ⟨⟨hlen, hpeer, hsig, hfresh⟩, by simp [hpeer]⟩
  · simp [hpeer]

theorem served_of_handleQueueFetchRpc (req : QueueFetch) {d : DispatchP}
    (hd : d ∈ (handleQueueFetchRpc codec crypto dht req peer nowMs).1.messages) :
    req.Authorized crypto peer nowMs ∧ ∃ key, key.recipient = req.userIpk ∧
      (key, d) ∈ decodedRows codec (dht.store.queue.prefixScan req.userIpk.1) := by
  rcases handleQueueFetchRpc_cases codec crypto dht peer nowMs req with h | ⟨hauth, -, h⟩
  · rw [h] at hd
    cases hd
  · rw [h] at hd
    obtain ⟨⟨key, d'⟩, he, rfl⟩ := List.mem_map.1 hd
    have hrow := (page_prefix_decodedRows codec dht req.userIpk MAX_FETCH_QUEUE_BATCH).subset he
    exact ⟨hauth, key, recipient_of_mem_decodedRows codec hrow, hrow⟩

theorem dropped_of_handleQueueFetchRpc (req : QueueFetch) {row : List UInt8 × List UInt8}
    (hrow : row ∈ dht.store.queue.rows)
    (hgone : row ∉ (handleQueueFetchRpc codec crypto dht req peer nowMs).2.store.queue.rows) :
    req.Authorized crypto peer nowMs ∧ req.userIpk.1.isPrefixOf row.1 = true ∧ (parse row.1).isSome ∧
      QUEUE_BATCH_MAX_BYTES < row.2.length := by
  rcases handleQueueFetchRpc_cases codec crypto dht peer nowMs req with h | ⟨hauth, -, h⟩
  · rw [h] at hgone
    exact absurd hrow hgone
  · rw [h] at hgone
    exact ⟨hauth, dropped_of_queueBatchForUser codec dht req.userIpk (by decide) hrow hgone⟩

theorem mem_victims_of_deleteQueueEntries (userIpk : Bytes 32) (ids : List (Bytes 16))
    {row : List UInt8 × List UInt8} (hrow : row ∈ dht.store.queue.rows)
    (hgone : row ∉ (deleteQueueEntries dht userIpk ids).2.store.queue.rows) :
    userIpk.1.isPrefixOf row.1 = true ∧ row.1.length = SIZE ∧ keyId row.1 ∈ ids.map Subtype.val := by
  unfold deleteQueueEntries at hgone
  split at hgone
  · exact absurd hrow hgone
  · simp only [Dht.setQueue_queue, SortedMap.rows_eraseAll, List.mem_filter, hrow, true_and,
      decide_eq_true_eq, not_not, List.mem_map, List.mem_filter, Bool.and_eq_true,
      decide_eq_true_eq] at hgone
    obtain ⟨row', ⟨hscan, hsize, hid⟩, hkey⟩ := hgone
    have hsame : row' = row := SortedMap.eq_of_mem_of_key_eq (mem_prefixScan.1 hscan).1 hrow hkey
    subst hsame
    exact ⟨(mem_prefixScan.1 hscan).2, hsize, List.mem_map.2 hid⟩

theorem deleted_of_handleQueueFetchAckRpc (req : QueueFetchAck) {row : List UInt8 × List UInt8}
    (hrow : row ∈ dht.store.queue.rows)
    (hgone : row ∉ (handleQueueFetchAckRpc crypto dht req peer nowMs).2.store.queue.rows) :
    req.Authorized crypto peer nowMs ∧ req.userIpk.1.isPrefixOf row.1 = true ∧ row.1.length = SIZE ∧
      keyId row.1 ∈ req.deliveredIds.map Subtype.val := by
  rcases handleQueueFetchAckRpc_cases crypto dht peer nowMs req with h | ⟨hauth, h⟩
  · rw [h] at hgone
    exact absurd hrow hgone
  · rw [h] at hgone
    exact ⟨hauth, mem_victims_of_deleteQueueEntries dht req.userIpk req.deliveredIds hrow hgone⟩

theorem oversize_sub_batchLoop (max : Nat) (rows : List (List UInt8 × List UInt8)) :
    ∀ (out : List (MessageKey × DispatchP)) (used : Nat) (oversize : List (List UInt8)),
      oversize ⊆ (batchLoop codec max out used oversize rows).2.1 := by
  induction rows with
  | nil => intro out used oversize; exact List.Subset.refl _
  | cons row rows ih =>
      intro out used oversize
      obtain ⟨keyBytes, value⟩ := row
      unfold batchLoop
      split
      · exact ih _ _ _
      · split
        · exact List.Subset.trans (List.subset_append_left _ _) (ih _ _ _)
        · split
          · exact List.Subset.refl _
          · split
            · exact ih _ _ _
            · exact ih _ _ _

theorem get?_queueBatchForUser_of_oversize_head (userIpk : Bytes 32) {max : Nat} (hmax : 0 < max)
    {key : MessageKey} {value : List UInt8} {rest : List (List UInt8 × List UInt8)}
    (hscan : dht.store.queue.prefixScan userIpk.1 = (key.asBytes, value) :: rest)
    (hbig : QUEUE_BATCH_MAX_BYTES < value.length) :
    (queueBatchForUser codec dht userIpk max).2.store.queue.get? key.asBytes = none := by
  have hdrop : key.asBytes ∈ (batchLoop codec max [] 0 [] (dht.store.queue.prefixScan userIpk.1)).2.1 := by
    rw [hscan, batchLoop, parse_asBytes]
    simp only [if_pos hbig]
    exact oversize_sub_batchLoop codec max rest [] 0 _ List.mem_cons_self
  simp only [queueBatchForUser, if_neg (Nat.pos_iff_ne_zero.1 hmax), Dht.setQueue_queue]
  rw [SortedMap.get?_eq_none_iff]
  intro r hr hkey
  simp only [SortedMap.rows_eraseAll, List.mem_filter, decide_eq_true_eq, hkey] at hr
  exact hr.2 hdrop

theorem get?_handleQueueFetchRpc_of_oversize_head (req : QueueFetch) (hauth : req.Authorized crypto peer nowMs)
    (hhome : selfIsInKClosestQd dht req.userIpk = true) {key : MessageKey} {value : List UInt8}
    {rest : List (List UInt8 × List UInt8)}
    (hscan : dht.store.queue.prefixScan req.userIpk.1 = (key.asBytes, value) :: rest)
    (hbig : QUEUE_BATCH_MAX_BYTES < value.length) :
    (handleQueueFetchRpc codec crypto dht req peer nowMs).2.store.queue.get? key.asBytes = none := by
  have ⟨hpeer, hsig, hfresh⟩ := hauth
  have hv : req.verify crypto nowMs = .ok () := (QueueFetch.verify_eq_ok crypto req nowMs).2 ⟨hsig, hfresh⟩
  simp only [handleQueueFetchRpc, hpeer, ne_eq, not_true_eq_false, if_false, hv, hhome, Bool.not_true,
    Bool.false_eq_true]
  exact get?_queueBatchForUser_of_oversize_head codec dht req.userIpk (by decide) hscan hbig

end Handlers

end Promtuz
