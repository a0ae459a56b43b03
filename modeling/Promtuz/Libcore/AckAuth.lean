import Promtuz.Relay.QueueFetch
import Promtuz.Libcore.DrainLoop
import Promtuz.Relay.Retransmit
import Promtuz.Relay.HomeSet
import Promtuz.Lib.Reach

/-! Who can make a home serve or delete queued dispatches.

A home serves a page only on a `QueueFetch` and deletes only on a `QueueFetchAck` or a
`QueueFetch`, each signed by the user over a transcript that names the requesting relay, with a
fresh timestamp. libcore signs an ack only in the drain that answers its own `AckDrain`, only when
no frame of that drain failed, and only over ids it stored (`handle_ack_auth_request` in
`libcore/src/quic/server.rs`). A fetch deletes the user's rows that are too large to frame
without any list of ids. -/

namespace Promtuz

open Routing MessageKey

structure AckAuthRequest where
  requesterRelayId : NodeId
  deliveredIds : List (Bytes 16)
  suggestedTimestamp : UInt64

/-- `handle_ack_auth_request`: the signature and timestamp of the `AckAuth` reply, if libcore
sends one. `sign` is `IdentitySigner::sign` under the user's identity key. -/
def handleAckAuthRequest (sign : List UInt8 → Option (Bytes 64)) (ipk : Bytes 32) (requesterRelayId : NodeId)
    (deliveredIds : List (Bytes 16)) (suggestedTimestamp : UInt64) (drained : List (Bytes 16)) :
    Option (Bytes 64 × UInt64) :=
  if MAX_FETCH_QUEUE_ACK_IDS < deliveredIds.length then none
  else if (deliveredIds.find? fun id => id ∉ drained).isSome then none
  else
    (sign (queueFetchAckSigningInput ipk requesterRelayId deliveredIds suggestedTimestamp)).map
      fun sig => (sig, suggestedTimestamp)

def drainSession (sign : List UInt8 → Option (Bytes 64)) (ipk : Bytes 32) (processDeliver : DeliverP → Bool)
    (frames : List DeliverP) (reply : Option AckAuthRequest) : Option (Bytes 64 × UInt64) :=
  let (drained, failed) := drainFrames processDeliver [] false frames
  if !drained.isEmpty && !failed then
    reply.bind fun req =>
      handleAckAuthRequest sign ipk req.requesterRelayId req.deliveredIds req.suggestedTimestamp drained
  else none

theorem mem_drainFrames (processDeliver : DeliverP → Bool) (frames : List DeliverP) :
    ∀ (drained : List (Bytes 16)) (failed : Bool) (i : Bytes 16),
      i ∈ (drainFrames processDeliver drained failed frames).1 ↔
        i ∈ drained ∨ ∃ f ∈ frames, processDeliver f = true ∧ f.id = i := by
  induction frames with
  | nil => intro drained failed i; simp [drainFrames]
  | cons msg rest ih =>
      intro drained failed i
      by_cases h : processDeliver msg = true
      · simp only [drainFrames, h, if_true, ih, List.mem_insert_iff, List.mem_cons, exists_eq_or_imp,
          true_and]
        constructor
        · rintro ((rfl | hd) | hf)
          · exact .inr (.inl rfl)
          · exact .inl hd
          · exact .inr (.inr hf)
        · rintro (hd | rfl | hf)
          · exact .inl (.inr hd)
          · exact .inl (.inl rfl)
          · exact .inr hf
      · simp [drainFrames, h, ih]

theorem signed_of_drainSession {sign : List UInt8 → Option (Bytes 64)} {ipk : Bytes 32}
    {processDeliver : DeliverP → Bool} {frames : List DeliverP} {reply : Option AckAuthRequest}
    {sig : Bytes 64} {ts : UInt64} (h : drainSession sign ipk processDeliver frames reply = some (sig, ts)) :
    ∃ req, reply = some req ∧ ts = req.suggestedTimestamp ∧ req.deliveredIds.length ≤ MAX_FETCH_QUEUE_ACK_IDS ∧
      sign (queueFetchAckSigningInput ipk req.requesterRelayId req.deliveredIds ts) = some sig ∧
      (∀ f ∈ frames, processDeliver f = true) ∧
      ∀ i ∈ req.deliveredIds, ∃ f ∈ frames, processDeliver f = true ∧ f.id = i := by
  unfold drainSession at h
  rcases hd : drainFrames processDeliver [] false frames with ⟨drained, failed⟩
  rw [hd] at h
  simp only at h
  split_ifs at h with hs
  have hacks : sendsAckDrain processDeliver frames = true := by
    unfold sendsAckDrain
    rw [hd]
    exact hs
  obtain ⟨-, hall⟩ := (sendsAckDrain_iff processDeliver frames).1 hacks
  obtain ⟨req, rfl, hreq⟩ := Option.bind_eq_some_iff.1 h
  unfold handleAckAuthRequest at hreq
  split_ifs at hreq with hlen hstray
  obtain ⟨sig', hsig, hpair⟩ := Option.map_eq_some_iff.1 hreq
  cases hpair
  refine ⟨req, rfl, rfl, Nat.le_of_not_lt hlen, hsig, hall, fun i hi => ?_⟩
  -- no requested id is missing from the drained set
  have hin : i ∈ drained := by
    by_contra hout
    exact hstray (List.find?_isSome.2 ⟨i, hi, decide_eq_true hout⟩)
  have hmem := mem_drainFrames processDeliver frames [] false i
  rw [hd] at hmem
  rcases hmem.1 hin with hnil | hf
  · cases hnil
  · exact hf

/-- The RPCs a home answers on `dht_queue`, each with the connection's authenticated peer and the
home's clock. -/
inductive QueueRpc where
  | fetch (req : QueueFetch) (peer : NodeId) (nowMs : UInt64)
  | ack (req : QueueFetchAck) (peer : NodeId) (nowMs : UInt64)

def Dht.applyQueueRpc (codec : Codec DispatchP) (crypto : Crypto) (dht : Dht) : QueueRpc → Dht
  | .fetch req peer nowMs => (handleQueueFetchRpc codec crypto dht req peer nowMs).2
  | .ack req peer nowMs => (handleQueueFetchAckRpc crypto dht req peer nowMs).2

def QueueRpc.Deletes (crypto : Crypto) (row : List UInt8 × List UInt8) : QueueRpc → Prop
  | .ack req peer nowMs => req.Authorized crypto peer nowMs ∧ req.userIpk.1.isPrefixOf row.1 = true ∧
      row.1.length = SIZE ∧ keyId row.1 ∈ req.deliveredIds.map Subtype.val
  | .fetch req peer nowMs => req.Authorized crypto peer nowMs ∧ req.userIpk.1.isPrefixOf row.1 = true ∧
      (parse row.1).isSome ∧ QUEUE_BATCH_MAX_BYTES < row.2.length

theorem deletes_of_applyQueueRpc (codec : Codec DispatchP) (crypto : Crypto) (rpc : QueueRpc) {dht : Dht}
    {row : List UInt8 × List UInt8} (hrow : row ∈ dht.store.queue.rows)
    (hgone : row ∉ (dht.applyQueueRpc codec crypto rpc).store.queue.rows) : rpc.Deletes crypto row := by
  cases rpc with
  | fetch req peer nowMs => exact dropped_of_handleQueueFetchRpc codec crypto dht peer nowMs req hrow hgone
  | ack req peer nowMs => exact deleted_of_handleQueueFetchAckRpc crypto dht peer nowMs req hrow hgone

theorem queue_access_control (codec : Codec DispatchP) (crypto : Crypto) :
    (∀ (dht : Dht) (req : QueueFetch) (peer : NodeId) (nowMs : UInt64) (d : DispatchP),
      d ∈ (handleQueueFetchRpc codec crypto dht req peer nowMs).1.messages →
        req.Authorized crypto peer nowMs ∧ ∃ key : MessageKey, key.recipient = req.userIpk ∧
          (key, d) ∈ decodedRows codec (dht.store.queue.prefixScan req.userIpk.1)) ∧
    (∀ (rpcs : List QueueRpc) (dht : Dht) (row : List UInt8 × List UInt8), row ∈ dht.store.queue.rows →
      row ∉ (rpcs.foldl (Dht.applyQueueRpc codec crypto) dht).store.queue.rows →
        ∃ pre rpc post, rpcs = pre ++ rpc :: post ∧
          row ∈ (pre.foldl (Dht.applyQueueRpc codec crypto) dht).store.queue.rows ∧ rpc.Deletes crypto row) ∧
    (∀ (sign : List UInt8 → Option (Bytes 64)) (ipk : Bytes 32) (processDeliver : DeliverP → Bool)
      (frames : List DeliverP) (reply : Option AckAuthRequest) (sig : Bytes 64) (ts : UInt64),
      drainSession sign ipk processDeliver frames reply = some (sig, ts) →
        ∃ req, reply = some req ∧ ts = req.suggestedTimestamp ∧
          sign (queueFetchAckSigningInput ipk req.requesterRelayId req.deliveredIds ts) = some sig ∧
          (∀ f ∈ frames, processDeliver f = true) ∧
          ∀ i ∈ req.deliveredIds, ∃ f ∈ frames, processDeliver f = true ∧ f.id = i) := by
  refine ⟨fun dht req peer nowMs d hd => served_of_handleQueueFetchRpc codec crypto dht peer nowMs req hd,
    ?_, ?_⟩
  · -- the row is lost at one step of the run, and that step is allowed to delete it
    intro rpcs dht row hrow hgone
    obtain ⟨pre, rpc, post, rfl, hpre, hlost⟩ :=
      Reach.exists_step_of_foldl (fun d : Dht => row ∈ d.store.queue.rows) rpcs hrow hgone
    exact ⟨pre, rpc, post, rfl, hpre, deletes_of_applyQueueRpc codec crypto rpc hpre hlost⟩
  · intro sign ipk processDeliver frames reply sig ts h
    obtain ⟨req, hreply, hts, -, hsig, hall, hids⟩ := signed_of_drainSession h
    exact ⟨req, hreply, hts, hsig, hall, hids⟩

def zeroNode : NodeId := Bytes.replicate 32 0

def oneRowFetch : QueueFetch := ⟨smallDispatch.to, zeroNode, 0, Bytes.replicate 64 0⟩

theorem queue_access_control_oneRow :
    smallDispatch ∈ (handleQueueFetchRpc soleDispatchCodec constCrypto oneRowDht oneRowFetch zeroNode 0).1.messages ∧
      oneRowFetch.Authorized constCrypto zeroNode 0 :=
  have hd : smallDispatch ∈
      (handleQueueFetchRpc soleDispatchCodec constCrypto oneRowDht oneRowFetch zeroNode 0).1.messages := by
    decide +kernel
  ⟨hd, ((queue_access_control soleDispatchCodec constCrypto).1 _ _ _ _ _ hd).1⟩

theorem prefixScan_insert_empty (key : MessageKey) (value : List UInt8) :
    Keyspace.prefixScan (SortedMap.empty.insert key.asBytes value) key.recipient.1 = [(key.asBytes, value)] := by
  have hrows : (SortedMap.empty.insert key.asBytes value : Keyspace).rows = [(key.asBytes, value)] := rfl
  simp only [Keyspace.prefixScan, SortedMap.scan, hrows]
  have hp : key.recipient.1.isPrefixOf key.asBytes = true := isPrefixOf_asBytes_iff.2 rfl
  simp only [List.filter_cons, hp, ↓reduceIte, List.filter_nil]

theorem oversize_bulkDispatch : QUEUE_BATCH_MAX_BYTES < (layoutBytes (bulkDispatch 0)).length := by
  rw [length_layoutBytes]
  have hpayload : (bulkDispatch 0).payload.length = 1000000 := List.length_replicate
  rw [hpayload]
  decide

theorem RoutingTable.totalKnown_empty (selfId : NodeId) (now : Nat) :
    (RoutingTable.empty selfId now).totalKnown = 0 := by
  simp [RoutingTable.totalKnown, RoutingTable.empty, Bucket.empty]

theorem kthCheck_new (sparse : Bool) (cmp : Bytes 32 → Bytes 32 → Bool) (selfId : NodeId) (store : Store)
    (target : Bytes 32) : kthCheck sparse cmp (Dht.new selfId 0 store) target = sparse := by
  apply kthCheck_of_sparse
  show (RoutingTable.empty selfId 0).totalKnown < K
  rw [RoutingTable.totalKnown_empty]
  decide

theorem selfIsInKClosestQd_new (selfId : NodeId) (store : Store) (target : Bytes 32) :
    selfIsInKClosestQd (Dht.new selfId 0 store) target = true :=
  kthCheck_new true _ selfId store target

def bulkKey : MessageKey := MessageKey.new (bulkDispatch 0).to 1 (bulkDispatch 0).id

def bulkHomeDht : Dht :=
  (Dht.new zeroNode 0 Store.empty).setQueue (SortedMap.empty.insert bulkKey.asBytes (layoutBytes (bulkDispatch 0)))

def bulkFetch : QueueFetch := ⟨(bulkDispatch 0).to, zeroNode, 0, Bytes.replicate 64 0⟩

theorem get?_handleQueueFetchRpc_bulkHome :
    (handleQueueFetchRpc layoutCodec constCrypto bulkHomeDht bulkFetch zeroNode 0).2.store.queue.get?
      bulkKey.asBytes = none := by
  have hauth : bulkFetch.Authorized constCrypto zeroNode 0 := ⟨rfl, rfl, by decide⟩
  have hhome : selfIsInKClosestQd bulkHomeDht bulkFetch.userIpk = true :=
    selfIsInKClosestQd_new zeroNode Store.empty _
  exact get?_handleQueueFetchRpc_of_oversize_head layoutCodec constCrypto bulkHomeDht zeroNode 0 bulkFetch hauth
    hhome (prefixScan_insert_empty bulkKey _) oversize_bulkDispatch

/-- The recipient's signed fetch deletes its queued dispatch, though no ack lists its id. -/
theorem signed_fetch_deletes_unacked_row :
    bulkHomeDht.store.queue.get? bulkKey.asBytes = some (layoutBytes (bulkDispatch 0)) ∧
      (handleQueueFetchRpc layoutCodec constCrypto bulkHomeDht bulkFetch zeroNode 0).2.store.queue.get?
        bulkKey.asBytes = none :=
  ⟨SortedMap.get?_insert_self _ _ _, get?_handleQueueFetchRpc_bulkHome⟩

end Promtuz
