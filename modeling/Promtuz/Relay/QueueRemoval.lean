import Promtuz.Libcore.AckAuth
import Promtuz.Relay.Durability

/-! Why a `dht_queue` row leaves a home relay.

A home is the relay with its client connections (each with the keys its last drain recorded and
the frames it sent), the candidates of the running drift-migration sweep, and the cursor of the
storage sweep. `Home.step` runs one operation that reads or writes `dht_queue`: the write paths
(`handle_forward`, `handle_forward_rpc`, a migration's fan-out), the two queue RPCs, a client drain
and its ack, the drift-migration sweep and one migration, the storage sweep, and `clear-db`.

`home_queue_removal` says at which step and for which reason a row goes, over every run from a
state that keeps `Home.Inv`. -/

namespace Promtuz

open Routing MessageKey

def MAX_MIGRATE_PER_SWEEP : Nat := 256

/-- The successes `handover_is_durable` counts: remote homes other than this relay whose NodeId
this relay has bound to the pubkey of its connection to them. -/
def attestedHomes (crypto : Crypto) (selfId : NodeId) (peerConns : NodeId → Option (Bytes 32))
    (summary : ForwardSummary) : List NodeId :=
  ((summary.deliveredAt ++ summary.storedAt).filter fun id => id ≠ selfId).filter fun id =>
    (peerConns id).any fun pk => nodeIdNew crypto pk.1 = id

def handoverIsDurable (crypto : Crypto) (dht : Dht) (peerConns : NodeId → Option (Bytes 32))
    (summary : ForwardSummary) : Bool :=
  decide (FORWARD_K_MIN ≤ (attestedHomes crypto dht.nodeId peerConns summary).length)

/-- `migrate_one`: the sender-side fan-out for the candidate, and the local row deleted only once
the handover is durable. -/
def migrateOne (codec : Codec DispatchP) (crypto : Crypto) (env : FanoutEnv)
    (peerConns : NodeId → Option (Bytes 32)) (r : Relay) (key : MessageKey) (dispatch : DispatchP)
    (nowMs : UInt64) : Relay :=
  match forwardToHomes codec env r dispatch nowMs with
  | (.ok summary, r) =>
      if handoverIsDurable crypto r.dht peerConns summary then r.setDht (deleteMigratedEntry r.dht key).2
      else r
  | (.error _, r) => r

def QUEUED_MESSAGE_TTL_MS : Nat := 30 * 24 * 60 * 60 * 1000

def MAX_SWEEP_SCAN : Nat := 65536

def MAX_SWEEP_REMOVALS : Nat := 4096

/-- `queued_message_expired`: a key without a stamp counts as expired. -/
def queuedMessageExpired (key _value : List UInt8) (nowMs : UInt64) : Bool :=
  match beU64 key 32 with
  | none => true
  | some acceptedAt => decide (QUEUED_MESSAGE_TTL_MS < nowMs.toNat - acceptedAt)

def sweepLoop (isExpired : List UInt8 → List UInt8 → UInt64 → Bool) (nowMs : UInt64) :
    Nat → List (List UInt8) → List (List UInt8 × List UInt8) → List (List UInt8) × Option (List UInt8)
  | _, expired, [] => (expired, none)
  | scanned, expired, (key, value) :: rows =>
      let expired := if isExpired key value nowMs then expired ++ [key] else expired
      if MAX_SWEEP_SCAN ≤ scanned + 1 ∨ MAX_SWEEP_REMOVALS ≤ expired.length then (expired, some key)
      else sweepLoop isExpired nowMs (scanned + 1) expired rows

/-- `sweep`: one bounded pass over a keyspace, resuming after the previous pass's cursor. -/
def sweep (isExpired : List UInt8 → List UInt8 → UInt64 → Bool) (ks : Keyspace)
    (cursor : Option (List UInt8)) (nowMs : UInt64) : Keyspace × Option (List UInt8) :=
  let rows := match cursor with
    | none => ks.rows
    | some c => ks.rows.filter fun r => decide (c < r.1)
  let (expired, resume) := sweepLoop isExpired nowMs 0 [] rows
  (ks.eraseAll expired, resume)

/-- A home relay as `dht_queue` sees it. -/
structure Home where
  relay : Relay
  conns : Nat → ClientCtx
  sent : Nat → List DeliverP
  candidates : List (MessageKey × DispatchP)
  queueCursor : Option (List UInt8)

/-- The operations of a home that read or write `dht_queue`, with what each depends on beyond the
home's state. -/
inductive HomeOp where
  | forward (env : ForwardEnv) (sessionIpk : Bytes 32) (fwd : DispatchP) (nowMs : UInt64)
  | forwardRpc (env : RpcEnv) (dispatch : DispatchP)
  | queueFetch (req : QueueFetch) (peer : NodeId) (nowMs : UInt64)
  | queueFetchAck (req : QueueFetchAck) (peer : NodeId) (nowMs : UInt64)
  | drain (conn : Nat) (fetch : RemoteFetchResult)
  | ackDrain (conn : Nat)
  | driftSweep (nowMs : UInt64)
  | migrate (env : FanoutEnv) (peerConns : NodeId → Option (Bytes 32)) (nowMs : UInt64)
  | storageSweep (nowMs : UInt64)
  | clearDb

def Home.step (deliverCodec : Codec DeliverP) (codec : Codec DispatchP) (crypto : Crypto) (h : Home) :
    HomeOp → Home
  | .forward env sessionIpk fwd nowMs =>
      { h with relay := (handleForward deliverCodec codec env h.relay sessionIpk fwd nowMs).2 }
  | .forwardRpc env dispatch => { h with relay := (handleForwardRpc codec env h.relay dispatch).2 }
  | .queueFetch req peer nowMs =>
      { h with relay := h.relay.setDht (handleQueueFetchRpc codec crypto h.relay.dht req peer nowMs).2 }
  | .queueFetchAck req peer nowMs =>
      { h with relay := h.relay.setDht (handleQueueFetchAckRpc crypto h.relay.dht req peer nowMs).2 }
  | .drain conn fetch =>
      let (frames, ctx) := handleDrainQueue deliverCodec codec h.relay.dht h.relay.dhtEnabled (h.conns conn) fetch
      { h with conns := Function.update h.conns conn ctx, sent := Function.update h.sent conn frames }
  | .ackDrain conn =>
      let (dht, ctx, _) := handleAckDrain h.relay.dht h.relay.dhtEnabled (h.conns conn)
      { h with relay := h.relay.setDht dht, conns := Function.update h.conns conn ctx }
  | .driftSweep nowMs =>
      let (candidates, dht) := planDriftMigrations codec h.relay.dht MAX_MIGRATE_PER_SWEEP nowMs
      { h with relay := h.relay.setDht dht, candidates := candidates }
  | .migrate env peerConns nowMs =>
      match h.candidates with
      | [] => h
      | (key, dispatch) :: rest =>
          { h with relay := migrateOne codec crypto env peerConns h.relay key dispatch nowMs, candidates := rest }
  | .storageSweep nowMs =>
      let (queue, cursor) := sweep queuedMessageExpired h.relay.dht.store.queue h.queueCursor nowMs
      { h with relay := h.relay.setDht (h.relay.dht.setQueue queue), queueCursor := cursor }
  | .clearDb => { h with relay := { h.relay with dht := { h.relay.dht with store := Store.empty }, onDisk := Store.empty } }

section Frame

variable (deliverCodec : Codec DeliverP) (codec : Codec DispatchP)

theorem KeysMatchIds.insert {decode : List UInt8 → Option DeliverP} {ks : Keyspace} {k v : List UInt8}
    (h : KeysMatchIds decode ks) (hv : ∀ d, decode v = some d → keyId k = d.id.1) :
    KeysMatchIds decode (ks.insert k v) := by
  intro r hr d hd
  rcases SortedMap.mem_insert.mp hr with rfl | ⟨hr, -⟩
  · exact hv d hd
  · exact h r hr d hd

/-- What every home operation keeps: the routing table, the node id, and that every row's key
carries the id of what the row stores. -/
structure Keeps (dht dht' : Dht) : Prop where
  routing : dht'.routing = dht.routing
  nodeId : dht'.nodeId = dht.nodeId
  queue_ids : KeysMatchIds (decodeDispatch codec) dht.store.queue →
    KeysMatchIds (decodeDispatch codec) dht'.store.queue
  messages_ids : KeysMatchIds deliverCodec.deser dht.store.messages →
    KeysMatchIds deliverCodec.deser dht'.store.messages

theorem Keeps.refl (dht : Dht) : Keeps deliverCodec codec dht dht := ⟨rfl, rfl, id, id⟩

theorem Keeps.trans {d₁ d₂ d₃ : Dht} (h₁ : Keeps deliverCodec codec d₁ d₂) (h₂ : Keeps deliverCodec codec d₂ d₃) :
    Keeps deliverCodec codec d₁ d₃ :=
  ⟨h₂.routing.trans h₁.routing, h₂.nodeId.trans h₁.nodeId, h₂.queue_ids ∘ h₁.queue_ids,
    h₂.messages_ids ∘ h₁.messages_ids⟩

theorem Keeps.setQueue {dht : Dht} {queue : Keyspace} (hq : queue.Sub dht.store.queue) :
    Keeps deliverCodec codec dht (dht.setQueue queue) :=
  ⟨rfl, rfl, fun h => h.of_sub hq, id⟩

/-- A write path: it keeps what `Keeps` keeps and removes no `dht_queue` key. -/
structure Writes (r r' : Relay) : Prop extends Keeps deliverCodec codec r.dht r'.dht where
  keys : r.dht.store.queue.KeepsKeys r'.dht.store.queue

theorem Writes.refl (r : Relay) : Writes deliverCodec codec r r :=
  ⟨Keeps.refl deliverCodec codec r.dht, SortedMap.KeepsKeys.refl _⟩

theorem Writes.congr_right {r r' r'' : Relay} (h : Writes deliverCodec codec r r') (he : r''.dht = r'.dht) :
    Writes deliverCodec codec r r'' := by
  obtain ⟨⟨h₁, h₂, h₃, h₄⟩, h₅⟩ := h
  refine ⟨⟨?_, ?_, ?_, ?_⟩, ?_⟩ <;> rw [he] <;> assumption

theorem Writes.of_dht {r r' : Relay} (h : r'.dht = r.dht) : Writes deliverCodec codec r r' :=
  (Writes.refl deliverCodec codec r).congr_right deliverCodec codec h

theorem Writes.trans {r₁ r₂ r₃ : Relay} (h₁ : Writes deliverCodec codec r₁ r₂) (h₂ : Writes deliverCodec codec r₂ r₃) :
    Writes deliverCodec codec r₁ r₃ :=
  ⟨h₁.toKeeps.trans deliverCodec codec h₂.toKeeps, h₁.keys.trans h₂.keys⟩

variable {deliverCodec codec}

theorem writes_enqueueForHome (hrt : codec.RoundTrip) (r : Relay) (userIpk : Bytes 32) (dispatch : DispatchP)
    (nowMs : UInt64) : Writes deliverCodec codec r (r.setDht (enqueueForHome codec r.dht userIpk dispatch nowMs).2) := by
  rcases enqueueForHome_cases codec r.dht userIpk dispatch nowMs with h | ⟨value, -, hser, h⟩
  · exact Writes.of_dht deliverCodec codec (by rw [Relay.setDht_dht, h])
  · rw [h]
    -- the new row decodes to the dispatch whose id its key carries
    refine ⟨⟨rfl, rfl, fun hq => hq.insert fun d hd => ?_, id⟩, SortedMap.keepsKeys_insert _ _ _⟩
    simp only [decodeDispatch, hrt dispatch value hser, Option.map_some, Option.some.injEq] at hd
    rw [keyId_asBytes, ← hd]
    rfl

theorem dht_enqueueDurably (barrierOk : Bool) (r : Relay) (userIpk : Bytes 32) (dispatch : DispatchP)
    (nowMs : UInt64) :
    (enqueueDurably codec barrierOk r userIpk dispatch nowMs).2.dht = (enqueueForHome codec r.dht userIpk dispatch nowMs).2 := by
  unfold enqueueDurably
  rcases enqueueForHome codec r.dht userIpk dispatch nowMs with ⟨outcome, dht⟩
  simp only
  split
  · cases barrierOk <;> rfl
  · rfl

theorem writes_enqueueDurably (hrt : codec.RoundTrip) (barrierOk : Bool) (r : Relay) (userIpk : Bytes 32)
    (dispatch : DispatchP) (nowMs : UInt64) :
    Writes deliverCodec codec r (enqueueDurably codec barrierOk r userIpk dispatch nowMs).2 := by
  exact (writes_enqueueForHome hrt r userIpk dispatch nowMs).congr_right deliverCodec codec
    (dht_enqueueDurably barrierOk r userIpk dispatch nowMs)

theorem writes_handleForwardRpc (hrt : codec.RoundTrip) (env : RpcEnv) (home : Relay) (dispatch : DispatchP) :
    Writes deliverCodec codec home (handleForwardRpc codec env home dispatch).2 := by
  unfold handleForwardRpc
  split_ifs
  all_goals first
    | exact Writes.of_dht deliverCodec codec rfl
    | exact writes_enqueueDurably hrt _ _ _ _ _

theorem writes_forwardToHomes (hrt : codec.RoundTrip) (env : FanoutEnv) (r : Relay) (dispatch : DispatchP)
    (nowMs : UInt64) : Writes deliverCodec codec r (forwardToHomes codec env r dispatch nowMs).2 := by
  -- only this relay's own copy writes: `selfStore`
  have hself : Writes deliverCodec codec r (selfReplies codec env r dispatch nowMs).2 := by
    unfold selfReplies selfStore
    split_ifs
    · exact Writes.of_dht deliverCodec codec rfl
    · exact writes_enqueueDurably hrt _ _ _ _ _
    · exact Writes.of_dht deliverCodec codec rfl
  unfold forwardToHomes
  simp only
  split
  · exact Writes.of_dht deliverCodec codec rfl
  · rcases hs : selfReplies codec env r dispatch nowMs with ⟨own, r'⟩
    rw [hs] at hself
    simp only
    split <;> exact hself

theorem writes_storeInRocks (hrtD : deliverCodec.RoundTrip) (barrierOk : Bool) (r : Relay) (recipient : Bytes 32)
    (delivery : DeliverP) : Writes deliverCodec codec r (storeInRocks deliverCodec barrierOk r recipient delivery).2 := by
  unfold storeInRocks
  split
  · split
    · exact Writes.of_dht deliverCodec codec rfl
    · rename_i payload hser
      -- the barrier leaves the DHT as the insert left it
      have hw : Writes deliverCodec codec r
          (r.setDht (r.dht.setMessages (r.dht.store.messages.insert
            (MessageKey.new recipient delivery.acceptedAtMs delivery.id).asBytes payload))) := by
        refine ⟨⟨rfl, rfl, id, fun hm => hm.insert fun d hd => ?_⟩, SortedMap.KeepsKeys.refl _⟩
        rw [hrtD delivery payload hser, Option.some.injEq] at hd
        rw [keyId_asBytes, ← hd]
        rfl
      exact hw.congr_right deliverCodec codec (by cases barrierOk <;> rfl)
  all_goals exact Writes.of_dht deliverCodec codec rfl

theorem writes_handleForward (hrtD : deliverCodec.RoundTrip) (hrt : codec.RoundTrip) (env : ForwardEnv) (r : Relay)
    (sessionIpk : Bytes 32) (fwd : DispatchP) (nowMs : UInt64) :
    Writes deliverCodec codec r (handleForward deliverCodec codec env r sessionIpk fwd nowMs).2 := by
  unfold handleForward
  simp only
  split_ifs
  · exact Writes.of_dht deliverCodec codec rfl
  · exact Writes.of_dht deliverCodec codec rfl
  · exact Writes.of_dht deliverCodec codec rfl
  · -- a failed fan-out falls back to the local store, after this relay's own copy
    have hf : Writes deliverCodec codec r
        (forwardToHomes codec env.fanout r { fwd with acceptedAtMs := nowMs } nowMs).2 :=
      writes_forwardToHomes hrt env.fanout r _ nowMs
    rcases hres : forwardToHomes codec env.fanout r { fwd with acceptedAtMs := nowMs } nowMs with ⟨res, r'⟩
    rw [hres] at hf
    cases res with
    | ok summary => exact hf
    | error e => exact hf.trans deliverCodec codec (writes_storeInRocks hrtD _ _ _ _)
  · exact writes_storeInRocks hrtD _ _ _ _

end Frame

section Loops

theorem driftLoop_spec (codec : Codec DispatchP) (dht : Dht) (max : Nat) (nowMs : UInt64)
    (rows : List (List UInt8 × List UInt8)) :
    ∀ (out : List (MessageKey × DispatchP)) (expired : List (List UInt8)) (drifted : List (Bytes 32 × Bool)),
      (∀ e ∈ (driftLoop codec dht max nowMs out expired drifted rows).1,
          e ∈ out ∨ ∃ v, (e.1.asBytes, v) ∈ rows ∧ codec.deser v = some e.2) ∧
        ∀ k ∈ (driftLoop codec dht max nowMs out expired drifted rows).2,
          k ∈ expired ∨ k.length = SIZE ∧ QUEUE_ENTRY_TTL_MS < nowMs.toNat - Bytes.beValue ((k.drop 32).take 8) := by
  induction rows with
  | nil => intro out expired drifted; exact ⟨fun e he => .inl he, fun k hk => .inl hk⟩
  | cons row rows ih =>
      intro out expired drifted
      obtain ⟨keyBytes, value⟩ := row
      -- a later row's facts hold of this list too
      have hlift : ∀ out' expired' drifted', (∀ e ∈ out', e ∈ out ∨ ∃ v, (e.1.asBytes, v) ∈ (keyBytes, value) :: rows ∧ codec.deser v = some e.2) →
          (∀ k ∈ expired', k ∈ expired ∨ k.length = SIZE ∧ QUEUE_ENTRY_TTL_MS < nowMs.toNat - Bytes.beValue ((k.drop 32).take 8)) →
          (∀ e ∈ (driftLoop codec dht max nowMs out' expired' drifted' rows).1,
            e ∈ out ∨ ∃ v, (e.1.asBytes, v) ∈ (keyBytes, value) :: rows ∧ codec.deser v = some e.2) ∧
          ∀ k ∈ (driftLoop codec dht max nowMs out' expired' drifted' rows).2,
            k ∈ expired ∨ k.length = SIZE ∧ QUEUE_ENTRY_TTL_MS < nowMs.toNat - Bytes.beValue ((k.drop 32).take 8) := by
        intro out' expired' drifted' hout hexp
        obtain ⟨h₁, h₂⟩ := ih out' expired' drifted'
        refine ⟨fun e he => ?_, fun k hk => ?_⟩
        · rcases h₁ e he with he | ⟨v, hv, hd⟩
          · exact hout e he
          · exact .inr ⟨v, List.mem_cons_of_mem _ hv, hd⟩
        · rcases h₂ k hk with hk | hk
          · exact hexp k hk
          · exact .inr hk
      have hout0 : ∀ e ∈ out, e ∈ out ∨ ∃ v, (e.1.asBytes, v) ∈ (keyBytes, value) :: rows ∧ codec.deser v = some e.2 :=
        fun e he => .inl he
      have hexp0 : ∀ k ∈ expired, k ∈ expired ∨ k.length = SIZE ∧ QUEUE_ENTRY_TTL_MS < nowMs.toNat - Bytes.beValue ((k.drop 32).take 8) :=
        fun k hk => .inl hk
      -- the row a new entry comes from
      have hnew : ∀ key dispatch, parse keyBytes = some key → codec.deser value = some dispatch →
          ∀ e ∈ out ++ [(key, dispatch)],
            e ∈ out ∨ ∃ v, (e.1.asBytes, v) ∈ (keyBytes, value) :: rows ∧ codec.deser v = some e.2 := by
        intro key dispatch hparse hdeser e he
        rcases List.mem_append.1 he with he | he
        · exact .inl he
        · rw [List.mem_singleton.1 he]
          exact .inr ⟨value, by rw [MessageKey.asBytes_of_parse hparse]; exact List.mem_cons_self, hdeser⟩
      unfold driftLoop
      dsimp only
      split
      · rename_i hsize
        by_cases httl : QUEUE_ENTRY_TTL_MS < nowMs.toNat - Bytes.beValue ((keyBytes.drop 32).take 8)
        · rw [if_pos httl]
          apply hlift _ _ _ hout0
          intro k hk
          split at hk
          · rcases List.mem_append.1 hk with hk | hk
            · exact .inl hk
            · rw [List.mem_singleton.1 hk]
              exact .inr ⟨hsize, httl⟩
          · exact .inl hk
        · rw [if_neg httl]
          -- whatever the cache answers, the row is skipped or becomes a candidate
          split
          all_goals
            split
            · exact hlift _ _ _ hout0 hexp0
            · rcases hparse : parse keyBytes with _ | key
              · exact hlift _ _ _ hout0 hexp0
              · rcases hdeser : codec.deser value with _ | dispatch
                · exact hlift _ _ _ hout0 hexp0
                · dsimp only
                  split
                  · exact ⟨hnew key dispatch hparse hdeser, hexp0⟩
                  · exact hlift _ _ _ (hnew key dispatch hparse hdeser) hexp0
      · exact hlift _ _ _ hout0 hexp0

theorem sweepLoop_spec (isExpired : List UInt8 → List UInt8 → UInt64 → Bool) (nowMs : UInt64)
    (rows : List (List UInt8 × List UInt8)) :
    ∀ (scanned : Nat) (expired : List (List UInt8)), ∀ k ∈ (sweepLoop isExpired nowMs scanned expired rows).1,
      k ∈ expired ∨ ∃ v, (k, v) ∈ rows ∧ isExpired k v nowMs = true := by
  induction rows with
  | nil => intro scanned expired k hk; exact .inl hk
  | cons row rows ih =>
      intro scanned expired k hk
      obtain ⟨key, value⟩ := row
      have hadd : ∀ k ∈ (if isExpired key value nowMs then expired ++ [key] else expired),
          k ∈ expired ∨ ∃ v, (k, v) ∈ (key, value) :: rows ∧ isExpired k v nowMs = true := by
        intro k hk
        split at hk
        · rename_i hexp
          rcases List.mem_append.1 hk with hk | hk
          · exact .inl hk
          · rw [List.mem_singleton.1 hk]
            exact .inr ⟨value, List.mem_cons_self, hexp⟩
        · exact .inl hk
      unfold sweepLoop at hk
      dsimp only at hk
      generalize (if isExpired key value nowMs = true then expired ++ [key] else expired) = expired' at hk hadd
      split at hk
      · exact hadd k hk
      · rcases ih _ _ k hk with hk | ⟨v, hv, hexp⟩
        · exact hadd k hk
        · exact .inr ⟨v, List.mem_cons_of_mem _ hv, hexp⟩

theorem handleDrainQueue_frames_keys (deliverCodec : Codec DeliverP) (codec : Codec DispatchP) (dht : Dht)
    (dhtEnabled : Bool) (ctx : ClientCtx) (fetch : RemoteFetchResult) :
    (handleDrainQueue deliverCodec codec dht dhtEnabled ctx fetch).1 =
        (handleDrainQueue deliverCodec codec dht dhtEnabled { ctx with pendingRemoteDrain := none } fetch).1 ∧
      (handleDrainQueue deliverCodec codec dht dhtEnabled ctx fetch).2.pendingDrain =
        (handleDrainQueue deliverCodec codec dht dhtEnabled { ctx with pendingRemoteDrain := none } fetch).2.pendingDrain := by
  unfold handleDrainQueue drainLocal drainRemote
  rcases streamKeyspace deliverCodec.deser ⟨[], 0⟩ [] [] [] (dht.store.messages.prefixScan ctx.ipk.1)
    with ⟨b, k, s, f⟩
  rcases streamKeyspace (decodeDispatch codec) b k [] f (dht.store.queue.prefixScan ctx.ipk.1)
    with ⟨b', k', s', f'⟩
  simp only
  constructor <;> split_ifs <;> rfl

theorem pendingSent_handleDrainQueue (deliverCodec : Codec DeliverP) (codec : Codec DispatchP) (dht : Dht)
    (dhtEnabled : Bool) (ctx : ClientCtx) (fetch : RemoteFetchResult)
    (hm : KeysMatchIds deliverCodec.deser dht.store.messages) (hq : KeysMatchIds (decodeDispatch codec) dht.store.queue) :
    ∀ key ∈ (handleDrainQueue deliverCodec codec dht dhtEnabled ctx fetch).2.pendingDrain,
      ctx.ipk.1 <+: key.asBytes ∧ ∃ f ∈ (handleDrainQueue deliverCodec codec dht dhtEnabled ctx fetch).1, f.id.1 = key.id.1 := by
  obtain ⟨hframes, hkeys⟩ := handleDrainQueue_frames_keys deliverCodec codec dht dhtEnabled ctx fetch
  have hsent := (handleDrainQueue_spec deliverCodec codec dht dhtEnabled { ctx with pendingRemoteDrain := none }
    fetch rfl).1
  rw [hframes, hkeys]
  intro key hkey
  exact (hsent key hkey).elim (·.prefix_id hm) (·.prefix_id hq)

end Loops

section Steps

variable (deliverCodec : Codec DeliverP) (codec : Codec DispatchP) (crypto : Crypto) (h : Home)

theorem Home.step_drain (conn : Nat) (fetch : RemoteFetchResult) :
    h.step deliverCodec codec crypto (.drain conn fetch) =
      { h with
        conns := Function.update h.conns conn
          (handleDrainQueue deliverCodec codec h.relay.dht h.relay.dhtEnabled (h.conns conn) fetch).2,
        sent := Function.update h.sent conn
          (handleDrainQueue deliverCodec codec h.relay.dht h.relay.dhtEnabled (h.conns conn) fetch).1 } := rfl

theorem Home.step_ackDrain (conn : Nat) :
    h.step deliverCodec codec crypto (.ackDrain conn) =
      { h with
        relay := h.relay.setDht (handleAckDrain h.relay.dht h.relay.dhtEnabled (h.conns conn)).1,
        conns := Function.update h.conns conn (handleAckDrain h.relay.dht h.relay.dhtEnabled (h.conns conn)).2.1 } :=
  rfl

theorem Home.step_driftSweep (nowMs : UInt64) :
    h.step deliverCodec codec crypto (.driftSweep nowMs) =
      { h with
        relay := h.relay.setDht (planDriftMigrations codec h.relay.dht MAX_MIGRATE_PER_SWEEP nowMs).2,
        candidates := (planDriftMigrations codec h.relay.dht MAX_MIGRATE_PER_SWEEP nowMs).1 } := rfl

theorem Home.step_migrate_nil (env : FanoutEnv) (peerConns : NodeId → Option (Bytes 32)) (nowMs : UInt64)
    (hc : h.candidates = []) : h.step deliverCodec codec crypto (.migrate env peerConns nowMs) = h := by
  simp only [Home.step, hc]

theorem Home.step_migrate_cons (env : FanoutEnv) (peerConns : NodeId → Option (Bytes 32)) (nowMs : UInt64)
    {key : MessageKey} {dispatch : DispatchP} {rest : List (MessageKey × DispatchP)}
    (hc : h.candidates = (key, dispatch) :: rest) :
    h.step deliverCodec codec crypto (.migrate env peerConns nowMs) =
      { h with relay := migrateOne codec crypto env peerConns h.relay key dispatch nowMs, candidates := rest } := by
  simp only [Home.step, hc]

theorem Home.step_storageSweep (nowMs : UInt64) :
    h.step deliverCodec codec crypto (.storageSweep nowMs) =
      { h with
        relay := h.relay.setDht (h.relay.dht.setQueue (sweep queuedMessageExpired h.relay.dht.store.queue h.queueCursor nowMs).1),
        queueCursor := (sweep queuedMessageExpired h.relay.dht.store.queue h.queueCursor nowMs).2 } := rfl

theorem planDriftMigrations_snd (dht : Dht) (max : Nat) (nowMs : UInt64) :
    (planDriftMigrations codec dht max nowMs).2 =
      if max = 0 then dht
      else dht.setQueue (dht.store.queue.eraseAll (driftLoop codec dht max nowMs [] [] [] dht.store.queue.rows).2) := by
  unfold planDriftMigrations
  split <;> rfl

theorem planDriftMigrations_fst (dht : Dht) (max : Nat) (nowMs : UInt64) :
    (planDriftMigrations codec dht max nowMs).1 =
      if max = 0 then [] else (driftLoop codec dht max nowMs [] [] [] dht.store.queue.rows).1 := by
  unfold planDriftMigrations
  split <;> rfl

theorem queueBatchForUser_snd (dht : Dht) (userIpk : Bytes 32) (max : Nat) :
    (queueBatchForUser codec dht userIpk max).2 =
      if max = 0 then dht
      else dht.setQueue (dht.store.queue.eraseAll
        (batchLoop codec max [] 0 [] (dht.store.queue.prefixScan userIpk.1)).2.1) := by
  unfold queueBatchForUser
  split <;> rfl

theorem sweep_fst (isExpired : List UInt8 → List UInt8 → UInt64 → Bool) (ks : Keyspace)
    (cursor : Option (List UInt8)) (nowMs : UInt64) :
    (sweep isExpired ks cursor nowMs).1 = ks.eraseAll (sweepLoop isExpired nowMs 0 []
      (match cursor with
        | none => ks.rows
        | some c => ks.rows.filter fun r => decide (c < r.1))).1 := rfl

end Steps

section Keeping

variable {deliverCodec : Codec DeliverP} {codec : Codec DispatchP} (crypto : Crypto)

theorem keeps_handleQueueFetchRpc (dht : Dht) (req : QueueFetch) (peer : NodeId) (nowMs : UInt64) :
    Keeps deliverCodec codec dht (handleQueueFetchRpc codec crypto dht req peer nowMs).2 := by
  rcases handleQueueFetchRpc_cases codec crypto dht peer nowMs req with h | ⟨-, -, h⟩
  · rw [h]
    exact Keeps.refl _ _ _
  · rw [h, queueBatchForUser_snd]
    split
    · exact Keeps.refl _ _ _
    · exact Keeps.setQueue _ _ (SortedMap.eraseAll_sub _ _)

theorem keeps_handleQueueFetchAckRpc (dht : Dht) (req : QueueFetchAck) (peer : NodeId) (nowMs : UInt64) :
    Keeps deliverCodec codec dht (handleQueueFetchAckRpc crypto dht req peer nowMs).2 := by
  rcases handleQueueFetchAckRpc_cases crypto dht peer nowMs req with h | ⟨-, h⟩
  · rw [h]
    exact Keeps.refl _ _ _
  · rw [h]
    unfold deleteQueueEntries
    split
    · exact Keeps.refl _ _ _
    · exact Keeps.setQueue _ _ (SortedMap.eraseAll_sub _ _)

theorem keeps_handleAckDrain (dht : Dht) (dhtEnabled : Bool) (ctx : ClientCtx) :
    Keeps deliverCodec codec dht (handleAckDrain dht dhtEnabled ctx).1 := by
  have hq : (handleAckDrain dht dhtEnabled ctx).1.store.queue.Sub dht.store.queue := by
    show List.Sublist _ _
    rw [handleAckDrain_queue]
    exact List.filter_sublist
  have hm : (handleAckDrain dht dhtEnabled ctx).1.store.messages.Sub dht.store.messages := by
    show List.Sublist _ _
    rw [handleAckDrain_messages]
    exact List.filter_sublist
  refine ⟨?_, ?_, fun h => h.of_sub hq, fun h => h.of_sub hm⟩ <;>
  · unfold handleAckDrain
    dsimp only
    split <;> rfl

theorem keeps_planDriftMigrations (dht : Dht) (max : Nat) (nowMs : UInt64) :
    Keeps deliverCodec codec dht (planDriftMigrations codec dht max nowMs).2 := by
  rw [planDriftMigrations_snd]
  split
  · exact Keeps.refl _ _ _
  · exact Keeps.setQueue _ _ (SortedMap.eraseAll_sub _ _)

theorem keeps_migrateOne (hrt : codec.RoundTrip) (env : FanoutEnv) (peerConns : NodeId → Option (Bytes 32))
    (r : Relay) (key : MessageKey) (dispatch : DispatchP) (nowMs : UInt64) :
    Keeps deliverCodec codec r.dht (migrateOne codec crypto env peerConns r key dispatch nowMs).dht := by
  have hw : Writes deliverCodec codec r (forwardToHomes codec env r dispatch nowMs).2 :=
    writes_forwardToHomes hrt env r dispatch nowMs
  unfold migrateOne
  rcases hf : forwardToHomes codec env r dispatch nowMs with ⟨res, r'⟩
  rw [hf] at hw
  cases res with
  | error e => exact hw.toKeeps
  | ok summary =>
      dsimp only
      split
      · exact hw.toKeeps.trans _ _ (Keeps.setQueue _ _ (SortedMap.erase_sub _ _))
      · exact hw.toKeeps

end Keeping

/-- What a home keeps along every run: its routing table is well formed and its own; every row
key of both keyspaces carries the id of what the row stores; every key a connection's last drain
recorded is a row of that client whose id went out in the frames of that drain; every planned
migration pairs a key with the dispatch of the same id. -/
structure Home.Inv (deliverCodec : Codec DeliverP) (codec : Codec DispatchP) (h : Home) : Prop where
  routing_wf : h.relay.dht.routing.WellFormed
  self_eq : h.relay.dht.routing.selfId = h.relay.dht.nodeId
  queue_ids : KeysMatchIds (decodeDispatch codec) h.relay.dht.store.queue
  messages_ids : KeysMatchIds deliverCodec.deser h.relay.dht.store.messages
  pending_sent : ∀ c, ∀ key ∈ (h.conns c).pendingDrain,
    (h.conns c).ipk.1 <+: key.asBytes ∧ ∃ f ∈ h.sent c, f.id.1 = key.id.1
  candidates_ids : ∀ e ∈ h.candidates, e.1.id = e.2.id

section Invariant

variable {deliverCodec : Codec DeliverP} {codec : Codec DispatchP} (crypto : Crypto)

theorem Home.Inv.of_keeps {h h' : Home} (hinv : h.Inv deliverCodec codec)
    (hk : Keeps deliverCodec codec h.relay.dht h'.relay.dht) (hconns : h'.conns = h.conns) (hsent : h'.sent = h.sent)
    (hcand : ∀ e ∈ h'.candidates, e ∈ h.candidates) : h'.Inv deliverCodec codec where
  routing_wf := hk.routing ▸ hinv.routing_wf
  self_eq := by rw [hk.routing, hk.nodeId]; exact hinv.self_eq
  queue_ids := hk.queue_ids hinv.queue_ids
  messages_ids := hk.messages_ids hinv.messages_ids
  pending_sent := by rw [hconns, hsent]; exact hinv.pending_sent
  candidates_ids e he := hinv.candidates_ids e (hcand e he)

theorem candidates_ids_planDriftMigrations {dht : Dht} (hq : KeysMatchIds (decodeDispatch codec) dht.store.queue)
    (max : Nat) (nowMs : UInt64) : ∀ e ∈ (planDriftMigrations codec dht max nowMs).1, e.1.id = e.2.id := by
  intro e he
  rw [planDriftMigrations_fst] at he
  split at he
  · cases he
  · rcases (driftLoop_spec codec dht max nowMs dht.store.queue.rows [] [] []).1 e he with hnil | ⟨v, hv, hd⟩
    · cases hnil
    · have hkey := hq _ hv (dispatchToDeliver e.2) (by simp [decodeDispatch, hd])
      rw [keyId_asBytes] at hkey
      exact Subtype.ext hkey

theorem Home.Inv.step (hrtD : deliverCodec.RoundTrip) (hrt : codec.RoundTrip) {h : Home}
    (hinv : h.Inv deliverCodec codec) (op : HomeOp) : (h.step deliverCodec codec crypto op).Inv deliverCodec codec := by
  cases op with
  | forward env sessionIpk fwd nowMs =>
      exact hinv.of_keeps (writes_handleForward hrtD hrt env h.relay sessionIpk fwd nowMs).toKeeps rfl rfl
        fun _ he => he
  | forwardRpc env dispatch =>
      exact hinv.of_keeps (writes_handleForwardRpc hrt env h.relay dispatch).toKeeps rfl rfl fun _ he => he
  | queueFetch req peer nowMs =>
      exact hinv.of_keeps (keeps_handleQueueFetchRpc crypto h.relay.dht req peer nowMs) rfl rfl fun _ he => he
  | queueFetchAck req peer nowMs =>
      exact hinv.of_keeps (keeps_handleQueueFetchAckRpc crypto h.relay.dht req peer nowMs) rfl rfl fun _ he => he
  | drain conn fetch =>
      -- only this connection's recorded keys and frames change
      rw [Home.step_drain]
      refine ⟨hinv.routing_wf, hinv.self_eq, hinv.queue_ids, hinv.messages_ids, fun c key hkey => ?_,
        hinv.candidates_ids⟩
      by_cases hc : c = conn
      · subst hc
        simp only [Function.update_self] at hkey ⊢
        exact pendingSent_handleDrainQueue deliverCodec codec _ _ _ fetch hinv.messages_ids hinv.queue_ids key hkey
      · simp only [Function.update_of_ne hc] at hkey ⊢
        exact hinv.pending_sent c key hkey
  | ackDrain conn =>
      rw [Home.step_ackDrain]
      have hk : Keeps deliverCodec codec h.relay.dht
          (handleAckDrain h.relay.dht h.relay.dhtEnabled (h.conns conn)).1 := keeps_handleAckDrain _ _ _
      refine ⟨hk.routing ▸ hinv.routing_wf, by rw [Relay.setDht_dht, hk.routing, hk.nodeId]; exact hinv.self_eq,
        hk.queue_ids hinv.queue_ids, hk.messages_ids hinv.messages_ids, fun c key hkey => ?_, hinv.candidates_ids⟩
      by_cases hc : c = conn
      · -- the ack clears what it acknowledged
        subst hc
        simp only [Function.update_self] at hkey
        cases hkey
      · simp only [Function.update_of_ne hc] at hkey ⊢
        exact hinv.pending_sent c key hkey
  | driftSweep nowMs =>
      rw [Home.step_driftSweep]
      have hk : Keeps deliverCodec codec h.relay.dht
          (planDriftMigrations codec h.relay.dht MAX_MIGRATE_PER_SWEEP nowMs).2 := keeps_planDriftMigrations _ _ _
      exact ⟨hk.routing ▸ hinv.routing_wf, by rw [Relay.setDht_dht, hk.routing, hk.nodeId]; exact hinv.self_eq,
        hk.queue_ids hinv.queue_ids, hk.messages_ids hinv.messages_ids, hinv.pending_sent,
        candidates_ids_planDriftMigrations hinv.queue_ids MAX_MIGRATE_PER_SWEEP nowMs⟩
  | migrate env peerConns nowMs =>
      rcases hc : h.candidates with _ | ⟨⟨key, dispatch⟩, rest⟩
      · rw [Home.step_migrate_nil deliverCodec codec crypto h env peerConns nowMs hc]
        exact hinv
      · rw [Home.step_migrate_cons deliverCodec codec crypto h env peerConns nowMs hc]
        exact hinv.of_keeps (keeps_migrateOne crypto hrt env peerConns h.relay key dispatch nowMs) rfl rfl
          fun e he => hc ▸ List.mem_cons_of_mem _ he
  | storageSweep nowMs =>
      rw [Home.step_storageSweep]
      exact hinv.of_keeps (Keeps.setQueue _ _ (by rw [sweep_fst]; exact SortedMap.eraseAll_sub _ _)) rfl rfl
        fun _ he => he
  | clearDb =>
      exact hinv.of_keeps ⟨rfl, rfl, fun _ r hr => (List.not_mem_nil hr).elim,
        fun _ r hr => (List.not_mem_nil hr).elim⟩ rfl rfl fun _ he => he

theorem Home.Inv.foldl (hrtD : deliverCodec.RoundTrip) (hrt : codec.RoundTrip) {h : Home}
    (hinv : h.Inv deliverCodec codec) (ops : List HomeOp) :
    (ops.foldl (Home.step deliverCodec codec crypto) h).Inv deliverCodec codec :=
  (@Reach.reachable_foldl _ _ h (Home.step deliverCodec codec crypto) ops).invariant hinv
    fun _ op hs => hs.step crypto hrtD hrt op

end Invariant

/-- Why a home's step may take the `dht_queue` key `k` away. -/
inductive Removal (codec : Codec DispatchP) (crypto : Crypto) (h : Home) (k : List UInt8) : HomeOp → Prop
  /-- The user's signed ack lists the row's id. -/
  | acked {req : QueueFetchAck} {peer : NodeId} {nowMs : UInt64} :
      req.Authorized crypto peer nowMs → req.userIpk.1.isPrefixOf k = true → k.length = SIZE →
      keyId k ∈ req.deliveredIds.map Subtype.val → Removal codec crypto h k (.queueFetchAck req peer nowMs)
  /-- The user's signed fetch walked past the row, too large to frame. -/
  | oversize {req : QueueFetch} {peer : NodeId} {nowMs : UInt64} {v : List UInt8} :
      req.Authorized crypto peer nowMs → req.userIpk.1.isPrefixOf k = true → (parse k).isSome →
      h.relay.dht.store.queue.get? k = some v → QUEUE_BATCH_MAX_BYTES < v.length →
      Removal codec crypto h k (.queueFetch req peer nowMs)
  /-- The client acked the drain of its connection that recorded the key and sent its id. -/
  | drainAcked {conn : Nat} {key : MessageKey} :
      key ∈ (h.conns conn).pendingDrain → k = key.asBytes → (h.conns conn).ipk.1 <+: k →
      (∃ f ∈ h.sent conn, f.id.1 = keyId k) → Removal codec crypto h k (.ackDrain conn)
  /-- The drift sweep found the key's stamp older than `QUEUE_ENTRY_TTL_MS`. -/
  | expired {nowMs : UInt64} :
      k.length = SIZE → QUEUE_ENTRY_TTL_MS < nowMs.toNat - Bytes.beValue ((k.drop 32).take 8) →
      Removal codec crypto h k (.driftSweep nowMs)
  /-- The planned migration of the key reached `FORWARD_K_MIN` distinct attested remote homes. -/
  | migrated {env : FanoutEnv} {peerConns : NodeId → Option (Bytes 32)} {nowMs : UInt64} {key : MessageKey}
      {dispatch : DispatchP} {rest : List (MessageKey × DispatchP)} {summary : ForwardSummary} :
      h.candidates = (key, dispatch) :: rest → k = key.asBytes → key.id = dispatch.id →
      (forwardToHomes codec env h.relay dispatch nowMs).1 = .ok summary →
      FORWARD_K_MIN ≤ (attestedHomes crypto h.relay.dht.nodeId peerConns summary).length →
      (attestedHomes crypto h.relay.dht.nodeId peerConns summary).Nodup →
      Removal codec crypto h k (.migrate env peerConns nowMs)
  /-- The storage sweep found the row expired by `queued_message_expired`. -/
  | swept {nowMs : UInt64} {v : List UInt8} :
      h.relay.dht.store.queue.get? k = some v → queuedMessageExpired k v nowMs = true →
      Removal codec crypto h k (.storageSweep nowMs)
  /-- `pzrelay clear-db` truncated every keyspace. -/
  | cleared : Removal codec crypto h k .clearDb

theorem not_mem_rows_of_get?_eq_none {ks : Keyspace} {k v : List UInt8} (h : ks.get? k = none) :
    (k, v) ∉ ks.rows := fun hm => by
  rw [SortedMap.get?_eq_some_iff.2 hm] at h
  cases h

section Removal

variable {deliverCodec : Codec DeliverP} {codec : Codec DispatchP} (crypto : Crypto)
  (hrtD : deliverCodec.RoundTrip) (hrt : codec.RoundTrip)

include hrtD hrt in
theorem removal_of_step {h : Home} (hinv : h.Inv deliverCodec codec) {k v : List UInt8}
    (hk : h.relay.dht.store.queue.get? k = some v) (op : HomeOp)
    (hgone : (h.step deliverCodec codec crypto op).relay.dht.store.queue.get? k = none) :
    Removal codec crypto h k op := by
  have hrow : (k, v) ∈ h.relay.dht.store.queue.rows := SortedMap.get?_eq_some_iff.1 hk
  -- a write path keeps every key, so it cannot be the step
  have hwrite : ∀ {r : Relay}, Writes deliverCodec codec h.relay r → r.dht.store.queue.get? k = none → False :=
    fun hw hnone => by simpa [hnone] using hw.keys k v hk
  cases op with
  | forward env sessionIpk fwd nowMs => exact (hwrite (writes_handleForward hrtD hrt _ _ _ _ _) hgone).elim
  | forwardRpc env dispatch => exact (hwrite (writes_handleForwardRpc hrt _ _ _) hgone).elim
  | queueFetch req peer nowMs =>
      obtain ⟨hauth, hpre, hparse, hbig⟩ := dropped_of_handleQueueFetchRpc codec crypto h.relay.dht peer nowMs req
        hrow (not_mem_rows_of_get?_eq_none hgone)
      exact .oversize hauth hpre hparse hk hbig
  | queueFetchAck req peer nowMs =>
      obtain ⟨hauth, hpre, hsize, hid⟩ := deleted_of_handleQueueFetchAckRpc crypto h.relay.dht peer nowMs req
        hrow (not_mem_rows_of_get?_eq_none hgone)
      exact .acked hauth hpre hsize hid
  | drain conn fetch =>
      rw [Home.step_drain] at hgone
      exact absurd hk (by rw [hgone]; simp)
  | ackDrain conn =>
      rw [Home.step_ackDrain, Relay.setDht_dht] at hgone
      -- the ack filters out exactly the recorded keys
      have hkey : k ∈ (h.conns conn).pendingDrain.map MessageKey.asBytes := by
        by_contra hout
        refine not_mem_rows_of_get?_eq_none hgone (v := v) ?_
        rw [handleAckDrain_queue, List.mem_filter]
        exact ⟨hrow, decide_eq_true hout⟩
      obtain ⟨key, hmem, rfl⟩ := List.mem_map.1 hkey
      obtain ⟨hpre, hsent⟩ := hinv.pending_sent conn key hmem
      exact .drainAcked hmem rfl hpre (by rw [keyId_asBytes]; exact hsent)
  | driftSweep nowMs =>
      rw [Home.step_driftSweep, Relay.setDht_dht, planDriftMigrations_snd, if_neg (by decide),
        Dht.setQueue_queue] at hgone
      rcases (driftLoop_spec codec h.relay.dht MAX_MIGRATE_PER_SWEEP nowMs h.relay.dht.store.queue.rows [] [] []).2 k
        (SortedMap.mem_of_get?_eraseAll hk hgone) with hnil | ⟨hsize, httl⟩
      · cases hnil
      · exact .expired hsize httl
  | migrate env peerConns nowMs =>
      rcases hc : h.candidates with _ | ⟨⟨key, dispatch⟩, rest⟩
      · rw [Home.step_migrate_nil deliverCodec codec crypto h env peerConns nowMs hc, hk] at hgone
        cases hgone
      · rw [Home.step_migrate_cons deliverCodec codec crypto h env peerConns nowMs hc] at hgone
        have hw : Writes deliverCodec codec h.relay (forwardToHomes codec env h.relay dispatch nowMs).2 :=
          writes_forwardToHomes hrt env h.relay dispatch nowMs
        unfold migrateOne at hgone
        rcases hf : forwardToHomes codec env h.relay dispatch nowMs with ⟨res, r'⟩
        rw [hf] at hgone hw
        cases res with
        | error e => exact (hwrite hw hgone).elim
        | ok summary =>
            dsimp only at hgone
            split at hgone
            · -- the durable handover erased exactly the candidate's key
              rename_i hdur
              obtain ⟨v', hv'⟩ := Option.isSome_iff_exists.1 (hw.keys k v hk)
              have hkey : k = key.asBytes := SortedMap.eq_of_get?_erase hv' hgone
              have hsum : (forwardToHomes codec env h.relay dispatch nowMs).1 = .ok summary := by rw [hf]
              have hnodup := forwardToHomes_distinct hinv.routing_wf hinv.self_eq hsum
              have hid := hinv.candidates_ids (key, dispatch) (by rw [hc]; exact List.mem_cons_self)
              rw [handoverIsDurable, hw.nodeId, decide_eq_true_eq] at hdur
              exact .migrated hc hkey hid hsum hdur ((hnodup.filter _).filter _)
            · exact (hwrite hw hgone).elim
  | storageSweep nowMs =>
      rw [Home.step_storageSweep, Relay.setDht_dht, Dht.setQueue_queue, sweep_fst] at hgone
      rcases sweepLoop_spec queuedMessageExpired nowMs _ 0 [] k (SortedMap.mem_of_get?_eraseAll hk hgone)
        with hnil | ⟨v', hv', hexp⟩
      · cases hnil
      · -- the swept row is the stored one
        have hv'rows : (k, v') ∈ h.relay.dht.store.queue.rows := by
          split at hv'
          · exact hv'
          · exact (List.mem_filter.1 hv').1
        have hsame : (k, v') = (k, v) := SortedMap.eq_of_mem_of_key_eq hv'rows hrow rfl
        cases hsame
        exact .swept hk hexp
  | clearDb => exact .cleared

include hrtD hrt in
theorem home_queue_removal {h : Home} (hinv : h.Inv deliverCodec codec) (ops : List HomeOp) (k : List UInt8)
    (hk : (h.relay.dht.store.queue.get? k).isSome)
    (hgone : (ops.foldl (Home.step deliverCodec codec crypto) h).relay.dht.store.queue.get? k = none) :
    ∃ pre op post, ops = pre ++ op :: post ∧
      ((pre.foldl (Home.step deliverCodec codec crypto) h).relay.dht.store.queue.get? k).isSome ∧
      Removal codec crypto (pre.foldl (Home.step deliverCodec codec crypto) h) k op := by
  have hend : ¬((ops.foldl (Home.step deliverCodec codec crypto) h).relay.dht.store.queue.get? k).isSome := by
    rw [hgone]
    exact Bool.false_ne_true
  -- the key is present after `pre` and gone after `op`
  obtain ⟨pre, op, post, rfl, hpre, hlost⟩ :=
    Reach.exists_step_of_foldl (fun s : Home => (s.relay.dht.store.queue.get? k).isSome) _ hk hend
  obtain ⟨v, hv⟩ := Option.isSome_iff_exists.1 hpre
  refine ⟨pre, op, post, rfl, hpre, removal_of_step crypto hrtD hrt (hinv.foldl crypto hrtD hrt pre) hv op ?_⟩
  exact Option.not_isSome_iff_eq_none.1 hlost

end Removal

def sharedIdHome : Home :=
  ⟨⟨sharedIdDht, Store.empty, true⟩, fun _ => sharedIdClient, fun _ => [], [], none⟩

def sharedDeliverCodec : Codec DeliverP :=
  ⟨fun d => if d = deliverFromA then some rowFromA.2 else none,
    fun b => if b = rowFromA.2 then some deliverFromA else none⟩

def sharedDispatchCodec : Codec DispatchP :=
  ⟨fun d => if d = dispatchFromB then some rowFromB.2 else none,
    fun b => if b = rowFromB.2 then some dispatchFromB else none⟩

theorem sharedDeliverCodec_roundTrip : sharedDeliverCodec.RoundTrip :=
  Codec.RoundTrip.of_single deliverFromA rowFromA.2 (fun _ => rfl) (by decide)

theorem sharedDispatchCodec_roundTrip : sharedDispatchCodec.RoundTrip :=
  Codec.RoundTrip.of_single dispatchFromB rowFromB.2 (fun _ => rfl) (by decide)

theorem sharedIdHome_inv : sharedIdHome.Inv sharedDeliverCodec sharedDispatchCodec where
  routing_wf := RoutingTable.empty_wf _ _
  self_eq := rfl
  queue_ids := @KeysMatchIds.single _ _ _ (dispatchToDeliver dispatchFromB) (by decide) (by decide)
  messages_ids := @KeysMatchIds.single _ _ _ deliverFromA (by decide) (by decide)
  pending_sent _ _ hkey := nomatch hkey
  candidates_ids _ he := nomatch he

def drainThenAckOps : List HomeOp := [.drain 0 ⟨[], [], []⟩, .ackDrain 0]

/-- Sender B's queued row leaves with the ack, by the drain-ack removal, though the drain streamed
only sender A's message, which carries the same id. -/
theorem home_queue_removal_sharedId :
    sharedDeliverCodec.RoundTrip ∧ sharedDispatchCodec.RoundTrip ∧
      sharedIdHome.Inv sharedDeliverCodec sharedDispatchCodec ∧
      (sharedIdHome.relay.dht.store.queue.get? rowFromB.1).isSome ∧
      (drainThenAckOps.foldl (Home.step sharedDeliverCodec sharedDispatchCodec constCrypto)
        sharedIdHome).relay.dht.store.queue.get? rowFromB.1 = none ∧
      (∃ pre op post, drainThenAckOps = pre ++ op :: post ∧
        ((pre.foldl (Home.step sharedDeliverCodec sharedDispatchCodec constCrypto) sharedIdHome).relay.dht.store.queue.get?
          rowFromB.1).isSome ∧
        Removal sharedDispatchCodec constCrypto
          (pre.foldl (Home.step sharedDeliverCodec sharedDispatchCodec constCrypto) sharedIdHome) rowFromB.1 op) ∧
      ∀ f ∈ (sharedIdHome.step sharedDeliverCodec sharedDispatchCodec constCrypto (.drain 0 ⟨[], [], []⟩)).sent 0,
        ¬(f.from = dispatchFromB.from ∧ f.id = dispatchFromB.id) := by
  have hk : (sharedIdHome.relay.dht.store.queue.get? rowFromB.1).isSome := by decide +kernel
  have hgone : (drainThenAckOps.foldl (Home.step sharedDeliverCodec sharedDispatchCodec constCrypto)
      sharedIdHome).relay.dht.store.queue.get? rowFromB.1 = none := by decide +kernel
  have hunsent : ∀ f ∈ (sharedIdHome.step sharedDeliverCodec sharedDispatchCodec constCrypto
      (.drain 0 ⟨[], [], []⟩)).sent 0, ¬(f.from = dispatchFromB.from ∧ f.id = dispatchFromB.id) := by
    decide +kernel
  exact ⟨sharedDeliverCodec_roundTrip, sharedDispatchCodec_roundTrip, sharedIdHome_inv, hk, hgone,
    home_queue_removal constCrypto sharedDeliverCodec_roundTrip sharedDispatchCodec_roundTrip sharedIdHome_inv _ _
      hk hgone, hunsent⟩

end Promtuz
