import Promtuz.Relay.Queue

namespace Promtuz

open Routing MessageKey

def DRAIN_MAX_BATCH_BYTES : Nat := 8 * 1024 * 1024

def MAX_FETCH_QUEUE_BATCH : Nat := 64

def MAX_FETCH_QUEUE_ACK_IDS : Nat := MAX_FETCH_QUEUE_BATCH

/-- Ids already sent in this drain, and the bytes they cost. -/
structure DrainBatch where
  seen : List (Bytes 16)
  bytes : Nat

def DrainBatch.isFull (b : DrainBatch) : Bool := decide (DRAIN_MAX_BATCH_BYTES ≤ b.bytes)

/-- `false` when `id` already went out in this drain. -/
def DrainBatch.admit (b : DrainBatch) (id : Bytes 16) (size : Nat) : Bool × DrainBatch :=
  if id ∈ b.seen then (false, b) else (true, ⟨id :: b.seen, b.bytes + size⟩)

structure RemoteDrainState where
  userIpk : Bytes 32
  perHome : List (NodeId × List (Bytes 16))
  homes : List NodeDescriptor

structure RemoteFetchResult where
  messages : List DispatchP
  perHome : List (NodeId × List (Bytes 16))
  homes : List NodeDescriptor

structure ClientCtx where
  ipk : Bytes 32
  hasDrainAuth : Bool
  pendingDrain : List MessageKey
  pendingRemoteDrain : Option RemoteDrainState

/-- `stream_keyspace` over the recipient's rows in key order: the batch, the keys
recorded for the ack, the ids sent, and the `Deliver` frames written so far. -/
def streamKeyspace (decode : List UInt8 → Option DeliverP) :
    DrainBatch → List MessageKey → List (Bytes 16) → List DeliverP → List (List UInt8 × List UInt8) →
      DrainBatch × List MessageKey × List (Bytes 16) × List DeliverP
  | batch, keys, sent, frames, [] => (batch, keys, sent, frames)
  | batch, keys, sent, frames, (keyBytes, value) :: rows =>
      match parse keyBytes with
      | none => streamKeyspace decode batch keys sent frames rows
      | some key =>
          if batch.isFull then (batch, keys, sent, frames)
          else
            match decode value with
            | none => streamKeyspace decode batch keys sent frames rows
            | some deliver =>
                -- the key is recorded before the id dedupe
                match batch.admit deliver.id value.length with
                | (false, batch) => streamKeyspace decode batch (keys ++ [key]) sent frames rows
                | (true, batch) =>
                    streamKeyspace decode batch (keys ++ [key]) (sent ++ [deliver.id])
                      (frames ++ [deliver]) rows

def remoteLoop : DrainBatch → List DeliverP → List (Bytes 16) → List DispatchP →
    DrainBatch × List DeliverP × List (Bytes 16)
  | batch, frames, delivered, [] => (batch, frames, delivered)
  | batch, frames, delivered, dispatch :: rest =>
      if batch.isFull then (batch, frames, delivered)
      else
        let deliver := dispatchToDeliver dispatch
        match batch.admit deliver.id deliver.payload.length with
        | (false, batch) => remoteLoop batch frames delivered rest
        | (true, batch) => remoteLoop batch (frames ++ [deliver]) (delivered ++ [deliver.id]) rest

def decodeDispatch (codec : Codec DispatchP) (value : List UInt8) : Option DeliverP :=
  (codec.deser value).map dispatchToDeliver

/-- Step 3's seed of the ack round: the other K-closest homes, each with the
ids this relay sent from its own `dht_queue`. -/
def homeAckSeed (dht : Dht) (userIpk : Bytes 32) (dhtIds : List (Bytes 16))
    (pending : Option RemoteDrainState) : Option RemoteDrainState :=
  if dhtIds.isEmpty then pending
  else
    let others := (dht.routing.findClosest userIpk K).filter fun d => d.id ≠ dht.nodeId
    if others.isEmpty then pending
    else some ⟨userIpk, others.map fun h => (h.id, dhtIds), others⟩

/-- Steps 2 and 3 of `handle_drain_queue_with`: the local `messages` rows, then the
`dht_queue` rows when this relay is a home; the batch, the keys recorded for the ack, the
frames sent, and the remote ack state. -/
def drainLocal (deliverCodec : Codec DeliverP) (dispatchCodec : Codec DispatchP) (dht : Dht)
    (dhtEnabled : Bool) (ctx : ClientCtx) (iAmHome : Bool) :
    DrainBatch × List MessageKey × List DeliverP × Option RemoteDrainState :=
  let (batch, keys, _, frames) := streamKeyspace deliverCodec.deser ⟨[], 0⟩ [] [] []
    (dht.store.messages.prefixScan ctx.ipk.1)
  if iAmHome && dhtEnabled then
    let (batch, keys, dhtIds, frames) := streamKeyspace (decodeDispatch dispatchCodec) batch keys []
      frames (dht.store.queue.prefixScan ctx.ipk.1)
    (batch, keys, frames, homeAckSeed dht ctx.ipk dhtIds ctx.pendingRemoteDrain)
  else (batch, keys, frames, ctx.pendingRemoteDrain)

def drainRemote (userIpk : Bytes 32) (fetched : RemoteFetchResult) (batch : DrainBatch)
    (frames : List DeliverP) (pending : Option RemoteDrainState) :
    List DeliverP × Option RemoteDrainState :=
  let (_, frames, deliveredRemote) := remoteLoop batch frames [] fetched.messages
  let pending :=
    if fetched.homes.isEmpty then pending
    else
      some ⟨userIpk,
        (fetched.perHome.map fun h => (h.1, h.2.filter (· ∈ deliveredRemote))).filter
          (fun h => !h.2.isEmpty),
        fetched.homes⟩
  (frames, pending)

/-- `handle_drain_queue_with` on a relay whose DHT is `dht` (over the relay's
store) when `dhtEnabled`: the `Deliver` frames sent, and the client state after. -/
def handleDrainQueue (deliverCodec : Codec DeliverP) (dispatchCodec : Codec DispatchP) (dht : Dht)
    (dhtEnabled : Bool) (ctx : ClientCtx) (fetch : RemoteFetchResult) : List DeliverP × ClientCtx :=
  let iAmHome := if dhtEnabled then drainSelfIsInKClosest dht ctx.ipk else true
  let (batch, keys, frames, pending) := drainLocal deliverCodec dispatchCodec dht dhtEnabled ctx iAmHome
  let fetched : RemoteFetchResult :=
    if !iAmHome && !batch.isFull && ctx.hasDrainAuth && dhtEnabled then fetch else ⟨[], [], []⟩
  let (frames, pending) := drainRemote ctx.ipk fetched batch frames pending
  (frames, { ctx with pendingDrain := keys, pendingRemoteDrain := pending })

/-- The ids `run_remote_ack_round` asks the client to sign and sends to the homes. -/
def remoteAckIds (dhtEnabled : Bool) (state : RemoteDrainState) : List (Bytes 16) :=
  let union := (state.perHome.flatMap Prod.snd).dedup
  if union.isEmpty || !dhtEnabled then [] else union.take MAX_FETCH_QUEUE_ACK_IDS

/-- `handle_ack_drain`: removes every recorded key from both local keyspaces,
then runs the remote ack round; returns the ids acknowledged to remote homes. -/
def handleAckDrain (dht : Dht) (dhtEnabled : Bool) (ctx : ClientCtx) :
    Dht × ClientCtx × List (Bytes 16) :=
  let keys := ctx.pendingDrain.map MessageKey.asBytes
  let dht := if keys.isEmpty then dht
    else (dht.setMessages (dht.store.messages.eraseAll keys)).setQueue (dht.store.queue.eraseAll keys)
  let acked := match ctx.pendingRemoteDrain with
    | none => []
    | some state => remoteAckIds dhtEnabled state
  (dht, { ctx with pendingDrain := [], pendingRemoteDrain := none }, acked)

def drainThenAck (deliverCodec : Codec DeliverP) (dispatchCodec : Codec DispatchP) (dht : Dht)
    (dhtEnabled : Bool) (ctx : ClientCtx) (fetch : RemoteFetchResult) :
    List DeliverP × Dht × List (Bytes 16) :=
  let (frames, ctx) := handleDrainQueue deliverCodec dispatchCodec dht dhtEnabled ctx fetch
  let (dht, _, acked) := handleAckDrain dht dhtEnabled ctx
  (frames, dht, acked)

end Promtuz
