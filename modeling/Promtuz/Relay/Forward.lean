import Promtuz.Relay.Queue

namespace Promtuz

open Routing MessageKey

def FORWARD_K_MIN : Nat := 2

/-- A relay: its DHT, whose `store` is what reads see, what the last completed persist
barrier left on disk, and whether the DHT is enabled. -/
structure Relay where
  dht : Dht
  onDisk : Store
  dhtEnabled : Bool

def Relay.setDht (r : Relay) (dht : Dht) : Relay := { r with dht := dht }

/-- `persist_barrier().wait()`, where `ok` is the outcome of the group commit it waits on:
when it resolves, every write issued so far is on disk. -/
def Relay.persistBarrier (r : Relay) (ok : Bool) : Bool × Relay :=
  if ok then (true, { r with onDisk := r.dht.store }) else (false, r)

/-- `enqueue_for_home` followed, for `Stored`, by the persist barrier: a barrier that fails
turns the answer into `BadSig`. -/
def enqueueDurably (codec : Codec DispatchP) (barrierOk : Bool) (r : Relay) (userIpk : Bytes 32)
    (dispatch : DispatchP) (nowMs : UInt64) : ForwardOutcome × Relay :=
  let (outcome, dht) := enqueueForHome codec r.dht userIpk dispatch nowMs
  let r := r.setDht dht
  if outcome = .stored then
    let (ok, r) := r.persistBarrier barrierOk
    (if ok then .stored else .badSig, r)
  else (outcome, r)

/-- What `handle_forward_rpc` on a home depends on beyond its own state: the checks of the
`Forward` packet, the live delivery attempts, the home's clock and its persist barrier. -/
structure RpcEnv where
  senderKnown : Bool
  outerSigOk : Bool
  userSigOk : Bool
  liveDelivered : Bool
  leaseDelivered : Bool
  nowMs : UInt64
  barrierOk : Bool

def handleForwardRpc (codec : Codec DispatchP) (env : RpcEnv) (home : Relay) (dispatch : DispatchP) :
    ForwardOutcome × Relay :=
  if !env.senderKnown then (.badSig, home)
  else if !env.outerSigOk then (.badSig, home)
  else if !forwardSelfIsInKClosest home.dht dispatch.to then (.notOwner, home)
  else if !env.userSigOk then (.badSig, home)
  else if env.liveDelivered then (.delivered, home)
  else if env.leaseDelivered then (.delivered, home)
  else enqueueDurably codec env.barrierOk home dispatch.to dispatch env.nowMs

structure ForwardSummary where
  homesTried : List NodeId
  deliveredAt : List NodeId
  storedAt : List NodeId
  failedAt : List (NodeId × ForwardOutcome)

def ForwardSummary.empty : ForwardSummary := ⟨[], [], [], []⟩

/-- One home's answer, filed the way `forward_to_homes` files it. -/
def ForwardSummary.record (s : ForwardSummary) (id : NodeId) : ForwardOutcome → ForwardSummary
  | .delivered => { s with homesTried := s.homesTried ++ [id], deliveredAt := s.deliveredAt ++ [id] }
  | .stored => { s with homesTried := s.homesTried ++ [id], storedAt := s.storedAt ++ [id] }
  | outcome => { s with homesTried := s.homesTried ++ [id], failedAt := s.failedAt ++ [(id, outcome)] }

def ForwardSummary.successCount (s : ForwardSummary) : Nat := s.deliveredAt.length + s.storedAt.length

def ForwardSummary.anyDelivered (s : ForwardSummary) : Bool := !s.deliveredAt.isEmpty

inductive ForwardError where
  | noHomes
  | insufficientReplicas (wanted got : Nat) (summary : ForwardSummary)

/-- What `forward_to_homes` depends on beyond the sender relay's state: its own lease
delivery and persist barrier, and for each remote home its state and outcomes, or
`none` when no reply arrives within `FORWARD_TIMEOUT_MS`. -/
structure FanoutEnv where
  selfLeaseDelivered : Bool
  selfBarrierOk : Bool
  remote : NodeId → Option (RpcEnv × Relay)

/-- Step 2 of `forward_to_homes`: this relay's own copy when it is one of the K homes. -/
def selfStore (codec : Codec DispatchP) (env : FanoutEnv) (r : Relay) (dispatch : DispatchP)
    (nowMs : UInt64) : ForwardOutcome × Relay :=
  if env.selfLeaseDelivered then (.delivered, r)
  else enqueueDurably codec env.selfBarrierOk r dispatch.to dispatch nowMs

/-- Step 4: the replies that arrive in time, each from that home's `handle_forward_rpc`. -/
def remoteReplies (codec : Codec DispatchP) (env : FanoutEnv) (descriptors : List NodeDescriptor)
    (dispatch : DispatchP) : List (NodeId × ForwardOutcome) :=
  descriptors.filterMap fun d =>
    (env.remote d.id).map fun home => (d.id, (handleForwardRpc codec home.1 home.2 dispatch).1)

def selfReplies (codec : Codec DispatchP) (env : FanoutEnv) (r : Relay) (dispatch : DispatchP)
    (nowMs : UInt64) : List (NodeId × ForwardOutcome) × Relay :=
  if forwardToHomesSelfIsInK r.dht dispatch.to then
    let (outcome, r') := selfStore codec env r dispatch nowMs
    ([(r.dht.nodeId, outcome)], r')
  else ([], r)

def forwardToHomes (codec : Codec DispatchP) (env : FanoutEnv) (r : Relay) (dispatch : DispatchP)
    (nowMs : UInt64) : Except ForwardError ForwardSummary × Relay :=
  let descriptors := r.dht.routing.findClosest dispatch.to K
  let selfIsInK := forwardToHomesSelfIsInK r.dht dispatch.to
  if descriptors.isEmpty && !selfIsInK then (.error .noHomes, r)
  else
    let (own, r') := selfReplies codec env r dispatch nowMs
    let summary := (own ++ remoteReplies codec env descriptors dispatch).foldl
      (fun s reply => s.record reply.1 reply.2) ForwardSummary.empty
    if summary.successCount < FORWARD_K_MIN then
      (.error (.insufficientReplicas FORWARD_K_MIN summary.successCount summary), r')
    else (.ok summary, r')

def ackForSummary (summary : ForwardSummary) (acceptedAtMs : UInt64) : DispatchAck :=
  if summary.anyDelivered then .delivered acceptedAtMs else .forwarded acceptedAtMs

/-- The `sender_of` closure `store_in_rocks` passes over the `messages` keyspace. -/
def deliverFrom (codec : Codec DeliverP) (value : List UInt8) : Option (Bytes 32) :=
  (codec.deser value).map DeliverP.from

/-- `store_in_rocks`: `none` where the handler returns an error before any ack is sent. -/
def storeInRocks (codec : Codec DeliverP) (barrierOk : Bool) (r : Relay) (recipient : Bytes 32)
    (delivery : DeliverP) : Option DispatchAck × Relay :=
  match admitToQueue r.dht.store.messages recipient delivery.id delivery.from (deliverFrom codec) with
  | .insert =>
      let key := MessageKey.new recipient delivery.acceptedAtMs delivery.id
      match codec.ser delivery with
      | none => (none, r)
      | some payload =>
          let r := r.setDht (r.dht.setMessages (r.dht.store.messages.insert key.asBytes payload))
          let (ok, r) := r.persistBarrier barrierOk
          if ok then (some (.queued delivery.acceptedAtMs), r) else (none, r)
  | .alreadyQueued => (some (.queued delivery.acceptedAtMs), r)
  | .idTakenByOther => (some (.error "dispatch id already queued"), r)
  | .scanFailed => (some (.error "queue scan failed"), r)
  | .full => (some .queueFull, r)

/-- What `handle_forward` depends on beyond the relay's state: the dispatch signature, the
live delivery attempt (`none` when the recipient is not connected here), the fan-out's
outcomes and the local persist barrier. -/
structure ForwardEnv where
  sigValid : Bool
  liveDelivered : Option Bool
  fanout : FanoutEnv
  barrierOk : Bool

/-- `handle_forward` for a client authenticated as `sessionIpk`: the ack sent, if any, and
the relay after. -/
def handleForward (deliverCodec : Codec DeliverP) (dispatchCodec : Codec DispatchP) (env : ForwardEnv)
    (r : Relay) (sessionIpk : Bytes 32) (fwd : DispatchP) (nowMs : UInt64) : Option DispatchAck × Relay :=
  if fwd.from ≠ sessionIpk then (some .invalidSig, r)
  else if !env.sigValid then (some .invalidSig, r)
  else
    -- the ingress relay's clock replaces the client's
    let fwd := { fwd with acceptedAtMs := nowMs }
    let delivery := dispatchToDeliver fwd
    if env.liveDelivered = some true then (some (.delivered nowMs), r)
    else if r.dhtEnabled then
      match forwardToHomes dispatchCodec env.fanout r fwd nowMs with
      | (.ok summary, r) => (some (ackForSummary summary nowMs), r)
      | (.error _, r) => storeInRocks deliverCodec env.barrierOk r fwd.to delivery
    else storeInRocks deliverCodec env.barrierOk r fwd.to delivery

end Promtuz
