import Promtuz.Common.Proto
import Promtuz.Lib.Lists
import Promtuz.Lib.Reach

namespace Promtuz.Routing

open Lists

def K : Nat := 3

def BUCKET_SIZE : Nat := 16

def BUCKETS : Nat := 256

def PING_FAILURES_BEFORE_EVICTION : UInt8 := 3

def RTT_EMA_DENOM : Nat := 8

/-- `RoutingEntry`, without the `Weak<Connection>` cache; `Instant`s are
millisecond clock readings. -/
structure RoutingEntry where
  id : NodeId
  addr : SocketAddr
  pubkey : Bytes 32
  lastSeen : Nat
  rttEmaMs : Option UInt32
  failedPings : UInt8
  deriving DecidableEq

def RoutingEntry.descriptor (e : RoutingEntry) : NodeDescriptor := ⟨e.id, e.addr, e.pubkey⟩

def RoutingEntry.fromDescriptor (desc : NodeDescriptor) (now : Nat) : RoutingEntry :=
  { id := desc.id, addr := desc.addr, pubkey := desc.pubkey, lastSeen := now, rttEmaMs := none,
    failedPings := 0 }

structure Bucket where
  entries : List RoutingEntry
  refreshAt : Nat
  candidates : List RoutingEntry

def Bucket.empty (now : Nat) : Bucket := ⟨[], now, []⟩

inductive InsertOutcome
  | isSelf
  | refreshed
  | inserted
  | pendingPing (lru : NodeDescriptor)
  | discarded
  deriving DecidableEq

inductive PingFailedOutcome
  | unknown
  | continued
  | evicted
  | evictedAndPromoted
  deriving DecidableEq

structure RoutingTable where
  selfId : NodeId
  buckets : Fin BUCKETS → Bucket

def RoutingTable.empty (selfId : NodeId) (now : Nat) : RoutingTable := ⟨selfId, fun _ => Bucket.empty now⟩

def RoutingTable.setBucket (t : RoutingTable) (i : Fin BUCKETS) (b : Bucket) : RoutingTable :=
  { t with buckets := Function.update t.buckets i b }

def leadingZeros (b : UInt8) : Nat := if b = 0 then 8 else 7 - b.toNat.log2

/-- The byte loop of `bucket_for`: eight per zero byte, then the leading zeros
of the first non-zero byte, and stop. -/
def lzcLoop : List UInt8 → Nat
  | [] => 0
  | b :: bs => if b = 0 then 8 + lzcLoop bs else leadingZeros b

/-- `bucket_for`: `None` at zero distance, else `BUCKETS - 1 - lzc`. -/
def bucketFor (selfId peerId : NodeId) : Option (Fin BUCKETS) :=
  let lzc := lzcLoop (Bytes.xorBytes selfId.1 peerId.1)
  if lzc = 256 then none else some ⟨BUCKETS - 1 - lzc, by unfold BUCKETS; omega⟩

def bitMask (bit : Nat) : UInt8 := 0x80 >>> UInt8.ofNat (bit % 8)

/-- One pass of `random_id_in_bucket`'s loop: bit `bit` of `out` is taken from `noise`. -/
def copyNoiseBit (noise : Bytes 32) (out : List UInt8) (bit : Nat) : List UInt8 :=
  out.modify (bit / 8) fun o => (o &&& ~~~(bitMask bit)) ||| (noise.1.getD (bit / 8) 0 &&& bitMask bit)

theorem length_foldl_copyNoiseBit (noise : Bytes 32) (bits : List Nat) (out : List UInt8) :
    (bits.foldl (copyNoiseBit noise) out).length = out.length := by
  induction bits generalizing out with
  | nil => rfl
  | cons bit bits ih => rw [List.foldl_cons, ih, copyNoiseBit, List.length_modify]

/-- `random_id_in_bucket`, with the outcome of filling the noise from the system RNG as a
parameter (`none` when `try_fill_bytes` fails): keep `selfId` above `first_diff`, flip
bit `first_diff`, and copy the noise below it. -/
def randomIdInBucket (selfId : NodeId) (bucketIdx : Nat) (fill : Option (Bytes 32)) : Option NodeId :=
  if BUCKETS ≤ bucketIdx then none
  else
    fill.map fun noise =>
      let firstDiff := BUCKETS - 1 - bucketIdx
      let out := selfId.1.modify (firstDiff / 8) (· ^^^ bitMask firstDiff)
      ⟨(List.range' (firstDiff + 1) (BUCKETS - (firstDiff + 1))).foldl (copyNoiseBit noise) out,
        by rw [length_foldl_copyNoiseBit, List.length_modify, selfId.2]⟩

def saturatingAdd (a b : UInt8) : UInt8 := if a.toNat + b.toNat ≤ 255 then a + b else 255

def emaUpdate (prev sample : UInt32) : UInt32 :=
  UInt32.ofNat ((prev.toNat * (RTT_EMA_DENOM - 1) + sample.toNat) / RTT_EMA_DENOM)

/-- The entry `insert` moves to the tail when the peer is already known: only a
pubkey that hashes to the id replaces the cached one. -/
def RoutingEntry.refresh (crypto : Crypto) (entry : RoutingEntry) (descriptor : NodeDescriptor)
    (now : Nat) : RoutingEntry :=
  { entry with
    lastSeen := now, addr := descriptor.addr,
    pubkey := if nodeIdNew crypto descriptor.pubkey.1 = descriptor.id then descriptor.pubkey
      else entry.pubkey }

def RoutingEntry.promote (entry : RoutingEntry) (now : Nat) : RoutingEntry :=
  { entry with lastSeen := now, failedPings := 0 }

def RoutingEntry.recordPong (entry : RoutingEntry) (rttMs : UInt32) (now : Nat) : RoutingEntry :=
  { entry with
    failedPings := 0, lastSeen := now,
    rttEmaMs := some (match entry.rttEmaMs with
      | none => rttMs
      | some prev => emaUpdate prev rttMs) }

/-- Steps 1-4 of `RoutingTable::insert` on the descriptor's bucket. -/
def Bucket.insert (crypto : Crypto) (b : Bucket) (descriptor : NodeDescriptor) (now : Nat) :
    InsertOutcome × Bucket :=
  let b := { b with refreshAt := now }
  match splitFirst (fun e => e.id == descriptor.id) b.entries with
  | some (pre, entry, suf) =>
      (.refreshed, { b with entries := pre ++ suf ++ [entry.refresh crypto descriptor now] })
  | none =>
      if hlen : b.entries.length < BUCKET_SIZE then
        (.inserted, { b with entries := b.entries ++ [RoutingEntry.fromDescriptor descriptor now] })
      else if b.candidates.length < BUCKET_SIZE then
        if b.candidates.any (fun c => c.id == descriptor.id) then (.discarded, b)
        else
          (.pendingPing (b.entries.get ⟨0, by unfold BUCKET_SIZE at hlen; omega⟩).descriptor,
            { b with candidates := b.candidates ++ [RoutingEntry.fromDescriptor descriptor now] })
      else (.discarded, b)

def Bucket.pingFailed (b : Bucket) (peerId : NodeId) (now : Nat) : PingFailedOutcome × Bucket :=
  match splitFirst (fun e => e.id == peerId) b.entries with
  | none => (.unknown, b)
  | some (pre, entry, suf) =>
      let entry := { entry with failedPings := saturatingAdd entry.failedPings 1 }
      if entry.failedPings < PING_FAILURES_BEFORE_EVICTION then
        (.continued, { b with entries := pre ++ entry :: suf })
      else
        match b.candidates with
        | [] => (.evicted, { b with entries := pre ++ suf })
        | promoted :: rest =>
            (.evictedAndPromoted,
              { b with entries := pre ++ suf ++ [promoted.promote now], candidates := rest })

def Bucket.pingSucceeded (b : Bucket) (peerId : NodeId) (rttMs : UInt32) (now : Nat) : Bool × Bucket :=
  match splitFirst (fun e => e.id == peerId) b.entries with
  | none => (false, b)
  | some (pre, entry, suf) =>
      (true, { b with entries := pre ++ suf ++ [entry.recordPong rttMs now], refreshAt := now })

def RoutingTable.insert (crypto : Crypto) (t : RoutingTable) (descriptor : NodeDescriptor) (now : Nat) :
    InsertOutcome × RoutingTable :=
  match bucketFor t.selfId descriptor.id with
  | none => (.isSelf, t)
  | some i =>
      let r := (t.buckets i).insert crypto descriptor now
      (r.1, t.setBucket i r.2)

def RoutingTable.pingFailed (t : RoutingTable) (peerId : NodeId) (now : Nat) :
    PingFailedOutcome × RoutingTable :=
  match bucketFor t.selfId peerId with
  | none => (.unknown, t)
  | some i =>
      let r := (t.buckets i).pingFailed peerId now
      (r.1, t.setBucket i r.2)

def RoutingTable.pingSucceeded (t : RoutingTable) (peerId : NodeId) (rttMs : UInt32) (now : Nat) :
    Bool × RoutingTable :=
  match bucketFor t.selfId peerId with
  | none => (false, t)
  | some i =>
      let r := (t.buckets i).pingSucceeded peerId rttMs now
      (r.1, t.setBucket i r.2)

def RoutingTable.markRefreshed (t : RoutingTable) (bucketIdx : Nat) (now : Nat) : RoutingTable :=
  if h : bucketIdx < BUCKETS then t.setBucket ⟨bucketIdx, h⟩ { t.buckets ⟨bucketIdx, h⟩ with refreshAt := now }
  else t

/-- Every active entry, bucket by bucket, as `closest` walks them. -/
def RoutingTable.activeEntries (t : RoutingTable) : List RoutingEntry :=
  (List.finRange BUCKETS).flatMap (fun i => (t.buckets i).entries)

/-- `closest`: a full scan, a stable sort by XOR distance to `target`, then
the first `count`. -/
def RoutingTable.closest (t : RoutingTable) (target : NodeId) (count : Nat) : List RoutingEntry :=
  if count = 0 then []
  else
    ((t.activeEntries.map (fun e => (xor32 e.id target, e))).mergeSort
      (fun a b => decide (a.1.1 ≤ b.1.1))).take count |>.map Prod.snd

def RoutingTable.findClosest (t : RoutingTable) (target : NodeId) (count : Nat) : List NodeDescriptor :=
  (t.closest target count).map RoutingEntry.descriptor

def RoutingTable.totalKnown (t : RoutingTable) : Nat :=
  ((List.finRange BUCKETS).map (fun i => (t.buckets i).entries.length)).sum

/-- The mutating calls on a routing table, with the clock reading each
`Instant::now()` returns. -/
inductive Op
  | insert (descriptor : NodeDescriptor) (now : Nat)
  | pingFailed (peerId : NodeId) (now : Nat)
  | pingSucceeded (peerId : NodeId) (rttMs : UInt32) (now : Nat)
  | markRefreshed (bucketIdx : Nat) (now : Nat)

def RoutingTable.apply (crypto : Crypto) (t : RoutingTable) : Op → RoutingTable
  | .insert d now => (t.insert crypto d now).2
  | .pingFailed id now => (t.pingFailed id now).2
  | .pingSucceeded id rtt now => (t.pingSucceeded id rtt now).2
  | .markRefreshed i now => t.markRefreshed i now

def RoutingTable.Reachable (crypto : Crypto) (selfId : NodeId) (now : Nat) : RoutingTable → Prop :=
  Reach.Reachable (RoutingTable.empty selfId now) (RoutingTable.apply crypto)

end Promtuz.Routing
