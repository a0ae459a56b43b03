import Promtuz.Relay.Forward
import Promtuz.Relay.QueueInvariant
import Promtuz.Relay.DrainSafety
import Promtuz.Relay.HomeSet

namespace Promtuz

open Routing MessageKey

/-- `ks` holds, under `recipient`, a row with the dispatch id `id` that decodes to `sender`. -/
def HoldsRow (senderOf : List UInt8 → Option (Bytes 32)) (ks : Keyspace) (recipient : Bytes 32)
    (id : Bytes 16) (sender : Bytes 32) : Prop :=
  ∃ r ∈ ks.prefixScan recipient.1, keyId r.1 = id.1 ∧ senderOf r.2 = some sender

@[simp] theorem Relay.persistBarrier_true (r : Relay) :
    r.persistBarrier true = (true, { r with onDisk := r.dht.store }) := rfl

@[simp] theorem Relay.persistBarrier_false (r : Relay) : r.persistBarrier false = (false, r) := rfl

@[simp] theorem Relay.setDht_dht (r : Relay) (dht : Dht) : (r.setDht dht).dht = dht := rfl

theorem ForwardSummary.foldl_record (s : ForwardSummary) (replies : List (NodeId × ForwardOutcome)) :
    replies.foldl (fun s reply => s.record reply.1 reply.2) s =
      ⟨s.homesTried ++ replies.map Prod.fst,
        s.deliveredAt ++ (replies.filter fun reply => decide (reply.2 = .delivered)).map Prod.fst,
        s.storedAt ++ (replies.filter fun reply => decide (reply.2 = .stored)).map Prod.fst,
        s.failedAt ++ replies.filter fun reply => decide (reply.2 ≠ .delivered ∧ reply.2 ≠ .stored)⟩ := by
  induction replies generalizing s with
  | nil => simp
  | cons reply replies ih =>
      obtain ⟨id, outcome⟩ := reply
      rw [List.foldl_cons, ih]
      cases outcome <;> simp [ForwardSummary.record]

section Fanout

variable (codec : Codec DispatchP) (env : FanoutEnv) (d : DispatchP)

/-- The home `id` answered `Stored` behind a completed persist barrier: this relay, whose
state after the fan-out is `r'`, or a remote home whose reply came from its
`handle_forward_rpc`. -/
def StoredDurably (self : NodeId) (r' : Relay) (id : NodeId) : Prop :=
  (id = self ∧ HoldsRow (dispatchFrom codec) r'.onDisk.queue d.to d.id d.from) ∨
    ∃ home, env.remote id = some home ∧
      HoldsRow (dispatchFrom codec) (handleForwardRpc codec home.1 home.2 d).2.onDisk.queue d.to d.id d.from

/-- The home `id` answered `Delivered` because a recipient connection took the dispatch. -/
def DeliveredLive (self : NodeId) (id : NodeId) : Prop :=
  (id = self ∧ env.selfLeaseDelivered = true) ∨
    ∃ home, env.remote id = some home ∧ (home.1.liveDelivered = true ∨ home.1.leaseDelivered = true)

/-- What a successful fan-out stands for. -/
structure FanoutBacked (self : NodeId) (r' : Relay) (summary : ForwardSummary) : Prop where
  quorum : FORWARD_K_MIN ≤ summary.successCount
  stored : ∀ id ∈ summary.storedAt, StoredDurably codec env d self r' id
  delivered : ∀ id ∈ summary.deliveredAt, DeliveredLive env self id

variable {codec} (hrt : codec.RoundTrip)
include hrt

end Fanout

theorem Routing.RoutingTable.WellFormed.findClosest_ids_nodup {t : RoutingTable} (h : t.WellFormed)
    (target : NodeId) (count : Nat) : ((t.findClosest target count).map NodeDescriptor.id).Nodup := by
  have hsorted : ((t.sorted target).map fun p => p.2.id).Nodup := by
    rw [RoutingTable.sorted, ((List.mergeSort_perm (t.keyed target) _).map _).nodup_iff]
    simpa [RoutingTable.keyed, Function.comp_def] using h.activeIds_nodup
  have htake := hsorted.sublist ((List.take_sublist count (t.sorted target)).map fun p => p.2.id)
  simpa [RoutingTable.findClosest, RoutingTable.closest_eq_take, List.map_map, Function.comp_def,
    RoutingEntry.descriptor] using htake

theorem Routing.RoutingTable.WellFormed.findClosest_id_ne_selfId {t : RoutingTable} (h : t.WellFormed)
    {target : NodeId} {count : Nat} {desc : NodeDescriptor} (hd : desc ∈ t.findClosest target count) :
    desc.id ≠ t.selfId := by
  obtain ⟨e, he, rfl⟩ := RoutingTable.mem_findClosest hd
  exact h.activeId_ne_selfId he

theorem selfReplies_ids_sublist (codec : Codec DispatchP) (env : FanoutEnv) (r : Relay) (d : DispatchP)
    (nowMs : UInt64) : ((selfReplies codec env r d nowMs).1.map Prod.fst).Sublist [r.dht.nodeId] := by
  unfold selfReplies
  split_ifs
  · exact List.Sublist.refl _
  · exact List.nil_sublist _

theorem remoteReplies_ids_sublist (codec : Codec DispatchP) (env : FanoutEnv) (d : DispatchP)
    (descriptors : List NodeDescriptor) :
    ((remoteReplies codec env descriptors d).map Prod.fst).Sublist (descriptors.map NodeDescriptor.id) := by
  induction descriptors with
  | nil => exact List.Sublist.refl _
  | cons desc rest ih =>
      cases hr : env.remote desc.id with
      | none => simpa [remoteReplies, hr] using ih.cons desc.id
      | some home => simpa [remoteReplies, hr] using ih.cons_cons desc.id

theorem forwardToHomes_distinct {codec : Codec DispatchP} {env : FanoutEnv} {r : Relay} {d : DispatchP}
    {nowMs : UInt64} {summary : ForwardSummary} (hwf : r.dht.routing.WellFormed)
    (hself : r.dht.routing.selfId = r.dht.nodeId)
    (h : (forwardToHomes codec env r d nowMs).1 = .ok summary) :
    (summary.deliveredAt ++ summary.storedAt).Nodup := by
  have hown := selfReplies_ids_sublist codec env r d nowMs
  unfold forwardToHomes at h
  simp only at h
  rcases hsr : selfReplies codec env r d nowMs with ⟨own, r'⟩
  rw [hsr] at hown h
  simp only at h hown
  split_ifs at h
  cases h
  -- every counted home appears once among this relay and the K closest peers
  have hdescs := hwf.findClosest_ids_nodup d.to K
  have hhomes : ([r.dht.nodeId] ++ (r.dht.routing.findClosest d.to K).map NodeDescriptor.id).Nodup := by
    refine List.nodup_append.mpr ⟨List.nodup_singleton _, hdescs, ?_⟩
    intro a ha b hb hab
    obtain ⟨desc, hdesc, rfl⟩ := List.mem_map.mp hb
    rw [List.mem_singleton] at ha
    exact hwf.findClosest_id_ne_selfId hdesc (hab ▸ ha.trans hself.symm)
  have hall : ((own ++ remoteReplies codec env (r.dht.routing.findClosest d.to K) d).map Prod.fst).Nodup := by
    rw [List.map_append]
    exact hhomes.sublist (hown.append (remoteReplies_ids_sublist codec env d _))
  rw [ForwardSummary.foldl_record]
  simpa [ForwardSummary.empty] using Lists.nodup_map_filter_append hall (fun reply hp => by
    simp only [decide_eq_true_eq] at hp
    simp [hp])

def DispatchAck.positive : DispatchAck → Bool
  | .queued _ | .delivered _ | .forwarded _ => true
  | _ => false

/-- A dispatch whose `(from, id)` row `store_in_rocks` finds in `messages` is acked `Queued`
on the spot: the relay, its disk included, is left as it was, and no persist barrier is
taken. -/
theorem queued_ack_skips_persist_barrier (deliverCodec : Codec DeliverP) (dispatchCodec : Codec DispatchP)
    (env : ForwardEnv) (r : Relay) (fwd : DispatchP) (nowMs : UInt64)
    (hsig : env.sigValid = true) (hoffline : env.liveDelivered ≠ some true) (hdht : r.dhtEnabled = false)
    (hqueued : admitToQueue r.dht.store.messages fwd.to fwd.id fwd.from (deliverFrom deliverCodec) =
      .alreadyQueued) :
    handleForward deliverCodec dispatchCodec env r fwd.from fwd nowMs = (some (.queued nowMs), r) := by
  unfold handleForward
  simp only [ne_eq, not_true_eq_false, if_false, hsig, Bool.not_true, Bool.false_eq_true, hoffline, hdht]
  unfold storeInRocks
  simp only [dispatchToDeliver, hqueued]

def retryRecipient : Bytes 32 := Bytes.replicate 32 7

def retriedDispatch : DispatchP :=
  ⟨retryRecipient, Bytes.replicate 32 1, Bytes.replicate 16 4, [1, 2],
    Bytes.replicate 64 0, 0, false⟩

def standaloneRelay : Relay := ⟨Dht.new (Bytes.replicate 32 0) 0 Store.empty, Store.empty, false⟩

def poisonedStore : ForwardEnv := ⟨true, none, ⟨false, false, fun _ => none⟩, false⟩

def retryRelay : Relay :=
  (handleForward deliverLayoutCodec layoutCodec poisonedStore standaloneRelay retriedDispatch.from
    retriedDispatch 1).2

theorem queued_ack_skips_persist_barrier_retry :
    (handleForward deliverLayoutCodec layoutCodec poisonedStore standaloneRelay retriedDispatch.from
        retriedDispatch 1).1 = none ∧
      poisonedStore.sigValid = true ∧ poisonedStore.liveDelivered ≠ some true ∧
      retryRelay.dhtEnabled = false ∧
      admitToQueue retryRelay.dht.store.messages retriedDispatch.to retriedDispatch.id retriedDispatch.from
        (deliverFrom deliverLayoutCodec) = .alreadyQueued ∧
      ¬HoldsRow (deliverFrom deliverLayoutCodec) retryRelay.onDisk.messages retriedDispatch.to retriedDispatch.id
        retriedDispatch.from ∧
      handleForward deliverLayoutCodec layoutCodec poisonedStore retryRelay retriedDispatch.from retriedDispatch 2 =
        (some (.queued 2), retryRelay) := by
  have hadm : admitToQueue retryRelay.dht.store.messages retriedDispatch.to retriedDispatch.id
      retriedDispatch.from (deliverFrom deliverLayoutCodec) = .alreadyQueued := by decide +kernel
  have hdisk : retryRelay.onDisk.messages.rows = [] := by decide +kernel
  refine ⟨by decide +kernel, rfl, by decide, rfl, hadm, ?_, queued_ack_skips_persist_barrier
    deliverLayoutCodec layoutCodec poisonedStore retryRelay retriedDispatch 2 rfl (by decide) rfl hadm⟩
  rintro ⟨row, hrow, -⟩
  simp only [Keyspace.prefixScan, SortedMap.scan, hdisk, List.filter_nil] at hrow
  cases hrow

end Promtuz
