import Promtuz.Relay.DrainSafety

namespace Promtuz

open MessageKey

/-- libcore's loop over the `Deliver` frames of one drain: the ids stored and whether a
frame failed, where `processDeliver` is the outcome of `process_deliver` on each frame. -/
def drainFrames (processDeliver : DeliverP → Bool) :
    List (Bytes 16) → Bool → List DeliverP → List (Bytes 16) × Bool
  | drained, failed, [] => (drained, failed)
  | drained, failed, msg :: rest =>
      if processDeliver msg then drainFrames processDeliver (drained.insert msg.id) failed rest
      else drainFrames processDeliver drained true rest

/-- `!drained.is_empty() && !failed`: whether libcore sends `AckDrain`. -/
def sendsAckDrain (processDeliver : DeliverP → Bool) (frames : List DeliverP) : Bool :=
  let (drained, failed) := drainFrames processDeliver [] false frames
  !drained.isEmpty && !failed

section Frames

variable (processDeliver : DeliverP → Bool)

theorem drainFrames_failed (frames : List DeliverP) :
    ∀ (drained : List (Bytes 16)) (failed : Bool),
      (drainFrames processDeliver drained failed frames).2 =
        (failed || frames.any fun f => !processDeliver f) := by
  induction frames with
  | nil => intro drained failed; simp [drainFrames]
  | cons msg rest ih =>
      intro drained failed
      by_cases h : processDeliver msg = true
      · simp [drainFrames, h, ih]
      · simp [drainFrames, h, ih]

theorem drainFrames_drained_eq_nil (frames : List DeliverP) :
    ∀ (drained : List (Bytes 16)) (failed : Bool),
      (drainFrames processDeliver drained failed frames).1 = [] ↔
        drained = [] ∧ ∀ f ∈ frames, processDeliver f = false := by
  induction frames with
  | nil => intro drained failed; simp [drainFrames]
  | cons msg rest ih =>
      intro drained failed
      by_cases h : processDeliver msg = true
      · -- a stored frame's id makes the set nonempty for good
        simp only [drainFrames, h, if_true, ih, List.mem_cons, forall_eq_or_imp, Bool.true_eq_false,
          false_and, and_false, iff_false, not_and]
        exact fun hnil => absurd hnil (List.ne_nil_of_mem List.mem_insert_self)
      · simp [drainFrames, h, ih]

theorem sendsAckDrain_iff (frames : List DeliverP) :
    sendsAckDrain processDeliver frames = true ↔
      frames ≠ [] ∧ ∀ f ∈ frames, processDeliver f = true := by
  have hfailed := drainFrames_failed processDeliver frames [] false
  have hdrained := drainFrames_drained_eq_nil processDeliver frames [] false
  simp only [sendsAckDrain, Bool.and_eq_true, Bool.not_eq_true', List.isEmpty_eq_false_iff, ne_eq, hdrained,
    hfailed, Bool.false_or, List.any_eq_false, Bool.not_eq_false, true_and]
  refine and_congr_left fun hall => ⟨?_, ?_⟩
  · rintro hsome rfl
    exact hsome fun f hf => nomatch hf
  · intro hne hnone
    obtain ⟨f, hf⟩ := List.exists_mem_of_ne_nil frames hne
    have hok := hall f hf
    rw [hnone f hf] at hok
    cases hok

end Frames

def ClientCtx.fresh (ipk : Bytes 32) (hasDrainAuth : Bool) : ClientCtx := ⟨ipk, hasDrainAuth, [], none⟩

@[simp] theorem ClientCtx.fresh_ipk (ipk : Bytes 32) (hasDrainAuth : Bool) :
    (ClientCtx.fresh ipk hasDrainAuth).ipk = ipk := rfl

@[simp] theorem ClientCtx.fresh_pendingRemoteDrain (ipk : Bytes 32) (hasDrainAuth : Bool) :
    (ClientCtx.fresh ipk hasDrainAuth).pendingRemoteDrain = none := rfl

section Reconnect

variable (deliverCodec : Codec DeliverP) (dispatchCodec : Codec DispatchP) (dhtEnabled : Bool)
  (ipk : Bytes 32) (hasDrainAuth : Bool)

/-- `handle_drain_queue_with` on a new connection of the client `ipk`. -/
def freshDrain (dht : Dht) (fetch : RemoteFetchResult) : List DeliverP × ClientCtx :=
  handleDrainQueue deliverCodec dispatchCodec dht dhtEnabled (ClientCtx.fresh ipk hasDrainAuth) fetch

/-- One connection's drain: the relay's drain on the new connection, libcore's loop over
the frames, and `handle_ack_drain` only when libcore acks. -/
def reconnectDrain (dht : Dht) (processDeliver : DeliverP → Bool) (fetch : RemoteFetchResult) :
    Dht × List DeliverP :=
  let (frames, ctx) := freshDrain deliverCodec dispatchCodec dhtEnabled ipk hasDrainAuth dht fetch
  if sendsAckDrain processDeliver frames then ((handleAckDrain dht dhtEnabled ctx).1, frames)
  else (dht, frames)

def reconnectDrains (dht : Dht) (runs : List ((DeliverP → Bool) × RemoteFetchResult)) : Dht :=
  runs.foldl (fun dht run => (reconnectDrain deliverCodec dispatchCodec dhtEnabled ipk hasDrainAuth
    dht run.1 run.2).1) dht

def localFrames (dht : Dht) : List DeliverP :=
  (drainLocal deliverCodec dispatchCodec dht dhtEnabled (ClientCtx.fresh ipk hasDrainAuth)
    (if dhtEnabled then drainSelfIsInKClosest dht ipk else true)).2.2.1

theorem drainLocal_prefix_frames (dht : Dht) (ctx : ClientCtx) (fetch : RemoteFetchResult)
    (hnone : ctx.pendingRemoteDrain = none) :
    (drainLocal deliverCodec dispatchCodec dht dhtEnabled ctx
        (if dhtEnabled then drainSelfIsInKClosest dht ctx.ipk else true)).2.2.1 <+:
      (handleDrainQueue deliverCodec dispatchCodec dht dhtEnabled ctx fetch).1 := by
  unfold handleDrainQueue
  generalize (if dhtEnabled then drainSelfIsInKClosest dht ctx.ipk else true) = iAmHome
  obtain ⟨hcov, -, hpending⟩ := drainLocal_spec deliverCodec dispatchCodec dht dhtEnabled ctx iAmHome hnone
  rcases hL : drainLocal deliverCodec dispatchCodec dht dhtEnabled ctx iAmHome with ⟨batch, keys, frames, pending⟩
  rw [hL] at hcov hpending
  simp only [hL]
  exact (drainRemote_spec ctx _ batch frames pending hcov hpending).1

theorem localFrames_prefix_frames (dht : Dht) (fetch : RemoteFetchResult) :
    localFrames deliverCodec dispatchCodec dhtEnabled ipk hasDrainAuth dht <+:
      (freshDrain deliverCodec dispatchCodec dhtEnabled ipk hasDrainAuth dht fetch).1 :=
  drainLocal_prefix_frames deliverCodec dispatchCodec dhtEnabled dht (ClientCtx.fresh ipk hasDrainAuth) fetch rfl

theorem reconnectDrain_of_failed (dht : Dht) (processDeliver : DeliverP → Bool) (fetch : RemoteFetchResult)
    (h : ∃ f ∈ (freshDrain deliverCodec dispatchCodec dhtEnabled ipk hasDrainAuth dht fetch).1,
      processDeliver f = false) :
    (reconnectDrain deliverCodec dispatchCodec dhtEnabled ipk hasDrainAuth dht processDeliver fetch).1 = dht := by
  obtain ⟨f, hf, hbad⟩ := h
  have hno : sendsAckDrain processDeliver
      (freshDrain deliverCodec dispatchCodec dhtEnabled ipk hasDrainAuth dht fetch).1 = false := by
    cases hs : sendsAckDrain processDeliver (freshDrain deliverCodec dispatchCodec dhtEnabled ipk hasDrainAuth dht fetch).1
    · rfl
    · have hok := ((sendsAckDrain_iff processDeliver _).mp hs).2 f hf
      rw [hbad] at hok
      cases hok
  unfold reconnectDrain
  simp only [hno, Bool.false_eq_true, if_false]

theorem reconnectDrain_of_stored (dht : Dht) (processDeliver : DeliverP → Bool) (fetch : RemoteFetchResult)
    (h : (freshDrain deliverCodec dispatchCodec dhtEnabled ipk hasDrainAuth dht fetch).1 ≠ [] ∧
      ∀ f ∈ (freshDrain deliverCodec dispatchCodec dhtEnabled ipk hasDrainAuth dht fetch).1, processDeliver f = true) :
    (reconnectDrain deliverCodec dispatchCodec dhtEnabled ipk hasDrainAuth dht processDeliver fetch).1 =
      (handleAckDrain dht dhtEnabled (freshDrain deliverCodec dispatchCodec dhtEnabled ipk hasDrainAuth dht fetch).2).1 := by
  unfold reconnectDrain
  simp only [(sendsAckDrain_iff processDeliver _).mpr h, if_true]

theorem reconnectDrains_blocked (dht : Dht) (runs : List ((DeliverP → Bool) × RemoteFetchResult))
    (h : ∃ f ∈ localFrames deliverCodec dispatchCodec dhtEnabled ipk hasDrainAuth dht,
      ∀ run ∈ runs, run.1 f = false) :
    reconnectDrains deliverCodec dispatchCodec dhtEnabled ipk hasDrainAuth dht runs = dht := by
  obtain ⟨f, hf, hfails⟩ := h
  induction runs with
  | nil => rfl
  | cons run rest ih =>
      have hstep : (reconnectDrain deliverCodec dispatchCodec dhtEnabled ipk hasDrainAuth dht run.1 run.2).1 = dht :=
        reconnectDrain_of_failed deliverCodec dispatchCodec dhtEnabled ipk hasDrainAuth dht run.1 run.2
          ⟨f, (localFrames_prefix_frames deliverCodec dispatchCodec dhtEnabled ipk hasDrainAuth dht run.2).subset hf,
            hfails run List.mem_cons_self⟩
      unfold reconnectDrains
      rw [List.foldl_cons, hstep]
      exact ih fun r hr => hfails r (List.mem_cons_of_mem _ hr)

theorem drain_ack_all_or_nothing (dht : Dht) (processDeliver : DeliverP → Bool) (fetch : RemoteFetchResult) :
    ((freshDrain deliverCodec dispatchCodec dhtEnabled ipk hasDrainAuth dht fetch).1 ≠ [] ∧
        (∀ f ∈ (freshDrain deliverCodec dispatchCodec dhtEnabled ipk hasDrainAuth dht fetch).1,
          processDeliver f = true) →
      (reconnectDrain deliverCodec dispatchCodec dhtEnabled ipk hasDrainAuth dht processDeliver fetch).1.store.messages.rows =
          dht.store.messages.rows.filter (fun r => decide (r.1 ∉
            (freshDrain deliverCodec dispatchCodec dhtEnabled ipk hasDrainAuth dht fetch).2.pendingDrain.map asBytes)) ∧
        (reconnectDrain deliverCodec dispatchCodec dhtEnabled ipk hasDrainAuth dht processDeliver fetch).1.store.queue.rows =
          dht.store.queue.rows.filter (fun r => decide (r.1 ∉
            (freshDrain deliverCodec dispatchCodec dhtEnabled ipk hasDrainAuth dht fetch).2.pendingDrain.map asBytes))) ∧
      ((∃ f ∈ (freshDrain deliverCodec dispatchCodec dhtEnabled ipk hasDrainAuth dht fetch).1,
          processDeliver f = false) →
        (reconnectDrain deliverCodec dispatchCodec dhtEnabled ipk hasDrainAuth dht processDeliver fetch).1 = dht) ∧
      ∀ runs : List ((DeliverP → Bool) × RemoteFetchResult),
        (∃ f ∈ localFrames deliverCodec dispatchCodec dhtEnabled ipk hasDrainAuth dht, ∀ run ∈ runs, run.1 f = false) →
          reconnectDrains deliverCodec dispatchCodec dhtEnabled ipk hasDrainAuth dht runs = dht := by
  refine ⟨fun hstored => ?_, reconnectDrain_of_failed deliverCodec dispatchCodec dhtEnabled ipk hasDrainAuth dht
    processDeliver fetch, reconnectDrains_blocked deliverCodec dispatchCodec dhtEnabled ipk hasDrainAuth dht⟩
  rw [reconnectDrain_of_stored deliverCodec dispatchCodec dhtEnabled ipk hasDrainAuth dht processDeliver fetch hstored]
  exact ⟨handleAckDrain_messages _ _ _, handleAckDrain_queue _ _ _⟩

end Reconnect

/-- A validly addressed message from a sender the client neither knows nor shares a chat
with: `process_deliver` refuses it on every attempt. -/
def deliverFromStranger : DeliverP :=
  ⟨Bytes.replicate 16 1, Bytes.replicate 32 3, [5], Bytes.replicate 64 0, 0⟩

def deliverFromContact : DeliverP :=
  ⟨Bytes.replicate 16 2, Bytes.replicate 32 1, [6], Bytes.replicate 64 0, 0⟩

/-- `process_deliver` of a client whose only contact is the sender of `deliverFromContact`. -/
def knownSendersOnly (msg : DeliverP) : Bool := decide (msg.from = deliverFromContact.from)

def rowFromContact : List UInt8 × List UInt8 :=
  ((MessageKey.new sharedIdRecipient 2 deliverFromContact.id).asBytes, deliverLayoutBytes deliverFromContact)

def strangerDht : Dht :=
  Dht.new (Bytes.replicate 32 0) 0
    ⟨(SortedMap.empty.insert (MessageKey.new sharedIdRecipient 1 deliverFromStranger.id).asBytes
        (deliverLayoutBytes deliverFromStranger)).insert rowFromContact.1 rowFromContact.2,
      .empty, .empty, .empty⟩

theorem drain_ack_all_or_nothing_stranger :
    (∃ f ∈ (freshDrain deliverLayoutCodec layoutCodec false sharedIdRecipient false strangerDht ⟨[], [], []⟩).1,
        knownSendersOnly f = false) ∧
      (reconnectDrain deliverLayoutCodec layoutCodec false sharedIdRecipient false strangerDht knownSendersOnly
        ⟨[], [], []⟩).1 = strangerDht := by
  have hfail : ∃ f ∈ (freshDrain deliverLayoutCodec layoutCodec false sharedIdRecipient false strangerDht
      ⟨[], [], []⟩).1, knownSendersOnly f = false :=
    ⟨deliverFromStranger, by decide +kernel, by decide⟩
  exact ⟨hfail, (drain_ack_all_or_nothing deliverLayoutCodec layoutCodec false sharedIdRecipient false strangerDht
    knownSendersOnly ⟨[], [], []⟩).2.1 hfail⟩

theorem stored_row_kept_behind_failing_row :
    rowFromContact ∈ strangerDht.store.messages.rows ∧ knownSendersOnly deliverFromContact = true ∧
      deliverFromContact ∈ (reconnectDrain deliverLayoutCodec layoutCodec false sharedIdRecipient false strangerDht
        knownSendersOnly ⟨[], [], []⟩).2 ∧
      ∀ n, reconnectDrains deliverLayoutCodec layoutCodec false sharedIdRecipient false strangerDht
        (List.replicate n (knownSendersOnly, ⟨[], [], []⟩)) = strangerDht := by
  refine ⟨by decide +kernel, by decide, by decide +kernel, fun n => ?_⟩
  -- the stranger's row is streamed first on every reconnect and refused every time
  refine reconnectDrains_blocked deliverLayoutCodec layoutCodec false sharedIdRecipient false strangerDht _
    ⟨deliverFromStranger, by decide +kernel, fun run hrun => ?_⟩
  rw [List.eq_of_mem_replicate hrun]
  decide

end Promtuz
