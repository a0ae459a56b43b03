import Promtuz.Relay.Drain
import Promtuz.Relay.Retransmit

namespace Promtuz

open MessageKey

theorem MessageKey.asBytes_of_parse {b : List UInt8} {k : MessageKey} (h : parse b = some k) :
    k.asBytes = b := by
  unfold parse at h
  split at h
  · cases h
    simp only [asBytes, List.append_assoc]
    have h40 : List.drop 40 b = List.drop 8 (List.drop 32 b) := by rw [List.drop_drop]
    rw [h40, List.take_append_drop, List.take_append_drop]
  · cases h

/-- Each of `ids` went out as one of `frames`. -/
def IdsSent (ids : List (Bytes 16)) (frames : List DeliverP) : Prop :=
  ∀ i ∈ ids, ∃ f ∈ frames, f.id = i

theorem IdsSent.nil (frames : List DeliverP) : IdsSent [] frames := fun _ h => nomatch h

theorem IdsSent.mono {ids : List (Bytes 16)} {frames frames' : List DeliverP}
    (h : IdsSent ids frames) (hp : frames <+: frames') : IdsSent ids frames' := fun i hi =>
  let ⟨f, hf, hid⟩ := h i hi
  ⟨f, hp.subset hf, hid⟩

theorem IdsSent.snoc {ids : List (Bytes 16)} {frames : List DeliverP} (h : IdsSent ids frames)
    (d : DeliverP) : IdsSent (ids ++ [d.id]) (frames ++ [d]) := by
  intro i hi
  rcases List.mem_append.mp hi with hi | hi
  · exact (h i hi).imp fun f ⟨hf, hid⟩ => ⟨List.mem_append_left _ hf, hid⟩
  · exact ⟨d, List.mem_append_right _ List.mem_cons_self, (List.mem_singleton.mp hi).symm⟩

theorem IdsSent.cons {ids : List (Bytes 16)} {frames : List DeliverP} (h : IdsSent ids frames)
    (d : DeliverP) : IdsSent (d.id :: ids) (frames ++ [d]) := by
  intro i hi
  rcases List.mem_cons.mp hi with rfl | hi
  · exact ⟨d, List.mem_append_right _ List.mem_cons_self, rfl⟩
  · exact (h i hi).imp fun f ⟨hf, hid⟩ => ⟨List.mem_append_left _ hf, hid⟩

theorem DrainBatch.admit_cases (b : DrainBatch) (id : Bytes 16) (size : Nat) :
    b.admit id size = (false, b) ∧ id ∈ b.seen ∨
      b.admit id size = (true, ⟨id :: b.seen, b.bytes + size⟩) := by
  unfold DrainBatch.admit
  by_cases h : id ∈ b.seen
  · exact .inl ⟨by simp [h], h⟩
  · exact .inr (by simp [h])

/-- The key `k` was read from one of `rows` whose decoded id went out as one of `frames`. -/
def SentRow (decode : List UInt8 → Option DeliverP) (rows : List (List UInt8 × List UInt8))
    (frames : List DeliverP) (k : MessageKey) : Prop :=
  ∃ v d, (k.asBytes, v) ∈ rows ∧ decode v = some d ∧ ∃ f ∈ frames, f.id = d.id

theorem SentRow.mono {decode : List UInt8 → Option DeliverP} {rows rows' : List (List UInt8 × List UInt8)}
    {frames frames' : List DeliverP} {k : MessageKey} (h : SentRow decode rows frames k)
    (hr : rows ⊆ rows') (hp : frames <+: frames') : SentRow decode rows' frames' k :=
  let ⟨v, d, hv, hd, f, hf, hid⟩ := h
  ⟨v, d, hr hv, hd, f, hp.subset hf, hid⟩

/-- What a `stream_keyspace` pass started from `keys`, `sent` and `frames` over `rows`
guarantees of its result `r`. -/
structure StreamSpec (decode : List UInt8 → Option DeliverP) (keys : List MessageKey)
    (sent : List (Bytes 16)) (frames : List DeliverP) (rows : List (List UInt8 × List UInt8))
    (r : DrainBatch × List MessageKey × List (Bytes 16) × List DeliverP) : Prop where
  covered : IdsSent r.1.seen r.2.2.2
  frames_prefix : frames <+: r.2.2.2
  sent_sent : IdsSent sent frames → IdsSent r.2.2.1 r.2.2.2
  keys_from : ∀ k ∈ r.2.1, k ∈ keys ∨ SentRow decode rows r.2.2.2 k

section StreamSpec

variable {decode : List UInt8 → Option DeliverP} {keys : List MessageKey} {sent : List (Bytes 16)}
  {frames : List DeliverP} {rows : List (List UInt8 × List UInt8)}
  {r : DrainBatch × List MessageKey × List (Bytes 16) × List DeliverP}

theorem StreamSpec.stop (batch : DrainBatch) (h : IdsSent batch.seen frames) :
    StreamSpec decode keys sent frames rows (batch, keys, sent, frames) :=
  ⟨h, List.prefix_refl _, id, fun _ hk => .inl hk⟩

theorem StreamSpec.skip {row : List UInt8 × List UInt8} (h : StreamSpec decode keys sent frames rows r) :
    StreamSpec decode keys sent frames (row :: rows) r where
  covered := h.covered
  frames_prefix := h.frames_prefix
  sent_sent := h.sent_sent
  keys_from k hk := (h.keys_from k hk).imp_right fun hs =>
    hs.mono (List.subset_cons_self _ _) (List.prefix_refl _)

theorem StreamSpec.record {row : List UInt8 × List UInt8} {key : MessageKey} {frames' : List DeliverP}
    {sent' : List (Bytes 16)} (h : StreamSpec decode (keys ++ [key]) sent' frames' rows r)
    (hkey : SentRow decode (row :: rows) r.2.2.2 key) (hp : frames <+: frames')
    (hsent : IdsSent sent frames → IdsSent sent' frames') :
    StreamSpec decode keys sent frames (row :: rows) r where
  covered := h.covered
  frames_prefix := hp.trans h.frames_prefix
  sent_sent hs := h.sent_sent (hsent hs)
  keys_from k hk := by
    rcases h.keys_from k hk with hk | hk
    · rcases List.mem_append.mp hk with hk | hk
      · exact .inl hk
      · rw [List.mem_singleton.mp hk]
        exact .inr hkey
    · exact .inr (hk.mono (List.subset_cons_self _ _) (List.prefix_refl _))

end StreamSpec

theorem streamKeyspace_spec (decode : List UInt8 → Option DeliverP) (rows : List (List UInt8 × List UInt8)) :
    ∀ (batch : DrainBatch) (keys : List MessageKey) (sent : List (Bytes 16)) (frames : List DeliverP),
      IdsSent batch.seen frames →
        StreamSpec decode keys sent frames rows (streamKeyspace decode batch keys sent frames rows) := by
  induction rows with
  | nil => exact fun batch _ _ _ hcov => .stop batch hcov
  | cons row rows ih =>
      intro batch keys sent frames hcov
      obtain ⟨keyBytes, value⟩ := row
      cases hparse : parse keyBytes with
      | none =>
          simp only [streamKeyspace, hparse]
          exact (ih batch keys sent frames hcov).skip
      | some key =>
          simp only [streamKeyspace, hparse]
          split
          · exact .stop batch hcov
          cases hdec : decode value with
          | none => exact (ih batch keys sent frames hcov).skip
          | some deliver =>
              simp only
              have hrow : (key.asBytes, value) ∈ (keyBytes, value) :: rows := by
                rw [MessageKey.asBytes_of_parse hparse]; exact List.mem_cons_self
              rcases DrainBatch.admit_cases batch deliver.id value.length with ⟨hadm, hseen⟩ | hadm
              · -- a duplicate id: the key is recorded although the frame went out for another row
                rw [hadm]
                have ht := ih batch (keys ++ [key]) sent frames hcov
                obtain ⟨f, hf, hid⟩ := hcov.mono ht.frames_prefix deliver.id hseen
                exact ht.record ⟨value, deliver, hrow, hdec, f, hf, hid⟩ (List.prefix_refl _) id
              · rw [hadm]
                have ht := ih ⟨deliver.id :: batch.seen, batch.bytes + value.length⟩ (keys ++ [key])
                  (sent ++ [deliver.id]) (frames ++ [deliver])
                  (hcov.cons deliver)
                have hmem := ht.frames_prefix.subset (List.mem_append_right frames List.mem_cons_self)
                exact ht.record ⟨value, deliver, hrow, hdec, deliver, hmem, rfl⟩
                  (List.prefix_append _ _) (fun hs => hs.snoc deliver)

/-- What step 5 of the drain guarantees of its result `r`. -/
structure RemoteSpec (frames : List DeliverP) (delivered : List (Bytes 16))
    (r : DrainBatch × List DeliverP × List (Bytes 16)) : Prop where
  covered : IdsSent r.1.seen r.2.1
  frames_prefix : frames <+: r.2.1
  delivered_sent : IdsSent delivered frames → IdsSent r.2.2 r.2.1

theorem remoteLoop_spec (messages : List DispatchP) :
    ∀ (batch : DrainBatch) (frames : List DeliverP) (delivered : List (Bytes 16)),
      IdsSent batch.seen frames → RemoteSpec frames delivered (remoteLoop batch frames delivered messages) := by
  induction messages with
  | nil => exact fun _ _ _ hcov => ⟨hcov, List.prefix_refl _, id⟩
  | cons dispatch rest ih =>
      intro batch frames delivered hcov
      simp only [remoteLoop]
      split
      · exact ⟨hcov, List.prefix_refl _, id⟩
      rcases DrainBatch.admit_cases batch (dispatchToDeliver dispatch).id
          (dispatchToDeliver dispatch).payload.length with ⟨hadm, -⟩ | hadm
      · rw [hadm]
        exact ih batch frames delivered hcov
      · rw [hadm]
        have ht := ih ⟨(dispatchToDeliver dispatch).id :: batch.seen,
            batch.bytes + (dispatchToDeliver dispatch).payload.length⟩ (frames ++ [dispatchToDeliver dispatch])
          (delivered ++ [(dispatchToDeliver dispatch).id]) (hcov.cons _)
        exact ⟨ht.covered, (List.prefix_append _ _).trans ht.frames_prefix,
          fun hs => ht.delivered_sent (hs.snoc _)⟩

theorem homeAckSeed_perHome {dht : Dht} {userIpk : Bytes 32} {ids : List (Bytes 16)}
    {st : RemoteDrainState} (h : homeAckSeed dht userIpk ids none = some st) :
    ∀ home ∈ st.perHome, home.2 = ids := by
  unfold homeAckSeed at h
  split at h
  · cases h
  simp only at h
  split at h
  · cases h
  cases h
  intro home hm
  obtain ⟨d, -, rfl⟩ := List.mem_map.mp hm
  rfl

/-- The ids a remote ack state asks the homes to forget were all sent in `frames`. -/
def RemoteAckSent (pending : Option RemoteDrainState) (frames : List DeliverP) : Prop :=
  ∀ st, pending = some st → ∀ home ∈ st.perHome, IdsSent home.2 frames

theorem RemoteAckSent.none (frames : List DeliverP) : RemoteAckSent none frames := fun _ h => nomatch h

theorem RemoteAckSent.mono {pending : Option RemoteDrainState} {frames frames' : List DeliverP}
    (h : RemoteAckSent pending frames) (hp : frames <+: frames') : RemoteAckSent pending frames' :=
  fun st hst home hm => (h st hst home hm).mono hp

/-- The keys a drain records for the ack, against the frames `frames` it sent. -/
def KeysSent (deliverCodec : Codec DeliverP) (dispatchCodec : Codec DispatchP) (dht : Dht)
    (ipk : Bytes 32) (keys : List MessageKey) (frames : List DeliverP) : Prop :=
  ∀ k ∈ keys, SentRow deliverCodec.deser (dht.store.messages.prefixScan ipk.1) frames k ∨
    SentRow (decodeDispatch dispatchCodec) (dht.store.queue.prefixScan ipk.1) frames k

theorem KeysSent.mono {deliverCodec : Codec DeliverP} {dispatchCodec : Codec DispatchP} {dht : Dht}
    {ipk : Bytes 32} {keys : List MessageKey} {frames frames' : List DeliverP}
    (h : KeysSent deliverCodec dispatchCodec dht ipk keys frames) (hp : frames <+: frames') :
    KeysSent deliverCodec dispatchCodec dht ipk keys frames' := fun k hk =>
  (h k hk).imp (fun hs => hs.mono (List.Subset.refl _) hp) (fun hs => hs.mono (List.Subset.refl _) hp)

section Phases

variable (deliverCodec : Codec DeliverP) (dispatchCodec : Codec DispatchP) (dht : Dht)
  (dhtEnabled : Bool) (ctx : ClientCtx)

theorem drainLocal_spec (iAmHome : Bool) (hnone : ctx.pendingRemoteDrain = none) :
    IdsSent (drainLocal deliverCodec dispatchCodec dht dhtEnabled ctx iAmHome).1.seen
        (drainLocal deliverCodec dispatchCodec dht dhtEnabled ctx iAmHome).2.2.1 ∧
      KeysSent deliverCodec dispatchCodec dht ctx.ipk (drainLocal deliverCodec dispatchCodec dht dhtEnabled ctx iAmHome).2.1
        (drainLocal deliverCodec dispatchCodec dht dhtEnabled ctx iAmHome).2.2.1 ∧
      RemoteAckSent (drainLocal deliverCodec dispatchCodec dht dhtEnabled ctx iAmHome).2.2.2
        (drainLocal deliverCodec dispatchCodec dht dhtEnabled ctx iAmHome).2.2.1 := by
  unfold drainLocal
  rcases h₁ : streamKeyspace deliverCodec.deser ⟨[], 0⟩ [] [] [] (dht.store.messages.prefixScan ctx.ipk.1)
    with ⟨batch₁, keys₁, sent₁, frames₁⟩
  have s₁ := streamKeyspace_spec deliverCodec.deser (dht.store.messages.prefixScan ctx.ipk.1) ⟨[], 0⟩ [] [] []
    (IdsSent.nil _)
  rw [h₁] at s₁
  have hk₁ : KeysSent deliverCodec dispatchCodec dht ctx.ipk keys₁ frames₁ := fun k hk =>
    (s₁.keys_from k hk).elim (fun h => nomatch h) .inl
  simp only
  split
  · -- this relay is a home: the `dht_queue` rows follow
    rcases h₂ : streamKeyspace (decodeDispatch dispatchCodec) batch₁ keys₁ [] frames₁
      (dht.store.queue.prefixScan ctx.ipk.1) with ⟨batch₂, keys₂, sent₂, frames₂⟩
    have s₂ := streamKeyspace_spec (decodeDispatch dispatchCodec) (dht.store.queue.prefixScan ctx.ipk.1)
      batch₁ keys₁ [] frames₁ s₁.covered
    rw [h₂] at s₂
    refine ⟨s₂.covered, fun k hk => ?_, ?_⟩
    · rcases s₂.keys_from k hk with hk | hk
      · exact (hk₁.mono s₂.frames_prefix) k hk
      · exact .inr hk
    · rw [hnone]
      intro st hst home hm
      rw [homeAckSeed_perHome hst home hm]
      exact s₂.sent_sent (IdsSent.nil _)
  · rw [hnone]
    exact ⟨s₁.covered, hk₁, RemoteAckSent.none _⟩

theorem drainRemote_spec (fetched : RemoteFetchResult) (batch : DrainBatch) (frames : List DeliverP)
    (pending : Option RemoteDrainState) (hcov : IdsSent batch.seen frames)
    (hpending : RemoteAckSent pending frames) :
    frames <+: (drainRemote ctx.ipk fetched batch frames pending).1 ∧
      RemoteAckSent (drainRemote ctx.ipk fetched batch frames pending).2
        (drainRemote ctx.ipk fetched batch frames pending).1 := by
  unfold drainRemote
  have hr := remoteLoop_spec fetched.messages batch frames [] hcov
  rcases h : remoteLoop batch frames [] fetched.messages with ⟨batch', frames', delivered⟩
  rw [h] at hr
  refine ⟨hr.frames_prefix, ?_⟩
  simp only
  split
  · exact hpending.mono hr.frames_prefix
  · -- each home keeps only the ids the remote loop put on the wire
    intro st hst home hm i hi
    cases hst
    obtain ⟨home', -, rfl⟩ := List.mem_map.mp (List.mem_filter.mp hm).1
    have hd : i ∈ delivered := by simpa using (List.mem_filter.mp hi).2
    exact hr.delivered_sent (IdsSent.nil _) i hd

theorem handleDrainQueue_spec (fetch : RemoteFetchResult) (hnone : ctx.pendingRemoteDrain = none) :
    KeysSent deliverCodec dispatchCodec dht ctx.ipk
        (handleDrainQueue deliverCodec dispatchCodec dht dhtEnabled ctx fetch).2.pendingDrain
        (handleDrainQueue deliverCodec dispatchCodec dht dhtEnabled ctx fetch).1 ∧
      RemoteAckSent (handleDrainQueue deliverCodec dispatchCodec dht dhtEnabled ctx fetch).2.pendingRemoteDrain
        (handleDrainQueue deliverCodec dispatchCodec dht dhtEnabled ctx fetch).1 := by
  unfold handleDrainQueue
  generalize (if dhtEnabled then drainSelfIsInKClosest dht ctx.ipk else true) = iAmHome
  obtain ⟨hcov, hkeys, hpending⟩ := drainLocal_spec deliverCodec dispatchCodec dht dhtEnabled ctx iAmHome hnone
  rcases hL : drainLocal deliverCodec dispatchCodec dht dhtEnabled ctx iAmHome with ⟨batch, keys, frames, pending⟩
  rw [hL] at hcov hkeys hpending
  simp only [hL]
  -- whichever remote result was fetched, it goes out after the local frames
  exact ⟨hkeys.mono (drainRemote_spec ctx _ batch frames pending hcov hpending).1,
    (drainRemote_spec ctx _ batch frames pending hcov hpending).2⟩

end Phases

theorem handleAckDrain_messages (dht : Dht) (dhtEnabled : Bool) (ctx : ClientCtx) :
    (handleAckDrain dht dhtEnabled ctx).1.store.messages.rows =
      dht.store.messages.rows.filter fun r => decide (r.1 ∉ ctx.pendingDrain.map MessageKey.asBytes) := by
  unfold handleAckDrain
  by_cases hempty : ctx.pendingDrain = []
  · simp [hempty]
  · simp [hempty]

theorem handleAckDrain_queue (dht : Dht) (dhtEnabled : Bool) (ctx : ClientCtx) :
    (handleAckDrain dht dhtEnabled ctx).1.store.queue.rows =
      dht.store.queue.rows.filter fun r => decide (r.1 ∉ ctx.pendingDrain.map MessageKey.asBytes) := by
  unfold handleAckDrain
  by_cases hempty : ctx.pendingDrain = []
  · simp [hempty]
  · simp [hempty]

theorem mem_remoteAckIds {dhtEnabled : Bool} {st : RemoteDrainState} {i : Bytes 16}
    (h : i ∈ remoteAckIds dhtEnabled st) : ∃ home ∈ st.perHome, i ∈ home.2 := by
  unfold remoteAckIds at h
  simp only at h
  split at h
  · cases h
  · have hu := List.mem_of_mem_take h
    rw [List.mem_dedup, List.mem_flatMap] at hu
    exact hu

theorem mem_handleAckDrain_acked (dht : Dht) (dhtEnabled : Bool) (ctx : ClientCtx) {i : Bytes 16}
    (h : i ∈ (handleAckDrain dht dhtEnabled ctx).2.2) :
    ∃ st, ctx.pendingRemoteDrain = some st ∧ ∃ home ∈ st.perHome, i ∈ home.2 := by
  unfold handleAckDrain at h
  split at h
  · cases h
  · exact ⟨_, ‹_›, mem_remoteAckIds h⟩

/-- Every row of `ks` that `decode` reads carries its key's id, as the rows that
`store_in_rocks` and `enqueue_for_home` write do. -/
def KeysMatchIds (decode : List UInt8 → Option DeliverP) (ks : Keyspace) : Prop :=
  ∀ r ∈ ks.rows, ∀ d, decode r.2 = some d → keyId r.1 = d.id.1

theorem SentRow.prefix_id {decode : List UInt8 → Option DeliverP} {ks : Keyspace} {ipk : Bytes 32}
    {frames : List DeliverP} {k : MessageKey} (hm : KeysMatchIds decode ks)
    (h : SentRow decode (ks.prefixScan ipk.1) frames k) :
    ipk.1 <+: k.asBytes ∧ ∃ f ∈ frames, f.id.1 = k.id.1 := by
  obtain ⟨v, d, hv, hd, f, hf, hid⟩ := h
  simp only [Keyspace.prefixScan, SortedMap.scan, List.mem_filter] at hv
  have hkey : keyId k.asBytes = d.id.1 := hm _ hv.1 d hd
  rw [keyId_asBytes] at hkey
  exact ⟨List.isPrefixOf_iff_prefix.mp hv.2, f, hf, by rw [hid, hkey]⟩

theorem KeysMatchIds.of_sub {decode : List UInt8 → Option DeliverP} {ks ks' : Keyspace}
    (h : KeysMatchIds decode ks) (hs : ks'.Sub ks) : KeysMatchIds decode ks' := fun r hr =>
  h r (hs.mem hr)

theorem KeysMatchIds.single {decode : List UInt8 → Option DeliverP} {k v : List UInt8} {d₀ : DeliverP}
    (hd : decode v = some d₀) (hk : keyId k = d₀.id.1) :
    KeysMatchIds decode (SortedMap.empty.insert k v) := by
  intro r hr d hd'
  rcases SortedMap.mem_insert.mp hr with rfl | ⟨hr, -⟩
  · rw [hd] at hd'
    cases hd'
    exact hk
  · cases hr

theorem KeysMatchIds.applyQueueOp {codec : Codec DispatchP} (hrt : codec.RoundTrip) {dht : Dht}
    (h : KeysMatchIds (decodeDispatch codec) dht.store.queue) (op : QueueOp) :
    KeysMatchIds (decodeDispatch codec) (dht.applyQueueOp codec op).store.queue := by
  obtain hs | ⟨userIpk, dispatch, nowMs, value, -, hser, hq⟩ := applyQueueOp_queue codec dht op
  · exact h.of_sub hs
  · rw [hq]
    intro r hr d hd
    rcases SortedMap.mem_insert.mp hr with rfl | ⟨hr, -⟩
    · -- the new row decodes to the dispatch it was written from
      simp only [decodeDispatch, hrt dispatch value hser, Option.map_some, Option.some.injEq] at hd
      rw [keyId_asBytes, ← hd]
      rfl
    · exact h r hr d hd

/-- Runs of the queue calls from an empty `dht_queue`, with a codec that reads back what it
writes, only ever hold rows whose key carries the id of the dispatch stored there. -/
theorem queue_keys_match_ids (codec : Codec DispatchP) (hrt : codec.RoundTrip) (dht : Dht)
    (hempty : dht.store.queue = SortedMap.empty) (ops : List QueueOp) :
    KeysMatchIds (decodeDispatch codec) (ops.foldl (Dht.applyQueueOp codec) dht).store.queue := by
  have hinit : KeysMatchIds (decodeDispatch codec) dht.store.queue := by
    intro r hr
    rw [hempty, SortedMap.rows_empty] at hr
    cases hr
  exact Reach.Reachable.invariant (P := fun d : Dht => KeysMatchIds (decodeDispatch codec) d.store.queue)
    hinit (fun _ op hd => hd.applyQueueOp hrt op) (Reach.reachable_foldl ops)

def soleDispatchCodec : Codec DispatchP :=
  ⟨fun d => if d = smallDispatch then some [0] else none,
    fun bytes => if bytes = [0] then some smallDispatch else none⟩

theorem soleDispatchCodec_roundTrip : soleDispatchCodec.RoundTrip :=
  Codec.RoundTrip.of_single smallDispatch [0] (fun _ => rfl) rfl

theorem queue_keys_match_ids_enqueue :
    soleDispatchCodec.RoundTrip ∧
      (Dht.new ⟨List.replicate 32 0, by simp⟩ 0 Store.empty).store.queue = SortedMap.empty ∧
      KeysMatchIds (decodeDispatch soleDispatchCodec)
        ([QueueOp.enqueueForHome smallDispatch.to smallDispatch 1].foldl (Dht.applyQueueOp soleDispatchCodec)
          (Dht.new ⟨List.replicate 32 0, by simp⟩ 0 Store.empty)).store.queue :=
  ⟨soleDispatchCodec_roundTrip, rfl, queue_keys_match_ids soleDispatchCodec soleDispatchCodec_roundTrip
    (Dht.new ⟨List.replicate 32 0, by simp⟩ 0 Store.empty) rfl _⟩

-- the run above does write a row
example : ([QueueOp.enqueueForHome smallDispatch.to smallDispatch 1].foldl (Dht.applyQueueOp soleDispatchCodec)
    (Dht.new ⟨List.replicate 32 0, by simp⟩ 0 Store.empty)).store.queue.rows.length = 1 := by
  decide +kernel

/-- An ack that removes from `old` nothing but rows under the client's prefix whose key
carries the id of one of `frames`: every other row stays. -/
structure DeletesOnlySent (ipk : Bytes 32) (frames : List DeliverP) (old new : Keyspace) : Prop where
  sub : new.Sub old
  deleted : ∀ r ∈ old.rows, r ∉ new.rows → ipk.1 <+: r.1 ∧ ∃ f ∈ frames, f.id.1 = keyId r.1

theorem deletesOnlySent_of_filter {ipk : Bytes 32} {frames : List DeliverP} {old new : Keyspace}
    {keys : List MessageKey} (hnew : new.rows = old.rows.filter fun r => decide (r.1 ∉ keys.map asBytes))
    (hkeys : ∀ k ∈ keys, ipk.1 <+: k.asBytes ∧ ∃ f ∈ frames, f.id.1 = k.id.1) :
    DeletesOnlySent ipk frames old new where
  sub := by
    show new.rows.Sublist old.rows
    rw [hnew]
    exact List.filter_sublist
  deleted r hr hgone := by
    have hkey : r.1 ∈ keys.map asBytes := by
      by_contra hout
      exact hgone (hnew ▸ List.mem_filter.mpr ⟨hr, decide_eq_true hout⟩)
    obtain ⟨k, hk, hkr⟩ := List.mem_map.mp hkey
    rw [← hkr, keyId_asBytes]
    exact hkeys k hk

theorem drain_ack_deletes_only_sent (deliverCodec : Codec DeliverP) (dispatchCodec : Codec DispatchP)
    (dht : Dht) (dhtEnabled : Bool) (ctx : ClientCtx) (fetch : RemoteFetchResult)
    (hnone : ctx.pendingRemoteDrain = none)
    (hmessages : KeysMatchIds deliverCodec.deser dht.store.messages)
    (hqueue : KeysMatchIds (decodeDispatch dispatchCodec) dht.store.queue) :
    DeletesOnlySent ctx.ipk (drainThenAck deliverCodec dispatchCodec dht dhtEnabled ctx fetch).1
        dht.store.messages (drainThenAck deliverCodec dispatchCodec dht dhtEnabled ctx fetch).2.1.store.messages ∧
      DeletesOnlySent ctx.ipk (drainThenAck deliverCodec dispatchCodec dht dhtEnabled ctx fetch).1
        dht.store.queue (drainThenAck deliverCodec dispatchCodec dht dhtEnabled ctx fetch).2.1.store.queue ∧
      IdsSent (drainThenAck deliverCodec dispatchCodec dht dhtEnabled ctx fetch).2.2
        (drainThenAck deliverCodec dispatchCodec dht dhtEnabled ctx fetch).1 := by
  obtain ⟨hkeys, hremote⟩ := handleDrainQueue_spec deliverCodec dispatchCodec dht dhtEnabled ctx fetch hnone
  unfold drainThenAck
  generalize handleDrainQueue deliverCodec dispatchCodec dht dhtEnabled ctx fetch = r at hkeys hremote
  obtain ⟨frames, ctx'⟩ := r
  simp only at hkeys hremote ⊢
  -- both keyspaces lose exactly the recorded keys, each read from a row whose id went out
  have hsent : ∀ k ∈ ctx'.pendingDrain, ctx.ipk.1 <+: k.asBytes ∧ ∃ f ∈ frames, f.id.1 = k.id.1 :=
    fun k hk => (hkeys k hk).elim (·.prefix_id hmessages) (·.prefix_id hqueue)
  refine ⟨deletesOnlySent_of_filter (handleAckDrain_messages dht dhtEnabled ctx') hsent,
    deletesOnlySent_of_filter (handleAckDrain_queue dht dhtEnabled ctx') hsent, fun i hi => ?_⟩
  obtain ⟨st, hst, home, hm, hi⟩ := mem_handleAckDrain_acked dht dhtEnabled ctx' hi
  exact hremote st hst home hm i hi

def deliverLayoutBytes (d : DeliverP) : List UInt8 := d.from.1 ++ d.id.1 ++ d.payload

def deliverLayoutCodec : Codec DeliverP where
  ser d := some (deliverLayoutBytes d)
  deser v :=
    if h : 48 ≤ v.length then
      some ⟨⟨(v.drop 32).take 16, by simp; omega⟩, ⟨v.take 32, by simp; omega⟩, v.drop 48,
        Bytes.replicate 64 0, 0⟩
    else none

def sharedIdRecipient : Bytes 32 := Bytes.replicate 32 7

def sharedId : Bytes 16 := Bytes.replicate 16 9

def deliverFromA : DeliverP :=
  ⟨sharedId, Bytes.replicate 32 1, [5], Bytes.replicate 64 0, 0⟩

/-- Sender B's dispatch with the same id, queued in `dht_queue` by this home. -/
def dispatchFromB : DispatchP :=
  ⟨sharedIdRecipient, Bytes.replicate 32 2, sharedId, [6], Bytes.replicate 64 0, 0, false⟩

def rowFromA : List UInt8 × List UInt8 :=
  ((MessageKey.new sharedIdRecipient 1 sharedId).asBytes, deliverLayoutBytes deliverFromA)

def rowFromB : List UInt8 × List UInt8 :=
  ((MessageKey.new sharedIdRecipient 2 sharedId).asBytes, layoutBytes dispatchFromB)

def sharedIdDht : Dht :=
  Dht.new (Bytes.replicate 32 0) 0
    ⟨SortedMap.empty.insert rowFromA.1 rowFromA.2, SortedMap.empty.insert rowFromB.1 rowFromB.2, .empty, .empty⟩

def sharedIdClient : ClientCtx := ⟨sharedIdRecipient, false, [], none⟩

/-- At the shared-id input the ack deletes sender B's queued row, whose id went out with sender
A's message: no frame carries B's `(from, id)`. -/
theorem drain_ack_deletes_only_sent_sharedId :
    sharedIdClient.pendingRemoteDrain = none ∧
      KeysMatchIds deliverLayoutCodec.deser sharedIdDht.store.messages ∧
      KeysMatchIds (decodeDispatch layoutCodec) sharedIdDht.store.queue ∧
      DeletesOnlySent sharedIdRecipient (drainThenAck deliverLayoutCodec layoutCodec sharedIdDht true sharedIdClient ⟨[], [], []⟩).1
        sharedIdDht.store.queue
        (drainThenAck deliverLayoutCodec layoutCodec sharedIdDht true sharedIdClient ⟨[], [], []⟩).2.1.store.queue ∧
      rowFromB ∈ sharedIdDht.store.queue.rows ∧
      rowFromB ∉ (drainThenAck deliverLayoutCodec layoutCodec sharedIdDht true sharedIdClient
        ⟨[], [], []⟩).2.1.store.queue.rows ∧
      ∀ f ∈ (drainThenAck deliverLayoutCodec layoutCodec sharedIdDht true sharedIdClient ⟨[], [], []⟩).1,
        ¬(f.from = dispatchFromB.from ∧ f.id = dispatchFromB.id) := by
  have hm : KeysMatchIds deliverLayoutCodec.deser sharedIdDht.store.messages :=
    KeysMatchIds.single rfl (by decide)
  have hq : KeysMatchIds (decodeDispatch layoutCodec) sharedIdDht.store.queue :=
    KeysMatchIds.single rfl (by decide)
  have hdiverge : rowFromB ∈ sharedIdDht.store.queue.rows ∧
      rowFromB ∉ (drainThenAck deliverLayoutCodec layoutCodec sharedIdDht true sharedIdClient
        ⟨[], [], []⟩).2.1.store.queue.rows ∧
      ∀ f ∈ (drainThenAck deliverLayoutCodec layoutCodec sharedIdDht true sharedIdClient ⟨[], [], []⟩).1,
        ¬(f.from = dispatchFromB.from ∧ f.id = dispatchFromB.id) := by
    decide +kernel
  exact ⟨rfl, hm, hq, (drain_ack_deletes_only_sent deliverLayoutCodec layoutCodec sharedIdDht true
    sharedIdClient ⟨[], [], []⟩ rfl hm hq).2.1, hdiverge⟩

end Promtuz
