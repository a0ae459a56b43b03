import Promtuz.Relay.Queue

namespace Promtuz

open MessageKey

@[simp] theorem keyId_asBytes (k : MessageKey) : keyId k.asBytes = k.id.1 := by
  have hl : (k.recipient.1 ++ k.tsBe.1).length = 40 := by simp [k.recipient.2, k.tsBe.2]
  rw [keyId, asBytes, List.drop_left' hl, List.take_of_length_le (Nat.le_of_eq k.id.2)]

section Admission

variable {dispatchId : List UInt8} {sender : Bytes 32} {senderOf : List UInt8 → Option (Bytes 32)}
  {s s' : AdmitScan} {keyBytes value : List UInt8} {rows : List (List UInt8 × List UInt8)}

/-- Whether `admit_to_queue` attributes a row to the sender: only while under
the byte budget, and only if the row decodes to that sender. -/
def AdmitScan.sameSender (s : AdmitScan) (senderOf : List UInt8 → Option (Bytes 32))
    (sender : Bytes 32) (value : List UInt8) : Bool :=
  decide (s.attributedBytes < SENDER_SCAN_BYTE_BUDGET) && (senderOf value).any fun f => decide (f = sender)

def AdmitScan.attributed (s : AdmitScan) (value : List UInt8) : Nat :=
  if s.attributedBytes < SENDER_SCAN_BYTE_BUDGET then s.attributedBytes + value.length
  else s.attributedBytes

theorem admitLoop_cons_match (hk : keyBytes.length = SIZE) (hid : keyId keyBytes = dispatchId) :
    admitLoop dispatchId sender senderOf s ((keyBytes, value) :: rows) =
      .inl (if s.sameSender senderOf sender value then .alreadyQueued else .idTakenByOther) := by
  simp [admitLoop, hk, hid, AdmitScan.sameSender]

theorem admitLoop_cons_other (hk : keyBytes.length = SIZE) (hid : keyId keyBytes ≠ dispatchId)
    (hsame : s.sameSender senderOf sender value = false) :
    admitLoop dispatchId sender senderOf s ((keyBytes, value) :: rows) =
      if MAX_QUEUED_PER_RECIPIENT + 1 ≤ s.total + 1 then .inr ⟨s.total + 1, s.fromSender, s.attributed value⟩
      else admitLoop dispatchId sender senderOf ⟨s.total + 1, s.fromSender, s.attributed value⟩ rows := by
  simp only [AdmitScan.sameSender] at hsame
  simp [admitLoop, hk, hid, hsame, AdmitScan.attributed]
  
theorem admitLoop_cons_same (hk : keyBytes.length = SIZE) (hid : keyId keyBytes ≠ dispatchId)
    (hsame : s.sameSender senderOf sender value = true) :
    admitLoop dispatchId sender senderOf s ((keyBytes, value) :: rows) =
      if MAX_QUEUED_PER_SENDER ≤ s.fromSender + 1 then
        .inr ⟨s.total + 1, s.fromSender + 1, s.attributed value⟩
      else if MAX_QUEUED_PER_RECIPIENT + 1 ≤ s.total + 1 then
        .inr ⟨s.total + 1, s.fromSender + 1, s.attributed value⟩
      else admitLoop dispatchId sender senderOf ⟨s.total + 1, s.fromSender + 1, s.attributed value⟩ rows := by
  simp only [AdmitScan.sameSender] at hsame
  simp [admitLoop, hk, hid, hsame, AdmitScan.attributed]

theorem admitLoop_complete (h : admitLoop dispatchId sender senderOf s rows = .inr s')
    (hsize : ∀ r ∈ rows, r.1.length = SIZE) (htotal : s'.total < MAX_QUEUED_PER_RECIPIENT)
    (hfrom : s'.fromSender < MAX_QUEUED_PER_SENDER) :
    s'.total = s.total + rows.length ∧ ∀ r ∈ rows, keyId r.1 ≠ dispatchId := by
  induction rows generalizing s with
  | nil =>
      simp only [admitLoop, Sum.inr.injEq] at h
      simp [h]
  | cons r rows ih =>
      obtain ⟨keyBytes, value⟩ := r
      have hk : keyBytes.length = SIZE := hsize _ List.mem_cons_self
      have hrest : ∀ r ∈ rows, r.1.length = SIZE := fun r hr => hsize r (List.mem_cons_of_mem _ hr)
      by_cases hid : keyId keyBytes = dispatchId
      · rw [admitLoop_cons_match hk hid] at h
        cases h
      -- the rest of the scan, once this row is counted
      have hnext : ∀ {f : Nat}, admitLoop dispatchId sender senderOf ⟨s.total + 1, f, s.attributed value⟩ rows = .inr s' →
          s'.total = s.total + (rows.length + 1) ∧ ∀ r ∈ (keyBytes, value) :: rows, keyId r.1 ≠ dispatchId := by
        intro f hl
        obtain ⟨ht, hr⟩ := ih hl hrest
        refine ⟨by simp only at ht; omega, ?_⟩
        rintro r (_ | ⟨_, hr'⟩)
        · exact hid
        · exact hr r hr'
      cases hsame : s.sameSender senderOf sender value
      · rw [admitLoop_cons_other hk hid hsame] at h
        split_ifs at h with hcap
        · cases h
          simp only at htotal
          omega
        · exact hnext h
      · rw [admitLoop_cons_same hk hid hsame] at h
        split_ifs at h with hq hcap
        · cases h
          simp only at hfrom
          omega
        · cases h
          simp only at htotal
          omega
        · exact hnext h

theorem admitLoop_ne_insert : admitLoop dispatchId sender senderOf s rows ≠ .inl .insert := by
  induction rows generalizing s with
  | nil => simp [admitLoop]
  | cons r rows ih =>
      obtain ⟨keyBytes, value⟩ := r
      by_cases hk : keyBytes.length = SIZE
      · by_cases hid : keyId keyBytes = dispatchId
        · rw [admitLoop_cons_match hk hid]
          split <;> simp
        cases hsame : s.sameSender senderOf sender value
        · rw [admitLoop_cons_other hk hid hsame]
          split_ifs
          · simp
          · exact ih
        · rw [admitLoop_cons_same hk hid hsame]
          split_ifs
          · simp
          · simp
          · exact ih
      · rw [admitLoop, if_pos hk]
        exact ih

theorem admitToQueue_insert {ks : Keyspace} {recipient : Bytes 32} {dispatchId : Bytes 16}
    (h : admitToQueue ks recipient dispatchId sender senderOf = .insert)
    (hsize : ∀ r ∈ ks.prefixScan recipient.1, r.1.length = SIZE) :
    (ks.prefixScan recipient.1).length < MAX_QUEUED_PER_RECIPIENT ∧
      ∀ r ∈ ks.prefixScan recipient.1, keyId r.1 ≠ dispatchId.1 := by
  unfold admitToQueue at h
  split at h
  · next a hl =>
    subst h
    exact absurd hl admitLoop_ne_insert
  · next s hl =>
    split at h
    · cases h
    · next hcap =>
      rw [not_or, Nat.not_le, Nat.not_le] at hcap
      obtain ⟨ht, hr⟩ := admitLoop_complete hl hsize hcap.1 hcap.2
      exact ⟨by simp at ht; omega, hr⟩

end Admission

/-- The home queue's representation invariant: every key is a `MessageKey`,
and under each recipient prefix at most `MAX_QUEUED_PER_RECIPIENT` rows with
pairwise distinct dispatch ids. -/
structure QueueWellFormed (queue : Keyspace) : Prop where
  key_size : ∀ r ∈ queue.rows, r.1.length = SIZE
  capped : ∀ user : Bytes 32, (queue.prefixScan user.1).length ≤ MAX_QUEUED_PER_RECIPIENT
  ids_nodup : ∀ user : Bytes 32, ((queue.prefixScan user.1).map fun r => keyId r.1).Nodup

theorem QueueWellFormed.empty : QueueWellFormed SortedMap.empty where
  key_size := by simp
  capped _ := by simp [Keyspace.prefixScan, SortedMap.scan, MAX_QUEUED_PER_RECIPIENT]
  ids_nodup _ := by simp [Keyspace.prefixScan, SortedMap.scan]

section WellFormed

variable {queue queue' : Keyspace}

theorem QueueWellFormed.prefix_size (h : QueueWellFormed queue) (user : Bytes 32) :
    ∀ r ∈ queue.prefixScan user.1, r.1.length = SIZE :=
  fun r hr => h.key_size r (List.mem_of_mem_filter hr)

theorem QueueWellFormed.of_sub (h : QueueWellFormed queue) (hs : queue'.Sub queue) :
    QueueWellFormed queue' where
  key_size r hr := h.key_size r (hs.mem hr)
  capped user := Nat.le_trans (hs.scan _).length_le (h.capped user)
  ids_nodup user := (h.ids_nodup user).sublist ((hs.scan _).map _)

theorem prefixScan_insert_of_absent {k : List UInt8} (v : List UInt8) (p : List UInt8)
    (habs : ∀ r ∈ queue.rows, r.1 ≠ k) :
    (Keyspace.prefixScan (queue.insert k v) p).Perm
      (if p.isPrefixOf k then (k, v) :: queue.prefixScan p else queue.prefixScan p) := by
  have hperm := (queue.insert_perm k v).filter fun r => p.isPrefixOf r.1
  rw [SortedMap.erase_of_absent habs, List.filter_cons] at hperm
  exact hperm

theorem isPrefixOf_asBytes_iff {u : Bytes 32} {key : MessageKey} :
    u.1.isPrefixOf key.asBytes = true ↔ u = key.recipient := by
  rw [asBytes, List.append_assoc]
  exact Bytes.isPrefixOf_append_iff

theorem QueueWellFormed.insert (h : QueueWellFormed queue) (key : MessageKey) (value : List UInt8)
    (hcap : (queue.prefixScan key.recipient.1).length < MAX_QUEUED_PER_RECIPIENT)
    (hfresh : ∀ r ∈ queue.prefixScan key.recipient.1, keyId r.1 ≠ key.id.1) :
    QueueWellFormed (queue.insert key.asBytes value) := by
  have hpre : ∀ u : Bytes 32, u.1.isPrefixOf key.asBytes = true ↔ u = key.recipient :=
    fun _ => isPrefixOf_asBytes_iff
  have habs : ∀ r ∈ queue.rows, r.1 ≠ key.asBytes := by
    intro r hr hk
    have hin : r ∈ queue.prefixScan key.recipient.1 :=
      List.mem_filter.mpr ⟨hr, by rw [hk]; exact (hpre key.recipient).mpr rfl⟩
    exact hfresh r hin (by rw [hk, keyId_asBytes])
  refine ⟨?_, fun u => ?_, fun u => ?_⟩
  · intro r hr
    rcases SortedMap.mem_insert.mp hr with rfl | ⟨hr, -⟩
    · exact length_asBytes key
    · exact h.key_size r hr
  · rw [(prefixScan_insert_of_absent value u.1 habs).length_eq]
    by_cases hu : u = key.recipient
    · subst hu
      rw [if_pos ((hpre _).mpr rfl), List.length_cons]
      exact hcap
    · rw [if_neg (by rw [hpre]; exact hu)]
      exact h.capped u
  · rw [List.Perm.nodup_iff ((prefixScan_insert_of_absent value u.1 habs).map fun r => keyId r.1)]
    by_cases hu : u = key.recipient
    · subst hu
      rw [if_pos ((hpre _).mpr rfl), List.map_cons, List.nodup_cons, keyId_asBytes]
      refine ⟨fun hm => ?_, h.ids_nodup _⟩
      obtain ⟨r, hr, hid⟩ := List.mem_map.mp hm
      exact hfresh r hr hid
    · rw [if_neg (by rw [hpre]; exact hu)]
      exact h.ids_nodup u

end WellFormed

theorem enqueueForHome_cases (codec : Codec DispatchP) (dht : Dht) (userIpk : Bytes 32)
    (dispatch : DispatchP) (nowMs : UInt64) :
    (enqueueForHome codec dht userIpk dispatch nowMs).2 = dht ∨
      ∃ value, admitToQueue dht.store.queue userIpk dispatch.id dispatch.from (dispatchFrom codec) = .insert ∧
        codec.ser dispatch = some value ∧
        enqueueForHome codec dht userIpk dispatch nowMs =
          (.stored, dht.setQueue
            (dht.store.queue.insert (MessageKey.new userIpk nowMs dispatch.id).asBytes value)) := by
  unfold enqueueForHome
  split
  · next hadm =>
    cases hser : codec.ser dispatch with
    | none => exact .inl rfl
    | some value => exact .inr ⟨value, hadm, rfl, rfl⟩
  all_goals exact .inl rfl

theorem applyQueueOp_queue (codec : Codec DispatchP) (dht : Dht) (op : QueueOp) :
    (dht.applyQueueOp codec op).store.queue.Sub dht.store.queue ∨
      ∃ (userIpk : Bytes 32) (dispatch : DispatchP) (nowMs : UInt64) (value : List UInt8),
        admitToQueue dht.store.queue userIpk dispatch.id dispatch.from (dispatchFrom codec) = .insert ∧
        codec.ser dispatch = some value ∧
        (dht.applyQueueOp codec op).store.queue =
          dht.store.queue.insert (MessageKey.new userIpk nowMs dispatch.id).asBytes value := by
  cases op with
  | enqueueForHome userIpk dispatch nowMs =>
      rcases enqueueForHome_cases codec dht userIpk dispatch nowMs with h | ⟨value, hadm, hser, h⟩
      · left
        simp only [Dht.applyQueueOp, h]
        exact SortedMap.Sub.refl _
      · right
        exact ⟨userIpk, dispatch, nowMs, value, hadm, hser, by simp [Dht.applyQueueOp, h]⟩
  | deleteQueueEntries userIpk dispatchIds =>
      left
      simp only [Dht.applyQueueOp, deleteQueueEntries]
      split
      · exact SortedMap.Sub.refl _
      · exact SortedMap.eraseAll_sub _ _
  | queueBatchForUser userIpk max =>
      left
      simp only [Dht.applyQueueOp, queueBatchForUser]
      split
      · exact SortedMap.Sub.refl _
      · exact SortedMap.eraseAll_sub _ _
  | planDriftMigrations max nowMs =>
      left
      simp only [Dht.applyQueueOp, planDriftMigrations]
      split
      · exact SortedMap.Sub.refl _
      · exact SortedMap.eraseAll_sub _ _
  | deleteMigratedEntry key => exact .inl (SortedMap.erase_sub _ _)

theorem QueueWellFormed.applyQueueOp (codec : Codec DispatchP) {dht : Dht}
    (h : QueueWellFormed dht.store.queue) (op : QueueOp) :
    QueueWellFormed (dht.applyQueueOp codec op).store.queue := by
  rcases applyQueueOp_queue codec dht op with hs | ⟨userIpk, dispatch, nowMs, value, hadm, -, hq⟩
  · exact h.of_sub hs
  · obtain ⟨hcap, hfresh⟩ := admitToQueue_insert hadm (h.prefix_size userIpk)
    rw [hq]
    exact h.insert (MessageKey.new userIpk nowMs dispatch.id) value hcap hfresh

/-- A row under `userIpk` already holds this dispatch id, from this sender. -/
def QueuedFrom (codec : Codec DispatchP) (queue : Keyspace) (userIpk : Bytes 32)
    (dispatch : DispatchP) : Prop :=
  ∃ r ∈ queue.prefixScan userIpk.1,
    keyId r.1 = dispatch.id.1 ∧ dispatchFrom codec r.2 = some dispatch.from

/-- The refusals of `enqueue_for_home` that must leave the relay as it was. -/
structure RefusalsUnchanged (codec : Codec DispatchP) (dht : Dht) : Prop where
  queueFull : ∀ userIpk dispatch nowMs,
    (enqueueForHome codec dht userIpk dispatch nowMs).1 = .queueFull →
      (enqueueForHome codec dht userIpk dispatch nowMs).2 = dht
  idTakenByOther : ∀ userIpk dispatch nowMs,
    admitToQueue dht.store.queue userIpk dispatch.id dispatch.from (dispatchFrom codec) =
        .idTakenByOther →
      enqueueForHome codec dht userIpk dispatch nowMs = (.badSig, dht)
  retransmit : ∀ userIpk dispatch nowMs, QueuedFrom codec dht.store.queue userIpk dispatch →
    (enqueueForHome codec dht userIpk dispatch nowMs).1 = .stored →
      (enqueueForHome codec dht userIpk dispatch nowMs).2 = dht

theorem admitToQueue_ne_insert_of_mem {codec : Codec DispatchP} {queue : Keyspace}
    (h : QueueWellFormed queue) {userIpk : Bytes 32} {dispatch : DispatchP}
    (hq : QueuedFrom codec queue userIpk dispatch) :
    admitToQueue queue userIpk dispatch.id dispatch.from (dispatchFrom codec) ≠ .insert := by
  intro hadm
  obtain ⟨r, hr, hid, -⟩ := hq
  exact (admitToQueue_insert hadm (h.prefix_size userIpk)).2 r hr hid

theorem QueueWellFormed.refusalsUnchanged (codec : Codec DispatchP) {dht : Dht}
    (h : QueueWellFormed dht.store.queue) : RefusalsUnchanged codec dht where
  queueFull userIpk dispatch nowMs hfull := by
    rcases enqueueForHome_cases codec dht userIpk dispatch nowMs with hs | ⟨value, -, -, he⟩
    · exact hs
    · rw [he] at hfull
      cases hfull
  idTakenByOther userIpk dispatch nowMs hadm := by
    unfold enqueueForHome
    rw [hadm]
  retransmit userIpk dispatch nowMs hq _ := by
    rcases enqueueForHome_cases codec dht userIpk dispatch nowMs with hs | ⟨value, hadm, -, -⟩
    · exact hs
    · exact absurd hadm (admitToQueue_ne_insert_of_mem h hq)

/-- Sequential runs of the queue calls from an empty `dht_queue` keep the cap
and the single occupancy of each dispatch id per recipient, and in every state
they reach the refused enqueues change nothing. -/
theorem queue_admission_invariant (codec : Codec DispatchP) (dht : Dht)
    (hempty : dht.store.queue = SortedMap.empty) (ops : List QueueOp) :
    QueueWellFormed (ops.foldl (Dht.applyQueueOp codec) dht).store.queue ∧
      RefusalsUnchanged codec (ops.foldl (Dht.applyQueueOp codec) dht) := by
  have hwf : QueueWellFormed (ops.foldl (Dht.applyQueueOp codec) dht).store.queue :=
    Reach.Reachable.invariant (P := fun d : Dht => QueueWellFormed d.store.queue)
      (hempty ▸ QueueWellFormed.empty) (fun _ op hd => hd.applyQueueOp codec op)
      (Reach.reachable_foldl ops)
  exact ⟨hwf, hwf.refusalsUnchanged codec⟩

theorem queue_admission_invariant_fresh :
    (Dht.new ⟨List.replicate 32 0, by simp⟩ 0 Store.empty).store.queue = SortedMap.empty ∧
      QueueWellFormed ([QueueOp.queueBatchForUser ⟨List.replicate 32 0, by simp⟩ 1].foldl
        (Dht.applyQueueOp ⟨fun _ => none, fun _ => none⟩)
        (Dht.new ⟨List.replicate 32 0, by simp⟩ 0 Store.empty)).store.queue ∧
      RefusalsUnchanged ⟨fun _ => none, fun _ => none⟩
        ([QueueOp.queueBatchForUser ⟨List.replicate 32 0, by simp⟩ 1].foldl
          (Dht.applyQueueOp ⟨fun _ => none, fun _ => none⟩)
          (Dht.new ⟨List.replicate 32 0, by simp⟩ 0 Store.empty)) :=
  ⟨rfl, queue_admission_invariant ⟨fun _ => none, fun _ => none⟩
    (Dht.new ⟨List.replicate 32 0, by simp⟩ 0 Store.empty) rfl
    [QueueOp.queueBatchForUser ⟨List.replicate 32 0, by simp⟩ 1]⟩

end Promtuz
