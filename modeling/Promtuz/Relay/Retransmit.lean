import Promtuz.Relay.QueueInvariant

namespace Promtuz

open MessageKey

section Scan

variable {dispatchId : List UInt8} {sender : Bytes 32} {senderOf : List UInt8 → Option (Bytes 32)}
  {s : AdmitScan} {value : List UInt8}

theorem AdmitScan.sameSender_of_ne (h : senderOf value ≠ some sender) :
    s.sameSender senderOf sender value = false := by
  unfold AdmitScan.sameSender
  cases hv : senderOf value with
  | none => simp
  | some f =>
      have hf : f ≠ sender := fun e => h (by rw [hv, e])
      simp [hf]

theorem AdmitScan.sameSender_of_budget (h : SENDER_SCAN_BYTE_BUDGET ≤ s.attributedBytes) :
    s.sameSender senderOf sender value = false := by
  simp [AdmitScan.sameSender, Nat.not_lt.mpr h]

theorem admitLoop_others (rest : List (List UInt8 × List UInt8)) {pre : List (List UInt8 × List UInt8)}
    (hsize : ∀ r ∈ pre, r.1.length = SIZE) (hids : ∀ r ∈ pre, keyId r.1 ≠ dispatchId)
    (hothers : ∀ r ∈ pre, senderOf r.2 ≠ some sender)
    (hcap : s.total + pre.length ≤ MAX_QUEUED_PER_RECIPIENT) :
    ∃ s' : AdmitScan,
      (SENDER_SCAN_BYTE_BUDGET ≤ s.attributedBytes + (pre.map fun r => r.2.length).sum →
        SENDER_SCAN_BYTE_BUDGET ≤ s'.attributedBytes) ∧
      admitLoop dispatchId sender senderOf s (pre ++ rest) = admitLoop dispatchId sender senderOf s' rest := by
  induction pre generalizing s with
  | nil => exact ⟨s, by simp, rfl⟩
  | cons r pre ih =>
      obtain ⟨keyBytes, value⟩ := r
      have hsame : s.sameSender senderOf sender value = false :=
        AdmitScan.sameSender_of_ne (hothers _ List.mem_cons_self)
      have hlen : pre.length + 1 = ((keyBytes, value) :: pre).length := rfl
      obtain ⟨s', hs', hl⟩ := ih (s := ⟨s.total + 1, s.fromSender, s.attributed value⟩)
        (fun r hr => hsize r (List.mem_cons_of_mem _ hr)) (fun r hr => hids r (List.mem_cons_of_mem _ hr))
        (fun r hr => hothers r (List.mem_cons_of_mem _ hr)) (by simp only; omega)
      refine ⟨s', fun hb => hs' ?_, ?_⟩
      · simp only [List.map_cons, List.sum_cons] at hb
        simp only [AdmitScan.attributed]
        split <;> omega
      · rw [List.cons_append, admitLoop_cons_other (hsize _ List.mem_cons_self)
          (hids _ List.mem_cons_self) hsame, if_neg (by omega)]
        exact hl

end Scan

/-- A retransmit whose original row sits behind at least `SENDER_SCAN_BYTE_BUDGET`
bytes of other senders' rows is refused as `IdTakenByOther`, answered `BadSig`. -/
theorem retransmit_behind_budget_rejected (codec : Codec DispatchP) (dht : Dht)
    (dispatch : DispatchP) (nowMs : UInt64) (hwf : QueueWellFormed dht.store.queue)
    (pre post : List (List UInt8 × List UInt8)) (row : List UInt8 × List UInt8)
    (hscan : dht.store.queue.prefixScan dispatch.to.1 = pre ++ row :: post)
    (hrow : keyId row.1 = dispatch.id.1)
    (hothers : ∀ r ∈ pre, dispatchFrom codec r.2 ≠ some dispatch.from)
    (hbudget : SENDER_SCAN_BYTE_BUDGET ≤ (pre.map fun r => r.2.length).sum) :
    enqueueForHome codec dht dispatch.to dispatch nowMs = (.badSig, dht) := by
  have hsize := hwf.prefix_size dispatch.to
  rw [hscan] at hsize
  have hids : ∀ r ∈ pre, keyId r.1 ≠ dispatch.id.1 := by
    have hn := hwf.ids_nodup dispatch.to
    rw [hscan, List.map_append, List.map_cons] at hn
    intro r hr hid
    exact List.disjoint_of_nodup_append hn (List.mem_map_of_mem hr) (hid.trans hrow.symm ▸ List.mem_cons_self)
  have hcap : 0 + pre.length ≤ MAX_QUEUED_PER_RECIPIENT := by
    have := hwf.capped dispatch.to
    rw [hscan, List.length_append, List.length_cons] at this
    omega
  obtain ⟨s', hs', hl⟩ := admitLoop_others (s := ⟨0, 0, 0⟩) (row :: post)
    (fun r hr => hsize r (List.mem_append_left _ hr)) hids hothers hcap
  have hrow_size : row.1.length = SIZE := hsize row (List.mem_append_right _ List.mem_cons_self)
  have hadm : admitToQueue dht.store.queue dispatch.to dispatch.id dispatch.from (dispatchFrom codec) =
      .idTakenByOther := by
    unfold admitToQueue
    rw [hscan, hl, admitLoop_cons_match hrow_size hrow,
      AdmitScan.sameSender_of_budget (hs' (by simpa using hbudget))]
    rfl
  unfold enqueueForHome
  rw [hadm]

def layoutBytes (d : DispatchP) : List UInt8 := d.to.1 ++ d.from.1 ++ d.id.1 ++ d.payload

def layoutCodec : Codec DispatchP where
  ser d := some (layoutBytes d)
  deser v :=
    if h : 80 ≤ v.length then
      some ⟨⟨v.take 32, by simp; omega⟩, ⟨(v.drop 32).take 32, by simp; omega⟩,
        ⟨(v.drop 64).take 16, by simp; omega⟩, v.drop 80, Bytes.replicate 64 0, 0, false⟩
    else none

theorem dispatchFrom_layoutBytes (d : DispatchP) :
    dispatchFrom layoutCodec (layoutBytes d) = some d.from := by
  have h1 := d.to.2
  have h2 := d.from.2
  have h3 := d.id.2
  simp [dispatchFrom, layoutCodec, layoutBytes, h1, h2, h3, List.drop_append, List.take_append]
  omega

theorem length_layoutBytes (d : DispatchP) : (layoutBytes d).length = 80 + d.payload.length := by
  simp [layoutBytes, d.to.2, d.from.2, d.id.2]
  omega

def bulkPayloadLength : Nat := 1000000

def bulkDispatch (i : Nat) : DispatchP :=
  ⟨Bytes.replicate 32 7, Bytes.replicate 32 2,
    ⟨List.replicate 16 (UInt8.ofNat (i + 1)), by simp⟩, List.replicate bulkPayloadLength 0,
    Bytes.replicate 64 0, 0, false⟩

def smallDispatch : DispatchP :=
  ⟨Bytes.replicate 32 7, Bytes.replicate 32 1,
    Bytes.replicate 16 200, [1, 2, 3], Bytes.replicate 64 0, 0, false⟩

def bulkRows : List (List UInt8 × List UInt8) :=
  (List.range 9).map fun i =>
    ((MessageKey.new (bulkDispatch i).to (UInt64.ofNat (i + 1)) (bulkDispatch i).id).asBytes,
      layoutBytes (bulkDispatch i))

def smallRow : List UInt8 × List UInt8 :=
  ((MessageKey.new smallDispatch.to 10 smallDispatch.id).asBytes, layoutBytes smallDispatch)

def bulkQueue : Keyspace := ⟨bulkRows ++ [smallRow], by decide⟩

theorem mem_bulkQueue {r : List UInt8 × List UInt8} (hr : r ∈ bulkQueue.rows) :
    ∃ k : MessageKey, k.recipient = ⟨List.replicate 32 7, by simp⟩ ∧ r.1 = k.asBytes := by
  simp only [bulkQueue, bulkRows, smallRow, List.mem_append, List.mem_map, List.mem_singleton] at hr
  rcases hr with ⟨i, -, rfl⟩ | rfl
  · exact ⟨_, rfl, rfl⟩
  · exact ⟨_, rfl, rfl⟩

theorem bulkQueue_wellFormed : QueueWellFormed bulkQueue := by
  refine ⟨fun r hr => ?_, fun u => ?_, fun u => ?_⟩
  · obtain ⟨k, -, hk⟩ := mem_bulkQueue hr
    rw [hk, length_asBytes]
  · have hl : bulkQueue.rows.length = 10 := by simp [bulkQueue, bulkRows]
    have := (List.filter_sublist (p := fun r => u.1.isPrefixOf r.1) (l := bulkQueue.rows)).length_le
    simp only [Keyspace.prefixScan, SortedMap.scan, MAX_QUEUED_PER_RECIPIENT]
    omega
  · have hids : (bulkQueue.rows.map fun r => keyId r.1).Nodup := by
      simp only [bulkQueue, bulkRows, smallRow, List.map_append, List.map_map, Function.comp_def,
        keyId_asBytes, List.map_cons, List.map_nil]
      decide
    exact hids.sublist (List.filter_sublist.map _)

theorem prefixScan_bulkQueue :
    bulkQueue.prefixScan smallDispatch.to.1 = bulkRows ++ smallRow :: [] := by
  rw [Keyspace.prefixScan, SortedMap.scan, List.filter_eq_self.mpr]
  · rfl
  · intro r hr
    obtain ⟨k, hk, hr⟩ := mem_bulkQueue hr
    rw [hr]
    exact isPrefixOf_asBytes_iff.mpr hk.symm

theorem bulkRows_bytes : SENDER_SCAN_BYTE_BUDGET ≤ (bulkRows.map fun r => r.2.length).sum := by
  have hrow : ∀ i, (layoutBytes (bulkDispatch i)).length = 80 + bulkPayloadLength := by
    intro i
    rw [length_layoutBytes, bulkDispatch, List.length_replicate]
  simp only [bulkRows, List.map_map, Function.comp_def, hrow, List.map_const', List.sum_replicate_nat,
    List.length_range, SENDER_SCAN_BYTE_BUDGET, bulkPayloadLength]
  decide

theorem retransmit_behind_budget_rejected_bulk :
    QueueWellFormed bulkQueue ∧
      SENDER_SCAN_BYTE_BUDGET ≤ (bulkRows.map fun r => r.2.length).sum ∧
      QueuedFrom layoutCodec bulkQueue smallDispatch.to smallDispatch ∧
      enqueueForHome layoutCodec ((Dht.new ⟨List.replicate 32 0, by simp⟩ 0 Store.empty).setQueue bulkQueue)
          smallDispatch.to smallDispatch 11 =
        (.badSig, (Dht.new ⟨List.replicate 32 0, by simp⟩ 0 Store.empty).setQueue bulkQueue) := by
  have hothers : ∀ r ∈ bulkRows, dispatchFrom layoutCodec r.2 ≠ some smallDispatch.from := by
    intro r hr
    obtain ⟨i, -, rfl⟩ := List.mem_map.mp hr
    rw [dispatchFrom_layoutBytes]
    show some (⟨List.replicate 32 2, _⟩ : Bytes 32) ≠ some ⟨List.replicate 32 1, _⟩
    decide
  refine ⟨bulkQueue_wellFormed, bulkRows_bytes, ⟨smallRow, ?_, ?_, ?_⟩, ?_⟩
  · rw [prefixScan_bulkQueue]
    exact List.mem_append_right _ List.mem_cons_self
  · exact keyId_asBytes _
  · exact dispatchFrom_layoutBytes smallDispatch
  · exact retransmit_behind_budget_rejected layoutCodec _ smallDispatch 11 bulkQueue_wellFormed
      bulkRows [] smallRow prefixScan_bulkQueue (keyId_asBytes _) hothers bulkRows_bytes

end Promtuz
