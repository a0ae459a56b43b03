import Promtuz.Relay.DrainSafety

/-! The page `queue_batch_for_user` hands a `QueueFetch` (`dht/store.rs`).

The loop walks the recipient's prefix in key order. A malformed key is skipped; a row too large
to frame on its own is marked for deletion and skipped; a full page (by count or by bytes) stops
the walk with `exhausted = false`; an undecodable row is skipped; every other row is served. So
the page is a key-order prefix of the recipient's servable rows (`decodedRows`), it is all of them
when the walk ran to the end, and what the call deletes is the oversize rows it walked past. -/

namespace Promtuz

open MessageKey

def decodedRow (codec : Codec DispatchP) (row : List UInt8 × List UInt8) : Option (MessageKey × DispatchP) :=
  if row.2.length ≤ QUEUE_BATCH_MAX_BYTES then
    match parse row.1, codec.deser row.2 with
    | some key, some dispatch => some (key, dispatch)
    | _, _ => none
  else none

def decodedRows (codec : Codec DispatchP) (rows : List (List UInt8 × List UInt8)) :
    List (MessageKey × DispatchP) :=
  rows.filterMap (decodedRow codec)

def servedBytes (codec : Codec DispatchP) (rows : List (List UInt8 × List UInt8)) : Nat :=
  ((rows.filter fun row => (decodedRow codec row).isSome).map fun row => row.2.length).sum

section Rows

variable (codec : Codec DispatchP)

@[simp] theorem decodedRows_nil : decodedRows codec [] = [] := rfl

@[simp] theorem servedBytes_nil : servedBytes codec [] = 0 := rfl

theorem decodedRows_cons_of_none {row : List UInt8 × List UInt8} (h : decodedRow codec row = none)
    (rows : List (List UInt8 × List UInt8)) : decodedRows codec (row :: rows) = decodedRows codec rows := by
  simp [decodedRows, h]

theorem servedBytes_cons_of_none {row : List UInt8 × List UInt8} (h : decodedRow codec row = none)
    (rows : List (List UInt8 × List UInt8)) : servedBytes codec (row :: rows) = servedBytes codec rows := by
  simp [servedBytes, h]

theorem decodedRows_cons_of_some {row : List UInt8 × List UInt8} {e : MessageKey × DispatchP}
    (h : decodedRow codec row = some e) (rows : List (List UInt8 × List UInt8)) :
    decodedRows codec (row :: rows) = e :: decodedRows codec rows := by
  simp [decodedRows, h]

theorem servedBytes_cons_of_some {row : List UInt8 × List UInt8} {e : MessageKey × DispatchP}
    (h : decodedRow codec row = some e) (rows : List (List UInt8 × List UInt8)) :
    servedBytes codec (row :: rows) = row.2.length + servedBytes codec rows := by
  simp [servedBytes, h]

theorem decodedRows_append (rows₁ rows₂ : List (List UInt8 × List UInt8)) :
    decodedRows codec (rows₁ ++ rows₂) = decodedRows codec rows₁ ++ decodedRows codec rows₂ :=
  List.filterMap_append

theorem asBytes_of_decodedRow {row : List UInt8 × List UInt8} {e : MessageKey × DispatchP}
    (h : decodedRow codec row = some e) : e.1.asBytes = row.1 := by
  unfold decodedRow at h
  split at h
  · split at h
    · next key dispatch hkey _ =>
      cases h
      exact MessageKey.asBytes_of_parse hkey
    · cases h
  · cases h

theorem decodedRow_eq_none_of_parse {row : List UInt8 × List UInt8} (h : parse row.1 = none) :
    decodedRow codec row = none := by
  simp [decodedRow, h]

theorem decodedRow_eq_none_of_big {row : List UInt8 × List UInt8} (h : QUEUE_BATCH_MAX_BYTES < row.2.length) :
    decodedRow codec row = none := by
  simp [decodedRow, Nat.not_le.2 h]

theorem decodedRow_eq_none_of_deser {row : List UInt8 × List UInt8} (h : codec.deser row.2 = none) :
    decodedRow codec row = none := by
  unfold decodedRow
  split
  · split
    · next _ _ _ hd => rw [h] at hd; cases hd
    · rfl
  · rfl

theorem decodedRow_eq_some {row : List UInt8 × List UInt8} {key : MessageKey} {dispatch : DispatchP}
    (hkey : parse row.1 = some key) (hsize : row.2.length ≤ QUEUE_BATCH_MAX_BYTES)
    (hd : codec.deser row.2 = some dispatch) : decodedRow codec row = some (key, dispatch) := by
  simp [decodedRow, hkey, hsize, hd]

end Rows

/-- What one walk of the loop does, from a partial page `out` of `used` bytes and the deletions
`oversize` marked so far. -/
structure BatchLoopSpec (codec : Codec DispatchP) (max : Nat) (rows : List (List UInt8 × List UInt8))
    (out : List (MessageKey × DispatchP)) (used : Nat) (oversize : List (List UInt8))
    (res : List (MessageKey × DispatchP) × List (List UInt8) × Bool) : Prop where
  /-- the walk served the entries of a prefix of the rows, and only stopped early unexhausted -/
  split : ∃ pre rest, rows = pre ++ rest ∧ res.1 = out ++ decodedRows codec pre ∧
    used + servedBytes codec pre ≤ QUEUE_BATCH_MAX_BYTES ∧ (res.2.2 = true → rest = [])
  count : res.1.length ≤ max
  /-- every key marked for deletion was marked before, or is an oversize row of the walk -/
  dropped : ∀ k ∈ res.2.1, k ∈ oversize ∨
    ∃ v, (k, v) ∈ rows ∧ (parse k).isSome ∧ QUEUE_BATCH_MAX_BYTES < v.length

section Loop

variable (codec : Codec DispatchP) (max : Nat)

theorem BatchLoopSpec.skip {row : List UInt8 × List UInt8} {rows : List (List UInt8 × List UInt8)}
    {out : List (MessageKey × DispatchP)} {used : Nat} {oversize oversize' : List (List UInt8)}
    {res : List (MessageKey × DispatchP) × List (List UInt8) × Bool}
    (hnone : decodedRow codec row = none) (hspec : BatchLoopSpec codec max rows out used oversize' res)
    (hmarked : ∀ k ∈ oversize', k ∈ oversize ∨
      ∃ v, (k, v) ∈ row :: rows ∧ (parse k).isSome ∧ QUEUE_BATCH_MAX_BYTES < v.length) :
    BatchLoopSpec codec max (row :: rows) out used oversize res := by
  obtain ⟨pre, rest, hrows, hres, hused, hexh⟩ := hspec.split
  refine ⟨⟨row :: pre, rest, by rw [hrows, List.cons_append], ?_, ?_, hexh⟩, hspec.count, ?_⟩
  · rw [hres, decodedRows_cons_of_none codec hnone]
  · rw [servedBytes_cons_of_none codec hnone]
    exact hused
  · intro k hk
    rcases hspec.dropped k hk with hold | ⟨v, hv, hparse, hbig⟩
    · exact hmarked k hold
    · exact .inr ⟨v, List.mem_cons_of_mem _ hv, hparse, hbig⟩

theorem batchLoop_spec : ∀ (rows : List (List UInt8 × List UInt8)) (out : List (MessageKey × DispatchP))
    (used : Nat) (oversize : List (List UInt8)), out.length ≤ max → used ≤ QUEUE_BATCH_MAX_BYTES →
      BatchLoopSpec codec max rows out used oversize (batchLoop codec max out used oversize rows) := by
  intro rows
  induction rows with
  | nil =>
    intro out used oversize hcount hused
    refine ⟨⟨[], [], rfl, by simp [batchLoop], by simpa using hused, fun _ => rfl⟩, by simpa [batchLoop] using hcount, ?_⟩
    intro k hk
    exact .inl (by simpa [batchLoop] using hk)
  | cons row rows ih =>
    intro out used oversize hcount hused
    obtain ⟨keyBytes, value⟩ := row
    cases hkey : parse keyBytes with
    | none =>
      -- a malformed key is passed over
      have hnone : decodedRow codec (keyBytes, value) = none := decodedRow_eq_none_of_parse codec hkey
      simp only [batchLoop, hkey]
      exact BatchLoopSpec.skip codec max hnone (ih out used oversize hcount hused) fun k hk => .inl hk
    | some key =>
      by_cases hbig : QUEUE_BATCH_MAX_BYTES < value.length
      · -- too large to frame: marked for deletion and passed over
        have hnone : decodedRow codec (keyBytes, value) = none := decodedRow_eq_none_of_big codec hbig
        simp only [batchLoop, hkey, if_pos hbig]
        apply BatchLoopSpec.skip codec max hnone (ih out used (oversize ++ [keyBytes]) hcount hused)
        intro k hk
        rcases List.mem_append.1 hk with hold | hnew
        · exact .inl hold
        · rw [List.mem_singleton.1 hnew]
          exact .inr ⟨value, List.mem_cons_self, by simp [hkey], hbig⟩
      · by_cases hfull : max ≤ out.length ∨ QUEUE_BATCH_MAX_BYTES < used + value.length
        · -- the page is full: stop, not exhausted
          simp only [batchLoop, hkey, if_neg hbig, if_pos hfull]
          refine ⟨⟨[], (keyBytes, value) :: rows, rfl, by simp, by simpa using hused, ?_⟩, hcount, ?_⟩
          · intro hexh
            cases hexh
          · intro k hk
            exact .inl hk
        · obtain ⟨hroom, hfits⟩ := not_or.1 hfull
          cases hd : codec.deser value with
          | none =>
            have hnone : decodedRow codec (keyBytes, value) = none := decodedRow_eq_none_of_deser codec hd
            simp only [batchLoop, hkey, if_neg hbig, if_neg hfull, hd]
            exact BatchLoopSpec.skip codec max hnone (ih out used oversize hcount hused) fun k hk => .inl hk
          | some dispatch =>
            -- the row is served
            have hsome : decodedRow codec (keyBytes, value) = some (key, dispatch) :=
              decodedRow_eq_some codec hkey (Nat.not_lt.1 hbig) hd
            simp only [batchLoop, hkey, if_neg hbig, if_neg hfull, hd]
            have hspec := ih (out ++ [(key, dispatch)]) (used + value.length) oversize
              (by rw [List.length_append, List.length_singleton]; omega) (Nat.not_lt.1 hfits)
            obtain ⟨pre, rest, hrows, hres, hbytes, hexh⟩ := hspec.split
            refine ⟨⟨(keyBytes, value) :: pre, rest, by rw [hrows, List.cons_append], ?_, ?_, hexh⟩,
              hspec.count, ?_⟩
            · rw [hres, decodedRows_cons_of_some codec hsome, List.append_assoc, List.singleton_append]
            · rw [servedBytes_cons_of_some codec hsome]
              dsimp only
              omega
            · intro k hk
              rcases hspec.dropped k hk with hold | ⟨v, hv, hparse, hbig'⟩
              · exact .inl hold
              · exact .inr ⟨v, List.mem_cons_of_mem _ hv, hparse, hbig'⟩

end Loop

def storedLength (queue : Keyspace) (key : MessageKey) : Nat := ((queue.get? key.asBytes).map List.length).getD 0

section Page

variable (codec : Codec DispatchP)

theorem map_asBytes_decodedRows (rows : List (List UInt8 × List UInt8)) :
    (decodedRows codec rows).map (fun e => e.1.asBytes) =
      (rows.filter fun row => (decodedRow codec row).isSome).map Prod.fst := by
  induction rows with
  | nil => rfl
  | cons row rows ih =>
    cases hrow : decodedRow codec row with
    | none => simp [decodedRows_cons_of_none codec hrow, hrow, ih]
    | some e => simp [decodedRows_cons_of_some codec hrow, hrow, ih,
        asBytes_of_decodedRow codec hrow]

theorem sum_storedLength_decodedRows (queue : Keyspace) :
    ∀ rows : List (List UInt8 × List UInt8), (∀ row ∈ rows, row ∈ queue.rows) →
      ((decodedRows codec rows).map (storedLength queue ·.1)).sum = servedBytes codec rows := by
  intro rows
  induction rows with
  | nil => intro _; rfl
  | cons row rows ih =>
    intro hmem
    have hrest := ih fun r hr => hmem r (List.mem_cons_of_mem _ hr)
    cases hrow : decodedRow codec row with
    | none => rw [decodedRows_cons_of_none codec hrow, servedBytes_cons_of_none codec hrow, hrest]
    | some e =>
      have hget : queue.get? e.1.asBytes = some row.2 := by
        rw [asBytes_of_decodedRow codec hrow]
        exact SortedMap.get?_eq_some_iff.2 (hmem row List.mem_cons_self)
      rw [decodedRows_cons_of_some codec hrow, servedBytes_cons_of_some codec hrow, List.map_cons,
        List.sum_cons, hrest, storedLength, hget]
      rfl

theorem mem_prefixScan {queue : Keyspace} {p : List UInt8} {row : List UInt8 × List UInt8} :
    row ∈ queue.prefixScan p ↔ row ∈ queue.rows ∧ p.isPrefixOf row.1 = true := by
  simp [Keyspace.prefixScan, SortedMap.scan]

theorem pairwise_prefixScan (queue : Keyspace) (p : List UInt8) :
    (queue.prefixScan p).Pairwise fun a b => a.1 < b.1 :=
  queue.sorted.filter _

theorem recipient_of_mem_decodedRows {queue : Keyspace} {userIpk : Bytes 32} {e : MessageKey × DispatchP}
    (he : e ∈ decodedRows codec (queue.prefixScan userIpk.1)) : e.1.recipient = userIpk := by
  obtain ⟨row, hrow, hdec⟩ := List.mem_filterMap.1 he
  have hpre := (mem_prefixScan.1 hrow).2
  rw [← asBytes_of_decodedRow codec hdec] at hpre
  exact (isPrefixOf_asBytes_iff.1 hpre).symm

theorem dropped_of_queueBatchForUser (dht : Dht) (userIpk : Bytes 32) {max : Nat} (hmax : 0 < max)
    {row : List UInt8 × List UInt8} (hrow : row ∈ dht.store.queue.rows)
    (hgone : row ∉ (queueBatchForUser codec dht userIpk max).2.store.queue.rows) :
    userIpk.1.isPrefixOf row.1 = true ∧ (parse row.1).isSome ∧ QUEUE_BATCH_MAX_BYTES < row.2.length := by
  have hspec := batchLoop_spec codec max (dht.store.queue.prefixScan userIpk.1) [] 0 [] (Nat.zero_le _)
    (Nat.zero_le _)
  simp only [queueBatchForUser, if_neg (Nat.pos_iff_ne_zero.1 hmax), Dht.setQueue_queue,
    SortedMap.rows_eraseAll, List.mem_filter, hrow, true_and, decide_eq_true_eq, not_not] at hgone
  rcases hspec.dropped row.1 hgone with hnil | ⟨v, hv, hparse, hbig⟩
  · cases hnil
  · have hsame : (row.1, v) = row := SortedMap.eq_of_mem_of_key_eq (mem_prefixScan.1 hv).1 hrow rfl
    rw [← hsame]
    exact ⟨(mem_prefixScan.1 hv).2, hparse, hbig⟩

theorem sub_queueBatchForUser (dht : Dht) (userIpk : Bytes 32) (max : Nat) :
    (queueBatchForUser codec dht userIpk max).2.store.queue.Sub dht.store.queue := by
  unfold queueBatchForUser
  split
  · exact SortedMap.Sub.refl _
  · exact SortedMap.eraseAll_sub _ _

theorem page_prefix_decodedRows (dht : Dht) (userIpk : Bytes 32) (max : Nat) :
    (queueBatchForUser codec dht userIpk max).1.1 <+: decodedRows codec (dht.store.queue.prefixScan userIpk.1) := by
  unfold queueBatchForUser
  split
  · exact List.nil_prefix
  · -- the page is the entries of `pre`, a prefix of the scan
    have hspec := batchLoop_spec codec max (dht.store.queue.prefixScan userIpk.1) [] 0 [] (Nat.zero_le _)
      (Nat.zero_le _)
    obtain ⟨pre, rest, hrows, hres, -, -⟩ := hspec.split
    rcases h : batchLoop codec max [] 0 [] (dht.store.queue.prefixScan userIpk.1) with ⟨out, oversize, exhausted⟩
    rw [h, List.nil_append] at hres
    simp only at hres ⊢
    rw [hres, hrows, decodedRows_append]
    exact List.prefix_append _ _

theorem queue_batch_page (dht : Dht) (userIpk : Bytes 32) {max : Nat} (hmax : 0 < max) :
    let page := (queueBatchForUser codec dht userIpk max).1
    let queue := dht.store.queue
    let queue' := (queueBatchForUser codec dht userIpk max).2.store.queue
    page.1 <+: decodedRows codec (queue.prefixScan userIpk.1) ∧
      (∀ e ∈ page.1, e.1.recipient = userIpk) ∧
      (page.1.map fun e => e.1.asBytes).Pairwise (· < ·) ∧
      page.1.length ≤ max ∧
      (page.1.map (storedLength queue ·.1)).sum ≤ QUEUE_BATCH_MAX_BYTES ∧
      (page.2 = true → page.1 = decodedRows codec (queue.prefixScan userIpk.1)) ∧
      queue'.Sub queue ∧
      ∀ row ∈ queue.rows, row ∉ queue'.rows →
        userIpk.1.isPrefixOf row.1 = true ∧ QUEUE_BATCH_MAX_BYTES < row.2.length := by
  intro page queue queue'
  have hspec := batchLoop_spec codec max (queue.prefixScan userIpk.1) [] 0 [] (Nat.zero_le _) (Nat.zero_le _)
  obtain ⟨pre, rest, hrows, hres, hused, hexh⟩ := hspec.split
  rw [List.nil_append] at hres
  have hpage : page = ((batchLoop codec max [] 0 [] (queue.prefixScan userIpk.1)).1,
      (batchLoop codec max [] 0 [] (queue.prefixScan userIpk.1)).2.2) := by
    simp only [page, queueBatchForUser, if_neg (Nat.pos_iff_ne_zero.1 hmax)]
    rfl
  have hpre : page.1 <+: decodedRows codec (queue.prefixScan userIpk.1) :=
    page_prefix_decodedRows codec dht userIpk max
  have hmem : ∀ row ∈ pre, row ∈ queue.rows := fun row hrow =>
    (mem_prefixScan.1 (hrows ▸ List.mem_append_left rest hrow)).1
  refine ⟨hpre, fun e he => recipient_of_mem_decodedRows codec (hpre.subset he), ?_, ?_, ?_, ?_,
    ?_, ?_⟩
  · -- keys in scan order
    apply List.Pairwise.sublist (hpre.sublist.map _)
    rw [map_asBytes_decodedRows, List.pairwise_map]
    exact (pairwise_prefixScan queue userIpk.1).filter _
  · rw [hpage]
    exact hspec.count
  · rw [hpage, hres, sum_storedLength_decodedRows codec queue pre hmem]
    simpa using hused
  · intro hexhausted
    rw [hpage] at hexhausted ⊢
    rw [hres, hrows, hexh hexhausted, List.append_nil]
  · exact sub_queueBatchForUser codec dht userIpk max
  · -- a row that went was walked past as oversize
    intro row hrow hgone
    obtain ⟨hpre, -, hbig⟩ := dropped_of_queueBatchForUser codec dht userIpk hmax hrow hgone
    exact ⟨hpre, hbig⟩

end Page

section KeyOrder

theorem mem_prefixScan_iff_recipient {queue : Keyspace} {r : Bytes 32} {row : List UInt8 × List UInt8}
    {key : MessageKey} (hrow : row ∈ queue.rows) (hkey : parse row.1 = some key) :
    row ∈ queue.prefixScan r.1 ↔ key.recipient = r := by
  rw [mem_prefixScan, ← asBytes_of_parse hkey, isPrefixOf_asBytes_iff]
  exact ⟨fun h => h.2.symm, fun h => ⟨hrow, h.symm⟩⟩

theorem pairwise_tsBe_prefixScan (queue : Keyspace) (r : Bytes 32) :
    (queue.prefixScan r.1).Pairwise fun a b => ∀ ka kb, parse a.1 = some ka → parse b.1 = some kb →
      Bytes.beValue ka.tsBe.1 < Bytes.beValue kb.tsBe.1 ∨ ka.tsBe = kb.tsBe ∧ ka.id.1 < kb.id.1 := by
  refine (pairwise_prefixScan queue r.1).imp_of_mem ?_
  intro a b ha hb hab ka kb hka hkb
  have hlt : ka.asBytes < kb.asBytes := by rwa [asBytes_of_parse hka, asBytes_of_parse hkb]
  have hra := (mem_prefixScan_iff_recipient (mem_prefixScan.1 ha).1 hka).1 ha
  have hrb := (mem_prefixScan_iff_recipient (mem_prefixScan.1 hb).1 hkb).1 hb
  rcases (asBytes_lt_asBytes_iff ka kb).1 hlt with hr | ⟨-, hts | hid⟩
  · -- both keys are under `r`, so their recipient bytes cannot differ
    rw [hra, hrb] at hr
    exact absurd hr Std.lt_irrefl
  · exact .inl ((Bytes.lt_iff_beValue_lt (ka.tsBe.2.trans kb.tsBe.2.symm)).1 hts)
  · exact .inr hid

theorem message_key_order (r r' : Bytes 32) (t t' : UInt64) (i i' : Bytes 16) :
    parse (new r t i).asBytes = some (new r t i) ∧
      (∀ bytes : List UInt8, bytes.length ≠ SIZE → parse bytes = none) ∧
      ((new r t i).asBytes < (new r' t' i').asBytes ↔
        r.1 < r'.1 ∨ r = r' ∧ (t < t' ∨ t = t' ∧ i.1 < i'.1)) ∧
      ((new r t i).asBytes = (new r' t' i').asBytes ↔ r = r' ∧ t = t' ∧ i = i') ∧
      ∀ queue : Keyspace,
        (∀ row ∈ queue.rows, ∀ key, parse row.1 = some key → (row ∈ queue.prefixScan r.1 ↔ key.recipient = r)) ∧
        (queue.prefixScan r.1).Pairwise fun a b => ∀ ka kb, parse a.1 = some ka → parse b.1 = some kb →
          Bytes.beValue ka.tsBe.1 < Bytes.beValue kb.tsBe.1 ∨ ka.tsBe = kb.tsBe ∧ ka.id.1 < kb.id.1 := by
  refine ⟨parse_asBytes _, fun _ => parse_eq_none, ?_, ?_, fun queue =>
    ⟨fun _ hrow _ hkey => mem_prefixScan_iff_recipient hrow hkey, pairwise_tsBe_prefixScan queue r⟩⟩
  · rw [asBytes_lt_asBytes_iff, tsBe_lt_tsBe_new_iff, tsBe_new_inj, recipient_new, recipient_new, id_new, id_new]
  · rw [← new_inj]
    exact ⟨asBytes_injective, congrArg asBytes⟩

end KeyOrder

def oneRowDht : Dht :=
  (Dht.new (Bytes.replicate 32 0) 0 Store.empty).applyQueueOp soleDispatchCodec
    (.enqueueForHome smallDispatch.to smallDispatch 1)

theorem queue_batch_page_oneRow :
    0 < MAX_FETCH_QUEUE_BATCH ∧
      (queueBatchForUser soleDispatchCodec oneRowDht smallDispatch.to MAX_FETCH_QUEUE_BATCH).1.1 <+:
        decodedRows soleDispatchCodec (oneRowDht.store.queue.prefixScan smallDispatch.to.1) :=
  ⟨by decide, (queue_batch_page soleDispatchCodec oneRowDht smallDispatch.to (by decide)).1⟩

end Promtuz
