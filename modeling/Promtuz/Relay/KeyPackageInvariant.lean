import Promtuz.Relay.KeyPackage

namespace Promtuz

namespace Kp

section Loops

variable {β : Type} {crypto : Crypto} {codec : Codec KeyPackageRecord}

theorem storageKey_eq_some {ipk : Bytes 32} {kpRef : List UInt8} {key : Bytes STORAGE_KEY_LEN}
    (h : storageKey crypto ipk kpRef = some key) :
    key.1 = (stashPrefix crypto ipk).1 ++ kpRef ∧ kpRef.length = KP_REF_LEN := by
  unfold storageKey at h
  split at h
  · next hlen =>
    cases h
    exact ⟨rfl, hlen⟩
  · cases h

theorem verifyRecord_ok {rec : KeyPackageRecord} {nowMs : UInt64}
    (h : verifyRecord crypto rec nowMs = .ok ()) :
    rec.kpRef.length = KP_REF_LEN ∧ ownerSigOk crypto rec = true := by
  unfold verifyRecord at h
  split_ifs at h with hlen _ hsig
  exact ⟨not_not.mp hlen, by simpa using hsig⟩

theorem verifyLoop_eq_none {ipk : Bytes 32} {nowMs : UInt64} {badSig expired : β}
    {records : List KeyPackageRecord} (h : verifyLoop crypto ipk nowMs badSig expired records = none) :
    ∀ rec ∈ records, rec.ipk = ipk ∧ verifyRecord crypto rec nowMs = .ok () := by
  induction records with
  | nil => simp
  | cons rec rest ih =>
      simp only [verifyLoop] at h
      split_ifs at h with hipk
      cases hv : verifyRecord crypto rec nowMs with
      | error e =>
          rw [hv] at h
          cases e <;> simp at h
      | ok u =>
          rw [hv] at h
          intro r hr
          rcases List.mem_cons.mp hr with rfl | hr
          · exact ⟨not_not.mp hipk, hv⟩
          · exact ih h r hr

/-- The row a record is stored as: its encoding, under `stash_prefix(ipk) || kp_ref`. -/
def RecordRow (crypto : Crypto) (codec : Codec KeyPackageRecord) (rec : KeyPackageRecord)
    (r : List UInt8 × List UInt8) : Prop :=
  codec.ser rec = some r.2 ∧ r.1 = (stashPrefix crypto rec.ipk).1 ++ rec.kpRef ∧
    rec.kpRef.length = KP_REF_LEN

theorem insertRecord_ok {ks ks' : Keyspace} {rec : KeyPackageRecord}
    (h : insertRecord crypto codec ks rec = .ok ks') :
    ∃ r, RecordRow crypto codec rec r ∧ ks' = ks.insert r.1 r.2 := by
  unfold insertRecord at h
  split at h
  · cases h
  · next key hkey =>
    obtain ⟨hk, hlen⟩ := storageKey_eq_some hkey
    split at h
    · cases h
    · next bytes hser =>
      have hrow : RecordRow crypto codec rec (key.1, bytes) := ⟨hser, hk, hlen⟩
      split at h
      · split_ifs at h
        cases h
        exact ⟨_, hrow, rfl⟩
      · cases h
        exact ⟨_, hrow, rfl⟩

theorem mem_insertLoop {conflict storage : β} {ks : Keyspace} {records : List KeyPackageRecord}
    {r : List UInt8 × List UInt8} (hr : r ∈ (insertLoop crypto codec conflict storage ks records).2.rows) :
    r ∈ ks.rows ∨ ∃ rec ∈ records, RecordRow crypto codec rec r := by
  induction records generalizing ks with
  | nil => exact .inl hr
  | cons rec rest ih =>
      simp only [insertLoop] at hr
      split at hr
      · next ks' hins =>
        obtain ⟨row, hrow, rfl⟩ := insertRecord_ok hins
        rcases ih hr with hr | ⟨rec', hrec', hrow'⟩
        · rcases SortedMap.mem_insert.mp hr with rfl | ⟨hr, -⟩
          · exact .inr ⟨rec, List.mem_cons_self, hrow⟩
          · exact .inl hr
        · exact .inr ⟨rec', List.mem_cons_of_mem _ hrec', hrow'⟩
      · exact .inl hr
      · exact .inl hr

theorem insertRecord_keeps {ks ks' : Keyspace} {rec : KeyPackageRecord}
    (h : insertRecord crypto codec ks rec = .ok ks') {r : List UInt8 × List UInt8} (hr : r ∈ ks.rows) :
    r ∈ ks'.rows := by
  unfold insertRecord at h
  split at h
  · cases h
  · next key hkey =>
    split at h
    · cases h
    · next bytes hser =>
      split at h
      · next existing hget =>
        split_ifs at h with hne
        cases h
        by_cases hk : r.1 = key.1
        · -- the row under the written key is the one `get?` found, with the same bytes
          have hsame : r = (key.1, existing) :=
            SortedMap.eq_of_mem_of_key_eq hr (SortedMap.get?_eq_some_iff.1 hget) hk
          rw [hsame, not_not.1 hne]
          exact SortedMap.mem_insert.2 (.inl rfl)
        · exact SortedMap.mem_insert.2 (.inr ⟨hr, hk⟩)
      · next hget =>
        cases h
        exact SortedMap.mem_insert.2 (.inr ⟨hr, SortedMap.get?_eq_none_iff.1 hget r hr⟩)

theorem insertLoop_of_none {conflict storage : β} {ks : Keyspace} {records : List KeyPackageRecord}
    (h : (insertLoop crypto codec conflict storage ks records).1 = none) :
    (∀ r ∈ ks.rows, r ∈ (insertLoop crypto codec conflict storage ks records).2.rows) ∧
      ∀ rec ∈ records, ∃ r ∈ (insertLoop crypto codec conflict storage ks records).2.rows,
        RecordRow crypto codec rec r := by
  induction records generalizing ks with
  | nil => exact ⟨fun r hr => hr, fun rec hrec => nomatch hrec⟩
  | cons rec rest ih =>
      simp only [insertLoop] at h ⊢
      split at h
      · next ks' hins =>
        obtain ⟨hkeep, hrest⟩ := ih h
        obtain ⟨row, hrow, rfl⟩ := insertRecord_ok hins
        refine ⟨fun r hr => hkeep r (insertRecord_keeps hins hr), fun rec' hrec' => ?_⟩
        rcases List.mem_cons.1 hrec' with rfl | hrec'
        · exact ⟨row, hkeep row (SortedMap.mem_insert.2 (.inl rfl)), hrow⟩
        · exact hrest rec' hrec'
      · cases h
      · cases h

theorem insertLoop_eq_some {conflict storage o : β} {ks : Keyspace} {records : List KeyPackageRecord}
    (h : (insertLoop crypto codec conflict storage ks records).1 = some o) : o = conflict ∨ o = storage := by
  induction records generalizing ks with
  | nil => cases h
  | cons rec rest ih =>
      simp only [insertLoop] at h
      split at h
      · exact ih h
      · cases h
        exact .inl rfl
      · cases h
        exact .inr rfl

theorem verifyLoop_eq_some {ipk : Bytes 32} {nowMs : UInt64} {badSig expired o : β}
    {records : List KeyPackageRecord} (h : verifyLoop crypto ipk nowMs badSig expired records = some o) :
    o = badSig ∨ o = expired := by
  induction records with
  | nil => cases h
  | cons rec rest ih =>
      simp only [verifyLoop] at h
      split_ifs at h
      · cases h
        exact .inl rfl
      · split at h
        · exact ih h
        · cases h
          exact .inr rfl
        · cases h
          exact .inl rfl

end Loops

/-- A row as the stash keeps it: it decodes to a record that its owner signed, filed under
`stash_prefix(ipk) || kp_ref`. -/
def StashRow (crypto : Crypto) (codec : Codec KeyPackageRecord) (r : List UInt8 × List UInt8) : Prop :=
  ∃ rec, codec.deser r.2 = some rec ∧ r.1 = (stashPrefix crypto rec.ipk).1 ++ rec.kpRef ∧
    rec.kpRef.length = KP_REF_LEN ∧ ownerSigOk crypto rec = true

/-- The stash invariant of `dht_keypackage`: every row is a signed record under its own
storage key, and no stash holds more than `KP_STASH_TARGET` rows. -/
structure StashWellFormed (crypto : Crypto) (codec : Codec KeyPackageRecord) (ks : Keyspace) : Prop where
  rows : ∀ r ∈ ks.rows, StashRow crypto codec r
  capped : ∀ ipk : Bytes 32, (ks.prefixScan (stashPrefix crypto ipk).1).length ≤ KP_STASH_TARGET

section Invariant

variable {crypto : Crypto} {codec : Codec KeyPackageRecord} {ks ks' : Keyspace}

theorem StashWellFormed.empty : StashWellFormed crypto codec SortedMap.empty where
  rows := by simp
  capped _ := by simp [Keyspace.prefixScan, SortedMap.scan]

theorem StashWellFormed.of_sub (h : StashWellFormed crypto codec ks) (hs : ks'.Sub ks) :
    StashWellFormed crypto codec ks' where
  rows r hr := h.rows r (hs.mem hr)
  capped ipk := Nat.le_trans (hs.scan _).length_le (h.capped ipk)

theorem StashRow.of_recordRow (hrt : codec.RoundTrip) {rec : KeyPackageRecord} {r : List UInt8 × List UInt8}
    (hrow : RecordRow crypto codec rec r) (hsig : ownerSigOk crypto rec = true) : StashRow crypto codec r :=
  ⟨rec, hrt _ _ hrow.1, hrow.2.1, hrow.2.2, hsig⟩

theorem mem_prefixScan {p : List UInt8} {r : List UInt8 × List UInt8} :
    r ∈ ks.prefixScan p ↔ r ∈ ks.rows ∧ p.isPrefixOf r.1 = true := by
  simp [Keyspace.prefixScan, SortedMap.scan]

theorem length_prefixScan_le {P : Bytes 32} {S : List (List UInt8)}
    (hS : ∀ r ∈ ks.prefixScan P.1, r.1.drop STASH_PREFIX_LEN ∈ S) :
    (ks.prefixScan P.1).length ≤ S.length := by
  refine SortedMap.length_scan_le (fun a ha b hb hab => ?_) hS
  rw [Bytes.eq_append_drop_of_isPrefixOf (mem_prefixScan.mp ha).2,
    Bytes.eq_append_drop_of_isPrefixOf (mem_prefixScan.mp hb).2]
  exact congrArg _ hab

@[simp] theorem drop_stashPrefix_append (ipk : Bytes 32) (kpRef : List UInt8) :
    ((stashPrefix crypto ipk).1 ++ kpRef).drop STASH_PREFIX_LEN = kpRef :=
  List.drop_left' (stashPrefix crypto ipk).2

theorem mem_iterateStash_of_recordRow (hrt : codec.RoundTrip) {dht : Dht} {rec : KeyPackageRecord}
    {r : List UInt8 × List UInt8} (hr : r ∈ dht.store.keypackage.rows) (hrow : RecordRow crypto codec rec r) :
    ∃ e ∈ iterateStash crypto codec dht rec.ipk, e.2 = rec := by
  have hsize : r.1.length = STORAGE_KEY_LEN := by
    rw [hrow.2.1, List.length_append, (stashPrefix crypto rec.ipk).2, hrow.2.2]
    rfl
  have hscan : r ∈ dht.store.keypackage.prefixScan (stashPrefix crypto rec.ipk).1 := by
    refine mem_prefixScan.2 ⟨hr, ?_⟩
    rw [hrow.2.1]
    exact Bytes.isPrefixOf_append_iff.2 rfl
  refine ⟨(⟨r.1, hsize⟩, rec), List.mem_filterMap.2 ⟨r, hscan, ?_⟩, rfl⟩
  simp [hsize, hrt _ _ hrow.1]

theorem iterateStash_map (h : StashWellFormed crypto codec ks) {dht : Dht}
    (hks : dht.store.keypackage = ks) (ipk : Bytes 32) :
    (iterateStash crypto codec dht ipk).map (fun e => (e.1.1, e.2.kpRef)) =
      (ks.prefixScan (stashPrefix crypto ipk).1).map fun r => (r.1, r.1.drop STASH_PREFIX_LEN) := by
  rw [iterateStash, List.map_filterMap, hks, List.filterMap_eq_map_iff_forall_eq_some]
  intro r hr
  obtain ⟨rec, hdec, hkey, hlen, -⟩ := h.rows r (mem_prefixScan.mp hr).1
  have hsize : r.1.length = STORAGE_KEY_LEN := by
    rw [hkey, List.length_append, (stashPrefix crypto rec.ipk).2, hlen]
    rfl
  have hdrop : r.1.drop STASH_PREFIX_LEN = rec.kpRef := by rw [hkey, drop_stashPrefix_append]
  simp [hsize, hdec, hdrop]

theorem exists_row_of_mem_iterateStash (h : StashWellFormed crypto codec ks) {dht : Dht}
    (hks : dht.store.keypackage = ks) {ipk : Bytes 32} {e : Bytes STORAGE_KEY_LEN × KeyPackageRecord}
    (he : e ∈ iterateStash crypto codec dht ipk) :
    ∃ r ∈ ks.prefixScan (stashPrefix crypto ipk).1, r.1.drop STASH_PREFIX_LEN = e.2.kpRef := by
  have hmem : (e.1.1, e.2.kpRef) ∈ (iterateStash crypto codec dht ipk).map (fun e => (e.1.1, e.2.kpRef)) :=
    List.mem_map_of_mem he
  rw [iterateStash_map h hks] at hmem
  obtain ⟨r, hr, heq⟩ := List.mem_map.1 hmem
  exact ⟨r, hr, (Prod.mk.inj heq).2⟩

theorem mem_iterateStash (h : StashWellFormed crypto codec ks) {dht : Dht}
    (hks : dht.store.keypackage = ks) {ipk : Bytes 32} {r : List UInt8 × List UInt8}
    (hr : r ∈ ks.prefixScan (stashPrefix crypto ipk).1) :
    ∃ e ∈ iterateStash crypto codec dht ipk, e.1.1 = r.1 ∧ e.2.kpRef = r.1.drop STASH_PREFIX_LEN := by
  have hmem : (r.1, r.1.drop STASH_PREFIX_LEN) ∈
      (iterateStash crypto codec dht ipk).map (fun e => (e.1.1, e.2.kpRef)) := by
    rw [iterateStash_map h hks]
    exact List.mem_map_of_mem hr
  obtain ⟨e, he, heq⟩ := List.mem_map.mp hmem
  exact ⟨e, he, (Prod.mk.inj heq).1, (Prod.mk.inj heq).2⟩

theorem retained_eq (h : StashWellFormed crypto codec ks) {dht : Dht}
    (hks : dht.store.keypackage = ks) (ipk : Bytes 32) (incoming : List (List UInt8)) :
    ((iterateStash crypto codec dht ipk).filter fun e => !incoming.contains e.2.kpRef).length =
      ((ks.prefixScan (stashPrefix crypto ipk).1).filter fun r =>
        !incoming.contains (r.1.drop STASH_PREFIX_LEN)).length := by
  have hl := congrArg (fun l => (l.filter fun x => !incoming.contains x.2).length)
    (iterateStash_map h hks ipk)
  simpa only [List.filter_map, List.length_map, Function.comp_def] using hl

theorem StashWellFormed.of_insert (hrt : codec.RoundTrip) (h : StashWellFormed crypto codec ks)
    {ipk : Bytes 32} {records : List KeyPackageRecord}
    (hrows : ∀ r ∈ ks'.rows, r ∈ ks.rows ∨ ∃ rec ∈ records, RecordRow crypto codec rec r)
    (hrec : ∀ rec ∈ records, rec.ipk = ipk ∧ ownerSigOk crypto rec = true)
    (hcap : (ks'.prefixScan (stashPrefix crypto ipk).1).length ≤ KP_STASH_TARGET) :
    StashWellFormed crypto codec ks' := by
  refine ⟨fun r hr => ?_, fun other => ?_⟩
  · rcases hrows r hr with hr | ⟨rec, hmem, hrow⟩
    · exact h.rows r hr
    · exact StashRow.of_recordRow hrt hrow (hrec rec hmem).2
  · by_cases hP : stashPrefix crypto other = stashPrefix crypto ipk
    · rw [hP]
      exact hcap
    -- another stash keeps only old rows: every new row sits under the publisher's prefix
    · refine Nat.le_trans (length_prefixScan_le (S := (ks.prefixScan (stashPrefix crypto other).1).map
        fun r => r.1.drop STASH_PREFIX_LEN) fun r hr => ?_) (by simpa using h.capped other)
      obtain ⟨hr, hpre⟩ := mem_prefixScan.mp hr
      rcases hrows r hr with hold | ⟨rec, hmem, hrow⟩
      · exact List.mem_map_of_mem (mem_prefixScan.mpr ⟨hold, hpre⟩)
      · rw [hrow.2.1, (hrec rec hmem).1, Bytes.isPrefixOf_append_iff] at hpre
        exact absurd hpre hP

end Invariant

theorem selfIsOwnerForStash_store (crypto : Crypto) (dht : Dht) (ipk : Bytes 32) :
    (selfIsOwnerForStash crypto dht ipk).2.store = dht.store :=
  selfInTopK_store dht _

theorem iterateStash_of_store {crypto : Crypto} {codec : Codec KeyPackageRecord} {dht dht' : Dht}
    (h : dht'.store = dht.store) (ipk : Bytes 32) :
    iterateStash crypto codec dht' ipk = iterateStash crypto codec dht ipk := by
  unfold iterateStash
  rw [h]

section Handlers

variable (crypto : Crypto) (codec : Codec KeyPackageRecord) (dht : Dht)

theorem handleKeypackagePublish_cases (req : KeyPackagePublishReq) (nowMs : UInt64) :
    (handleKeypackagePublish crypto codec dht req nowMs).2.store.keypackage = dht.store.keypackage ∨
      req.records.length ≤ KP_STASH_TARGET ∧
      verifyLoop crypto req.ipk nowMs KeyPackagePublishOutcome.badSig .expired req.records = none ∧
      (handleKeypackagePublish crypto codec dht req nowMs).1 =
        (insertLoop crypto codec KeyPackagePublishOutcome.staticFieldsConflict .badSig
          (dht.store.keypackage.eraseAll (absentKeys (iterateStash crypto codec dht req.ipk)
            (req.records.map (·.kpRef)))) req.records).1.getD .stored ∧
      (handleKeypackagePublish crypto codec dht req nowMs).2.store.keypackage =
        (insertLoop crypto codec KeyPackagePublishOutcome.staticFieldsConflict .badSig
          (dht.store.keypackage.eraseAll (absentKeys (iterateStash crypto codec dht req.ipk)
            (req.records.map (·.kpRef)))) req.records).2 := by
  rcases hown : selfIsOwnerForStash crypto dht req.ipk with ⟨owner, dht'⟩
  have hstore : dht'.store = dht.store := by
    simpa [hown] using selfIsOwnerForStash_store crypto dht req.ipk
  unfold handleKeypackagePublish
  simp only [hown]
  split_ifs with htoo
  · exact .inl rfl
  · exact .inl rfl
  · exact .inl rfl
  · exact .inl (congrArg Store.keypackage hstore)
  · cases hv : verifyLoop crypto req.ipk nowMs KeyPackagePublishOutcome.badSig .expired req.records with
    | some outcome => exact .inl (congrArg Store.keypackage hstore)
    | none =>
        refine .inr ⟨Nat.le_of_not_lt htoo, rfl, ?_, ?_⟩
        · simp only [hstore, iterateStash_of_store hstore]
        · simp only [Dht.setKeypackage_keypackage, hstore, iterateStash_of_store hstore]

theorem handleKeypackageRefill_cases (req : KeyPackageRefillReq) (nowMs : UInt64) :
    (handleKeypackageRefill crypto codec dht req nowMs).2.store.keypackage = dht.store.keypackage ∨
      ((iterateStash crypto codec dht req.ipk).filter fun e =>
        !(req.records.map (·.kpRef)).contains e.2.kpRef).length + req.records.length ≤ KP_STASH_TARGET ∧
      verifyLoop crypto req.ipk nowMs KeyPackageRefillOutcome.badSig .expired req.records = none ∧
      (handleKeypackageRefill crypto codec dht req nowMs).1 =
        (insertLoop crypto codec KeyPackageRefillOutcome.staticFieldsConflict .badSig
          dht.store.keypackage req.records).1.getD .appended ∧
      (handleKeypackageRefill crypto codec dht req nowMs).2.store.keypackage =
        (insertLoop crypto codec KeyPackageRefillOutcome.staticFieldsConflict .badSig
          dht.store.keypackage req.records).2 := by
  rcases hown : selfIsOwnerForStash crypto dht req.ipk with ⟨owner, dht'⟩
  have hstore : dht'.store = dht.store := by
    simpa [hown] using selfIsOwnerForStash_store crypto dht req.ipk
  unfold handleKeypackageRefill
  simp only [hown]
  split_ifs with _ _ _ _ hmany
  · exact .inl rfl
  · exact .inl rfl
  · exact .inl rfl
  · exact .inl (congrArg Store.keypackage hstore)
  · exact .inl (congrArg Store.keypackage hstore)
  · cases hv : verifyLoop crypto req.ipk nowMs KeyPackageRefillOutcome.badSig .expired req.records with
    | some outcome => exact .inl (congrArg Store.keypackage hstore)
    | none =>
        refine .inr ⟨?_, rfl, ?_, ?_⟩
        · rw [← iterateStash_of_store hstore]
          exact Nat.le_of_not_lt hmany
        · simp only [hstore]
        · simp only [Dht.setKeypackage_keypackage, hstore]

theorem handleKeypackageFetchWith_sub (limiterOk : Bool) (removeOk : Bytes STORAGE_KEY_LEN → Bool)
    (req : KeyPackageFetchReq) (peer : NodeId) (nowMs : UInt64) :
    (handleKeypackageFetchWith crypto codec limiterOk removeOk dht req peer nowMs).2.store.keypackage.Sub
      dht.store.keypackage := by
  rcases hown : selfIsOwnerForStash crypto dht req.targetIpk with ⟨owner, dht'⟩
  have hstore : dht'.store = dht.store := by
    simpa [hown] using selfIsOwnerForStash_store crypto dht req.targetIpk
  unfold handleKeypackageFetchWith
  simp only [hown]
  split_ifs
  · exact SortedMap.Sub.refl _
  · exact SortedMap.Sub.refl _
  · simpa only [hstore] using SortedMap.Sub.refl _
  · simpa only [hstore] using SortedMap.Sub.refl _
  · rw [← hstore]
    split
    · exact SortedMap.eraseAll_sub _ _
    · split
      · exact (SortedMap.erase_sub _ _).trans (SortedMap.eraseAll_sub _ _)
      · exact SortedMap.eraseAll_sub _ _

theorem handleKeypackagePublish_of_stored (req : KeyPackagePublishReq) (nowMs : UInt64)
    (h : (handleKeypackagePublish crypto codec dht req nowMs).1 = .stored) :
    req.records = [] ∨
      verifyLoop crypto req.ipk nowMs KeyPackagePublishOutcome.badSig .expired req.records = none ∧
      (insertLoop crypto codec KeyPackagePublishOutcome.staticFieldsConflict .badSig
        (dht.store.keypackage.eraseAll (absentKeys (iterateStash crypto codec dht req.ipk)
          (req.records.map (·.kpRef)))) req.records).1 = none ∧
      (handleKeypackagePublish crypto codec dht req nowMs).2.store.keypackage =
        (insertLoop crypto codec KeyPackagePublishOutcome.staticFieldsConflict .badSig
          (dht.store.keypackage.eraseAll (absentKeys (iterateStash crypto codec dht req.ipk)
            (req.records.map (·.kpRef)))) req.records).2 := by
  rcases hown : selfIsOwnerForStash crypto dht req.ipk with ⟨owner, dht'⟩
  have hstore : dht'.store = dht.store := by
    simpa [hown] using selfIsOwnerForStash_store crypto dht req.ipk
  unfold handleKeypackagePublish at h ⊢
  simp only [hown] at h ⊢
  -- the checks that answer something else than `Stored` are discharged by the split itself
  split_ifs at h ⊢ with htoo hempty
  · exact .inl (List.isEmpty_iff.1 hempty)
  · refine .inr ?_
    cases hv : verifyLoop crypto req.ipk nowMs KeyPackagePublishOutcome.badSig .expired req.records with
    | some outcome =>
        rw [hv] at h
        rcases verifyLoop_eq_some hv with rfl | rfl <;> cases h
    | none =>
        rw [hv] at h
        simp only [hstore, iterateStash_of_store hstore] at h
        refine ⟨rfl, ?_, ?_⟩
        -- the loop's answer is `Stored` only when it stopped at nothing
        · cases hf : (insertLoop crypto codec KeyPackagePublishOutcome.staticFieldsConflict .badSig
              (dht.store.keypackage.eraseAll (absentKeys (iterateStash crypto codec dht req.ipk)
                (req.records.map (·.kpRef)))) req.records).1 with
          | none => rfl
          | some o =>
              rw [hf] at h
              rcases insertLoop_eq_some hf with rfl | rfl <;> cases h
        · simp only [Dht.setKeypackage_keypackage, hstore, iterateStash_of_store hstore]

theorem exists_iterateStash_of_stored (hrt : codec.RoundTrip) (req : KeyPackagePublishReq) (nowMs : UInt64)
    (h : (handleKeypackagePublish crypto codec dht req nowMs).1 = .stored) :
    ∀ rec ∈ req.records,
      ∃ e ∈ iterateStash crypto codec (handleKeypackagePublish crypto codec dht req nowMs).2 req.ipk, e.2 = rec := by
  intro rec hrec
  rcases handleKeypackagePublish_of_stored crypto codec dht req nowMs h with hnil | ⟨hv, hnone, heq⟩
  · rw [hnil] at hrec
    cases hrec
  obtain ⟨r, hr, hrow⟩ := (insertLoop_of_none hnone).2 rec hrec
  rw [← heq] at hr
  rw [← (verifyLoop_eq_none hv rec hrec).1]
  exact mem_iterateStash_of_recordRow hrt hr hrow

end Handlers

section Steps

variable {crypto : Crypto} {codec : Codec KeyPackageRecord} {dht : Dht}

theorem drop_mem_of_publish (h : StashWellFormed crypto codec dht.store.keypackage) {req : KeyPackagePublishReq}
    {nowMs : UInt64}
    (heq : (handleKeypackagePublish crypto codec dht req nowMs).2.store.keypackage =
      (insertLoop crypto codec KeyPackagePublishOutcome.staticFieldsConflict .badSig
        (dht.store.keypackage.eraseAll (absentKeys (iterateStash crypto codec dht req.ipk)
          (req.records.map (·.kpRef)))) req.records).2) :
    ∀ r ∈ (handleKeypackagePublish crypto codec dht req nowMs).2.store.keypackage.prefixScan
        (stashPrefix crypto req.ipk).1, r.1.drop STASH_PREFIX_LEN ∈ req.records.map (·.kpRef) := by
  intro r hr
  obtain ⟨hr, hpre⟩ := mem_prefixScan.mp hr
  rw [heq] at hr
  rcases mem_insertLoop hr with hr | ⟨rec, hmem, hrow⟩
  · simp only [SortedMap.rows_eraseAll, List.mem_filter, decide_eq_true_eq] at hr
    obtain ⟨hold, hkept⟩ := hr
    -- a survivor under the prefix was not evicted, so the snapshot names its `kp_ref`
    by_contra habsent
    obtain ⟨e, he, hkey, href⟩ := mem_iterateStash h rfl (mem_prefixScan.mpr ⟨hold, hpre⟩)
    refine hkept (List.mem_map.mpr ⟨e, List.mem_filter.mpr ⟨he, ?_⟩, hkey⟩)
    rw [href]
    simpa using habsent
  · rw [hrow.2.1, drop_stashPrefix_append]
    exact List.mem_map_of_mem hmem

theorem StashWellFormed.publish (hrt : codec.RoundTrip) (h : StashWellFormed crypto codec dht.store.keypackage)
    (req : KeyPackagePublishReq) (nowMs : UInt64) :
    StashWellFormed crypto codec (handleKeypackagePublish crypto codec dht req nowMs).2.store.keypackage := by
  rcases handleKeypackagePublish_cases crypto codec dht req nowMs with heq | ⟨hlen, hv, -, heq⟩
  · rw [heq]
    exact h
  have hchecked := verifyLoop_eq_none hv
  have hrec : ∀ rec ∈ req.records, rec.ipk = req.ipk ∧ ownerSigOk crypto rec = true :=
    fun rec hmem => ⟨(hchecked rec hmem).1, (verifyRecord_ok (hchecked rec hmem).2).2⟩
  have hrows : ∀ r ∈ (handleKeypackagePublish crypto codec dht req nowMs).2.store.keypackage.rows,
      r ∈ dht.store.keypackage.rows ∨ ∃ rec ∈ req.records, RecordRow crypto codec rec r := by
    intro r hr
    rw [heq] at hr
    exact (mem_insertLoop hr).imp_left (SortedMap.eraseAll_sub _ _).mem
  refine h.of_insert hrt hrows hrec ?_
  exact Nat.le_trans (length_prefixScan_le (drop_mem_of_publish h heq))
    (by simpa only [List.length_map] using hlen)

theorem kpRef_mem_of_stored (hrt : codec.RoundTrip) (h : StashWellFormed crypto codec dht.store.keypackage)
    {req : KeyPackagePublishReq} {nowMs : UInt64}
    (hst : (handleKeypackagePublish crypto codec dht req nowMs).1 = .stored) (hne : req.records ≠ []) :
    ∀ e ∈ iterateStash crypto codec (handleKeypackagePublish crypto codec dht req nowMs).2 req.ipk,
      e.2.kpRef ∈ req.records.map (·.kpRef) := by
  rcases handleKeypackagePublish_of_stored crypto codec dht req nowMs hst with hnil | ⟨-, -, heq⟩
  · exact absurd hnil hne
  intro e he
  obtain ⟨r, hr, hdrop⟩ := exists_row_of_mem_iterateStash (h.publish hrt req nowMs) rfl he
  rw [← hdrop]
  exact drop_mem_of_publish h heq r hr

theorem StashWellFormed.refill (hrt : codec.RoundTrip) (h : StashWellFormed crypto codec dht.store.keypackage)
    (req : KeyPackageRefillReq) (nowMs : UInt64) :
    StashWellFormed crypto codec (handleKeypackageRefill crypto codec dht req nowMs).2.store.keypackage := by
  rcases handleKeypackageRefill_cases crypto codec dht req nowMs with heq | ⟨hbound, hv, -, heq⟩
  · rw [heq]
    exact h
  set incoming := req.records.map (·.kpRef)
  set P := stashPrefix crypto req.ipk
  have hchecked := verifyLoop_eq_none hv
  have hrec : ∀ rec ∈ req.records, rec.ipk = req.ipk ∧ ownerSigOk crypto rec = true :=
    fun rec hmem => ⟨(hchecked rec hmem).1, (verifyRecord_ok (hchecked rec hmem).2).2⟩
  have hrows : ∀ r ∈ (handleKeypackageRefill crypto codec dht req nowMs).2.store.keypackage.rows,
      r ∈ dht.store.keypackage.rows ∨ ∃ rec ∈ req.records, RecordRow crypto codec rec r := by
    intro r hr
    rw [heq] at hr
    exact mem_insertLoop hr
  rw [retained_eq h rfl] at hbound
  set kept := (dht.store.keypackage.prefixScan P.1).filter fun r =>
    !incoming.contains (r.1.drop STASH_PREFIX_LEN)
  refine h.of_insert hrt hrows hrec ?_
  refine Nat.le_trans (length_prefixScan_le (S := kept.map (fun r => r.1.drop STASH_PREFIX_LEN) ++ incoming)
    fun r hr => ?_) (by simpa only [List.length_append, List.length_map, incoming] using hbound)
  obtain ⟨hr, hpre⟩ := mem_prefixScan.mp hr
  rw [List.mem_append]
  rcases hrows r hr with hold | ⟨rec, hmem, hrow⟩
  · by_cases hin : r.1.drop STASH_PREFIX_LEN ∈ incoming
    · exact .inr hin
    · refine .inl (List.mem_map_of_mem (List.mem_filter.mpr ⟨mem_prefixScan.mpr ⟨hold, hpre⟩, ?_⟩))
      simpa using hin
  · rw [hrow.2.1, drop_stashPrefix_append]
    exact .inr (List.mem_map_of_mem hmem)

theorem StashWellFormed.applyKpOp (hrt : codec.RoundTrip) (h : StashWellFormed crypto codec dht.store.keypackage)
    (op : KpOp) : StashWellFormed crypto codec (applyKpOp crypto codec dht op).store.keypackage := by
  cases op with
  | publish req nowMs => exact h.publish hrt req nowMs
  | refill req nowMs => exact h.refill hrt req nowMs
  | fetch req peer limiterOk removeOk nowMs =>
      exact h.of_sub (handleKeypackageFetchWith_sub crypto codec dht limiterOk removeOk req peer nowMs)

end Steps

/-- Every run of publishes, refills and fetches from an empty `dht_keypackage` keeps each
row a signed record under its own storage key and each stash within `KP_STASH_TARGET`. -/
theorem keypackage_stash_invariant (crypto : Crypto) (codec : Codec KeyPackageRecord)
    (hrt : codec.RoundTrip) (dht : Dht) (hempty : dht.store.keypackage = SortedMap.empty)
    (ops : List KpOp) :
    StashWellFormed crypto codec (ops.foldl (applyKpOp crypto codec) dht).store.keypackage :=
  Reach.Reachable.invariant (P := fun d : Dht => StashWellFormed crypto codec d.store.keypackage)
    (hempty ▸ StashWellFormed.empty) (fun _ op hd => hd.applyKpOp hrt op) (Reach.reachable_foldl ops)

def acceptingCrypto : Crypto := ⟨fun _ => (Bytes.replicate 32 0), fun _ _ _ => true⟩

def soleRecord : KeyPackageRecord :=
  ⟨Bytes.replicate 32 1, List.replicate 32 2, [3], 1000, Bytes.replicate 64 0⟩

def soleRecordCodec : Codec KeyPackageRecord :=
  ⟨fun rec => if rec = soleRecord then some [0] else none,
    fun bytes => if bytes = [0] then some soleRecord else none⟩

theorem soleRecordCodec_roundTrip : soleRecordCodec.RoundTrip :=
  Codec.RoundTrip.of_single soleRecord [0] (fun _ => rfl) rfl

theorem keypackage_stash_invariant_publish :
    soleRecordCodec.RoundTrip ∧
      (Dht.new ⟨List.replicate 32 0, by simp⟩ 0 Store.empty).store.keypackage = SortedMap.empty ∧
      StashWellFormed acceptingCrypto soleRecordCodec
        ([KpOp.publish ⟨soleRecord.ipk, [soleRecord], 0, ⟨List.replicate 64 0, by simp⟩⟩ 0].foldl
          (applyKpOp acceptingCrypto soleRecordCodec)
          (Dht.new ⟨List.replicate 32 0, by simp⟩ 0 Store.empty)).store.keypackage :=
  ⟨soleRecordCodec_roundTrip, rfl,
    keypackage_stash_invariant acceptingCrypto soleRecordCodec soleRecordCodec_roundTrip
      (Dht.new ⟨List.replicate 32 0, by simp⟩ 0 Store.empty) rfl _⟩

-- the publish above does store its record
example : (applyKpOp acceptingCrypto soleRecordCodec (Dht.new ⟨List.replicate 32 0, by simp⟩ 0 Store.empty)
    (KpOp.publish ⟨soleRecord.ipk, [soleRecord], 0, ⟨List.replicate 64 0, by simp⟩⟩ 0)).store.keypackage.rows.length = 1 := by
  decide +kernel

theorem StashRow.key_eq {crypto : Crypto} {codec : Codec KeyPackageRecord} {r : List UInt8 × List UInt8}
    (hr : StashRow crypto codec r) {rec : KeyPackageRecord} (hdec : codec.deser r.2 = some rec) :
    r.1 = (stashPrefix crypto rec.ipk).1 ++ rec.kpRef := by
  obtain ⟨rec', hdec', hkey, -⟩ := hr
  rw [hdec] at hdec'
  cases hdec'
  exact hkey

theorem row_of_mem_iterateStash {crypto : Crypto} {codec : Codec KeyPackageRecord} {dht : Dht} {ipk : Bytes 32}
    {key : Bytes STORAGE_KEY_LEN} {rec : KeyPackageRecord} (he : (key, rec) ∈ iterateStash crypto codec dht ipk) :
    ∃ v, (key.1, v) ∈ dht.store.keypackage.rows ∧ codec.deser v = some rec := by
  rw [iterateStash, List.mem_filterMap] at he
  obtain ⟨r, hr, hsome⟩ := he
  split at hsome
  · obtain ⟨rec', hdec, heq⟩ := Option.map_eq_some_iff.mp hsome
    cases heq
    exact ⟨r.2, (mem_prefixScan.mp hr).1, hdec⟩
  · cases hsome

theorem popLoop_popped_mem {selector : Bytes 32} {nowMs : UInt64} {s : PopScan}
    {l : List (Bytes STORAGE_KEY_LEN × KeyPackageRecord)} {p : Bytes STORAGE_KEY_LEN × KeyPackageRecord}
    (h : (popLoop selector nowMs s l).popped = some p) : s.popped = some p ∨ p ∈ l := by
  induction l generalizing s with
  | nil => exact .inl h
  | cons e rest ih =>
      obtain ⟨key, rec⟩ := e
      simp only [popLoop] at h
      split_ifs at h
      · exact (ih h).imp id (List.mem_cons_of_mem _)
      · rcases ih h with hp | hp
        · cases hp
          exact .inr List.mem_cons_self
        · exact .inr (List.mem_cons_of_mem _ hp)
      · exact (ih h).imp id (List.mem_cons_of_mem _)
      · exact (ih h).imp id (List.mem_cons_of_mem _)

theorem handleKeypackageFetchWith_found {crypto : Crypto} {codec : Codec KeyPackageRecord} {limiterOk : Bool}
    {removeOk : Bytes STORAGE_KEY_LEN → Bool} {dht : Dht} {req : KeyPackageFetchReq} {peer : NodeId}
    {nowMs : UInt64} {f : KeyPackageFetchFound}
    (hfound : (handleKeypackageFetchWith crypto codec limiterOk removeOk dht req peer nowMs).1 = .found f) :
    ∃ key, (key, f.record) ∈ iterateStash crypto codec dht req.targetIpk ∧
      ∀ r ∈ (handleKeypackageFetchWith crypto codec limiterOk removeOk dht req peer nowMs).2.store.keypackage.rows,
        r ∈ dht.store.keypackage.rows ∧ (removeOk key = true → r.1 ≠ key.1) := by
  rcases hown : selfIsOwnerForStash crypto dht req.targetIpk with ⟨owner, dht'⟩
  have hstore : dht'.store = dht.store := by
    simpa [hown] using selfIsOwnerForStash_store crypto dht req.targetIpk
  unfold handleKeypackageFetchWith at hfound ⊢
  simp only [hown] at hfound ⊢
  split_ifs at hfound ⊢
  split at hfound
  · cases hfound
  · next key rec hpopped =>
    cases hfound
    have hmem := (popLoop_popped_mem hpopped).resolve_left (by simp [PopScan.init])
    refine ⟨key, by rwa [iterateStash_of_store hstore] at hmem, fun r hr => ?_⟩
    -- the popped row goes only if its `remove` went through
    by_cases hok : removeOk key = true
    · simp only [hok, if_true, Dht.setKeypackage_keypackage, SortedMap.mem_erase, SortedMap.rows_eraseAll,
        List.mem_filter, hstore] at hr
      exact ⟨hr.1.1, fun _ => hr.2⟩
    · simp only [hok, Bool.false_eq_true, if_false, Dht.setKeypackage_keypackage, SortedMap.rows_eraseAll,
        List.mem_filter, hstore] at hr
      exact ⟨hr.1, fun h => absurd h hok⟩

/-- Strict one-shot: once a fetch has handed out a record, no row of the keyspace decodes to
it any more, in every state that keeps the stash invariant. -/
theorem keypackage_fetch_one_shot {crypto : Crypto} {codec : Codec KeyPackageRecord} {dht : Dht}
    (h : StashWellFormed crypto codec dht.store.keypackage) (limiterOk : Bool)
    (removeOk : Bytes STORAGE_KEY_LEN → Bool) (req : KeyPackageFetchReq) (peer : NodeId) (nowMs : UInt64)
    (f : KeyPackageFetchFound)
    (hfound : (handleKeypackageFetchWith crypto codec limiterOk removeOk dht req peer nowMs).1 = .found f)
    (hremove : ∀ key : Bytes STORAGE_KEY_LEN, key.1 = (stashPrefix crypto f.record.ipk).1 ++ f.record.kpRef →
      removeOk key = true) :
    ∀ r ∈ (handleKeypackageFetchWith crypto codec limiterOk removeOk dht req peer nowMs).2.store.keypackage.rows,
      codec.deser r.2 ≠ some f.record := by
  obtain ⟨key, hmem, hrows⟩ := handleKeypackageFetchWith_found hfound
  obtain ⟨v, hv, hdec⟩ := row_of_mem_iterateStash hmem
  -- the popped row and any row decoding to the same record share the record's storage key
  have hkey : key.1 = (stashPrefix crypto f.record.ipk).1 ++ f.record.kpRef := (h.rows _ hv).key_eq hdec
  intro r hr hr_dec
  obtain ⟨hold, hne⟩ := hrows r hr
  exact hne (hremove key hkey) (((h.rows r hold).key_eq hr_dec).trans hkey.symm)

def soleStashDht : Dht :=
  applyKpOp acceptingCrypto soleRecordCodec (Dht.new (Bytes.replicate 32 0) 0 Store.empty)
    (KpOp.publish ⟨soleRecord.ipk, [soleRecord], 0, Bytes.replicate 64 0⟩ 0)

theorem keypackage_fetch_one_shot_sole :
    StashWellFormed acceptingCrypto soleRecordCodec soleStashDht.store.keypackage ∧
      (handleKeypackageFetchWith acceptingCrypto soleRecordCodec true (fun _ => true) soleStashDht
        ⟨soleRecord.ipk, ⟨List.replicate 32 9, by simp⟩, 0⟩ ⟨List.replicate 32 9, by simp⟩ 0).1 =
        .found ⟨soleRecord, 0, computeStaticHash acceptingCrypto soleRecord⟩ ∧
      ∀ r ∈ (handleKeypackageFetchWith acceptingCrypto soleRecordCodec true (fun _ => true) soleStashDht
        ⟨soleRecord.ipk, ⟨List.replicate 32 9, by simp⟩, 0⟩ ⟨List.replicate 32 9, by simp⟩ 0).2.store.keypackage.rows,
        soleRecordCodec.deser r.2 ≠ some soleRecord := by
  have hwf : StashWellFormed acceptingCrypto soleRecordCodec soleStashDht.store.keypackage :=
    StashWellFormed.applyKpOp soleRecordCodec_roundTrip StashWellFormed.empty _
  have hfound : (handleKeypackageFetchWith acceptingCrypto soleRecordCodec true (fun _ => true) soleStashDht
      ⟨soleRecord.ipk, ⟨List.replicate 32 9, by simp⟩, 0⟩ ⟨List.replicate 32 9, by simp⟩ 0).1 =
      .found ⟨soleRecord, 0, computeStaticHash acceptingCrypto soleRecord⟩ := by
    decide +kernel
  exact ⟨hwf, hfound, keypackage_fetch_one_shot hwf true _ _ _ 0 _ hfound fun _ _ => rfl⟩

end Kp

end Promtuz
