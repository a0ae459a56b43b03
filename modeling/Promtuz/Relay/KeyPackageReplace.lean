import Promtuz.Relay.KeyPackageInvariant

/-! What a publish leaves at the home, exactly: when its records agree with what the store
holds, the insert loop runs to the end and the stash becomes the snapshot. From that, a
republish of the same snapshot undoes every fetch made since it was first stored. -/

namespace Promtuz

@[simp] theorem Dht.setKeypackage_setKeypackage (dht : Dht) (a b : Keyspace) :
    (dht.setKeypackage a).setKeypackage b = dht.setKeypackage b := rfl

theorem Dht.setKeypackage_self (dht : Dht) : dht.setKeypackage dht.store.keypackage = dht := rfl

theorem selfInTopK_setKeypackage (dht : Dht) (target : NodeId) (ks : Keyspace) :
    selfInTopK (dht.setKeypackage ks) target =
      ((selfInTopK dht target).1, (selfInTopK dht target).2.setKeypackage ks) := by
  by_cases hc : (dht.routing.findClosest target (Routing.K + 1)).length < Routing.K
  · dsimp only [selfInTopK, Dht.setKeypackage]
    rw [dif_pos hc, dif_pos hc]
  · dsimp only [selfInTopK, Dht.setKeypackage]
    rw [dif_neg hc, dif_neg hc]

theorem selfInTopK_idem (dht : Dht) (target : NodeId) :
    selfInTopK (selfInTopK dht target).2 target = selfInTopK dht target := by
  by_cases hc : (dht.routing.findClosest target (Routing.K + 1)).length < Routing.K
  · dsimp only [selfInTopK]
    rw [dif_pos hc, dif_pos hc]
  · dsimp only [selfInTopK]
    rw [dif_neg hc, dif_neg hc]

namespace Kp

/-- The storage key of a record, `stash_prefix(ipk) || kp_ref`. -/
def recordKey (crypto : Crypto) (rec : KeyPackageRecord) : List UInt8 :=
  (stashPrefix crypto rec.ipk).1 ++ rec.kpRef

/-- The store agrees with a record: the record has a row, and a row the store holds under
its key is that row. -/
def Agrees (crypto : Crypto) (codec : Codec KeyPackageRecord) (ks : Keyspace) (rec : KeyPackageRecord) : Prop :=
  ∃ r, RecordRow crypto codec rec r ∧ ∀ r' ∈ ks.rows, r'.1 = r.1 → r' = r

section Agree

variable {β : Type} {crypto : Crypto} {codec : Codec KeyPackageRecord}

theorem RecordRow.key {rec : KeyPackageRecord} {r : List UInt8 × List UInt8}
    (h : RecordRow crypto codec rec r) : r.1 = recordKey crypto rec := h.2.1

theorem RecordRow.unique {rec : KeyPackageRecord} {r r' : List UInt8 × List UInt8}
    (h : RecordRow crypto codec rec r) (h' : RecordRow crypto codec rec r') : r = r' := by
  have hbytes : some r.2 = some r'.2 := h.1.symm.trans h'.1
  exact Prod.ext (h.key.trans h'.key.symm) (Option.some.inj hbytes)

theorem kpRef_eq_of_recordKey_eq {rec rec' : KeyPackageRecord} (hipk : rec.ipk = rec'.ipk)
    (h : recordKey crypto rec = recordKey crypto rec') : rec.kpRef = rec'.kpRef := by
  unfold recordKey at h
  rw [hipk] at h
  exact List.append_cancel_left h

theorem Agrees.of_sub {ks ks' : Keyspace} {rec : KeyPackageRecord} (h : Agrees crypto codec ks rec)
    (hs : ks'.Sub ks) : Agrees crypto codec ks' rec := by
  obtain ⟨r, hrow, hsame⟩ := h
  exact ⟨r, hrow, fun r' hr' => hsame r' (hs.mem hr')⟩

theorem Agrees.insert {ks : Keyspace} {rec : KeyPackageRecord} (h : Agrees crypto codec ks rec)
    {k : List UInt8} (v : List UInt8) (hk : k ≠ recordKey crypto rec) : Agrees crypto codec (ks.insert k v) rec := by
  obtain ⟨r, hrow, hsame⟩ := h
  refine ⟨r, hrow, fun r' hr' hkey => ?_⟩
  rcases SortedMap.mem_insert.1 hr' with rfl | ⟨hr', -⟩
  · exact absurd (hkey.trans hrow.key) hk
  · exact hsame r' hr' hkey

theorem storageKey_of_recordRow {rec : KeyPackageRecord} {r : List UInt8 × List UInt8}
    (h : RecordRow crypto codec rec r) :
    ∃ key : Bytes STORAGE_KEY_LEN, storageKey crypto rec.ipk rec.kpRef = some key ∧ key.1 = r.1 := by
  obtain ⟨-, hkey, hlen⟩ := h
  refine ⟨_, dif_pos hlen, hkey.symm⟩

theorem insertRecord_of_agrees {ks : Keyspace} {rec : KeyPackageRecord} {r : List UInt8 × List UInt8}
    (hrow : RecordRow crypto codec rec r) (hsame : ∀ r' ∈ ks.rows, r'.1 = r.1 → r' = r) :
    insertRecord crypto codec ks rec = .ok (ks.insert r.1 r.2) := by
  obtain ⟨key, hsk, hkey⟩ := storageKey_of_recordRow hrow
  unfold insertRecord
  rw [hsk, hrow.1]
  simp only [hkey]
  cases hget : ks.get? r.1 with
  | none => rfl
  | some existing =>
      -- the row already there is the record's own, so the bytes match
      have hex : (r.1, existing) = r := hsame _ (SortedMap.get?_eq_some_iff.1 hget) rfl
      have hbytes : existing = r.2 := congrArg Prod.snd hex
      simp [hbytes]

theorem insertLoop_of_agrees {conflict storage : β} {ipk : Bytes 32} {ks : Keyspace}
    {records : List KeyPackageRecord} (hipk : ∀ rec ∈ records, rec.ipk = ipk)
    (hnd : (records.map (·.kpRef)).Nodup) (hagree : ∀ rec ∈ records, Agrees crypto codec ks rec) :
    (insertLoop crypto codec conflict storage ks records).1 = none ∧
      ∀ r, r ∈ (insertLoop crypto codec conflict storage ks records).2.rows ↔
        (r ∈ ks.rows ∧ ∀ rec ∈ records, r.1 ≠ recordKey crypto rec) ∨
          ∃ rec ∈ records, RecordRow crypto codec rec r := by
  induction records generalizing ks with
  | nil => exact ⟨rfl, fun r => by simp [insertLoop]⟩
  | cons rec rest ih =>
      obtain ⟨row, hrow, hsame⟩ := hagree rec List.mem_cons_self
      have hnd' := List.nodup_cons.1 (by simpa only [List.map_cons] using hnd)
      -- the records after `rec` are filed under other keys than `rec`'s
      have hkeys : ∀ rec' ∈ rest, recordKey crypto rec' ≠ recordKey crypto rec := by
        intro rec' hrec' heq
        have href := kpRef_eq_of_recordKey_eq
          ((hipk rec' (List.mem_cons_of_mem _ hrec')).trans (hipk rec List.mem_cons_self).symm) heq
        exact hnd'.1 (href ▸ List.mem_map_of_mem hrec')
      have hagree' : ∀ rec' ∈ rest, Agrees crypto codec (ks.insert row.1 row.2) rec' := fun rec' hrec' =>
        (hagree rec' (List.mem_cons_of_mem _ hrec')).insert row.2 (hrow.key ▸ (hkeys rec' hrec').symm)
      obtain ⟨hnone, hmem⟩ := ih (fun r hr => hipk r (List.mem_cons_of_mem _ hr)) hnd'.2 hagree'
      simp only [insertLoop, insertRecord_of_agrees hrow hsame]
      refine ⟨hnone, fun r => ?_⟩
      rw [hmem r, SortedMap.mem_insert]
      constructor
      · rintro (⟨rfl | ⟨hr, hne⟩, hrest⟩ | ⟨rec', hrec', hrow'⟩)
        · exact .inr ⟨rec, List.mem_cons_self, hrow⟩
        · refine .inl ⟨hr, fun rec' hrec' => ?_⟩
          rcases List.mem_cons.1 hrec' with rfl | hrec'
          · exact hrow.key ▸ hne
          · exact hrest rec' hrec'
        · exact .inr ⟨rec', List.mem_cons_of_mem _ hrec', hrow'⟩
      · rintro (⟨hr, hne⟩ | ⟨rec', hrec', hrow'⟩)
        · exact .inl ⟨.inr ⟨hr, hrow.key ▸ hne rec List.mem_cons_self⟩,
            fun rec' hrec' => hne rec' (List.mem_cons_of_mem _ hrec')⟩
        · rcases List.mem_cons.1 hrec' with rfl | hrec'
          · -- `rec`'s own row, which no later record's key reaches
            refine .inl ⟨.inl (hrow'.unique hrow), fun rec'' hrec'' => ?_⟩
            rw [hrow'.key]
            exact (hkeys rec'' hrec'').symm
          · exact .inr ⟨rec', hrec', hrow'⟩

end Agree

theorem selfIsOwnerForStash_setKeypackage (crypto : Crypto) (dht : Dht) (ipk : Bytes 32) (ks : Keyspace) :
    selfIsOwnerForStash crypto (dht.setKeypackage ks) ipk =
      ((selfIsOwnerForStash crypto dht ipk).1, (selfIsOwnerForStash crypto dht ipk).2.setKeypackage ks) :=
  selfInTopK_setKeypackage dht _ ks

theorem selfIsOwnerForStash_idem (crypto : Crypto) (dht : Dht) (ipk : Bytes 32) :
    selfIsOwnerForStash crypto (selfIsOwnerForStash crypto dht ipk).2 ipk = selfIsOwnerForStash crypto dht ipk :=
  selfInTopK_idem dht _

section Publish

variable {crypto : Crypto} {codec : Codec KeyPackageRecord} {dht : Dht}

theorem verifyLoop_of_forall {β : Type} {ipk : Bytes 32} {nowMs : UInt64} {badSig expired : β}
    {records : List KeyPackageRecord}
    (h : ∀ rec ∈ records, rec.ipk = ipk ∧ verifyRecord crypto rec nowMs = .ok ()) :
    verifyLoop crypto ipk nowMs badSig expired records = none := by
  induction records with
  | nil => rfl
  | cons rec rest ih =>
      obtain ⟨hipk, hv⟩ := h rec List.mem_cons_self
      simp only [verifyLoop, hipk, ne_eq, not_true_eq_false, if_false, hv]
      exact ih fun r hr => h r (List.mem_cons_of_mem _ hr)

theorem handleKeypackagePublish_of_agrees {req : KeyPackagePublishReq} {nowMs : UInt64}
    (hlen : req.records.length ≤ KP_STASH_TARGET) (hne : req.records ≠ [])
    (hsig : verifyOuterSig crypto req.ipk req.sig req.records req.timestamp false nowMs = true)
    (hown : (selfIsOwnerForStash crypto dht req.ipk).1 = true)
    (hver : verifyLoop crypto req.ipk nowMs KeyPackagePublishOutcome.badSig .expired req.records = none)
    (hnd : (req.records.map (·.kpRef)).Nodup)
    (hagree : ∀ rec ∈ req.records, Agrees crypto codec dht.store.keypackage rec) :
    ∃ ks, handleKeypackagePublish crypto codec dht req nowMs =
        (.stored, (selfIsOwnerForStash crypto dht req.ipk).2.setKeypackage ks) ∧
      ∀ r, r ∈ ks.rows ↔
        (r ∈ (dht.store.keypackage.eraseAll (absentKeys (iterateStash crypto codec dht req.ipk)
            (req.records.map (·.kpRef)))).rows ∧ ∀ rec ∈ req.records, r.1 ≠ recordKey crypto rec) ∨
          ∃ rec ∈ req.records, RecordRow crypto codec rec r := by
  have hloop := (insertLoop_of_agrees (fun rec hrec => (verifyLoop_eq_none hver rec hrec).1) hnd
    fun rec hrec => (hagree rec hrec).of_sub (SortedMap.eraseAll_sub _ _) :
      (insertLoop crypto codec KeyPackagePublishOutcome.staticFieldsConflict .badSig
        (dht.store.keypackage.eraseAll (absentKeys (iterateStash crypto codec dht req.ipk)
          (req.records.map (·.kpRef)))) req.records).1 = none ∧ _)
  refine ⟨_, ?_, hloop.2⟩
  rcases howner : selfIsOwnerForStash crypto dht req.ipk with ⟨owner, dht'⟩
  rw [howner] at hown
  have hstore : dht'.store = dht.store := by
    simpa [howner] using selfIsOwnerForStash_store crypto dht req.ipk
  unfold handleKeypackagePublish
  simp only [howner, iterateStash_of_store hstore, hstore]
  rw [if_neg (Nat.not_lt.2 hlen), if_neg (by simpa using hne), if_neg (by simp [hsig]),
    if_neg (by simp [show owner = true from hown]), hver]
  simp only [hloop.1, Option.getD_none]

theorem recordRow_of_stored {req : KeyPackagePublishReq} {nowMs : UInt64}
    (h : (handleKeypackagePublish crypto codec dht req nowMs).1 = .stored) :
    ∀ rec ∈ req.records, ∃ r ∈ (handleKeypackagePublish crypto codec dht req nowMs).2.store.keypackage.rows,
      RecordRow crypto codec rec r := by
  intro rec hrec
  rcases handleKeypackagePublish_of_stored crypto codec dht req nowMs h with hnil | ⟨-, hnone, heq⟩
  · rw [hnil] at hrec
    cases hrec
  rw [heq]
  exact (insertLoop_of_none hnone).2 rec hrec

theorem agrees_of_stored {req : KeyPackagePublishReq} {nowMs : UInt64}
    (h : (handleKeypackagePublish crypto codec dht req nowMs).1 = .stored) :
    ∀ rec ∈ req.records,
      Agrees crypto codec (handleKeypackagePublish crypto codec dht req nowMs).2.store.keypackage rec := by
  intro rec hrec
  obtain ⟨r, hr, hrow⟩ := recordRow_of_stored h rec hrec
  exact ⟨r, hrow, fun r' hr' hkey => SortedMap.eq_of_mem_of_key_eq hr' hr hkey⟩

theorem handleKeypackagePublish_home_of_stored {req : KeyPackagePublishReq} {nowMs : UInt64}
    (h : (handleKeypackagePublish crypto codec dht req nowMs).1 = .stored) (hne : req.records ≠ []) :
    req.records.length ≤ KP_STASH_TARGET ∧
      verifyOuterSig crypto req.ipk req.sig req.records req.timestamp false nowMs = true ∧
      (selfIsOwnerForStash crypto dht req.ipk).1 = true ∧
      (handleKeypackagePublish crypto codec dht req nowMs).2 =
        (selfIsOwnerForStash crypto dht req.ipk).2.setKeypackage
          (handleKeypackagePublish crypto codec dht req nowMs).2.store.keypackage := by
  rcases howner : selfIsOwnerForStash crypto dht req.ipk with ⟨owner, dht'⟩
  unfold handleKeypackagePublish at h ⊢
  simp only [howner] at h ⊢
  split_ifs at h ⊢ with htoo hempty hsig hnot
  · exact absurd (List.isEmpty_iff.1 hempty) hne
  · cases hv : verifyLoop crypto req.ipk nowMs KeyPackagePublishOutcome.badSig .expired req.records with
    | some outcome =>
        rw [hv] at h
        rcases verifyLoop_eq_some hv with rfl | rfl <;> cases h
    | none =>
        exact ⟨Nat.le_of_not_lt htoo, by simpa using hsig, by simpa using hnot, rfl⟩

end Publish

section Fetch

variable {crypto : Crypto} {codec : Codec KeyPackageRecord} {dht : Dht}

theorem popLoop_toEvict_mem {selector : Bytes 32} {nowMs : UInt64} {s : PopScan}
    {l : List (Bytes STORAGE_KEY_LEN × KeyPackageRecord)} {k : Bytes STORAGE_KEY_LEN}
    (h : k ∈ (popLoop selector nowMs s l).toEvict) : k ∈ s.toEvict ∨ ∃ e ∈ l, e.1 = k := by
  induction l generalizing s with
  | nil => exact .inl h
  | cons e rest ih =>
      obtain ⟨key, rec⟩ := e
      simp only [popLoop] at h
      split_ifs at h
      · rcases ih h with hk | ⟨e, he, rfl⟩
        · rcases List.mem_append.1 hk with hk | hk
          · exact .inl hk
          · exact .inr ⟨(key, rec), List.mem_cons_self, (List.mem_singleton.1 hk).symm⟩
        · exact .inr ⟨e, List.mem_cons_of_mem _ he, rfl⟩
      all_goals
        rcases ih h with hk | ⟨e, he, rfl⟩
        · exact .inl hk
        · exact .inr ⟨e, List.mem_cons_of_mem _ he, rfl⟩

theorem popLoop_popped_isSome {selector : Bytes 32} {nowMs : UInt64} {s : PopScan}
    {l : List (Bytes STORAGE_KEY_LEN × KeyPackageRecord)}
    (h : s.popped.isSome ∨ ∃ e ∈ l, nowMs < e.2.expiresAtMs ∧ e.2.kpRef.length = KP_REF_LEN) :
    (popLoop selector nowMs s l).popped.isSome := by
  induction l generalizing s with
  | nil =>
      rcases h with h | ⟨e, he, -⟩
      · exact h
      · cases he
  | cons e rest ih =>
      obtain ⟨key, rec⟩ := e
      simp only [popLoop]
      split_ifs with hexp hlen hbetter
      -- an expired record is skipped, so the witness is the state or a later record
      · refine ih (h.imp id fun hex => ?_)
        obtain ⟨e, he, hlive⟩ := hex
        rcases List.mem_cons.1 he with rfl | he
        · exact absurd hexp (UInt64.not_le.2 hlive.1)
        · exact ⟨e, he, hlive⟩
      · exact ih (.inl rfl)
      · -- a record that loses to the one already popped leaves it popped
        refine ih (.inl ?_)
        simp only [Bool.or_eq_true, Option.isNone_iff_eq_none, decide_eq_true_eq, not_or] at hbetter
        exact Option.isSome_iff_ne_none.2 hbetter.1
      · refine ih (h.imp id fun hex => ?_)
        obtain ⟨e, he, hlive⟩ := hex
        rcases List.mem_cons.1 he with rfl | he
        · exact absurd hlive.2 hlen
        · exact ⟨e, he, hlive⟩

theorem handleKeypackageFetch_home (limiterOk : Bool) (req : KeyPackageFetchReq) (peer : NodeId)
    (nowMs : UInt64) :
    (handleKeypackageFetch crypto codec limiterOk dht req peer nowMs).2 = dht ∨
      (handleKeypackageFetch crypto codec limiterOk dht req peer nowMs).2 =
          (selfIsOwnerForStash crypto dht req.targetIpk).2.setKeypackage
            (handleKeypackageFetch crypto codec limiterOk dht req peer nowMs).2.store.keypackage ∧
        ∀ r ∈ dht.store.keypackage.rows,
          r ∉ (handleKeypackageFetch crypto codec limiterOk dht req peer nowMs).2.store.keypackage.rows →
            ∃ e ∈ iterateStash crypto codec dht req.targetIpk, e.1.1 = r.1 := by
  rcases howner : selfIsOwnerForStash crypto dht req.targetIpk with ⟨owner, dht'⟩
  have hstore : dht'.store = dht.store := by
    simpa [howner] using selfIsOwnerForStash_store crypto dht req.targetIpk
  unfold handleKeypackageFetch handleKeypackageFetchWith
  simp only [howner, List.filter_true]
  split_ifs
  · exact .inl rfl
  · exact .inl rfl
  -- refused after the ownership check: the store is untouched
  · exact .inr ⟨rfl, fun r hr hgone => absurd (hstore ▸ hr) hgone⟩
  · exact .inr ⟨rfl, fun r hr hgone => absurd (hstore ▸ hr) hgone⟩
  · rw [iterateStash_of_store hstore]
    -- a row the fetch removed was evicted or popped, and the loop walked over both
    have hevict : ∀ r ∈ dht.store.keypackage.rows,
        r.1 ∈ (popLoop (popSelector crypto req.requesterRelayId req.targetIpk) nowMs PopScan.init
          (iterateStash crypto codec dht req.targetIpk)).toEvict.map (·.1) →
        ∃ e ∈ iterateStash crypto codec dht req.targetIpk, e.1.1 = r.1 := by
      intro r _ hk
      obtain ⟨k, hk, hkey⟩ := List.mem_map.1 hk
      rcases popLoop_toEvict_mem hk with hinit | ⟨e, he, rfl⟩
      · simp [PopScan.init] at hinit
      · exact ⟨e, he, hkey⟩
    split
    · refine .inr ⟨rfl, fun r hr hgone => hevict r hr ?_⟩
      simp only [Dht.setKeypackage_keypackage, SortedMap.rows_eraseAll, hstore, List.mem_filter, hr,
        true_and, decide_eq_true_eq, not_not] at hgone
      exact hgone
    · next key rec hpopped =>
      refine .inr ⟨rfl, fun r hr hgone => ?_⟩
      simp only [Dht.setKeypackage_keypackage, SortedMap.mem_erase, SortedMap.rows_eraseAll, hstore,
        List.mem_filter, hr, true_and, decide_eq_true_eq, not_and, not_not] at hgone
      by_cases hk : r.1 ∈ (popLoop (popSelector crypto req.requesterRelayId req.targetIpk) nowMs PopScan.init
          (iterateStash crypto codec dht req.targetIpk)).toEvict.map (·.1)
      · exact hevict r hr hk
      · have hmem := (popLoop_popped_mem hpopped).resolve_left (by simp [PopScan.init])
        exact ⟨(key, rec), hmem, (hgone hk).symm⟩

theorem handleKeypackageFetch_found_of {limiterOk : Bool} {req : KeyPackageFetchReq} {peer : NodeId}
    {nowMs : UInt64} (hpeer : req.requesterRelayId = peer) (hskew : nowMs.absDiff req.timestamp ≤ MAX_KP_SKEW_MS)
    (hown : (selfIsOwnerForStash crypto dht req.targetIpk).1 = true) (hlim : limiterOk = true)
    (hlive : ∃ e ∈ iterateStash crypto codec dht req.targetIpk,
      nowMs < e.2.expiresAtMs ∧ e.2.kpRef.length = KP_REF_LEN) :
    ∃ f, (handleKeypackageFetch crypto codec limiterOk dht req peer nowMs).1 = .found f := by
  rcases howner : selfIsOwnerForStash crypto dht req.targetIpk with ⟨owner, dht'⟩
  rw [howner] at hown
  have hstore : dht'.store = dht.store := by
    simpa [howner] using selfIsOwnerForStash_store crypto dht req.targetIpk
  obtain ⟨p, hp⟩ := Option.isSome_iff_exists.1
    (@popLoop_popped_isSome (popSelector crypto req.requesterRelayId req.targetIpk) nowMs PopScan.init _ (.inr hlive))
  unfold handleKeypackageFetch handleKeypackageFetchWith
  simp only [howner, iterateStash_of_store hstore]
  rw [if_neg (not_not.2 hpeer), if_neg (UInt64.not_lt.2 hskew), if_neg (by simp [show owner = true from hown]),
    if_neg (by simp [hlim]), hp]
  exact ⟨_, rfl⟩

end Fetch

/-- `d` is the home a stored publish left, `h1`, with some rows under the snapshot's keys
taken out: what fetches of the publisher's stash leave. -/
def Trimmed (crypto : Crypto) (h1 : Dht) (records : List KeyPackageRecord) (d : Dht) : Prop :=
  ∃ ks, d = h1.setKeypackage ks ∧ ks.Sub h1.store.keypackage ∧
    ∀ r ∈ h1.store.keypackage.rows, r ∉ ks.rows → ∃ rec ∈ records, r.1 = recordKey crypto rec

section Restore

variable {crypto : Crypto} {codec : Codec KeyPackageRecord} {h : Dht} {req : KeyPackagePublishReq} {t : UInt64}

theorem Trimmed.refl (h1 : Dht) (records : List KeyPackageRecord) : Trimmed crypto h1 records h1 :=
  ⟨h1.store.keypackage, rfl, SortedMap.Sub.refl _, fun _ hr hgone => absurd hr hgone⟩

theorem iterateStash_sublist {d d' : Dht} (hs : d'.store.keypackage.Sub d.store.keypackage) (ipk : Bytes 32) :
    (iterateStash crypto codec d' ipk).Sublist (iterateStash crypto codec d ipk) :=
  (hs.scan _).filterMap _

theorem key_of_mem_iterateStash {ks : Keyspace} (hwf : StashWellFormed crypto codec ks) {dht : Dht}
    (hks : dht.store.keypackage = ks) {ipk : Bytes 32} {e : Bytes STORAGE_KEY_LEN × KeyPackageRecord}
    (he : e ∈ iterateStash crypto codec dht ipk) : e.1.1 = (stashPrefix crypto ipk).1 ++ e.2.kpRef := by
  have hmem : (e.1.1, e.2.kpRef) ∈ (iterateStash crypto codec dht ipk).map (fun e => (e.1.1, e.2.kpRef)) :=
    List.mem_map_of_mem he
  rw [iterateStash_map hwf hks] at hmem
  obtain ⟨r, hr, heq⟩ := List.mem_map.1 hmem
  obtain ⟨hkey, hdrop⟩ := Prod.mk.inj heq
  rw [← hkey, ← hdrop]
  exact Bytes.eq_append_drop_of_isPrefixOf (mem_prefixScan.1 hr).2

theorem recordKey_of_stored (hrt : codec.RoundTrip) (hwf : StashWellFormed crypto codec h.store.keypackage)
    (hst : (handleKeypackagePublish crypto codec h req t).1 = .stored) (hne : req.records ≠ [])
    {e : Bytes STORAGE_KEY_LEN × KeyPackageRecord}
    (he : e ∈ iterateStash crypto codec (handleKeypackagePublish crypto codec h req t).2 req.ipk) :
    ∃ rec ∈ req.records, e.1.1 = recordKey crypto rec := by
  obtain ⟨rec, hrec, href⟩ := List.mem_map.1 (kpRef_mem_of_stored hrt hwf hst hne e he)
  have hipk : rec.ipk = req.ipk := by
    rcases handleKeypackagePublish_of_stored crypto codec h req t hst with hnil | ⟨hv, -⟩
    · exact absurd hnil hne
    · exact (verifyLoop_eq_none hv rec hrec).1
  refine ⟨rec, hrec, ?_⟩
  rw [key_of_mem_iterateStash (hwf.publish hrt req t) rfl he, recordKey, hipk, href]

theorem selfIsOwnerForStash_of_stored (hst : (handleKeypackagePublish crypto codec h req t).1 = .stored)
    (hne : req.records ≠ []) (ks : Keyspace) :
    selfIsOwnerForStash crypto ((handleKeypackagePublish crypto codec h req t).2.setKeypackage ks) req.ipk =
      (true, (handleKeypackagePublish crypto codec h req t).2.setKeypackage ks) := by
  obtain ⟨-, -, hown, hshape⟩ := handleKeypackagePublish_home_of_stored hst hne
  rw [hshape, Dht.setKeypackage_setKeypackage, selfIsOwnerForStash_setKeypackage, selfIsOwnerForStash_idem, hown]

theorem Trimmed.fetch (hrt : codec.RoundTrip) (hwf : StashWellFormed crypto codec h.store.keypackage)
    (hst : (handleKeypackagePublish crypto codec h req t).1 = .stored) (hne : req.records ≠ [])
    {d : Dht} (hd : Trimmed crypto (handleKeypackagePublish crypto codec h req t).2 req.records d)
    (limiterOk : Bool) {freq : KeyPackageFetchReq} (htarget : freq.targetIpk = req.ipk) (peer : NodeId)
    (nowMs : UInt64) :
    Trimmed crypto (handleKeypackagePublish crypto codec h req t).2 req.records
      (handleKeypackageFetch crypto codec limiterOk d freq peer nowMs).2 := by
  obtain ⟨ks, rfl, hsub, hgone⟩ := hd
  rcases handleKeypackageFetch_home limiterOk freq peer nowMs with heq | ⟨heq, hrem⟩
  · rw [heq]
    exact ⟨ks, rfl, hsub, hgone⟩
  · rw [htarget, selfIsOwnerForStash_of_stored hst hne, Dht.setKeypackage_setKeypackage] at heq
    refine ⟨_, heq, (handleKeypackageFetchWith_sub crypto codec _ limiterOk (fun _ => true) freq peer nowMs).trans hsub, ?_⟩
    intro r hr hout
    by_cases hin : r ∈ ks.rows
    · -- removed by this fetch: an entry of the trimmed stash, so of the publisher's stash
      rw [htarget] at hrem
      obtain ⟨e, he, hkey⟩ := hrem r hin hout
      have he' := (iterateStash_sublist hsub req.ipk).subset he
      obtain ⟨rec, hrec, hk⟩ := recordKey_of_stored hrt hwf hst hne he'
      exact ⟨rec, hrec, hkey ▸ hk⟩
    · exact hgone r hr hin

theorem publish_of_trimmed (hrt : codec.RoundTrip) (hwf : StashWellFormed crypto codec h.store.keypackage)
    (hst : (handleKeypackagePublish crypto codec h req t).1 = .stored) (hne : req.records ≠ [])
    (hnd : (req.records.map (·.kpRef)).Nodup)
    {d : Dht} (hd : Trimmed crypto (handleKeypackagePublish crypto codec h req t).2 req.records d)
    {req' : KeyPackagePublishReq} {t' : UInt64} (hipk : req'.ipk = req.ipk) (hrecs : req'.records = req.records)
    (hsig : verifyOuterSig crypto req'.ipk req'.sig req'.records req'.timestamp false t' = true)
    (hver : verifyLoop crypto req'.ipk t' KeyPackagePublishOutcome.badSig .expired req'.records = none) :
    handleKeypackagePublish crypto codec d req' t' = (.stored, (handleKeypackagePublish crypto codec h req t).2) := by
  obtain ⟨ks, rfl, hsub, hgone⟩ := hd
  obtain ⟨hlen, -, -, -⟩ := handleKeypackagePublish_home_of_stored hst hne
  have hown := selfIsOwnerForStash_of_stored hst hne ks
  rw [← hipk] at hown
  obtain ⟨K, heq, hmem⟩ := handleKeypackagePublish_of_agrees (hrecs ▸ hlen) (hrecs ▸ hne) hsig
    (by rw [hown]) hver (hrecs ▸ hnd)
    fun rec hrec => (agrees_of_stored hst rec (hrecs ▸ hrec)).of_sub (by simpa using hsub)
  rw [heq, hown, Dht.setKeypackage_setKeypackage]
  -- the store it writes is the first publish's, row for row
  have hK : K = (handleKeypackagePublish crypto codec h req t).2.store.keypackage := by
    refine SortedMap.ext_of_mem fun r => ?_
    rw [hmem r, hrecs]
    constructor
    · rintro (⟨hr, -⟩ | ⟨rec, hrec, hrow⟩)
      · exact hsub.mem (SortedMap.eraseAll_sub _ _ |>.mem (by simpa using hr))
      · obtain ⟨r0, hr0, hrow0⟩ := recordRow_of_stored hst rec hrec
        exact hrow.unique hrow0 ▸ hr0
    · intro hr
      by_cases hk : ∃ rec ∈ req.records, r.1 = recordKey crypto rec
      · obtain ⟨rec, hrec, hkey⟩ := hk
        obtain ⟨r0, hr0, hrow0⟩ := recordRow_of_stored hst rec hrec
        have hsame : r = r0 := SortedMap.eq_of_mem_of_key_eq hr hr0 (hkey.trans hrow0.key.symm)
        exact .inr ⟨rec, hrec, hsame ▸ hrow0⟩
      · simp only [not_exists, not_and] at hk
        have hin : r ∈ ks.rows := by
          by_contra hout
          obtain ⟨rec, hrec, hkey⟩ := hgone r hr hout
          exact hk rec hrec hkey
        refine .inl ⟨?_, hk⟩
        -- no entry of the trimmed stash lies outside the snapshot, so nothing is evicted
        simp only [Dht.setKeypackage_keypackage, SortedMap.rows_eraseAll, List.mem_filter, hin, true_and,
          decide_eq_true_eq]
        intro habs
        obtain ⟨e, he, hkey⟩ := List.mem_map.1 habs
        obtain ⟨he, hout⟩ := List.mem_filter.1 he
        have he' := (iterateStash_sublist (by simpa using hsub) req.ipk).subset (hipk ▸ he)
        have href := kpRef_mem_of_stored hrt hwf hst hne e he'
        simp [href] at hout
  rw [hK, Dht.setKeypackage_self]

end Restore

end Kp

end Promtuz
