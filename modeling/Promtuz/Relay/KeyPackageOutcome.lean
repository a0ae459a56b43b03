import Promtuz.Relay.KeyPackageInvariant

/-! What the `dht_keypackage` handlers leave behind with each answer (`dht/mls/kp.rs`):
a publish or refill that fails part-way through its insert loop, and a fetch that pops. -/

namespace Promtuz

namespace Kp

section Insert

variable {β : Type} {crypto : Crypto} {codec : Codec KeyPackageRecord} {conflict storage : β}

theorem insertLoop_stop {ks : Keyspace} {records : List KeyPackageRecord}
    (h : (insertLoop crypto codec conflict storage ks records).1.isSome) :
    ∃ pre rec post, records = pre ++ rec :: post ∧
      (∃ e, insertRecord crypto codec (insertLoop crypto codec conflict storage ks pre).2 rec = .error e) ∧
      (insertLoop crypto codec conflict storage ks records).2 = (insertLoop crypto codec conflict storage ks pre).2 := by
  induction records generalizing ks with
  | nil => simp [insertLoop] at h
  | cons rec rest ih =>
      cases hins : insertRecord crypto codec ks rec with
      | ok ks' =>
          -- the record was written: the stop lies further on
          rw [insertLoop, hins] at h
          obtain ⟨pre, r, post, rfl, herr, heq⟩ := ih h
          refine ⟨rec :: pre, r, post, rfl, ?_, ?_⟩
          · rwa [insertLoop, hins]
          · rw [insertLoop, hins, insertLoop, hins]
            exact heq
      | error e =>
          refine ⟨[], rec, rest, rfl, ⟨e, hins⟩, ?_⟩
          show (insertLoop crypto codec conflict storage ks (rec :: rest)).2 = ks
          rw [insertLoop, hins]
          cases e <;> rfl

end Insert

section Write

variable (crypto : Crypto) (codec : Codec KeyPackageRecord) (dht : Dht) (nowMs : UInt64)

theorem keypackage_write_failure :
    (∀ req : KeyPackagePublishReq, (handleKeypackagePublish crypto codec dht req nowMs).1 ≠ .stored →
      (handleKeypackagePublish crypto codec dht req nowMs).2.store.keypackage = dht.store.keypackage ∨
        ∃ pre rec post, req.records = pre ++ rec :: post ∧
          (∃ e, insertRecord crypto codec (insertLoop crypto codec KeyPackagePublishOutcome.staticFieldsConflict .badSig
            (dht.store.keypackage.eraseAll (absentKeys (iterateStash crypto codec dht req.ipk)
              (req.records.map (·.kpRef)))) pre).2 rec = .error e) ∧
          (handleKeypackagePublish crypto codec dht req nowMs).2.store.keypackage =
            (insertLoop crypto codec KeyPackagePublishOutcome.staticFieldsConflict .badSig
              (dht.store.keypackage.eraseAll (absentKeys (iterateStash crypto codec dht req.ipk)
                (req.records.map (·.kpRef)))) pre).2) ∧
    ∀ req : KeyPackageRefillReq, (handleKeypackageRefill crypto codec dht req nowMs).1 ≠ .appended →
      (handleKeypackageRefill crypto codec dht req nowMs).2.store.keypackage = dht.store.keypackage ∨
        ∃ pre rec post, req.records = pre ++ rec :: post ∧
          (∃ e, insertRecord crypto codec (insertLoop crypto codec KeyPackageRefillOutcome.staticFieldsConflict .badSig
            dht.store.keypackage pre).2 rec = .error e) ∧
          (handleKeypackageRefill crypto codec dht req nowMs).2.store.keypackage =
            (insertLoop crypto codec KeyPackageRefillOutcome.staticFieldsConflict .badSig dht.store.keypackage pre).2 := by
  constructor
  · intro req hfail
    rcases handleKeypackagePublish_cases crypto codec dht req nowMs with heq | ⟨-, -, hout, heq⟩
    · exact .inl heq
    -- past every check the answer is the insert loop's stop, so the loop stopped
    · have hstop : (insertLoop crypto codec KeyPackagePublishOutcome.staticFieldsConflict .badSig
          (dht.store.keypackage.eraseAll (absentKeys (iterateStash crypto codec dht req.ipk)
            (req.records.map (·.kpRef)))) req.records).1.isSome := by
        rw [hout] at hfail
        exact Option.isSome_iff_ne_none.2 fun hn => hfail (by rw [hn, Option.getD_none])
      obtain ⟨pre, rec, post, hsplit, herr, hks⟩ := insertLoop_stop hstop
      exact .inr ⟨pre, rec, post, hsplit, herr, heq.trans hks⟩
  · intro req hfail
    rcases handleKeypackageRefill_cases crypto codec dht req nowMs with heq | ⟨-, -, hout, heq⟩
    · exact .inl heq
    · have hstop : (insertLoop crypto codec KeyPackageRefillOutcome.staticFieldsConflict .badSig
          dht.store.keypackage req.records).1.isSome := by
        rw [hout] at hfail
        exact Option.isSome_iff_ne_none.2 fun hn => hfail (by rw [hn, Option.getD_none])
      obtain ⟨pre, rec, post, hsplit, herr, hks⟩ := insertLoop_stop hstop
      exact .inr ⟨pre, rec, post, hsplit, herr, heq.trans hks⟩

end Write

def indexCodec (recs : List KeyPackageRecord) : Codec KeyPackageRecord :=
  ⟨fun rec => (recs.idxOf? rec).map fun i => [UInt8.ofNat i], fun bytes =>
    match bytes with
    | [b] => recs[b.toNat]?
    | _ => none⟩

/-- A record of user `1…1` with `kp_ref` `r…r` and key package bytes `[b]`. -/
def userRecord (r b : UInt8) : KeyPackageRecord :=
  ⟨Bytes.replicate 32 1, List.replicate 32 r, [b], 1000, Bytes.replicate 64 0⟩

/-- Two records, then a re-made second record: same `kp_ref`, other bytes. -/
def rotationCodec : Codec KeyPackageRecord := indexCodec [userRecord 1 1, userRecord 2 2, userRecord 2 3]

def twoRecordDht : Dht :=
  (handleKeypackagePublish acceptingCrypto rotationCodec (Dht.new (Bytes.replicate 32 0) 0 Store.empty)
    ⟨(userRecord 1 1).ipk, [userRecord 1 1, userRecord 2 2], 0, Bytes.replicate 64 0⟩ 0).2

def rotationReq : KeyPackagePublishReq :=
  ⟨(userRecord 1 1).ipk, [userRecord 2 3], 0, Bytes.replicate 64 0⟩

theorem keypackage_write_failure_rotated :
    (handleKeypackagePublish acceptingCrypto rotationCodec twoRecordDht rotationReq 0).1 = .staticFieldsConflict ∧
      (handleKeypackagePublish acceptingCrypto rotationCodec twoRecordDht rotationReq 0).2.store.keypackage ≠
        twoRecordDht.store.keypackage ∧
      ∃ pre rec post, rotationReq.records = pre ++ rec :: post ∧
        (∃ e, insertRecord acceptingCrypto rotationCodec (insertLoop acceptingCrypto rotationCodec
          KeyPackagePublishOutcome.staticFieldsConflict .badSig (twoRecordDht.store.keypackage.eraseAll
            (absentKeys (iterateStash acceptingCrypto rotationCodec twoRecordDht rotationReq.ipk)
              (rotationReq.records.map (·.kpRef)))) pre).2 rec = .error e) ∧
        (handleKeypackagePublish acceptingCrypto rotationCodec twoRecordDht rotationReq 0).2.store.keypackage =
          (insertLoop acceptingCrypto rotationCodec KeyPackagePublishOutcome.staticFieldsConflict .badSig
            (twoRecordDht.store.keypackage.eraseAll (absentKeys (iterateStash acceptingCrypto rotationCodec
              twoRecordDht rotationReq.ipk) (rotationReq.records.map (·.kpRef)))) pre).2 := by
  have hout : (handleKeypackagePublish acceptingCrypto rotationCodec twoRecordDht rotationReq 0).1 =
      .staticFieldsConflict := by decide +kernel
  -- record `1` was evicted before the conflict stopped the insert loop
  have hafter : (handleKeypackagePublish acceptingCrypto rotationCodec twoRecordDht rotationReq 0).2.store.keypackage.rows.length =
      1 := by decide +kernel
  have hbefore : twoRecordDht.store.keypackage.rows.length = 2 := by decide +kernel
  have hne : (handleKeypackagePublish acceptingCrypto rotationCodec twoRecordDht rotationReq 0).2.store.keypackage ≠
      twoRecordDht.store.keypackage := fun h => by
    rw [h, hbefore] at hafter
    cases hafter
  exact ⟨hout, hne, ((keypackage_write_failure acceptingCrypto rotationCodec twoRecordDht 0).1 rotationReq
    (by rw [hout]; decide)).resolve_left hne⟩

section Pop

variable (selector : Bytes 32) (nowMs : UInt64)

theorem popLoop_toEvict (s : PopScan) (l : List (Bytes STORAGE_KEY_LEN × KeyPackageRecord)) :
    (popLoop selector nowMs s l).toEvict =
      s.toEvict ++ (l.filter fun e => decide (e.2.expiresAtMs ≤ nowMs)).map (·.1) := by
  induction l generalizing s with
  | nil => simp [popLoop]
  | cons e rest ih =>
      obtain ⟨key, rec⟩ := e
      by_cases hexp : rec.expiresAtMs ≤ nowMs
      · rw [popLoop, if_pos hexp, ih]
        simp [hexp]
      · rw [popLoop, if_neg hexp]
        split
        · dsimp only
          split <;> rw [ih] <;> simp [hexp]
        · rw [ih]
          simp [hexp]

theorem popLoop_popped_eq_none (s : PopScan) (l : List (Bytes STORAGE_KEY_LEN × KeyPackageRecord)) :
    (popLoop selector nowMs s l).popped = none ↔
      s.popped = none ∧ ∀ e ∈ l, nowMs < e.2.expiresAtMs → e.2.kpRef.length ≠ KP_REF_LEN := by
  induction l generalizing s with
  | nil => simp [popLoop]
  | cons e rest ih =>
      obtain ⟨key, rec⟩ := e
      rw [List.forall_mem_cons]
      by_cases hexp : rec.expiresAtMs ≤ nowMs
      · -- an expired record is only marked
        have hdead : ¬nowMs < rec.expiresAtMs := UInt64.not_lt.2 hexp
        rw [popLoop, if_pos hexp, ih]
        exact ⟨fun h => ⟨h.1, fun h' => absurd h' hdead, h.2⟩, fun h => ⟨h.1, h.2.2⟩⟩
      · have hlive : nowMs < rec.expiresAtMs := UInt64.not_le.1 hexp
        rw [popLoop, if_neg hexp]
        split
        · next h32 =>
          -- a poppable record: the loop pops something from here on
          dsimp only
          have hright : ¬(s.popped = none ∧ (nowMs < rec.expiresAtMs → rec.kpRef.length ≠ KP_REF_LEN) ∧
              ∀ e ∈ rest, nowMs < e.2.expiresAtMs → e.2.kpRef.length ≠ KP_REF_LEN) :=
            fun h => h.2.1 hlive h32
          split
          · exact iff_of_false (fun h => absurd ((ih _).1 h).1 (by simp)) hright
          · next hlose =>
            have hsome : s.popped ≠ none := fun hn => hlose (by simp [hn])
            exact iff_of_false (fun h => hsome ((ih _).1 h).1) hright
        · next h32 =>
          rw [ih]
          exact ⟨fun h => ⟨h.1, fun _ => h32, h.2⟩, fun h => ⟨h.1, h.2.2⟩⟩

theorem popLoop_popped_spec {s : PopScan} {l : List (Bytes STORAGE_KEY_LEN × KeyPackageRecord)}
    {p : Bytes STORAGE_KEY_LEN × KeyPackageRecord}
    (hs : ∀ q, s.popped = some q → s.bestDistance.1 = Bytes.xorBytes q.2.kpRef selector.1)
    (h : (popLoop selector nowMs s l).popped = some p) :
    (s.popped = some p ∨ p ∈ l ∧ nowMs < p.2.expiresAtMs) ∧
      (∀ q, s.popped = some q → Bytes.xorBytes p.2.kpRef selector.1 ≤ Bytes.xorBytes q.2.kpRef selector.1) ∧
      ∀ e ∈ l, nowMs < e.2.expiresAtMs → e.2.kpRef.length = KP_REF_LEN →
        Bytes.xorBytes p.2.kpRef selector.1 ≤ Bytes.xorBytes e.2.kpRef selector.1 := by
  induction l generalizing s with
  | nil =>
      rw [popLoop] at h
      refine ⟨.inl h, fun q hq => ?_, fun e he => absurd he List.not_mem_nil⟩
      rw [h] at hq
      cases hq
      exact List.le_refl _
  | cons e rest ih =>
      obtain ⟨key, rec⟩ := e
      by_cases hexp : rec.expiresAtMs ≤ nowMs
      · -- an expired record is only marked
        rw [popLoop, if_pos hexp] at h
        obtain ⟨hsrc, hprev, hrest⟩ := ih (s := { s with toEvict := s.toEvict ++ [key] }) hs h
        refine ⟨hsrc.imp id fun hm => ⟨List.mem_cons_of_mem _ hm.1, hm.2⟩, hprev, ?_⟩
        intro e he hlive hlen
        rcases List.mem_cons.1 he with rfl | he
        · exact absurd hexp (UInt64.not_le.2 hlive)
        · exact hrest e he hlive hlen
      · have hlive : nowMs < rec.expiresAtMs := UInt64.not_le.1 hexp
        rw [popLoop, if_neg hexp] at h
        split at h
        · next h32 =>
          dsimp only at h
          split at h
          · next hwin =>
            -- the record becomes the best so far
            obtain ⟨hsrc, hprev, hrest⟩ := ih (fun q hq => by cases hq; rfl) h
            have hle : Bytes.xorBytes p.2.kpRef selector.1 ≤ Bytes.xorBytes rec.kpRef selector.1 :=
              hprev (key, rec) rfl
            refine ⟨?_, fun q hq => ?_, fun e he hl hlen => ?_⟩
            · rcases hsrc with hsrc | hm
              · cases hsrc
                exact .inr ⟨List.mem_cons_self, hlive⟩
              · exact .inr ⟨List.mem_cons_of_mem _ hm.1, hm.2⟩
            · -- it beat the previous best
              have hlt : Bytes.xorBytes rec.kpRef selector.1 < Bytes.xorBytes q.2.kpRef selector.1 := by
                rcases Bool.or_eq_true_iff.1 hwin with hnone | hlt
                · rw [hq] at hnone
                  cases hnone
                · rw [← hs q hq]
                  exact of_decide_eq_true hlt
              exact List.le_of_lt (List.lt_of_le_of_lt hle hlt)
            · rcases List.mem_cons.1 he with rfl | he
              · exact hle
              · exact hrest e he hl hlen
          · next hlose =>
            -- the previous best was at least as close
            obtain ⟨hsrc, hprev, hrest⟩ := ih hs h
            obtain ⟨q, hq⟩ : ∃ q, s.popped = some q := by
              cases hp : s.popped with
              | none => simp [hp] at hlose
              | some q => exact ⟨q, rfl⟩
            have hbest : Bytes.xorBytes q.2.kpRef selector.1 ≤ Bytes.xorBytes rec.kpRef selector.1 := by
              rw [← hs q hq]
              exact fun hlt => hlose (Bool.or_eq_true_iff.2 (.inr (decide_eq_true hlt)))
            refine ⟨hsrc.imp id fun hm => ⟨List.mem_cons_of_mem _ hm.1, hm.2⟩, hprev, ?_⟩
            intro e he hl hlen
            rcases List.mem_cons.1 he with rfl | he
            · exact List.le_trans (hprev q hq) hbest
            · exact hrest e he hl hlen
        · next h32 =>
          obtain ⟨hsrc, hprev, hrest⟩ := ih hs h
          refine ⟨hsrc.imp id fun hm => ⟨List.mem_cons_of_mem _ hm.1, hm.2⟩, hprev, ?_⟩
          intro e he hl hlen
          rcases List.mem_cons.1 he with rfl | he
          · exact absurd hlen h32
          · exact hrest e he hl hlen

end Pop

section Fetch

variable {crypto : Crypto} {codec : Codec KeyPackageRecord}

def expiredKeys (stash : List (Bytes STORAGE_KEY_LEN × KeyPackageRecord)) (nowMs : UInt64) : List (List UInt8) :=
  (stash.filter fun e => decide (e.2.expiresAtMs ≤ nowMs)).map (·.1.1)

theorem eq_of_mem_iterateStash {dht : Dht} {ipk : Bytes 32} {e e' : Bytes STORAGE_KEY_LEN × KeyPackageRecord}
    (he : e ∈ iterateStash crypto codec dht ipk) (he' : e' ∈ iterateStash crypto codec dht ipk)
    (hkey : e.1 = e'.1) : e = e' := by
  obtain ⟨key, rec⟩ := e
  obtain ⟨key', rec'⟩ := e'
  obtain ⟨v, hv, hdec⟩ := row_of_mem_iterateStash he
  obtain ⟨v', hv', hdec'⟩ := row_of_mem_iterateStash he'
  dsimp only at hkey
  subst hkey
  -- one key holds one value, which decodes to one record
  have hvv : v = v' := congrArg Prod.snd (SortedMap.eq_of_mem_of_key_eq hv hv' rfl)
  rw [hvv, hdec'] at hdec
  cases hdec
  rfl

theorem mem_expiredKeys_iff {dht : Dht} {ipk : Bytes 32} {nowMs : UInt64}
    {e : Bytes STORAGE_KEY_LEN × KeyPackageRecord} (he : e ∈ iterateStash crypto codec dht ipk) :
    e.1.1 ∈ expiredKeys (iterateStash crypto codec dht ipk) nowMs ↔ e.2.expiresAtMs ≤ nowMs := by
  constructor
  · intro h
    obtain ⟨e', he', hkey⟩ := List.mem_map.1 h
    rw [List.mem_filter, decide_eq_true_eq] at he'
    rw [← eq_of_mem_iterateStash he'.1 he (Subtype.ext hkey)]
    exact he'.2
  · intro h
    exact List.mem_map_of_mem (List.mem_filter.2 ⟨he, decide_eq_true h⟩)

theorem iterateStash_of_rows_filter {dht₁ dht₂ : Dht} {p : List UInt8 → Bool}
    (h : dht₂.store.keypackage.rows = dht₁.store.keypackage.rows.filter fun r => p r.1) (ipk : Bytes 32) :
    iterateStash crypto codec dht₂ ipk = (iterateStash crypto codec dht₁ ipk).filter fun e => p e.1.1 := by
  unfold iterateStash Keyspace.prefixScan SortedMap.scan
  rw [h, List.filter_filterMap, List.filter_filter, List.filterMap_filter, List.filterMap_filter]
  refine List.filterMap_congr fun r _ => ?_
  -- the listing keeps a row's key, so filtering rows or entries by it agrees
  dsimp only
  by_cases hq : (stashPrefix crypto ipk).1.isPrefixOf r.1 = true
  · by_cases hlen : r.1.length = STORAGE_KEY_LEN
    · cases codec.deser r.2 <;> by_cases hp : p r.1 = true <;> simp [hq, hp, hlen, Option.filter]
    · simp [hlen]
  · simp [hq]

variable {dht dht' : Dht} {req : KeyPackageFetchReq} {peer : NodeId} {nowMs : UInt64}

theorem toEvict_popLoop_init (selector : Bytes 32) (stash : List (Bytes STORAGE_KEY_LEN × KeyPackageRecord)) :
    (popLoop selector nowMs PopScan.init stash).toEvict.map (·.1) = expiredKeys stash nowMs := by
  rw [popLoop_toEvict, expiredKeys, PopScan.init, List.nil_append, List.map_map]
  rfl

theorem handleKeypackageFetch_of_none (hbind : req.requesterRelayId = peer)
    (hskew : nowMs.absDiff req.timestamp ≤ MAX_KP_SKEW_MS)
    (hown : selfIsOwnerForStash crypto dht req.targetIpk = (true, dht'))
    (hnone : (popLoop (popSelector crypto req.requesterRelayId req.targetIpk) nowMs PopScan.init
      (iterateStash crypto codec dht req.targetIpk)).popped = none) :
    handleKeypackageFetch crypto codec true dht req peer nowMs =
      (.noStash, dht'.setKeypackage (dht.store.keypackage.eraseAll
        (expiredKeys (iterateStash crypto codec dht req.targetIpk) nowMs))) := by
  have hstore : dht'.store = dht.store := by
    simpa [hown] using selfIsOwnerForStash_store crypto dht req.targetIpk
  unfold handleKeypackageFetch handleKeypackageFetchWith
  rw [if_neg (not_not.2 hbind), if_neg (UInt64.not_lt.2 hskew), hown]
  dsimp only
  rw [iterateStash_of_store hstore, hnone, hstore, List.filter_true, toEvict_popLoop_init]
  rfl

theorem handleKeypackageFetch_of_some (hbind : req.requesterRelayId = peer)
    (hskew : nowMs.absDiff req.timestamp ≤ MAX_KP_SKEW_MS)
    (hown : selfIsOwnerForStash crypto dht req.targetIpk = (true, dht'))
    {key : Bytes STORAGE_KEY_LEN} {rec : KeyPackageRecord}
    (hsome : (popLoop (popSelector crypto req.requesterRelayId req.targetIpk) nowMs PopScan.init
      (iterateStash crypto codec dht req.targetIpk)).popped = some (key, rec)) :
    handleKeypackageFetch crypto codec true dht req peer nowMs =
      (.found ⟨rec, ((iterateStash crypto codec dht req.targetIpk).filter fun e =>
          decide (e.1.1 ∉ expiredKeys (iterateStash crypto codec dht req.targetIpk) nowMs) &&
            decide (e.1.1 ≠ key.1)).length.toUInt32, computeStaticHash crypto rec⟩,
        dht'.setKeypackage ((dht.store.keypackage.eraseAll
          (expiredKeys (iterateStash crypto codec dht req.targetIpk) nowMs)).erase key.1)) := by
  have hstore : dht'.store = dht.store := by
    simpa [hown] using selfIsOwnerForStash_store crypto dht req.targetIpk
  unfold handleKeypackageFetch handleKeypackageFetchWith
  rw [if_neg (not_not.2 hbind), if_neg (UInt64.not_lt.2 hskew), hown]
  dsimp only
  simp only [Bool.not_true, Bool.false_eq_true, ite_false, List.filter_true]
  rw [iterateStash_of_store hstore, hsome]
  dsimp only
  rw [if_pos trivial]
  rw [hstore, ← toEvict_popLoop_init (popSelector crypto req.requesterRelayId req.targetIpk)]
  -- the count tests keys as byte strings: the same test
  congr 5
  refine List.filter_congr fun e _ => ?_
  simp only [List.mem_map_of_injective Subtype.val_injective]
  by_cases hk : e.1 = key <;> simp [hk, Subtype.val_inj]

theorem kpRef_length_of_mem_iterateStash (hwf : StashWellFormed crypto codec dht.store.keypackage) {ipk : Bytes 32}
    {e : Bytes STORAGE_KEY_LEN × KeyPackageRecord} (he : e ∈ iterateStash crypto codec dht ipk) :
    e.2.kpRef.length = KP_REF_LEN := by
  obtain ⟨v, hv, hdec⟩ := row_of_mem_iterateStash he
  obtain ⟨rec, hdec', -, hlen, -⟩ := hwf.rows _ hv
  rw [hdec] at hdec'
  cases hdec'
  exact hlen

theorem length_iterateStash_le (hwf : StashWellFormed crypto codec dht.store.keypackage) (ipk : Bytes 32) :
    (iterateStash crypto codec dht ipk).length ≤ KP_STASH_TARGET :=
  Nat.le_trans (List.length_filterMap_le _ _) (hwf.capped ipk)

end Fetch

section FetchPop

variable (crypto : Crypto) (codec : Codec KeyPackageRecord) {dht : Dht}
  (hwf : StashWellFormed crypto codec dht.store.keypackage) (req : KeyPackageFetchReq) (peer : NodeId)
  (nowMs : UInt64)

include hwf in
theorem keypackage_fetch_pop (hbind : req.requesterRelayId = peer)
    (hskew : nowMs.absDiff req.timestamp ≤ MAX_KP_SKEW_MS)
    (howner : (selfIsOwnerForStash crypto dht req.targetIpk).1 = true) :
    ((∃ f, (handleKeypackageFetch crypto codec true dht req peer nowMs).1 = .found f) ↔
      ∃ e ∈ iterateStash crypto codec dht req.targetIpk, nowMs < e.2.expiresAtMs) ∧
    (∀ f, (handleKeypackageFetch crypto codec true dht req peer nowMs).1 = .found f →
      ∃ key, (key, f.record) ∈ iterateStash crypto codec dht req.targetIpk ∧ nowMs < f.record.expiresAtMs ∧
        (∀ e ∈ iterateStash crypto codec dht req.targetIpk, nowMs < e.2.expiresAtMs →
          Bytes.xorBytes f.record.kpRef (popSelector crypto req.requesterRelayId req.targetIpk).1 ≤
            Bytes.xorBytes e.2.kpRef (popSelector crypto req.requesterRelayId req.targetIpk).1) ∧
        (handleKeypackageFetch crypto codec true dht req peer nowMs).2.store.keypackage =
          (dht.store.keypackage.eraseAll (expiredKeys (iterateStash crypto codec dht req.targetIpk) nowMs)).erase
            key.1 ∧
        iterateStash crypto codec (handleKeypackageFetch crypto codec true dht req peer nowMs).2 req.targetIpk =
          (iterateStash crypto codec dht req.targetIpk).filter (fun e => nowMs < e.2.expiresAtMs ∧ e.1 ≠ key) ∧
        f.remaining.toNat =
          (iterateStash crypto codec (handleKeypackageFetch crypto codec true dht req peer nowMs).2 req.targetIpk).length) ∧
    ((∀ e ∈ iterateStash crypto codec dht req.targetIpk, e.2.expiresAtMs ≤ nowMs) →
      (handleKeypackageFetch crypto codec true dht req peer nowMs).1 = .noStash ∧
        (handleKeypackageFetch crypto codec true dht req peer nowMs).2.store.keypackage =
          dht.store.keypackage.eraseAll (expiredKeys (iterateStash crypto codec dht req.targetIpk) nowMs)) := by
  obtain ⟨dht', hown⟩ : ∃ dht', selfIsOwnerForStash crypto dht req.targetIpk = (true, dht') :=
    ⟨_, Prod.ext howner rfl⟩
  have hlen : ∀ e ∈ iterateStash crypto codec dht req.targetIpk, e.2.kpRef.length = KP_REF_LEN :=
    fun e he => kpRef_length_of_mem_iterateStash hwf he
  cases hp : (popLoop (popSelector crypto req.requesterRelayId req.targetIpk) nowMs PopScan.init
      (iterateStash crypto codec dht req.targetIpk)).popped with
  | none =>
      -- nothing poppable: every record of the stash has expired
      rw [handleKeypackageFetch_of_none hbind hskew hown hp]
      have hdead : ∀ e ∈ iterateStash crypto codec dht req.targetIpk, ¬nowMs < e.2.expiresAtMs :=
        fun e he hl => ((popLoop_popped_eq_none _ _ _ _).1 hp).2 e he hl (hlen e he)
      exact ⟨iff_of_false (fun ⟨_, hf⟩ => by simp at hf) (fun ⟨e, he, hl⟩ => hdead e he hl),
        fun _ hf => by simp at hf, fun _ => ⟨rfl, rfl⟩⟩
  | some p =>
      obtain ⟨key, rec⟩ := p
      rw [handleKeypackageFetch_of_some hbind hskew hown hp]
      obtain ⟨hsrc, -, hmin⟩ := popLoop_popped_spec _ _ (fun q hq => by simp [PopScan.init] at hq) hp
      have hmem := hsrc.resolve_left fun h => by simp [PopScan.init] at h
      -- what is left of the stash: the entries neither evicted nor popped
      have hafter : iterateStash crypto codec (dht'.setKeypackage ((dht.store.keypackage.eraseAll
            (expiredKeys (iterateStash crypto codec dht req.targetIpk) nowMs)).erase key.1)) req.targetIpk =
          (iterateStash crypto codec dht req.targetIpk).filter fun e =>
            decide (e.1.1 ∉ expiredKeys (iterateStash crypto codec dht req.targetIpk) nowMs) &&
              decide (e.1.1 ≠ key.1) :=
        iterateStash_of_rows_filter (p := fun k =>
            decide (k ∉ expiredKeys (iterateStash crypto codec dht req.targetIpk) nowMs) && decide (k ≠ key.1))
          (by
            rw [Dht.setKeypackage_keypackage, SortedMap.rows_erase, SortedMap.rows_eraseAll, List.filter_filter]
            exact List.filter_congr fun _ _ => Bool.eq_iff_iff.2 (by
              simp only [Bool.and_eq_true, decide_eq_true_eq]
              exact and_comm)) _
      have hleft : ((iterateStash crypto codec dht req.targetIpk).filter fun e =>
            decide (e.1.1 ∉ expiredKeys (iterateStash crypto codec dht req.targetIpk) nowMs) &&
              decide (e.1.1 ≠ key.1)) =
          (iterateStash crypto codec dht req.targetIpk).filter fun e => nowMs < e.2.expiresAtMs ∧ e.1 ≠ key := by
        refine List.filter_congr fun e he => ?_
        simp only [mem_expiredKeys_iff he, UInt64.not_le, ne_eq, Subtype.val_inj, Bool.decide_and]
      have hcount : ((iterateStash crypto codec dht req.targetIpk).filter fun e =>
            decide (e.1.1 ∉ expiredKeys (iterateStash crypto codec dht req.targetIpk) nowMs) &&
              decide (e.1.1 ≠ key.1)).length < UInt32.size :=
        Nat.lt_of_le_of_lt (Nat.le_trans (List.length_filter_le _ _) (length_iterateStash_le hwf _)) (by decide)
      refine ⟨iff_of_true ⟨_, rfl⟩ ⟨_, hmem.1, hmem.2⟩, fun f hf => ?_,
        fun hall => absurd (hall _ hmem.1) (UInt64.not_le.2 hmem.2)⟩
      cases hf
      exact ⟨key, hmem.1, hmem.2, fun e he hl => hmin e he hl (hlen e he), rfl, hafter.trans hleft,
        by rw [hafter]; exact UInt32.toNat_ofNat_of_lt' hcount⟩

end FetchPop

theorem keypackage_fetch_pop_sole :
    StashWellFormed acceptingCrypto soleRecordCodec soleStashDht.store.keypackage ∧
      (⟨List.replicate 32 9, by simp⟩ : NodeId) = ⟨List.replicate 32 9, by simp⟩ ∧
      (0 : UInt64).absDiff 0 ≤ MAX_KP_SKEW_MS ∧
      (selfIsOwnerForStash acceptingCrypto soleStashDht soleRecord.ipk).1 = true ∧
      ((∃ f, (handleKeypackageFetch acceptingCrypto soleRecordCodec true soleStashDht
          ⟨soleRecord.ipk, ⟨List.replicate 32 9, by simp⟩, 0⟩ ⟨List.replicate 32 9, by simp⟩ 0).1 = .found f) ↔
        ∃ e ∈ iterateStash acceptingCrypto soleRecordCodec soleStashDht soleRecord.ipk, 0 < e.2.expiresAtMs) := by
  have hwf : StashWellFormed acceptingCrypto soleRecordCodec soleStashDht.store.keypackage :=
    StashWellFormed.applyKpOp soleRecordCodec_roundTrip StashWellFormed.empty _
  have howner : (selfIsOwnerForStash acceptingCrypto soleStashDht soleRecord.ipk).1 = true := by decide +kernel
  exact ⟨hwf, rfl, by decide, howner, (keypackage_fetch_pop acceptingCrypto soleRecordCodec hwf
    ⟨soleRecord.ipk, ⟨List.replicate 32 9, by simp⟩, 0⟩ _ 0 rfl (by decide) howner).1⟩

end Kp

end Promtuz
