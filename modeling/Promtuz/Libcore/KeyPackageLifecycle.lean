import Promtuz.Relay.KeyPackageReplace
import Promtuz.Libcore.Delivery

/-! The KeyPackage lifecycle across the client and its home: the client's
`mls_keypackage_stash` (`unconsumed_records`, `ensure_stash_full`, `purge_invalid_records`,
`on_consumed`, `rotate_periodic`), the scheduler's `run_once` and `ensure_kp_published`,
which publish snapshots through `publish_kp_batch` and the durable outbox, the reconciler's
replay of a pending `KpPublish` row, and the home's `handle_keypackage_publish` and
`handle_keypackage_fetch` on `dht_keypackage`.

One home stands for the relay's fan-out, so a publish meets its quorum when that home stores
it. Times are below `2^63`, where the stash's `i64` columns and the `u64` clock agree. -/

namespace Promtuz

def KP_STASH_LOW_WATER : Nat := 20

def KP_SCHEDULED_ROTATION_MS : UInt64 := 7 * 24 * 3600000

namespace KpLifecycle

open Kp Delivery

/-- A `mls_keypackage_stash` row, keyed by `kp_ref`. Every row here carries the record its
`record_blob` decodes to; legacy rows minted before that column are left out. -/
structure StashRow where
  kpRef : List UInt8
  generatedAtMs : UInt64
  expiresAtMs : UInt64
  consumed : Bool
  record : KeyPackageRecord
  deriving DecidableEq

/-- `consumed = 0 AND expires_at_ms > now_ms`. -/
def StashRow.live (nowMs : UInt64) (r : StashRow) : Bool :=
  !r.consumed && decide (nowMs < r.expiresAtMs)

/-- What the client's MLS provider and identity key do, as the lifecycle sees them: `mint n
nowMs` is the `n`-th record `generate_one` mints (its `kp_ref`, expiry and `owner_sig`),
`declaresGroupMeta` reads a KeyPackage's capabilities, and `sign` is the identity key. -/
structure Keys where
  mint : Nat → UInt64 → KeyPackageRecord
  declaresGroupMeta : List UInt8 → Bool
  sign : List UInt8 → Bytes 64

/-- `count_unconsumed_in_lifetime`. -/
def countUnconsumedInLifetime (stash : List StashRow) (nowMs : UInt64) : Nat :=
  (stash.filter (StashRow.live nowMs)).length

/-- `should_refill`. -/
def shouldRefill (stash : List StashRow) (nowMs : UInt64) : Bool :=
  decide (countUnconsumedInLifetime stash nowMs < KP_STASH_LOW_WATER)

/-- `unconsumed_records`: the live rows, newest first, at most `KP_STASH_TARGET` of them. -/
def unconsumedRecords (stash : List StashRow) (nowMs : UInt64) : List KeyPackageRecord :=
  (((stash.filter (StashRow.live nowMs)).insertionSort fun a b => b.generatedAtMs ≤ a.generatedAtMs).take
    KP_STASH_TARGET).map (·.record)

/-- `should_rotate`: the oldest live row is at least `KP_SCHEDULED_ROTATION_MS` old. -/
def shouldRotate (stash : List StashRow) (nowMs : UInt64) : Bool :=
  match ((stash.filter (StashRow.live nowMs)).map (·.generatedAtMs)).min? with
  | some g => decide (KP_SCHEDULED_ROTATION_MS ≤ nowMs.saturatingSub g)
  | none => false

/-- The row `generate_one` writes for a record it minted, by `INSERT OR REPLACE` on `kp_ref`. -/
def insertOrReplace (stash : List StashRow) (nowMs : UInt64) (rec : KeyPackageRecord) : List StashRow :=
  stash.filter (fun r => r.kpRef != rec.kpRef) ++ [⟨rec.kpRef, nowMs, rec.expiresAtMs, false, rec⟩]

/-- The records of `n` calls of `generate_one`, from the client's `minted`-th key on. -/
def mintBatch (keys : Keys) (minted n : Nat) (nowMs : UInt64) : List KeyPackageRecord :=
  (List.range n).map fun i => keys.mint (minted + i) nowMs

/-- `on_consumed`: a `kp_ref` the stash does not hold is a no-op. -/
def onConsumed (stash : List StashRow) (kpRef : List UInt8) : List StashRow :=
  stash.map fun r => if r.kpRef = kpRef then { r with consumed := true } else r

/-- The client's stash and `KpPublish` outbox rows, its home, and two ghost fields: how many
keys the client has minted, which indexes `Keys.mint`, and every `kp_ref` the home's fetches
have handed out, in order. -/
structure Lifecycle where
  stash : List StashRow
  minted : Nat
  outbox : List OutboxRow
  home : Dht
  handedOut : List (List UInt8)

def Lifecycle.init (home : Dht) : Lifecycle := ⟨[], 0, [], home, []⟩

section Client

variable (crypto : Crypto) (codec : Codec KeyPackageRecord) (batchCodec : Codec (List KeyPackageRecord))
  (keys : Keys) (ipk : Bytes 32)

/-- `ensure_stash_full`: mint up to `KP_STASH_TARGET` live rows. -/
def ensureStashFull (s : Lifecycle) (nowMs : UInt64) : Lifecycle :=
  let toMint := KP_STASH_TARGET - countUnconsumedInLifetime s.stash nowMs
  { s with
    stash := (mintBatch keys s.minted toMint nowMs).foldl (fun st rec => insertOrReplace st nowMs rec) s.stash
    minted := s.minted + toMint }

/-- `rotate_periodic`: mint a full batch and drop every unconsumed row it supersedes. -/
def rotatePeriodic (s : Lifecycle) (nowMs : UInt64) : List KeyPackageRecord × Lifecycle :=
  if !shouldRotate s.stash nowMs then ([], s)
  else
    -- the sweep is read before minting, so the new rows are not in it
    let superseded := (s.stash.filter fun r => !r.consumed).map (·.kpRef)
    let out := mintBatch keys s.minted KP_STASH_TARGET nowMs
    let stash := out.foldl (fun st rec => insertOrReplace st nowMs rec) s.stash
    (out, { s with
      stash := stash.filter fun r => !superseded.contains r.kpRef
      minted := s.minted + KP_STASH_TARGET })

/-- `purge_invalid_records`: drop the live rows whose `owner_sig` fails under the current wire
version or whose KeyPackage declares no group metadata. -/
def purgeInvalidRecords (s : Lifecycle) (nowMs : UInt64) : Lifecycle :=
  let stale := (s.stash.filter fun r =>
    r.live nowMs && (!ownerSigOk crypto r.record || !keys.declaresGroupMeta r.record.kpBytes)).map (·.kpRef)
  { s with stash := s.stash.filter fun r => !stale.contains r.kpRef }

/-- The request `publish_inner` sends in `Publish` mode, signed at `nowMs`. -/
def publishReq (records : List KeyPackageRecord) (nowMs : UInt64) : KeyPackagePublishReq :=
  ⟨ipk, records, nowMs, keys.sign (kpPublishSigningInput MLS_WIRE_VERSION ipk
    (kpPublishRecordsDigest crypto MLS_WIRE_VERSION records) records.length.toUInt32 nowMs)⟩

/-- One `publish_keypackages` call. When it reaches the home, the home handles the snapshot;
the client sees `Ok` when the home stored it and the answer came back. -/
def publishKeypackages (s : Lifecycle) (records : List KeyPackageRecord) (nowMs : UInt64)
    (reached answered : Bool) : Bool × Lifecycle :=
  if reached then
    let (outcome, home) := handleKeypackagePublish crypto codec s.home (publishReq crypto keys ipk records nowMs) nowMs
    (answered && outcome == .stored, { s with home := home })
  else (false, s)

/-- `publish_kp_batch`: enqueue the batch under its `kp_id`, publish it, and retire the row
on `Ok`; on an error the row stays for the reconciler. -/
def publishKpBatch (s : Lifecycle) (records : List KeyPackageRecord) (nowMs : UInt64) (reached answered : Bool) :
    Lifecycle :=
  if records.isEmpty then s
  else
    match batchCodec.ser records with
    | none => s
    | some payload =>
        let kpId := (crypto.blake3 payload).1.take 16
        let s := { s with outbox := enqueue s.outbox kpId .kpPublish none payload nowMs }
        let (ok, s) := publishKeypackages crypto codec keys ipk s records nowMs reached answered
        if ok then { s with outbox := retire s.outbox kpId none } else s

/-- `run_once`: refill below low water, else rotate when due, publishing the snapshot. -/
def runOnce (s : Lifecycle) (nowMs : UInt64) (reached answered : Bool) : Lifecycle :=
  if shouldRefill s.stash nowMs then
    let s := ensureStashFull keys s nowMs
    -- the full snapshot, not the delta: a publish replaces the home's stash
    let recs := unconsumedRecords s.stash nowMs
    if recs.isEmpty then s else publishKpBatch crypto codec batchCodec keys ipk s recs nowMs reached answered
  else if shouldRotate s.stash nowMs then
    let (recs, s) := rotatePeriodic keys s nowMs
    if recs.isEmpty then s else publishKpBatch crypto codec batchCodec keys ipk s recs nowMs reached answered
  else s

/-- `ensure_kp_published`, on every connect: purge, fill, and publish the snapshot. -/
def ensureKpPublished (s : Lifecycle) (nowMs : UInt64) (reached answered : Bool) : Lifecycle :=
  let s := ensureStashFull keys (purgeInvalidRecords crypto keys s nowMs) nowMs
  publishKpBatch crypto codec batchCodec keys ipk s (unconsumedRecords s.stash nowMs) nowMs reached answered

/-- One turn of `reconcile`, on the oldest due row. A payload that does not decode is
retired; an `Ok` publish is `Durable` and retires the row; an error is `Reachable`, which
reschedules it. -/
def replayNext (s : Lifecycle) (nowMs : UInt64) (reached answered : Bool) : Lifecycle :=
  match due s.outbox nowMs with
  | [] => s
  | row :: _ =>
      match batchCodec.deser row.payload with
      | none => { s with outbox := retire s.outbox row.id row.targetIpk }
      | some recs =>
          let (ok, s) := publishKeypackages crypto codec keys ipk s recs nowMs reached answered
          match classify row.opType (if ok then .durable else .reachable) row.attempts
              (nowMs.saturatingSub row.createdAt) with
          | .retire => { s with outbox := retire s.outbox row.id row.targetIpk }
          | .dead => { s with outbox := markDead s.outbox row.id row.targetIpk }
          | .keepRetrying =>
              { s with outbox := recordAttempt s.outbox row.id row.targetIpk (nowMs + nextBackoff row.attempts) }

/-- A peer relay's fetch of the client's KeyPackage, over a connection authenticated as
`requester`; the home hands out what it pops. -/
def fetch (s : Lifecycle) (requester : NodeId) (limiterOk : Bool) (nowMs : UInt64) : Lifecycle :=
  let (outcome, home) := handleKeypackageFetch crypto codec limiterOk s.home ⟨ipk, requester, nowMs⟩ requester nowMs
  match outcome with
  | .found f => { s with home := home, handedOut := s.handedOut ++ [f.record.kpRef] }
  | _ => { s with home := home }

/-- The lifecycle's events. A `consumed` event is the Welcome-receipt path's `on_consumed`,
which only a peer that fetched the `kp_ref` can cause. -/
inductive Event where
  | runOnce (nowMs : UInt64) (reached answered : Bool)
  | connect (nowMs : UInt64) (reached answered : Bool)
  | replay (nowMs : UInt64) (reached answered : Bool)
  | consumed (kpRef : List UInt8)
  | fetch (requester : NodeId) (limiterOk : Bool) (nowMs : UInt64)

def step (s : Lifecycle) : Event → Lifecycle
  | .runOnce nowMs reached answered => runOnce crypto codec batchCodec keys ipk s nowMs reached answered
  | .connect nowMs reached answered => ensureKpPublished crypto codec batchCodec keys ipk s nowMs reached answered
  | .replay nowMs reached answered => replayNext crypto codec batchCodec keys ipk s nowMs reached answered
  | .consumed kpRef => if kpRef ∈ s.handedOut then { s with stash := onConsumed s.stash kpRef } else s
  | .fetch requester limiterOk nowMs => fetch crypto codec ipk s requester limiterOk nowMs

end Client

/-- The client half of `ensure_kp_published`: the stash after the purge and the fill. -/
def preparedStash (crypto : Crypto) (keys : Keys) (s : Lifecycle) (nowMs : UInt64) : Lifecycle :=
  ensureStashFull keys (purgeInvalidRecords crypto keys s nowMs) nowMs

/-- The snapshot `ensure_kp_published` publishes at `nowMs`. -/
def snapshot (crypto : Crypto) (keys : Keys) (s : Lifecycle) (nowMs : UInt64) : List KeyPackageRecord :=
  unconsumedRecords (preparedStash crypto keys s nowMs).stash nowMs

def reconnectBeforeWelcome (requester : NodeId) (nowMs : UInt64) : List Event :=
  [.connect nowMs true true, .fetch requester true nowMs, .connect nowMs true true]

section Frame

variable {crypto : Crypto} {codec : Codec KeyPackageRecord} {batchCodec : Codec (List KeyPackageRecord)}
  {keys : Keys} {ipk : Bytes 32}

theorem ensureKpPublished_eq (s : Lifecycle) (nowMs : UInt64) (reached answered : Bool) :
    ensureKpPublished crypto codec batchCodec keys ipk s nowMs reached answered =
      publishKpBatch crypto codec batchCodec keys ipk (preparedStash crypto keys s nowMs)
        (snapshot crypto keys s nowMs) nowMs reached answered := rfl

@[simp] theorem preparedStash_home (s : Lifecycle) (nowMs : UInt64) :
    (preparedStash crypto keys s nowMs).home = s.home := rfl

@[simp] theorem preparedStash_outbox (s : Lifecycle) (nowMs : UInt64) :
    (preparedStash crypto keys s nowMs).outbox = s.outbox := rfl

@[simp] theorem preparedStash_handedOut (s : Lifecycle) (nowMs : UInt64) :
    (preparedStash crypto keys s nowMs).handedOut = s.handedOut := rfl

theorem preparedStash_congr {s s' : Lifecycle} (hstash : s.stash = s'.stash) (hminted : s.minted = s'.minted)
    (nowMs : UInt64) :
    (preparedStash crypto keys s nowMs).stash = (preparedStash crypto keys s' nowMs).stash ∧
      (preparedStash crypto keys s nowMs).minted = (preparedStash crypto keys s' nowMs).minted := by
  simp only [preparedStash, ensureStashFull, purgeInvalidRecords, hstash, hminted, and_self]

theorem fetch_cases (s : Lifecycle) (requester : NodeId) (limiterOk : Bool) (nowMs : UInt64) :
    ∃ handedOut, fetch crypto codec ipk s requester limiterOk nowMs =
      { s with home := (handleKeypackageFetch crypto codec limiterOk s.home ⟨ipk, requester, nowMs⟩ requester
        nowMs).2, handedOut := handedOut } := by
  unfold fetch
  generalize handleKeypackageFetch crypto codec limiterOk s.home ⟨ipk, requester, nowMs⟩ requester nowMs = r
  obtain ⟨outcome, home⟩ := r
  cases outcome <;> exact ⟨_, rfl⟩

@[simp] theorem fetch_stash (s : Lifecycle) (requester : NodeId) (limiterOk : Bool) (nowMs : UInt64) :
    (fetch crypto codec ipk s requester limiterOk nowMs).stash = s.stash := by
  obtain ⟨_, h⟩ := @fetch_cases crypto codec ipk s requester limiterOk nowMs
  rw [h]

@[simp] theorem fetch_minted (s : Lifecycle) (requester : NodeId) (limiterOk : Bool) (nowMs : UInt64) :
    (fetch crypto codec ipk s requester limiterOk nowMs).minted = s.minted := by
  obtain ⟨_, h⟩ := @fetch_cases crypto codec ipk s requester limiterOk nowMs
  rw [h]

@[simp] theorem fetch_outbox (s : Lifecycle) (requester : NodeId) (limiterOk : Bool) (nowMs : UInt64) :
    (fetch crypto codec ipk s requester limiterOk nowMs).outbox = s.outbox := by
  obtain ⟨_, h⟩ := @fetch_cases crypto codec ipk s requester limiterOk nowMs
  rw [h]

theorem fetch_home (s : Lifecycle) (requester : NodeId) (limiterOk : Bool) (nowMs : UInt64) :
    (fetch crypto codec ipk s requester limiterOk nowMs).home =
      (handleKeypackageFetch crypto codec limiterOk s.home ⟨ipk, requester, nowMs⟩ requester nowMs).2 := by
  obtain ⟨_, h⟩ := @fetch_cases crypto codec ipk s requester limiterOk nowMs
  rw [h]

theorem fetch_handedOut_of_found {s : Lifecycle} {requester : NodeId} {limiterOk : Bool} {nowMs : UInt64}
    {f : KeyPackageFetchFound}
    (h : (handleKeypackageFetch crypto codec limiterOk s.home ⟨ipk, requester, nowMs⟩ requester nowMs).1 = .found f) :
    (fetch crypto codec ipk s requester limiterOk nowMs).handedOut = s.handedOut ++ [f.record.kpRef] := by
  unfold fetch
  generalize handleKeypackageFetch crypto codec limiterOk s.home ⟨ipk, requester, nowMs⟩ requester nowMs = r at h
  obtain ⟨outcome, home⟩ := r
  cases h
  rfl

end Frame

section Republish

variable {crypto : Crypto} {codec : Codec KeyPackageRecord} {batchCodec : Codec (List KeyPackageRecord)}
  {keys : Keys} {ipk : Bytes 32}

theorem publishKpBatch_of_stored {s : Lifecycle} {records : List KeyPackageRecord} {nowMs : UInt64}
    {payload : List UInt8} (hne : records ≠ []) (hser : batchCodec.ser records = some payload)
    (hst : (handleKeypackagePublish crypto codec s.home (publishReq crypto keys ipk records nowMs) nowMs).1 =
      .stored) :
    publishKpBatch crypto codec batchCodec keys ipk s records nowMs true true =
      { s with
        outbox := retire (enqueue s.outbox ((crypto.blake3 payload).1.take 16) OpType.kpPublish none payload nowMs)
          ((crypto.blake3 payload).1.take 16) none
        home := (handleKeypackagePublish crypto codec s.home (publishReq crypto keys ipk records nowMs) nowMs).2 } := by
  have hempty : records.isEmpty = false := List.isEmpty_eq_false_iff.2 hne
  unfold publishKpBatch publishKeypackages
  rw [hempty, hser]
  dsimp only
  generalize handleKeypackagePublish crypto codec s.home (publishReq crypto keys ipk records nowMs) nowMs = r at hst ⊢
  obtain ⟨outcome, home⟩ := r
  cases hst
  rfl

theorem retire_enqueue_nil (id : List UInt8) (op : OpType) (payload : List UInt8) (nowMs : UInt64) :
    retire (enqueue [] id op none payload nowMs) id none = [] := by
  simp [retire, enqueue, Table.delete, outboxKey]

theorem connect_of_stored {s : Lifecycle} {t : UInt64} (hidle : s.outbox = [])
    (hne : snapshot crypto keys s t ≠ []) (hser : (batchCodec.ser (snapshot crypto keys s t)).isSome)
    (hst : (handleKeypackagePublish crypto codec s.home (publishReq crypto keys ipk (snapshot crypto keys s t) t)
      t).1 = .stored) :
    step crypto codec batchCodec keys ipk s (.connect t true true) =
      { preparedStash crypto keys s t with
        home := (handleKeypackagePublish crypto codec s.home (publishReq crypto keys ipk (snapshot crypto keys s t) t)
          t).2 } := by
  obtain ⟨payload, hpay⟩ := Option.isSome_iff_exists.1 hser
  show ensureKpPublished crypto codec batchCodec keys ipk s t true true = _
  rw [ensureKpPublished_eq, publishKpBatch_of_stored (s := preparedStash crypto keys s t) hne hpay hst]
  simp [hidle, retire_enqueue_nil]

theorem consumed_of_mem_onConsumed {stash : List StashRow} {kpRef : List UInt8} {r : StashRow}
    (hr : r ∈ onConsumed stash kpRef) (hk : r.kpRef = kpRef) : r.consumed = true := by
  obtain ⟨r0, -, rfl⟩ := List.mem_map.1 hr
  split_ifs at hk ⊢ with h
  · rfl
  · exact absurd hk h

/-- A snapshot the home stores, a peer's fetch, and a reconnect before the peer's Welcome
arrives: the republish restores the popped record, so the home hands the same `kp_ref` out a
second time, and once the Welcome marks it consumed the home still holds it with no publish
pending. -/
theorem keypackage_republish_hands_out_twice (hrt : codec.RoundTrip) {s : Lifecycle} {t : UInt64}
    (hwf : StashWellFormed crypto codec s.home.store.keypackage) (hidle : s.outbox = [])
    (hne : snapshot crypto keys s t ≠ []) (hser : (batchCodec.ser (snapshot crypto keys s t)).isSome)
    (hnd : ((snapshot crypto keys s t).map (·.kpRef)).Nodup)
    (hsettled : snapshot crypto keys (preparedStash crypto keys s t) t = snapshot crypto keys s t)
    (hst : (handleKeypackagePublish crypto codec s.home (publishReq crypto keys ipk (snapshot crypto keys s t) t)
      t).1 = .stored)
    (hlive : ∃ rec ∈ snapshot crypto keys s t, t < rec.expiresAtMs ∧ rec.kpRef.length = KP_REF_LEN)
    (requester : NodeId) :
    ∃ kpRef,
      ((reconnectBeforeWelcome requester t ++ [Event.fetch requester true t]).foldl
        (step crypto codec batchCodec keys ipk) s).handedOut = s.handedOut ++ [kpRef, kpRef] ∧
      let s' := (reconnectBeforeWelcome requester t ++ [Event.consumed kpRef]).foldl (step crypto codec batchCodec keys ipk) s
      s'.outbox = [] ∧ (∃ e ∈ iterateStash crypto codec s'.home ipk, e.2.kpRef = kpRef) ∧
        ∀ r ∈ s'.stash, r.kpRef = kpRef → r.consumed = true := by
  -- the home the first publish leaves, and the record a fetch there pops
  obtain ⟨h1, hh1⟩ : ∃ h1, (handleKeypackagePublish crypto codec s.home
      (publishReq crypto keys ipk (snapshot crypto keys s t) t) t).2 = h1 := ⟨_, rfl⟩
  have hown : (selfIsOwnerForStash crypto h1 ipk).1 = true := by
    have h := selfIsOwnerForStash_of_stored hst hne h1.store.keypackage
    rw [hh1, Dht.setKeypackage_self] at h
    exact congrArg Prod.fst h
  obtain ⟨rec, hrec, hexp, hlen⟩ := hlive
  obtain ⟨e, he, rfl⟩ := exists_iterateStash_of_stored crypto codec s.home hrt _ t hst rec hrec
  rw [hh1] at he
  have hskew : t.absDiff t ≤ MAX_KP_SKEW_MS := by simp [UInt64.absDiff]
  obtain ⟨f, hfound⟩ : ∃ f, (handleKeypackageFetch crypto codec true h1 ⟨ipk, requester, t⟩ requester t).1 = .found f :=
    handleKeypackageFetch_found_of rfl hskew hown rfl ⟨e, he, hexp, hlen⟩
  refine ⟨f.record.kpRef, ?_⟩
  -- the first connect, and the fetch after it
  have hc1 : step crypto codec batchCodec keys ipk s (.connect t true true) = _ := connect_of_stored hidle hne hser hst
  rw [hh1] at hc1
  obtain ⟨s2, hs2⟩ : ∃ s2, step crypto codec batchCodec keys ipk
      (step crypto codec batchCodec keys ipk s (.connect t true true)) (.fetch requester true t) = s2 := ⟨_, rfl⟩
  rw [hc1] at hs2
  have hstash2 : s2.stash = (preparedStash crypto keys s t).stash := by rw [← hs2]; exact fetch_stash ..
  have hminted2 : s2.minted = (preparedStash crypto keys s t).minted := by rw [← hs2]; exact fetch_minted ..
  have hidle2 : s2.outbox = [] := by rw [← hs2]; exact (fetch_outbox ..).trans hidle
  have hhanded2 : s2.handedOut = s.handedOut ++ [f.record.kpRef] := by
    rw [← hs2]; exact fetch_handedOut_of_found hfound
  have hhome2 : s2.home = (handleKeypackageFetch crypto codec true h1 ⟨ipk, requester, t⟩ requester t).2 := by
    rw [← hs2]; exact fetch_home ..
  -- the reconnect publishes the same snapshot onto the trimmed home, which restores `h1`
  have hsnap2 : snapshot crypto keys s2 t = snapshot crypto keys s t := by
    rw [← hsettled]
    unfold snapshot
    rw [(preparedStash_congr hstash2 hminted2 t).1]
  have htrim : Trimmed crypto h1 (snapshot crypto keys s t) s2.home := by
    rw [hhome2, ← hh1]
    exact Trimmed.fetch hrt hwf hst hne (Trimmed.refl _ _) true rfl requester t
  have hsig := (handleKeypackagePublish_home_of_stored hst hne).2.1
  have hver := ((handleKeypackagePublish_of_stored crypto codec s.home _ t hst).resolve_left hne).1
  have hpub2 : handleKeypackagePublish crypto codec s2.home
      (publishReq crypto keys ipk (snapshot crypto keys s2 t) t) t = (.stored, h1) := by
    rw [hsnap2, ← hh1]
    exact publish_of_trimmed hrt hwf hst hne hnd (hh1 ▸ htrim) rfl rfl hsig hver
  have hc3 : step crypto codec batchCodec keys ipk s2 (.connect t true true) = _ := connect_of_stored hidle2
    (hsnap2 ▸ hne) (hsnap2 ▸ hser) (by rw [hpub2])
  rw [hpub2] at hc3
  simp only [reconnectBeforeWelcome, List.cons_append, List.nil_append, List.foldl_cons, List.foldl_nil]
  rw [hc1, hs2, hc3]
  -- the Welcome's `kp_ref` is one the home handed out, so the consumed event is enabled
  have hin : f.record.kpRef ∈ (preparedStash crypto keys s2 t).handedOut := by simp [hhanded2]
  refine ⟨?_, ?_, ?_, ?_⟩
  · -- the same fetch at the same home pops the same record
    simp only [step]
    rw [fetch_handedOut_of_found (s := { preparedStash crypto keys s2 t with home := h1 }) hfound]
    simp [hhanded2]
  · simp only [step, if_pos hin]
    exact hidle2
  · obtain ⟨key, hmem, -⟩ := handleKeypackageFetchWith_found hfound
    simp only [step, if_pos hin]
    exact ⟨(key, f.record), hmem, rfl⟩
  · simp only [step, if_pos hin]
    exact fun r hr hk => consumed_of_mem_onConsumed hr hk

end Republish

def sampleIpk : Bytes 32 := Bytes.replicate 32 1

/-- The `n`-th record the sample client mints: its `kp_ref` leads with `n`. -/
def sampleRecord (n : UInt8) : KeyPackageRecord :=
  ⟨sampleIpk, n :: List.replicate 31 0, [3], KEYPACKAGE_LIFETIME_MS, Bytes.replicate 64 0⟩

/-- Encodes a sample record as its leading `kp_ref` byte. -/
def sampleCodec : Codec KeyPackageRecord :=
  ⟨fun rec => match rec.kpRef with
    | n :: _ => if rec = sampleRecord n then some [n] else none
    | [] => none,
   fun bytes => match bytes with
    | [n] => some (sampleRecord n)
    | _ => none⟩

def sampleBatchCodec : Codec (List KeyPackageRecord) :=
  ⟨fun recs => some (recs.map fun rec => rec.kpRef.headD 0), fun bytes => some (bytes.map sampleRecord)⟩

def sampleKeys : Keys := ⟨fun n _ => sampleRecord n.toUInt8, fun _ => true, fun _ => (Bytes.replicate 64 0)⟩

def sampleHome : Dht := Dht.new (Bytes.replicate 32 0) 0 Store.empty

def sampleRelay : NodeId := Bytes.replicate 32 9

theorem sampleCodec_roundTrip : sampleCodec.RoundTrip := by
  intro rec bytes h
  simp only [sampleCodec] at h
  split at h
  · next n _ hk =>
    split_ifs at h with heq
    cases h
    exact heq ▸ rfl
  · cases h

theorem sampleCodec_ser (n : UInt8) : sampleCodec.ser (sampleRecord n) = some [n] := by
  simp [sampleCodec, sampleRecord]

theorem verifyRecord_sampleRecord (n : UInt8) : verifyRecord constCrypto (sampleRecord n) 0 = .ok () := by
  have hexp : ¬KEYPACKAGE_LIFETIME_MS ≤ 0 := by decide
  have hcap : ¬(UInt64.saturatingAdd 0 KEYPACKAGE_LIFETIME_MS).saturatingAdd MAX_KP_SKEW_MS < KEYPACKAGE_LIFETIME_MS := by
    decide
  simp [verifyRecord, sampleRecord, ownerSigOk, constCrypto, KP_REF_LEN, hexp, hcap]

theorem snapshot_sample :
    snapshot constCrypto sampleKeys (Lifecycle.init sampleHome) 0 = (List.range 100).map fun n => sampleRecord n.toUInt8 := by
  decide +kernel

theorem sampleHome_owner : (selfIsOwnerForStash constCrypto sampleHome sampleIpk).1 = true := by
  decide +kernel

set_option maxRecDepth 10000 in
theorem sample_nodup : (((List.range 100).map fun n => sampleRecord n.toUInt8).map (·.kpRef)).Nodup := by
  decide +kernel

theorem sample_stored :
    (handleKeypackagePublish constCrypto sampleCodec sampleHome
      (publishReq constCrypto sampleKeys sampleIpk (snapshot constCrypto sampleKeys (Lifecycle.init sampleHome) 0) 0) 0).1 =
      .stored := by
  have hrecs : ∀ rec ∈ (publishReq constCrypto sampleKeys sampleIpk
      (snapshot constCrypto sampleKeys (Lifecycle.init sampleHome) 0) 0).records, ∃ n, rec = sampleRecord n := by
    rw [publishReq, snapshot_sample]
    simp
  obtain ⟨ks, heq, -⟩ := @handleKeypackagePublish_of_agrees constCrypto sampleCodec sampleHome
    (publishReq constCrypto sampleKeys sampleIpk (snapshot constCrypto sampleKeys (Lifecycle.init sampleHome) 0) 0) 0
    (by rw [publishReq, snapshot_sample]; simp [KP_STASH_TARGET])
    (by rw [publishReq, snapshot_sample]; simp)
    (by simp [verifyOuterSig, publishReq, constCrypto, UInt64.absDiff])
    sampleHome_owner
    (verifyLoop_of_forall fun rec hrec => by
      obtain ⟨n, rfl⟩ := hrecs rec hrec
      exact ⟨rfl, verifyRecord_sampleRecord n⟩)
    (by rw [publishReq, snapshot_sample]; exact sample_nodup)
    (fun rec hrec => by
      obtain ⟨n, rfl⟩ := hrecs rec hrec
      refine ⟨(recordKey constCrypto (sampleRecord n), [n]), ⟨sampleCodec_ser n, rfl, ?_⟩, ?_⟩
      · simp [sampleRecord, KP_REF_LEN]
      · simp [sampleHome, Dht.new, Store.empty, SortedMap.empty])
  rw [heq]

/-- A fresh client at time 0 beside an empty home: its connect publishes a hundred records, a
relay fetches one, and after the reconnect the same relay is handed the same `kp_ref` again. -/
theorem keypackage_republish_hands_out_twice_sample :
    snapshot constCrypto sampleKeys (preparedStash constCrypto sampleKeys (Lifecycle.init sampleHome) 0) 0 =
        snapshot constCrypto sampleKeys (Lifecycle.init sampleHome) 0 ∧
      (handleKeypackagePublish constCrypto sampleCodec sampleHome (publishReq constCrypto sampleKeys sampleIpk
        (snapshot constCrypto sampleKeys (Lifecycle.init sampleHome) 0) 0) 0).1 = .stored ∧
      ∃ kpRef,
        ((reconnectBeforeWelcome sampleRelay 0 ++ [Event.fetch sampleRelay true 0]).foldl
          (step constCrypto sampleCodec sampleBatchCodec sampleKeys sampleIpk) (Lifecycle.init sampleHome)).handedOut =
            (Lifecycle.init sampleHome).handedOut ++ [kpRef, kpRef] ∧
        let s' := (reconnectBeforeWelcome sampleRelay 0 ++ [Event.consumed kpRef]).foldl
          (step constCrypto sampleCodec sampleBatchCodec sampleKeys sampleIpk) (Lifecycle.init sampleHome)
        s'.outbox = [] ∧ (∃ e ∈ iterateStash constCrypto sampleCodec s'.home sampleIpk, e.2.kpRef = kpRef) ∧
          ∀ r ∈ s'.stash, r.kpRef = kpRef → r.consumed = true := by
  have hsettled : snapshot constCrypto sampleKeys (preparedStash constCrypto sampleKeys (Lifecycle.init sampleHome) 0) 0 =
      snapshot constCrypto sampleKeys (Lifecycle.init sampleHome) 0 := by
    decide +kernel
  refine ⟨hsettled, sample_stored, keypackage_republish_hands_out_twice sampleCodec_roundTrip StashWellFormed.empty rfl
    ?_ ?_ ?_ hsettled sample_stored ?_ sampleRelay⟩
  · rw [snapshot_sample]
    simp
  · rfl
  · rw [snapshot_sample]
    exact sample_nodup
  · rw [snapshot_sample]
    exact ⟨sampleRecord 0, List.mem_map.2 ⟨0, by simp, rfl⟩, by decide, by simp [sampleRecord, KP_REF_LEN]⟩

end KpLifecycle

end Promtuz
