import Promtuz.Libcore.TransferRoundTrip

/-! Downloads racing the gc timer (`transfer/mod.rs`, and the timer of `api/init.rs`).

`download` and `pull` are async tasks. `pull` reads the watermark with its first statement and
then awaits the stream, the auth exchange and the manifest before it writes its ACTIVE row;
meanwhile the 30-second timer that `init` spawns may run `gc`, which reaps a FAILED or HELD row
untouched for a week and unlinks its `.part` file. The `DOWNLOADING` guard orders downloads of
one file id among themselves, not against the timer.

A download of such a row that the timer overtakes there goes on from the stale watermark: it
recreates the `.part` file empty, seeks past a hole of zeros to the watermark, writes the rest
of the file and flips the row DONE (`gc_during_pull_leaves_hole`).

A receiver is its store and its downloads in flight; each task below is one atomic step between
two awaits. -/

namespace Promtuz

structure Download where
  fileId : Bytes 32
  have0 : Option UInt32

structure Receiver where
  store : TransferStore
  downloading : List Download

inductive ReceiverTask where
  /-- `download` up to the dial: the DONE check, then the `DOWNLOADING` slot. -/
  | download (fileId : Bytes 32)
  /-- The dial failed: hold, unless a wake went out within the backoff, and release the slot. -/
  | unreachable (fileId peer : Bytes 32) (now : UInt64)
  /-- `pull`'s first statement. -/
  | readWatermark (fileId : Bytes 32)
  /-- The rest of `pull` over what the link answers, `fail` on an error, and the slot released. -/
  | finishPull (fileId : Bytes 32) (link : Link) (offeredSize now : UInt64)
  /-- The timer's `gc`. -/
  | gc (now : UInt64)

/-- `woke_recently`: the row is HELD and was touched within `WAKE_BACKOFF_SECS`. -/
def wokeRecently (s : TransferStore) (fileId : Bytes 32) (now : UInt64) : Bool :=
  ((s.partialGet fileId).filter fun p => p.state == HELD).any fun p =>
    decide ((if p.updatedAt ≤ now then now - p.updatedAt else 0) < WAKE_BACKOFF_SECS)

namespace Receiver

variable (crypto : Crypto) (c : WireCodec) (filesDir : String)

def inFlight (r : Receiver) (fileId : Bytes 32) : Option Download :=
  r.downloading.find? fun d => decide (d.fileId = fileId)

/-- `PullGuard`'s drop: the slot of `fileId` freed. -/
def release (r : Receiver) (fileId : Bytes 32) : List Download :=
  r.downloading.filter fun d => !decide (d.fileId = fileId)

def step (r : Receiver) : ReceiverTask → Receiver
  | .download fileId =>
    if (r.store.partialGet fileId).any (fun p => p.state == DONE) then r
    else if (r.inFlight fileId).isSome then r
    else { r with downloading := ⟨fileId, none⟩ :: r.downloading }
  | .unreachable fileId peer now =>
    match r.inFlight fileId with
    | some ⟨_, none⟩ =>
      let store := if wokeRecently r.store fileId now then r.store else hold filesDir fileId peer now r.store
      ⟨store, r.release fileId⟩
    | _ => r
  | .readWatermark fileId =>
    match r.inFlight fileId with
    | some ⟨_, none⟩ =>
      { r with downloading := r.downloading.map fun d =>
          if d.fileId = fileId then ⟨fileId, some (haveOf r.store fileId)⟩ else d }
    | _ => r
  | .finishPull fileId link offeredSize now =>
    match r.inFlight fileId with
    | some ⟨_, some have0⟩ =>
      let out := pullFrom crypto c filesDir link fileId offeredSize now have0 r.store
      let store := match out.1 with
        | .ok () => out.2
        | .error _ => fail fileId now out.2
      ⟨store, r.release fileId⟩
    | _ => r
  | .gc now => { r with store := Promtuz.gc now r.store }

def run (r : Receiver) (tasks : List ReceiverTask) : Receiver :=
  tasks.foldl (step crypto c filesDir) r

@[simp] theorem run_nil (r : Receiver) : run crypto c filesDir r [] = r := rfl

@[simp] theorem run_cons (r : Receiver) (t : ReceiverTask) (ts : List ReceiverTask) :
    run crypto c filesDir r (t :: ts) = run crypto c filesDir (step crypto c filesDir r t) ts := rfl

variable {r : Receiver} {fileId : Bytes 32}

theorem step_download (hdone : ∀ p, r.store.partialGet fileId = some p → p.state ≠ DONE)
    (hidle : ∀ d ∈ r.downloading, d.fileId ≠ fileId) :
    step crypto c filesDir r (.download fileId) = { r with downloading := ⟨fileId, none⟩ :: r.downloading } := by
  have hnotDone : (r.store.partialGet fileId).any (fun p => p.state == DONE) = false := by
    cases hget : r.store.partialGet fileId with
    | none => rfl
    | some p => simpa using hdone p hget
  have hfree : r.inFlight fileId = none := by
    rw [inFlight, List.find?_eq_none]
    intro d hd
    simpa using hidle d hd
  simp only [step, hnotDone, hfree, Option.isSome_none, Bool.false_eq_true, if_false]

theorem step_readWatermark (ds : List Download) (hds : r.downloading = ⟨fileId, none⟩ :: ds)
    (hidle : ∀ d ∈ ds, d.fileId ≠ fileId) :
    step crypto c filesDir r (.readWatermark fileId) =
      { r with downloading := ⟨fileId, some (haveOf r.store fileId)⟩ :: ds } := by
  have hhead : r.inFlight fileId = some ⟨fileId, none⟩ := by
    simp [inFlight, hds]
  have hrest : ds.map (fun d => if d.fileId = fileId then (⟨fileId, some (haveOf r.store fileId)⟩ : Download) else d) = ds := by
    refine (List.map_congr_left fun d hd => ?_).trans (List.map_id' ds)
    simp [hidle d hd]
  simp only [step, hhead, hds, List.map_cons, if_true, hrest]

theorem step_finishPull (ds : List Download) (have0 : UInt32) (link : Link) (offeredSize now : UInt64)
    (hds : r.downloading = ⟨fileId, some have0⟩ :: ds) (hidle : ∀ d ∈ ds, d.fileId ≠ fileId)
    {s : TransferStore} (hpull : pullFrom crypto c filesDir link fileId offeredSize now have0 r.store = (.ok (), s)) :
    step crypto c filesDir r (.finishPull fileId link offeredSize now) = ⟨s, ds⟩ := by
  have hhead : r.inFlight fileId = some ⟨fileId, some have0⟩ := by
    simp [inFlight, hds]
  have hrest : r.release fileId = ds := by
    rw [release, hds, List.filter_cons_of_neg (by simp), List.filter_eq_self]
    intro d hd
    simpa using hidle d hd
  simp only [step, hhead, hpull, hrest]

theorem step_gc (now : UInt64) : step crypto c filesDir r (.gc now) = { r with store := Promtuz.gc now r.store } :=
  rfl

end Receiver

theorem gc_eq (now : UInt64) (s : TransferStore) (hweek : DEAD_PARTIAL_TTL_SECS ≤ now) :
    gc now s = (s.retentionGc now).gcDeadPartials (now - DEAD_PARTIAL_TTL_SECS) := by
  simp only [gc, if_pos hweek]

theorem files_gc_of_dead {now : UInt64} {s : TransferStore} {p : Partial} (hp : p ∈ s.partials)
    (hweek : DEAD_PARTIAL_TTL_SECS ≤ now)
    (hdead : TransferStore.deadPartial (now - DEAD_PARTIAL_TTL_SECS) p = true) :
    (gc now s).files p.path = none := by
  have hreaped : p.path ∈ ((s.retentionGc now).partials.filter
      (TransferStore.deadPartial (now - DEAD_PARTIAL_TTL_SECS))).map Partial.path :=
    List.mem_map_of_mem (List.mem_filter.mpr ⟨hp, hdead⟩)
  rw [gc_eq now s hweek]
  simp only [TransferStore.gcDeadPartials, if_pos hreaped]

theorem mem_partials_of_partialGet {s : TransferStore} {fileId : Bytes 32} {p : Partial}
    (h : s.partialGet fileId = some p) : p ∈ s.partials :=
  List.mem_of_find?_eq_some h

theorem haveOf_of_partialGet {s : TransferStore} {fileId : Bytes 32} {p : Partial}
    (h : s.partialGet fileId = some p) : haveOf s fileId = p.«have» := by
  simp [haveOf, h]

theorem not_done_of_partialGet {s : TransferStore} {fileId : Bytes 32} {p : Partial}
    (h : s.partialGet fileId = some p) (hp : p.state ≠ DONE) :
    ∀ q, s.partialGet fileId = some q → q.state ≠ DONE := by
  intro q hq
  rw [h, Option.some.injEq] at hq
  rw [← hq]
  exact hp

theorem deadPartial_of_failed {now : UInt64} {p : Partial} (hfailed : p.state = FAILED)
    (hstale : p.updatedAt < now - DEAD_PARTIAL_TTL_SECS) :
    TransferStore.deadPartial (now - DEAD_PARTIAL_TTL_SECS) p = true := by
  simp [TransferStore.deadPartial, hfailed, hstale]

section Race

variable (crypto : Crypto) (c : WireCodec) (filesDir : String) (link : Link) (bytes : List UInt8) (r : Receiver)
  (p : Partial)

/-- A download of a FAILED row dead for `gc`, whose `.part` file holds the first `have` chunks of
the file, with the timer firing after `pull` read the watermark: the row ends DONE over a
`.part` file whose first `have` chunks are zeros. -/
theorem gc_during_pull_leaves_hole (hc : c.Sound) (nowGc now : UInt64)
    (hid : p.fileId = (manifestOf crypto bytes).fileId crypto)
    (hsize : chunkCount bytes.length < 2 ^ 32) (hframe : FrameFits c.resp (.manifest (manifestOf crypto bytes)))
    (hrow : r.store.partialGet p.fileId = some p) (hpath : p.path = partialPath filesDir p.fileId)
    (hfailed : p.state = FAILED) (hweek : DEAD_PARTIAL_TTL_SECS ≤ nowGc)
    (hstale : p.updatedAt < nowGc - DEAD_PARTIAL_TTL_SECS)
    (hidle : ∀ d ∈ r.downloading, d.fileId ≠ p.fileId)
    (hlt : p.«have».toNat < chunkCount bytes.length)
    (hanswer : link.answer (frameOrNothing c.pull ⟨p.fileId, p.«have»⟩) =
      frameOrNothing c.resp (.manifest (manifestOf crypto bytes)) ++ bytes.drop (p.«have».toNat * CHUNK_SIZE)) :
    let r' := r.run crypto c filesDir [.download p.fileId, .readWatermark p.fileId, .gc nowGc,
      .finishPull p.fileId link bytes.length.toUInt64 now]
    (∃ q, r'.store.partialGet p.fileId = some q ∧ q.state = DONE ∧ q.«have».toNat = chunkCount bytes.length) ∧
      r'.store.files p.path =
        some (List.replicate (p.«have».toNat * CHUNK_SIZE) 0 ++ bytes.drop (p.«have».toNat * CHUNK_SIZE)) := by
  intro r'
  have hnotDone := not_done_of_partialGet hrow (by rw [hfailed]; decide)
  -- the timer reaps the row and unlinks its file between the watermark and the manifest
  have hgone : (Promtuz.gc nowGc r.store).files (partialPath filesDir p.fileId) = none := by
    rw [← hpath]
    exact files_gc_of_dead (mem_partials_of_partialGet hrow) hweek (deadPartial_of_failed hfailed hstale)
  obtain ⟨s', hpull, hdone, hfile⟩ := pullFrom_manifestOf_of_lt crypto c bytes filesDir link now hc
    (Promtuz.gc nowGc r.store) hid hsize hlt hframe hanswer
  have hrun : r.run crypto c filesDir [.download p.fileId, .readWatermark p.fileId, .gc nowGc,
      .finishPull p.fileId link bytes.length.toUInt64 now] = ⟨s', r.downloading⟩ := by
    rw [Receiver.run_cons, Receiver.step_download crypto c filesDir hnotDone hidle, Receiver.run_cons,
      Receiver.step_readWatermark crypto c filesDir r.downloading rfl hidle, Receiver.run_cons, Receiver.step_gc,
      Receiver.run_cons, Receiver.step_finishPull crypto c filesDir r.downloading _ link _ now rfl hidle,
      Receiver.run_nil]
    rw [haveOf_of_partialGet hrow]
    exact hpull
  rw [show r' = ⟨s', r.downloading⟩ from hrun]
  refine ⟨hdone, ?_⟩
  rw [hpath, hfile, hgone, Option.getD_none, FileBytes.writeAt_nil]

def bigFile : List UInt8 := List.replicate (CHUNK_SIZE + 1) 1

def bigSender : TransferStore := ⟨[], [], fun _ => some bigFile⟩

def bigId : Bytes 32 := (manifestOf constCrypto bigFile).fileId constCrypto

def bigLink : Link :=
  ⟨Bytes.replicate 32 7,
    serveStream fixedCodec wholeReader (fun _ => true)
      (bigSender.retentionPut bigId (retainedOf "big" bigFile (fixedManifestBytes (manifestOf constCrypto bigFile)) 3600 0))⟩

def staleRow : Partial :=
  { fileId := bigId, sourceIpk := Bytes.replicate 32 7, total := bigFile.length.toUInt64,
    chunkSize := CHUNK_SIZE.toUInt32, manifest := some (fixedManifestBytes (manifestOf constCrypto bigFile)), «have» := 1,
    state := FAILED, path := partialPath "transfers" bigId, updatedAt := 0 }

def staleReceiver : Receiver :=
  ⟨⟨[], [staleRow], fun q => if q = partialPath "transfers" bigId then some (bigFile.take CHUNK_SIZE) else none⟩, []⟩

theorem gc_during_pull_leaves_hole_stale :
    (staleReceiver.run constCrypto fixedCodec "transfers" [.download bigId, .readWatermark bigId,
        .gc (DEAD_PARTIAL_TTL_SECS + 1), .finishPull bigId bigLink bigFile.length.toUInt64 0]).store.files
        (partialPath "transfers" bigId) =
      some (List.replicate CHUNK_SIZE 0 ++ [1]) := by
  have hcount : chunkCount bigFile.length = 2 := by
    rw [bigFile, List.length_replicate]
    unfold chunkCount divCeil
    rw [CHUNK_SIZE_eq]
    decide
  have hframe : FrameFits fixedCodec.resp (.manifest (manifestOf constCrypto bigFile)) := by
    refine ⟨_, fixedCodec_resp_ser_manifest _, ?_⟩
    rw [List.length_cons, length_fixedManifestBytes, length_chunks_manifestOf, hcount, MAX_FRAME]
    omega
  have hanswer : bigLink.answer (frameOrNothing fixedCodec.pull ⟨staleRow.fileId, staleRow.«have»⟩) =
      frameOrNothing fixedCodec.resp (.manifest (manifestOf constCrypto bigFile)) ++
        bigFile.drop (staleRow.«have».toNat * CHUNK_SIZE) := by
    dsimp only [bigLink]
    exact serveStream_retained constCrypto fixedCodec fixedCodec_sound wholeReader (fun _ => true) 3600 0 1
      (rfl : bigSender.files "big" = some bigFile) (fixedCodec_manifest_ser _) rfl
  have hrow : staleReceiver.store.partialGet staleRow.fileId = some staleRow := by
    simp [TransferStore.partialGet, staleReceiver]
  have h := (gc_during_pull_leaves_hole constCrypto fixedCodec "transfers" bigLink bigFile staleReceiver staleRow
    fixedCodec_sound (DEAD_PARTIAL_TTL_SECS + 1) 0 rfl (by rw [hcount]; decide) hframe hrow rfl rfl
    (by decide) (by decide) (by simp [staleReceiver]) (by rw [hcount]; decide) hanswer).2
  have hfid : staleRow.fileId = bigId := rfl
  have hpath : staleRow.path = partialPath "transfers" bigId := rfl
  have hone : staleRow.«have».toNat = 1 := rfl
  rw [hfid, hpath, hone, Nat.one_mul] at h
  rw [h, bigFile, List.drop_replicate, show CHUNK_SIZE + 1 - CHUNK_SIZE = 1 by omega]
  rfl

end Race

end Promtuz
