import Promtuz.Libcore.Transfer

/-! The transfer round trip: a file the sender prepared is pulled whole, from any watermark
whose bytes the `.part` file already holds.

`from_file` cuts the file at multiples of `CHUNK_SIZE` whatever sizes its reads return
(`fromFile_eq`); the serve loop streams the file from the watermark's chunk on
(`serveStream_pull`); and `pull` cuts that stream again by arithmetic on the manifest. The two
cuts agree chunk by chunk (`expectAt_manifestOf`, `readExact_chunk`), so every hash check
passes, and the writes at the cursor add up to one write of the rest of the file
(`pullChunks_manifestOf`), which completes the prefix already on disk.

All of it needs the manifest's frame to fit `MAX_FRAME`. A codec that writes each chunk hash
whole, as postcard does, cannot fit the 8 MiB of hashes of a 64 GiB file: `serve_streams` then
drops the frame it cannot write and streams the raw bytes, which `pull` reads as a frame
(`pull_fails_without_manifest_frame`). -/

namespace Promtuz

theorem lt_chunkCount_iff {n idx : Nat} : idx < chunkCount n ↔ idx * CHUNK_SIZE < n := by
  unfold chunkCount divCeil
  rw [CHUNK_SIZE_eq]
  split <;> omega

theorem chunkCount_mul_ge (n : Nat) : n ≤ chunkCount n * CHUNK_SIZE := by
  unfold chunkCount divCeil
  rw [CHUNK_SIZE_eq]
  split <;> omega

theorem lt_of_chunkCount_lt {n : Nat} (h : chunkCount n < 2 ^ 32) : n < 2 ^ 64 := by
  have hend := chunkCount_mul_ge n
  rw [CHUNK_SIZE_eq] at hend
  omega

theorem length_chunkAt (bytes : List UInt8) (idx : Nat) :
    (chunkAt bytes idx).length = min CHUNK_SIZE (bytes.length - idx * CHUNK_SIZE) := by
  simp [chunkAt]

theorem length_chunkAt_of_lt {bytes : List UInt8} {idx : Nat} (h : idx + 1 < chunkCount bytes.length) :
    (chunkAt bytes idx).length = CHUNK_SIZE := by
  have hnext := lt_chunkCount_iff.mp h
  rw [length_chunkAt, Nat.succ_mul] at *
  omega

theorem chunkAt_last {bytes : List UInt8} {idx : Nat} (h : idx + 1 = chunkCount bytes.length) :
    chunkAt bytes idx = bytes.drop (idx * CHUNK_SIZE) := by
  have hend := chunkCount_mul_ge bytes.length
  rw [← h, Nat.succ_mul] at hend
  apply List.take_of_length_le
  simp only [List.length_drop]
  omega

theorem chunkAt_append_drop (bytes : List UInt8) (idx : Nat) :
    chunkAt bytes idx ++ bytes.drop ((idx + 1) * CHUNK_SIZE) = bytes.drop (idx * CHUNK_SIZE) := by
  rw [chunkAt, Nat.succ_mul, ← List.drop_drop, List.take_append_drop]

theorem chunkCount_le_self (n : Nat) : chunkCount n ≤ n := by
  unfold chunkCount divCeil
  rw [CHUNK_SIZE_eq]
  split <;> omega

theorem flatMap_chunkAt (bytes : List UInt8) :
    ∀ (k i : Nat), i + k = chunkCount bytes.length →
      (List.range' i k).flatMap (chunkAt bytes) = bytes.drop (i * CHUNK_SIZE) := by
  intro k
  induction k with
  | zero =>
    intro i hend
    have hge := chunkCount_mul_ge bytes.length
    rw [← hend, Nat.add_zero] at hge
    simp only [List.range'_zero, List.flatMap_nil]
    exact (List.drop_eq_nil_of_le hge).symm
  | succ k ih =>
    intro i hend
    rw [List.range'_succ, List.flatMap_cons, ih (i + 1) (by omega), chunkAt_append_drop]

section Manifest

variable (crypto : Crypto) (bytes : List UInt8)

@[simp] theorem length_chunks_manifestOf :
    (manifestOf crypto bytes).chunks.length = chunkCount bytes.length := by
  simp [manifestOf]

theorem getElem?_chunks_manifestOf {idx : Nat} (h : idx < chunkCount bytes.length) :
    (manifestOf crypto bytes).chunks[idx]? = some (crypto.blake3 (chunkAt bytes idx)) := by
  simp [manifestOf, h]

theorem totalSize_manifestOf (h : bytes.length < 2 ^ 64) :
    (manifestOf crypto bytes).totalSize.toNat = bytes.length :=
  UInt64.toNat_ofNat_of_lt' h

theorem chunkSize_manifestOf : (manifestOf crypto bytes).chunkSize.toNat = CHUNK_SIZE := by
  simp only [manifestOf]
  decide

theorem expectAt_manifestOf {idx : Nat} (h : idx < chunkCount bytes.length) (hsize : bytes.length < 2 ^ 64) :
    expectAt (manifestOf crypto bytes) idx = (chunkAt bytes idx).length := by
  have hstart := lt_chunkCount_iff.mp h
  unfold expectAt
  rw [length_chunks_manifestOf]
  split
  · next hlast =>
    have hcs : (manifestOf crypto bytes).chunkSize.toUInt64.toNat = CHUNK_SIZE := by
      rw [UInt32.toNat_toUInt64, chunkSize_manifestOf]
    have hidx : idx < 2 ^ 64 := by
      have := Nat.le_mul_of_pos_right idx (show 0 < CHUNK_SIZE by decide)
      omega
    have hmul : (idx.toUInt64 * (manifestOf crypto bytes).chunkSize.toUInt64).toNat = idx * CHUNK_SIZE := by
      rw [UInt64.toNat_mul, hcs, UInt64.toNat_ofNat_of_lt' hidx, Nat.mod_eq_of_lt (by omega)]
    have hle : idx.toUInt64 * (manifestOf crypto bytes).chunkSize.toUInt64 ≤ (manifestOf crypto bytes).totalSize := by
      rw [UInt64.le_iff_toNat_le, hmul, totalSize_manifestOf crypto bytes hsize]
      omega
    rw [UInt64.toNat_sub_of_le _ _ hle, hmul, totalSize_manifestOf crypto bytes hsize, chunkAt_last hlast]
    simp
  · next hmid =>
    rw [chunkSize_manifestOf, length_chunkAt_of_lt (by omega)]

theorem readExact_chunk {idx : Nat} (h : idx < chunkCount bytes.length) (hsize : bytes.length < 2 ^ 64) :
    readExact (expectAt (manifestOf crypto bytes) idx) (bytes.drop (idx * CHUNK_SIZE)) =
      .ok (chunkAt bytes idx, bytes.drop (idx * CHUNK_SIZE + (chunkAt bytes idx).length)) := by
  have hfits : (chunkAt bytes idx).length ≤ (bytes.drop (idx * CHUNK_SIZE)).length := by
    simp only [length_chunkAt, List.length_drop]
    exact Nat.min_le_right _ _
  rw [expectAt_manifestOf crypto bytes h hsize, readExact, if_pos hfits, List.drop_drop]
  simp [chunkAt]

theorem checkManifest_manifestOf {have0 : UInt32} (hsize : bytes.length < 2 ^ 64)
    (hh : have0.toNat ≤ chunkCount bytes.length) :
    checkManifest crypto ((manifestOf crypto bytes).fileId crypto) bytes.length.toUInt64 have0
      (manifestOf crypto bytes) = .ok () := by
  have hcs64 : (manifestOf crypto bytes).chunkSize.toUInt64.toNat = CHUNK_SIZE := by
    rw [UInt32.toNat_toUInt64, chunkSize_manifestOf]
  have hcount : (chunkCount bytes.length).toUInt64 =
      divCeilU64 (manifestOf crypto bytes).totalSize (manifestOf crypto bytes).chunkSize.toUInt64 := by
    apply UInt64.toNat_inj.mp
    have hle := chunkCount_le_self bytes.length
    rw [toNat_divCeilU64 (by rw [hcs64]; decide), hcs64, totalSize_manifestOf crypto bytes hsize,
      UInt64.toNat_ofNat_of_lt' (Nat.lt_of_le_of_lt hle hsize)]
    rfl
  have hcs : 0 < (manifestOf crypto bytes).chunkSize ∧ (manifestOf crypto bytes).chunkSize.toNat ≤ CHUNK_SIZE := by
    simp only [manifestOf]
    decide
  have htotal : (manifestOf crypto bytes).totalSize = bytes.length.toUInt64 := rfl
  simp [checkManifest, hcs, hcount, hh, htotal]

theorem sum_expectAt_manifestOf (hsize : bytes.length < 2 ^ 64) (i : Nat) (hi : i ≤ chunkCount bytes.length) :
    ((List.range' i (chunkCount bytes.length - i)).map (expectAt (manifestOf crypto bytes))).sum =
      bytes.length - i * CHUNK_SIZE := by
  have hcat := flatMap_chunkAt bytes (chunkCount bytes.length - i) i (by omega)
  have hlen := congrArg List.length hcat
  rw [List.length_flatMap, List.length_drop] at hlen
  rw [← hlen]
  congr 1
  refine List.map_congr_left fun idx hidx => ?_
  rw [List.mem_range'_1] at hidx
  exact expectAt_manifestOf crypto bytes (by omega) hsize

end Manifest

section Loop

variable (crypto : Crypto) (bytes : List UInt8) (now : UInt64)

theorem pullChunks_manifestOf (hsize : bytes.length < 2 ^ 64) :
    ∀ (k i : Nat) (part : Partial) (s : TransferStore), i + k + 1 = chunkCount bytes.length →
      pullChunks crypto (manifestOf crypto bytes) now (List.range' i (k + 1)) (i * CHUNK_SIZE)
          (bytes.drop (i * CHUNK_SIZE)) part s =
        (.ok { part with «have» := (i + k + 1).toUInt32, updatedAt := now },
          (s.writeFile part.path (i * CHUNK_SIZE) (bytes.drop (i * CHUNK_SIZE))).partialPut
            { part with «have» := (i + k + 1).toUInt32, updatedAt := now }) := by
  intro k
  induction k with
  | zero =>
    -- the last chunk: one pass, and it is the rest of the file
    intro i part s hlast
    have hi : i < chunkCount bytes.length := by omega
    rw [List.range'_succ, pullChunks_cons crypto _ now part s (readExact_chunk crypto bytes hi hsize)
      (getElem?_chunks_manifestOf crypto bytes hi)]
    simp [pullChunks, chunkAt_last (show i + 1 = chunkCount bytes.length by omega), Nat.toUInt32,
      UInt32.ofNat_add]
  | succ k ih =>
    -- a full chunk, then the loop from the next one
    intro i part s hmore
    have hi : i < chunkCount bytes.length := by omega
    have hfull := @length_chunkAt_of_lt bytes i (by omega)
    have hpos : i * CHUNK_SIZE + (chunkAt bytes i).length = (i + 1) * CHUNK_SIZE := by
      rw [hfull, Nat.succ_mul]
    rw [List.range'_succ, pullChunks_cons crypto _ now part s (readExact_chunk crypto bytes hi hsize)
      (getElem?_chunks_manifestOf crypto bytes hi), hpos, ih (i + 1) _ _ (by omega)]
    rw [TransferStore.writeFile_partialPut, ← hpos, TransferStore.writeFile_writeFile, hpos, chunkAt_append_drop,
      show i + 1 + k + 1 = i + (k + 1) + 1 by omega]
    simp [TransferStore.partialPut_partialPut]

end Loop

section Receive

variable (crypto : Crypto) (c : WireCodec) (bytes : List UInt8) (filesDir : String) (link : Link) (now : UInt64)

theorem readFrame_answer_manifestOf {req : List UInt8} {have0 : UInt32} (hrt : c.resp.RoundTrip)
    (hframe : FrameFits c.resp (.manifest (manifestOf crypto bytes)))
    (hanswer : link.answer req =
      frameOrNothing c.resp (.manifest (manifestOf crypto bytes)) ++ bytes.drop (have0.toNat * CHUNK_SIZE)) :
    readFrame c.resp (link.answer req) =
      .ok (.manifest (manifestOf crypto bytes), bytes.drop (have0.toNat * CHUNK_SIZE)) := by
  rw [hanswer]
  exact readFrame_frameOrNothing hrt hframe _

theorem pullFrom_manifestOf_of_lt (hc : c.Sound) (s : TransferStore) {fileId : Bytes 32} {have0 : UInt32}
    (hid : fileId = (manifestOf crypto bytes).fileId crypto)
    (hsize : chunkCount bytes.length < 2 ^ 32) (hlt : have0.toNat < chunkCount bytes.length)
    (hframe : FrameFits c.resp (.manifest (manifestOf crypto bytes)))
    (hanswer : link.answer (frameOrNothing c.pull ⟨fileId, have0⟩) =
      frameOrNothing c.resp (.manifest (manifestOf crypto bytes)) ++ bytes.drop (have0.toNat * CHUNK_SIZE)) :
    ∃ s', pullFrom crypto c filesDir link fileId bytes.length.toUInt64 now have0 s = (.ok (), s') ∧
      (∃ p, s'.partialGet fileId = some p ∧ p.state = DONE ∧ p.«have».toNat = chunkCount bytes.length) ∧
      s'.files (partialPath filesDir fileId) =
        some (FileBytes.writeAt ((s.files (partialPath filesDir fileId)).getD []) (have0.toNat * CHUNK_SIZE)
          (bytes.drop (have0.toNat * CHUNK_SIZE))) := by
  subst hid
  have hlt64 := lt_of_chunkCount_lt hsize
  obtain ⟨mb, hmb⟩ := hc.manifest_ser (manifestOf crypto bytes)
  rw [pullFrom_of_manifest crypto c filesDir link s (writeFrame_of_frameFits (hc.pull_fits _))
    (readFrame_answer_manifestOf crypto c bytes link hc.resp hframe hanswer)
    (checkManifest_manifestOf crypto bytes hlt64 (Nat.le_of_lt hlt)) hmb]
  simp only [length_chunks_manifestOf, chunkSize_manifestOf]
  obtain ⟨k, hk⟩ : ∃ k, chunkCount bytes.length - have0.toNat = k + 1 :=
    ⟨chunkCount bytes.length - have0.toNat - 1, by omega⟩
  rw [hk, pullChunks_manifestOf crypto bytes now hlt64 k have0.toNat _ _ (by omega)]
  refine ⟨_, rfl, ⟨_, TransferStore.partialGet_partialPut_self _, rfl, ?_⟩, ?_⟩
  · have hbound : have0.toNat + k + 1 < 2 ^ 32 := by omega
    show (have0.toNat + k + 1).toUInt32.toNat = _
    rw [UInt32.toNat_ofNat_of_lt' hbound]
    omega
  · simp only [TransferStore.files_partialPut, TransferStore.files_writeFile_self,
      TransferStore.files_createFile_self, Option.getD_some]

theorem pullFrom_manifestOf (hc : c.Sound) (s : TransferStore) {fileId : Bytes 32} {have0 : UInt32}
    (hid : fileId = (manifestOf crypto bytes).fileId crypto)
    (hsize : chunkCount bytes.length < 2 ^ 32) (hh : have0.toNat ≤ chunkCount bytes.length)
    (hframe : FrameFits c.resp (.manifest (manifestOf crypto bytes)))
    (hanswer : link.answer (frameOrNothing c.pull ⟨fileId, have0⟩) =
      frameOrNothing c.resp (.manifest (manifestOf crypto bytes)) ++ bytes.drop (have0.toNat * CHUNK_SIZE))
    (hpre : (s.files (partialPath filesDir fileId)).getD [] <+: bytes)
    (hheld : min (have0.toNat * CHUNK_SIZE) bytes.length ≤ ((s.files (partialPath filesDir fileId)).getD []).length) :
    ∃ s', pullFrom crypto c filesDir link fileId bytes.length.toUInt64 now have0 s = (.ok (), s') ∧
      (∃ p, s'.partialGet fileId = some p ∧ p.state = DONE ∧ p.«have».toNat = chunkCount bytes.length) ∧
      s'.files (partialPath filesDir fileId) = some bytes := by
  rcases Nat.lt_or_ge have0.toNat (chunkCount bytes.length) with hlt | hge
  · -- chunks left: the rest of the file completes the prefix on disk
    obtain ⟨s', hpull, hrow, hfile⟩ :=
      pullFrom_manifestOf_of_lt crypto c bytes filesDir link now hc s hid hsize hlt hframe hanswer
    have hstart := lt_chunkCount_iff.mp hlt
    refine ⟨s', hpull, hrow, ?_⟩
    rw [hfile, FileBytes.writeAt_drop_of_prefix hpre (by omega)]
  · -- nothing left: the prefix on disk is already the whole file
    subst hid
    have hlt64 := lt_of_chunkCount_lt hsize
    have heq : have0.toNat = chunkCount bytes.length := by omega
    have hend := chunkCount_mul_ge bytes.length
    rw [heq] at hheld
    obtain ⟨mb, hmb⟩ := hc.manifest_ser (manifestOf crypto bytes)
    rw [pullFrom_of_manifest crypto c filesDir link s (writeFrame_of_frameFits (hc.pull_fits _))
      (readFrame_answer_manifestOf crypto c bytes link hc.resp hframe hanswer)
      (checkManifest_manifestOf crypto bytes hlt64 hh) hmb]
    simp only [length_chunks_manifestOf, chunkSize_manifestOf]
    rw [heq, Nat.sub_self, List.range'_zero]
    refine ⟨_, rfl, ⟨_, TransferStore.partialGet_partialPut_self _, rfl, heq⟩, ?_⟩
    rw [TransferStore.files_partialPut, TransferStore.files_createFile_self, TransferStore.files_partialPut,
      hpre.eq_of_length (Nat.le_antisymm hpre.length_le (by omega))]

end Receive

theorem serveStream_retained (crypto : Crypto) (c : WireCodec) (hc : c.Sound) (rd : FileReader)
    (offered : Bytes 32 → Bool) {sender : TransferStore} {srcPath : String} {bytes mb : List UInt8}
    (ttlSecs now : UInt64) (have0 : UInt32) (hsrc : sender.files srcPath = some bytes)
    (hmb : c.manifest.ser (manifestOf crypto bytes) = some mb)
    (hoffered : offered ((manifestOf crypto bytes).fileId crypto) = true) :
    serveStream c rd offered (sender.retentionPut ((manifestOf crypto bytes).fileId crypto)
        (retainedOf srcPath bytes mb ttlSecs now))
      (frameOrNothing c.pull ⟨(manifestOf crypto bytes).fileId crypto, have0⟩) =
    frameOrNothing c.resp (.manifest (manifestOf crypto bytes)) ++ bytes.drop (have0.toNat * CHUNK_SIZE) :=
  serveStream_pull c hc.pull rd offered _ (writeFrame_of_frameFits (hc.pull_fits _))
    (TransferStore.retentionGet_retentionPut_self _ _ _) hoffered (hc.manifest _ _ hmb) hsrc
    (show 0 < CHUNK_SIZE.toUInt32.toNat by decide)

theorem transfer_round_trip (crypto : Crypto) (c : WireCodec) (hc : c.Sound) (rd : FileReader)
    (offered : Bytes 32 → Bool) (filesDir srcPath : String) (ipk : Bytes 32) (ttlSecs now now' : UInt64)
    (sender sender' receiver : TransferStore) (bytes : List UInt8) (fileId : Bytes 32) (size : UInt64)
    (hsrc : sender.files srcPath = some bytes)
    (hsend : prepareSend crypto c rd srcPath ttlSecs now sender = .ok ((fileId, size), sender'))
    (hsize : chunkCount bytes.length < 2 ^ 32)
    (hframe : FrameFits c.resp (.manifest (manifestOf crypto bytes)))
    (hoffered : offered fileId = true)
    (hhave : (haveOf receiver fileId).toNat ≤ chunkCount bytes.length)
    (hpre : (receiver.files (partialPath filesDir fileId)).getD [] <+: bytes)
    (hheld : min ((haveOf receiver fileId).toNat * CHUNK_SIZE) bytes.length ≤
      ((receiver.files (partialPath filesDir fileId)).getD []).length) :
    let m := manifestOf crypto bytes
    let h := haveOf receiver fileId
    (∃ req resp, writeFrame c.pull ⟨fileId, h⟩ = .ok req ∧ writeFrame c.resp (.manifest m) = .ok resp ∧
        serveStream c rd offered sender' req = resp ++ bytes.drop (h.toNat * CHUNK_SIZE)) ∧
      checkManifest crypto fileId size h m = .ok () ∧
      (∀ idx, h.toNat ≤ idx → idx < m.chunks.length →
        idx * CHUNK_SIZE < bytes.length ∧ 0 < expectAt m idx ∧ expectAt m idx ≤ CHUNK_SIZE) ∧
      ((List.range' h.toNat (m.chunks.length - h.toNat)).map (expectAt m)).sum =
        bytes.length - h.toNat * CHUNK_SIZE ∧
      ∃ receiver', pull crypto c filesDir ⟨ipk, serveStream c rd offered sender'⟩ fileId size now' receiver =
          (.ok (), receiver') ∧
        (∃ p, receiver'.partialGet fileId = some p ∧ p.state = DONE ∧ p.«have».toNat = m.chunks.length) ∧
        receiver'.files (partialPath filesDir fileId) = some bytes := by
  obtain ⟨mb, hmb, rfl, rfl, rfl⟩ := prepareSend_ok crypto c hc rd ttlSecs now hsrc hsend
  have hlt64 := lt_of_chunkCount_lt hsize
  have hanswer := serveStream_retained crypto c hc rd offered ttlSecs now
    (haveOf receiver ((manifestOf crypto bytes).fileId crypto)) hsrc hmb hoffered
  refine ⟨⟨_, _, writeFrame_of_frameFits (hc.pull_fits _), writeFrame_of_frameFits hframe, hanswer⟩,
    checkManifest_manifestOf crypto bytes hlt64 hhave, ?_, ?_, ?_⟩
  · -- the chunk arithmetic
    intro idx _ hidx
    rw [length_chunks_manifestOf] at hidx
    have hstart := lt_chunkCount_iff.mp hidx
    rw [expectAt_manifestOf crypto bytes hidx hlt64, length_chunkAt]
    simp only [CHUNK_SIZE_eq] at hstart ⊢
    omega
  · rw [length_chunks_manifestOf]
    exact sum_expectAt_manifestOf crypto bytes hlt64 _ hhave
  · rw [length_chunks_manifestOf]
    exact pullFrom_manifestOf crypto c bytes filesDir _ now' hc receiver rfl hsize hhave hframe hanswer hpre hheld

theorem pull_fails_without_manifest_frame (crypto : Crypto) (c : WireCodec) (hc : c.Sound) (rd : FileReader)
    (filesDir path : String) (ipk : Bytes 32) (ttlSecs now now' : UInt64) {sender sender' receiver : TransferStore}
    {bytes rest : List UInt8} {fileId : Bytes 32} {size : UInt64} (hsrc : sender.files path = some bytes)
    (hsend : prepareSend crypto c rd path ttlSecs now sender = .ok ((fileId, size), sender'))
    (hbig : ¬FrameFits c.resp (.manifest (manifestOf crypto bytes)))
    (hzeros : bytes = List.replicate 4 0 ++ rest) (hempty : c.resp.deser [] = none)
    (hfresh : haveOf receiver fileId = 0) :
    (pull crypto c filesDir ⟨ipk, serveStream c rd (fun _ => true) sender'⟩ fileId size now' receiver).1 =
      .error .postcard := by
  obtain ⟨mb, hmb, rfl, rfl, rfl⟩ := prepareSend_ok crypto c hc rd ttlSecs now hsrc hsend
  have hanswer := serveStream_retained crypto c hc rd (fun _ => true) ttlSecs now 0 hsrc hmb rfl
  rw [frameOrNothing_of_not_frameFits hbig, List.nil_append, UInt32.toNat_zero, Nat.zero_mul,
    List.drop_zero] at hanswer
  have hresp : readFrame c.resp (Link.answer ⟨ipk, serveStream c rd (fun _ => true) (sender.retentionPut
      ((manifestOf crypto bytes).fileId crypto) (retainedOf path bytes mb ttlSecs now))⟩
      (frameOrNothing c.pull ⟨(manifestOf crypto bytes).fileId crypto, 0⟩)) = .error .postcard := by
    dsimp only
    rw [hanswer, hzeros, readFrame_empty, hempty]
  rw [pull, hfresh, pullFrom_of_readFrame_error crypto c filesDir _ receiver
    (writeFrame_of_frameFits (hc.pull_fits _)) hresp]

def leValue (bytes : List UInt8) : Nat := Bytes.beValue bytes.reverse

@[simp] theorem length_leBytes (n x : Nat) : (leBytes n x).length = n := by
  simp [leBytes]

theorem leValue_leBytes {n x : Nat} (h : x < 256 ^ n) : leValue (leBytes n x) = x := by
  rw [leValue, leBytes, List.reverse_reverse, Bytes.beValue_toBeBytes, Nat.mod_eq_of_lt h]

theorem leValue_leBytes_u32 (v : UInt32) : (leValue (leBytes 4 v.toNat)).toUInt32 = v := by
  have h : v.toNat < 256 ^ 4 := by simpa using v.toNat_lt
  rw [leValue_leBytes h]
  simp

theorem leValue_leBytes_u64 (v : UInt64) : (leValue (leBytes 8 v.toNat)).toUInt64 = v := by
  have h : v.toNat < 256 ^ 8 := by simpa using v.toNat_lt
  rw [leValue_leBytes h]
  simp

def hashesOf : Nat → List UInt8 → List (Bytes 32)
  | 0, _ => []
  | n + 1, bytes =>
    if h : 32 ≤ bytes.length then ⟨bytes.take 32, by simp [h]⟩ :: hashesOf n (bytes.drop 32) else []

theorem length_flatMap_bytes {n : Nat} (l : List (Bytes n)) :
    (l.flatMap fun c => c.1).length = n * l.length := by
  induction l with
  | nil => simp
  | cons c l ih =>
    simp only [List.flatMap_cons, List.length_append, ih, c.2, List.length_cons, Nat.mul_succ]
    omega

theorem hashesOf_flatMap : ∀ (hs : List (Bytes 32)) (n : Nat), hs.length ≤ n →
    hashesOf n (hs.flatMap fun c => c.1) = hs
  | [], 0, _ => rfl
  | [], _ + 1, _ => by simp [hashesOf]
  | h :: hs, n + 1, hlen => by
    have hh := h.2
    have hdrop : (h.1 ++ hs.flatMap fun c => c.1).drop 32 = hs.flatMap fun c => c.1 := List.drop_left' hh
    rw [List.flatMap_cons, hashesOf, dif_pos (by simp [hh]), hdrop, hashesOf_flatMap hs n (by simpa using hlen)]
    exact congrArg (· :: hs) (Subtype.ext (List.take_left' hh))

def fixedManifestBytes (m : Manifest) : List UInt8 :=
  leBytes 8 m.totalSize.toNat ++ leBytes 4 m.chunkSize.toNat ++ m.chunks.flatMap fun c => c.1

def fixedManifest? (bytes : List UInt8) : Option Manifest :=
  if 12 ≤ bytes.length then
    some
      { totalSize := (leValue (bytes.take 8)).toUInt64, chunkSize := (leValue ((bytes.drop 8).take 4)).toUInt32,
        chunks := hashesOf bytes.length (bytes.drop 12) }
  else none

def fixedCodec : WireCodec where
  manifest := ⟨fun m => some (fixedManifestBytes m), fixedManifest?⟩
  resp :=
    ⟨fun r => match r with
      | .manifest m => some (0 :: fixedManifestBytes m)
      | .gone => some [1],
     fun bytes => match bytes with
      | [] => none
      | b :: rest => if b = 0 then (fixedManifest? rest).map .manifest else if b = 1 ∧ rest = [] then some .gone else none⟩
  pull :=
    ⟨fun p => some (p.fileId.1 ++ leBytes 4 p.«have».toNat),
     fun bytes => if h : 32 ≤ bytes.length then
        some ⟨⟨bytes.take 32, by simp [h]⟩, (leValue ((bytes.drop 32).take 4)).toUInt32⟩
      else none⟩

@[simp] theorem fixedCodec_manifest_ser (m : Manifest) : fixedCodec.manifest.ser m = some (fixedManifestBytes m) :=
  rfl

@[simp] theorem fixedCodec_resp_ser_manifest (m : Manifest) :
    fixedCodec.resp.ser (.manifest m) = some (0 :: fixedManifestBytes m) :=
  rfl

@[simp] theorem length_fixedManifestBytes (m : Manifest) :
    (fixedManifestBytes m).length = 12 + 32 * m.chunks.length := by
  simp only [fixedManifestBytes, List.length_append, length_leBytes, length_flatMap_bytes]

theorem fixedManifest?_bytes (m : Manifest) : fixedManifest? (fixedManifestBytes m) = some m := by
  have h8 : (fixedManifestBytes m).take 8 = leBytes 8 m.totalSize.toNat := by
    simp [fixedManifestBytes, List.append_assoc, List.take_left' (length_leBytes 8 _)]
  have h4 : ((fixedManifestBytes m).drop 8).take 4 = leBytes 4 m.chunkSize.toNat := by
    simp [fixedManifestBytes, List.append_assoc, List.drop_left' (length_leBytes 8 _),
      List.take_left' (length_leBytes 4 _)]
  have h12 : (fixedManifestBytes m).drop 12 = m.chunks.flatMap fun c => c.1 := by
    rw [fixedManifestBytes, List.drop_left' (by simp)]
  rw [fixedManifest?, if_pos (by simp), h8, h4, h12, leValue_leBytes_u64, leValue_leBytes_u32,
    hashesOf_flatMap _ _ (by rw [length_fixedManifestBytes]; omega)]

theorem fixedCodec_sound : fixedCodec.Sound where
  manifest _ _ h := by
    cases h
    exact fixedManifest?_bytes _
  resp r _ h := by
    cases r <;> cases h
    · simp [fixedCodec, fixedManifest?_bytes]
    · rfl
  pull p _ h := by
    cases h
    have hid := p.fileId.2
    have htake : (p.fileId.1 ++ leBytes 4 p.«have».toNat).take 32 = p.fileId.1 := List.take_left' hid
    have hdrop : ((p.fileId.1 ++ leBytes 4 p.«have».toNat).drop 32).take 4 = leBytes 4 p.«have».toNat := by
      rw [List.drop_left' hid, List.take_of_length_le (by simp)]
    simp only [fixedCodec, List.length_append, hid, length_leBytes, htake, hdrop, leValue_leBytes_u32]
    simp
  manifest_ser m := ⟨_, rfl⟩
  pull_fits p := ⟨_, rfl, by simp [p.fileId.2, MAX_FRAME]⟩

def wholeReader : FileReader where
  read rest room := min rest.length room
  read_pos rest room hne hroom := by
    have := List.length_pos_of_ne_nil hne
    omega
  read_le _ _ := Nat.le_refl _

def photo : List UInt8 := [1, 2, 3]

def photoSender : TransferStore := ⟨[], [], fun path => if path = "photo" then some photo else none⟩

/-- The same sender after `prepare_send` of the photo. -/
def photoSent : TransferStore :=
  photoSender.retentionPut ((manifestOf constCrypto photo).fileId constCrypto)
    (retainedOf "photo" photo (fixedManifestBytes (manifestOf constCrypto photo)) 3600 0)

def freshReceiver : TransferStore := ⟨[], [], fun _ => none⟩

def zeroFile : List UInt8 := List.replicate (262144 * CHUNK_SIZE) 0

def zeroSender : TransferStore := ⟨[], [], fun _ => some zeroFile⟩

theorem chunkCount_zeroFile : chunkCount zeroFile.length = 262144 := by
  rw [zeroFile, List.length_replicate]
  unfold chunkCount divCeil
  rw [CHUNK_SIZE_eq]
  decide

/-- The photo goes through; the 64 GiB file does not, since its 262144 hashes alone fill
`MAX_FRAME`. -/
theorem transfer_round_trip_photo :
    prepareSend constCrypto fixedCodec wholeReader "photo" 3600 0 photoSender =
        .ok (((manifestOf constCrypto photo).fileId constCrypto, 3), photoSent) ∧
      (pull constCrypto fixedCodec "transfers"
        ⟨⟨List.replicate 32 7, by simp⟩, serveStream fixedCodec wholeReader (fun _ => true) photoSent⟩
        ((manifestOf constCrypto photo).fileId constCrypto) 3 0 freshReceiver).1 = .ok () ∧
      ∃ fileId size sender',
        prepareSend constCrypto fixedCodec wholeReader "zeros" 3600 0 zeroSender = .ok ((fileId, size), sender') ∧
        (pull constCrypto fixedCodec "transfers"
          ⟨⟨List.replicate 32 7, by simp⟩, serveStream fixedCodec wholeReader (fun _ => true) sender'⟩
          fileId size 0 freshReceiver).1 = .error .postcard := by
  have hsend : prepareSend constCrypto fixedCodec wholeReader "photo" 3600 0 photoSender =
      .ok (((manifestOf constCrypto photo).fileId constCrypto, 3), photoSent) :=
    prepareSend_eq constCrypto fixedCodec wholeReader 3600 0 rfl rfl
  have hphoto : FrameFits fixedCodec.resp (.manifest (manifestOf constCrypto photo)) :=
    ⟨_, rfl, by simp [length_chunks_manifestOf, photo, chunkCount, divCeil, CHUNK_SIZE, MAX_FRAME]⟩
  obtain ⟨-, -, -, -, receiver', hpull, -⟩ := transfer_round_trip constCrypto fixedCodec fixedCodec_sound
    wholeReader (fun _ => true) "transfers" "photo" ⟨List.replicate 32 7, by simp⟩ 3600 0 0 photoSender photoSent
    freshReceiver photo _ 3 rfl hsend (by decide) hphoto rfl (by decide) List.nil_prefix (by decide)
  have hzero := prepareSend_eq constCrypto fixedCodec wholeReader 3600 0
    (rfl : zeroSender.files "zeros" = some zeroFile) (fixedCodec_manifest_ser _)
  refine ⟨hsend, by rw [hpull], _, _, _, hzero, ?_⟩
  -- the manifest's variant byte and header push it past `MAX_FRAME`
  have hbig : ¬FrameFits fixedCodec.resp (.manifest (manifestOf constCrypto zeroFile)) := by
    rintro ⟨bytes, hser, hfit⟩
    rw [fixedCodec_resp_ser_manifest, Option.some.injEq] at hser
    have hlen : bytes.length = 12 + 32 * 262144 + 1 := by
      rw [← hser, List.length_cons, length_fixedManifestBytes, length_chunks_manifestOf, chunkCount_zeroFile]
    rw [hlen, MAX_FRAME] at hfit
    omega
  have hzeros : zeroFile = List.replicate 4 0 ++ List.replicate (262144 * CHUNK_SIZE - 4) 0 := by
    rw [zeroFile, ← List.replicate_add, Nat.add_sub_cancel' (by decide)]
  exact pull_fails_without_manifest_frame constCrypto fixedCodec fixedCodec_sound wholeReader "transfers" "zeros"
    _ 3600 0 0 rfl hzero hbig hzeros rfl rfl

end Promtuz
