import Promtuz.Libcore.TransferWire
import Promtuz.Lib.FileBytes
import Promtuz.Lib.Table

/-! The two ends of a P2P transfer over their local state (`transfer/store.rs`,
`transfer/mod.rs`).

The sender retains a manifest per file id and answers each pull with the framed manifest and
the file's bytes from the requested chunk on (`serveStream`). The receiver keeps a `partials`
row per file id whose `have` is the resume watermark, and a `.part` file; `pull` reads the
watermark, asks for the rest, checks the manifest against the file id, and then for each chunk
reads, hashes, writes and syncs it before it moves the watermark past it. `hold`, `fail` and
`gc` are the other writers of the same row and file.

Both databases and the file system are one `TransferStore`; a device is one store. The peer at
the far end of a stream is a function from what is written on it to what comes back (`Link`). -/

namespace Promtuz

/-- `transfer::store` download states. -/
def PENDING : UInt8 := 0
def ACTIVE : UInt8 := 1
def DONE : UInt8 := 2
def FAILED : UInt8 := 3
def HELD : UInt8 := 4

def DEAD_PARTIAL_TTL_SECS : UInt64 := 7 * 24 * 60 * 60

def WAKE_BACKOFF_SECS : UInt64 := 60

structure Retention where
  path : String
  size : UInt64
  chunkSize : UInt32
  manifest : List UInt8
  expiresAt : UInt64
  deriving DecidableEq

structure Partial where
  fileId : Bytes 32
  sourceIpk : Bytes 32
  total : UInt64
  chunkSize : UInt32
  manifest : Option (List UInt8)
  «have» : UInt32
  state : UInt8
  path : String
  updatedAt : UInt64
  deriving DecidableEq

structure TransferStore where
  retention : List (Bytes 32 × Retention)
  partials : List Partial
  files : String → Option (List UInt8)

def hexDigit (n : Nat) : Char := Char.ofNat (if n < 10 then 48 + n else 87 + n)

/-- `hex::encode`. -/
def hexEncode (bytes : List UInt8) : String :=
  String.ofList (bytes.flatMap fun b => [hexDigit (b.toNat / 16), hexDigit (b.toNat % 16)])

/-- `store::partial_path` under `db::files_dir("transfers")`. -/
def partialPath (filesDir : String) (fileId : Bytes 32) : String :=
  filesDir ++ "/" ++ hexEncode fileId.1 ++ ".part"

namespace TransferStore

variable (s : TransferStore)

def partialGet (fileId : Bytes 32) : Option Partial :=
  s.partials.find? fun p => decide (p.fileId = fileId)

/-- `INSERT OR REPLACE INTO partials`. -/
def partialPut (p : Partial) : TransferStore :=
  { s with partials := Table.replace Partial.fileId p s.partials }

def retentionGet (fileId : Bytes 32) : Option Retention :=
  (s.retention.find? fun e => decide (e.1 = fileId)).map Prod.snd

def retentionPut (fileId : Bytes 32) (r : Retention) : TransferStore :=
  { s with retention := Table.replace Prod.fst (fileId, r) s.retention }

/-- `retention_gc`: the bitwise `i64` cast keeps `u64::MAX` (stored as -1) from expiring. -/
def retentionGc (now : UInt64) : TransferStore :=
  let expired (e : Bytes 32 × Retention) : Bool :=
    decide (0 ≤ e.2.expiresAt.toInt64) && decide (e.2.expiresAt.toInt64 ≤ now.toInt64)
  { s with retention := Table.delete expired s.retention }

/-- The rows `gc_dead_partials` selects. -/
def deadPartial (olderThan : UInt64) (p : Partial) : Bool :=
  (p.state == FAILED || p.state == HELD) && decide (p.updatedAt < olderThan)

/-- `gc_dead_partials`: unlink the `.part` file of each selected row, then delete the rows. -/
def gcDeadPartials (olderThan : UInt64) : TransferStore :=
  let paths := (s.partials.filter (deadPartial olderThan)).map Partial.path
  let files := fun path => if path ∈ paths then none else s.files path
  { s with partials := Table.delete (deadPartial olderThan) s.partials, files := files }

def incompleteFileIds : List (Bytes 32) :=
  (s.partials.filter fun p => p.state == HELD || p.state == ACTIVE).map Partial.fileId

/-- `OpenOptions::new().create(true).write(true)`: the file, empty if it was not there. -/
def createFile (path : String) : TransferStore :=
  { s with files := fun q => if q = path then some ((s.files path).getD []) else s.files q }

/-- `write_all` with the cursor at `pos`. -/
def writeFile (path : String) (pos : Nat) (bytes : List UInt8) : TransferStore :=
  let file := FileBytes.writeAt ((s.files path).getD []) pos bytes
  { s with files := fun q => if q = path then some file else s.files q }

end TransferStore

/-- `prepare_send`: build the manifest of the file at `path` and retain it until `now + ttl`. -/
def prepareSend (crypto : Crypto) (c : WireCodec) (rd : FileReader) (path : String) (ttlSecs now : UInt64)
    (s : TransferStore) : Except TransferError ((Bytes 32 × UInt64) × TransferStore) :=
  match Manifest.fromFile crypto rd (s.files path) with
  | .error e => .error e
  | .ok m =>
    let fileId := m.fileId crypto
    match c.manifest.ser m with
    | none => .error .postcard
    | some bytes =>
      .ok ((fileId, m.totalSize), s.retentionPut fileId
        { path, size := m.totalSize, chunkSize := m.chunkSize, manifest := bytes,
          expiresAt := now + ttlSecs })

/-- The `read`/`write_all` loop of `serve_streams`: the file from the cursor to EOF, through a
buffer of `room` bytes. -/
def streamFile (rd : FileReader) (room : Nat) : Nat → List UInt8 → List UInt8
  | 0, _ => []
  | fuel + 1, rest =>
    let n := rd.read rest room
    if n = 0 then [] else rest.take n ++ streamFile rd room fuel (rest.drop n)

/-- One pass of the `serve_streams` loop on a stream whose auth exchange succeeded: what it
writes back for the request bytes `req`. `offered` is `offered_to(_, link.ipk)`. -/
def serveStream (c : WireCodec) (rd : FileReader) (offered : Bytes 32 → Bool) (s : TransferStore)
    (req : List UInt8) : List UInt8 :=
  match readFrame c.pull req with
  | .error _ => []
  | .ok (pull, _) =>
    match (s.retentionGet pull.fileId).filter fun _ => offered pull.fileId with
    | none => frameOrNothing c.resp .gone
    | some ret =>
      -- a retained manifest that does not decode is answered as gone
      match c.manifest.deser ret.manifest with
      | none => frameOrNothing c.resp .gone
      | some m =>
        frameOrNothing c.resp (.manifest m) ++
          match s.files ret.path with
          | none => []
          | some bytes =>
            let rest := bytes.drop (pull.«have».toNat * ret.chunkSize.toNat)
            streamFile rd ret.chunkSize.toNat (rest.length + 1) rest

/-- What `pull` uses of a `PeerLink`: the peer's key, and what the peer writes back on a fresh
stream for what is written to it, after the auth exchange. -/
structure Link where
  ipk : Bytes 32
  answer : List UInt8 → List UInt8

/-- `fail`: flip an existing partial to FAILED, keeping its watermark. -/
def fail (fileId : Bytes 32) (now : UInt64) (s : TransferStore) : TransferStore :=
  match s.partialGet fileId with
  | some p => s.partialPut { p with state := FAILED, updatedAt := now }
  | none => s

/-- `hold`: upsert the partial as HELD, with no manifest yet. -/
def hold (filesDir : String) (fileId peer : Bytes 32) (now : UInt64) (s : TransferStore) :
    TransferStore :=
  let p := (s.partialGet fileId).getD
    { fileId, sourceIpk := peer, total := 0, chunkSize := 0, manifest := none, «have» := 0,
      state := HELD, path := partialPath filesDir fileId, updatedAt := 0 }
  s.partialPut { p with state := HELD, sourceIpk := peer, updatedAt := now }

/-- `u64::div_ceil`. -/
def divCeilU64 (a b : UInt64) : UInt64 := if a % b > 0 then a / b + 1 else a / b

/-- The checks `pull` makes of the manifest before any byte lands, in the code's order. -/
def checkManifest (crypto : Crypto) (fileId : Bytes 32) (offeredSize : UInt64) (have0 : UInt32)
    (m : Manifest) : Except TransferError Unit :=
  if m.fileId crypto ≠ fileId then .error (.msg "manifest does not match file_id")
  else if ¬(0 < m.chunkSize ∧ m.chunkSize.toNat ≤ CHUNK_SIZE) then .error (.msg "bad chunk_size")
  else if m.chunks.length.toUInt64 ≠ divCeilU64 m.totalSize m.chunkSize.toUInt64 then
    .error (.msg "chunk count does not match total_size")
  else if ¬have0.toNat ≤ m.chunks.length then .error (.msg "partial ahead of manifest")
  else if m.totalSize ≠ offeredSize then
    let total := m.totalSize
    .error (.msg s!"manifest size {total} belies the offered {offeredSize}")
  else .ok ()

/-- The length `pull` reads for chunk `idx`: the rest of the file for the last one. -/
def expectAt (m : Manifest) (idx : Nat) : Nat :=
  if idx + 1 = m.chunks.length then (m.totalSize - idx.toUInt64 * m.chunkSize.toUInt64).toNat
  else m.chunkSize.toNat

/-- `read_exact`: fails when the stream ends first. -/
def readExact (n : Nat) (stream : List UInt8) : Except TransferError (List UInt8 × List UInt8) :=
  if n ≤ stream.length then .ok (stream.take n, stream.drop n) else .error .io

/-- The chunk loop of `pull` over the indices still to fetch, with the file cursor at `pos`:
read the chunk, check its hash, write and sync it, and only then persist the watermark past
it. -/
def pullChunks (crypto : Crypto) (m : Manifest) (now : UInt64) :
    List Nat → Nat → List UInt8 → Partial → TransferStore → Except TransferError Partial × TransferStore
  | [], _, _, part, s => (.ok part, s)
  | idx :: idxs, pos, stream, part, s =>
    match readExact (expectAt m idx) stream with
    | .error e => (.error e, s)
    | .ok (buf, stream) =>
      if some (crypto.blake3 buf) = m.chunks[idx]? then
        let s := s.writeFile part.path pos buf
        let part := { part with «have» := idx.toUInt32 + 1, updatedAt := now }
        pullChunks crypto m now idxs (pos + buf.length) stream part (s.partialPut part)
      else (.error (.msg s!"chunk {idx} hash mismatch"), s)

/-- `pull` after its first statement, from the watermark `have0` it read. -/
def pullFrom (crypto : Crypto) (c : WireCodec) (filesDir : String) (link : Link) (fileId : Bytes 32)
    (offeredSize now : UInt64) (have0 : UInt32) (s : TransferStore) :
    Except TransferError Unit × TransferStore :=
  match writeFrame c.pull ⟨fileId, have0⟩ with
  | .error e => (.error e, s)
  | .ok req =>
    match readFrame c.resp (link.answer req) with
    | .error e => (.error e, s)
    | .ok (.gone, _) => (.error (.msg "sender no longer retains the file"), fail fileId now s)
    | .ok (.manifest m, stream) =>
      match checkManifest crypto fileId offeredSize have0 m with
      | .error e => (.error e, s)
      | .ok () =>
        let path := partialPath filesDir fileId
        match c.manifest.ser m with
        | none => (.error .postcard, s)
        | some bytes =>
          let part : Partial :=
            { fileId, sourceIpk := link.ipk, total := m.totalSize, chunkSize := m.chunkSize,
              manifest := some bytes, «have» := have0, state := ACTIVE, path, updatedAt := now }
          let s := (s.partialPut part).createFile path
          match pullChunks crypto m now (List.range' have0.toNat (m.chunks.length - have0.toNat))
              (have0.toNat * m.chunkSize.toNat) stream part s with
          | (.error e, s) => (.error e, s)
          -- no rename: the DONE flip over the `.part` path is the promote
          | (.ok part, s) => (.ok (), s.partialPut { part with state := DONE, updatedAt := now })

/-- The watermark `pull` starts from. -/
def haveOf (s : TransferStore) (fileId : Bytes 32) : UInt32 :=
  ((s.partialGet fileId).map fun p => p.«have»).getD 0

def pull (crypto : Crypto) (c : WireCodec) (filesDir : String) (link : Link) (fileId : Bytes 32)
    (offeredSize now : UInt64) (s : TransferStore) : Except TransferError Unit × TransferStore :=
  pullFrom crypto c filesDir link fileId offeredSize now (haveOf s fileId) s

/-- `gc`: drop expired retention rows, then reap the partials abandoned for a week. -/
def gc (now : UInt64) (s : TransferStore) : TransferStore :=
  let olderThan := if DEAD_PARTIAL_TTL_SECS ≤ now then now - DEAD_PARTIAL_TTL_SECS else 0
  (s.retentionGc now).gcDeadPartials olderThan

namespace TransferStore

variable (s : TransferStore) {path : String} {pos : Nat} {p q : Partial}

@[simp] theorem files_partialPut : (s.partialPut p).files = s.files := rfl

@[simp] theorem retention_partialPut : (s.partialPut p).retention = s.retention := rfl

@[simp] theorem partials_writeFile (b : List UInt8) : (s.writeFile path pos b).partials = s.partials := rfl

@[simp] theorem partials_createFile : (s.createFile path).partials = s.partials := rfl

@[simp] theorem files_writeFile_self (b : List UInt8) :
    (s.writeFile path pos b).files path = some (FileBytes.writeAt ((s.files path).getD []) pos b) := by
  simp [writeFile]

@[simp] theorem files_createFile_self : (s.createFile path).files path = some ((s.files path).getD []) := by
  simp [createFile]

theorem partialGet_partialPut_self : (s.partialPut p).partialGet p.fileId = some p :=
  Table.find?_replace_self Partial.fileId p s.partials

theorem partialPut_partialPut (h : p.fileId = q.fileId) : (s.partialPut p).partialPut q = s.partialPut q := by
  simp only [partialPut, Table.replace_replace h]

theorem writeFile_partialPut (b : List UInt8) :
    (s.partialPut p).writeFile path pos b = (s.writeFile path pos b).partialPut p := rfl

theorem writeFile_writeFile (b₁ b₂ : List UInt8) :
    (s.writeFile path pos b₁).writeFile path (pos + b₁.length) b₂ = s.writeFile path pos (b₁ ++ b₂) := by
  simp only [writeFile]
  congr 1
  funext q
  by_cases hq : q = path
  · simp [hq, FileBytes.writeAt_append]
  · simp [hq]

theorem retentionGet_retentionPut_self (fileId : Bytes 32) (r : Retention) :
    (s.retentionPut fileId r).retentionGet fileId = some r := by
  have h := Table.find?_replace_self Prod.fst (fileId, r) s.retention
  show Option.map Prod.snd (List.find? (fun e => decide (e.1 = (fileId, r).1))
    (Table.replace Prod.fst (fileId, r) s.retention)) = some r
  rw [h]
  rfl

end TransferStore

/-- What `prepare_send` retains for the file `bytes` at `path`, whose manifest encodes as
`manifest`. -/
def retainedOf (path : String) (bytes manifest : List UInt8) (ttlSecs now : UInt64) : Retention :=
  { path, size := bytes.length.toUInt64, chunkSize := CHUNK_SIZE.toUInt32, manifest, expiresAt := now + ttlSecs }

theorem prepareSend_eq (crypto : Crypto) (c : WireCodec) (rd : FileReader) {path : String} (ttlSecs now : UInt64)
    {s : TransferStore} {bytes manifest : List UInt8} (h : s.files path = some bytes)
    (hser : c.manifest.ser (manifestOf crypto bytes) = some manifest) :
    prepareSend crypto c rd path ttlSecs now s =
      .ok (((manifestOf crypto bytes).fileId crypto, bytes.length.toUInt64),
        s.retentionPut ((manifestOf crypto bytes).fileId crypto) (retainedOf path bytes manifest ttlSecs now)) := by
  simp only [prepareSend, h, fromFile_eq, hser]
  rfl

/-- What a `prepare_send` that went through did, given the file it read. -/
theorem prepareSend_ok (crypto : Crypto) (c : WireCodec) (hc : c.Sound) (rd : FileReader) {path : String}
    (ttlSecs now : UInt64) {s s' : TransferStore} {bytes : List UInt8} {fileId : Bytes 32} {size : UInt64}
    (h : s.files path = some bytes) (hsend : prepareSend crypto c rd path ttlSecs now s = .ok ((fileId, size), s')) :
    ∃ manifest, c.manifest.ser (manifestOf crypto bytes) = some manifest ∧
      fileId = (manifestOf crypto bytes).fileId crypto ∧ size = bytes.length.toUInt64 ∧
      s' = s.retentionPut ((manifestOf crypto bytes).fileId crypto) (retainedOf path bytes manifest ttlSecs now) := by
  obtain ⟨manifest, hser⟩ := hc.manifest_ser (manifestOf crypto bytes)
  rw [prepareSend_eq crypto c rd ttlSecs now h hser] at hsend
  simp only [Except.ok.injEq, Prod.mk.injEq] at hsend
  obtain ⟨⟨rfl, rfl⟩, rfl⟩ := hsend
  exact ⟨manifest, hser, rfl, rfl, rfl⟩

theorem toNat_divCeilU64 {a b : UInt64} (hb : 0 < b.toNat) :
    (divCeilU64 a b).toNat = divCeil a.toNat b.toNat := by
  have ha := a.toNat_lt
  unfold divCeilU64 divCeil
  by_cases hr : a.toNat % b.toNat > 0
  · have hrem : a % b > 0 := by
      rw [GT.gt, UInt64.lt_iff_toNat_lt, UInt64.toNat_mod]
      simpa using hr
    have hb2 : 2 ≤ b.toNat := by
      by_contra hone
      rw [show b.toNat = 1 by omega, Nat.mod_one] at hr
      omega
    have hq : a.toNat / b.toNat ≤ a.toNat / 2 := Nat.div_le_div_left hb2 (by decide)
    rw [if_pos hrem, if_pos hr, UInt64.toNat_add, UInt64.toNat_div, UInt64.toNat_one,
      Nat.mod_eq_of_lt (by omega)]
  · have hrem : ¬a % b > 0 := by
      rw [GT.gt, UInt64.lt_iff_toNat_lt, UInt64.toNat_mod]
      simpa using hr
    rw [if_neg hrem, if_neg hr, UInt64.toNat_div]

theorem streamFile_eq (rd : FileReader) {room : Nat} (hroom : 0 < room) :
    ∀ (fuel : Nat) (rest : List UInt8), rest.length < fuel → streamFile rd room fuel rest = rest := by
  intro fuel
  induction fuel with
  | zero => intro rest h; exact absurd h (Nat.not_lt_zero _)
  | succ fuel ih =>
    intro rest hlen
    rw [streamFile]
    split
    · next hzero =>
      -- only EOF makes a read with room return nothing
      by_contra hne
      have := rd.read_pos rest room (fun hnil => hne (by simp [hnil])) hroom
      omega
    · next hpos =>
      have hle := rd.read_le rest room
      rw [ih _ (by simp only [List.length_drop]; omega), List.take_append_drop]

theorem serveStream_pull (c : WireCodec) (hrt : c.pull.RoundTrip) (rd : FileReader) (offered : Bytes 32 → Bool)
    (s : TransferStore) {fileId : Bytes 32} {have0 : UInt32} {ret : Retention} {m : Manifest} {bytes req : List UInt8}
    (hreq : writeFrame c.pull ⟨fileId, have0⟩ = .ok req)
    (hret : s.retentionGet fileId = some ret) (hoffered : offered fileId = true)
    (hm : c.manifest.deser ret.manifest = some m)
    (hfile : s.files ret.path = some bytes) (hcs : 0 < ret.chunkSize.toNat) :
    serveStream c rd offered s req =
      frameOrNothing c.resp (.manifest m) ++ bytes.drop (have0.toNat * ret.chunkSize.toNat) := by
  have hread := readFrame_writeFrame hrt hreq []
  rw [List.append_nil] at hread
  simp only [serveStream, hread, hret, hoffered, Option.filter_some, if_true, hm, hfile]
  rw [streamFile_eq rd hcs _ _ (Nat.lt_succ_self _)]

theorem pullChunks_cons (crypto : Crypto) (m : Manifest) (now : UInt64) {idx : Nat} {idxs : List Nat}
    {stream buf rest : List UInt8} (part : Partial) (s : TransferStore)
    (hread : readExact (expectAt m idx) stream = .ok (buf, rest))
    (hhash : m.chunks[idx]? = some (crypto.blake3 buf)) (pos : Nat) :
    pullChunks crypto m now (idx :: idxs) pos stream part s =
      pullChunks crypto m now idxs (pos + buf.length) rest
        { part with «have» := idx.toUInt32 + 1, updatedAt := now }
        ((s.writeFile part.path pos buf).partialPut { part with «have» := idx.toUInt32 + 1, updatedAt := now }) := by
  simp [pullChunks, hread, hhash]

theorem pullFrom_of_manifest (crypto : Crypto) (c : WireCodec) (filesDir : String) (link : Link)
    {fileId : Bytes 32} {offeredSize now : UInt64} {have0 : UInt32} {req stream bytes : List UInt8} {m : Manifest}
    (s : TransferStore) (hreq : writeFrame c.pull ⟨fileId, have0⟩ = .ok req)
    (hresp : readFrame c.resp (link.answer req) = .ok (.manifest m, stream))
    (hcheck : checkManifest crypto fileId offeredSize have0 m = .ok ())
    (hser : c.manifest.ser m = some bytes) :
    pullFrom crypto c filesDir link fileId offeredSize now have0 s =
      let part : Partial :=
        { fileId, sourceIpk := link.ipk, total := m.totalSize, chunkSize := m.chunkSize,
          manifest := some bytes, «have» := have0, state := ACTIVE,
          path := partialPath filesDir fileId, updatedAt := now }
      match pullChunks crypto m now (List.range' have0.toNat (m.chunks.length - have0.toNat))
          (have0.toNat * m.chunkSize.toNat) stream part
          ((s.partialPut part).createFile (partialPath filesDir fileId)) with
      | (.error e, s) => (.error e, s)
      | (.ok part, s) => (.ok (), s.partialPut { part with state := DONE, updatedAt := now }) := by
  simp only [pullFrom, hreq, hresp, hcheck, hser]

theorem pullFrom_of_readFrame_error (crypto : Crypto) (c : WireCodec) (filesDir : String) (link : Link)
    {fileId : Bytes 32} {offeredSize now : UInt64} {have0 : UInt32} {req : List UInt8} {e : TransferError}
    (s : TransferStore) (hreq : writeFrame c.pull ⟨fileId, have0⟩ = .ok req)
    (hresp : readFrame c.resp (link.answer req) = .error e) :
    pullFrom crypto c filesDir link fileId offeredSize now have0 s = (.error e, s) := by
  simp only [pullFrom, hreq, hresp]

end Promtuz
