import Promtuz.Common.Proto

/-! The chunked manifest of a P2P transfer and its stream codec (`transfer/wire.rs`).

`Manifest::from_file` hashes a file a chunk at a time through two loops: an inner one that
calls `read` until the chunk buffer is full or the file ends, and an outer one that stops at the
first short chunk. A `read` may return any non-empty prefix of what is left, so the loops are
stated over a `FileReader` that picks how much each call copies, and `fromFile_eq` shows that
every such reader gives the manifest of the `CHUNK_SIZE` slices of the file.

The frames on a transfer stream are serde values behind a little-endian `u32` length, at most
`MAX_FRAME` bytes long. The format is a `WireCodec` parameter: `readFrame_writeFrame` reads back
every frame `writeFrame` accepts from a codec that round-trips. -/

namespace Promtuz

/-- `transfer::wire::CHUNK_SIZE`. -/
def CHUNK_SIZE : Nat := 256 * 1024

/-- `transfer::wire::MAX_FRAME`. -/
def MAX_FRAME : Nat := 8 * 1024 * 1024

structure Manifest where
  totalSize : UInt64
  chunkSize : UInt32
  chunks : List (Bytes 32)
  deriving DecidableEq

structure Pull where
  fileId : Bytes 32
  «have» : UInt32
  deriving DecidableEq

inductive ServeResp where
  | manifest (m : Manifest)
  | gone
  deriving DecidableEq

/-- What a transfer step fails with: an `std::io` or QUIC stream error, a postcard error, or an
`anyhow!` with the source's text. -/
inductive TransferError where
  | io
  | postcard
  | msg (text : String)
  deriving DecidableEq

/-- `to_le_bytes`, the low `n` bytes of `x`, least significant first. -/
def leBytes (n x : Nat) : List UInt8 := (Bytes.toBeBytes n x).reverse

/-- `u64::div_ceil`. -/
def divCeil (a b : Nat) : Nat := if a % b > 0 then a / b + 1 else a / b

/-- The serde format of the wire types, `postcard::to_allocvec` and `postcard::from_bytes` at
`Manifest`, `ServeResp` and `Pull`. -/
structure WireCodec where
  manifest : Codec Manifest
  resp : Codec ServeResp
  pull : Codec Pull

/-- `write_frame`: what it puts on the stream. -/
def writeFrame {α : Type} (c : Codec α) (v : α) : Except TransferError (List UInt8) :=
  match c.ser v with
  | none => .error .postcard
  | some bytes =>
    if bytes.length ≤ MAX_FRAME then .ok (leBytes 4 bytes.length ++ bytes)
    else .error (.msg "frame too large")

/-- `read_frame`: the value at the front of the stream and the stream after its frame. A stream
that ends early is an I/O error. -/
def readFrame {α : Type} (c : Codec α) (stream : List UInt8) : Except TransferError (α × List UInt8) :=
  if stream.length < 4 then .error .io
  else
    let n := Bytes.beValue (stream.take 4).reverse
    if MAX_FRAME < n then .error (.msg "frame too large")
    else if (stream.drop 4).length < n then .error .io
    else
      match c.deser ((stream.drop 4).take n) with
      | some a => .ok (a, (stream.drop 4).drop n)
      | none => .error .postcard

/-- `let _ = write_frame(..)`: the frame, or nothing when it is refused. -/
def frameOrNothing {α : Type} (c : Codec α) (v : α) : List UInt8 :=
  match writeFrame c v with
  | .ok frame => frame
  | .error _ => []

structure FileReader where
  read : List UInt8 → Nat → Nat
  read_pos : ∀ rest room, rest ≠ [] → 0 < room → 0 < read rest room
  read_le : ∀ rest room, read rest room ≤ min rest.length room

/-- The inner loop of `from_file`: `read` into the chunk buffer until it is full or the file
ends. Returns the filled part and what the file has left. -/
def fillChunk (rd : FileReader) : Nat → List UInt8 → List UInt8 → List UInt8 × List UInt8
  | 0, filled, rest => (filled, rest)
  | fuel + 1, filled, rest =>
    if filled.length < CHUNK_SIZE then
      let n := rd.read rest (CHUNK_SIZE - filled.length)
      if n = 0 then (filled, rest) else fillChunk rd fuel (filled ++ rest.take n) (rest.drop n)
    else (filled, rest)

/-- The outer loop of `from_file`: hash each chunk and add up the sizes, stopping at an empty
chunk or after the first short one. -/
def fromFileLoop (crypto : Crypto) (rd : FileReader) :
    Nat → List UInt8 → List (Bytes 32) → UInt64 → List (Bytes 32) × UInt64
  | 0, _, chunks, total => (chunks, total)
  | fuel + 1, rest, chunks, total =>
    let (filled, rest) := fillChunk rd CHUNK_SIZE [] rest
    if filled.length = 0 then (chunks, total)
    else
      let chunks := chunks ++ [crypto.blake3 filled]
      let total := total + filled.length.toUInt64
      if filled.length < CHUNK_SIZE then (chunks, total)
      else fromFileLoop crypto rd fuel rest chunks total

/-- `Manifest::from_file` on the file's bytes, `none` when it does not open. -/
def Manifest.fromFile (crypto : Crypto) (rd : FileReader) (file : Option (List UInt8)) :
    Except TransferError Manifest :=
  match file with
  | none => .error .io
  | some bytes =>
    let (chunks, total) := fromFileLoop crypto rd (bytes.length + 1) bytes [] 0
    .ok { totalSize := total, chunkSize := CHUNK_SIZE.toUInt32, chunks }

/-- `Manifest::file_id`: the manifest's own hash under its domain. -/
def Manifest.fileId (crypto : Crypto) (m : Manifest) : Bytes 32 :=
  crypto.blake3 ("promtuz/transfer/manifest".toUTF8.toList ++ leBytes 8 m.totalSize.toNat ++
    leBytes 4 m.chunkSize.toNat ++ m.chunks.flatMap fun c => c.1)

def chunkAt (bytes : List UInt8) (i : Nat) : List UInt8 := (bytes.drop (i * CHUNK_SIZE)).take CHUNK_SIZE

def chunkCount (n : Nat) : Nat := divCeil n CHUNK_SIZE

def manifestOf (crypto : Crypto) (bytes : List UInt8) : Manifest :=
  { totalSize := bytes.length.toUInt64, chunkSize := CHUNK_SIZE.toUInt32,
    chunks := (List.range (chunkCount bytes.length)).map fun i => crypto.blake3 (chunkAt bytes i) }

section FromFile

variable (crypto : Crypto) (rd : FileReader)

theorem CHUNK_SIZE_eq : CHUNK_SIZE = 262144 := rfl

theorem fillChunk_eq : ∀ (fuel : Nat) (filled rest : List UInt8), filled.length ≤ CHUNK_SIZE →
    CHUNK_SIZE - filled.length ≤ fuel →
    fillChunk rd fuel filled rest =
      (filled ++ rest.take (CHUNK_SIZE - filled.length), rest.drop (CHUNK_SIZE - filled.length)) := by
  intro fuel
  induction fuel with
  | zero =>
    intro filled rest hle hfuel
    have hfull : CHUNK_SIZE - filled.length = 0 := by omega
    simp [fillChunk, hfull]
  | succ fuel ih =>
    intro filled rest hle hfuel
    rw [fillChunk]
    dsimp only
    split
    · next hroom =>
      have hle' := rd.read_le rest (CHUNK_SIZE - filled.length)
      split
      · next hzero =>
        -- a read that copies nothing with room left is at EOF
        have hnil : rest = [] := by
          by_contra hne
          have := rd.read_pos rest (CHUNK_SIZE - filled.length) hne (by omega)
          omega
        simp [hnil]
      · next hpos =>
        set n := rd.read rest (CHUNK_SIZE - filled.length)
        have hlen : (filled ++ rest.take n).length = filled.length + n := by
          simp only [List.length_append, List.length_take]
          omega
        have hsplit : CHUNK_SIZE - filled.length = n + (CHUNK_SIZE - (filled.length + n)) := by omega
        rw [ih _ _ (by omega) (by omega), hlen, hsplit, List.take_add, List.drop_drop, List.append_assoc]
    · next hfull =>
      have h0 : CHUNK_SIZE - filled.length = 0 := by omega
      simp [h0]

theorem fillChunk_nil (rest : List UInt8) :
    fillChunk rd CHUNK_SIZE [] rest = (rest.take CHUNK_SIZE, rest.drop CHUNK_SIZE) := by
  have h := fillChunk_eq rd CHUNK_SIZE [] rest (Nat.zero_le _) (Nat.sub_le _ _)
  rw [List.length_nil, Nat.sub_zero, List.nil_append] at h
  exact h

theorem chunkCount_of_le {n : Nat} (h : CHUNK_SIZE ≤ n) :
    chunkCount n = chunkCount (n - CHUNK_SIZE) + 1 := by
  rw [CHUNK_SIZE_eq] at h
  have hmod : (n - 262144) % 262144 = n % 262144 := by omega
  unfold chunkCount divCeil
  rw [CHUNK_SIZE_eq, hmod]
  split <;> omega

theorem chunkCount_of_lt {n : Nat} (hpos : 0 < n) (h : n < CHUNK_SIZE) : chunkCount n = 1 := by
  rw [CHUNK_SIZE_eq] at h
  rw [chunkCount, divCeil, CHUNK_SIZE_eq, if_pos (by omega)]
  omega

theorem fromFileLoop_eq : ∀ (fuel : Nat) (rest : List UInt8) (chunks : List (Bytes 32)) (total : UInt64),
    rest.length / CHUNK_SIZE < fuel →
    fromFileLoop crypto rd fuel rest chunks total =
      (chunks ++ (List.range (chunkCount rest.length)).map (fun i => crypto.blake3 (chunkAt rest i)),
        total + rest.length.toUInt64) := by
  intro fuel
  induction fuel with
  | zero => intro rest chunks total h; exact absurd h (Nat.not_lt_zero _)
  | succ fuel ih =>
    intro rest chunks total hfuel
    simp only [fromFileLoop, fillChunk_nil, List.length_take]
    by_cases hnil : rest = []
    · subst hnil
      simp [chunkCount, divCeil]
    have hpos : 0 < rest.length := List.length_pos_of_ne_nil hnil
    by_cases hshort : rest.length < CHUNK_SIZE
    · -- the last, short chunk: the loop stops after it
      have hmin : min CHUNK_SIZE rest.length = rest.length := by omega
      simp only [hmin, Nat.pos_iff_ne_zero.mp hpos, if_false, hshort, if_true,
        chunkCount_of_lt hpos hshort, List.range_one, List.map_singleton, chunkAt, Nat.zero_mul,
        List.drop_zero, List.take_of_length_le (Nat.le_of_lt hshort)]
    · -- a full chunk: hash it and go on with the rest
      have hge : CHUNK_SIZE ≤ rest.length := Nat.le_of_not_lt hshort
      have hmin : min CHUNK_SIZE rest.length = CHUNK_SIZE := by omega
      have hfuel' : (rest.drop CHUNK_SIZE).length / CHUNK_SIZE < fuel := by
        simp only [List.length_drop, CHUNK_SIZE_eq] at hfuel hge ⊢
        omega
      have hcs : CHUNK_SIZE ≠ 0 := by simp [CHUNK_SIZE_eq]
      simp only [hmin, hcs, if_false, Nat.lt_irrefl, ih _ _ _ hfuel', List.length_drop,
        chunkCount_of_le hge, List.range_succ_eq_map, List.map_cons,
        List.map_map, List.append_assoc, List.cons_append, List.nil_append]
      refine Prod.ext ?_ ?_
      · simp only [chunkAt, Function.comp_def, Nat.zero_mul, List.drop_zero, List.cons.injEq,
          List.append_cancel_left_eq, true_and]
        refine List.map_congr_left fun i _ => ?_
        rw [List.drop_drop, Nat.add_comm, Nat.succ_mul]
      · have hsum : (rest.length - CHUNK_SIZE).toUInt64 + CHUNK_SIZE.toUInt64 = rest.length.toUInt64 := by
          rw [← UInt64.ofNat_add, Nat.sub_add_cancel hge]
        simp only [UInt64.add_assoc, UInt64.add_comm CHUNK_SIZE.toUInt64, hsum]

theorem fromFile_eq (bytes : List UInt8) :
    Manifest.fromFile crypto rd (some bytes) = .ok (manifestOf crypto bytes) := by
  have hfuel : bytes.length / CHUNK_SIZE < bytes.length + 1 := by
    simp only [CHUNK_SIZE_eq]
    omega
  simp [Manifest.fromFile, fromFileLoop_eq crypto rd _ bytes [] 0 hfuel, manifestOf]

end FromFile

/-- `v` encodes in at most `MAX_FRAME` bytes, so `write_frame` takes it. -/
def FrameFits {α : Type} (c : Codec α) (v : α) : Prop := ∃ bytes, c.ser v = some bytes ∧ bytes.length ≤ MAX_FRAME

/-- What the transfer code relies on of its serde format: each codec reads back what it wrote,
a manifest always encodes, and a pull request always fits a frame. -/
structure WireCodec.Sound (c : WireCodec) : Prop where
  manifest : c.manifest.RoundTrip
  resp : c.resp.RoundTrip
  pull : c.pull.RoundTrip
  manifest_ser : ∀ m, ∃ bytes, c.manifest.ser m = some bytes
  pull_fits : ∀ p, FrameFits c.pull p

section Frame

variable {α : Type} {c : Codec α} {v : α}

theorem leBytes_four {n : Nat} (h : n < 2 ^ 32) : Bytes.beValue (leBytes 4 n).reverse = n := by
  rw [leBytes, List.reverse_reverse, Bytes.beValue_toBeBytes, Nat.mod_eq_of_lt (by simpa using h)]

theorem writeFrame_of_ser {bytes : List UInt8} (hser : c.ser v = some bytes) (hfit : bytes.length ≤ MAX_FRAME) :
    writeFrame c v = .ok (leBytes 4 bytes.length ++ bytes) := by
  simp only [writeFrame, hser, if_pos hfit]

theorem writeFrame_of_frameFits (h : FrameFits c v) : writeFrame c v = .ok (frameOrNothing c v) := by
  obtain ⟨bytes, hser, hfit⟩ := h
  rw [frameOrNothing, writeFrame_of_ser hser hfit]

theorem frameOrNothing_of_not_frameFits (h : ¬FrameFits c v) : frameOrNothing c v = [] := by
  unfold frameOrNothing writeFrame
  cases hser : c.ser v with
  | none => rfl
  | some bytes => simp only [if_neg fun hfit => h ⟨bytes, hser, hfit⟩]

theorem readFrame_writeFrame (hrt : c.RoundTrip) {frame : List UInt8} (hw : writeFrame c v = .ok frame)
    (rest : List UInt8) : readFrame c (frame ++ rest) = .ok (v, rest) := by
  unfold writeFrame at hw
  split at hw
  · cases hw
  · next bytes hser =>
    split at hw
    · next hle =>
      cases hw
      have hlen : (leBytes 4 bytes.length).length = 4 := by simp [leBytes]
      have hsmall : bytes.length < 2 ^ 32 := by
        simp only [MAX_FRAME] at hle
        omega
      have htake : ((leBytes 4 bytes.length ++ bytes) ++ rest).take 4 = leBytes 4 bytes.length := by
        simp [List.append_assoc, List.take_left' hlen]
      have hdrop : ((leBytes 4 bytes.length ++ bytes) ++ rest).drop 4 = bytes ++ rest := by
        simp [List.append_assoc, List.drop_left' hlen]
      simp only [readFrame, htake, hdrop, leBytes_four hsmall, List.length_append, hlen,
        List.take_left, List.drop_left, hrt v bytes hser]
      rw [if_neg (by omega), if_neg (Nat.not_lt.mpr hle), if_neg (by omega)]
    · cases hw

theorem readFrame_frameOrNothing (hrt : c.RoundTrip) (h : FrameFits c v) (rest : List UInt8) :
    readFrame c (frameOrNothing c v ++ rest) = .ok (v, rest) :=
  readFrame_writeFrame hrt (writeFrame_of_frameFits h) rest

theorem readFrame_empty (rest : List UInt8) :
    readFrame c (List.replicate 4 0 ++ rest) =
      match c.deser [] with
      | some a => .ok (a, rest)
      | none => .error .postcard := by
  have hzero : Bytes.beValue (List.replicate 4 (0 : UInt8)).reverse = 0 := by decide
  simp only [readFrame, List.length_append, List.length_replicate, List.take_left' (List.length_replicate ..),
    List.drop_left' (List.length_replicate ..), hzero, List.take_zero, List.drop_zero]
  rw [if_neg (by omega), if_neg (by decide), if_neg (by omega)]

end Frame

end Promtuz
