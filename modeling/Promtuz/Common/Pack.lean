import Promtuz.Common.Proto

/-! `common::proto::pack`: the length-prefixed frames every QUIC stream carries. `pack` puts a
4-byte big-endian length before the postcard encoding; `unpack` reads the prefix as a 1-byte and
a 3-byte read, refuses a length over `MAX_FRAME_BYTES`, and reads the body in chunks of
`FRAME_CHUNK_BYTES`. The stream is the transport's deliveries: a `read` returns at most the rest
of the current segment. Timeouts are not modelled. -/

namespace Promtuz

def MAX_FRAME_BYTES : Nat := 2 ^ 20

def FRAME_CHUNK_BYTES : Nat := 16 * 1024

namespace Pack

inductive PackError where
  | serFailed
  | frameTooLarge (len : Nat)
  deriving DecidableEq, Repr

/-- `UnpackError`, with the variants the model raises: `ReadFailed` is the `UnexpectedEof` of a
stream that ends inside a frame. -/
inductive UnpackError where
  | readFailed
  | deserFailed
  | frameTooLarge (len : Nat)
  deriving DecidableEq, Repr

/-- `Packer::pack`: the encoding behind its 4-byte big-endian length, or `FrameTooLarge`. -/
def pack {α : Type} (codec : Codec α) (v : α) : Except PackError (List UInt8) :=
  match codec.ser v with
  | none => .error .serFailed
  | some packet =>
      if MAX_FRAME_BYTES < packet.length then .error (.frameTooLarge packet.length)
      else .ok (Bytes.toBeBytes 4 packet.length ++ packet)

abbrev Segments := List (List UInt8)

/-- `AsyncReadExt::read_exact` of `n` bytes: `read` after `read` into the rest of the buffer,
`UnexpectedEof` on a read of nothing. -/
def readExact (n : Nat) : Segments → Option (List UInt8 × Segments)
  | [] => if n = 0 then some ([], []) else none
  | seg :: rest =>
      if n = 0 then some ([], seg :: rest)
      else if seg = [] then none
      else if n < seg.length then some (seg.take n, seg.drop n :: rest)
      else (readExact (n - seg.length) rest).map fun r => (seg ++ r.1, r.2)

/-- The body loop of `unpack`: while `frame` is short of `frameSize`, resize it by at most
`FRAME_CHUNK_BYTES` and `read_exact` into the new part. Every pass grows `frame`, so
`frameSize` passes are enough (`readBody_spec`). -/
def readBody (frameSize : Nat) : Nat → List UInt8 → Segments → Option (List UInt8 × Segments)
  | 0, frame, rx => some (frame, rx)
  | fuel + 1, frame, rx =>
      if frame.length < frameSize then
        let chunk := min (frameSize - frame.length) FRAME_CHUNK_BYTES
        (readExact chunk rx).bind fun r => readBody frameSize fuel (frame ++ r.1) r.2
      else some (frame, rx)

/-- `unpack`: the value of the next frame and the stream after it. -/
def unpack {α : Type} (codec : Codec α) (rx : Segments) : Except UnpackError (α × Segments) :=
  match readExact 1 rx with
  | none => .error .readFailed
  | some (len0, rx) =>
      match readExact 3 rx with
      | none => .error .readFailed
      | some (len13, rx) =>
          let frameSize := Bytes.beValue (len0 ++ len13)
          if MAX_FRAME_BYTES < frameSize then .error (.frameTooLarge frameSize)
          else
            match readBody frameSize frameSize [] rx with
            | none => .error .readFailed
            | some (frame, rx) =>
                match codec.deser frame with
                | none => .error .deserFailed
                | some v => .ok (v, rx)

def unpackN {α : Type} (codec : Codec α) : Nat → Segments → Except UnpackError (List α × Segments)
  | 0, rx => .ok ([], rx)
  | n + 1, rx =>
      match unpack codec rx with
      | .error e => .error e
      | .ok (v, rx) => (unpackN codec n rx).map fun r => (v :: r.1, r.2)

/-- `BoundedVec::visit_seq`: the elements as `SeqAccess` yields them (`none` for one that fails
to decode), refused at the first element past `max`. -/
def visitSeq {α : Type} (max : Nat) (out : List α) : List (Option α) → Option (List α)
  | [] => some out
  | none :: _ => none
  | some item :: rest => if out.length = max then none else visitSeq max (out ++ [item]) rest

end Pack

end Promtuz
