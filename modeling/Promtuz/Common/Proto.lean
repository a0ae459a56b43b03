import Promtuz.Lib.Bytes

namespace Promtuz

/-- `common::PROTOCOL_VERSION`. -/
def PROTOCOL_VERSION : UInt16 := 6

/-- `common::quic::id::NodeId`: a 32-byte id in the keyspace shared by relays
and user identity keys. -/
abbrev NodeId := Bytes 32

structure SocketAddr where
  ip : List UInt8
  port : UInt16
  deriving DecidableEq, Repr

structure NodeDescriptor where
  id : NodeId
  addr : SocketAddr
  pubkey : Bytes 32
  deriving DecidableEq

def xor32 (a b : Bytes 32) : Bytes 32 :=
  ⟨Bytes.xorBytes a.1 b.1, by simp [a.2, b.2]⟩

/-- The third-party primitives the code calls and this development does not
embed: `blake3::hash`, and Ed25519 `VerifyingKey::from_bytes` followed by
`verify_strict`. -/
structure Crypto where
  blake3 : List UInt8 → Bytes 32
  verifyStrict : List UInt8 → List UInt8 → List UInt8 → Bool

def nodeIdNew (crypto : Crypto) (key : List UInt8) : NodeId := crypto.blake3 key

def constCrypto : Crypto := ⟨fun _ => (Bytes.replicate 32 0), fun _ _ _ => true⟩

theorem xor32_left_inj {a b t : Bytes 32} (h : xor32 a t = xor32 b t) : a = b :=
  Subtype.ext (Bytes.xorBytes_left_inj (a.2.trans t.2.symm) (b.2.trans t.2.symm) (congrArg Subtype.val h))

end Promtuz
