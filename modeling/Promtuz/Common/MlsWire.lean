import Promtuz.Common.Proto

namespace Promtuz

def MLS_WIRE_VERSION : UInt16 := 12

def KP_STASH_TARGET : Nat := 100

def MAX_KP_SKEW_MS : UInt64 := 60000

def KEYPACKAGE_LIFETIME_MS : UInt64 := 30 * 24 * 3600000

def KP_PUBLISH_DOMAIN : List UInt8 := "promtuz-mls-v1 kp-publish".toUTF8.toList

def KP_REFILL_DOMAIN : List UInt8 := "promtuz-mls-v1 kp-refill".toUTF8.toList

def KP_RECORD_DOMAIN : List UInt8 := "promtuz-mls-v1 kp-record".toUTF8.toList

/-- `mls_wire::KeyPackageRecord`: one one-time KeyPackage as its owner signed it. -/
structure KeyPackageRecord where
  ipk : Bytes 32
  kpRef : List UInt8
  kpBytes : List UInt8
  expiresAtMs : UInt64
  ownerSig : Bytes 64
  deriving DecidableEq

/-- `kp_record_signing_input`: the transcript `owner_sig` signs, which folds in
`BLAKE3(kp_bytes)`. -/
def kpRecordSigningInput (crypto : Crypto) (protocolVersion : UInt16) (ipk : Bytes 32)
    (kpRef kpBytes : List UInt8) (expiresAtMs : UInt64) : List UInt8 :=
  KP_RECORD_DOMAIN ++ Bytes.toBeBytes 2 protocolVersion.toNat ++ ipk.1 ++
    Bytes.toBeBytes 4 kpRef.length ++ kpRef ++ (crypto.blake3 kpBytes).1 ++
    Bytes.toBeBytes 8 expiresAtMs.toNat

/-- `kp_publish_records_digest`: one BLAKE3 hasher fed each record's signing input in
turn, which is the hash of their concatenation. -/
def kpPublishRecordsDigest (crypto : Crypto) (protocolVersion : UInt16)
    (records : List KeyPackageRecord) : Bytes 32 :=
  crypto.blake3 (records.flatMap fun r =>
    kpRecordSigningInput crypto protocolVersion r.ipk r.kpRef r.kpBytes r.expiresAtMs)

/-- The batch transcript that `kp_publish_signing_input` and `kp_refill_signing_input`
both build, under their own domain tag. -/
def kpBatchSigningInput (domain : List UInt8) (protocolVersion : UInt16) (ipk : Bytes 32)
    (recordsDigest : Bytes 32) (recordCount : UInt32) (timestamp : UInt64) : List UInt8 :=
  domain ++ Bytes.toBeBytes 2 protocolVersion.toNat ++ ipk.1 ++
    Bytes.toBeBytes 4 recordCount.toNat ++ recordsDigest.1 ++ Bytes.toBeBytes 8 timestamp.toNat

def kpPublishSigningInput (protocolVersion : UInt16) (ipk : Bytes 32) (recordsDigest : Bytes 32)
    (recordCount : UInt32) (timestamp : UInt64) : List UInt8 :=
  kpBatchSigningInput KP_PUBLISH_DOMAIN protocolVersion ipk recordsDigest recordCount timestamp

def kpRefillSigningInput (protocolVersion : UInt16) (ipk : Bytes 32) (recordsDigest : Bytes 32)
    (recordCount : UInt32) (timestamp : UInt64) : List UInt8 :=
  kpBatchSigningInput KP_REFILL_DOMAIN protocolVersion ipk recordsDigest recordCount timestamp

structure KeyPackagePublishReq where
  ipk : Bytes 32
  records : List KeyPackageRecord
  timestamp : UInt64
  sig : Bytes 64

inductive KeyPackagePublishOutcome where
  | stored
  | badSig
  | expired
  | notOwner
  | rateLimited
  | tooMany
  | staticFieldsConflict
  deriving DecidableEq, Repr

structure KeyPackageRefillReq where
  ipk : Bytes 32
  records : List KeyPackageRecord
  timestamp : UInt64
  sig : Bytes 64

inductive KeyPackageRefillOutcome where
  | appended
  | badSig
  | expired
  | notOwner
  | rateLimited
  | tooMany
  | staticFieldsConflict
  deriving DecidableEq, Repr

structure KeyPackageFetchReq where
  targetIpk : Bytes 32
  requesterRelayId : NodeId
  timestamp : UInt64

structure KeyPackageFetchFound where
  record : KeyPackageRecord
  remaining : UInt32
  staticHash : Bytes 32
  deriving DecidableEq

inductive KeyPackageFetchOutcome where
  | found (found : KeyPackageFetchFound)
  | noStash
  | notOwner
  | rateLimited
  deriving DecidableEq

def MLS_ENVELOPE_SIG_DOMAIN : List UInt8 := "promtuz-mls-v1 envelope".toUTF8.toList

/-- `mls_wire::MlsApplicationEnvelopeP`: an MLS application or handshake message with its
plaintext routing fields and the sender's signature. -/
structure MlsApplicationEnvelopeP where
  version : UInt8
  groupId : Bytes 32
  epoch : UInt64
  mlsMessage : List UInt8
  senderSig : Bytes 64
  deriving DecidableEq

def envelopeSigningInput (crypto : Crypto) (protocolVersion : UInt16) (toIpk groupId : Bytes 32)
    (epoch : UInt64) (mlsMessageBytes : List UInt8) : List UInt8 :=
  MLS_ENVELOPE_SIG_DOMAIN ++ Bytes.toBeBytes 2 protocolVersion.toNat ++ toIpk.1 ++ groupId.1 ++
    Bytes.toBeBytes 8 epoch.toNat ++ (crypto.blake3 mlsMessageBytes).1

def INVITE_SIG_DOMAIN : List UInt8 := "promtuz-mls-v1 invite".toUTF8.toList

/-- `mls_wire::Invite`: a bearer pairing invite its issuer signed. -/
structure Invite where
  id : Bytes 16
  expiryMs : UInt64
  sig : Bytes 64
  deriving DecidableEq

/-- `mls_wire::PairingP`, the pairing payload of a Welcome from a stranger. -/
structure PairingP where
  invite : Invite
  senderName : String
  deriving DecidableEq

def inviteSigningInput (protocolVersion : UInt16) (id : Bytes 16) (expiryMs : UInt64) : List UInt8 :=
  INVITE_SIG_DOMAIN ++ Bytes.toBeBytes 2 protocolVersion.toNat ++ id.1 ++ Bytes.toBeBytes 8 expiryMs.toNat

def DECLINE_GROUP_BUILD_FAILED : UInt8 := 0

def MAX_WELCOME_BYTES : Nat := 256 * 1024

def MAX_WELCOMES_PER_RECIPIENT : Nat := 32

def MAX_WELCOME_ACK_IDS : Nat := MAX_WELCOMES_PER_RECIPIENT

def WELCOME_ID_LEN : Nat := 8

def WELCOME_LIFETIME_MS : UInt64 := 30 * 24 * 3600000

def WELCOME_ENVELOPE_SIG_DOMAIN : List UInt8 := "promtuz-mls-v1 welcome-envelope".toUTF8.toList

def WELCOME_FETCH_DOMAIN : List UInt8 := "promtuz-mls-v1 welcome-fetch".toUTF8.toList

def WELCOME_ACK_DOMAIN : List UInt8 := "promtuz-mls-v1 welcome-ack".toUTF8.toList

/-- `mls_wire::WelcomeEnvelopeP`: an inviter's signed MLS Welcome for one invitee. -/
structure WelcomeEnvelopeP where
  groupId : Bytes 32
  senderIpk : Bytes 32
  recipientIpk : Bytes 32
  welcomeBlob : List UInt8
  kpRefUsed : Bytes 32
  senderSig : Bytes 64
  deriving DecidableEq

def welcomeEnvelopeSigningInput (crypto : Crypto) (protocolVersion : UInt16)
    (groupId senderIpk recipientIpk kpRefUsed : Bytes 32) (welcomeBlob : List UInt8) : List UInt8 :=
  WELCOME_ENVELOPE_SIG_DOMAIN ++ Bytes.toBeBytes 2 protocolVersion.toNat ++ groupId.1 ++
    senderIpk.1 ++ recipientIpk.1 ++ kpRefUsed.1 ++ (crypto.blake3 welcomeBlob).1

def welcomeFetchSigningInput (protocolVersion : UInt16) (userIpk : Bytes 32) (requesterRelayId : NodeId)
    (timestamp : UInt64) : List UInt8 :=
  WELCOME_FETCH_DOMAIN ++ Bytes.toBeBytes 2 protocolVersion.toNat ++ userIpk.1 ++
    requesterRelayId.1 ++ Bytes.toBeBytes 8 timestamp.toNat

/-- `welcome_ack_signing_input`: the ids enter through one BLAKE3 hasher fed each in turn. -/
def welcomeAckSigningInput (crypto : Crypto) (protocolVersion : UInt16) (userIpk : Bytes 32)
    (requesterRelayId : NodeId) (welcomeIds : List (Bytes WELCOME_ID_LEN)) (timestamp : UInt64) :
    List UInt8 :=
  WELCOME_ACK_DOMAIN ++ Bytes.toBeBytes 2 protocolVersion.toNat ++ userIpk.1 ++
    requesterRelayId.1 ++ Bytes.toBeBytes 4 welcomeIds.length ++
    (crypto.blake3 (welcomeIds.flatMap Subtype.val)).1 ++ Bytes.toBeBytes 8 timestamp.toNat

structure WelcomePublishReq where
  envelope : WelcomeEnvelopeP
  timestamp : UInt64

inductive WelcomePublishOutcome where
  | stored
  | badSig
  | staleTimestamp
  | notOwner
  | queueFull
  | rateLimited
  deriving DecidableEq, Repr

structure WelcomeFetchReq where
  userIpk : Bytes 32
  requesterRelayId : NodeId
  timestamp : UInt64
  userSig : Bytes 64

structure WelcomeEntry where
  welcomeId : Bytes WELCOME_ID_LEN
  envelope : WelcomeEnvelopeP
  deriving DecidableEq

structure WelcomeFetchFound where
  welcomes : List WelcomeEntry
  deriving DecidableEq

inductive WelcomeFetchOutcome where
  | found (found : WelcomeFetchFound)
  | badSig
  | notOwner
  | rateLimited
  deriving DecidableEq

structure WelcomeAckReq where
  userIpk : Bytes 32
  requesterRelayId : NodeId
  welcomeIds : List (Bytes WELCOME_ID_LEN)
  timestamp : UInt64
  userSig : Bytes 64

structure WelcomeAckResp where
  ok : Bool
  deriving DecidableEq

def PAIR_DECLINE_SIG_DOMAIN : List UInt8 := "promtuz-pair-decline-v1".toUTF8.toList

/-- `mls_wire::PairDeclineP`: the invitee's signed refusal of a pairing. -/
structure PairDeclineP where
  senderIpk : Bytes 32
  recipientIpk : Bytes 32
  reason : UInt8
  timestamp : UInt64
  sig : Bytes 64
  deriving DecidableEq

def pairDeclineSigningInput (protocolVersion : UInt16) (senderIpk recipientIpk : Bytes 32) (reason : UInt8)
    (timestamp : UInt64) : List UInt8 :=
  PAIR_DECLINE_SIG_DOMAIN ++ Bytes.toBeBytes 2 protocolVersion.toNat ++ senderIpk.1 ++ recipientIpk.1 ++ [reason] ++
    Bytes.toBeBytes 8 timestamp.toNat

end Promtuz
