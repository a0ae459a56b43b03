import Promtuz.Common.Proto

namespace Promtuz

/-- `client_rel::DispatchP`: a signed client dispatch as it travels and is queued. -/
structure DispatchP where
  «to» : Bytes 32
  «from» : Bytes 32
  id : Bytes 16
  payload : List UInt8
  sig : Bytes 64
  acceptedAtMs : UInt64
  wake : Bool
  deriving DecidableEq

/-- `client_rel::DeliverP`: a dispatch as the recipient receives it, without `to`. -/
structure DeliverP where
  id : Bytes 16
  «from» : Bytes 32
  payload : List UInt8
  sig : Bytes 64
  acceptedAtMs : UInt64
  deriving DecidableEq

def dispatchToDeliver (d : DispatchP) : DeliverP := ⟨d.id, d.from, d.payload, d.sig, d.acceptedAtMs⟩

inductive ForwardOutcome where
  | delivered
  | stored
  | notOwner
  | queueFull
  | badSig
  | rateLimited
  deriving DecidableEq, Repr

/-- `client_rel::DispatchAckP`: the relay's answer to a client's dispatch. -/
inductive DispatchAck where
  | queued (acceptedAtMs : UInt64)
  | delivered (acceptedAtMs : UInt64)
  | notFound
  | invalidSig
  | queueFull
  | forwarded (acceptedAtMs : UInt64)
  | error (reason : String)
  deriving DecidableEq, Repr

end Promtuz
