import Promtuz.Common.Proto
import Promtuz.Lib.Reach
import Promtuz.Lib.Adopt

/-! The resolver's registries of relays and gateways (`resolver/mod.rs`, `resolver/relays.rs`).
A registration that passes the hello checks first takes the id's old entry out and closes its
connection (last connection wins), then asks the admission policy for a slot: a quota per
source group, and at capacity the eviction of an entry that never heartbeated or went silent.
A watcher removes an entry once its own connection closes.

A `HashMap<RelayId, RelayEntry>` is the list of its entries in iteration order, and a
`quinn::Connection` is its identity (the `Arc` pointer) with the address it was accepted from.
Instants are milliseconds. -/

namespace Promtuz

def MAX_RELAYS : Nat := 1024

def MAX_GATEWAYS : Nat := 64

def MAX_REGISTRATIONS_PER_SOURCE : Nat := 8

/-- `common::quic::RESOLVER_RELAY_HEARTBEAT_INTERVAL`, in seconds. -/
def RESOLVER_RELAY_HEARTBEAT_INTERVAL : Nat := 20

def HEARTBEAT_TIMEOUT : Nat := RESOLVER_RELAY_HEARTBEAT_INTERVAL * 3 * 1000

/-- The `common::quic::CloseReason`s the registration paths raise. -/
inductive CloseReason where
  | reconnecting
  | packetMismatch
  | badSignature
  | staleTimestamp
  | registryFull
  deriving DecidableEq, Repr

/-- `std::net::IpAddr`. -/
inductive IpAddr where
  | v4 (a b c d : UInt8)
  | v6 (a b c d e f g h : UInt16)
  deriving DecidableEq, Repr

/-- `source_group`: an IPv4 address on its own (as its IPv6-mapped octets), an IPv6 address by
its /64. -/
def sourceGroup : IpAddr → List UInt8
  | .v4 a b c d => [0, 0, 0, 0, 0, 0, 0, 0, 0, 0, 0xff, 0xff, a, b, c, d]
  | .v6 a b c d _ _ _ _ => [a, b, c, d, 0, 0, 0, 0].flatMap fun (s : UInt16) => [(s >>> 8).toUInt8, s.toUInt8]

structure Conn where
  id : Nat
  ip : IpAddr
  deriving DecidableEq, Repr

/-- `RelayEntry`, with the fields registration and admission read. -/
structure RelayEntry where
  id : NodeId
  conn : Conn
  established : Bool
  lastHeartbeatAt : Nat
  deriving DecidableEq, Repr

/-- `RelayEntry::new`: stamped with the registration instant, not yet established. -/
def RelayEntry.new (id : NodeId) (conn : Conn) (now : Nat) : RelayEntry := ⟨id, conn, false, now⟩

/-- `Slot`: an entry reduced to what admission ranks on. -/
structure Slot where
  id : NodeId
  ip : IpAddr
  established : Bool
  lastSeen : Nat
  deriving DecidableEq, Repr

def RelayEntry.slot (e : RelayEntry) : Slot := ⟨e.id, e.conn.ip, e.established, e.lastHeartbeatAt⟩

inductive Admission where
  | insert
  | evict (victim : NodeId)
  | reject
  deriving DecidableEq, Repr

/-- `Iterator::min_by_key` on `last_seen`: the first of the least, a later slot taking over only
when it was heard strictly earlier. -/
def minByLastSeen : List Slot → Option Slot
  | [] => none
  | s :: rest => some (rest.foldl (Adopt.adopt fun m x => x.lastSeen < m.lastSeen) s)

def Slot.evictable (now : Nat) (s : Slot) : Bool := !s.established || decide (HEARTBEAT_TIMEOUT ≤ now - s.lastSeen)

/-- `admit`: refuse a source group at its quota; insert below capacity; at capacity displace
the least recently heard of the evictable slots, or refuse. -/
def admitApplicant (slots : List Slot) (applicantIp : IpAddr) (capacity now : Nat) : Admission :=
  let group := sourceGroup applicantIp
  let fromGroup := (slots.filter fun s => sourceGroup s.ip = group).length
  if MAX_REGISTRATIONS_PER_SOURCE ≤ fromGroup then .reject
  else if slots.length < capacity then .insert
  else
    match minByLastSeen (slots.filter (Slot.evictable now)) with
    | some s => .evict s.id
    | none => .reject

/-- `CloseReason::close`: closing a connection that is already closed changes nothing. -/
def closeConn (closed : List Nat) (conn : Nat) : List Nat := if conn ∈ closed then closed else closed ++ [conn]

def supersede (entries : List RelayEntry) (closed : List Nat) (conn : Conn) (id : NodeId) : List Nat :=
  match entries.find? (·.id == id) with
  | some existing =>
      if existing.conn.id ≠ conn.id ∧ existing.conn.id ∉ closed then closed ++ [existing.conn.id] else closed
  | none => closed

/-- The body `register_relay` and `register_gateway` share, after `verify_signed_packet` (whose
outcome is `verified`): take out the id's entry, closing its connection if it is another live
one; then admit, evict or refuse. The result, the entries and the closed connections after. -/
def registerIn (capacity : Nat) (entries : List RelayEntry) (closed : List Nat) (conn : Conn) (id : NodeId)
    (verified : Except CloseReason Unit) (now : Nat) : Except CloseReason Unit × List RelayEntry × List Nat :=
  match verified with
  | .error reason => (.error reason, entries, closed)
  | .ok () =>
      let closed := supersede entries closed conn id
      let entries := entries.filter (·.id != id)
      match admitApplicant (entries.map RelayEntry.slot) conn.ip capacity now with
      | .insert => (.ok (), entries ++ [RelayEntry.new id conn now], closed)
      | .evict victim =>
          let closed := match entries.find? (·.id == victim) with
            | some evicted => closeConn closed evicted.conn.id
            | none => closed
          (.ok (), entries.filter (·.id != victim) ++ [RelayEntry.new id conn now], closed)
      | .reject => (.error .registryFull, entries, closed)

/-- `Resolver::verify_heartbeat`, after the signature checks: the id must be registered on this
very connection; its entry is then touched and established. -/
def verifyHeartbeat (entries : List RelayEntry) (conn : Conn) (id : NodeId) (verified : Except CloseReason Unit)
    (now : Nat) : Except CloseReason Unit × List RelayEntry :=
  match verified with
  | .error reason => (.error reason, entries)
  | .ok () =>
      match entries.find? (·.id == id) with
      | some e =>
          if e.conn.id = conn.id then
            (.ok (), entries.map fun e' => if e'.id = id then { e' with lastHeartbeatAt := now, established := true } else e')
          else (.error .packetMismatch, entries)
      | none => (.error .packetMismatch, entries)

/-- `remove_relay_if_same` (and `remove_gateway_if_same`): remove the id's entry only if it is
still the one on this connection. The flag says whether it did. -/
def removeIfSame (entries : List RelayEntry) (id : NodeId) (conn : Nat) : Bool × List RelayEntry :=
  match entries.find? (·.id == id) with
  | some e => if e.conn.id = conn then (true, entries.filter (·.id != id)) else (false, entries)
  | none => (false, entries)

/-- The resolver: its two registries, the generation `relays` membership changes bump, the
connections that have a close reason, and the clock. -/
structure Resolver where
  relays : List RelayEntry
  gateways : List RelayEntry
  relaysGeneration : Nat
  closed : List Nat
  now : Nat
  deriving Repr

namespace Resolver

def init : Resolver := ⟨[], [], 0, [], 0⟩

/-- `Resolver::register_relay`: the shared body at `MAX_RELAYS`, and a generation bump when it
inserts. -/
def registerRelay (r : Resolver) (conn : Conn) (id : NodeId) (verified : Except CloseReason Unit) :
    Except CloseReason Unit × Resolver :=
  let (result, relays, closed) := registerIn MAX_RELAYS r.relays r.closed conn id verified r.now
  match result with
  | .ok () => (.ok (), { r with relays, closed, relaysGeneration := r.relaysGeneration + 1 })
  | .error reason => (.error reason, { r with relays, closed })

/-- `Resolver::register_gateway`: the shared body at `MAX_GATEWAYS`; gateways have no
generation. -/
def registerGateway (r : Resolver) (conn : Conn) (id : NodeId) (verified : Except CloseReason Unit) :
    Except CloseReason Unit × Resolver :=
  let (result, gateways, closed) := registerIn MAX_GATEWAYS r.gateways r.closed conn id verified r.now
  (result, { r with gateways, closed })

/-- The watcher of a relay registration, once its connection has closed. -/
def removeRelayIfSame (r : Resolver) (id : NodeId) (conn : Nat) : Resolver :=
  let (removed, relays) := removeIfSame r.relays id conn
  if removed then { r with relays, relaysGeneration := r.relaysGeneration + 1 } else r

def removeGatewayIfSame (r : Resolver) (id : NodeId) (conn : Nat) : Resolver :=
  { r with gateways := (removeIfSame r.gateways id conn).2 }

inductive Event where
  /-- A `RelayHello` on `conn` for `id`; `verified` is the outcome of the hello checks. -/
  | relayHello (conn : Conn) (id : NodeId) (verified : Except CloseReason Unit)
  | gatewayHello (conn : Conn) (id : NodeId) (verified : Except CloseReason Unit)
  | relayHeartbeat (conn : Conn) (id : NodeId) (verified : Except CloseReason Unit)
  /-- A connection closes: the peer went away, or a handler closed it. -/
  | connClosed (conn : Nat)
  /-- The watcher spawned for `id` on `conn` wakes after the connection closed. -/
  | relayWatcher (id : NodeId) (conn : Nat)
  | gatewayWatcher (id : NodeId) (conn : Nat)
  | tick (ms : Nat)

def step (r : Resolver) : Event → Resolver
  | .relayHello conn id verified => (r.registerRelay conn id verified).2
  | .gatewayHello conn id verified => (r.registerGateway conn id verified).2
  | .relayHeartbeat conn id verified => { r with relays := (verifyHeartbeat r.relays conn id verified r.now).2 }
  | .connClosed conn => { r with closed := closeConn r.closed conn }
  | .relayWatcher id conn => if conn ∈ r.closed then r.removeRelayIfSame id conn else r
  | .gatewayWatcher id conn => if conn ∈ r.closed then r.removeGatewayIfSame id conn else r
  | .tick ms => { r with now := r.now + ms }

def Reachable : Resolver → Prop := Reach.Reachable init step

end Resolver

end Promtuz
