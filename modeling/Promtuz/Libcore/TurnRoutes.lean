import Promtuz.Common.Proto

/-! The TURN route table of the P2P socket (`p2p::socket::TurnRoutes`) and the two places the
socket reads it. The session manager registers a bridge under its token, later upgrades it to a
punched direct path, and unregisters it when the session ends; `PunchSocket::try_send` redirects
a quinn datagram addressed to a synthetic peer address, and `PunchSocket::poll_recv` relabels an
inbound datagram with one.

Each `HashMap` of the table is the partial function it stores: no operation reads an iteration
order, and `retain` filters pointwise. -/

namespace Promtuz

namespace Turn

/-- `Egress`: where quinn's packets for a synthetic address really go. -/
inductive Egress where
  | relay (relay : SocketAddr) (token : Bytes 16)
  | direct (addr : SocketAddr)
  deriving DecidableEq

structure TurnRoutes where
  bySynth : SocketAddr → Option Egress
  byToken : Bytes 16 → Option SocketAddr
  /-- The peer's punch-validated real address to its synthetic address. -/
  byReal : SocketAddr → Option SocketAddr
  next : UInt32

/-- The synthetic address of the bridge numbered `n`: `[100::(n >> 16):(n as u16)]:9`, in the
discard prefix `100::/64`, never routable and never a real candidate. -/
def synthAddr (n : UInt32) : SocketAddr :=
  ⟨[0x01, 0x00] ++ List.replicate 10 0 ++ Bytes.toBeBytes 4 n.toNat, 9⟩

theorem synthAddr_injective {m n : UInt32} (h : synthAddr m = synthAddr n) : m = n := by
  have hip : Bytes.toBeBytes 4 m.toNat = Bytes.toBeBytes 4 n.toNat := by
    simpa [synthAddr] using congrArg SocketAddr.ip h
  have hval := congrArg Bytes.beValue hip
  have hm : m.toNat < 256 ^ 4 := m.toNat_lt
  have hn : n.toNat < 256 ^ 4 := n.toNat_lt
  rw [Bytes.beValue_toBeBytes, Bytes.beValue_toBeBytes, Nat.mod_eq_of_lt hm, Nat.mod_eq_of_lt hn] at hval
  exact UInt32.toNat_inj.1 hval

namespace TurnRoutes

/-- `TurnRoutes::default()`. -/
def empty : TurnRoutes := ⟨fun _ => none, fun _ => none, fun _ => none, 0⟩

/-- `register`: idempotent per token; a new token gets the next bridge number. `self.next += 1`
is a panic in a debug build and wraps in a release one, which is what is modelled. -/
def register (r : TurnRoutes) (token : Bytes 16) (relay : SocketAddr) : SocketAddr × TurnRoutes :=
  match r.byToken token with
  | some synth => (synth, r)
  | none =>
      let n := r.next + 1
      let synth := synthAddr n
      (synth, { r with
        bySynth := Function.update r.bySynth synth (some (.relay relay token))
        byToken := Function.update r.byToken token (some synth)
        next := n })

def unregister (r : TurnRoutes) (token : Bytes 16) : TurnRoutes :=
  match r.byToken token with
  | some synth => { r with
      byToken := Function.update r.byToken token none
      bySynth := Function.update r.bySynth synth none
      byReal := fun addr => (r.byReal addr).filter (· != synth) }
  | none => r

/-- `set_direct`: the egress flips to `addr` and datagrams from `addr` are relabelled; `false`
when the route is already gone. No earlier entry of `by_real` is removed. -/
def setDirect (r : TurnRoutes) (token : Bytes 16) (addr : SocketAddr) : Bool × TurnRoutes :=
  match r.byToken token with
  | none => (false, r)
  | some synth => (true, { r with
      bySynth := Function.update r.bySynth synth (some (.direct addr))
      byReal := Function.update r.byReal addr (some synth) })

def egress (r : TurnRoutes) (dest : SocketAddr) : Option Egress := r.bySynth dest

def synthForReal (r : TurnRoutes) (src : SocketAddr) : Option SocketAddr := r.byReal src

def synthFor (r : TurnRoutes) (token : Bytes 16) : Option SocketAddr := r.byToken token

inductive Op where
  | register (token : Bytes 16) (relay : SocketAddr)
  | unregister (token : Bytes 16)
  | setDirect (token : Bytes 16) (addr : SocketAddr)

def apply (r : TurnRoutes) : Op → TurnRoutes
  | .register token relay => (r.register token relay).2
  | .unregister token => r.unregister token
  | .setDirect token addr => (r.setDirect token addr).2

def run (ops : List Op) : TurnRoutes := ops.foldl apply empty

end TurnRoutes

/-- Where `try_send` puts one quinn datagram: to the relay as `TurnData` under the bridge's
token, or raw to an address. -/
inductive Send where
  | turn (relay : SocketAddr) (token : Bytes 16)
  | raw (addr : SocketAddr)
  deriving DecidableEq

/-- What `poll_recv` finds in one inbound datagram: a disco poke (`disco::peek_channel`), one of
the `RelayMsg`s (`TurnData`, `StunResp`, or another that is never sent to a client), or neither,
a QUIC datagram. -/
inductive Inbound where
  | poke
  | turnData (token : Bytes 16)
  | stunResp
  | otherRelay
  | quic

namespace TurnRoutes

def trySend (r : TurnRoutes) (destination : SocketAddr) : Send :=
  match r.egress destination with
  | some (.relay relay token) => .turn relay token
  | some (.direct addr) => .raw addr
  | none => .raw destination

/-- The address `poll_recv` presents to quinn for a datagram from `src`, or `none` when the
datagram is kept from quinn (a poke, a STUN answer, other relay traffic, or TURN data for a
token with no route). -/
def pollRecv (r : TurnRoutes) (src : SocketAddr) : Inbound → Option SocketAddr
  | .poke | .stunResp | .otherRelay => none
  | .turnData token => r.synthFor token
  | .quic => some ((r.synthForReal src).getD src)

variable {r : TurnRoutes} {token : Bytes 16} {relay addr s : SocketAddr}

theorem register_of_some (h : r.byToken token = some s) : r.register token relay = (s, r) := by
  rw [register, h]

theorem register_of_none (h : r.byToken token = none) :
    r.register token relay = (synthAddr (r.next + 1), { r with
      bySynth := Function.update r.bySynth (synthAddr (r.next + 1)) (some (.relay relay token))
      byToken := Function.update r.byToken token (some (synthAddr (r.next + 1)))
      next := r.next + 1 }) := by
  rw [register, h]

@[simp] theorem byToken_register_self : (r.register token relay).2.byToken token = some (r.register token relay).1 := by
  cases h : r.byToken token with
  | some s => rw [register_of_some h, h]
  | none => simp [register_of_none h]

theorem unregister_of_some (h : r.byToken token = some s) :
    r.unregister token = { r with
      byToken := Function.update r.byToken token none
      bySynth := Function.update r.bySynth s none
      byReal := fun addr => (r.byReal addr).filter (· != s) } := by
  rw [unregister, h]

theorem unregister_of_none (h : r.byToken token = none) : r.unregister token = r := by
  rw [unregister, h]

theorem setDirect_of_some (h : r.byToken token = some s) :
    r.setDirect token addr = (true, { r with
      bySynth := Function.update r.bySynth s (some (.direct addr))
      byReal := Function.update r.byReal addr (some s) }) := by
  rw [setDirect, h]

theorem setDirect_of_none (h : r.byToken token = none) : r.setDirect token addr = (false, r) := by
  rw [setDirect, h]

@[simp] theorem byToken_setDirect : (r.setDirect token addr).2.byToken = r.byToken := by
  cases h : r.byToken token with
  | some s => rw [setDirect_of_some h]
  | none => rw [setDirect_of_none h]

theorem next_apply_le (r : TurnRoutes) (o : Op) : (r.apply o).next.toNat ≤ r.next.toNat + 1 := by
  have hstep : (r.next + 1).toNat ≤ r.next.toNat + 1 := by
    rw [UInt32.toNat_add, UInt32.toNat_one]
    exact Nat.mod_le _ _
  cases o with
  | register token relay =>
      cases h : r.byToken token with
      | some s => simp [apply, register_of_some h]
      | none => simpa [apply, register_of_none h] using hstep
  | unregister token =>
      cases h : r.byToken token with
      | some s => simp [apply, unregister_of_some h]
      | none => simp [apply, unregister_of_none h]
  | setDirect token addr =>
      cases h : r.byToken token with
      | some s => simp [apply, setDirect_of_some h]
      | none => simp [apply, setDirect_of_none h]

theorem run_append (ops ops' : List Op) : run (ops ++ ops') = ops'.foldl apply (run ops) := by
  rw [run, run, List.foldl_append]

/-- A synthetic address is live while a token maps to it. -/
def Live (r : TurnRoutes) (s : SocketAddr) : Prop := ∃ token, r.byToken token = some s

/-- Distinct live tokens have distinct synthetic addresses, and `by_synth` has an entry exactly
for the live ones. -/
structure Consistent (r : TurnRoutes) : Prop where
  token_unique : ∀ ⦃t₁ t₂ s⦄, r.byToken t₁ = some s → r.byToken t₂ = some s → t₁ = t₂
  bySynth_iff_live : ∀ s, (r.bySynth s).isSome ↔ r.Live s

/-- Every value of `by_real` is a live synthetic address. -/
def RealLive (r : TurnRoutes) : Prop := ∀ ⦃addr s⦄, r.byReal addr = some s → r.Live s

/-- Every real address in `by_real` is where its synthetic address's egress goes. -/
def RealDirect (r : TurnRoutes) : Prop := ∀ ⦃addr s⦄, r.byReal addr = some s → r.egress s = some (.direct addr)

/-- Every live address is that of a bridge numbered at most `next`: what makes the next number's
address a fresh one while the counter has not wrapped. -/
def Numbered (r : TurnRoutes) : Prop := ∀ ⦃s⦄, r.Live s → ∃ m : UInt32, s = synthAddr m ∧ m.toNat ≤ r.next.toNat

structure Inv (r : TurnRoutes) : Prop where
  consistent : r.Consistent
  real_live : r.RealLive
  numbered : r.Numbered

theorem inv_empty : empty.Inv where
  consistent := ⟨fun _ _ _ h => (by cases h), fun s => (by simp [empty, Live])⟩
  real_live := fun _ _ h => by cases h
  numbered := fun _ hl => by
    obtain ⟨_, h⟩ := hl
    cases h

theorem toNat_next_add_one (hwrap : r.next.toNat + 1 < 2 ^ 32) : (r.next + 1).toNat = r.next.toNat + 1 := by
  rw [UInt32.toNat_add, UInt32.toNat_one]
  exact Nat.mod_eq_of_lt hwrap

theorem not_live_next (h : r.Numbered) (hwrap : r.next.toNat + 1 < 2 ^ 32) : ¬r.Live (synthAddr (r.next + 1)) := by
  intro hl
  obtain ⟨m, hm, hle⟩ := h hl
  have hnext := toNat_next_add_one hwrap
  rw [← synthAddr_injective hm] at hle
  omega

theorem live_register_of_none (h : r.byToken token = none) :
    (r.register token relay).2.Live s ↔ s = synthAddr (r.next + 1) ∨ r.Live s := by
  rw [register_of_none h]
  simp only [Live, Function.update_apply]
  constructor
  · rintro ⟨t, ht⟩
    split_ifs at ht
    · exact .inl (Option.some_injective _ ht).symm
    · exact .inr ⟨t, ht⟩
  · rintro (rfl | ⟨t, ht⟩)
    · exact ⟨token, if_pos rfl⟩
    · have hne : t ≠ token := by
        rintro rfl
        rw [h] at ht
        cases ht
      exact ⟨t, by rw [if_neg hne, ht]⟩

theorem live_unregister_of_some (hc : r.Consistent) (h : r.byToken token = some s) {s' : SocketAddr} :
    (r.unregister token).Live s' ↔ r.Live s' ∧ s' ≠ s := by
  rw [unregister_of_some h]
  simp only [Live, Function.update_apply]
  constructor
  · rintro ⟨t, ht⟩
    split_ifs at ht with htok
    refine ⟨⟨t, ht⟩, ?_⟩
    rintro rfl
    exact htok (hc.token_unique ht h)
  · rintro ⟨⟨t, ht⟩, hne⟩
    have htok : t ≠ token := by
      rintro rfl
      rw [h] at ht
      exact hne (Option.some_injective _ ht).symm
    exact ⟨t, by rw [if_neg htok, ht]⟩

@[simp] theorem live_setDirect : (r.setDirect token addr).2.Live s ↔ r.Live s := by
  simp only [Live, byToken_setDirect]

theorem Inv.register (h : r.Inv) (hwrap : r.next.toNat + 1 < 2 ^ 32) : (r.register token relay).2.Inv := by
  cases hget : r.byToken token with
  | some s => rw [register_of_some hget]; exact h
  | none =>
      have hfresh := not_live_next h.numbered hwrap
      have hlive : ∀ s', (r.register token relay).2.Live s' ↔ s' = synthAddr (r.next + 1) ∨ r.Live s' :=
        fun _ => live_register_of_none hget
      refine ⟨⟨fun ⦃t₁ t₂ s'⦄ h₁ h₂ => ?_, fun s' => ?_⟩, fun ⦃a s'⦄ ha => ?_, fun ⦃s'⦄ hs' => ?_⟩
      · -- a second token on the new address would make it live already
        rw [register_of_none hget] at h₁ h₂
        simp only [Function.update_apply] at h₁ h₂
        split_ifs at h₁ h₂ with e₁ e₂ e₂
        · exact e₁.trans e₂.symm
        · exact absurd ⟨t₂, h₂⟩ (Option.some_injective _ h₁ ▸ hfresh)
        · exact absurd ⟨t₁, h₁⟩ (Option.some_injective _ h₂ ▸ hfresh)
        · exact h.consistent.token_unique h₁ h₂
      · rw [hlive, ← h.consistent.bySynth_iff_live, register_of_none hget]
        simp only [Function.update_apply]
        split_ifs with e <;> simp [e]
      · rw [register_of_none hget] at ha
        exact (hlive s').2 (.inr (h.real_live ha))
      · rcases (hlive s').1 hs' with rfl | hs'
        · exact ⟨r.next + 1, rfl, by rw [register_of_none hget]⟩
        · obtain ⟨m, rfl, hm⟩ := h.numbered hs'
          refine ⟨m, rfl, ?_⟩
          have hnext := toNat_next_add_one hwrap
          rw [register_of_none hget]
          simp only
          omega

theorem Inv.unregister (h : r.Inv) : (r.unregister token).Inv := by
  cases hget : r.byToken token with
  | none => rw [unregister_of_none hget]; exact h
  | some s =>
      have hlive : ∀ s', (r.unregister token).Live s' ↔ r.Live s' ∧ s' ≠ s :=
        fun _ => live_unregister_of_some h.consistent hget
      refine ⟨⟨fun ⦃t₁ t₂ s'⦄ h₁ h₂ => ?_, fun s' => ?_⟩, fun ⦃a s'⦄ ha => ?_, fun ⦃s'⦄ hs' => ?_⟩
      · rw [unregister_of_some hget] at h₁ h₂
        simp only [Function.update_apply] at h₁ h₂
        split_ifs at h₁ h₂
        exact h.consistent.token_unique h₁ h₂
      · rw [hlive, ← h.consistent.bySynth_iff_live, unregister_of_some hget]
        simp only [Function.update_apply]
        split_ifs with e <;> simp [e]
      · -- `retain` keeps exactly the entries that do not point at the removed address
        rw [unregister_of_some hget] at ha
        obtain ⟨ha, hne⟩ := Option.filter_eq_some_iff.1 ha
        exact (hlive s').2 ⟨h.real_live ha, by simpa using hne⟩
      · obtain ⟨m, rfl, hm⟩ := h.numbered ((hlive s').1 hs').1
        exact ⟨m, rfl, by rw [unregister_of_some hget]; exact hm⟩

theorem Inv.setDirect (h : r.Inv) : (r.setDirect token addr).2.Inv := by
  cases hget : r.byToken token with
  | none => rw [setDirect_of_none hget]; exact h
  | some s =>
      have hs : r.Live s := ⟨token, hget⟩
      refine ⟨⟨fun ⦃t₁ t₂ s'⦄ h₁ h₂ => ?_, fun s' => ?_⟩, fun ⦃a s'⦄ ha => ?_, fun ⦃s'⦄ hs' => ?_⟩
      · rw [byToken_setDirect] at h₁ h₂
        exact h.consistent.token_unique h₁ h₂
      · rw [live_setDirect, ← h.consistent.bySynth_iff_live, setDirect_of_some hget]
        simp only [Function.update_apply]
        split_ifs with e
        · simp [e, h.consistent.bySynth_iff_live, hs]
        · rfl
      · rw [live_setDirect]
        rw [setDirect_of_some hget] at ha
        simp only [Function.update_apply] at ha
        split_ifs at ha
        · exact Option.some_injective _ ha ▸ hs
        · exact h.real_live ha
      · obtain ⟨m, rfl, hm⟩ := h.numbered (live_setDirect.1 hs')
        exact ⟨m, rfl, by rw [setDirect_of_some hget]; exact hm⟩

theorem Inv.apply (h : r.Inv) (hwrap : r.next.toNat + 1 < 2 ^ 32) : ∀ o : Op, (r.apply o).Inv
  | .register _ _ => h.register hwrap
  | .unregister _ => h.unregister
  | .setDirect _ _ => h.setDirect

theorem Inv.foldl (h : r.Inv) {ops : List Op} (hlen : r.next.toNat + ops.length < 2 ^ 32) :
    (ops.foldl TurnRoutes.apply r).Inv := by
  induction ops generalizing r with
  | nil => exact h
  | cons o ops ih =>
      have hle := next_apply_le r o
      rw [List.length_cons] at hlen
      have hlen' : (r.apply o).next.toNat + ops.length < 2 ^ 32 := by omega
      exact ih (h.apply (by omega) o) hlen'

theorem inv_run {ops : List Op} (hlen : ops.length < 2 ^ 32) : (run ops).Inv :=
  inv_empty.foldl (by simpa [empty] using hlen)

/-- A `set_direct` that finds its token's egress still relayed, or already direct to the same
address. Every other call counts as one too. -/
def upgrades (r : TurnRoutes) : Op → Bool
  | .setDirect token addr =>
      match r.byToken token with
      | some s =>
          match r.bySynth s with
          | some (.direct a) => a == addr
          | _ => true
      | none => true
  | _ => true

def upgradesAlong : TurnRoutes → List Op → Bool
  | _, [] => true
  | r, o :: os => r.upgrades o && upgradesAlong (r.apply o) os

theorem RealDirect.register (hi : r.Inv) (h : r.RealDirect) (hwrap : r.next.toNat + 1 < 2 ^ 32) :
    (r.register token relay).2.RealDirect := by
  cases hget : r.byToken token with
  | some s => rw [register_of_some hget]; exact h
  | none =>
      intro a s' ha
      rw [register_of_none hget] at ha ⊢
      -- a relabelled address is live, so it is not the new bridge's
      have hne : s' ≠ synthAddr (r.next + 1) := fun e => not_live_next hi.numbered hwrap (e ▸ hi.real_live ha)
      simpa [egress, Function.update_apply, hne] using h ha

theorem RealDirect.unregister (h : r.RealDirect) : (r.unregister token).RealDirect := by
  cases hget : r.byToken token with
  | none => rw [unregister_of_none hget]; exact h
  | some s =>
      intro a s' ha
      rw [unregister_of_some hget] at ha ⊢
      obtain ⟨ha, hne⟩ := Option.filter_eq_some_iff.1 ha
      have hne : s' ≠ s := by simpa using hne
      simpa [egress, Function.update_apply, hne] using h ha

theorem RealDirect.setDirect (h : r.RealDirect) (hup : r.upgrades (.setDirect token addr) = true) :
    (r.setDirect token addr).2.RealDirect := by
  cases hget : r.byToken token with
  | none => rw [setDirect_of_none hget]; exact h
  | some s =>
      intro a s' ha
      rw [setDirect_of_some hget] at ha ⊢
      simp only [Function.update_apply] at ha
      split_ifs at ha with hadd
      · cases ha
        simp [egress, hadd]
      · by_cases hs : s' = s
        · -- an earlier relabel onto this bridge: the upgrade found its egress direct to `a`
          subst hs
          have hprev := h ha
          simp only [upgrades, hget, egress] at hup hprev
          rw [hprev, beq_iff_eq] at hup
          exact absurd hup hadd
        · simpa [egress, hs] using h ha

theorem RealDirect.apply (hi : r.Inv) (h : r.RealDirect) (hwrap : r.next.toNat + 1 < 2 ^ 32) :
    ∀ o : Op, r.upgrades o = true → (r.apply o).RealDirect
  | .register _ _, _ => h.register hi hwrap
  | .unregister _, _ => h.unregister
  | .setDirect _ _, hup => h.setDirect hup

theorem RealDirect.foldl (hi : r.Inv) (h : r.RealDirect) {ops : List Op}
    (hlen : r.next.toNat + ops.length < 2 ^ 32) (hup : upgradesAlong r ops = true) :
    (ops.foldl TurnRoutes.apply r).RealDirect := by
  induction ops generalizing r with
  | nil => exact h
  | cons o ops ih =>
      have hle := next_apply_le r o
      rw [List.length_cons] at hlen
      rw [upgradesAlong, Bool.and_eq_true] at hup
      have hlen' : (r.apply o).next.toNat + ops.length < 2 ^ 32 := by omega
      rw [List.foldl_cons]
      exact ih (hi.apply (by omega) o) (h.apply hi (by omega) o hup.1) hlen' hup.2

theorem setDirect_setDirect {a₁ a₂ : SocketAddr} (h : r.byToken token = some s) (hne : a₁ ≠ a₂) :
    ((r.setDirect token a₁).2.setDirect token a₂).2.byReal a₁ = some s ∧
      ((r.setDirect token a₁).2.setDirect token a₂).2.egress s = some (.direct a₂) := by
  have h' : (r.setDirect token a₁).2.byToken token = some s := by rw [byToken_setDirect]; exact h
  rw [setDirect_of_some h', setDirect_of_some h]
  simp [egress, hne]

/-- Over every run of fewer calls than the counter's range: distinct live tokens have distinct
synthetic addresses, a synthetic address has an egress exactly when a token maps to it, and
every relabel target of `by_real` is such an address. -/
theorem turn_routes_consistent {ops : List Op} (hlen : ops.length < 2 ^ 32) :
    (∀ t₁ t₂ s, (run ops).synthFor t₁ = some s → (run ops).synthFor t₂ = some s → t₁ = t₂) ∧
      (∀ s, ((run ops).egress s).isSome ↔ ∃ token, (run ops).synthFor token = some s) ∧
      ∀ addr s, (run ops).synthForReal addr = some s → ∃ token, (run ops).synthFor token = some s := by
  obtain ⟨hc, hreal, -⟩ := inv_run hlen
  exact ⟨hc.token_unique, hc.bySynth_iff_live, hreal⟩

theorem turn_routes_consistent_one_bridge :
    [Op.register (Bytes.replicate 16 1) ⟨[192, 0, 2, 1], 3478⟩].length < 2 ^ 32 ∧
      ∀ addr s, (run [Op.register (Bytes.replicate 16 1) ⟨[192, 0, 2, 1], 3478⟩]).synthForReal addr = some s →
        ∃ token, (run [Op.register (Bytes.replicate 16 1) ⟨[192, 0, 2, 1], 3478⟩]).synthFor token = some s :=
  ⟨by decide, (turn_routes_consistent (by decide)).2.2⟩

/-- Over every run whose `set_direct`s are first upgrades (or repeat the address already set),
a datagram from `addr` is relabelled to `s` only if `try_send` to `s` goes to `addr`. -/
theorem turn_routes_relabel_matches_send {ops : List Op} (hlen : ops.length < 2 ^ 32)
    (hup : upgradesAlong empty ops = true) {addr s : SocketAddr} (h : (run ops).synthForReal addr = some s) :
    (run ops).pollRecv addr .quic = some s ∧ (run ops).trySend s = .raw addr := by
  have hd : (run ops).RealDirect := RealDirect.foldl inv_empty (fun _ _ h => by cases h) (by simpa [empty] using hlen) hup
  have hegress := hd h
  refine ⟨by simp only [pollRecv, h, Option.getD_some], ?_⟩
  rw [trySend, hegress]

def samplePunch : List Op :=
  [.register (Bytes.replicate 16 1) ⟨[192, 0, 2, 1], 3478⟩, .setDirect (Bytes.replicate 16 1) ⟨[198, 51, 100, 1], 4000⟩]

theorem turn_routes_relabel_matches_send_upgraded :
    samplePunch.length < 2 ^ 32 ∧ upgradesAlong empty samplePunch = true ∧
      (run samplePunch).synthForReal ⟨[198, 51, 100, 1], 4000⟩ = some (synthAddr 1) ∧
      (run samplePunch).pollRecv ⟨[198, 51, 100, 1], 4000⟩ .quic = some (synthAddr 1) ∧
      (run samplePunch).trySend (synthAddr 1) = .raw ⟨[198, 51, 100, 1], 4000⟩ := by
  have hlen : samplePunch.length < 2 ^ 32 := by decide
  have hup : upgradesAlong empty samplePunch = true := by decide
  have hreal : (run samplePunch).synthForReal ⟨[198, 51, 100, 1], 4000⟩ = some (synthAddr 1) := by decide
  exact ⟨hlen, hup, hreal, turn_routes_relabel_matches_send hlen hup hreal⟩

/-- A second `set_direct` on a live token, to another address, after any run: the first address
still relabels to the token's synthetic address, and `try_send` to that address goes to the
second. -/
theorem turn_routes_second_upgrade_misroutes (ops : List Op) (token : Bytes 16) (relay a₁ a₂ : SocketAddr)
    (hne : a₁ ≠ a₂) :
    ∃ s, (run (ops ++ [Op.register token relay, Op.setDirect token a₁, Op.setDirect token a₂])).synthForReal a₁ = some s ∧
      (run (ops ++ [Op.register token relay, Op.setDirect token a₁, Op.setDirect token a₂])).pollRecv a₁ .quic = some s ∧
      (run (ops ++ [Op.register token relay, Op.setDirect token a₁, Op.setDirect token a₂])).trySend s = .raw a₂ ∧
      (run (ops ++ [Op.register token relay, Op.setDirect token a₁, Op.setDirect token a₂])).trySend s ≠ .raw a₁ := by
  have hlive : ((run ops).register token relay).2.byToken token = some ((run ops).register token relay).1 :=
    byToken_register_self
  obtain ⟨hreal, hegress⟩ := setDirect_setDirect hlive hne
  have hsend : (((((run ops).register token relay).2.setDirect token a₁).2.setDirect token a₂).2.trySend
      ((run ops).register token relay).1) = .raw a₂ := by
    rw [trySend, hegress]
  rw [run_append]
  refine ⟨_, hreal, by simp only [List.foldl, apply, pollRecv, synthForReal, hreal, Option.getD_some], hsend, ?_⟩
  rw [List.foldl_cons, List.foldl_cons, List.foldl_cons, List.foldl_nil]
  simp only [apply, hsend, ne_eq, Send.raw.injEq]
  exact Ne.symm hne

theorem turn_routes_second_upgrade_misroutes_punch :
    (⟨[198, 51, 100, 1], 4000⟩ : SocketAddr) ≠ ⟨[198, 51, 100, 2], 4000⟩ ∧
      ∃ s, (run ([] ++ [Op.register (Bytes.replicate 16 1) ⟨[192, 0, 2, 1], 3478⟩,
          Op.setDirect (Bytes.replicate 16 1) ⟨[198, 51, 100, 1], 4000⟩,
          Op.setDirect (Bytes.replicate 16 1) ⟨[198, 51, 100, 2], 4000⟩])).synthForReal ⟨[198, 51, 100, 1], 4000⟩ = some s ∧
        (run ([] ++ [Op.register (Bytes.replicate 16 1) ⟨[192, 0, 2, 1], 3478⟩,
          Op.setDirect (Bytes.replicate 16 1) ⟨[198, 51, 100, 1], 4000⟩,
          Op.setDirect (Bytes.replicate 16 1) ⟨[198, 51, 100, 2], 4000⟩])).pollRecv ⟨[198, 51, 100, 1], 4000⟩ .quic = some s ∧
        (run ([] ++ [Op.register (Bytes.replicate 16 1) ⟨[192, 0, 2, 1], 3478⟩,
          Op.setDirect (Bytes.replicate 16 1) ⟨[198, 51, 100, 1], 4000⟩,
          Op.setDirect (Bytes.replicate 16 1) ⟨[198, 51, 100, 2], 4000⟩])).trySend s = .raw ⟨[198, 51, 100, 2], 4000⟩ ∧
        (run ([] ++ [Op.register (Bytes.replicate 16 1) ⟨[192, 0, 2, 1], 3478⟩,
          Op.setDirect (Bytes.replicate 16 1) ⟨[198, 51, 100, 1], 4000⟩,
          Op.setDirect (Bytes.replicate 16 1) ⟨[198, 51, 100, 2], 4000⟩])).trySend s ≠ .raw ⟨[198, 51, 100, 1], 4000⟩ :=
  ⟨by decide, turn_routes_second_upgrade_misroutes [] _ _ _ _ (by decide)⟩

end TurnRoutes

end Turn

end Promtuz
