import Promtuz.Resolver.RegistryBounds

/-! The cached `GetRelays` directory (`Resolver::relays_response`, `resolver/rpc.rs`). A call
loads `relays_generation`, returns the cached packet if it was built for that generation, and
otherwise clones the registry's descriptors under the read lock and writes the packet back
under that generation, without comparing. Each step is one critical section (the atomic load,
the cache read, the registry read, the cache write); registry events run between them.

The packet is `ClientResponse::GetRelays { relays }.pack()`, a function of the descriptor
list, so the model caches the list. `seen` is ghost state, not in the source: every directory
the registry has had since the call loaded its generation, which is what "as it stood at some
instant during the call" ranges over. -/

namespace Promtuz

/-- `RelayEntry::to_descriptor`: the id and the address the relay registered from (the public
key is the one the id commits to). -/
def RelayEntry.descriptor (e : RelayEntry) : NodeId × IpAddr := (e.id, e.conn.ip)

def Resolver.directory (r : Resolver) : List (NodeId × IpAddr) := r.relays.map RelayEntry.descriptor

namespace Resolver

variable {r : Resolver}

theorem relaysGeneration_step (r : Resolver) : ∀ ev : Event,
    (r.step ev).relaysGeneration = r.relaysGeneration ∨ (r.step ev).relaysGeneration = r.relaysGeneration + 1
  | .relayHello conn id verified => by
      rcases hreg : registerIn MAX_RELAYS r.relays r.closed conn id verified r.now with ⟨result, relays, closed⟩
      rw [step, registerRelay_of_registerIn hreg]
      dsimp only
      split
      · exact .inr rfl
      · exact .inl rfl
  | .gatewayHello conn id verified => by
      rcases hreg : registerIn MAX_GATEWAYS r.gateways r.closed conn id verified r.now with ⟨result, gateways, closed⟩
      rw [step, registerGateway_of_registerIn hreg]
      exact .inl rfl
  | .relayHeartbeat .. | .connClosed _ | .tick _ => .inl rfl
  | .relayWatcher id conn => by
      rw [step]
      split
      · rcases removeRelayIfSame_cases (r := r) id conn with h | h <;> rw [h]
        · exact .inl rfl
        · exact .inr rfl
      · exact .inl rfl
  | .gatewayWatcher id conn => by
      rw [step]
      split
      · exact .inl rfl
      · exact .inl rfl

theorem relaysGeneration_le_step (r : Resolver) (ev : Event) : r.relaysGeneration ≤ (r.step ev).relaysGeneration := by
  rcases relaysGeneration_step r ev with h | h <;> omega

theorem directory_verifyHeartbeat (conn : Conn) (id : NodeId) (verified : Except CloseReason Unit) :
    (verifyHeartbeat r.relays conn id verified r.now).2.map RelayEntry.descriptor = r.directory := by
  rcases verifyHeartbeat_entries r.relays conn id verified r.now with h | h <;> rw [h]
  · rfl
  · rw [List.map_map, directory]
    congr 1
    funext e'
    simp only [Function.comp_apply, RelayEntry.descriptor]
    split <;> rfl

theorem directory_step (r : Resolver) : ∀ ev : Event,
    (r.step ev).directory = r.directory ∨ r.relaysGeneration < (r.step ev).relaysGeneration ∨
      ∃ conn id, ev = .relayHello conn id (.ok ()) ∧ (r.registerRelay conn id (.ok ())).1 = .error .registryFull
  | .relayHello conn id (.error reason) => by
      left
      rw [step, registerRelay_of_registerIn (registerIn_of_error rfl)]
      rfl
  | .relayHello conn id (.ok ()) => by
      by_cases hrej : admitApplicant ((r.relays.filter (·.id != id)).map RelayEntry.slot) conn.ip MAX_RELAYS r.now = .reject
      · right; right
        refine ⟨conn, id, rfl, ?_⟩
        rw [registerRelay_of_admit_reject hrej]
      · -- admission inserted or evicted: the registration succeeded and bumped
        right; left
        have hres : (registerIn MAX_RELAYS r.relays r.closed conn id (.ok ()) r.now).1 = .ok () := by
          rw [registerIn_result rfl, if_neg hrej]
        rcases hreg : registerIn MAX_RELAYS r.relays r.closed conn id (.ok ()) r.now with ⟨result, relays, closed⟩
        rw [hreg] at hres
        simp only at hres
        subst hres
        rw [step, registerRelay_of_registerIn hreg]
        exact Nat.lt_succ_self _
  | .gatewayHello conn id verified => by
      left
      rcases hreg : registerIn MAX_GATEWAYS r.gateways r.closed conn id verified r.now with ⟨result, gateways, closed⟩
      rw [step, registerGateway_of_registerIn hreg]
      rfl
  | .relayHeartbeat conn id verified => .inl (directory_verifyHeartbeat conn id verified)
  | .connClosed _ | .tick _ => .inl rfl
  | .relayWatcher id conn => by
      rw [step]
      split
      · rcases removeRelayIfSame_cases (r := r) id conn with h | h <;> rw [h]
        · exact .inl rfl
        · exact .inr (.inl (Nat.lt_succ_self _))
      · exact .inl rfl
  | .gatewayWatcher id conn => by
      left
      rw [step]
      split
      · rfl
      · rfl

end Resolver

namespace Directory

/-- Where one `relays_response` call is. -/
inductive Call where
  | idle
  /-- It loaded `relays_generation`. -/
  | loaded (generation : Nat)
  /-- The cache held no packet for that generation. -/
  | missed (generation : Nat)
  /-- It cloned the registry's descriptors. -/
  | snapshotted (generation : Nat) (relays : List (NodeId × IpAddr))
  | returned (packet : List (NodeId × IpAddr))
  deriving DecidableEq, Repr

def Call.inFlight : Call → Bool
  | .loaded _ | .missed _ | .snapshotted _ _ => true
  | .idle | .returned _ => false

def Call.generation? : Call → Option Nat
  | .loaded g | .missed g | .snapshotted g _ => some g
  | .idle | .returned _ => none

def cacheLookup (cache : Option (Nat × List (NodeId × IpAddr))) (generation : Nat) : Call :=
  match cache with
  | some (cached, packet) => if cached = generation then .returned packet else .missed generation
  | none => .missed generation

/-- The resolver, the `relays_response` cache, and the calls by index, with their ghost
histories. -/
structure Server where
  resolver : Resolver
  relaysResponse : Option (Nat × List (NodeId × IpAddr))
  calls : Nat → Call
  seen : Nat → List (List (NodeId × IpAddr))

inductive Event where
  | resolver (ev : Resolver.Event)
  | load (c : Nat)
  | check (c : Nat)
  | snapshot (c : Nat)
  | store (c : Nat)

namespace Server

def init : Server := ⟨Resolver.init, none, fun _ => .idle, fun _ => []⟩

def setCall (s : Server) (c : Nat) (p : Call) : Server :=
  { s with calls := fun d => if d = c then p else s.calls d }

def step (s : Server) : Event → Server
  | .resolver ev =>
      let resolver := s.resolver.step ev
      { s with resolver, seen := fun c => if (s.calls c).inFlight then s.seen c ++ [resolver.directory] else s.seen c }
  | .load c =>
      if (s.calls c).inFlight then s
      else { s.setCall c (.loaded s.resolver.relaysGeneration) with
        seen := fun d => if d = c then [s.resolver.directory] else s.seen d }
  | .check c =>
      match s.calls c with
      | .loaded g => s.setCall c (cacheLookup s.relaysResponse g)
      | _ => s
  | .snapshot c =>
      match s.calls c with
      | .missed g => s.setCall c (.snapshotted g s.resolver.directory)
      | _ => s
  | .store c =>
      match s.calls c with
      | .snapshotted g packet => { s.setCall c (.returned packet) with relaysResponse := some (g, packet) }
      | _ => s

variable {s : Server} {c : Nat}

theorem cacheLookup_cases (cache : Option (Nat × List (NodeId × IpAddr))) (g : Nat) :
    cacheLookup cache g = .missed g ∨ ∃ P, cache = some (g, P) ∧ cacheLookup cache g = .returned P := by
  unfold cacheLookup
  split
  · rename_i cached packet
    split
    · rename_i hg
      subst hg
      exact .inr ⟨packet, rfl, rfl⟩
    · exact .inl rfl
  · exact .inl rfl

/-- What the cache and every call keep over an interleaving in which each change of the
directory bumps the generation. -/
structure Inv (s : Server) : Prop where
  cache_le : ∀ g P, s.relaysResponse = some (g, P) → g ≤ s.resolver.relaysGeneration
  /-- A packet cached under the current generation is the current directory. -/
  cache_current : ∀ P, s.relaysResponse = some (s.resolver.relaysGeneration, P) → P = s.resolver.directory
  call_le : ∀ c g, (s.calls c).generation? = some g → g ≤ s.resolver.relaysGeneration
  snapshot_current : ∀ c P, s.calls c = .snapshotted s.resolver.relaysGeneration P → P = s.resolver.directory
  current_seen : ∀ c, (s.calls c).inFlight = true → s.resolver.directory ∈ s.seen c
  /-- A call that loaded `g` has seen the packet cached under `g`, ... -/
  cache_seen : ∀ c g P, s.calls c = .loaded g → s.relaysResponse = some (g, P) → P ∈ s.seen c
  /-- ... and the directory of every call that snapshotted under `g`. -/
  snapshot_seen : ∀ c d g P, s.calls c = .loaded g → s.calls d = .snapshotted g P → P ∈ s.seen c
  snapshotted_seen : ∀ c g P, s.calls c = .snapshotted g P → P ∈ s.seen c
  returned_seen : ∀ c P, s.calls c = .returned P → P ∈ s.seen c

theorem inv_init : init.Inv where
  cache_le _ _ h := nomatch h
  cache_current _ h := nomatch h
  call_le _ _ h := nomatch h
  snapshot_current _ _ h := nomatch h
  current_seen _ h := nomatch h
  cache_seen _ _ _ h := nomatch h
  snapshot_seen _ _ _ _ h := nomatch h
  snapshotted_seen _ _ _ h := nomatch h
  returned_seen _ _ h := nomatch h

theorem Inv.resolver (h : s.Inv) {ev : Resolver.Event}
    (hco : (s.resolver.step ev).directory = s.resolver.directory ∨
      s.resolver.relaysGeneration < (s.resolver.step ev).relaysGeneration) :
    (s.step (.resolver ev)).Inv := by
  have hle := Resolver.relaysGeneration_le_step s.resolver ev
  have hsame : ∀ g, g ≤ s.resolver.relaysGeneration → g = (s.resolver.step ev).relaysGeneration →
      g = s.resolver.relaysGeneration ∧ (s.resolver.step ev).directory = s.resolver.directory := by
    intro g hg hg'
    rcases hco with hd | hlt
    · exact ⟨by omega, hd⟩
    · omega
  -- a call in flight has its history extended by the new directory
  have hseen : ∀ c, (s.calls c).inFlight = true →
      (s.step (.resolver ev)).seen c = s.seen c ++ [(s.resolver.step ev).directory] := fun c hc => if_pos hc
  have hgrow : ∀ c P, (s.calls c).inFlight = true → P ∈ s.seen c → P ∈ (s.step (.resolver ev)).seen c :=
    fun c P hc hP => (hseen c hc).symm ▸ List.mem_append_left _ hP
  constructor
  · intro g P hc
    exact Nat.le_trans (h.cache_le g P hc) hle
  · intro P hc
    have hc' : s.relaysResponse = some ((s.resolver.step ev).relaysGeneration, P) := hc
    obtain ⟨hg, hd⟩ := hsame _ (h.cache_le _ P hc') rfl
    rw [hg] at hc'
    show P = (s.resolver.step ev).directory
    rw [hd]
    exact h.cache_current P hc'
  · intro c g hc
    exact Nat.le_trans (h.call_le c g hc) hle
  · intro c P hc
    have hc' : s.calls c = .snapshotted (s.resolver.step ev).relaysGeneration P := hc
    obtain ⟨hg, hd⟩ := hsame _ (h.call_le c _ (by rw [hc']; rfl)) rfl
    rw [hg] at hc'
    show P = (s.resolver.step ev).directory
    rw [hd]
    exact h.snapshot_current c P hc'
  · intro c hc
    rw [hseen c hc]
    exact List.mem_append_right _ (List.mem_singleton_self _)
  · intro c g P hc hcache
    have hc' : s.calls c = .loaded g := hc
    exact hgrow c P (by rw [hc']; rfl) (h.cache_seen c g P hc' hcache)
  · intro c d g P hc hd
    have hc' : s.calls c = .loaded g := hc
    exact hgrow c P (by rw [hc']; rfl) (h.snapshot_seen c d g P hc' hd)
  · intro c g P hc
    have hc' : s.calls c = .snapshotted g P := hc
    exact hgrow c P (by rw [hc']; rfl) (h.snapshotted_seen c g P hc')
  · intro c P hc
    have hc' : s.calls c = .returned P := hc
    have hseen' : (s.step (.resolver ev)).seen c = s.seen c := if_neg (by rw [hc']; exact Bool.false_ne_true)
    rw [hseen']
    exact h.returned_seen c P hc'

theorem Inv.load (h : s.Inv) (c : Nat) : (s.step (.load c)).Inv := by
  by_cases hc : (s.calls c).inFlight = true
  · rw [step, if_pos hc]
    exact h
  · rw [step, if_neg hc]
    constructor <;> dsimp only [setCall]
    · exact h.cache_le
    · exact h.cache_current
    · intro d g hd
      by_cases hdc : d = c
      · rw [if_pos hdc] at hd
        cases hd
        exact Nat.le_refl _
      · rw [if_neg hdc] at hd
        exact h.call_le d g hd
    · intro d P hd
      by_cases hdc : d = c
      · rw [if_pos hdc] at hd
        cases hd
      · rw [if_neg hdc] at hd
        exact h.snapshot_current d P hd
    · intro d hd
      by_cases hdc : d = c
      · rw [if_pos hdc]
        exact List.mem_singleton_self _
      · rw [if_neg hdc] at hd ⊢
        exact h.current_seen d hd
    · intro d g P hd hcache
      by_cases hdc : d = c
      · rw [if_pos hdc] at hd ⊢
        cases hd
        rw [h.cache_current P hcache]
        exact List.mem_singleton_self _
      · rw [if_neg hdc] at hd ⊢
        exact h.cache_seen d g P hd hcache
    · intro d e g P hd he
      by_cases hec : e = c
      · rw [if_pos hec] at he
        cases he
      · rw [if_neg hec] at he
        by_cases hdc : d = c
        · rw [if_pos hdc] at hd ⊢
          cases hd
          rw [h.snapshot_current e P he]
          exact List.mem_singleton_self _
        · rw [if_neg hdc] at hd ⊢
          exact h.snapshot_seen d e g P hd he
    · intro d g P hd
      by_cases hdc : d = c
      · rw [if_pos hdc] at hd
        cases hd
      · rw [if_neg hdc] at hd ⊢
        exact h.snapshotted_seen d g P hd
    · intro d P hd
      by_cases hdc : d = c
      · rw [if_pos hdc] at hd
        cases hd
      · rw [if_neg hdc] at hd ⊢
        exact h.returned_seen d P hd

theorem Inv.setCall_missed (h : s.Inv) {g : Nat} (hc : s.calls c = .loaded g) : (s.setCall c (.missed g)).Inv := by
  have hflight : (s.calls c).inFlight = true := by rw [hc]; rfl
  constructor <;> dsimp only [setCall]
  · exact h.cache_le
  · exact h.cache_current
  · intro d g' hd
    by_cases hdc : d = c
    · rw [if_pos hdc] at hd
      cases hd
      exact h.call_le c g (by rw [hc]; rfl)
    · rw [if_neg hdc] at hd
      exact h.call_le d g' hd
  · intro d P hd
    by_cases hdc : d = c
    · rw [if_pos hdc] at hd
      cases hd
    · rw [if_neg hdc] at hd
      exact h.snapshot_current d P hd
  · intro d hd
    by_cases hdc : d = c
    · rw [hdc]
      exact h.current_seen c hflight
    · rw [if_neg hdc] at hd
      exact h.current_seen d hd
  · intro d g' P hd hcache
    by_cases hdc : d = c
    · rw [if_pos hdc] at hd
      cases hd
    · rw [if_neg hdc] at hd
      exact h.cache_seen d g' P hd hcache
  · intro d e g' P hd he
    by_cases hdc : d = c
    · rw [if_pos hdc] at hd
      cases hd
    · rw [if_neg hdc] at hd
      by_cases hec : e = c
      · rw [if_pos hec] at he
        cases he
      · rw [if_neg hec] at he
        exact h.snapshot_seen d e g' P hd he
  · intro d g' P hd
    by_cases hdc : d = c
    · rw [if_pos hdc] at hd
      cases hd
    · rw [if_neg hdc] at hd
      exact h.snapshotted_seen d g' P hd
  · intro d P hd
    by_cases hdc : d = c
    · rw [if_pos hdc] at hd
      cases hd
    · rw [if_neg hdc] at hd
      exact h.returned_seen d P hd

theorem Inv.setCall_returned (h : s.Inv) {g : Nat} {P : List (NodeId × IpAddr)} (hc : s.calls c = .loaded g)
    (hcache : s.relaysResponse = some (g, P)) : (s.setCall c (.returned P)).Inv := by
  constructor <;> dsimp only [setCall]
  · exact h.cache_le
  · exact h.cache_current
  · intro d g' hd
    by_cases hdc : d = c
    · rw [if_pos hdc] at hd
      cases hd
    · rw [if_neg hdc] at hd
      exact h.call_le d g' hd
  · intro d P' hd
    by_cases hdc : d = c
    · rw [if_pos hdc] at hd
      cases hd
    · rw [if_neg hdc] at hd
      exact h.snapshot_current d P' hd
  · intro d hd
    by_cases hdc : d = c
    · rw [if_pos hdc] at hd
      cases hd
    · rw [if_neg hdc] at hd
      exact h.current_seen d hd
  · intro d g' P' hd hcache'
    by_cases hdc : d = c
    · rw [if_pos hdc] at hd
      cases hd
    · rw [if_neg hdc] at hd
      exact h.cache_seen d g' P' hd hcache'
  · intro d e g' P' hd he
    by_cases hdc : d = c
    · rw [if_pos hdc] at hd
      cases hd
    · rw [if_neg hdc] at hd
      by_cases hec : e = c
      · rw [if_pos hec] at he
        cases he
      · rw [if_neg hec] at he
        exact h.snapshot_seen d e g' P' hd he
  · intro d g' P' hd
    by_cases hdc : d = c
    · rw [if_pos hdc] at hd
      cases hd
    · rw [if_neg hdc] at hd
      exact h.snapshotted_seen d g' P' hd
  · intro d P' hd
    by_cases hdc : d = c
    · rw [if_pos hdc] at hd
      cases hd
      rw [hdc]
      exact h.cache_seen c g P hc hcache
    · rw [if_neg hdc] at hd
      exact h.returned_seen d P' hd

theorem Inv.check (h : s.Inv) (c : Nat) : (s.step (.check c)).Inv := by
  cases hc : s.calls c with
  | loaded g =>
      have hs : s.step (.check c) = s.setCall c (cacheLookup s.relaysResponse g) := by rw [step, hc]
      rw [hs]
      rcases cacheLookup_cases s.relaysResponse g with hl | ⟨P, hcache, hl⟩ <;> rw [hl]
      · exact h.setCall_missed hc
      · exact h.setCall_returned hc hcache
  | idle | missed _ | snapshotted _ _ | returned _ =>
      have hs : s.step (.check c) = s := by rw [step, hc]
      rw [hs]
      exact h

theorem Inv.setCall_snapshotted (h : s.Inv) {g : Nat} (hc : s.calls c = .missed g) :
    (s.setCall c (.snapshotted g s.resolver.directory)).Inv := by
  have hflight : (s.calls c).inFlight = true := by rw [hc]; rfl
  constructor <;> dsimp only [setCall]
  · exact h.cache_le
  · exact h.cache_current
  · intro d g' hd
    by_cases hdc : d = c
    · rw [if_pos hdc] at hd
      cases hd
      exact h.call_le c g (by rw [hc]; rfl)
    · rw [if_neg hdc] at hd
      exact h.call_le d g' hd
  · intro d P hd
    by_cases hdc : d = c
    · rw [if_pos hdc] at hd
      cases hd
      rfl
    · rw [if_neg hdc] at hd
      exact h.snapshot_current d P hd
  · intro d hd
    by_cases hdc : d = c
    · rw [hdc]
      exact h.current_seen c hflight
    · rw [if_neg hdc] at hd
      exact h.current_seen d hd
  · intro d g' P hd hcache
    by_cases hdc : d = c
    · rw [if_pos hdc] at hd
      cases hd
    · rw [if_neg hdc] at hd
      exact h.cache_seen d g' P hd hcache
  · intro d e g' P hd he
    by_cases hdc : d = c
    · rw [if_pos hdc] at hd
      cases hd
    · rw [if_neg hdc] at hd
      by_cases hec : e = c
      · rw [if_pos hec] at he
        cases he
        exact h.current_seen d (by rw [hd]; rfl)
      · rw [if_neg hec] at he
        exact h.snapshot_seen d e g' P hd he
  · intro d g' P hd
    by_cases hdc : d = c
    · rw [if_pos hdc] at hd
      cases hd
      rw [hdc]
      exact h.current_seen c hflight
    · rw [if_neg hdc] at hd
      exact h.snapshotted_seen d g' P hd
  · intro d P hd
    by_cases hdc : d = c
    · rw [if_pos hdc] at hd
      cases hd
    · rw [if_neg hdc] at hd
      exact h.returned_seen d P hd

theorem Inv.snapshot (h : s.Inv) (c : Nat) : (s.step (.snapshot c)).Inv := by
  cases hc : s.calls c with
  | missed g =>
      have hs : s.step (.snapshot c) = s.setCall c (.snapshotted g s.resolver.directory) := by rw [step, hc]
      rw [hs]
      exact h.setCall_snapshotted hc
  | idle | loaded _ | snapshotted _ _ | returned _ =>
      have hs : s.step (.snapshot c) = s := by rw [step, hc]
      rw [hs]
      exact h

theorem Inv.store (h : s.Inv) (c : Nat) : (s.step (.store c)).Inv := by
  cases hc : s.calls c with
  | snapshotted g P =>
      have hs : s.step (.store c) = { s.setCall c (.returned P) with relaysResponse := some (g, P) } := by
        rw [step, hc]
      rw [hs]
      constructor <;> dsimp only [setCall]
      · intro g' P' hcache
        cases hcache
        exact h.call_le c g (by rw [hc]; rfl)
      · intro P' hcache
        cases hcache
        exact h.snapshot_current c P hc
      · intro d g' hd
        by_cases hdc : d = c
        · rw [if_pos hdc] at hd
          cases hd
        · rw [if_neg hdc] at hd
          exact h.call_le d g' hd
      · intro d P' hd
        by_cases hdc : d = c
        · rw [if_pos hdc] at hd
          cases hd
        · rw [if_neg hdc] at hd
          exact h.snapshot_current d P' hd
      · intro d hd
        by_cases hdc : d = c
        · rw [if_pos hdc] at hd
          cases hd
        · rw [if_neg hdc] at hd
          exact h.current_seen d hd
      · intro d g' P' hd hcache
        by_cases hdc : d = c
        · rw [if_pos hdc] at hd
          cases hd
        · rw [if_neg hdc] at hd
          cases hcache
          exact h.snapshot_seen d c g P hd hc
      · intro d e g' P' hd he
        by_cases hdc : d = c
        · rw [if_pos hdc] at hd
          cases hd
        · rw [if_neg hdc] at hd
          by_cases hec : e = c
          · rw [if_pos hec] at he
            cases he
          · rw [if_neg hec] at he
            exact h.snapshot_seen d e g' P' hd he
      · intro d g' P' hd
        by_cases hdc : d = c
        · rw [if_pos hdc] at hd
          cases hd
        · rw [if_neg hdc] at hd
          exact h.snapshotted_seen d g' P' hd
      · intro d P' hd
        by_cases hdc : d = c
        · rw [if_pos hdc] at hd
          cases hd
          rw [hdc]
          exact h.snapshotted_seen c g P hc
        · rw [if_neg hdc] at hd
          exact h.returned_seen d P' hd
  | idle | loaded _ | missed _ | returned _ =>
      have hs : s.step (.store c) = s := by rw [step, hc]
      rw [hs]
      exact h

def Coherent (s : Server) : Event → Prop
  | .resolver ev => (s.resolver.step ev).directory = s.resolver.directory ∨
      s.resolver.relaysGeneration < (s.resolver.step ev).relaysGeneration
  | .load _ | .check _ | .snapshot _ | .store _ => True

theorem Inv.step (h : s.Inv) : ∀ ev : Event, s.Coherent ev → (s.step ev).Inv
  | .resolver _, hco => h.resolver hco
  | .load c, _ => h.load c
  | .check c, _ => h.check c
  | .snapshot c, _ => h.snapshot c
  | .store c, _ => h.store c

def CoherentRun : Server → List Event → Prop
  | _, [] => True
  | s, ev :: es => s.Coherent ev ∧ CoherentRun (s.step ev) es

theorem Inv.foldl (h : s.Inv) {es : List Event} (hes : CoherentRun s es) : (es.foldl Server.step s).Inv := by
  induction es generalizing s with
  | nil => exact h
  | cons ev es ih => exact ih (h.step ev hes.1) hes.2

theorem stale_of_refused (hcache : s.relaysResponse = some (s.resolver.relaysGeneration, s.resolver.directory))
    (hidle : (s.calls c).inFlight = false) {conn : Conn} {id : NodeId}
    (hrej : admitApplicant ((s.resolver.relays.filter (·.id != id)).map RelayEntry.slot) conn.ip MAX_RELAYS
      s.resolver.now = .reject) :
    ([Event.resolver (.relayHello conn id (.ok ())), .load c, .check c].foldl step s).calls c =
        .returned s.resolver.directory ∧
      ([Event.resolver (.relayHello conn id (.ok ())), .load c, .check c].foldl step s).seen c =
        [(s.resolver.relays.filter (·.id != id)).map RelayEntry.descriptor] ∧
      ([Event.resolver (.relayHello conn id (.ok ())), .load c, .check c].foldl step s).resolver.relays =
        s.resolver.relays.filter (·.id != id) := by
  have hreg := Resolver.registerRelay_of_admit_reject hrej
  have hgen : (s.resolver.step (.relayHello conn id (.ok ()))).relaysGeneration = s.resolver.relaysGeneration := by
    show (s.resolver.registerRelay conn id (.ok ())).2.relaysGeneration = _
    rw [hreg]
  have hrelays : (s.resolver.step (.relayHello conn id (.ok ()))).relays = s.resolver.relays.filter (·.id != id) := by
    show (s.resolver.registerRelay conn id (.ok ())).2.relays = _
    rw [hreg]
  simp only [List.foldl_cons, List.foldl_nil, step, hidle, Bool.false_eq_true, if_false, setCall, if_true, hgen,
    hcache, cacheLookup, hrelays, Resolver.directory, and_self]

end Server

/-- The cached directory over every interleaving of registry events and calls. -/
theorem relays_response_stale_after_refusal :
    -- a registry event keeps the directory or bumps the generation, unless it is a refused hello
    (∀ (r : Resolver) (ev : Resolver.Event), r.relaysGeneration ≤ (r.step ev).relaysGeneration ∧
      ((r.step ev).directory = r.directory ∨ r.relaysGeneration < (r.step ev).relaysGeneration ∨
        ∃ conn id, ev = .relayHello conn id (.ok ()) ∧ (r.registerRelay conn id (.ok ())).1 = .error .registryFull)) ∧
    -- where every change bumps, each call answers with a directory the registry had while it ran
    (∀ es : List Event, Server.CoherentRun Server.init es → ∀ c P,
      (es.foldl Server.step Server.init).calls c = .returned P → P ∈ (es.foldl Server.step Server.init).seen c) ∧
    -- a refused hello for a registered relay leaves a current cache answering with it
    (∀ (s : Server) (c : Nat) (e : RelayEntry) (conn : Conn),
      s.relaysResponse = some (s.resolver.relaysGeneration, s.resolver.directory) → (s.calls c).inFlight = false →
      e ∈ s.resolver.relays →
      admitApplicant ((s.resolver.relays.filter (·.id != e.id)).map RelayEntry.slot) conn.ip MAX_RELAYS
        s.resolver.now = .reject →
      ([Event.resolver (.relayHello conn e.id (.ok ())), .load c, .check c].foldl Server.step s).calls c =
          .returned s.resolver.directory ∧
        e.descriptor ∈ s.resolver.directory ∧
        ∀ P ∈ ([Event.resolver (.relayHello conn e.id (.ok ())), .load c, .check c].foldl Server.step s).seen c,
          e.id ∉ P.map Prod.fst) := by
  refine ⟨fun r ev => ⟨Resolver.relaysGeneration_le_step r ev, Resolver.directory_step r ev⟩,
    fun es hes c P hc => (Server.inv_init.foldl hes).returned_seen c P hc, ?_⟩
  intro s c e conn hcache hidle he hrej
  obtain ⟨hcall, hseen, -⟩ := Server.stale_of_refused hcache hidle hrej
  refine ⟨hcall, List.mem_map_of_mem he, ?_⟩
  rw [hseen]
  intro P hP
  rw [List.mem_singleton.1 hP]
  simp [RelayEntry.descriptor]

def cachedRun : List Event :=
  Resolver.saturatedRun.map .resolver ++ [.load 0, .check 0, .snapshot 0, .store 0]

/-- After `cachedRun`, relay 1's hello replayed from 10.0.0.9 is refused, and a new call then
answers with a directory listing relay 1, which no directory the registry had during that call
lists. -/
theorem relays_response_stale_after_refusal_run :
    ([Event.resolver (.relayHello ⟨10, .v4 10 0 0 9⟩ (Resolver.relayId 1) (.ok ())), .load 1, .check 1].foldl
        Server.step (cachedRun.foldl Server.step Server.init)).calls 1 =
        .returned (cachedRun.foldl Server.step Server.init).resolver.directory ∧
      (Resolver.relayId 1, IpAddr.v4 10 0 0 1) ∈ (cachedRun.foldl Server.step Server.init).resolver.directory ∧
      ∀ P ∈ ([Event.resolver (.relayHello ⟨10, .v4 10 0 0 9⟩ (Resolver.relayId 1) (.ok ())), .load 1, .check 1].foldl
        Server.step (cachedRun.foldl Server.step Server.init)).seen 1, Resolver.relayId 1 ∉ P.map Prod.fst :=
  relays_response_stale_after_refusal.2.2 _ 1 ⟨Resolver.relayId 1, ⟨1, .v4 10 0 0 1⟩, true, 0⟩ ⟨10, .v4 10 0 0 9⟩
    (by decide) (by decide) (by decide) (by decide)

end Directory

end Promtuz
