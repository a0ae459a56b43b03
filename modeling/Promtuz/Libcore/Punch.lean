import Promtuz.Common.Proto

/-! The hole-punch of the P2P layer (`p2p::punch`), and the two places that feed it: the
candidate filter of `signal::deliver` and the key choice of `run_session`.

`PunchState` is the pure rule set: `tick` pings every candidate, `on_poke` answers an inbound
Ping with a Pong (and, the first time a source is heard while nothing is validated, learns it and
pings it back), and a Pong that matches a Ping we sent validates that Ping's address. The draws of
`OsRng` (each Ping's `tx`) are inputs of the steps that make them. The session's `DiscoKey` is
taken by what it does. `sealMsg`, the source's `seal`, frames and encrypts a poke, `open` authenticates and decodes one. -/

namespace Promtuz

namespace Punch

/-- `punch::MAX_CANDIDATES`. -/
def MAX_CANDIDATES : Nat := 16

/-- The IPv4 ranges `is_punchable` refuses, as `std::net::Ipv4Addr` classifies them: loopback,
private, link-local, multicast, broadcast, unspecified and documentation. -/
def refusedV4 (a b c d : UInt8) : Bool :=
  a == 127 ||
  (a == 10 || (a == 172 && b &&& 0xf0 == 16) || (a == 192 && b == 168)) ||
  (a == 169 && b == 254) ||
  a &&& 0xf0 == 224 ||
  (a == 255 && b == 255 && c == 255 && d == 255) ||
  (a == 0 && b == 0 && c == 0 && d == 0) ||
  ((a == 192 && b == 0 && c == 2) || (a == 198 && b == 51 && c == 100) || (a == 203 && b == 0 && c == 113))

def segment0 (ip : List UInt8) : UInt16 := (ip.getD 0 0).toUInt16 * 256 + (ip.getD 1 0).toUInt16

/-- The IPv6 ranges `is_punchable` refuses: loopback, multicast, unspecified, link-local
`fe80::/10`, site-local `fec0::/10` and unique-local `fc00::/7`. -/
def refusedV6 (ip : List UInt8) : Bool :=
  let hi := segment0 ip &&& 0xffc0
  ip == List.replicate 15 0 ++ [1] || ip.getD 0 0 == 0xff || ip.all (· == 0) ||
  hi == 0xfe80 || hi == 0xfec0 || segment0 ip &&& 0xfe00 == 0xfc00

/-- `is_punchable`: a peer-supplied address we are willing to send pokes to. `addr.ip` holds
four octets for IPv4 and sixteen for IPv6. -/
def isPunchable (addr : SocketAddr) : Bool :=
  if addr.port < 1024 then false
  else
    match addr.ip with
    | [a, b, c, d] => !refusedV4 a b c d
    | ip => ip.length == 16 && !refusedV6 ip

/-- `disco::DiscoMsg`. -/
inductive DiscoMsg where
  | ping (tx : Bytes 8)
  | pong (tx : Bytes 8) (seen : SocketAddr)
  deriving DecidableEq

/-- `disco::DiscoKey` by what it does. `sealMsg`, the source's `seal`, frames and encrypts a poke under the session's
channel and key (the nonce it draws is not modelled); `openPkt`, the source's `open`, gives the poke back, or `none` for
a packet of another channel or one that fails authentication. -/
structure DiscoKey where
  sealMsg : DiscoMsg → List UInt8
  openPkt : List UInt8 → Option DiscoMsg

/-- `socket::Poke`: the peer address and the datagram. -/
abbrev Poke := SocketAddr × List UInt8

/-- `PunchState`: the peer's candidates (its offer, then every source we heard a Ping from),
the Pings in flight by `tx`, and the first address a Pong validated. -/
structure PunchState where
  key : DiscoKey
  candidates : List SocketAddr
  sent : Bytes 8 → Option SocketAddr
  validated : Option SocketAddr

namespace PunchState

/-- `PunchState::new`: the offer, cut to `MAX_CANDIDATES`. -/
def new (key : DiscoKey) (candidates : List SocketAddr) : PunchState :=
  ⟨key, candidates.take MAX_CANDIDATES, fun _ => none, none⟩

/-- `ping`: record `tx`, the draw of `OsRng`, against `addr`, and seal the Ping. -/
def ping (s : PunchState) (addr : SocketAddr) (tx : Bytes 8) : List UInt8 × PunchState :=
  (s.key.sealMsg (.ping tx), { s with sent := Function.update s.sent tx (some addr) })

/-- The pings of `tick` from the `i`-th candidate on; `draw i` is the `tx` of the `i`-th. -/
def pingFrom (draw : Nat → Bytes 8) : Nat → List SocketAddr → PunchState → List Poke × PunchState
  | _, [], s => ([], s)
  | i, addr :: rest, s =>
      let p := s.ping addr (draw i)
      let q := pingFrom draw (i + 1) rest p.2
      ((addr, p.1) :: q.1, q.2)

/-- `tick`: one round of Pings, to every candidate in order. -/
def tick (s : PunchState) (draw : Nat → Bytes 8) : List Poke × PunchState :=
  pingFrom draw 0 s.candidates s

/-- `on_poke` for the source `src` and the packet `bytes`; `tx` is the draw a ping-back uses. -/
def onPoke (s : PunchState) (src : SocketAddr) (bytes : List UInt8) (tx : Bytes 8) : List Poke × PunchState :=
  match s.key.openPkt bytes with
  | some (.ping t) =>
      let pong : Poke := (src, s.key.sealMsg (.pong t src))
      let learned := !s.candidates.contains src && decide (s.candidates.length < MAX_CANDIDATES)
      let s := if learned then { s with candidates := s.candidates ++ [src] } else s
      -- the ping-back goes only to a source learned now, and only while nothing is validated
      if s.validated.isNone && learned then
        let p := s.ping src tx
        ([pong, (src, p.1)], p.2)
      else ([pong], s)
  | some (.pong t _) =>
      match s.sent t with
      | some addr => ([], { s with sent := Function.update s.sent t none, validated := s.validated.or (some addr) })
      | none => ([], s)
  | none => ([], s)

end PunchState

inductive Event where
  | tick (draw : Nat → Bytes 8)
  | poke (src : SocketAddr) (bytes : List UInt8) (tx : Bytes 8)

def Event.isPoke : Event → Bool
  | .tick _ => false
  | .poke .. => true

namespace PunchState

def step (s : PunchState) : Event → List Poke × PunchState
  | .tick draw => s.tick draw
  | .poke src bytes tx => s.onPoke src bytes tx

def run (s : PunchState) : List Event → List Poke × PunchState
  | [] => ([], s)
  | e :: es =>
      let p := s.step e
      let q := run p.2 es
      (p.1 ++ q.1, q.2)

def replies (s : PunchState) : List Event → List Poke
  | [] => []
  | e :: es => (if e.isPoke then (s.step e).1 else []) ++ replies (s.step e).2 es

/-- The loop of `punch` from `s`: each event's pokes are sent, and the loop returns as soon as an
address is validated, or with what is validated when the events run out (the deadline passed or
the socket is gone). -/
def punchLoop (s : PunchState) : List Event → List Poke × Option SocketAddr
  | [] => ([], s.validated)
  | e :: es =>
      let p := s.step e
      if p.2.validated.isSome then (p.1, p.2.validated)
      else
        let q := punchLoop p.2 es
        (p.1 ++ q.1, q.2)

variable {s : PunchState} {src addr a : SocketAddr} {bytes : List UInt8} {tx t : Bytes 8}

@[simp] theorem ping_fst : (s.ping addr tx).1 = s.key.sealMsg (.ping tx) := rfl

@[simp] theorem ping_snd : (s.ping addr tx).2 = { s with sent := Function.update s.sent tx (some addr) } := rfl

theorem pingFrom_snd (draw : Nat → Bytes 8) (i : Nat) (as : List SocketAddr) (s : PunchState) :
    ∃ sent, (pingFrom draw i as s).2 = { s with sent } := by
  induction as generalizing i s with
  | nil => exact ⟨s.sent, rfl⟩
  | cons b rest ih =>
      obtain ⟨sent, h⟩ := ih (i + 1) (s.ping b (draw i)).2
      exact ⟨sent, h⟩

theorem length_pingFrom (draw : Nat → Bytes 8) (i : Nat) (as : List SocketAddr) (s : PunchState) :
    (pingFrom draw i as s).1.length = as.length := by
  induction as generalizing i s with
  | nil => rfl
  | cons b rest ih => simp [pingFrom, ih]

theorem dest_mem_of_mem_pingFrom {draw : Nat → Bytes 8} {i : Nat} {as : List SocketAddr} {p : Poke}
    (hp : p ∈ (pingFrom draw i as s).1) : p.1 ∈ as := by
  induction as generalizing i s with
  | nil => cases hp
  | cons b rest ih =>
      simp only [pingFrom, List.mem_cons] at hp
      rcases hp with rfl | hp
      · exact List.mem_cons_self
      · exact List.mem_cons_of_mem _ (ih hp)

theorem sent_pingFrom {draw : Nat → Bytes 8} {i : Nat} {as : List SocketAddr}
    (h : (pingFrom draw i as s).2.sent t = some a) :
    (a, s.key.sealMsg (.ping t)) ∈ (pingFrom draw i as s).1 ∨ s.sent t = some a := by
  induction as generalizing i s with
  | nil => exact .inr h
  | cons b rest ih =>
      simp only [pingFrom] at h ⊢
      rcases ih h with hmem | hsent
      · exact .inl (List.mem_cons_of_mem _ (by simpa using hmem))
      · simp only [ping_snd, Function.update_apply] at hsent
        split_ifs at hsent with ht
        · cases hsent
          exact .inl (by simp [ht])
        · exact .inr hsent

theorem onPoke_of_none (h : s.key.openPkt bytes = none) : s.onPoke src bytes tx = ([], s) := by
  simp [onPoke, h]

theorem onPoke_of_pong_none {seen : SocketAddr} (h : s.key.openPkt bytes = some (.pong t seen))
    (hs : s.sent t = none) : s.onPoke src bytes tx = ([], s) := by
  simp [onPoke, h, hs]

theorem onPoke_of_pong_some {seen : SocketAddr} (h : s.key.openPkt bytes = some (.pong t seen))
    (hs : s.sent t = some addr) :
    s.onPoke src bytes tx = ([], { s with sent := Function.update s.sent t none, validated := s.validated.or (some addr) }) := by
  simp [onPoke, h, hs]

theorem onPoke_of_ping_known (h : s.key.openPkt bytes = some (.ping t))
    (hold : src ∈ s.candidates ∨ MAX_CANDIDATES ≤ s.candidates.length) :
    s.onPoke src bytes tx = ([(src, s.key.sealMsg (.pong t src))], s) := by
  have hlearned : (!s.candidates.contains src && decide (s.candidates.length < MAX_CANDIDATES)) = false := by
    rcases hold with hmem | hfull
    · simp [hmem]
    · simp [Nat.not_lt.mpr hfull]
  simp only [onPoke, h, hlearned, Bool.false_eq_true, ↓reduceIte, Bool.and_false]

theorem onPoke_of_ping_learned (h : s.key.openPkt bytes = some (.ping t)) (hnew : src ∉ s.candidates)
    (hroom : s.candidates.length < MAX_CANDIDATES) :
    s.onPoke src bytes tx =
      if s.validated.isNone then
        ([(src, s.key.sealMsg (.pong t src)), (src, s.key.sealMsg (.ping tx))],
          { s with candidates := s.candidates ++ [src], sent := Function.update s.sent tx (some src) })
      else ([(src, s.key.sealMsg (.pong t src))], { s with candidates := s.candidates ++ [src] }) := by
  have hlearned : (!s.candidates.contains src && decide (s.candidates.length < MAX_CANDIDATES)) = true := by
    simp [hnew, hroom]
  simp only [onPoke, h, hlearned]
  cases hv : s.validated <;> simp

theorem onPoke_spec (s : PunchState) (src : SocketAddr) (bytes : List UInt8) (tx : Bytes 8) :
    s.onPoke src bytes tx = ([], s) ∨
    (∃ t seen addr, s.key.openPkt bytes = some (.pong t seen) ∧ s.sent t = some addr ∧
      s.onPoke src bytes tx = ([], { s with sent := Function.update s.sent t none, validated := s.validated.or (some addr) })) ∨
    (∃ t, s.key.openPkt bytes = some (.ping t) ∧
      s.onPoke src bytes tx = ([(src, s.key.sealMsg (.pong t src))], s)) ∨
    (∃ t, s.key.openPkt bytes = some (.ping t) ∧ src ∉ s.candidates ∧ s.candidates.length < MAX_CANDIDATES ∧
      s.validated.isSome ∧
      s.onPoke src bytes tx = ([(src, s.key.sealMsg (.pong t src))], { s with candidates := s.candidates ++ [src] })) ∨
    (∃ t, s.key.openPkt bytes = some (.ping t) ∧ src ∉ s.candidates ∧ s.candidates.length < MAX_CANDIDATES ∧
      s.validated = none ∧
      s.onPoke src bytes tx = ([(src, s.key.sealMsg (.pong t src)), (src, s.key.sealMsg (.ping tx))],
        { s with candidates := s.candidates ++ [src], sent := Function.update s.sent tx (some src) })) := by
  rcases hopen : s.key.openPkt bytes with _ | ⟨t⟩ | ⟨t, seen⟩
  · exact .inl (onPoke_of_none hopen)
  · by_cases hold : src ∈ s.candidates ∨ MAX_CANDIDATES ≤ s.candidates.length
    · exact .inr (.inr (.inl ⟨t, rfl, onPoke_of_ping_known hopen hold⟩))
    · simp only [not_or, Nat.not_le] at hold
      have hpoke : s.onPoke src bytes tx = _ := onPoke_of_ping_learned hopen hold.1 hold.2
      cases hv : s.validated with
      | none => exact .inr (.inr (.inr (.inr ⟨t, rfl, hold.1, hold.2, rfl, by rw [hpoke]; simp [hv]⟩)))
      | some v => exact .inr (.inr (.inr (.inl ⟨t, rfl, hold.1, hold.2, by simp, by rw [hpoke]; simp [hv]⟩)))
  · cases hs : s.sent t with
    | none => exact .inl (onPoke_of_pong_none hopen hs)
    | some addr => exact .inr (.inl ⟨t, seen, addr, rfl, hs, onPoke_of_pong_some hopen hs⟩)

theorem step_frame (s : PunchState) (e : Event) :
    (s.step e).2.key = s.key ∧ s.candidates <+: (s.step e).2.candidates ∧
      ∀ ⦃a⦄, s.validated = some a → (s.step e).2.validated = some a := by
  cases e with
  | tick draw =>
      obtain ⟨sent, h⟩ := pingFrom_snd draw 0 s.candidates s
      simp only [step, tick]
      rw [h]
      exact ⟨rfl, List.prefix_refl _, fun _ ha => ha⟩
  | poke src bytes tx =>
      simp only [step]
      rcases onPoke_spec s src bytes tx with h | ⟨t, seen, addr, -, -, h⟩ | ⟨t, -, h⟩ | ⟨t, -, -, -, -, h⟩ |
          ⟨t, -, -, -, -, h⟩ <;> rw [h]
      · exact ⟨rfl, List.prefix_refl _, fun _ ha => ha⟩
      · exact ⟨rfl, List.prefix_refl _, fun _ ha => by simp [ha]⟩
      · exact ⟨rfl, List.prefix_refl _, fun _ ha => ha⟩
      · exact ⟨rfl, List.prefix_append _ _, fun _ ha => ha⟩
      · exact ⟨rfl, List.prefix_append _ _, fun _ ha => ha⟩

theorem run_nil (s : PunchState) : s.run [] = ([], s) := rfl

theorem run_cons (s : PunchState) (e : Event) (es : List Event) :
    s.run (e :: es) = ((s.step e).1 ++ ((s.step e).2.run es).1, ((s.step e).2.run es).2) := rfl

theorem run_frame (s : PunchState) (evs : List Event) :
    (s.run evs).2.key = s.key ∧ s.candidates <+: (s.run evs).2.candidates ∧
      ∀ ⦃a⦄, s.validated = some a → (s.run evs).2.validated = some a := by
  induction evs generalizing s with
  | nil => exact ⟨rfl, List.prefix_refl _, fun _ ha => ha⟩
  | cons e es ih =>
      obtain ⟨hk, hc, hv⟩ := step_frame s e
      obtain ⟨hk', hc', hv'⟩ := ih (s.step e).2
      exact ⟨hk'.trans hk, hc.trans hc', fun _ ha => hv' (hv ha)⟩

/-- What holds of every state a punch reaches: the candidates stay within `MAX_CANDIDATES`, every
Ping in flight went to a candidate, and a validated address is a candidate. -/
structure Inv (s : PunchState) : Prop where
  capped : s.candidates.length ≤ MAX_CANDIDATES
  sent_mem : ∀ ⦃t a⦄, s.sent t = some a → a ∈ s.candidates
  validated_mem : ∀ ⦃a⦄, s.validated = some a → a ∈ s.candidates

theorem inv_new (key : DiscoKey) (candidates : List SocketAddr) : (new key candidates).Inv where
  capped := List.length_take_le _ _
  sent_mem := by simp [new]
  validated_mem := by simp [new]

theorem Inv.tick (h : s.Inv) (draw : Nat → Bytes 8) : (s.tick draw).2.Inv := by
  obtain ⟨sent, hs⟩ := pingFrom_snd draw 0 s.candidates s
  have hsent : ∀ ⦃t a⦄, (s.tick draw).2.sent t = some a → a ∈ s.candidates := fun t a ht => by
    rcases sent_pingFrom ht with hmem | hold
    · exact dest_mem_of_mem_pingFrom hmem
    · exact h.sent_mem hold
  unfold PunchState.tick at hsent ⊢
  rw [hs] at hsent ⊢
  exact ⟨h.capped, hsent, h.validated_mem⟩

theorem Inv.onPoke (h : s.Inv) (src : SocketAddr) (bytes : List UInt8) (tx : Bytes 8) :
    (s.onPoke src bytes tx).2.Inv := by
  rcases onPoke_spec s src bytes tx with hp | ⟨t, seen, addr, -, hs, hp⟩ | ⟨t, -, hp⟩ |
      ⟨t, -, hnew, hroom, -, hp⟩ | ⟨t, -, hnew, hroom, hv, hp⟩ <;> rw [hp]
  · exact h
  -- the Pong's address was in flight, so it is a candidate
  · refine ⟨h.capped, fun t' a ht' => ?_, fun a ha => ?_⟩
    · simp only [Function.update_apply] at ht'
      split_ifs at ht'
      exact h.sent_mem ht'
    · cases hv : s.validated with
      | none => simp only [hv, Option.none_or, Option.some.injEq] at ha; exact ha ▸ h.sent_mem hs
      | some v => simp only [hv, Option.some_or, Option.some.injEq] at ha; exact h.validated_mem (ha ▸ hv)
  · exact h
  · exact ⟨by simp; omega, fun t a ht => List.mem_append_left _ (h.sent_mem ht),
      fun a ha => List.mem_append_left _ (h.validated_mem ha)⟩
  · refine ⟨by simp; omega, fun t' a ht' => ?_, fun a ha => by simp [hv] at ha⟩
    simp only [Function.update_apply] at ht'
    split_ifs at ht'
    · cases ht'
      exact List.mem_append_right _ (List.mem_singleton_self _)
    · exact List.mem_append_left _ (h.sent_mem ht')

theorem Inv.step (h : s.Inv) : ∀ e, (s.step e).2.Inv
  | .tick draw => h.tick draw
  | .poke src bytes tx => h.onPoke src bytes tx

theorem Inv.run (h : s.Inv) (evs : List Event) : (s.run evs).2.Inv := by
  induction evs generalizing s with
  | nil => exact h
  | cons e es ih => exact ih (h.step e)

/-- Every Ping in flight is among the pokes `out`, sealed under its own `tx` and sent to its own
address. -/
def Recorded (s : PunchState) (out : List Poke) : Prop :=
  ∀ ⦃t a⦄, s.sent t = some a → (a, s.key.sealMsg (.ping t)) ∈ out

theorem Recorded.step {out : List Poke} (h : s.Recorded out) (e : Event) :
    (s.step e).2.Recorded (out ++ (s.step e).1) := by
  intro t a ht
  rw [(step_frame s e).1]
  cases e with
  | tick draw =>
      rcases sent_pingFrom ht with hmem | hold
      · exact List.mem_append_right _ hmem
      · exact List.mem_append_left _ (h hold)
  | poke src bytes tx =>
      simp only [PunchState.step] at ht ⊢
      rcases onPoke_spec s src bytes tx with hp | ⟨t', seen, addr, -, -, hp⟩ | ⟨t', -, hp⟩ |
          ⟨t', -, -, -, -, hp⟩ | ⟨t', -, -, -, -, hp⟩ <;> rw [hp] at ht ⊢
      · exact List.mem_append_left _ (h ht)
      · simp only [Function.update_apply] at ht
        split_ifs at ht
        exact List.mem_append_left _ (h ht)
      · exact List.mem_append_left _ (h ht)
      · exact List.mem_append_left _ (h ht)
      -- the ping-back is the one new Ping in flight
      · simp only [Function.update_apply] at ht
        split_ifs at ht with htx
        · cases ht
          simp [htx]
        · exact List.mem_append_left _ (h ht)

theorem validated_step_of_none (hnone : s.validated = none) {e : Event} (h : (s.step e).2.validated = some a) :
    ∃ src bytes tx t seen, e = .poke src bytes tx ∧ s.key.openPkt bytes = some (.pong t seen) ∧
      s.sent t = some a := by
  cases e with
  | tick draw =>
      obtain ⟨sent, hs⟩ := pingFrom_snd draw 0 s.candidates s
      simp only [step, tick] at h
      rw [hs, hnone] at h
      cases h
  | poke src bytes tx =>
      simp only [step] at h
      rcases onPoke_spec s src bytes tx with hp | ⟨t, seen, addr, hopen, hs, hp⟩ | ⟨t, -, hp⟩ |
          ⟨t, -, -, -, -, hp⟩ | ⟨t, -, -, -, -, hp⟩ <;> rw [hp] at h <;> simp [hnone] at h
      subst h
      exact ⟨src, bytes, tx, t, seen, rfl, hopen, hs⟩

theorem validated_run_of_none {out : List Poke} (h : s.Recorded out) (hnone : s.validated = none)
    {evs : List Event} (hv : (s.run evs).2.validated = some a) :
    ∃ pre src bytes tx post t seen, evs = pre ++ Event.poke src bytes tx :: post ∧
      s.key.openPkt bytes = some (.pong t seen) ∧ (a, s.key.sealMsg (.ping t)) ∈ out ++ (s.run pre).1 := by
  induction evs generalizing s out with
  | nil => simp [run_nil, hnone] at hv
  | cons e es ih =>
      rw [run_cons] at hv
      cases hstep : (s.step e).2.validated with
      | none =>
          obtain ⟨pre, src, bytes, tx, post, t, seen, rfl, hopen, hmem⟩ := ih (h.step e) hstep hv
          refine ⟨e :: pre, src, bytes, tx, post, t, seen, rfl, ?_, ?_⟩
          · rwa [(step_frame s e).1] at hopen
          · simpa [run_cons, (step_frame s e).1, List.append_assoc] using hmem
      -- `e` itself validated, and the run keeps what it validated
      | some a' =>
          obtain ⟨src, bytes, tx, t, seen, rfl, hopen, hs⟩ := validated_step_of_none hnone hstep
          have ha : a' = a := by
            rw [(run_frame _ es).2.2 hstep] at hv
            exact Option.some.inj hv
          subst ha
          exact ⟨[], src, bytes, tx, es, t, seen, rfl, hopen, by simpa [run_nil] using h hs⟩

theorem punchLoop_eq_run (s : PunchState) (evs : List Event) :
    ∃ pre post, evs = pre ++ post ∧ s.punchLoop evs = ((s.run pre).1, (s.run pre).2.validated) := by
  induction evs generalizing s with
  | nil => exact ⟨[], [], rfl, rfl⟩
  | cons e es ih =>
      by_cases hv : (s.step e).2.validated.isSome
      · exact ⟨[e], es, rfl, by simp [punchLoop, hv, run_cons, run_nil]⟩
      · obtain ⟨pre, post, rfl, hloop⟩ := ih (s.step e).2
        exact ⟨e :: pre, post, rfl, by simp [punchLoop, hv, hloop, run_cons]⟩

/-- `a` is the source of an authenticated Ping among the events `evs`. -/
def PingedFrom (key : DiscoKey) (evs : List Event) (a : SocketAddr) : Prop :=
  ∃ bytes tx t, Event.poke a bytes tx ∈ evs ∧ key.openPkt bytes = some (.ping t)

theorem PingedFrom.mono {key : DiscoKey} {evs evs' : List Event} (hsub : evs ⊆ evs') :
    PingedFrom key evs a → PingedFrom key evs' a := by
  rintro ⟨bytes, tx, t, hmem, hopen⟩
  exact ⟨bytes, tx, t, hsub hmem, hopen⟩

theorem step_sources (s : PunchState) (e : Event) :
    (∀ p ∈ (s.step e).1, p.1 ∈ s.candidates ∨ PingedFrom s.key [e] p.1) ∧
      ∀ a ∈ (s.step e).2.candidates, a ∈ s.candidates ∨ PingedFrom s.key [e] a := by
  cases e with
  | tick draw =>
      obtain ⟨sent, hs⟩ := pingFrom_snd draw 0 s.candidates s
      refine ⟨fun p hp => .inl (dest_mem_of_mem_pingFrom hp), fun a ha => .inl ?_⟩
      simpa only [PunchState.step, tick, hs] using ha
  | poke src bytes tx =>
      simp only [PunchState.step]
      have hsrc : ∀ t, s.key.openPkt bytes = some (.ping t) → PingedFrom s.key [.poke src bytes tx] src :=
        fun t hopen => ⟨bytes, tx, t, List.mem_singleton_self _, hopen⟩
      rcases onPoke_spec s src bytes tx with hp | ⟨t, seen, addr, -, -, hp⟩ | ⟨t, hopen, hp⟩ |
          ⟨t, hopen, -, -, -, hp⟩ | ⟨t, hopen, -, -, -, hp⟩ <;> rw [hp]
      · exact ⟨by simp, fun a ha => .inl ha⟩
      · exact ⟨by simp, fun a ha => .inl ha⟩
      · exact ⟨by simpa using .inr (hsrc t hopen), fun a ha => .inl ha⟩
      · refine ⟨by simpa using .inr (hsrc t hopen), fun a ha => ?_⟩
        rcases List.mem_append.mp ha with ha | ha
        · exact .inl ha
        · exact .inr (by simpa [List.mem_singleton.mp ha] using hsrc t hopen)
      · refine ⟨by simpa using .inr (hsrc t hopen), fun a ha => ?_⟩
        rcases List.mem_append.mp ha with ha | ha
        · exact .inl ha
        · exact .inr (by simpa [List.mem_singleton.mp ha] using hsrc t hopen)

theorem run_sources (s : PunchState) (evs : List Event) :
    (∀ p ∈ (s.run evs).1, p.1 ∈ s.candidates ∨ PingedFrom s.key evs p.1) ∧
      ∀ a ∈ (s.run evs).2.candidates, a ∈ s.candidates ∨ PingedFrom s.key evs a := by
  induction evs generalizing s with
  | nil => exact ⟨by simp [run_nil], fun a ha => .inl ha⟩
  | cons e es ih =>
      obtain ⟨hout, hcand⟩ := step_sources s e
      obtain ⟨hout', hcand'⟩ := ih (s.step e).2
      have hkey := (step_frame s e).1
      -- a candidate of the state after `e` is one from before, or a source `e` taught
      have lift : ∀ a, a ∈ (s.step e).2.candidates ∨ PingedFrom (s.step e).2.key es a →
          a ∈ s.candidates ∨ PingedFrom s.key (e :: es) a := by
        rintro a (ha | ha)
        · exact (hcand a ha).imp_right (PingedFrom.mono (by simp))
        · exact .inr (PingedFrom.mono (List.subset_cons_self _ _) (hkey ▸ ha))
      refine ⟨fun p hp => ?_, fun a ha => lift a (hcand' a ha)⟩
      rw [run_cons, List.mem_append] at hp
      rcases hp with hp | hp
      · exact (hout p hp).imp_right (PingedFrom.mono (by simp))
      · exact lift p.1 (hout' p hp)

theorem replies_step (s : PunchState) (e : Event) :
    (if e.isPoke then (s.step e).1 else []).length + s.candidates.length ≤
      (if e.isPoke then 1 else 0) + (s.step e).2.candidates.length := by
  cases e with
  | tick draw =>
      obtain ⟨sent, hs⟩ := pingFrom_snd draw 0 s.candidates s
      simp [Event.isPoke, PunchState.step, tick, hs]
  | poke src bytes tx =>
      simp only [Event.isPoke, PunchState.step, if_true]
      rcases onPoke_spec s src bytes tx with hp | ⟨t, seen, addr, -, -, hp⟩ | ⟨t, -, hp⟩ |
          ⟨t, -, -, -, -, hp⟩ | ⟨t, -, -, -, -, hp⟩ <;> rw [hp] <;> simp
      -- the ping-back: two pokes, and the source learned
      omega

theorem length_replies_le (s : PunchState) (evs : List Event) :
    (s.replies evs).length + s.candidates.length ≤ (evs.filter Event.isPoke).length + (s.run evs).2.candidates.length := by
  induction evs generalizing s with
  | nil => simp [replies, run_nil]
  | cons e es ih =>
      have hstep := replies_step s e
      have hrest := ih (s.step e).2
      simp only [replies, run_cons, List.length_append, List.filter_cons]
      cases he : e.isPoke <;> simp only [he, Bool.false_eq_true, ↓reduceIte, List.length_nil, List.length_cons]
        at hstep ⊢ <;> omega

theorem length_tick_le (h : s.Inv) (draw : Nat → Bytes 8) : (s.tick draw).1.length ≤ MAX_CANDIDATES := by
  rw [tick, length_pingFrom]
  exact h.capped

end PunchState

/-- `punch`: a fresh rule set over the peer's candidates, run until it validates. -/
def punch (key : DiscoKey) (candidates : List SocketAddr) (events : List Event) : List Poke × Option SocketAddr :=
  (PunchState.new key candidates).punchLoop events

/-- `signal::deliver`'s cut of the peer's offer: the punchable candidates, at most
`MAX_CANDIDATES` of them. -/
def offerCandidates (candidates : List SocketAddr) : List SocketAddr :=
  (candidates.filter isPunchable).take MAX_CANDIDATES

/-- A punch returns an address only once a Pong has echoed the `tx` of a Ping it sent to that
address: the Pong is one of the inbound pokes, and the Ping is among the pokes sent before it. -/
theorem punch_validates_answered (key : DiscoKey) (candidates : List SocketAddr) (events : List Event)
    {out : List Poke} {a : SocketAddr} (h : punch key candidates events = (out, some a)) :
    ∃ pre src bytes tx post t seen, events = pre ++ Event.poke src bytes tx :: post ∧
      key.openPkt bytes = some (.pong t seen) ∧
      (a, key.sealMsg (.ping t)) ∈ ((PunchState.new key candidates).run pre).1 := by
  obtain ⟨pre₀, post₀, rfl, hloop⟩ := (PunchState.new key candidates).punchLoop_eq_run events
  rw [punch, hloop, Prod.mk.injEq] at h
  -- a fresh rule set has no Ping in flight
  have hrec : (PunchState.new key candidates).Recorded [] := fun t a ht => by simp [PunchState.new] at ht
  obtain ⟨pre, src, bytes, tx, post, t, seen, rfl, hopen, hmem⟩ :=
    PunchState.validated_run_of_none hrec rfl h.2
  have hkey : (PunchState.new key candidates).key = key := rfl
  rw [hkey] at hopen hmem
  exact ⟨pre, src, bytes, tx, post ++ post₀, t, seen, by simp, hopen, by simpa using hmem⟩

def samplePlain : DiscoMsg → List UInt8
  | .ping tx => 0 :: tx.1
  | .pong tx seen => 1 :: tx.1 ++ Bytes.toBeBytes 2 seen.port.toNat ++ seen.ip

def sampleBytes (n : Nat) (l : List UInt8) : Option (Bytes n) :=
  if h : l.length = n then some ⟨l, h⟩ else none

def sampleOpen : List UInt8 → Option DiscoMsg
  | 0 :: rest => (sampleBytes 8 rest).map DiscoMsg.ping
  | 1 :: rest => (sampleBytes 8 (rest.take 8)).map fun tx =>
      .pong tx ⟨rest.drop 10, UInt16.ofNat (Bytes.beValue ((rest.drop 8).take 2))⟩
  | _ => none

def sampleKey : DiscoKey := ⟨samplePlain, sampleOpen⟩

theorem punch_validates_answered_pong :
    let addr : SocketAddr := ⟨[9, 9, 9, 9], 5000⟩
    let events := [Event.tick fun _ => Bytes.replicate 8 1,
      Event.poke addr (samplePlain (.pong (Bytes.replicate 8 1) ⟨[1, 2, 3, 4], 40000⟩)) (Bytes.replicate 8 2)]
    punch sampleKey [addr] events = ([(addr, samplePlain (.ping (Bytes.replicate 8 1)))], some addr) ∧
      ∃ pre src bytes tx post t seen, events = pre ++ Event.poke src bytes tx :: post ∧
        sampleKey.openPkt bytes = some (.pong t seen) ∧
        (addr, sampleKey.sealMsg (.ping t)) ∈ ((PunchState.new sampleKey [addr]).run pre).1 := by
  intro addr events
  have h : punch sampleKey [addr] events = ([(addr, samplePlain (.ping (Bytes.replicate 8 1)))], some addr) := by
    decide
  exact ⟨h, punch_validates_answered sampleKey [addr] events h⟩

/-- A punch over an offer as `signal::deliver` cuts it sends its pokes only to punchable
addresses of the offer and to sources that sent it an authenticated Ping. -/
theorem punch_pokes_sanctioned (key : DiscoKey) (offer : List SocketAddr) (events : List Event) :
    ∀ p ∈ (punch key (offerCandidates offer) events).1,
      (p.1 ∈ offer ∧ isPunchable p.1 = true) ∨ PunchState.PingedFrom key events p.1 := by
  intro p hp
  obtain ⟨pre, post, rfl, hloop⟩ := (PunchState.new key (offerCandidates offer)).punchLoop_eq_run events
  rw [punch, hloop] at hp
  rcases (PunchState.run_sources _ pre).1 p hp with hmem | hping
  · have hcut : p.1 ∈ offer.filter isPunchable :=
      List.mem_of_mem_take (List.mem_of_mem_take (l := offerCandidates offer) hmem)
    exact .inl (List.mem_filter.mp hcut)
  · exact .inr (hping.mono (List.subset_append_left _ _))

theorem punch_pokes_sanctioned_private :
    let offer : List SocketAddr := [⟨[192, 168, 1, 5], 5000⟩, ⟨[9, 9, 9, 9], 5000⟩]
    let events := [Event.tick fun _ => Bytes.replicate 8 1]
    let p : Poke := (⟨[9, 9, 9, 9], 5000⟩, samplePlain (.ping (Bytes.replicate 8 1)))
    p ∈ (punch sampleKey (offerCandidates offer) events).1 ∧
      ((p.1 ∈ offer ∧ isPunchable p.1 = true) ∨ PunchState.PingedFrom sampleKey events p.1) := by
  intro offer events p
  have hp : p ∈ (punch sampleKey (offerCandidates offer) events).1 := by decide
  exact ⟨hp, punch_pokes_sanctioned sampleKey offer events p hp⟩

/-- However many pokes arrive, a punch's fan-out stays bounded: a tick of any state it reaches
sends at most `MAX_CANDIDATES` Pings, and the inbound pokes of a run are answered by one poke each
plus at most `MAX_CANDIDATES` ping-backs in all, fewer by the candidates it started with. -/
theorem punch_fanout_bounded (key : DiscoKey) (candidates : List SocketAddr) (events : List Event)
    (draw : Nat → Bytes 8) :
    (((PunchState.new key candidates).run events).2.tick draw).1.length ≤ MAX_CANDIDATES ∧
      ((PunchState.new key candidates).replies events).length ≤
        (events.filter Event.isPoke).length + (MAX_CANDIDATES - (candidates.take MAX_CANDIDATES).length) := by
  have hinv := (PunchState.inv_new key candidates).run events
  refine ⟨PunchState.length_tick_le hinv draw, ?_⟩
  have hle := PunchState.length_replies_le (PunchState.new key candidates) events
  have hcap := hinv.capped
  have hstart : (PunchState.new key candidates).candidates.length = (candidates.take MAX_CANDIDATES).length := rfl
  omega

end Punch

end Promtuz
