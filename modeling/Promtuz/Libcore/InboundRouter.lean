import Promtuz.Common.Proto
import Promtuz.Lib.Reach

/-! The router of inbound QUIC connections of the P2P endpoint (`p2p::InboundRouter`). The accept
loop hands every `Incoming` to `route`, which sends it to the session registered for its remote
address, or holds it in a backlog bounded in size and age. A session that expects its peer
`claim`s the addresses only that peer can produce, taking what the backlog holds for them, and
`release`s them when it ends, leaving any later session's registration alone. All of it runs
under the router's mutex, one call at a time. What the router sends to the sessions' channels and
what it refuses are kept as logs. -/

namespace Promtuz

namespace Inbound

def INBOUND_BACKLOG : Nat := 8

def INBOUND_BACKLOG_TTL : Nat := 10000

/-- A `quinn::Incoming`, by an identity and its remote address. -/
structure Incoming where
  id : Nat
  remote : SocketAddr
  deriving DecidableEq

/-- A session's `mpsc` channel, by the identity `same_channel` compares. -/
abbrev Chan := Nat

/-- `InboundRouter`: `waiting` and the backlog with each entry's arrival time, plus the log of
every `Incoming` sent to a channel and of every one refused. -/
structure InboundRouter where
  waiting : SocketAddr → Option Chan
  backlog : List (Nat × Incoming)
  sent : List (Chan × Incoming)
  refused : List Incoming

namespace InboundRouter

def empty : InboundRouter := ⟨fun _ => none, [], [], []⟩

/-- The first loop of `route`: refuse the oldest entry while it is older than the TTL. -/
def expireStale (now : Nat) : List (Nat × Incoming) → List Incoming → List (Nat × Incoming) × List Incoming
  | [], refused => ([], refused)
  | (t, stale) :: rest, refused =>
      if INBOUND_BACKLOG_TTL < now - t then expireStale now rest (refused ++ [stale])
      else ((t, stale) :: rest, refused)

/-- The second loop of `route`: refuse the oldest entry while the backlog is full. -/
def expireFull : List (Nat × Incoming) → List Incoming → List (Nat × Incoming) × List Incoming
  | [], refused => ([], refused)
  | e :: rest, refused =>
      if INBOUND_BACKLOG ≤ rest.length + 1 then expireFull rest (refused ++ [e.2])
      else (e :: rest, refused)

def route (r : InboundRouter) (incoming : Incoming) (now : Nat) : InboundRouter :=
  match r.waiting incoming.remote with
  | some c => { r with sent := r.sent ++ [(c, incoming)] }
  | none =>
      let stale := expireStale now r.backlog r.refused
      let full := expireFull stale.1 stale.2
      { r with backlog := full.1 ++ [(now, incoming)], refused := full.2 }

/-- The loop of `claim` over the backlog it took: what comes from `addrs` goes to the channel,
the rest back to the backlog in order. -/
def claimHeld (addrs : List SocketAddr) (c : Chan) : List (Nat × Incoming) → InboundRouter → InboundRouter
  | [], r => r
  | e :: held, r =>
      if addrs.contains e.2.remote then claimHeld addrs c held { r with sent := r.sent ++ [(c, e.2)] }
      else claimHeld addrs c held { r with backlog := r.backlog ++ [e] }

def claim (r : InboundRouter) (addrs : List SocketAddr) (c : Chan) : InboundRouter :=
  let r' := claimHeld addrs c r.backlog { r with backlog := [] }
  { r' with waiting := addrs.foldl (fun w a => Function.update w a (some c)) r'.waiting }

/-- `release`: an address leaves `waiting` only if it still names this session's channel. -/
def release (r : InboundRouter) (addrs : List SocketAddr) (c : Chan) : InboundRouter :=
  { r with waiting := addrs.foldl (fun w a => if w a = some c then Function.update w a none else w) r.waiting }

end InboundRouter

/-- The calls on the router: the accept loop's `route` at the time `now`, and a session's
`claim` (by `expect_inbound`) and `release` (by its guard's drop). -/
inductive Op where
  | route (incoming : Incoming) (now : Nat)
  | claim (addrs : List SocketAddr) (c : Chan)
  | release (addrs : List SocketAddr) (c : Chan)

def Op.incoming : Op → Option Incoming
  | .route incoming _ => some incoming
  | _ => none

namespace InboundRouter

def step (r : InboundRouter) : Op → InboundRouter
  | .route incoming now => r.route incoming now
  | .claim addrs c => r.claim addrs c
  | .release addrs c => r.release addrs c

theorem expireStale_split (now : Nat) (b : List (Nat × Incoming)) (f : List Incoming) :
    (expireStale now b f).2 ++ (expireStale now b f).1.map Prod.snd = f ++ b.map Prod.snd := by
  induction b generalizing f with
  | nil => simp [expireStale]
  | cons e rest ih =>
      obtain ⟨t, stale⟩ := e
      unfold expireStale
      split
      · simpa using ih (f ++ [stale])
      · rfl

theorem expireFull_split (b : List (Nat × Incoming)) (f : List Incoming) :
    (expireFull b f).2 ++ (expireFull b f).1.map Prod.snd = f ++ b.map Prod.snd := by
  induction b generalizing f with
  | nil => simp [expireFull]
  | cons e rest ih =>
      unfold expireFull
      split
      · simpa using ih (f ++ [e.2])
      · rfl

theorem length_expireFull_lt (b : List (Nat × Incoming)) (f : List Incoming) :
    (expireFull b f).1.length < INBOUND_BACKLOG := by
  induction b generalizing f with
  | nil => simp [expireFull, INBOUND_BACKLOG]
  | cons e rest ih =>
      unfold expireFull
      split
      · exact ih _
      · simp only [List.length_cons]; omega

theorem claimHeld_eq (addrs : List SocketAddr) (c : Chan) (held : List (Nat × Incoming)) (r : InboundRouter) :
    claimHeld addrs c held r =
      { r with sent := r.sent ++ (held.filter fun e => addrs.contains e.2.remote).map fun e => (c, e.2),
               backlog := r.backlog ++ held.filter fun e => !addrs.contains e.2.remote } := by
  induction held generalizing r with
  | nil => simp [claimHeld]
  | cons e held ih =>
      unfold claimHeld
      by_cases he : e.2.remote ∈ addrs <;> simp [he, ih]

theorem waiting_claim (r : InboundRouter) (addrs : List SocketAddr) (c : Chan) (a : SocketAddr) :
    (r.claim addrs c).waiting a = if a ∈ addrs then some c else r.waiting a := by
  have h : ∀ (w : SocketAddr → Option Chan),
      (addrs.foldl (fun w a => Function.update w a (some c)) w) a = if a ∈ addrs then some c else w a := by
    induction addrs with
    | nil => simp
    | cons b rest ih =>
        intro w
        rw [List.foldl_cons, ih]
        by_cases hab : a = b <;> by_cases hrest : a ∈ rest <;> simp [hab, hrest]
  simp only [claim, claimHeld_eq]
  exact h r.waiting

theorem waiting_release (r : InboundRouter) (addrs : List SocketAddr) (c : Chan) (a : SocketAddr) :
    (r.release addrs c).waiting a = if a ∈ addrs ∧ r.waiting a = some c then none else r.waiting a := by
  have h : ∀ (w : SocketAddr → Option Chan),
      (addrs.foldl (fun w a => if w a = some c then Function.update w a none else w) w) a =
        if a ∈ addrs ∧ w a = some c then none else w a := by
    induction addrs with
    | nil => simp
    | cons b rest ih =>
        intro w
        rw [List.foldl_cons, ih]
        by_cases hab : a = b
        · subst hab
          by_cases hw : w a = some c <;> simp [hw]
        · by_cases hw : w b = some c <;> simp [hw, hab]
  exact h r.waiting

theorem waiting_route (r : InboundRouter) (incoming : Incoming) (now : Nat) :
    (r.route incoming now).waiting = r.waiting := by
  unfold route
  split <;> rfl

def accounted (r : InboundRouter) : List Incoming := r.sent.map Prod.snd ++ r.backlog.map Prod.snd ++ r.refused

theorem accounted_step (r : InboundRouter) (op : Op) :
    (r.step op).accounted.Perm (r.accounted ++ op.incoming.toList) := by
  rw [List.perm_iff_count]
  intro x
  cases op with
  | route incoming now =>
      simp only [step, route, Op.incoming, Option.toList_some]
      split
      · simp only [accounted, List.map_append, List.count_append, List.map_cons, List.map_nil]
        omega
      · -- the two expiry loops move entries from the backlog to the refused log, in order
        have hsplit := congrArg (List.count x)
          ((expireFull_split (expireStale now r.backlog r.refused).1 (expireStale now r.backlog r.refused).2).trans
            (expireStale_split now r.backlog r.refused))
        simp only [List.count_append] at hsplit
        simp only [accounted, List.map_append, List.count_append, List.map_cons, List.map_nil]
        omega
  | claim addrs c =>
      -- what is handed over and what is kept partition the backlog
      have hsplit := ((List.filter_append_perm (fun e : Nat × Incoming => addrs.contains e.2.remote)
        r.backlog).map Prod.snd).count_eq x
      simp only [List.map_append, List.count_append] at hsplit
      have hsnd : ∀ l : List (Nat × Incoming), (l.map fun e => (c, e.2)).map Prod.snd = l.map Prod.snd := fun l => by
        rw [List.map_map]; rfl
      simp only [step, claim, claimHeld_eq, accounted, Op.incoming, Option.toList_none, List.map_append, hsnd,
        List.nil_append, List.count_append, List.append_nil]
      omega
  | release addrs c => simp [step, release, accounted, Op.incoming]

theorem backlog_step (r : InboundRouter) (h : r.backlog.length ≤ INBOUND_BACKLOG) (op : Op) :
    (r.step op).backlog.length ≤ INBOUND_BACKLOG := by
  cases op with
  | route incoming now =>
      simp only [step, route]
      split
      · exact h
      · simpa using length_expireFull_lt (expireStale now r.backlog r.refused).1 (expireStale now r.backlog r.refused).2
  | claim addrs c =>
      simp only [step, claim, claimHeld_eq, List.nil_append]
      exact (List.length_filter_le _ _).trans h
  | release addrs c => exact h

theorem accounted_foldl (ops : List Op) (r : InboundRouter) :
    (ops.foldl step r).accounted.Perm (r.accounted ++ ops.filterMap Op.incoming) := by
  induction ops generalizing r with
  | nil => simp
  | cons op ops ih =>
      refine (ih (r.step op)).trans ?_
      have h := (accounted_step r op).append_right (ops.filterMap Op.incoming)
      cases hop : op.incoming <;> simpa [List.filterMap_cons, hop] using h

/-- Every connection sent to a channel, and every address a channel waits on, comes from a
`claim` of that channel among the calls `pre` that led here. -/
def Claimed (pre : List Op) (r : InboundRouter) : Prop :=
  (∀ ⦃c incoming⦄, (c, incoming) ∈ r.sent → ∃ addrs, Op.claim addrs c ∈ pre ∧ incoming.remote ∈ addrs) ∧
    ∀ ⦃a c⦄, r.waiting a = some c → ∃ addrs, Op.claim addrs c ∈ pre ∧ a ∈ addrs

theorem Claimed.step {pre : List Op} {r : InboundRouter} (h : Claimed pre r) (op : Op) :
    Claimed (pre ++ [op]) (InboundRouter.step r op) := by
  have lift : ∀ {addrs c}, Op.claim addrs c ∈ pre → Op.claim addrs c ∈ pre ++ [op] :=
    fun hm => List.mem_append_left _ hm
  cases op with
  | route incoming now =>
      refine ⟨fun c inc hmem => ?_, fun a c ha => ?_⟩
      · simp only [InboundRouter.step, route] at hmem
        split at hmem
        · next c' hw =>
            rcases List.mem_append.mp hmem with hmem | hmem
            · obtain ⟨addrs, hc, ha⟩ := h.1 hmem
              exact ⟨addrs, lift hc, ha⟩
            -- a connection routed to a channel came from an address the channel waits on
            · obtain ⟨rfl, rfl⟩ := Prod.mk.inj (List.mem_singleton.mp hmem)
              obtain ⟨addrs, hc, ha⟩ := h.2 hw
              exact ⟨addrs, lift hc, ha⟩
        · obtain ⟨addrs, hc, ha⟩ := h.1 hmem
          exact ⟨addrs, lift hc, ha⟩
      · simp only [InboundRouter.step, waiting_route] at ha
        obtain ⟨addrs, hc, ha⟩ := h.2 ha
        exact ⟨addrs, lift hc, ha⟩
  | claim addrs c =>
      have hself : Op.claim addrs c ∈ pre ++ [Op.claim addrs c] := List.mem_append_right _ (List.mem_singleton_self _)
      refine ⟨fun c' inc hmem => ?_, fun a c' ha => ?_⟩
      · simp only [InboundRouter.step, claim, claimHeld_eq, List.mem_append, List.mem_map, List.mem_filter] at hmem
        rcases hmem with hmem | ⟨e, ⟨-, he⟩, hce⟩
        · obtain ⟨addrs', hc, ha⟩ := h.1 hmem
          exact ⟨addrs', lift hc, ha⟩
        · obtain ⟨rfl, rfl⟩ := Prod.mk.inj hce
          exact ⟨addrs, hself, by simpa using he⟩
      · rw [InboundRouter.step, waiting_claim] at ha
        split at ha
        · next hmem =>
            cases ha
            exact ⟨addrs, hself, hmem⟩
        · obtain ⟨addrs', hc, ha⟩ := h.2 ha
          exact ⟨addrs', lift hc, ha⟩
  | release addrs c =>
      refine ⟨fun c' inc hmem => ?_, fun a c' ha => ?_⟩
      · obtain ⟨addrs', hc, ha⟩ := h.1 hmem
        exact ⟨addrs', lift hc, ha⟩
      · rw [InboundRouter.step, waiting_release] at ha
        split at ha
        · cases ha
        · obtain ⟨addrs', hc, ha⟩ := h.2 ha
          exact ⟨addrs', lift hc, ha⟩

theorem Claimed.foldl {pre : List Op} {r : InboundRouter} (h : Claimed pre r) (ops : List Op) :
    Claimed (pre ++ ops) (ops.foldl InboundRouter.step r) := by
  induction ops generalizing pre r with
  | nil => simpa using h
  | cons op ops ih => simpa using ih (h.step op)

theorem waiting_step_of_kept {r : InboundRouter} {a : SocketAddr} {c : Chan} (h : r.waiting a = some c) {op : Op}
    (hclaim : ∀ addrs c', op = .claim addrs c' → a ∉ addrs) (hrel : ∀ addrs, op = .release addrs c → a ∉ addrs) :
    (r.step op).waiting a = some c := by
  cases op with
  | route incoming now => rwa [step, waiting_route]
  | claim addrs c' => rw [step, waiting_claim, if_neg (hclaim addrs c' rfl), h]
  | release addrs c' =>
      rw [step, waiting_release]
      by_cases hc : c' = c
      · subst hc
        rw [if_neg fun hmem => hrel addrs rfl hmem.1, h]
      · rw [if_neg fun (hmem : a ∈ addrs ∧ r.waiting a = some c') => hc (Option.some.inj (hmem.2.symm.trans h)), h]

end InboundRouter

/-- Every connection the accept loop routes is, after any sequence of calls, in exactly one place:
sent once to a session, held in the backlog, or refused; none is lost or delivered twice. The
backlog never holds more than `INBOUND_BACKLOG` connections. -/
theorem inbound_router_accounts (ops : List Op) :
    let r := ops.foldl InboundRouter.step InboundRouter.empty
    (r.sent.map Prod.snd ++ r.backlog.map Prod.snd ++ r.refused).Perm (ops.filterMap Op.incoming) ∧
      r.backlog.length ≤ INBOUND_BACKLOG := by
  refine ⟨by simpa [InboundRouter.accounted, InboundRouter.empty] using
    InboundRouter.accounted_foldl ops InboundRouter.empty, ?_⟩
  exact Reach.foldl_invariant (Q := fun _ => True) (fun r op _ h => InboundRouter.backlog_step r h op)
    (by simp [InboundRouter.empty]) (fun _ _ => trivial)

/-- A session receives a connection only from an address it claimed: no unrelated dialer lands in
its link slot. -/
theorem inbound_router_sends_to_claimer (ops : List Op) {c : Chan} {incoming : Incoming}
    (h : (c, incoming) ∈ (ops.foldl InboundRouter.step InboundRouter.empty).sent) :
    ∃ addrs, Op.claim addrs c ∈ ops ∧ incoming.remote ∈ addrs := by
  have hinit : InboundRouter.Claimed [] InboundRouter.empty :=
    ⟨fun _ _ h => by simp [InboundRouter.empty] at h, fun _ _ h => by simp [InboundRouter.empty] at h⟩
  simpa using (hinit.foldl ops).1 h

theorem inbound_router_sends_to_claimer_backlog :
    let peer : SocketAddr := ⟨[9, 9, 9, 9], 5000⟩
    let ops := [Op.route ⟨1, peer⟩ 0, Op.claim [peer] 7]
    (7, ⟨1, peer⟩) ∈ (ops.foldl InboundRouter.step InboundRouter.empty).sent ∧
      ∃ addrs, Op.claim addrs 7 ∈ ops ∧ peer ∈ addrs := by
  intro peer ops
  have h : ((7 : Chan), (⟨1, peer⟩ : Incoming)) ∈ (ops.foldl InboundRouter.step InboundRouter.empty).sent := by
    simp [ops, InboundRouter.step, InboundRouter.route, InboundRouter.claim, InboundRouter.claimHeld_eq,
      InboundRouter.empty, InboundRouter.expireStale, InboundRouter.expireFull]
  exact ⟨h, inbound_router_sends_to_claimer ops h⟩

/-- A session's claim on an address stays in force until the session releases it or another
claims it: the release of any other session, an earlier one ending late included, leaves it. -/
theorem inbound_router_claim_survives (r : InboundRouter) (pre post : List Op) (addrs : List SocketAddr) (c : Chan)
    {a : SocketAddr} (ha : a ∈ addrs) (hclaim : ∀ addrs' c', Op.claim addrs' c' ∈ post → a ∉ addrs')
    (hrel : ∀ addrs', Op.release addrs' c ∈ post → a ∉ addrs') :
    ((pre ++ Op.claim addrs c :: post).foldl InboundRouter.step r).waiting a = some c := by
  rw [List.foldl_append, List.foldl_cons]
  refine Reach.foldl_invariant (P := fun r : InboundRouter => r.waiting a = some c)
    (Q := fun op => op ∈ post) (fun r op hop h => ?_) ?_ (fun _ hop => hop)
  · exact InboundRouter.waiting_step_of_kept h (fun addrs' c' he => hclaim addrs' c' (he ▸ hop))
      (fun addrs' he => hrel addrs' (he ▸ hop))
  · rw [InboundRouter.step, InboundRouter.waiting_claim, if_pos ha]

theorem inbound_router_claim_survives_stale_release :
    let peer : SocketAddr := ⟨[9, 9, 9, 9], 5000⟩
    ((([] : List Op) ++ Op.claim [peer] 2 :: [Op.release [peer] 1]).foldl InboundRouter.step
      InboundRouter.empty).waiting peer = some 2 :=
  inbound_router_claim_survives InboundRouter.empty [] [Op.release [⟨[9, 9, 9, 9], 5000⟩] 1] _ 2
    (List.mem_singleton_self _) (by simp) (by simp)

end Inbound

end Promtuz
