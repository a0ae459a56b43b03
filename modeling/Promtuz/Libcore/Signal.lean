import Promtuz.Libcore.Punch

/-! The offer mailbox of `p2p::signal`: `LISTENERS` routes a peer's candidate offer to the
session waiting for it, `PENDING` holds one that came early. A session is named by the channel
its `listen` opens; its cleanup calls `stop` for the peer. -/

namespace Promtuz.Signal

open Punch (offerCandidates)
open scoped List

/-- `signal::Offer`. -/
structure Offer where
  candidates : List SocketAddr
  relay : Option SocketAddr
  token : Bytes 16
  discoKey : Bytes 32
  deriving DecidableEq

structure Chan where
  peer : Bytes 32
  session : Nat
  deriving DecidableEq

structure Mailbox where
  listeners : Bytes 32 → Option Chan
  pending : Bytes 32 → Option Offer
  /-- what each channel has been sent -/
  received : Chan → List Offer
  /-- the session has dropped its receiver, so a send fails -/
  closed : Chan → Bool
  /-- the `connect_with(from, RelayOnly)` tasks `deliver` spawned -/
  autoAccepted : List (Bytes 32)

def Mailbox.empty : Mailbox := ⟨fun _ => none, fun _ => none, fun _ => [], fun _ => false, []⟩

def send (mb : Mailbox) (c : Chan) (o : Offer) : Option Mailbox :=
  if mb.closed c then none
  else some { mb with received := Function.update mb.received c (mb.received c ++ [o]) }

def listen (c : Chan) (mb : Mailbox) : Mailbox :=
  let mb := { mb with listeners := Function.update mb.listeners c.peer (some c) }
  match mb.pending c.peer with
  | some buffered =>
    let mb := { mb with pending := Function.update mb.pending c.peer none }
    -- `let _ = tx.send(buffered)`
    (send mb c buffered).getD mb
  | none => mb

/-- `deliver`; `paired` is what `consent::may_connect(&from)` reads off the contact. -/
def deliver (src : Bytes 32) (candidates : List SocketAddr) (relay : Option SocketAddr) (token : Bytes 16)
    (discoKey : Bytes 32) (paired : Bool) (mb : Mailbox) : Mailbox :=
  let offer : Offer := ⟨offerCandidates candidates, relay, token, discoKey⟩
  match (mb.listeners src).bind fun c => send mb c offer with
  | some mb => mb
  | none =>
    if !paired then mb
    else { mb with pending := Function.update mb.pending src (some offer), autoAccepted := mb.autoAccepted ++ [src] }

def stop (peer : Bytes 32) (mb : Mailbox) : Mailbox :=
  { mb with listeners := Function.update mb.listeners peer none, pending := Function.update mb.pending peer none }

inductive Op
  | listen (c : Chan)
  | deliver (src : Bytes 32) (candidates : List SocketAddr) (relay : Option SocketAddr) (token : Bytes 16)
      (discoKey : Bytes 32) (paired : Bool)
  /-- the cleanup of session `c` (`SessionCleanup::drop`) -/
  | stop (c : Chan)
  /-- session `c` returns and drops its receiver -/
  | closeRx (c : Chan)
  deriving DecidableEq

def step (mb : Mailbox) : Op → Mailbox
  | .listen c => listen c mb
  | .deliver src candidates relay token discoKey paired => deliver src candidates relay token discoKey paired mb
  | .stop c => stop c.peer mb
  | .closeRx c => { mb with closed := Function.update mb.closed c true }

def run (ops : List Op) (mb : Mailbox) : Mailbox := ops.foldl step mb

def Op.offerFrom (p : Bytes 32) : Op → Option Offer
  | .deliver src candidates relay token discoKey _ =>
    if src = p then some ⟨offerCandidates candidates, relay, token, discoKey⟩ else none
  | _ => none

def offersFrom (p : Bytes 32) (ops : List Op) : List Offer := ops.filterMap (Op.offerFrom p)

theorem offersFrom_append_singleton (p : Bytes 32) (ops : List Op) (op : Op) :
    offersFrom p (ops ++ [op]) = offersFrom p ops ++ (op.offerFrom p).toList := by
  cases h : op.offerFrom p <;> simp [offersFrom, List.filterMap_append, h]

section Calls

variable {mb mb' : Mailbox} {c c₁ : Chan} {o : Offer} {src : Bytes 32} {candidates : List SocketAddr}
  {relay : Option SocketAddr} {token : Bytes 16} {discoKey : Bytes 32} {paired : Bool}

theorem listen_listeners : (listen c mb).listeners = Function.update mb.listeners c.peer (some c) := by
  unfold listen
  dsimp only
  split
  · unfold send
    split <;> rfl
  · rfl

theorem listen_pending : (listen c mb).pending = Function.update mb.pending c.peer none := by
  unfold listen
  dsimp only
  split
  · unfold send
    split <;> rfl
  · -- nothing was buffered, so clearing the entry changes nothing
    next hnone =>
      funext p
      by_cases hp : p = c.peer
      · subst hp
        simp [hnone]
      · simp [Function.update_of_ne hp]

theorem listen_closed : (listen c mb).closed = mb.closed := by
  unfold listen
  dsimp only
  split
  · unfold send
    split <;> rfl
  · rfl

theorem listen_received :
    (listen c mb).received =
      if mb.closed c then mb.received else Function.update mb.received c (mb.received c ++ (mb.pending c.peer).toList) := by
  unfold listen
  dsimp only
  split
  next buffered hbuf =>
    unfold send
    split <;> simp_all
  next hnone =>
    split
    · rfl
    · simp [hnone]

theorem deliver_routed (hl : mb.listeners src = some c₁) (hc : mb.closed c₁ = false) :
    deliver src candidates relay token discoKey paired mb =
      { mb with
        received := Function.update mb.received c₁ (mb.received c₁ ++ [⟨offerCandidates candidates, relay, token, discoKey⟩]) } := by
  simp [deliver, hl, send, hc]

theorem deliver_unrouted (h : ∀ c₁, mb.listeners src = some c₁ → mb.closed c₁ = true) :
    deliver src candidates relay token discoKey paired mb =
      if paired then
        { mb with
          pending := Function.update mb.pending src (some ⟨offerCandidates candidates, relay, token, discoKey⟩)
          autoAccepted := mb.autoAccepted ++ [src] }
      else mb := by
  unfold deliver
  cases hl : mb.listeners src with
  | none => cases paired <;> rfl
  | some c₁ => cases paired <;> simp [send, h c₁ hl]

theorem deliver_listeners : (deliver src candidates relay token discoKey paired mb).listeners = mb.listeners := by
  by_cases hr : ∃ c₁, mb.listeners src = some c₁ ∧ mb.closed c₁ = false
  · obtain ⟨c₁, hl, hc⟩ := hr
    rw [deliver_routed hl hc]
  · simp only [not_exists, not_and, Bool.not_eq_false] at hr
    rw [deliver_unrouted hr]
    split <;> rfl

theorem deliver_closed : (deliver src candidates relay token discoKey paired mb).closed = mb.closed := by
  by_cases hr : ∃ c₁, mb.listeners src = some c₁ ∧ mb.closed c₁ = false
  · obtain ⟨c₁, hl, hc⟩ := hr
    rw [deliver_routed hl hc]
  · simp only [not_exists, not_and, Bool.not_eq_false] at hr
    rw [deliver_unrouted hr]
    split <;> rfl

theorem deliver_received_of_ne (h : ∀ c₁, mb.listeners src = some c₁ → mb.closed c₁ = false → c₁ ≠ c) :
    (deliver src candidates relay token discoKey paired mb).received c = mb.received c := by
  by_cases hr : ∃ c₁, mb.listeners src = some c₁ ∧ mb.closed c₁ = false
  · obtain ⟨c₁, hl, hc⟩ := hr
    rw [deliver_routed hl hc]
    exact Function.update_of_ne (h c₁ hl hc).symm _ _
  · simp only [not_exists, not_and, Bool.not_eq_false] at hr
    rw [deliver_unrouted hr]
    split <;> rfl

end Calls

theorem run_cons (op : Op) (ops : List Op) (mb : Mailbox) : run (op :: ops) mb = run ops (step mb op) := rfl

theorem run_append (ops ops' : List Op) (mb : Mailbox) : run (ops ++ ops') mb = run ops' (run ops mb) :=
  List.foldl_append

def Keyed (mb : Mailbox) : Prop := ∀ p c, mb.listeners p = some c → c.peer = p

/-- Route for `deliver` exists: some session for `src` still holds its receiver. -/
def Routable (mb : Mailbox) (src : Bytes 32) : Prop := ∃ c, mb.listeners src = some c ∧ mb.closed c = false

theorem keyed_step {mb : Mailbox} (h : Keyed mb) (op : Op) : Keyed (step mb op) := by
  intro p c hpc
  cases op with
  | listen c₀ =>
    simp only [step, listen_listeners, Function.update_apply] at hpc
    split at hpc
    · next hp =>
      obtain rfl := Option.some.inj hpc
      exact hp.symm
    · exact h p c hpc
  | deliver src candidates relay token discoKey paired =>
    simp only [step, deliver_listeners] at hpc
    exact h p c hpc
  | stop c₀ =>
    simp only [step, stop, Function.update_apply] at hpc
    split at hpc
    · cases hpc
    · exact h p c hpc
  | closeRx c₀ => exact h p c hpc

/-- What every reachable mailbox satisfies after the events `ops`: listeners are keyed by their
own peer, a live listener leaves nothing buffered, and what a channel got, followed by what is
buffered for its peer, is a subsequence of the offers that peer sent. -/
structure Routed (ops : List Op) (mb : Mailbox) : Prop where
  keyed : Keyed mb
  drained : ∀ p c, mb.listeners p = some c → mb.closed c = false → mb.pending p = none
  ordered : ∀ c, mb.received c ++ (mb.pending c.peer).toList <+ offersFrom c.peer ops

theorem routed_empty : Routed [] Mailbox.empty where
  keyed _ _ h := by simp [Mailbox.empty] at h
  drained _ _ h := by simp [Mailbox.empty] at h
  ordered _ := by simp [Mailbox.empty, offersFrom]

theorem listen_sublist (c₀ : Chan) (mb : Mailbox) (c : Chan) :
    (listen c₀ mb).received c ++ ((listen c₀ mb).pending c.peer).toList <+ mb.received c ++ (mb.pending c.peer).toList := by
  rw [listen_received, listen_pending]
  by_cases hc : c = c₀
  · subst hc
    split <;> simp
  · have hrecv : (if mb.closed c₀ then mb.received
        else Function.update mb.received c₀ (mb.received c₀ ++ (mb.pending c₀.peer).toList)) c = mb.received c := by
      split <;> simp [Function.update_of_ne hc]
    rw [hrecv]
    refine List.Sublist.append_left ?_ _
    by_cases hp : c.peer = c₀.peer
    · simp [hp]
    · simp [Function.update_of_ne hp]

theorem Routed.step {ops : List Op} {mb : Mailbox} (h : Routed ops mb) (op : Op) :
    Routed (ops ++ [op]) (Signal.step mb op) := by
  refine ⟨keyed_step h.keyed op, ?_, ?_⟩
  · intro p c hpc hc
    cases op with
    | listen c₀ =>
      simp only [Signal.step, listen_listeners, Function.update_apply] at hpc
      simp only [Signal.step, listen_pending, listen_closed, Function.update_apply] at hc ⊢
      split
      · rfl
      · next hp => exact h.drained p c (by simpa [hp] using hpc) hc
    | deliver src candidates relay token discoKey paired =>
      by_cases hr : Routable mb src
      · obtain ⟨c₁, hl, hc₁⟩ := hr
        simp only [Signal.step, deliver_routed hl hc₁] at hpc hc ⊢
        exact h.drained p c hpc hc
      · simp only [Routable, not_exists, not_and, Bool.not_eq_false] at hr
        cases paired
        · simp only [Signal.step, deliver_unrouted hr, Bool.false_eq_true, ↓reduceIte] at hpc hc ⊢
          exact h.drained p c hpc hc
        · simp only [Signal.step, deliver_unrouted hr, ↓reduceIte] at hpc hc ⊢
          -- an offer is buffered only for a peer with no live listener
          by_cases hp : p = src
          · subst hp
            rw [hr c hpc] at hc
            cases hc
          · rw [Function.update_of_ne hp]
            exact h.drained p c hpc hc
    | stop c₀ =>
      simp only [Signal.step, stop, Function.update_apply] at hpc ⊢
      split
      · rfl
      · next hp => exact h.drained p c (by simpa [hp] using hpc) hc
    | closeRx c₀ =>
      simp only [Signal.step, Function.update_apply] at hc
      split at hc
      · cases hc
      · exact h.drained p c hpc hc
  · intro c
    rw [offersFrom_append_singleton]
    cases op with
    | listen c₀ => simpa [Signal.step, Op.offerFrom] using (listen_sublist c₀ mb c).trans (h.ordered c)
    | deliver src candidates relay token discoKey paired =>
      have hgrow : offersFrom c.peer ops <+ offersFrom c.peer ops ++
          ((Op.deliver src candidates relay token discoKey paired).offerFrom c.peer).toList :=
        List.sublist_append_left _ _
      by_cases hr : Routable mb src
      · obtain ⟨c₁, hl, hc₁⟩ := hr
        simp only [Signal.step, deliver_routed hl hc₁]
        by_cases hcc : c = c₁
        · -- the routed offer lands after everything this session already has
          subst hcc
          have hsrc : c.peer = src := h.keyed src c hl
          have hpend : mb.pending c.peer = none := hsrc ▸ h.drained src c hl hc₁
          have hold := h.ordered c
          rw [hpend] at hold
          simp only [Function.update_self, hpend, Option.toList_none, List.append_nil] at hold ⊢
          simpa [Op.offerFrom, hsrc] using hold.append_right [⟨offerCandidates candidates, relay, token, discoKey⟩]
        · simpa [Function.update_of_ne hcc] using (h.ordered c).trans hgrow
      · simp only [Routable, not_exists, not_and, Bool.not_eq_false] at hr
        simp only [Signal.step, deliver_unrouted hr]
        split
        · by_cases hp : c.peer = src
          · -- the new buffered offer replaces the old one at the end
            have hold := (List.sublist_append_left _ _).trans (h.ordered c)
            simpa [hp, Op.offerFrom] using hold.append_right [⟨offerCandidates candidates, relay, token, discoKey⟩]
          · simpa [Function.update_of_ne hp] using (h.ordered c).trans hgrow
        · exact (h.ordered c).trans hgrow
    | stop c₀ =>
      have hsub : (mb.received c ++ ((Signal.step mb (.stop c₀)).pending c.peer).toList) <+
          mb.received c ++ (mb.pending c.peer).toList := by
        refine List.Sublist.append_left ?_ _
        simp only [Signal.step, stop, Function.update_apply]
        split <;> simp
      simpa [Signal.step, stop, Op.offerFrom] using hsub.trans (h.ordered c)
    | closeRx c₀ => simpa [Signal.step, Op.offerFrom] using h.ordered c

theorem Routed.run {pre : List Op} {mb : Mailbox} (h : Routed pre mb) (ops : List Op) :
    Routed (pre ++ ops) (run ops mb) := by
  induction ops generalizing pre mb with
  | nil => simpa [Signal.run] using h
  | cons op ops ih =>
    have := ih (h.step op)
    rwa [List.append_assoc, List.singleton_append] at this

theorem offers_reach_own_session (ops : List Op) (c : Chan) :
    (run ops Mailbox.empty).received c <+ offersFrom c.peer ops :=
  (List.sublist_append_left _ _).trans ((routed_empty.run ops).ordered c)

def Op.quiet (c : Chan) : Op → Bool
  | .listen c' => c'.peer != c.peer
  | .deliver .. => true
  | .stop c' => c'.peer != c.peer
  | .closeRx c' => c' != c

def Op.listensFor (p : Bytes 32) : Op → Bool
  | .listen c => decide (c.peer = p)
  | _ => false

theorem closed_step {mb : Mailbox} {c : Chan} (op : Op) (h : op ≠ .closeRx c) : (step mb op).closed c = mb.closed c := by
  cases op with
  | listen c₀ => simp [step, listen_closed]
  | deliver src candidates relay token discoKey paired => simp [step, deliver_closed]
  | stop c₀ => rfl
  | closeRx c₀ =>
    have hne : c ≠ c₀ := fun hc => h (hc ▸ rfl)
    exact Function.update_of_ne hne _ _

theorem closed_run (pre : List Op) (mb : Mailbox) (c : Chan) (h : ∀ op ∈ pre, op ≠ .closeRx c) :
    (run pre mb).closed c = mb.closed c := by
  induction pre generalizing mb with
  | nil => rfl
  | cons op ops ih =>
    rw [run_cons, ih _ fun op' hop' => h op' (List.mem_cons_of_mem _ hop'), closed_step op (h op List.mem_cons_self)]

theorem quiet_step {mb : Mailbox} {c : Chan} (hk : Keyed mb) (hl : mb.listeners c.peer = some c)
    (hc : mb.closed c = false) (op : Op) (hq : op.quiet c = true) :
    (step mb op).received c = mb.received c ++ (op.offerFrom c.peer).toList ∧
      (step mb op).listeners c.peer = some c ∧ (step mb op).closed c = false := by
  cases op with
  | listen c₀ =>
    have hp : c₀.peer ≠ c.peer := by simpa [Op.quiet] using hq
    have hne : c ≠ c₀ := fun h => hp (h ▸ rfl)
    refine ⟨?_, ?_, ?_⟩
    · simp only [step, listen_received, Op.offerFrom, Option.toList_none, List.append_nil]
      split <;> simp [Function.update_of_ne hne]
    · simp [step, listen_listeners, Function.update_of_ne (Ne.symm hp), hl]
    · simp [step, listen_closed, hc]
  | deliver src candidates relay token discoKey paired =>
    refine ⟨?_, by simp [step, deliver_listeners, hl], by simp [step, deliver_closed, hc]⟩
    by_cases hsrc : src = c.peer
    · -- from the session's own peer: routed to it
      subst hsrc
      simp [step, deliver_routed hl hc, Op.offerFrom]
    · -- from another peer: routed, if at all, to that peer's session
      have hrecv := @deliver_received_of_ne mb c src candidates relay token discoKey paired
        fun c₁ hl₁ _ hcc => hsrc (hcc ▸ hk src c₁ hl₁).symm
      simp [step, hrecv, Op.offerFrom, hsrc]
  | stop c₀ =>
    have hp : c₀.peer ≠ c.peer := by simpa [Op.quiet] using hq
    exact ⟨by simp [step, stop, Op.offerFrom], by simp [step, stop, Function.update_of_ne (Ne.symm hp), hl], hc⟩
  | closeRx c₀ =>
    have hne : c₀ ≠ c := by simpa [Op.quiet] using hq
    exact ⟨by simp [step, Op.offerFrom], hl, by simp [step, Function.update_of_ne (Ne.symm hne), hc]⟩

theorem quiet_run {mb : Mailbox} {c : Chan} (hk : Keyed mb) (hl : mb.listeners c.peer = some c)
    (hc : mb.closed c = false) (ops : List Op) (hq : ∀ op ∈ ops, op.quiet c = true) :
    (run ops mb).received c = mb.received c ++ offersFrom c.peer ops := by
  induction ops generalizing mb with
  | nil => simp [run, offersFrom]
  | cons op ops ih =>
    obtain ⟨hrecv, hl', hc'⟩ := quiet_step hk hl hc op (hq op List.mem_cons_self)
    rw [run_cons, ih (keyed_step hk op) hl' hc' fun op' hop' => hq op' (List.mem_cons_of_mem _ hop'), hrecv]
    cases h : op.offerFrom c.peer <;> simp [offersFrom, h]

theorem listener_gets_every_offer (pre ops : List Op) (c : Chan) (hpre : ∀ op ∈ pre, op ≠ .closeRx c)
    (hquiet : ∀ op ∈ ops, op.quiet c = true) :
    (run (pre ++ .listen c :: ops) Mailbox.empty).received c =
      (run pre Mailbox.empty).received c ++ ((run pre Mailbox.empty).pending c.peer).toList ++
        offersFrom c.peer ops := by
  have hk : Keyed (run pre Mailbox.empty) := (routed_empty.run pre).keyed
  have hc : (run pre Mailbox.empty).closed c = false := closed_run pre _ c hpre
  have hl : (listen c (run pre Mailbox.empty)).listeners c.peer = some c := by simp [listen_listeners]
  have hc' : (listen c (run pre Mailbox.empty)).closed c = false := by simp [listen_closed, hc]
  rw [run_append, run_cons,
    quiet_run (keyed_step hk (.listen c)) hl hc' ops hquiet]
  simp [step, listen_received, hc]

theorem unlistened_step {mb : Mailbox} {c : Chan} (hk : Keyed mb) (hl : mb.listeners c.peer = none) (op : Op)
    (hop : op.listensFor c.peer = false) :
    (step mb op).received c = mb.received c ∧ (step mb op).listeners c.peer = none := by
  cases op with
  | listen c₀ =>
    have hp : c₀.peer ≠ c.peer := by simpa [Op.listensFor] using hop
    have hne : c ≠ c₀ := fun h => hp (h ▸ rfl)
    refine ⟨?_, by simp [step, listen_listeners, Function.update_of_ne (Ne.symm hp), hl]⟩
    simp only [step, listen_received]
    split <;> simp [Function.update_of_ne hne]
  | deliver src candidates relay token discoKey paired =>
    -- the only channel `deliver` writes is the one listening for `src`, which is not `c`
    refine ⟨deliver_received_of_ne fun c₁ hl₁ _ hcc => ?_, by simp [step, deliver_listeners, hl]⟩
    subst hcc
    rw [hk src c₁ hl₁] at hl
    rw [hl] at hl₁
    cases hl₁
  | stop c₀ =>
    refine ⟨rfl, ?_⟩
    simp only [step, stop, Function.update_apply]
    split <;> simp [hl]
  | closeRx c₀ => exact ⟨rfl, hl⟩

theorem unlistened_run {mb : Mailbox} {c : Chan} (hk : Keyed mb) (hl : mb.listeners c.peer = none) (ops : List Op)
    (hops : ∀ op ∈ ops, op.listensFor c.peer = false) : (run ops mb).received c = mb.received c := by
  induction ops generalizing mb with
  | nil => rfl
  | cons op ops ih =>
    obtain ⟨hrecv, hl'⟩ := unlistened_step hk hl op (hops op List.mem_cons_self)
    rw [run_cons, ih (keyed_step hk op) hl' fun op' hop' => hops op' (List.mem_cons_of_mem _ hop'), hrecv]

theorem stale_stop_strands_session (pre ops : List Op) (c c' : Chan) (hpeer : c'.peer = c.peer)
    (hnone : ∀ op ∈ ops, op.listensFor c.peer = false) :
    (run (pre ++ .stop c' :: ops) Mailbox.empty).received c = (run pre Mailbox.empty).received c := by
  have hk : Keyed (step (run pre Mailbox.empty) (.stop c')) := keyed_step (routed_empty.run pre).keyed _
  have hl : (step (run pre Mailbox.empty) (.stop c')).listeners c.peer = none := by simp [step, stop, hpeer]
  rw [run_append, run_cons, unlistened_run hk hl ops hnone]
  rfl

def samplePeer : Bytes 32 := Bytes.replicate 32 9

def earlyOffer : List Op := [.deliver samplePeer [⟨[9, 9, 9, 9], 5000⟩] none (Bytes.replicate 16 1) (Bytes.replicate 32 2) true]

def lateOffer : List Op := [.deliver samplePeer [⟨[9, 9, 9, 9], 5001⟩] none (Bytes.replicate 16 3) (Bytes.replicate 32 4) true]

theorem listener_gets_every_offer_early :
    (run (earlyOffer ++ .listen ⟨samplePeer, 1⟩ :: lateOffer) Mailbox.empty).received ⟨samplePeer, 1⟩ =
      (run earlyOffer Mailbox.empty).received ⟨samplePeer, 1⟩ ++
        ((run earlyOffer Mailbox.empty).pending samplePeer).toList ++ offersFrom samplePeer lateOffer :=
  listener_gets_every_offer earlyOffer lateOffer ⟨samplePeer, 1⟩ (by decide) (by decide)

def twoSessions : List Op := [.listen ⟨samplePeer, 1⟩, .listen ⟨samplePeer, 2⟩]

theorem stale_stop_strands_session_late_cleanup :
    (run (twoSessions ++ .stop ⟨samplePeer, 1⟩ :: lateOffer) Mailbox.empty).received ⟨samplePeer, 2⟩ =
      (run twoSessions Mailbox.empty).received ⟨samplePeer, 2⟩ :=
  stale_stop_strands_session twoSessions lateOffer ⟨samplePeer, 2⟩ ⟨samplePeer, 1⟩ rfl (by decide)

end Promtuz.Signal
