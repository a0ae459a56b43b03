import Promtuz.Relay.Storage
import Promtuz.Lib.Adopt

/-! The presence-state rows a home keeps for `(recipient, contact)` (`storage/db.rs`), written by
`put_presence_state` from the `RelayPresenceState` records the lease relays replicate.

A row is replaced only by an update that is newer on both fields: a higher `version` and a
later `observed_at_ms`. The two fields move together while one relay issues the updates, but
not across relays, whose clocks and version counters are their own, and not for two updates
observed in the same millisecond. Over updates that are pairwise newer on both fields the
homes converge on the newest (`Adopt.foldl_adopt_perm`); over two that are each newer on one
field, the one a home received first stays. -/

namespace Promtuz

def PRESENCE_STATE_TTL_MS : Nat := 600000

def PRESENCE_VERSION_MAX_LEAD_MS : Nat := 60000

/-- `client_rel::PresenceState`. -/
inductive PresenceState where
  | online
  | idle (since : UInt64)
  | offline (lastSeen : UInt64)
  deriving DecidableEq, Repr

def PresenceState.tagged : PresenceState → UInt8 × UInt64
  | .online => (0, 0)
  | .idle since => (1, since)
  | .offline lastSeen => (2, lastSeen)

/-- `presence_state_expired`: the deadline is the stored `expires_at_ms`, or for a row without
it `observed_at_ms + PRESENCE_STATE_TTL_MS`; a row with neither counts as expired. -/
def presenceStateExpired (value : List UInt8) (nowMs : UInt64) : Bool :=
  ((beU64 value 25).orElse fun _ =>
      (beU64 value 8).map fun observed => min (observed + PRESENCE_STATE_TTL_MS) (2 ^ 64 - 1)).all
    fun deadline => decide (deadline ≤ nowMs.toNat)

/-- The value layout `version || observed_at_ms || tag || timestamp || expires_at_ms`. -/
def presenceRow (version observedAtMs : UInt64) (tag : UInt8) (timestamp expiresAtMs : UInt64) :
    List UInt8 :=
  Bytes.toBeBytes 8 version.toNat ++ Bytes.toBeBytes 8 observedAtMs.toNat ++ [tag] ++
    Bytes.toBeBytes 8 timestamp.toNat ++ Bytes.toBeBytes 8 expiresAtMs.toNat

def presenceKey (recipient contact : Bytes 32) : List UInt8 := recipient.1 ++ contact.1

/-- `Store::put_presence_state`: refuse a version too far ahead of the observation, and an
update that the live stored row matches or beats on either field; otherwise write the row,
the lease clamped to the TTL. The flag says whether it wrote; the I/O error is not modelled. -/
def putPresenceState (ks : Keyspace) (recipient contact : Bytes 32) (state : PresenceState)
    (version observedAtMs leaseExpiresAtMs : UInt64) : Bool × Keyspace :=
  if observedAtMs.saturatingAdd (UInt64.ofNat PRESENCE_VERSION_MAX_LEAD_MS) < version then (false, ks)
  else
    let key := presenceKey recipient contact
    let stale := (ks.get? key).any fun v =>
      !presenceStateExpired v observedAtMs &&
        ((beU64 v 0).any (fun old => decide (version.toNat ≤ old)) ||
          (beU64 v 8).any (fun old => decide (observedAtMs.toNat ≤ old)))
    if stale then (false, ks)
    else
      let (tag, timestamp) := state.tagged
      let expiresAtMs := min leaseExpiresAtMs (observedAtMs.saturatingAdd (UInt64.ofNat PRESENCE_STATE_TTL_MS))
      (true, ks.insert key (presenceRow version observedAtMs tag timestamp expiresAtMs))

/-- `Store::get_presence_state`: the stored state while the row is live, `None` for an
expired row or an unknown tag. -/
def getPresenceState (ks : Keyspace) (recipient contact : Bytes 32) (nowMs : UInt64) :
    Option PresenceState := do
  let value ← ks.get? (presenceKey recipient contact)
  if presenceStateExpired value nowMs then none
  else
    let timestamp ← beU64 value 17
    match (value[16]? : Option UInt8) with
    | some 0 => some .online
    | some 1 => some (.idle (UInt64.ofNat timestamp))
    | some 2 => some (.offline (UInt64.ofNat timestamp))
    | _ => none

/-- What one `RelayPresenceState` hands `put_presence_state` for its key. -/
structure PresenceUpdate where
  state : PresenceState
  version : UInt64
  observedAtMs : UInt64
  leaseExpiresAtMs : UInt64
  deriving DecidableEq, Repr

namespace PresenceUpdate

variable (u : PresenceUpdate)

def expiresAtMs : UInt64 :=
  min u.leaseExpiresAtMs (u.observedAtMs.saturatingAdd (UInt64.ofNat PRESENCE_STATE_TTL_MS))

/-- The row `put_presence_state` writes for `u`. -/
def row : List UInt8 := presenceRow u.version u.observedAtMs u.state.tagged.1 u.state.tagged.2 u.expiresAtMs

/-- `u`'s version is within the lead `put_presence_state` allows over its observation. -/
def LeadOk : Prop := ¬u.observedAtMs.saturatingAdd (UInt64.ofNat PRESENCE_VERSION_MAX_LEAD_MS) < u.version

instance : Decidable u.LeadOk :=
  inferInstanceAs (Decidable ¬(u.observedAtMs.saturatingAdd (UInt64.ofNat PRESENCE_VERSION_MAX_LEAD_MS) < u.version))

/-- `u'` is newer than `u` on both fields: what a stored `u` lets through. -/
def Supersedes (u u' : PresenceUpdate) : Prop := u.version < u'.version ∧ u.observedAtMs < u'.observedAtMs

instance : DecidableRel Supersedes := fun u u' =>
  inferInstanceAs (Decidable (u.version < u'.version ∧ u.observedAtMs < u'.observedAtMs))

/-- Applying `u` at the key of `recipient` and `contact`. -/
def put (ks : Keyspace) (recipient contact : Bytes 32) : Keyspace :=
  (putPresenceState ks recipient contact u.state u.version u.observedAtMs u.leaseExpiresAtMs).2

variable {u}

theorem beU64_row_version : beU64 u.row 0 = some u.version.toNat := by
  have h := beU64_of_toBeBytes []
    (Bytes.toBeBytes 8 u.observedAtMs.toNat ++ [u.state.tagged.1] ++ Bytes.toBeBytes 8 u.state.tagged.2.toNat ++
      Bytes.toBeBytes 8 u.expiresAtMs.toNat) u.version
  simpa only [row, presenceRow, List.nil_append, List.append_assoc, List.length_nil] using h

theorem beU64_row_observedAtMs : beU64 u.row 8 = some u.observedAtMs.toNat := by
  have h := beU64_of_toBeBytes (Bytes.toBeBytes 8 u.version.toNat)
    ([u.state.tagged.1] ++ Bytes.toBeBytes 8 u.state.tagged.2.toNat ++ Bytes.toBeBytes 8 u.expiresAtMs.toNat)
    u.observedAtMs
  simpa only [row, presenceRow, List.append_assoc, Bytes.length_toBeBytes] using h

theorem beU64_row_expiresAtMs : beU64 u.row 25 = some u.expiresAtMs.toNat := by
  have h := beU64_of_toBeBytes (Bytes.toBeBytes 8 u.version.toNat ++ Bytes.toBeBytes 8 u.observedAtMs.toNat ++
    [u.state.tagged.1] ++ Bytes.toBeBytes 8 u.state.tagged.2.toNat) [] u.expiresAtMs
  simpa only [row, presenceRow, List.append_nil, List.length_append, Bytes.length_toBeBytes,
    List.length_singleton] using h

theorem presenceStateExpired_row (nowMs : UInt64) :
    presenceStateExpired u.row nowMs = decide (u.expiresAtMs.toNat ≤ nowMs.toNat) := by
  simp [presenceStateExpired, beU64_row_expiresAtMs]

theorem le_or_le_eq_not_lt_and_lt (a b c d : Nat) :
    (decide (a ≤ b) || decide (c ≤ d)) = !decide (b < a ∧ d < c) := by
  by_cases h : b < a ∧ d < c
  · have h₁ : ¬a ≤ b := by omega
    have h₂ : ¬c ≤ d := by omega
    simp [h, h₁, h₂]
  · by_cases h₁ : a ≤ b
    · simp [h, h₁]
    · have h₂ : c ≤ d := by omega
      simp [h, h₁, h₂]

theorem stale_row_iff (u' : PresenceUpdate) (hlive : u'.observedAtMs.toNat < u.expiresAtMs.toNat) :
    (!presenceStateExpired u.row u'.observedAtMs &&
        ((beU64 u.row 0).any (fun old => decide (u'.version.toNat ≤ old)) ||
          (beU64 u.row 8).any (fun old => decide (u'.observedAtMs.toNat ≤ old)))) = !decide (Supersedes u u') := by
  have hexp : decide (u.expiresAtMs.toNat ≤ u'.observedAtMs.toNat) = false := decide_eq_false (Nat.not_le.2 hlive)
  rw [presenceStateExpired_row, beU64_row_version, beU64_row_observedAtMs, hexp]
  simp only [Option.any_some, Bool.not_false, Bool.true_and, Supersedes, UInt64.lt_iff_toNat_lt]
  exact le_or_le_eq_not_lt_and_lt _ _ _ _

variable {ks : Keyspace} {recipient contact : Bytes 32}

theorem put_of_none (hks : ks.get? (presenceKey recipient contact) = none) (hlead : u.LeadOk) :
    u.put ks recipient contact = ks.insert (presenceKey recipient contact) u.row := by
  rw [put, putPresenceState, if_neg hlead]
  simp only [hks, Option.any_none, Bool.false_eq_true, if_false]
  rfl

theorem put_of_row {m : PresenceUpdate} (hks : ks.get? (presenceKey recipient contact) = some m.row)
    (hlead : u.LeadOk) (hlive : u.observedAtMs.toNat < m.expiresAtMs.toNat) :
    u.put ks recipient contact = if Supersedes m u then ks.insert (presenceKey recipient contact) u.row else ks := by
  rw [put, putPresenceState, if_neg hlead]
  dsimp only
  rw [hks, Option.any_some, stale_row_iff u hlive]
  by_cases hs : Supersedes m u
  · rw [if_pos hs, decide_eq_true hs, Bool.not_true, if_neg Bool.false_ne_true]
    rfl
  · rw [if_neg hs, decide_eq_false hs, Bool.not_false, if_pos rfl]

theorem supersedes_trans (a b c : PresenceUpdate) (hab : Supersedes a b) (hbc : Supersedes b c) :
    Supersedes a c :=
  ⟨UInt64.lt_trans hab.1 hbc.1, UInt64.lt_trans hab.2 hbc.2⟩

theorem supersedes_irrefl (a : PresenceUpdate) : ¬Supersedes a a := fun h => UInt64.lt_irrefl _ h.1

def receiveAll (ks : Keyspace) (recipient contact : Bytes 32) (l : List PresenceUpdate) : Keyspace :=
  l.foldl (fun ks u => u.put ks recipient contact) ks

theorem receiveAll_cons (x : PresenceUpdate) (l : List PresenceUpdate) :
    receiveAll ks recipient contact (x :: l) = receiveAll (x.put ks recipient contact) recipient contact l := rfl

theorem get?_receiveAll {m : PresenceUpdate} {l : List PresenceUpdate}
    (hks : ks.get? (presenceKey recipient contact) = some m.row) (hlead : ∀ x ∈ l, x.LeadOk)
    (hlive : ∀ x ∈ l, ∀ a ∈ m :: l, x.observedAtMs.toNat < a.expiresAtMs.toNat) :
    (receiveAll ks recipient contact l).get? (presenceKey recipient contact) =
      some (l.foldl (Adopt.adopt Supersedes) m).row := by
  induction l generalizing ks m with
  | nil => exact hks
  | cons x l ih =>
      have hx : x ∈ x :: l := List.mem_cons_self
      have hput := put_of_row (u := x) hks (hlead x hx) (hlive x hx m List.mem_cons_self)
      -- the stored update after `x` is `adopt m x`, one of `m` and `x`
      have hks' : (x.put ks recipient contact).get? (presenceKey recipient contact) =
          some (Adopt.adopt Supersedes m x).row := by
        rw [hput]
        by_cases hs : Supersedes m x
        · rw [if_pos hs, Adopt.adopt_of_lt hs, SortedMap.get?_insert_self]
        · rw [if_neg hs, Adopt.adopt_of_not_lt hs, hks]
      have hmem : ∀ a ∈ Adopt.adopt Supersedes m x :: l, a ∈ m :: x :: l := by
        intro a ha
        rcases List.mem_cons.1 ha with rfl | ha
        · rcases List.mem_pair.1 (Adopt.adopt_mem (r := Supersedes) m x) with h | h
          · rw [h]
            exact List.mem_cons_self
          · rw [h]
            exact List.mem_cons_of_mem _ List.mem_cons_self
        · exact List.mem_cons_of_mem _ (List.mem_cons_of_mem _ ha)
      rw [receiveAll_cons]
      exact ih hks' (fun y hy => hlead y (List.mem_cons_of_mem _ hy))
        (fun y hy a ha => hlive y (List.mem_cons_of_mem _ hy) a (hmem a ha))

theorem get?_receiveAll_of_none {u : PresenceUpdate} {l : List PresenceUpdate}
    (hks : ks.get? (presenceKey recipient contact) = none) (hlead : ∀ x ∈ u :: l, x.LeadOk)
    (hlive : ∀ x ∈ u :: l, ∀ a ∈ u :: l, x.observedAtMs.toNat < a.expiresAtMs.toNat) :
    (receiveAll ks recipient contact (u :: l)).get? (presenceKey recipient contact) =
      some (l.foldl (Adopt.adopt Supersedes) u).row := by
  have hfirst : (u.put ks recipient contact).get? (presenceKey recipient contact) = some u.row := by
    rw [put_of_none hks (hlead u List.mem_cons_self), SortedMap.get?_insert_self]
  rw [receiveAll_cons]
  exact get?_receiveAll hfirst (fun x hx => hlead x (List.mem_cons_of_mem _ hx))
    (fun x hx a ha => hlive x (List.mem_cons_of_mem _ hx) a ha)

/-- Homes that receive the same updates for a key, in any two orders. Over updates pairwise
newer on both fields they hold the same row, the one of the update every other is older than.
Over two updates each newer on one field (a higher version from one relay, a later
observation from another), each home keeps the one it received first. -/
theorem presence_state_first_arrival :
    (∀ (ks : Keyspace) (recipient contact : Bytes 32) (u u' : PresenceUpdate) (l l' : List PresenceUpdate),
      ks.get? (presenceKey recipient contact) = none → (u :: l).Perm (u' :: l') →
      Adopt.Chain Supersedes (u :: l) → (∀ x ∈ u :: l, x.LeadOk) →
      (∀ x ∈ u :: l, ∀ a ∈ u :: l, x.observedAtMs.toNat < a.expiresAtMs.toNat) →
      (receiveAll ks recipient contact (u :: l)).get? (presenceKey recipient contact) =
          (receiveAll ks recipient contact (u' :: l')).get? (presenceKey recipient contact) ∧
        ∃ top ∈ u :: l, (∀ x ∈ u :: l, x = top ∨ Supersedes x top) ∧
          (receiveAll ks recipient contact (u :: l)).get? (presenceKey recipient contact) = some top.row) ∧
    (∀ (ks : Keyspace) (recipient contact : Bytes 32) (a b : PresenceUpdate),
      ks.get? (presenceKey recipient contact) = none → a.LeadOk → b.LeadOk →
      (∀ x ∈ [a, b], ∀ y ∈ [a, b], x.observedAtMs.toNat < y.expiresAtMs.toNat) →
      ¬Supersedes a b → ¬Supersedes b a →
      (receiveAll ks recipient contact [a, b]).get? (presenceKey recipient contact) = some a.row ∧
        (receiveAll ks recipient contact [b, a]).get? (presenceKey recipient contact) = some b.row) := by
  constructor
  · intro ks recipient contact u u' l l' hks hp hc hlead hlive
    have hlead' : ∀ x ∈ u' :: l', x.LeadOk := fun x hx => hlead x (hp.mem_iff.2 hx)
    have hlive' : ∀ x ∈ u' :: l', ∀ a ∈ u' :: l', x.observedAtMs.toNat < a.expiresAtMs.toNat :=
      fun x hx a ha => hlive x (hp.mem_iff.2 hx) a (hp.mem_iff.2 ha)
    rw [get?_receiveAll_of_none hks hlead hlive, get?_receiveAll_of_none hks hlead' hlive',
      Adopt.foldl_adopt_perm supersedes_trans supersedes_irrefl hc hp]
    refine ⟨rfl, _, hp.mem_iff.2 (Adopt.foldl_adopt_mem u' l'), fun x hx => ?_, rfl⟩
    -- the fold over the other order is the top of this chain too
    rw [← Adopt.foldl_adopt_perm supersedes_trans supersedes_irrefl hc hp]
    exact Adopt.foldl_adopt_top supersedes_trans hc x hx
  · intro ks recipient contact a b hks hla hlb hlive hnab hnba
    have hlead : ∀ x ∈ [a, b], x.LeadOk := fun x hx => by
      rcases List.mem_pair.1 hx with rfl | rfl
      · exact hla
      · exact hlb
    have hperm : [a, b].Perm [b, a] := List.Perm.swap b a []
    -- each order keeps its first update, which the second does not supersede
    constructor
    · rw [get?_receiveAll_of_none hks hlead hlive, List.foldl_cons, List.foldl_nil,
        Adopt.adopt_of_not_lt hnab]
    · rw [get?_receiveAll_of_none hks (fun x hx => hlead x (hperm.mem_iff.2 hx))
        (fun x hx y hy => hlive x (hperm.mem_iff.2 hx) y (hperm.mem_iff.2 hy)), List.foldl_cons, List.foldl_nil,
        Adopt.adopt_of_not_lt hnba]

def burstUpdate : PresenceUpdate := ⟨.idle 1000, 1005, 1000, 600000⟩

def movedUpdate : PresenceUpdate := ⟨.online, 1004, 1003, 600000⟩

def presenceViewer : Bytes 32 := ⟨List.replicate 32 1, rfl⟩

def presenceContact : Bytes 32 := ⟨List.replicate 32 2, rfl⟩

/-- Two homes receive the burst's last update and the moved relay's first in opposite orders:
one shows the contact idle, the other online, and neither changes its row afterwards. -/
theorem presence_state_first_arrival_homes :
    (receiveAll SortedMap.empty presenceViewer presenceContact [burstUpdate, movedUpdate]).get?
        (presenceKey presenceViewer presenceContact) = some burstUpdate.row ∧
      (receiveAll SortedMap.empty presenceViewer presenceContact [movedUpdate, burstUpdate]).get?
        (presenceKey presenceViewer presenceContact) = some movedUpdate.row ∧
      burstUpdate.row ≠ movedUpdate.row := by
  have h := presence_state_first_arrival.2 SortedMap.empty presenceViewer presenceContact burstUpdate movedUpdate
    rfl (by decide) (by decide) (by decide) (by decide) (by decide)
  exact ⟨h.1, h.2, by decide⟩

end PresenceUpdate

end Promtuz
