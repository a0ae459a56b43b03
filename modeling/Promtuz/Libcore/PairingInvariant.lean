import Promtuz.Lib.Reach
import Promtuz.Libcore.Pairing

namespace Promtuz

section Gate

variable {crypto : Crypto} {ourIpk : Bytes 32} {db : PairingDb} {nowMs : UInt64} {senderIpk : Bytes 32}
  {w : InboundWelcome}

theorem welcomeGate_redeemed {name : String} {invite : Invite}
    (h : welcomeGate crypto ourIpk db nowMs senderIpk w = .ok (some (name, invite))) :
    Identity.verifyInvite crypto ourIpk db nowMs invite = true := by
  unfold welcomeGate at h
  split at h
  · cases h
  split at h
  · cases h
  split at h
  · cases h
  split at h
  · split at h
    · cases h
      assumption
    · cases h
  · cases h

theorem welcomeGate_stranger {pairing : PairingP} (hfrom : w.envelope.senderIpk = senderIpk)
    (hto : w.envelope.recipientIpk = ourIpk) (hnew : Contact.exists db senderIpk = false)
    (hpairing : w.pairing = some pairing) (hvalid : Identity.verifyInvite crypto ourIpk db nowMs pairing.invite = true) :
    welcomeGate crypto ourIpk db nowMs senderIpk w =
      .ok (some (String.ofList (pairing.senderName.toList.take 32), pairing.invite)) := by
  simp [welcomeGate, hfrom, hto, hnew, hpairing, hvalid]

theorem welcomeGate_invalid {pairing : PairingP} (hfrom : w.envelope.senderIpk = senderIpk)
    (hto : w.envelope.recipientIpk = ourIpk) (hnew : Contact.exists db senderIpk = false)
    (hpairing : w.pairing = some pairing)
    (hinvalid : Identity.verifyInvite crypto ourIpk db nowMs pairing.invite = false) :
    welcomeGate crypto ourIpk db nowMs senderIpk w = .error "unknown sender and no valid invite" := by
  simp [welcomeGate, hfrom, hto, hnew, hpairing, hinvalid]

theorem welcomeAccept_cases (ourIpk : Bytes 32) (db : PairingDb) (nowMs : UInt64) (senderIpk : Bytes 32)
    (gate : Option (String × Invite)) (built : Bool) :
    ((welcomeAccept ourIpk db nowMs senderIpk gate built).2.spent = db.spent ∧
        strangerPaired senderIpk gate (welcomeAccept ourIpk db nowMs senderIpk gate built).1 nowMs = []) ∨
      ∃ name invite, gate = some (name, invite) ∧
        (welcomeAccept ourIpk db nowMs senderIpk gate built).2.spent = (Identity.spendInvite db nowMs invite).spent ∧
        strangerPaired senderIpk gate (welcomeAccept ourIpk db nowMs senderIpk gate built).1 nowMs =
          [(senderIpk, invite, nowMs)] := by
  unfold welcomeAccept
  split
  · rcases gate with _ | ⟨name, invite⟩
    · exact .inl ⟨rfl, rfl⟩
    · exact .inr ⟨name, invite, rfl, Identity.spendInvite_spent_save _ _ _, rfl⟩
  · rcases gate with _ | ⟨name, invite⟩ <;> exact .inl ⟨rfl, rfl⟩

end Gate

namespace PairingWorld

variable {crypto : Crypto} {ourIpk : Bytes 32} {s : PairingWorld} {call : WelcomeCall}

theorem deliver_of_error {e : String}
    (h : welcomeGate crypto ourIpk s.db s.clock call.senderIpk call.welcome = .error e) :
    (s.deliver crypto ourIpk call).2 = s := by
  simp [deliver, h]

theorem deliver_of_gate {gate : Option (String × Invite)}
    (h : welcomeGate crypto ourIpk s.db s.clock call.senderIpk call.welcome = .ok gate) :
    (s.deliver crypto ourIpk call).2 =
      ⟨(welcomeAccept ourIpk s.db s.clock call.senderIpk gate call.built).2, s.clock,
        s.paired ++ strangerPaired call.senderIpk gate
          (welcomeAccept ourIpk s.db s.clock call.senderIpk gate call.built).1 s.clock⟩ := by
  rcases hacc : welcomeAccept ourIpk s.db s.clock call.senderIpk gate call.built with ⟨outcome, db⟩
  simp [deliver, h, hacc]

/-- What handling Welcomes one at a time keeps: the invite of each logged stranger stays in
`spent_invite` while it could still be presented, each was accepted before it became
unusable, and no invite is logged twice. -/
structure SingleUse (s : PairingWorld) : Prop where
  spent_live : ∀ p ∈ s.paired, s.clock < Identity.inviteUnusableAt p.2.1 →
    (⟨p.2.1.id, Identity.inviteUnusableAt p.2.1⟩ : SpentInvite) ∈ s.db.spent
  before_unusable : ∀ p ∈ s.paired, p.2.2 < Identity.inviteUnusableAt p.2.1
  one_each : s.paired.Pairwise fun p q => p.2.1 ≠ q.2.1

theorem SingleUse.of_paired_nil (h : s.paired = []) : s.SingleUse where
  spent_live p hp := by simp [h] at hp
  before_unusable p hp := by simp [h] at hp
  one_each := by simp [h]

theorem SingleUse.tick (h : s.SingleUse) (nowMs : UInt64) : (s.step crypto ourIpk (.tick nowMs)).SingleUse := by
  simp only [step]
  split
  · rename_i hle
    -- a later clock only shrinks what `spent_live` asks for
    exact ⟨fun p hp hlt => h.spent_live p hp (UInt64.lt_of_le_of_lt hle hlt), h.before_unusable, h.one_each⟩
  · exact h

theorem SingleUse.deliver (h : s.SingleUse) (call : WelcomeCall) :
    (s.step crypto ourIpk (.deliver call)).SingleUse := by
  simp only [step]
  cases hgate : welcomeGate crypto ourIpk s.db s.clock call.senderIpk call.welcome with
  | error e =>
      rw [deliver_of_error hgate]
      exact h
  | ok gate =>
      rw [deliver_of_gate hgate]
      rcases welcomeAccept_cases ourIpk s.db s.clock call.senderIpk gate call.built with
        ⟨hspent, hlog⟩ | ⟨name, invite, rfl, hspent, hlog⟩
      · rw [hlog, List.append_nil]
        exact ⟨fun p hp hlt => hspent ▸ h.spent_live p hp hlt, h.before_unusable, h.one_each⟩
      · -- a stranger paired through `invite`, which the gate found live and unspent
        obtain ⟨hlive, hfresh⟩ := Identity.verifyInvite_eq_true (welcomeGate_redeemed hgate)
        rw [hlog]
        refine ⟨fun p hp hlt => ?_, fun p hp => ?_, ?_⟩
        · rw [hspent]
          dsimp only at hlt
          rcases List.mem_append.mp hp with hp | hp
          · exact Identity.mem_spendInvite_of_live (h.spent_live p hp hlt) (by simpa using hlt)
          · rw [List.mem_singleton.mp hp]
            exact Identity.mem_spendInvite_self hfresh
        · rcases List.mem_append.mp hp with hp | hp
          · exact h.before_unusable p hp
          · rw [List.mem_singleton.mp hp]
            exact hlive
        · refine List.pairwise_append.mpr ⟨h.one_each, List.pairwise_singleton _ _, fun p hp q hq hsame => ?_⟩
          rw [List.mem_singleton.mp hq] at hsame
          -- an earlier pairing through the same invite would have left it spent
          have hrow := h.spent_live p hp (hsame ▸ hlive)
          have hspentNow := Identity.inviteIsSpent_of_mem hrow
          rw [hsame, hfresh] at hspentNow
          cases hspentNow

theorem SingleUse.step (h : s.SingleUse) (a : PairingAction) : (s.step crypto ourIpk a).SingleUse := by
  cases a with
  | tick nowMs => exact h.tick nowMs
  | deliver call => exact h.deliver call

end PairingWorld

/-- Welcomes handled one after another, with a clock that never runs backwards: every stranger
accepted through an invite is the only one accepted through it, was accepted before the
invite's expiry plus `WELCOME_LIFETIME_MS`, and the invite stays in `spent_invite` for as long as
it could still be presented. -/
theorem invite_pairs_one_stranger_sequentially (crypto : Crypto) (ourIpk : Bytes 32) {s₀ s : PairingWorld}
    (h₀ : s₀.paired = []) (hs : Reach.Reachable s₀ (PairingWorld.step crypto ourIpk) s) :
    (∀ p ∈ s.paired, ∀ q ∈ s.paired, p.2.1 = q.2.1 → p = q) ∧
      (∀ p ∈ s.paired, p.2.2 < Identity.inviteUnusableAt p.2.1) ∧
      ∀ p ∈ s.paired, s.clock < Identity.inviteUnusableAt p.2.1 →
        (⟨p.2.1.id, Identity.inviteUnusableAt p.2.1⟩ : SpentInvite) ∈ s.db.spent := by
  have hinv : s.SingleUse :=
    hs.invariant (PairingWorld.SingleUse.of_paired_nil h₀) fun _ a h => h.step a
  refine ⟨fun p hp q hq hsame => ?_, hinv.before_unusable, hinv.spent_live⟩
  exact List.inj_on_of_nodup_map (List.pairwise_map.mpr hinv.one_each) hp hq hsame

def strangerWelcome (sender : UInt8) : WelcomeCall :=
  ⟨Bytes.replicate 32 sender,
    ⟨⟨Bytes.replicate 32 4, Bytes.replicate 32 sender, Bytes.replicate 32 7, [1],
        Bytes.replicate 32 5, Bytes.replicate 64 0⟩,
      some ⟨⟨Bytes.replicate 16 9, 600000, Bytes.replicate 64 0⟩, "stranger"⟩⟩, true⟩

def freshDevice : PairingWorld := ⟨⟨[], []⟩, 0, []⟩

theorem invite_pairs_one_stranger_sequentially_two :
    freshDevice.paired = [] ∧
      ((∀ p ∈ ([.deliver (strangerWelcome 1), .tick 1000, .deliver (strangerWelcome 2)] : List PairingAction).foldl
          (PairingWorld.step constCrypto ⟨List.replicate 32 7, by simp⟩) freshDevice |>.paired,
        ∀ q ∈ ([.deliver (strangerWelcome 1), .tick 1000, .deliver (strangerWelcome 2)] : List PairingAction).foldl
          (PairingWorld.step constCrypto ⟨List.replicate 32 7, by simp⟩) freshDevice |>.paired,
        p.2.1 = q.2.1 → p = q) ∧
        (∀ p ∈ ([.deliver (strangerWelcome 1), .tick 1000, .deliver (strangerWelcome 2)] : List PairingAction).foldl
          (PairingWorld.step constCrypto ⟨List.replicate 32 7, by simp⟩) freshDevice |>.paired,
          p.2.2 < Identity.inviteUnusableAt p.2.1) ∧
        ∀ p ∈ ([.deliver (strangerWelcome 1), .tick 1000, .deliver (strangerWelcome 2)] : List PairingAction).foldl
          (PairingWorld.step constCrypto ⟨List.replicate 32 7, by simp⟩) freshDevice |>.paired,
          (([.deliver (strangerWelcome 1), .tick 1000, .deliver (strangerWelcome 2)] : List PairingAction).foldl
            (PairingWorld.step constCrypto ⟨List.replicate 32 7, by simp⟩) freshDevice).clock <
              Identity.inviteUnusableAt p.2.1 →
          (⟨p.2.1.id, Identity.inviteUnusableAt p.2.1⟩ : SpentInvite) ∈
            (([.deliver (strangerWelcome 1), .tick 1000, .deliver (strangerWelcome 2)] : List PairingAction).foldl
              (PairingWorld.step constCrypto ⟨List.replicate 32 7, by simp⟩) freshDevice).db.spent) :=
  ⟨rfl, invite_pairs_one_stranger_sequentially constCrypto _ rfl (Reach.reachable_foldl _)⟩

/-- A Welcome from `call.senderIpk`, addressed to us, carrying `invite` in its pairing field,
whose group openmls builds. -/
def WelcomeCall.Redeems (ourIpk : Bytes 32) (invite : Invite) (call : WelcomeCall) : Prop :=
  call.welcome.envelope.senderIpk = call.senderIpk ∧ call.welcome.envelope.recipientIpk = ourIpk ∧
    call.welcome.pairing.map PairingP.invite = some invite ∧ call.built = true

/-- Two strangers' pairing Welcomes carrying one invite, on two delivery tasks: when both pass
the gate before either spends the invite, both are accepted and both strangers are paired.
Handled one after the other, the second is refused. -/
theorem racing_welcomes_redeem_invite_twice (crypto : Crypto) (ourIpk : Bytes 32) (w : PairingWorld)
    (invite : Invite) (a b : WelcomeCall) (hab : a.senderIpk ≠ b.senderIpk)
    (ha : a.Redeems ourIpk invite) (hb : b.Redeems ourIpk invite)
    (hnewA : Contact.exists w.db a.senderIpk = false) (hnewB : Contact.exists w.db b.senderIpk = false)
    (hvalid : Identity.verifyInvite crypto ourIpk w.db w.clock invite = true) :
    (WelcomeRace.run crypto ourIpk ⟨w, [(a, .ready), (b, .ready)]⟩
        [.gate 0, .gate 1, .accept 0, .accept 1]).calls.map Prod.snd =
        [.returned (.ok .accepted), .returned (.ok .accepted)] ∧
      (WelcomeRace.run crypto ourIpk ⟨w, [(a, .ready), (b, .ready)]⟩
        [.gate 0, .gate 1, .accept 0, .accept 1]).world.paired =
        w.paired ++ [(a.senderIpk, invite, w.clock), (b.senderIpk, invite, w.clock)] ∧
      (WelcomeRace.run crypto ourIpk ⟨w, [(a, .ready), (b, .ready)]⟩
        [.gate 0, .accept 0, .gate 1, .accept 1]).calls.map Prod.snd =
        [.returned (.ok .accepted), .returned (.error "unknown sender and no valid invite")] := by
  obtain ⟨haFrom, haTo, haPairing, haBuilt⟩ := ha
  obtain ⟨hbFrom, hbTo, hbPairing, hbBuilt⟩ := hb
  obtain ⟨pa, hpa, rfl⟩ := Option.map_eq_some_iff.mp haPairing
  obtain ⟨pb, hpb, hinv⟩ := Option.map_eq_some_iff.mp hbPairing
  have hgA := welcomeGate_stranger haFrom haTo hnewA hpa hvalid
  have hgB := welcomeGate_stranger hbFrom hbTo hnewB hpb (hinv ▸ hvalid)
  -- once `a` is accepted, `b` is still a stranger but the invite is spent
  have hgB' : welcomeGate crypto ourIpk (Identity.spendInvite (Contact.save w.db ourIpk a.senderIpk
      (String.ofList (pa.senderName.toList.take 32))) w.clock pa.invite) w.clock b.senderIpk b.welcome =
        .error "unknown sender and no valid invite" :=
    welcomeGate_invalid hbFrom hbTo
      (by rw [Identity.exists_spendInvite, Contact.exists_save_of_ne (Ne.symm hab)]; exact hnewB) hpb
      (by rw [hinv]; exact Identity.verifyInvite_of_spent (Identity.inviteIsSpent_spendInvite _))
  refine ⟨?_, ?_, ?_⟩
  · simp [WelcomeRace.run, WelcomeRace.step, hgA, hgB, welcomeAccept, haBuilt, hbBuilt]
  · simp [WelcomeRace.run, WelcomeRace.step, hgA, hgB, welcomeAccept, haBuilt, hbBuilt, strangerPaired, hinv]
  · simp [WelcomeRace.run, WelcomeRace.step, hgA, hgB', welcomeAccept, haBuilt]

theorem racing_welcomes_redeem_invite_twice_strangers :
    (strangerWelcome 1).Redeems ⟨List.replicate 32 7, by simp⟩
        ⟨⟨List.replicate 16 9, by simp⟩, 600000, ⟨List.replicate 64 0, by simp⟩⟩ ∧
      (strangerWelcome 2).Redeems ⟨List.replicate 32 7, by simp⟩
        ⟨⟨List.replicate 16 9, by simp⟩, 600000, ⟨List.replicate 64 0, by simp⟩⟩ ∧
      (WelcomeRace.run constCrypto ⟨List.replicate 32 7, by simp⟩
          ⟨freshDevice, [(strangerWelcome 1, .ready), (strangerWelcome 2, .ready)]⟩
          [.gate 0, .gate 1, .accept 0, .accept 1]).calls.map Prod.snd =
        [.returned (.ok .accepted), .returned (.ok .accepted)] ∧
      (WelcomeRace.run constCrypto ⟨List.replicate 32 7, by simp⟩
          ⟨freshDevice, [(strangerWelcome 1, .ready), (strangerWelcome 2, .ready)]⟩
          [.gate 0, .gate 1, .accept 0, .accept 1]).world.paired =
        freshDevice.paired ++ [((strangerWelcome 1).senderIpk,
          ⟨⟨List.replicate 16 9, by simp⟩, 600000, ⟨List.replicate 64 0, by simp⟩⟩, freshDevice.clock),
          ((strangerWelcome 2).senderIpk,
          ⟨⟨List.replicate 16 9, by simp⟩, 600000, ⟨List.replicate 64 0, by simp⟩⟩, freshDevice.clock)] ∧
      (WelcomeRace.run constCrypto ⟨List.replicate 32 7, by simp⟩
          ⟨freshDevice, [(strangerWelcome 1, .ready), (strangerWelcome 2, .ready)]⟩
          [.gate 0, .accept 0, .gate 1, .accept 1]).calls.map Prod.snd =
        [.returned (.ok .accepted), .returned (.error "unknown sender and no valid invite")] := by
  have hredeems : ∀ n : UInt8, (strangerWelcome n).Redeems ⟨List.replicate 32 7, by simp⟩
      ⟨⟨List.replicate 16 9, by simp⟩, 600000, ⟨List.replicate 64 0, by simp⟩⟩ :=
    fun _ => ⟨rfl, rfl, rfl, rfl⟩
  exact ⟨hredeems 1, hredeems 2,
    racing_welcomes_redeem_invite_twice constCrypto ⟨List.replicate 32 7, by simp⟩ freshDevice
      ⟨⟨List.replicate 16 9, by simp⟩, 600000, ⟨List.replicate 64 0, by simp⟩⟩ (strangerWelcome 1)
      (strangerWelcome 2) (by decide) (hredeems 1) (hredeems 2) rfl rfl (by decide)⟩

end Promtuz
