import Promtuz.Common.MlsWire
import Promtuz.Lib.Table

namespace Promtuz

/-- A `spent_invite` row. -/
structure SpentInvite where
  id : Bytes 16
  unusableAtMs : UInt64
  deriving DecidableEq

/-- A `contacts` row, with the columns the pairing path writes. -/
structure ContactRow where
  ipk : Bytes 32
  name : String
  deriving DecidableEq

structure PairingDb where
  contacts : List ContactRow
  spent : List SpentInvite
  deriving DecidableEq

namespace Identity

/-- `invite_unusable_at`: past this instant the invite cannot be presented at all. -/
def inviteUnusableAt (invite : Invite) : UInt64 :=
  invite.expiryMs.saturatingAdd WELCOME_LIFETIME_MS

def inviteIsSpent (db : PairingDb) (id : Bytes 16) : Bool :=
  db.spent.any fun r => decide (r.id = id)

/-- `Identity::verify_invite`, with our identity key `ourIpk` stored. -/
def verifyInvite (crypto : Crypto) (ourIpk : Bytes 32) (db : PairingDb) (nowMs : UInt64) (invite : Invite) :
    Bool :=
  if inviteUnusableAt invite ≤ nowMs then false
  else if inviteIsSpent db invite.id then false
  else crypto.verifyStrict ourIpk.1 (inviteSigningInput MLS_WIRE_VERSION invite.id invite.expiryMs) invite.sig.1

/-- `Identity::spend_invite`: drop the rows past redemption, then `INSERT OR IGNORE` this one. -/
def spendInvite (db : PairingDb) (nowMs : UInt64) (invite : Invite) : PairingDb :=
  let kept := Table.delete (fun r => decide (r.unusableAtMs ≤ nowMs)) db.spent
  ⟨db.contacts,
    if kept.any (fun r => decide (r.id = invite.id)) then kept else kept ++ [⟨invite.id, inviteUnusableAt invite⟩]⟩

end Identity

namespace Contact

def «exists» (db : PairingDb) (ipk : Bytes 32) : Bool :=
  db.contacts.any fun c => decide (c.ipk = ipk)

/-- `Contact::save`: refuse our own key, otherwise insert or rename. -/
def save (db : PairingDb) (ourIpk ipk : Bytes 32) (name : String) : PairingDb :=
  if ipk = ourIpk then db
  else
    ⟨Table.delete (fun c => decide (c.ipk = ipk)) db.contacts ++ [⟨ipk, name⟩], db.spent⟩

end Contact

/-- A Welcome as `process_welcome_inbound` receives it: the envelope and its `pairing` field. -/
structure InboundWelcome where
  envelope : WelcomeEnvelopeP
  pairing : Option PairingP

inductive WelcomeOutcome where
  | accepted
  | rejected (reason : UInt8)
  deriving DecidableEq

/-- The checks of `process_welcome_inbound` before openmls sees the Welcome. What they let
through is `(new_contact_name, redeemed_invite)`, both present for a stranger and both absent
for a contact: `none` or `some (name, invite)`. -/
def welcomeGate (crypto : Crypto) (ourIpk : Bytes 32) (db : PairingDb) (nowMs : UInt64)
    (senderIpk : Bytes 32) (w : InboundWelcome) : Except String (Option (String × Invite)) :=
  if w.envelope.senderIpk ≠ senderIpk then .error "welcome envelope sender_ipk mismatch with DispatchP.from"
  else if w.envelope.recipientIpk ≠ ourIpk then .error "welcome envelope recipient_ipk does not match self"
  else if Contact.exists db senderIpk then .ok none
  else
    match w.pairing with
    | some pairing =>
        if Identity.verifyInvite crypto ourIpk db nowMs pairing.invite then
          .ok (some (String.ofList (pairing.senderName.toList.take 32), pairing.invite))
        else .error "unknown sender and no valid invite"
    | none => .error "unknown sender and no valid invite"

/-- The rest of `process_welcome_inbound`: `built` is whether
`process_welcome_inbound_no_contacts` succeeded; on success a stranger is saved as a contact and
its invite spent. -/
def welcomeAccept (ourIpk : Bytes 32) (db : PairingDb) (nowMs : UInt64) (senderIpk : Bytes 32)
    (gate : Option (String × Invite)) (built : Bool) : WelcomeOutcome × PairingDb :=
  if built then
    match gate with
    | some (name, invite) => (.accepted, Identity.spendInvite (Contact.save db ourIpk senderIpk name) nowMs invite)
    | none => (.accepted, db)
  else (.rejected DECLINE_GROUP_BUILD_FAILED, db)

/-- `messaging::process_welcome_inbound`, run in one piece at `nowMs`. -/
def processWelcomeInbound (crypto : Crypto) (ourIpk : Bytes 32) (db : PairingDb) (nowMs : UInt64)
    (senderIpk : Bytes 32) (w : InboundWelcome) (built : Bool) : Except String WelcomeOutcome × PairingDb :=
  match welcomeGate crypto ourIpk db nowMs senderIpk w with
  | .error e => (.error e, db)
  | .ok gate =>
      let (outcome, db') := welcomeAccept ourIpk db nowMs senderIpk gate built
      (.ok outcome, db')

/-- One Welcome handed to `process_welcome_inbound`, with whether openmls builds its group. -/
structure WelcomeCall where
  senderIpk : Bytes 32
  welcome : InboundWelcome
  built : Bool

structure PairingWorld where
  db : PairingDb
  clock : UInt64
  paired : List (Bytes 32 × Invite × UInt64)

def strangerPaired (senderIpk : Bytes 32) (gate : Option (String × Invite)) (outcome : WelcomeOutcome)
    (nowMs : UInt64) : List (Bytes 32 × Invite × UInt64) :=
  match gate, outcome with
  | some (_, invite), .accepted => [(senderIpk, invite, nowMs)]
  | _, _ => []

/-- Gate and accept as one step at the world's clock, with the log kept. -/
def PairingWorld.deliver (crypto : Crypto) (ourIpk : Bytes 32) (s : PairingWorld) (call : WelcomeCall) :
    Except String WelcomeOutcome × PairingWorld :=
  match welcomeGate crypto ourIpk s.db s.clock call.senderIpk call.welcome with
  | .error e => (.error e, s)
  | .ok gate =>
      let (outcome, db) := welcomeAccept ourIpk s.db s.clock call.senderIpk gate call.built
      (.ok outcome, ⟨db, s.clock, s.paired ++ strangerPaired call.senderIpk gate outcome s.clock⟩)

inductive PairingAction where
  | tick (nowMs : UInt64)
  | deliver (call : WelcomeCall)

/-- Welcomes handled one after another, as `poll_welcomes` does. -/
def PairingWorld.step (crypto : Crypto) (ourIpk : Bytes 32) (s : PairingWorld) : PairingAction → PairingWorld
  | .tick nowMs => if s.clock ≤ nowMs then ⟨s.db, nowMs, s.paired⟩ else s
  | .deliver call => (s.deliver crypto ourIpk call).2

inductive WelcomePhase where
  | ready
  | gated (gate : Option (String × Invite))
  | returned (outcome : Except String WelcomeOutcome)
  deriving DecidableEq

/-- Concurrent `process_welcome_inbound` calls on the per-stream delivery tasks: each call's
gate and the rest of it are separate atomic steps, with no lock between them. -/
structure WelcomeRace where
  world : PairingWorld
  calls : List (WelcomeCall × WelcomePhase)

inductive WelcomeRaceAction where
  | tick (nowMs : UInt64)
  | gate (i : Nat)
  | accept (i : Nat)

def WelcomeRace.step (crypto : Crypto) (ourIpk : Bytes 32) (s : WelcomeRace) : WelcomeRaceAction → WelcomeRace
  | .tick nowMs => ⟨s.world.step crypto ourIpk (.tick nowMs), s.calls⟩
  | .gate i =>
      match s.calls[i]? with
      | some (call, .ready) =>
          match welcomeGate crypto ourIpk s.world.db s.world.clock call.senderIpk call.welcome with
          | .error e => ⟨s.world, s.calls.set i (call, .returned (.error e))⟩
          | .ok gate => ⟨s.world, s.calls.set i (call, .gated gate)⟩
      | _ => s
  | .accept i =>
      match s.calls[i]? with
      | some (call, .gated gate) =>
          let w := s.world
          let (outcome, db) := welcomeAccept ourIpk w.db w.clock call.senderIpk gate call.built
          ⟨⟨db, w.clock, w.paired ++ strangerPaired call.senderIpk gate outcome w.clock⟩,
            s.calls.set i (call, .returned (.ok outcome))⟩
      | _ => s

def WelcomeRace.run (crypto : Crypto) (ourIpk : Bytes 32) (s : WelcomeRace) (actions : List WelcomeRaceAction) :
    WelcomeRace :=
  actions.foldl (WelcomeRace.step crypto ourIpk) s

section Lemmas

variable {crypto : Crypto} {ourIpk : Bytes 32} {db : PairingDb} {nowMs : UInt64}

namespace Contact

@[simp] theorem save_spent (ipk : Bytes 32) (name : String) : (save db ourIpk ipk name).spent = db.spent := by
  unfold save
  split <;> rfl

theorem exists_save_of_ne {ipk other : Bytes 32} {name : String} (hne : other ≠ ipk) :
    Contact.exists (save db ourIpk ipk name) other = Contact.exists db other := by
  unfold save
  split
  · rfl
  · -- the rows the upsert drops or adds all carry `ipk`, not `other`
    simp only [Contact.exists, Table.delete, List.any_append, List.any_filter]
    have hnew : ([⟨ipk, name⟩] : List ContactRow).any (fun c => decide (c.ipk = other)) = false := by
      simpa using Ne.symm hne
    rw [hnew, Bool.or_false]
    congr 1
    funext c
    by_cases hc : c.ipk = other
    · simp [hc, hne]
    · simp [hc]

end Contact

namespace Identity

theorem verifyInvite_eq_true {invite : Invite} (h : verifyInvite crypto ourIpk db nowMs invite = true) :
    nowMs < inviteUnusableAt invite ∧ inviteIsSpent db invite.id = false := by
  unfold verifyInvite at h
  split at h
  · cases h
  · rename_i hlive
    split at h
    · cases h
    · rename_i hspent
      exact ⟨UInt64.not_le.mp hlive, by simpa using hspent⟩

theorem inviteIsSpent_of_mem {r : SpentInvite} (hr : r ∈ db.spent) : inviteIsSpent db r.id = true :=
  List.any_eq_true.mpr ⟨r, hr, by simp⟩

theorem mem_spendInvite_of_live {invite : Invite} {r : SpentInvite} (hr : r ∈ db.spent)
    (hlive : nowMs < r.unusableAtMs) : r ∈ (spendInvite db nowMs invite).spent := by
  have hkept : r ∈ Table.delete (fun r => decide (r.unusableAtMs ≤ nowMs)) db.spent :=
    Table.mem_delete.mpr ⟨hr, by simpa using hlive⟩
  unfold spendInvite
  dsimp only
  split
  · exact hkept
  · exact List.mem_append_left _ hkept

theorem mem_spendInvite_self {invite : Invite} (hfresh : inviteIsSpent db invite.id = false) :
    ⟨invite.id, inviteUnusableAt invite⟩ ∈ (spendInvite db nowMs invite).spent := by
  have hnone : (Table.delete (fun r => decide (r.unusableAtMs ≤ nowMs)) db.spent).any
      (fun r => decide (r.id = invite.id)) = false := by
    refine List.any_eq_false.mpr fun r hr hid => ?_
    have hspent := inviteIsSpent_of_mem (Table.mem_delete.mp hr).1
    rw [of_decide_eq_true hid, hfresh] at hspent
    cases hspent
  simp only [spendInvite, hnone]
  exact List.mem_append_right _ (List.mem_singleton_self _)

theorem inviteIsSpent_spendInvite (invite : Invite) :
    inviteIsSpent (spendInvite db nowMs invite) invite.id = true := by
  unfold spendInvite
  dsimp only
  split
  · rename_i hkept
    exact hkept
  · exact List.any_eq_true.mpr ⟨_, List.mem_append_right _ (List.mem_singleton_self _), by simp⟩

theorem verifyInvite_of_spent {invite : Invite} (h : inviteIsSpent db invite.id = true) :
    verifyInvite crypto ourIpk db nowMs invite = false := by
  unfold verifyInvite
  simp [h]

theorem spendInvite_spent_save (ipk : Bytes 32) (name : String) (invite : Invite) :
    (spendInvite (Contact.save db ourIpk ipk name) nowMs invite).spent = (spendInvite db nowMs invite).spent := by
  simp only [spendInvite, Contact.save_spent]

theorem exists_spendInvite (invite : Invite) (ipk : Bytes 32) :
    Contact.exists (spendInvite db nowMs invite) ipk = Contact.exists db ipk :=
  rfl

end Identity

end Lemmas

end Promtuz
