import Promtuz.Libcore.Pairing
import Promtuz.Libcore.Delivery
import Promtuz.Lib.Reach

/-! The pairing status of a contact (`data::contact`): `save_pending` files an invitee as PENDING,
the Welcome acceptance files an inviter through `Contact::save` under the column's default, PAIRED,
`mark_paired` confirms a PENDING pair on any decryptable inbound message, and
`process_pair_decline_inbound` marks the contact REJECTED and fails what we sent them, unless a
group is bound to the contact. -/

namespace Promtuz

def PAIR_STATUS_PENDING : UInt8 := 0

def PAIR_STATUS_PAIRED : UInt8 := 1

def PAIR_STATUS_REJECTED : UInt8 := 2

structure PairContact where
  ipk : Bytes 32
  name : String
  addedAt : UInt64
  mlsGroupId : Option (Bytes 32)
  status : UInt8
  rejectReason : Option UInt8
  deriving DecidableEq

namespace Contacts

def hit (ipk : Bytes 32) (c : PairContact) : Bool := decide (c.ipk = ipk)

/-- The upsert `Contact::save` and `Contact::save_pending` share: refuse our own key; otherwise
insert a row with no group, or on the key's conflict refresh only the name. -/
def upsert (rows : List PairContact) (ourIpk ipk : Bytes 32) (name : String) (addedAt : UInt64) (status : UInt8) :
    Except String (List PairContact) :=
  if ipk = ourIpk then .error "cannot add yourself as a contact"
  else if rows.any (hit ipk) then .ok (Table.update (hit ipk) (fun c => { c with name }) rows)
  else .ok (rows ++ [⟨ipk, name, addedAt, none, status, none⟩])

/-- `Contact::save_pending`. -/
def savePending (rows : List PairContact) (ourIpk ipk : Bytes 32) (name : String) (addedAt : UInt64) :
    Except String (List PairContact) :=
  upsert rows ourIpk ipk name addedAt PAIR_STATUS_PENDING

/-- `Contact::save`: the insert names no status, so the column default `1`, PAIRED, applies. -/
def save (rows : List PairContact) (ourIpk ipk : Bytes 32) (name : String) (addedAt : UInt64) :
    Except String (List PairContact) :=
  upsert rows ourIpk ipk name addedAt PAIR_STATUS_PAIRED

def setMlsGroupId (rows : List PairContact) (ipk : Bytes 32) (groupId : Bytes 32) : List PairContact :=
  Table.update (hit ipk) (fun c => { c with mlsGroupId := some groupId }) rows

/-- `Contact::mark_paired`: `WHERE ipk = ? AND status = PENDING`. -/
def markPaired (rows : List PairContact) (ipk : Bytes 32) : List PairContact :=
  Table.update (fun c => hit ipk c && c.status == PAIR_STATUS_PENDING) (fun c => { c with status := PAIR_STATUS_PAIRED })
    rows

/-- `Contact::mark_rejected`: `WHERE ipk = ? AND mls_group_id IS NULL`, whatever the status. -/
def markRejected (rows : List PairContact) (ipk : Bytes 32) (reason : UInt8) : List PairContact :=
  Table.update (fun c => hit ipk c && c.mlsGroupId.isNone)
    (fun c => { c with status := PAIR_STATUS_REJECTED, rejectReason := some reason }) rows

def get (rows : List PairContact) (ipk : Bytes 32) : Option PairContact := rows.find? (hit ipk)

def status (rows : List PairContact) (ipk : Bytes 32) : Option UInt8 := (get rows ipk).map (·.status)

def isPaired (rows : List PairContact) (ipk : Bytes 32) : Bool := status rows ipk == some PAIR_STATUS_PAIRED

end Contacts

/-- `Message::mark_all_failed_in`: our pending and sent messages in the conversation fail. -/
def Message.markAllFailedIn (rows : List StatusRow) (conversationId : Bytes 16) : List StatusRow :=
  Table.update (fun r => decide (r.conversationId = conversationId) && r.outgoing && decide (r.status ≤ STATUS_SENT))
    (fun r => { r with status := STATUS_FAILED }) rows

structure PairState where
  contacts : List PairContact
  convs : ConversationsDb
  messages : List StatusRow

/-- `process_pair_decline_inbound`, with our identity key `ourIpk` and the id `for_peer` would mint
passed in. -/
def processPairDeclineInbound (crypto : Crypto) (ourIpk : Bytes 32) (s : PairState) (senderIpk : Bytes 32)
    (d : PairDeclineP) (freshId : Bytes 16) : Except String Unit × PairState :=
  if d.senderIpk ≠ senderIpk then (.error "pair-decline sender_ipk mismatch", s)
  else if d.recipientIpk ≠ ourIpk then (.error "pair-decline not addressed to us", s)
  else if !crypto.verifyStrict senderIpk.1 (pairDeclineSigningInput MLS_WIRE_VERSION senderIpk ourIpk d.reason d.timestamp)
      d.sig.1 then (.error "pair-decline signature invalid", s)
  else if !s.contacts.any (Contacts.hit senderIpk) then (.error "pair-decline from non-contact", s)
  -- a bound group is ground truth: the decline is ignored
  else if ((Contacts.get s.contacts senderIpk).bind (·.mlsGroupId)).isSome then (.ok (), s)
  else
    let conv := Conversation.forPeerTx s.convs senderIpk (some ourIpk) freshId
    (.ok (), ⟨Contacts.markRejected s.contacts senderIpk d.reason, conv.2, Message.markAllFailedIn s.messages conv.1⟩)

/-- The calls that write a contact's pairing status. `freshId` is the id `for_peer` mints when
it has to open the direct conversation. -/
inductive PairEvent where
  /-- `pair`'s `save_pending` of the invitee. -/
  | savePending (ipk : Bytes 32) (name : String) (addedAt : UInt64) (freshId : Bytes 16)
  /-- The Welcome acceptance's `Contact::save` of a new inviter. -/
  | save (ipk : Bytes 32) (name : String) (addedAt : UInt64) (freshId : Bytes 16)
  | setMlsGroupId (ipk : Bytes 32) (groupId : Bytes 32)
  /-- Any decryptable inbound message from `ipk`, in whichever group. -/
  | markPaired (ipk : Bytes 32)
  | decline (senderIpk : Bytes 32) (d : PairDeclineP) (freshId : Bytes 16)

def PairState.saveWith (s : PairState) (ourIpk ipk : Bytes 32) (freshId : Bytes 16) :
    Except String (List PairContact) → PairState
  | .ok contacts => ⟨contacts, (Conversation.forPeerTx s.convs ipk (some ourIpk) freshId).2, s.messages⟩
  | .error _ => s

def PairState.step (crypto : Crypto) (ourIpk : Bytes 32) (s : PairState) : PairEvent → PairState
  | .savePending ipk name addedAt freshId =>
      s.saveWith ourIpk ipk freshId (Contacts.savePending s.contacts ourIpk ipk name addedAt)
  | .save ipk name addedAt freshId => s.saveWith ourIpk ipk freshId (Contacts.save s.contacts ourIpk ipk name addedAt)
  | .setMlsGroupId ipk groupId => { s with contacts := Contacts.setMlsGroupId s.contacts ipk groupId }
  | .markPaired ipk => { s with contacts := Contacts.markPaired s.contacts ipk }
  | .decline senderIpk d freshId => (processPairDeclineInbound crypto ourIpk s senderIpk d freshId).2

namespace Contacts

variable {rows rows' : List PairContact} {ourIpk ipk p : Bytes 32} {r : PairContact}

theorem get_update {g : PairContact → Bool} {f : PairContact → PairContact} (hf : ∀ c, (f c).ipk = c.ipk)
    (rows : List PairContact) (ipk : Bytes 32) :
    get (Table.update g f rows) ipk = (get rows ipk).map fun c => if g c then f c else c := by
  unfold get Table.update
  rw [List.find?_map]
  congr 2
  funext c
  by_cases hg : g c <;> simp [hit, hg, hf]

theorem get_update_of_get {g : PairContact → Bool} {f : PairContact → PairContact} (hf : ∀ c, (f c).ipk = c.ipk)
    (h : get rows p = some r) : get (Table.update g f rows) p = some (if g r then f r else r) := by
  rw [get_update hf, h, Option.map_some]

theorem get_upsert_of_get {name : String} {addedAt : UInt64} {st : UInt8}
    (hu : upsert rows ourIpk ipk name addedAt st = .ok rows') (h : get rows p = some r) :
    ∃ r', get rows' p = some r' ∧ r'.status = r.status ∧ r'.mlsGroupId = r.mlsGroupId := by
  unfold upsert at hu
  split_ifs at hu
  · cases hu
    refine ⟨_, get_update_of_get (fun _ => rfl) h, ?_⟩
    split <;> simp
  · cases hu
    exact ⟨r, by simp [get, List.find?_append, show rows.find? (hit p) = some r from h], rfl, rfl⟩

end Contacts

theorem contacts_processPairDeclineInbound (crypto : Crypto) (ourIpk : Bytes 32) (s : PairState) (sender : Bytes 32)
    (d : PairDeclineP) (freshId : Bytes 16) :
    (processPairDeclineInbound crypto ourIpk s sender d freshId).2.contacts = s.contacts ∨
      (processPairDeclineInbound crypto ourIpk s sender d freshId).2.contacts =
        Contacts.markRejected s.contacts sender d.reason := by
  unfold processPairDeclineInbound
  split_ifs <;> simp

theorem row_saveWith {s : PairState} {ourIpk ipk p : Bytes 32} {freshId : Bytes 16} {r : PairContact}
    {res : Except String (List PairContact)} (h : Contacts.get s.contacts p = some r)
    (hres : ∀ rows', res = .ok rows' →
      ∃ r', Contacts.get rows' p = some r' ∧ r'.status = r.status ∧ r'.mlsGroupId = r.mlsGroupId) :
    ∃ r', Contacts.get (s.saveWith ourIpk ipk freshId res).contacts p = some r' ∧ r'.status = r.status ∧
      r'.mlsGroupId = r.mlsGroupId := by
  cases res with
  | error => exact ⟨r, h, rfl, rfl⟩
  | ok rows' => exact hres rows' rfl

theorem row_step (crypto : Crypto) (ourIpk : Bytes 32) (s : PairState) (e : PairEvent) {p : Bytes 32}
    {r : PairContact} (h : Contacts.get s.contacts p = some r) :
    ∃ r', Contacts.get (s.step crypto ourIpk e).contacts p = some r' ∧
      (r'.status = r.status ∨ (r.status = PAIR_STATUS_PENDING ∧ r'.status = PAIR_STATUS_PAIRED) ∨
        (r.mlsGroupId = none ∧ r'.status = PAIR_STATUS_REJECTED)) ∧
      (r.mlsGroupId.isSome → r'.mlsGroupId.isSome) := by
  cases e with
  | savePending ipk name addedAt freshId | save ipk name addedAt freshId =>
      obtain ⟨r', hr', hst, hg⟩ := row_saveWith h fun rows' hu => Contacts.get_upsert_of_get hu h
      exact ⟨r', hr', .inl hst, by simp [hg]⟩
  | setMlsGroupId ipk groupId =>
      refine ⟨_, Contacts.get_update_of_get (fun _ => rfl) h, .inl ?_, fun hg => ?_⟩
      · split <;> rfl
      · split
        · rfl
        · exact hg
  | markPaired ipk =>
      refine ⟨_, Contacts.get_update_of_get (fun _ => rfl) h, ?_, fun hg => ?_⟩ <;> split
      · next hsel => exact .inr (.inl ⟨by simpa using (Bool.and_eq_true _ _).mp hsel |>.2, rfl⟩)
      · exact .inl rfl
      · simpa using hg
      · exact hg
  | decline sender d freshId =>
      simp only [PairState.step]
      rcases contacts_processPairDeclineInbound crypto ourIpk s sender d freshId with hc | hc <;> rw [hc]
      · exact ⟨r, h, .inl rfl, id⟩
      · refine ⟨_, Contacts.get_update_of_get (fun _ => rfl) h, ?_, fun hg => ?_⟩ <;> split
        · next hsel => exact .inr (.inr ⟨by simpa using (Bool.and_eq_true _ _).mp hsel |>.2, rfl⟩)
        · exact .inl rfl
        · simpa using hg
        · exact hg

theorem processPairDeclineInbound_of_group (crypto : Crypto) (ourIpk : Bytes 32) {s : PairState} {p : Bytes 32}
    {r : PairContact} (h : Contacts.get s.contacts p = some r) (hg : r.mlsGroupId.isSome)
    (d : PairDeclineP) (freshId : Bytes 16) : (processPairDeclineInbound crypto ourIpk s p d freshId).2 = s := by
  have hbound : ((Contacts.get s.contacts p).bind (·.mlsGroupId)).isSome := by simpa [h] using hg
  unfold processPairDeclineInbound
  split_ifs <;> simp_all

section Runs

variable (crypto : Crypto) (ourIpk : Bytes 32)

/-- Along any run of pairing events, a contact's status code only grows, PENDING (0), PAIRED (1),
REJECTED (2): nothing moves a contact back, and REJECTED is final. -/
theorem pairing_status_monotone (s : PairState) (p : Bytes 32) (events : List PairEvent) {r : PairContact}
    (h : Contacts.get s.contacts p = some r) (hvalid : r.status ≤ PAIR_STATUS_REJECTED) :
    ∃ r', Contacts.get (events.foldl (PairState.step crypto ourIpk) s).contacts p = some r' ∧
      r.status ≤ r'.status ∧ r'.status ≤ PAIR_STATUS_REJECTED := by
  refine Reach.foldl_invariant (Q := fun _ => True) (P := fun s' : PairState =>
    ∃ r', Contacts.get s'.contacts p = some r' ∧ r.status ≤ r'.status ∧ r'.status ≤ PAIR_STATUS_REJECTED)
    ?_ ⟨r, h, UInt8.le_refl _, hvalid⟩ (fun _ _ => trivial)
  rintro s' e - ⟨r', h', hle, hcap⟩
  obtain ⟨r'', h'', hst, -⟩ := row_step crypto ourIpk s' e h'
  refine ⟨r'', h'', ?_⟩
  rcases hst with hst | ⟨hpend, hst⟩ | ⟨-, hst⟩ <;> rw [hst]
  · exact ⟨hle, hcap⟩
  · rw [hpend] at hle
    exact ⟨UInt8.le_trans hle (by decide), by decide⟩
  · exact ⟨UInt8.le_trans hle hcap, UInt8.le_refl _⟩

/-- A contact whose row has a bound group keeps a group along any run of pairing events and is
never marked REJECTED, and every decline from it is then ignored, so none fails its messages. -/
theorem pairing_group_never_rejected (s : PairState) (p : Bytes 32) (events : List PairEvent) {r : PairContact}
    (h : Contacts.get s.contacts p = some r) (hg : r.mlsGroupId.isSome) (hst : r.status ≠ PAIR_STATUS_REJECTED) :
    ∃ r', Contacts.get (events.foldl (PairState.step crypto ourIpk) s).contacts p = some r' ∧
      r'.mlsGroupId.isSome ∧ r'.status ≠ PAIR_STATUS_REJECTED ∧
      ∀ d freshId, (processPairDeclineInbound crypto ourIpk (events.foldl (PairState.step crypto ourIpk) s) p d
        freshId).2 = events.foldl (PairState.step crypto ourIpk) s := by
  have hrun : ∃ r', Contacts.get (events.foldl (PairState.step crypto ourIpk) s).contacts p = some r' ∧
      r'.mlsGroupId.isSome ∧ r'.status ≠ PAIR_STATUS_REJECTED := by
    refine Reach.foldl_invariant (Q := fun _ => True) (P := fun s' : PairState =>
      ∃ r', Contacts.get s'.contacts p = some r' ∧ r'.mlsGroupId.isSome ∧ r'.status ≠ PAIR_STATUS_REJECTED)
      ?_ ⟨r, h, hg, hst⟩ (fun _ _ => trivial)
    rintro s' e - ⟨r', h', hg', hst'⟩
    obtain ⟨r'', h'', hstep, hkeep⟩ := row_step crypto ourIpk s' e h'
    -- the REJECTED branch needs a row without a group
    refine ⟨r'', h'', hkeep hg', ?_⟩
    rcases hstep with hstep | ⟨-, hstep⟩ | ⟨hnone, -⟩
    · rwa [hstep]
    · rw [hstep]; decide
    · simp [hnone] at hg'
  obtain ⟨r', h', hg', hst'⟩ := hrun
  exact ⟨r', h', hg', hst', fun d freshId => processPairDeclineInbound_of_group crypto ourIpk h' hg' d freshId⟩

end Runs

def pendingPair : PairState :=
  ⟨[⟨Bytes.replicate 32 3, "peer", 0, none, PAIR_STATUS_PENDING, none⟩], ⟨[], []⟩, []⟩

def sampleDecline : PairDeclineP :=
  ⟨Bytes.replicate 32 3, Bytes.replicate 32 1, 1, 0, Bytes.replicate 64 0⟩

theorem pairing_status_monotone_declined :
    ∃ r', Contacts.get ([PairEvent.markPaired (Bytes.replicate 32 3),
        PairEvent.decline (Bytes.replicate 32 3) sampleDecline (Bytes.replicate 16 5)].foldl
          (PairState.step constCrypto (Bytes.replicate 32 1)) pendingPair).contacts (Bytes.replicate 32 3) = some r' ∧
      PAIR_STATUS_PENDING ≤ r'.status ∧ r'.status ≤ PAIR_STATUS_REJECTED :=
  pairing_status_monotone constCrypto (Bytes.replicate 32 1) pendingPair (Bytes.replicate 32 3) _ rfl (by decide)

theorem pairing_group_never_rejected_bound :
    let s : PairState :=
      { pendingPair with contacts := Contacts.setMlsGroupId pendingPair.contacts (Bytes.replicate 32 3) (Bytes.replicate 32 7) }
    let events := [PairEvent.markPaired (Bytes.replicate 32 3),
      PairEvent.decline (Bytes.replicate 32 3) sampleDecline (Bytes.replicate 16 5)]
    ∃ r', Contacts.get (events.foldl (PairState.step constCrypto (Bytes.replicate 32 1)) s).contacts
        (Bytes.replicate 32 3) = some r' ∧
      r'.mlsGroupId.isSome ∧ r'.status ≠ PAIR_STATUS_REJECTED ∧
      ∀ d freshId, (processPairDeclineInbound constCrypto (Bytes.replicate 32 1)
        (events.foldl (PairState.step constCrypto (Bytes.replicate 32 1)) s) (Bytes.replicate 32 3) d freshId).2 =
          events.foldl (PairState.step constCrypto (Bytes.replicate 32 1)) s :=
  pairing_group_never_rejected constCrypto (Bytes.replicate 32 1) _ (Bytes.replicate 32 3) _ rfl rfl (by decide)

end Promtuz
