import Promtuz.Lib.Bytes
import Promtuz.Lib.Table

namespace Promtuz

def KIND_DIRECT : UInt8 := 0

def KIND_GROUP : UInt8 := 1

def ROLE_MEMBER : UInt8 := 0

def ROLE_ADMIN : UInt8 := 1

/-- `mls::MAX_GROUP_MEMBERS`. -/
def MAX_GROUP_MEMBERS : Nat := 256

/-- `db::messages::ConversationRow`, with the columns the roster paths read. -/
structure ConversationRow where
  id : Bytes 16
  kind : UInt8
  mlsGroupId : Option (Bytes 32)
  deriving DecidableEq

/-- `db::messages::MemberRow`, keyed by `(conversation_id, member_ipk)`. -/
structure MemberRow where
  conversationId : Bytes 16
  memberIpk : Bytes 32
  role : UInt8
  active : Bool
  deriving DecidableEq

/-- The `conversations` and `conversation_members` tables. -/
structure ConversationsDb where
  conversations : List ConversationRow
  members : List MemberRow
  deriving DecidableEq

namespace Conversation

/-- The primary key `(conversation_id, member_ipk)` of `conversation_members`. -/
def memberKey (id : Bytes 16) (member : Bytes 32) (m : MemberRow) : Bool :=
  decide (m.conversationId = id ∧ m.memberIpk = member)

/-- `put_member`: insert, or on the key's conflict set `active = 1` and keep the role. -/
def putMember (db : ConversationsDb) (id : Bytes 16) (member : Bytes 32) (role : UInt8) : ConversationsDb :=
  if db.members.any (memberKey id member) then
    ⟨db.conversations, Table.update (memberKey id member) (fun m => { m with active := true }) db.members⟩
  else ⟨db.conversations, db.members ++ [⟨id, member, role, true⟩]⟩

/-- `find_direct`: the first direct conversation with a member row for `peer`, active or
not; the join's `LIMIT 1` is read in table order. -/
def findDirect (db : ConversationsDb) (peer : Bytes 32) : Option (Bytes 16) :=
  (db.conversations.find? fun c =>
    decide (c.kind = KIND_DIRECT) && db.members.any (memberKey c.id peer)).map
    ConversationRow.id

/-- `for_peer_tx`, with the id `mint_conversation_id` would mint passed in. -/
def forPeerTx (db : ConversationsDb) (peer : Bytes 32) (me : Option (Bytes 32)) (freshId : Bytes 16) :
    Bytes 16 × ConversationsDb :=
  match findDirect db peer with
  | some id => (id, match me with
      | some me => putMember db id me ROLE_MEMBER
      | none => db)
  | none =>
      let db := { db with conversations := db.conversations ++ [⟨freshId, KIND_DIRECT, none⟩] }
      let db := putMember db freshId peer ROLE_MEMBER
      (freshId, match me with
        | some me => putMember db freshId me ROLE_MEMBER
        | none => db)

/-- `for_group_tx`. -/
def forGroupTx (db : ConversationsDb) (groupId : Bytes 32) : Option (Bytes 16) :=
  (db.conversations.find? fun c => decide (c.mlsGroupId = some groupId)).map ConversationRow.id

/-- `peer_of_tx`: the first member row other than `me`, active or not. -/
def peerOfTx (db : ConversationsDb) (id : Bytes 16) (me : Option (Bytes 32)) : Option (Bytes 32) :=
  let me := me.getD (Bytes.replicate 32 0)
  (db.members.find? fun m => decide (m.conversationId = id ∧ m.memberIpk ≠ me)).map MemberRow.memberIpk

/-- `recipients_tx`: the active roster minus `me`. -/
def recipientsTx (db : ConversationsDb) (id : Bytes 16) (me : Option (Bytes 32)) : List (Bytes 32) :=
  let me := me.getD (Bytes.replicate 32 0)
  (db.members.filter fun m => decide (m.conversationId = id ∧ m.memberIpk ≠ me) && m.active).map
    MemberRow.memberIpk

/-- `sync_roster`: mark everyone departed, then put each member of the new roster. -/
def syncRoster (db : ConversationsDb) (id : Bytes 16) (members : List (Bytes 32)) : ConversationsDb :=
  let departed := Table.update (fun m => decide (m.conversationId = id)) (fun m => { m with active := false })
    db.members
  members.foldl (fun db m => putMember db id m ROLE_MEMBER) ⟨db.conversations, departed⟩

end Conversation

/-- The `StagedCommitMessage` arm of `process_application_inbound_for` on the conversation
side: refuse a commit past `MAX_GROUP_MEMBERS`, otherwise (after openmls merges it) sync the
roster of whatever conversation the group backs, direct or not. `roster` is the merged
group's member list, ourselves included. -/
def applyStagedCommit (db : ConversationsDb) (groupId : Bytes 32) (memberCount addProposals : Nat)
    (roster : List (Bytes 32)) : Except String ConversationsDb :=
  let size := memberCount + addProposals
  if MAX_GROUP_MEMBERS < size then
    .error s!"commit would take the group to {size} members, limit is {MAX_GROUP_MEMBERS}"
  else
    match Conversation.forGroupTx db groupId with
    | some conversation => .ok (Conversation.syncRoster db conversation roster)
    | none => .ok db

namespace Conversation

theorem putMember_conversations (db : ConversationsDb) (id : Bytes 16) (member : Bytes 32) (role : UInt8) :
    (putMember db id member role).conversations = db.conversations := by
  unfold putMember
  split <;> rfl

theorem active_putMember (db : ConversationsDb) (id : Bytes 16) (member : Bytes 32) (role : UInt8) :
    ∃ m ∈ (putMember db id member role).members, m.conversationId = id ∧ m.memberIpk = member ∧ m.active = true := by
  unfold putMember
  split
  · next hany =>
      obtain ⟨m, hm, hkey⟩ := List.any_eq_true.mp hany
      refine ⟨{ m with active := true }, ?_, ?_⟩
      · simpa [hkey] using Table.mem_update_of_mem (p := memberKey id member)
          (f := fun m => { m with active := true }) hm
      · simpa [memberKey] using hkey
  · exact ⟨⟨id, member, role, true⟩, by simp, rfl, rfl, rfl⟩

theorem active_of_putMember {db : ConversationsDb} {id i : Bytes 16} {member R : Bytes 32} {role : UInt8}
    (h : ∃ m ∈ db.members, m.conversationId = i ∧ m.memberIpk = R ∧ m.active = true) :
    ∃ m ∈ (putMember db id member role).members, m.conversationId = i ∧ m.memberIpk = R ∧ m.active = true := by
  obtain ⟨m, hm, hc, hr, ha⟩ := h
  unfold putMember
  split
  · refine ⟨_, Table.mem_update_of_mem hm, ?_⟩
    split <;> simp [hc, hr, ha]
  · exact ⟨m, List.mem_append_left _ hm, hc, hr, ha⟩

theorem foldl_putMember_conversations (id : Bytes 16) (members : List (Bytes 32)) (db₀ : ConversationsDb) :
    (members.foldl (fun db m => putMember db id m ROLE_MEMBER) db₀).conversations = db₀.conversations := by
  induction members generalizing db₀ with
  | nil => rfl
  | cons m rest ih => rw [List.foldl_cons, ih, putMember_conversations]

theorem active_foldl_putMember_of_active {id i : Bytes 16} {R : Bytes 32} (members : List (Bytes 32))
    {db₀ : ConversationsDb} (h : ∃ m ∈ db₀.members, m.conversationId = i ∧ m.memberIpk = R ∧ m.active = true) :
    ∃ m ∈ (members.foldl (fun db m => putMember db id m ROLE_MEMBER) db₀).members,
      m.conversationId = i ∧ m.memberIpk = R ∧ m.active = true := by
  induction members generalizing db₀ with
  | nil => exact h
  | cons m rest ih => exact ih (active_of_putMember h)

theorem active_foldl_putMember (id : Bytes 16) {R : Bytes 32} {members : List (Bytes 32)} (hR : R ∈ members)
    (db₀ : ConversationsDb) :
    ∃ m ∈ (members.foldl (fun db m => putMember db id m ROLE_MEMBER) db₀).members,
      m.conversationId = id ∧ m.memberIpk = R ∧ m.active = true := by
  induction members generalizing db₀ with
  | nil => cases hR
  | cons m rest ih =>
      rw [List.foldl_cons]
      rcases List.mem_cons.mp hR with rfl | hin
      -- `R` is put by this step, and the later puts keep its row active
      · exact active_foldl_putMember_of_active rest (active_putMember db₀ id R ROLE_MEMBER)
      · exact ih hin _

theorem syncRoster_conversations (db : ConversationsDb) (id : Bytes 16) (members : List (Bytes 32)) :
    (syncRoster db id members).conversations = db.conversations :=
  foldl_putMember_conversations id members _

theorem active_syncRoster (db : ConversationsDb) (id : Bytes 16) (members : List (Bytes 32))
    {R : Bytes 32} (hR : R ∈ members) :
    ∃ m ∈ (syncRoster db id members).members, m.conversationId = id ∧ m.memberIpk = R ∧ m.active = true :=
  active_foldl_putMember id hR _

theorem mem_recipientsTx {db : ConversationsDb} {id : Bytes 16} {me R : Bytes 32} (hne : R ≠ me)
    (h : ∃ m ∈ db.members, m.conversationId = id ∧ m.memberIpk = R ∧ m.active = true) :
    R ∈ recipientsTx db id (some me) := by
  obtain ⟨m, hm, hc, hr, ha⟩ := h
  exact List.mem_map.mpr ⟨m, List.mem_filter.mpr ⟨hm, by simp [hc, hr, ha, hne]⟩, hr⟩

end Conversation

/-- A commit on the MLS group a conversation is bound to rewrites that conversation's roster
to the commit's roster, direct chat or not: every member of the commit other than ourselves
becomes a recipient of what we send there. -/
theorem direct_chat_roster_follows_commit (db : ConversationsDb) (groupId : Bytes 32) (c : Bytes 16)
    (memberCount addProposals : Nat) (roster : List (Bytes 32)) (me : Bytes 32)
    (hc : Conversation.forGroupTx db groupId = some c)
    (hsize : memberCount + addProposals ≤ MAX_GROUP_MEMBERS) :
    applyStagedCommit db groupId memberCount addProposals roster = .ok (Conversation.syncRoster db c roster) ∧
      (Conversation.syncRoster db c roster).conversations = db.conversations ∧
      ∀ R ∈ roster, R ≠ me → R ∈ Conversation.recipientsTx (Conversation.syncRoster db c roster) c (some me) := by
  refine ⟨?_, Conversation.syncRoster_conversations db c roster, fun R hR hne =>
    Conversation.mem_recipientsTx hne (Conversation.active_syncRoster db c roster hR)⟩
  simp [applyStagedCommit, hc, Nat.not_lt.mpr hsize]

def directChat : ConversationsDb :=
  ⟨[⟨Bytes.replicate 16 1, KIND_DIRECT, some (Bytes.replicate 32 5)⟩],
    [⟨Bytes.replicate 16 1, Bytes.replicate 32 2, ROLE_MEMBER, true⟩,
      ⟨Bytes.replicate 16 1, Bytes.replicate 32 7, ROLE_MEMBER, true⟩]⟩

def addedStranger : List (Bytes 32) :=
  [Bytes.replicate 32 7, Bytes.replicate 32 2, Bytes.replicate 32 3]

theorem direct_chat_roster_follows_commit_add :
    Conversation.recipientsTx directChat ⟨List.replicate 16 1, by simp⟩ (some ⟨List.replicate 32 7, by simp⟩) =
        [⟨List.replicate 32 2, by simp⟩] ∧
      (applyStagedCommit directChat ⟨List.replicate 32 5, by simp⟩ 2 1 addedStranger =
          .ok (Conversation.syncRoster directChat ⟨List.replicate 16 1, by simp⟩ addedStranger) ∧
        (Conversation.syncRoster directChat ⟨List.replicate 16 1, by simp⟩ addedStranger).conversations =
          directChat.conversations ∧
        ∀ R ∈ addedStranger, R ≠ ⟨List.replicate 32 7, by simp⟩ →
          R ∈ Conversation.recipientsTx (Conversation.syncRoster directChat ⟨List.replicate 16 1, by simp⟩ addedStranger)
            ⟨List.replicate 16 1, by simp⟩ (some ⟨List.replicate 32 7, by simp⟩)) ∧
      Conversation.findDirect (Conversation.syncRoster directChat ⟨List.replicate 16 1, by simp⟩ addedStranger)
        ⟨List.replicate 32 3, by simp⟩ = some ⟨List.replicate 16 1, by simp⟩ :=
  ⟨by decide,
    direct_chat_roster_follows_commit directChat _ _ 2 1 addedStranger ⟨List.replicate 32 7, by simp⟩ rfl (by decide),
    by decide⟩

end Promtuz
