import Promtuz.Libcore.Authorship

/-! The message arms of `process_deliver` taken together: `Edit`, `Revise` and `Delete` rewrite the
stored message (`Message::apply_edit`, `media::apply_revise`, `Message::apply_delete`), and `React`
upserts or deletes one reaction row (`Reaction::apply`). A member processes the payloads one at a
time in the order they are delivered, live or from a queue drain; the relay's `accepted_at` of
each payload reaches only the reaction row's `timestamp` column, which nothing compares. -/

namespace Promtuz

/-- `db::messages::ReactionRow`. -/
structure ReactionRow where
  conversationId : Bytes 16
  dispatchId : List UInt8
  reactor : Bytes 32
  emoji : String
  timestamp : UInt64
  deriving DecidableEq

/-- The primary key `(conversation_id, dispatch_id, reactor, emoji)`. -/
def ReactionRow.key (r : ReactionRow) : Bytes 16 × List UInt8 × Bytes 32 × String :=
  (r.conversationId, r.dispatchId, r.reactor, r.emoji)

namespace Reaction

/-- `Reaction::apply`: `INSERT OR REPLACE` of the pair for `add`, `DELETE` of it otherwise; `true`
when a row changed. The timestamp is stored and never compared. -/
def apply (rows : List ReactionRow) (conversationId : Bytes 16) (dispatchId : List UInt8) (reactor : Bytes 32)
    (emoji : String) (add : Bool) (timestamp : UInt64) : Bool × List ReactionRow :=
  if add then (true, Table.replace ReactionRow.key ⟨conversationId, dispatchId, reactor, emoji, timestamp⟩ rows)
  else
    let hit := fun r : ReactionRow => decide (r.key = (conversationId, dispatchId, reactor, emoji))
    (decide (0 < rows.countP hit), Table.delete hit rows)

end Reaction

/-- The tables of one member's messages database that `process_deliver`'s message arms write. -/
structure MemberDb where
  db : MessagesDb
  reactions : List ReactionRow

inductive TargetPayload where
  | rewrite (p : EditPayload)
  | react (target : Bytes 16) (emoji : String) (add : Bool)

/-- One delivered payload: its conversation, its MLS author, and the relay's `accepted_at_ms`. -/
structure Delivered where
  conv : Bytes 16
  author : Bytes 32
  acceptedAtMs : UInt64
  payload : TargetPayload

/-- `accepted_at_secs`: the relay's acceptance time in seconds, clamped to the member's clock. -/
def acceptedAtSecs (acceptedAtMs nowSecs : UInt64) : UInt64 := min (acceptedAtMs / 1000) nowSecs

/-- The `Edit`, `Revise`, `Delete` and `React` arms of `process_deliver`. -/
def processDelivered (nowSecs : UInt64) (m : MemberDb) (d : Delivered) : MemberDb :=
  match d.payload with
  | .rewrite p => { m with db := processEditPayload m.db d.conv d.author p }
  | .react target emoji add =>
      { m with reactions :=
          (Reaction.apply m.reactions d.conv target.1 d.author emoji add (acceptedAtSecs d.acceptedAtMs nowSecs)).2 }

/-- A member processing payloads in the order they are delivered. -/
def processAll (nowSecs : UInt64) (m : MemberDb) (ds : List Delivered) : MemberDb :=
  ds.foldl (processDelivered nowSecs) m

section Orders

variable {nowSecs : UInt64} {m : MemberDb} {conv target : Bytes 16} {author : Bytes 32}

theorem applyEdit_applyEdit_messages (db : MessagesDb) (c₁ c₂ : String) :
    (Message.applyEdit (Message.applyEdit db conv target.1 c₁ false (some author)).2 conv target.1 c₂ false
        (some author)).2.messages =
      Table.update (Message.editGuard conv target.1 false (some author))
        (fun r => { r with content := c₂, edited := true }) db.messages := by
  rw [Message.applyEdit_messages, Message.applyEdit_messages, Table.update_update]
  · rfl
  · -- the guard reads no column the edit writes
    exact fun _ hr => hr

theorem react_orders (rows : List ReactionRow) (dispatchId : List UInt8) (emoji : String) (ts₁ ts₂ : UInt64) :
    ⟨conv, dispatchId, author, emoji, ts₁⟩ ∈
        (Reaction.apply (Reaction.apply rows conv dispatchId author emoji false ts₂).2 conv dispatchId author emoji
          true ts₁).2 ∧
      ∀ r ∈ (Reaction.apply (Reaction.apply rows conv dispatchId author emoji true ts₁).2 conv dispatchId author
          emoji false ts₂).2, r.key ≠ (conv, dispatchId, author, emoji) := by
  refine ⟨Table.mem_replace.2 (.inr rfl), fun r hr hkey => ?_⟩
  simp only [Reaction.apply, if_true, Bool.false_eq_true, if_false, Table.mem_delete] at hr
  simp [hkey] at hr

/-- Two payloads, delivered in either order: two edits of a live message by its author leave
whichever arrived last, whatever their `accepted_at` says, and an added and a removed reaction
leave the row or not by arrival order. -/
theorem delivery_order_diverges (nowSecs : UInt64) (m : MemberDb) (conv target : Bytes 16) (author : Bytes 32)
    (c₁ c₂ emoji : String) (t₁ t₂ : UInt64)
    (hlive : ∃ r ∈ m.db.messages, Message.editGuard conv target.1 false (some author) r = true) (hne : c₁ ≠ c₂) :
    (processAll nowSecs m [⟨conv, author, t₁, .rewrite (.edit target c₁)⟩,
        ⟨conv, author, t₂, .rewrite (.edit target c₂)⟩]).db.messages ≠
      (processAll nowSecs m [⟨conv, author, t₂, .rewrite (.edit target c₂)⟩,
        ⟨conv, author, t₁, .rewrite (.edit target c₁)⟩]).db.messages ∧
    (processAll nowSecs m [⟨conv, author, t₁, .react target emoji true⟩,
        ⟨conv, author, t₂, .react target emoji false⟩]).reactions ≠
      (processAll nowSecs m [⟨conv, author, t₂, .react target emoji false⟩,
        ⟨conv, author, t₁, .react target emoji true⟩]).reactions := by
  constructor
  · simp only [processAll, List.foldl_cons, List.foldl_nil, processDelivered, processEditPayload]
    rw [applyEdit_applyEdit_messages, applyEdit_applyEdit_messages]
    obtain ⟨r, hr, hg⟩ := hlive
    exact Table.update_ne_of_selected hr hg fun h => hne (congrArg MessageRow.content h).symm
  · simp only [processAll, List.foldl_cons, List.foldl_nil, processDelivered]
    obtain ⟨hin, hout⟩ := @react_orders conv author m.reactions target.1 emoji (acceptedAtSecs t₁ nowSecs)
      (acceptedAtSecs t₂ nowSecs)
    intro h
    exact hout _ (h ▸ hin) rfl

end Orders

theorem delivery_order_diverges_group :
    (∃ r ∈ (⟨groupChat, []⟩ : MemberDb).db.messages,
        Message.editGuard (Bytes.replicate 16 9) (Bytes.replicate 16 4).1 false (some (Bytes.replicate 32 2)) r = true) ∧
      "at eight" ≠ "at nine" ∧
      (processAll 100 ⟨groupChat, []⟩ [⟨Bytes.replicate 16 9, Bytes.replicate 32 2, 1000, .rewrite (.edit (Bytes.replicate 16 4) "at eight")⟩,
          ⟨Bytes.replicate 16 9, Bytes.replicate 32 2, 2000, .rewrite (.edit (Bytes.replicate 16 4) "at nine")⟩]).db.messages ≠
        (processAll 100 ⟨groupChat, []⟩ [⟨Bytes.replicate 16 9, Bytes.replicate 32 2, 2000, .rewrite (.edit (Bytes.replicate 16 4) "at nine")⟩,
          ⟨Bytes.replicate 16 9, Bytes.replicate 32 2, 1000, .rewrite (.edit (Bytes.replicate 16 4) "at eight")⟩]).db.messages ∧
      (processAll 100 ⟨groupChat, []⟩ [⟨Bytes.replicate 16 9, Bytes.replicate 32 2, 1000, .react (Bytes.replicate 16 4) "+1" true⟩,
          ⟨Bytes.replicate 16 9, Bytes.replicate 32 2, 2000, .react (Bytes.replicate 16 4) "+1" false⟩]).reactions ≠
        (processAll 100 ⟨groupChat, []⟩ [⟨Bytes.replicate 16 9, Bytes.replicate 32 2, 2000, .react (Bytes.replicate 16 4) "+1" false⟩,
          ⟨Bytes.replicate 16 9, Bytes.replicate 32 2, 1000, .react (Bytes.replicate 16 4) "+1" true⟩]).reactions :=
  have hlive : ∃ r ∈ (⟨groupChat, []⟩ : MemberDb).db.messages,
      Message.editGuard (Bytes.replicate 16 9) (Bytes.replicate 16 4).1 false (some (Bytes.replicate 32 2)) r = true :=
    ⟨groupMessage, List.mem_cons_self, by decide⟩
  have hne : "at eight" ≠ "at nine" := by decide
  ⟨hlive, hne, delivery_order_diverges 100 ⟨groupChat, []⟩ (Bytes.replicate 16 9) (Bytes.replicate 16 4)
    (Bytes.replicate 32 2) "at eight" "at nine" "+1" 1000 2000 hlive hne⟩

end Promtuz
