import Promtuz.Libcore.Message

namespace Promtuz

def MessageRow.ident (r : MessageRow) : Bytes 16 × Option (Bytes 32) × Bool × Option (List UInt8) :=
  (r.conversationId, r.senderIpk, r.outgoing, r.dispatchId)

/-- A step that rewrites the messages table by one `UPDATE` whose `WHERE` clause only selects
rows satisfying `sel`, and whose `SET` clause leaves `ident` alone. -/
def GuardedUpdate (sel : MessageRow → Prop) (old new : List MessageRow) : Prop :=
  ∃ guard : MessageRow → Bool, ∃ f : MessageRow → MessageRow,
    new = Table.update guard f old ∧ (∀ r, guard r = true → sel r) ∧ ∀ r, (f r).ident = r.ident

namespace GuardedUpdate

variable {sel : MessageRow → Prop} {old new : List MessageRow}

theorem refl (sel : MessageRow → Prop) (rows : List MessageRow) : GuardedUpdate sel rows rows :=
  ⟨fun _ => false, id, (Table.update_eq_self fun _ _ => rfl).symm, fun _ h => (Bool.false_ne_true h).elim,
    fun _ => rfl⟩

theorem changed (h : GuardedUpdate sel old new) {i : Nat} (hne : new[i]? ≠ old[i]?) :
    ∃ r, old[i]? = some r ∧ sel r := by
  obtain ⟨guard, f, rfl, hsel, -⟩ := h
  obtain ⟨r, hr, hg⟩ := Table.selected_of_update_ne hne
  exact ⟨r, hr, hsel r hg⟩

theorem ident_eq (h : GuardedUpdate sel old new) : new.map MessageRow.ident = old.map MessageRow.ident := by
  obtain ⟨guard, f, rfl, -, hf⟩ := h
  simp only [Table.update, List.map_map]
  refine List.map_congr_left fun r _ => ?_
  by_cases hg : guard r <;> simp [hg, hf]

theorem getElem?_ident (h : GuardedUpdate sel old new) (i : Nat) :
    new[i]?.map MessageRow.ident = old[i]?.map MessageRow.ident := by
  rw [← List.getElem?_map, ← List.getElem?_map, h.ident_eq]

end GuardedUpdate

theorem update_of_countP {guard : MessageRow → Bool} {f : MessageRow → MessageRow} {rows : List MessageRow}
    (db : MessagesDb) (h : rows = db.messages) :
    (if rows.countP guard = 0 then db else { db with messages := Table.update guard f rows }).messages =
      Table.update guard f db.messages := by
  subst h
  split
  · next hz =>
      exact (Table.update_eq_self fun r hr => by
        simpa using (List.countP_eq_zero.mp hz) r hr).symm
  · rfl

theorem Message.applyEdit_messages (db : MessagesDb) (conv : Bytes 16) (d : List UInt8) (content : String)
    (own : Bool) (author : Option (Bytes 32)) :
    (Message.applyEdit db conv d content own author).2.messages =
      Table.update (Message.editGuard conv d own author) (fun r => { r with content := content, edited := true })
        db.messages :=
  update_of_countP db rfl

theorem Message.applyDelete_messages (db : MessagesDb) (conv : Bytes 16) (d : List UInt8) (own : Bool)
    (author : Option (Bytes 32)) :
    (Message.applyDelete db conv d own author).2.messages =
      Table.update (Message.deleteGuard conv d own author)
        (fun r => { r with content := "", deleted := true, edited := false }) db.messages :=
  update_of_countP db rfl

theorem Media.applyRevise_messages (db : MessagesDb) (conv d : Bytes 16) (content : String)
    (media : Option MediaRow) (own : Bool) :
    (Media.applyRevise db conv d content media own).2.messages =
      Table.update (Media.reviseGuard conv d own) (fun r => { r with content := content, edited := true })
        db.messages := by
  by_cases hz : db.messages.countP (Media.reviseGuard conv d own) = 0
  · simp only [Media.applyRevise, hz, if_true]
    exact (Table.update_eq_self fun r hr => by simpa using (List.countP_eq_zero.mp hz) r hr).symm
  · simp only [Media.applyRevise, hz, if_false]

theorem applyReviseBody_cases (db : MessagesDb) (conv target : Bytes 16) (body : Body) (own : Bool) :
    (applyReviseBody db conv target body own).2 = db ∨
      ∃ content media, splitBody body = some (content, media) ∧
        (applyReviseBody db conv target body own).2 = (Media.applyRevise db conv target content media own).2 := by
  unfold applyReviseBody
  dsimp only
  split
  · exact .inl rfl
  · split
    · exact .inl rfl
    · next content media hsplit => exact .inr ⟨content, media, hsplit, rfl⟩

/-- Whether a payload's storage path checks `sender_ipk` against the author. -/
def EditPayload.checksAuthor : EditPayload → Bool
  | .edit .. | .delete .. => true
  | .revise .. => false

/-- What one inbound payload may select: a received row, and for `Edit` and `Delete` one
whose `sender_ipk` is the payload's author. -/
def EditPayload.mayTouch (p : EditPayload) (author : Bytes 32) (r : MessageRow) : Prop :=
  r.outgoing = false ∧ (p.checksAuthor = true → r.senderIpk = some author)

theorem editGuard_sel {conv : Bytes 16} {d : List UInt8} {author : Bytes 32} {r : MessageRow}
    (h : Message.editGuard conv d false (some author) r = true) :
    r.outgoing = false ∧ r.senderIpk = some author := by
  simp only [Message.editGuard, Message.authorMatches, Bool.and_eq_true, decide_eq_true_eq] at h
  exact ⟨h.1.1.2, h.2⟩

theorem deleteGuard_sel {conv : Bytes 16} {d : List UInt8} {author : Bytes 32} {r : MessageRow}
    (h : Message.deleteGuard conv d false (some author) r = true) :
    r.outgoing = false ∧ r.senderIpk = some author := by
  simp only [Message.deleteGuard, Message.authorMatches, Bool.and_eq_true, decide_eq_true_eq] at h
  exact ⟨h.1.2, h.2⟩

theorem reviseGuard_sel {conv d : Bytes 16} {r : MessageRow} (h : Media.reviseGuard conv d false r = true) :
    r.outgoing = false := by
  simp only [Media.reviseGuard, Bool.and_eq_true, decide_eq_true_eq] at h
  exact h.1.2

theorem processEditPayload_guarded (db : MessagesDb) (conv : Bytes 16) (author : Bytes 32) (p : EditPayload) :
    GuardedUpdate (p.mayTouch author) db.messages (processEditPayload db conv author p).messages := by
  cases p with
  | edit target content =>
      refine ⟨_, _, Message.applyEdit_messages db conv target.1 content false (some author), ?_, fun _ => rfl⟩
      intro r hr
      exact ⟨(editGuard_sel hr).1, fun _ => (editGuard_sel hr).2⟩
  | delete target =>
      refine ⟨_, _, Message.applyDelete_messages db conv target.1 false (some author), ?_, fun _ => rfl⟩
      intro r hr
      exact ⟨(deleteGuard_sel hr).1, fun _ => (deleteGuard_sel hr).2⟩
  | revise target body =>
      rcases applyReviseBody_cases db conv target body false with h | ⟨content, media, -, h⟩
      · simp only [processEditPayload, h]
        exact GuardedUpdate.refl _ _
      · simp only [processEditPayload, h]
        refine ⟨_, _, Media.applyRevise_messages db conv target content media false, ?_, fun _ => rfl⟩
        intro r hr
        exact ⟨reviseGuard_sel hr, fun hc => by cases hc⟩

/-- Over every run of inbound `Edit`, `Revise` and `Delete` payloads, in any conversations and
from any authors: each row keeps its conversation, sender, direction and id; our own rows
never change; and when no payload is a `Revise`, a row changes only if a payload came from
its sender. -/
theorem inbound_edits_respect_own_rows (db : MessagesDb) (steps : List (Bytes 16 × Bytes 32 × EditPayload))
    (i : Nat) (r : MessageRow) (hr : db.messages[i]? = some r) :
    (processEditPayloads db steps).messages[i]?.map MessageRow.ident = some r.ident ∧
      (r.outgoing = true → (processEditPayloads db steps).messages[i]? = some r) ∧
      ((∀ s ∈ steps, s.2.2.checksAuthor = true) → (processEditPayloads db steps).messages[i]? ≠ some r →
        ∃ s ∈ steps, r.senderIpk = some s.2.1) := by
  induction steps generalizing db r with
  | nil => exact ⟨by simp [processEditPayloads, hr], fun _ => by simpa [processEditPayloads] using hr,
      fun _ hne => absurd (by simpa [processEditPayloads] using hr) hne⟩
  | cons s rest ih =>
      obtain ⟨conv, author, p⟩ := s
      set db' := processEditPayload db conv author p
      have hg := processEditPayload_guarded db conv author p
      -- the first step either leaves row `i` alone or selected it
      by_cases hsame : db'.messages[i]? = some r
      · obtain ⟨hident, hown, hauth⟩ := ih db' r hsame
        refine ⟨hident, hown, fun hall hne => ?_⟩
        obtain ⟨s, hs, hsender⟩ := hauth (fun s hs => hall s (List.mem_cons_of_mem _ hs)) hne
        exact ⟨s, List.mem_cons_of_mem _ hs, hsender⟩
      · obtain ⟨r₀, hr₀, htouch⟩ := hg.changed (by rwa [hr])
        rw [hr] at hr₀
        cases hr₀
        have hid : db'.messages[i]?.map MessageRow.ident = some r.ident := by
          rw [hg.getElem?_ident, hr]
          rfl
        obtain ⟨r', hr', hrid⟩ := Option.map_eq_some_iff.mp hid
        refine ⟨?_, fun hout => ?_, fun hall _ => ?_⟩
        · rw [← hrid]
          exact (ih db' r' hr').1
        · rw [htouch.1] at hout
          cases hout
        · exact ⟨(conv, author, p), List.mem_cons_self, htouch.2 (hall _ List.mem_cons_self)⟩

/-- A received text message gives way to a `Revise` from whichever member sends one: the
revise path asks only `outgoing = 0`, so the row keeps its `sender_ipk` and takes the new
author's words. -/
theorem revise_rewrites_other_members_message (db : MessagesDb) (conv : Bytes 16) (author : Bytes 32)
    (target : Bytes 16) (content : String) (r : MessageRow) (hr : r ∈ db.messages)
    (hkey : r.conversationId = conv ∧ r.dispatchId = some target.1) (hin : r.outgoing = false)
    (hlive : r.deleted = false) (hnomedia : Media.get db conv target = none) :
    { r with content := content, edited := true } ∈
      (processEditPayload db conv author (.revise target (.text content))).messages := by
  have hguard : Media.reviseGuard conv target false r = true := by
    simp [Media.reviseGuard, Message.targets, hkey.1, hkey.2, hin, hlive]
  have hrev : (applyReviseBody db conv target (.text content) false).2 =
      (Media.applyRevise db conv target content none false).2 := by
    simp [applyReviseBody, hnomedia, BodyKind.stored, BodyKind.of, BodyKind.revisableTo, splitBody]
  simp only [processEditPayload, hrev, Media.applyRevise_messages]
  simpa [hguard] using Table.mem_update_of_mem (p := Media.reviseGuard conv target false)
    (f := fun r => { r with content := content, edited := true }) hr

def groupMessage : MessageRow :=
  ⟨Bytes.replicate 16 9, some (Bytes.replicate 32 2), "see you at eight", false,
    some (List.replicate 16 4), false, false⟩

def groupChat : MessagesDb := ⟨[groupMessage], []⟩

theorem revise_rewrites_other_members_message_group :
    groupChat.messages.head?.map MessageRow.senderIpk = some (some ⟨List.replicate 32 2, by simp⟩) ∧
      (processEditPayload groupChat ⟨List.replicate 16 9, by simp⟩ ⟨List.replicate 32 3, by simp⟩
        (.edit ⟨List.replicate 16 4, by simp⟩ "cancelled")).messages = groupChat.messages ∧
      ⟨⟨List.replicate 16 9, by simp⟩, some ⟨List.replicate 32 2, by simp⟩, "cancelled", false,
          some (List.replicate 16 4), true, false⟩ ∈
        (processEditPayload groupChat ⟨List.replicate 16 9, by simp⟩ ⟨List.replicate 32 3, by simp⟩
          (.revise ⟨List.replicate 16 4, by simp⟩ (.text "cancelled"))).messages :=
  ⟨rfl, by decide,
    revise_rewrites_other_members_message groupChat _ ⟨List.replicate 32 3, by simp⟩ ⟨List.replicate 16 4, by simp⟩
      "cancelled" _ List.mem_cons_self ⟨rfl, rfl⟩ rfl rfl rfl⟩

def strangerEdits : List (Bytes 16 × Bytes 32 × EditPayload) :=
  [(Bytes.replicate 16 9, Bytes.replicate 32 3, .edit (Bytes.replicate 16 4) "x"),
    (Bytes.replicate 16 9, Bytes.replicate 32 3, .delete (Bytes.replicate 16 4))]

theorem inbound_edits_respect_own_rows_group :
    groupChat.messages[0]? = some groupMessage ∧
      ((processEditPayloads groupChat strangerEdits).messages[0]?.map MessageRow.ident = some groupMessage.ident ∧
        (groupMessage.outgoing = true →
          (processEditPayloads groupChat strangerEdits).messages[0]? = some groupMessage) ∧
        ((∀ s ∈ strangerEdits, s.2.2.checksAuthor = true) →
          (processEditPayloads groupChat strangerEdits).messages[0]? ≠ some groupMessage →
          ∃ s ∈ strangerEdits, groupMessage.senderIpk = some s.2.1)) :=
  ⟨rfl, inbound_edits_respect_own_rows groupChat strangerEdits 0 groupMessage rfl⟩

end Promtuz
