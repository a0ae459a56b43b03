import Promtuz.Common.Wire
import Promtuz.Libcore.EpochCatchup
import Promtuz.Lib.Table
import Promtuz.Lib.Reach

/-! The delivery dedup ledger (`data::seen`) and the gate of `quic::server::process_deliver` in
front of it. A dispatch is stored at K home relays, and a reconnect to another home redelivers
it; decrypting it twice would reuse a spent ratchet key. So `process_deliver` checks the dispatch
signature, asks the ledger whether `(sender, dispatch_id)` was already handled (and then acks
without decrypting), refuses strangers' non-Welcome envelopes, hands the rest to
`process_inbound_envelope`, and records the dispatch when that call ends in one of the outcomes
it records.

What `process_inbound_envelope` (openmls), `conversation_for_inbound`, the contacts tables and the
payload arms answer for a frame are inputs of the frame. The log `opened` is not in the source:
it records each call to `process_inbound_envelope`, so that statements can speak of them. -/

namespace Promtuz

def DISPATCH_SIG_DOMAIN : List UInt8 := "promtuz-dispatch-v1".toUTF8.toList

/-- `client_rel::dispatch_sig_message`:
`DISPATCH_SIG_DOMAIN || PROTOCOL_VERSION_BE || to || from || id || payload`. -/
def dispatchSigMessage (toIpk fromIpk : Bytes 32) (id : Bytes 16) (payload : List UInt8) : List UInt8 :=
  DISPATCH_SIG_DOMAIN ++ Bytes.toBeBytes 2 PROTOCOL_VERSION.toNat ++ toIpk.1 ++ fromIpk.1 ++ id.1 ++ payload

/-- `verify_dispatch_sig`; `verifyStrict` also stands for `VerifyingKey::from_bytes`. -/
def verifyDispatchSig (crypto : Crypto) (ourIpk : Bytes 32) (msg : DeliverP) : Bool :=
  crypto.verifyStrict msg.from.1 (dispatchSigMessage ourIpk msg.from msg.id msg.payload) msg.sig.1

/-- A row of `seen_dispatch`, whose primary key is `(sender_ipk, dispatch_id)`. -/
structure SeenRow where
  senderIpk : Bytes 32
  dispatchId : Bytes 16
  seenAt : Nat
  deriving DecidableEq

def SeenRow.key (r : SeenRow) : Bytes 32 × Bytes 16 := (r.senderIpk, r.dispatchId)

namespace Seen

/-- `Seen::contains`: `SELECT 1 FROM seen_dispatch WHERE sender_ipk = ?1 AND dispatch_id = ?2`. -/
def contains (sender : Bytes 32) (dispatchId : Bytes 16) (rows : List SeenRow) : Bool :=
  Table.hasKey SeenRow.key (sender, dispatchId) rows

/-- `Seen::record`: `INSERT OR IGNORE INTO seen_dispatch`, its error dropped. -/
def record (sender : Bytes 32) (dispatchId : Bytes 16) (nowSecs : Nat) (rows : List SeenRow) : List SeenRow :=
  Table.insertOrIgnore SeenRow.key ⟨sender, dispatchId, nowSecs⟩ rows

theorem contains_record (sender s : Bytes 32) (dispatchId d : Bytes 16) (nowSecs : Nat) (rows : List SeenRow) :
    contains s d (record sender dispatchId nowSecs rows) =
      (contains s d rows || decide ((sender, dispatchId) = (s, d))) :=
  Table.hasKey_insertOrIgnore _ _

theorem mem_record {sender : Bytes 32} {dispatchId : Bytes 16} {nowSecs : Nat} {rows : List SeenRow}
    {r : SeenRow} (h : r ∈ record sender dispatchId nowSecs rows) :
    r ∈ rows ∨ r.key = (sender, dispatchId) := by
  rcases Table.mem_insertOrIgnore.1 h with h | ⟨rfl, -⟩
  · exact .inl h
  · exact .inr rfl

end Seen

/-- `messaging::InboundDecoded` in full: a Welcome accepted or refused, a decline applied, or
what the application path returns, `InboundDecoded`. -/
inductive InboundOutcome where
  | welcome
  | welcomeRejected (senderIpk : Bytes 32) (reason : UInt8)
  | pairDeclined
  | application (d : InboundDecoded)
  deriving DecidableEq

/-- The outcomes after which `process_deliver` records the dispatch: a decrypted application
message, and every end of a Welcome or a decline. -/
def InboundOutcome.recorded : InboundOutcome → Bool
  | .application (.application _ _ _) => true
  | .application _ => false
  | _ => true

/-- Whether a call to `process_inbound_envelope` ended in a recorded outcome. -/
def settles : Except String (Option InboundOutcome) → Bool
  | .ok (some o) => o.recorded
  | _ => false

/-- What `process_deliver` runs with: our identity key, the signature check, and the postcard
decode behind `is_welcome_envelope`. -/
structure DeliverCtx where
  crypto : Crypto
  ourIpk : Bytes 32
  isWelcomeEnvelope : List UInt8 → Bool

/-- One frame handed to `process_deliver`, live or in a drain, with what the calls it makes answer
for it: whether the sender has standing (`Contact::exists` or `Conversation::shares_a_chat_with`),
what `process_inbound_envelope` returns, what `conversation_for_inbound` resolves, how the
payload arm of a decrypted message ends (`bad content payload`, `save failed: ..`, ..), and
whether the `INSERT` of `Seen::record` succeeds, whose error is dropped. -/
structure DeliverFrame where
  msg : DeliverP
  nowSecs : Nat
  standing : Bool
  inbound : Except String (Option InboundOutcome)
  conversation : Except String (Bytes 16)
  payloadArm : Except String Unit
  recordOk : Bool

/-- The ledger, and the log of the calls to `process_inbound_envelope` with their answers. -/
structure Inbox where
  seen : List SeenRow
  opened : List (DeliverP × Except String (Option InboundOutcome))

def Inbox.empty : Inbox := ⟨[], []⟩

/-- The call to `process_inbound_envelope` on the frame. -/
def Inbox.opening (st : Inbox) (f : DeliverFrame) : Inbox :=
  { st with opened := st.opened ++ [(f.msg, f.inbound)] }

/-- `Seen::record(&msg.from, &msg.id.0, systime().as_secs())`, which drops a failed `INSERT`. -/
def Inbox.recording (st : Inbox) (f : DeliverFrame) : Inbox :=
  if f.recordOk then { st with seen := Seen.record f.msg.from f.msg.id f.nowSecs st.seen } else st

/-- The `match result` of `process_deliver`. A decrypted message is recorded once its
conversation resolves, before its payload arm runs; a buffered, stale, undecryptable or
groupless message is acked unrecorded. -/
def afterInbound (f : DeliverFrame) (st : Inbox) : Except String Unit × Inbox :=
  match f.inbound with
  | .ok (some (.application (.application _ _ _))) =>
      match f.conversation with
      | .error _ => (.error "no conversation for inbound envelope", st)
      | .ok _ => (f.payloadArm, st.recording f)
  | .ok (some (.application _)) => (.ok (), st)
  | .ok (some _) => (.ok (), st.recording f)
  | .ok none => (.error "no inbound action", st)
  | .error e => (.error ("process failed: " ++ e), st)

/-- `process_deliver`: the result (`Ok` is what the caller acks) and the state after it. -/
def processDeliver (cx : DeliverCtx) (f : DeliverFrame) (st : Inbox) : Except String Unit × Inbox :=
  if !verifyDispatchSig cx.crypto cx.ourIpk f.msg then (.error "bad dispatch signature", st)
  -- a home redelivering a dispatch already handled: ack, never decrypt again
  else if Seen.contains f.msg.from f.msg.id st.seen then (.ok (), st)
  else if !cx.isWelcomeEnvelope f.msg.payload && !f.standing then (.error "unknown sender", st)
  else afterInbound f (st.opening f)

def Inbox.run (cx : DeliverCtx) (frames : List DeliverFrame) (st : Inbox) : Inbox :=
  frames.foldl (fun st f => (processDeliver cx f st).2) st

def DeliverFrame.key (f : DeliverFrame) : Bytes 32 × Bytes 16 := (f.msg.from, f.msg.id)

/-- A frame whose signature verifies, which passes the unknown-sender gate (a Welcome envelope,
or a sender with standing), and whose envelope `process_inbound_envelope` settles. -/
def DeliverFrame.sound (cx : DeliverCtx) (f : DeliverFrame) : Bool :=
  verifyDispatchSig cx.crypto cx.ourIpk f.msg && (cx.isWelcomeEnvelope f.msg.payload || f.standing) &&
    settles f.inbound

section Step

variable {c : DeliverCtx} {f : DeliverFrame} {s : Inbox}

@[simp] theorem Inbox.opening_seen : (s.opening f).seen = s.seen := rfl

@[simp] theorem Inbox.opening_opened : (s.opening f).opened = s.opened ++ [(f.msg, f.inbound)] := rfl

theorem Inbox.recording_seen :
    (s.recording f).seen = if f.recordOk then Seen.record f.msg.from f.msg.id f.nowSecs s.seen else s.seen := by
  unfold Inbox.recording
  split <;> rfl

@[simp] theorem Inbox.recording_seen_of_ok (h : f.recordOk = true) :
    (s.recording f).seen = Seen.record f.msg.from f.msg.id f.nowSecs s.seen := by
  simp [Inbox.recording_seen, h]

@[simp] theorem Inbox.recording_opened : (s.recording f).opened = s.opened := by
  unfold Inbox.recording
  split <;> rfl

theorem processDeliver_of_forged (h : verifyDispatchSig c.crypto c.ourIpk f.msg = false) :
    processDeliver c f s = (.error "bad dispatch signature", s) := by
  simp [processDeliver, h]

theorem processDeliver_of_seen (hv : verifyDispatchSig c.crypto c.ourIpk f.msg = true)
    (hs : Seen.contains f.msg.from f.msg.id s.seen = true) :
    processDeliver c f s = (.ok (), s) := by
  simp [processDeliver, hv, hs]

theorem processDeliver_of_stranger (hv : verifyDispatchSig c.crypto c.ourIpk f.msg = true)
    (hs : Seen.contains f.msg.from f.msg.id s.seen = false)
    (hw : c.isWelcomeEnvelope f.msg.payload = false) (hst : f.standing = false) :
    processDeliver c f s = (.error "unknown sender", s) := by
  simp [processDeliver, hv, hs, hw, hst]

theorem processDeliver_of_open (hv : verifyDispatchSig c.crypto c.ourIpk f.msg = true)
    (hs : Seen.contains f.msg.from f.msg.id s.seen = false)
    (hgate : (c.isWelcomeEnvelope f.msg.payload || f.standing) = true) :
    processDeliver c f s = afterInbound f (s.opening f) := by
  have hgate' : (!c.isWelcomeEnvelope f.msg.payload && !f.standing) = false := by
    rw [← Bool.not_or, hgate, Bool.not_true]
  simp only [processDeliver, hv, hs, hgate', Bool.not_true, Bool.false_eq_true, if_false]

@[simp] theorem afterInbound_opened : (afterInbound f s).2.opened = s.opened := by
  unfold afterInbound
  split
  · split <;> simp only [Inbox.recording_opened]
  all_goals simp only [Inbox.recording_opened]

theorem afterInbound_seen :
    ((afterInbound f s).2.seen = s.seen ∨
      (settles f.inbound = true ∧ (afterInbound f s).2.seen = (s.recording f).seen)) ∧
    (settles f.inbound = true → f.conversation.isOk = true →
      (afterInbound f s).2.seen = (s.recording f).seen) := by
  -- one case per answer of `process_inbound_envelope`
  rcases hin : f.inbound with e | _ | o
  · simp [afterInbound, hin, settles]
  · simp [afterInbound, hin, settles]
  · cases o
    case application d =>
      cases d
      case application p g a =>
        cases hc : f.conversation <;> simp [afterInbound, hin, hc, settles, InboundOutcome.recorded, Except.isOk, Except.toBool]
      all_goals simp [afterInbound, hin, settles, InboundOutcome.recorded]
    all_goals simp [afterInbound, hin, settles, InboundOutcome.recorded]

theorem processDeliver_snd_cases :
    (processDeliver c f s).2 = s ∨
      (verifyDispatchSig c.crypto c.ourIpk f.msg = true ∧
        Seen.contains f.msg.from f.msg.id s.seen = false ∧
        (c.isWelcomeEnvelope f.msg.payload || f.standing) = true ∧
        (processDeliver c f s).2 = (afterInbound f (s.opening f)).2) := by
  cases hv : verifyDispatchSig c.crypto c.ourIpk f.msg
  · simp [processDeliver_of_forged hv]
  cases hs : Seen.contains f.msg.from f.msg.id s.seen
  · cases hg : (c.isWelcomeEnvelope f.msg.payload || f.standing)
    · have ⟨hw, hst⟩ : c.isWelcomeEnvelope f.msg.payload = false ∧ f.standing = false := by
        simpa using hg
      simp [processDeliver_of_stranger hv hs hw hst]
    · exact .inr ⟨rfl, rfl, rfl, by rw [processDeliver_of_open hv hs hg]⟩
  · simp [processDeliver_of_seen hv hs]

theorem opened_prefix_processDeliver : s.opened <+: (processDeliver c f s).2.opened := by
  rcases processDeliver_snd_cases (c := c) (f := f) (s := s) with h | ⟨-, -, -, h⟩
  · rw [h]
  · rw [h, afterInbound_opened, Inbox.opening_opened]
    exact List.prefix_append _ _

theorem mem_processDeliver_seen {r : SeenRow} (hr : r ∈ (processDeliver c f s).2.seen) :
    r ∈ s.seen ∨ (r.key = f.key ∧ f.sound c = true ∧ (f.msg, f.inbound) ∈ (processDeliver c f s).2.opened) := by
  rcases processDeliver_snd_cases (c := c) (f := f) (s := s) with h | ⟨hv, -, hgate, h⟩
  · exact .inl (h ▸ hr)
  rw [h] at hr ⊢
  rcases (afterInbound_seen (f := f) (s := s.opening f)).1 with hs | ⟨hset, hs⟩
  · exact .inl (by simpa [hs] using hr)
  · rw [hs, Inbox.recording_seen, Inbox.opening_seen] at hr
    -- a failed `INSERT` leaves the ledger as it was
    split at hr
    · rcases Seen.mem_record hr with hr | hk
      · exact .inl hr
      · exact .inr ⟨hk, by simp [DeliverFrame.sound, hv, hgate, hset], by simp⟩
    · exact .inl hr

theorem contains_afterInbound {k : Bytes 32 × Bytes 16} (h : Seen.contains k.1 k.2 s.seen = true) :
    Seen.contains k.1 k.2 (afterInbound f s).2.seen = true := by
  rcases (afterInbound_seen (f := f) (s := s)).1 with hs | ⟨-, hs⟩
  · rwa [hs]
  · rw [hs, Inbox.recording_seen]
    split
    · simp [Seen.contains_record, h]
    · exact h

end Step

section Run

variable (cx : DeliverCtx)

@[simp] theorem Inbox.run_nil (st : Inbox) : Inbox.run cx [] st = st := rfl

@[simp] theorem Inbox.run_cons (f : DeliverFrame) (frames : List DeliverFrame) (st : Inbox) :
    Inbox.run cx (f :: frames) st = Inbox.run cx frames (processDeliver cx f st).2 := rfl

theorem opened_prefix_run (frames : List DeliverFrame) (st : Inbox) :
    st.opened <+: (Inbox.run cx frames st).opened := by
  induction frames generalizing st with
  | nil => exact List.prefix_refl _
  | cons f frames ih => exact opened_prefix_processDeliver.trans (ih _)

theorem keys_run_subset (frames : List DeliverFrame) (st : Inbox) :
    ∀ k ∈ (Inbox.run cx frames st).seen.map SeenRow.key, k ∈ st.seen.map SeenRow.key ∨
      ∃ f ∈ frames, f.key = k ∧ f.sound cx = true ∧ (f.msg, f.inbound) ∈ (Inbox.run cx frames st).opened := by
  -- induction on the frames, from any state
  induction frames generalizing st with
  | nil => exact fun k hk => .inl hk
  | cons f frames ih =>
      intro k hk
      rw [Inbox.run_cons] at hk ⊢
      rcases ih _ k hk with hk | ⟨f', hf', hkey, hsound, hopen⟩
      · obtain ⟨r, hr, rfl⟩ := List.mem_map.1 hk
        rcases mem_processDeliver_seen hr with hr | ⟨hkey, hsound, hopen⟩
        · exact .inl (List.mem_map_of_mem hr)
        -- the frame's call stays in the log for the rest of the run
        · exact .inr ⟨f, List.mem_cons_self, hkey.symm, hsound, (opened_prefix_run cx frames _).subset hopen⟩
      · exact .inr ⟨f', List.mem_cons_of_mem _ hf', hkey, hsound, hopen⟩

/-- The ledger holds only dispatches of frames whose signature verified, which passed the
unknown-sender gate and whose envelope `process_inbound_envelope` was handed and settled: no
forged, stranger's, failed or undecryptable frame makes the client skip a dispatch. -/
theorem seen_only_sound_frames (frames : List DeliverFrame) :
    ∀ k ∈ (Inbox.run cx frames Inbox.empty).seen.map SeenRow.key,
      ∃ f ∈ frames, f.key = k ∧ f.sound cx = true ∧ (f.msg, f.inbound) ∈ (Inbox.run cx frames Inbox.empty).opened := by
  intro k hk
  rcases keys_run_subset cx frames Inbox.empty k hk with hk | h
  · exact absurd hk List.not_mem_nil
  · exact h

/-- What a run keeps while conversations resolve: every call that settled its dispatch left it in
the ledger, and of two calls on one dispatch the first did not settle it. -/
structure OpenedOnce (st : Inbox) : Prop where
  recorded : ∀ e ∈ st.opened, settles e.2 = true → Seen.contains e.1.from e.1.id st.seen = true
  once : st.opened.Pairwise fun e e' => (e.1.from, e.1.id) = (e'.1.from, e'.1.id) → settles e.2 = false

theorem OpenedOnce.empty : OpenedOnce Inbox.empty :=
  ⟨by simp [Inbox.empty], by simp [Inbox.empty]⟩

theorem OpenedOnce.step {f : DeliverFrame} {st : Inbox} (h : OpenedOnce st)
    (hc : f.conversation.isOk = true) (hr : f.recordOk = true) : OpenedOnce (processDeliver cx f st).2 := by
  rcases processDeliver_snd_cases (c := cx) (f := f) (s := st) with hst | ⟨-, hs, -, hst⟩
  · rwa [hst]
  -- the frame reaches `process_inbound_envelope`: its dispatch is not in the ledger
  rw [hst]
  constructor
  · intro e he hset
    rw [afterInbound_opened, Inbox.opening_opened, List.mem_append, List.mem_singleton] at he
    rcases he with he | rfl
    · exact contains_afterInbound (k := (e.1.from, e.1.id)) (h.recorded e he hset)
    · rw [(afterInbound_seen (f := f) (s := st.opening f)).2 hset hc]
      simp [Seen.contains_record, hr]
  · rw [afterInbound_opened, Inbox.opening_opened, List.pairwise_append]
    refine ⟨h.once, List.pairwise_singleton _ _, ?_⟩
    intro e he e' he' hkey
    rw [List.mem_singleton] at he'
    subst he'
    -- an earlier call that settled this dispatch would have left it in the ledger
    cases hset : settles e.2
    · rfl
    · have hin := h.recorded e he hset
      simp only [Prod.mk.injEq] at hkey
      rw [hkey.1, hkey.2, hs] at hin
      exact absurd hin Bool.false_ne_true

def sampleDeliverCtx : DeliverCtx := ⟨constCrypto, Bytes.replicate 32 1, fun _ => false⟩

def sampleDeliver : DeliverP := ⟨Bytes.replicate 16 2, Bytes.replicate 32 3, [], Bytes.replicate 64 0, 0⟩

def decryptedFrame : DeliverFrame :=
  ⟨sampleDeliver, 0, true, .ok (some (.application (.application [] (Bytes.replicate 32 4) (Bytes.replicate 32 3)))),
    .ok (Bytes.replicate 16 5), .ok (), true⟩

theorem seen_only_sound_frames_decrypted :
    decryptedFrame.key ∈ (Inbox.run sampleDeliverCtx [decryptedFrame] Inbox.empty).seen.map SeenRow.key ∧
      ∃ f ∈ [decryptedFrame], f.key = decryptedFrame.key ∧ f.sound sampleDeliverCtx = true ∧
        (f.msg, f.inbound) ∈ (Inbox.run sampleDeliverCtx [decryptedFrame] Inbox.empty).opened := by
  have hk : decryptedFrame.key ∈ (Inbox.run sampleDeliverCtx [decryptedFrame] Inbox.empty).seen.map SeenRow.key := by
    decide
  exact ⟨hk, seen_only_sound_frames sampleDeliverCtx [decryptedFrame] _ hk⟩

/-- The gap in the record: a decrypted message whose conversation does not resolve fails before
`Seen::record`, so the relay redelivers it and `process_deliver` hands its spent envelope to
`process_inbound_envelope` a second time. -/
theorem unresolved_conversation_reopens {f f' : DeliverFrame} {st : Inbox}
    (hv : verifyDispatchSig cx.crypto cx.ourIpk f.msg = true)
    (hs : Seen.contains f.msg.from f.msg.id st.seen = false)
    (hgate : (cx.isWelcomeEnvelope f.msg.payload || f.standing) = true)
    {plaintext : List UInt8} {groupId author : Bytes 32} {e : String}
    (hdec : f.inbound = .ok (some (.application (.application plaintext groupId author))))
    (hconv : f.conversation = .error e)
    (hsame : f'.msg = f.msg) (hgate' : (cx.isWelcomeEnvelope f.msg.payload || f'.standing) = true) :
    (processDeliver cx f st).1 = .error "no conversation for inbound envelope" ∧
      (Inbox.run cx [f, f'] st).opened = st.opened ++ [(f.msg, f.inbound), (f.msg, f'.inbound)] := by
  have hfirst : processDeliver cx f st = (.error "no conversation for inbound envelope", st.opening f) := by
    rw [processDeliver_of_open hv hs hgate]
    simp [afterInbound, hdec, hconv]
  refine ⟨by rw [hfirst], ?_⟩
  -- the ledger is as before, so the redelivery passes the gate again
  have hsecond := processDeliver_of_open (c := cx) (f := f') (s := st.opening f)
    (hsame ▸ hv) (by simpa [hsame] using hs) (by simpa [hsame] using hgate')
  simp [hfirst, hsecond, hsame]

def unresolvedFrame : DeliverFrame := { decryptedFrame with conversation := .error "no local state for group" }

def spentFrame : DeliverFrame :=
  { decryptedFrame with inbound := .ok (some (.application .applicationUndecryptable)) }

theorem unresolved_conversation_reopens_spent :
    (processDeliver sampleDeliverCtx unresolvedFrame Inbox.empty).1 = .error "no conversation for inbound envelope" ∧
      (Inbox.run sampleDeliverCtx [unresolvedFrame, spentFrame] Inbox.empty).opened =
        Inbox.empty.opened ++ [(unresolvedFrame.msg, unresolvedFrame.inbound), (unresolvedFrame.msg, spentFrame.inbound)] :=
  unresolved_conversation_reopens sampleDeliverCtx rfl rfl rfl rfl rfl rfl rfl

end Run

end Promtuz
