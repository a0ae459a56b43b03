import Promtuz.Common.Pack

/-! Frames read back over any split of the stream. `read_exact` takes the next `n` bytes of the
stream whatever segments they arrive in, so `unpack` depends only on the bytes: it reads the
4-byte length, refuses one over `MAX_FRAME_BYTES`, and hands `deser` exactly the declared number
of bytes after it. Frames packed back to back come back in order, each `unpack` taking its own. -/

namespace Promtuz

namespace Pack

section Reads

variable {segs : Segments} {n : Nat}

theorem readExact_of_le (hne : [] ∉ segs) (hn : n ≤ segs.flatten.length) :
    ∃ segs', readExact n segs = some (segs.flatten.take n, segs') ∧
      segs'.flatten = segs.flatten.drop n ∧ [] ∉ segs' := by
  induction segs generalizing n with
  | nil =>
      obtain rfl : n = 0 := by simpa using hn
      exact ⟨[], rfl, rfl, List.not_mem_nil⟩
  | cons seg rest ih =>
      rw [List.mem_cons, not_or] at hne
      obtain ⟨hseg, hrest⟩ := hne
      have hseg : seg ≠ [] := Ne.symm hseg
      rw [List.flatten_cons, List.length_append] at hn
      by_cases h0 : n = 0
      · subst h0
        exact ⟨seg :: rest, by simp [readExact], by simp, by simp [hseg, hrest]⟩
      by_cases hlt : n < seg.length
      · -- the current segment holds all of it
        refine ⟨seg.drop n :: rest, ?_, ?_, ?_⟩
        · simp [readExact, h0, hseg, hlt, List.take_append_of_le_length (Nat.le_of_lt hlt)]
        · simp [List.drop_append_of_le_length (Nat.le_of_lt hlt)]
        · have hdrop : seg.drop n ≠ [] := by
            rw [Ne, List.drop_eq_nil_iff]
            omega
          simp only [List.mem_cons, not_or]
          exact ⟨Ne.symm hdrop, hrest⟩
      · -- the segment is read whole and the rest comes from the next ones
        obtain ⟨segs', hread, hflat, hne'⟩ := ih hrest (n := n - seg.length) (by omega)
        refine ⟨segs', ?_, ?_, hne'⟩
        · simp only [readExact, h0, hseg, hlt, if_false, hread, Option.map_some, List.flatten_cons,
            List.take_append, List.take_of_length_le (Nat.le_of_not_lt hlt)]
        · rw [hflat, List.flatten_cons, List.drop_append, List.drop_of_length_le (Nat.le_of_not_lt hlt),
            List.nil_append]

theorem readExact_of_lt (hne : [] ∉ segs) (hn : segs.flatten.length < n) : readExact n segs = none := by
  induction segs generalizing n with
  | nil => simp [readExact, Nat.ne_of_gt (by simpa using hn)]
  | cons seg rest ih =>
      rw [List.mem_cons, not_or] at hne
      rw [List.flatten_cons, List.length_append] at hn
      have hlt : ¬n < seg.length := by omega
      simp only [readExact, Nat.ne_of_gt (show 0 < n by omega), Ne.symm hne.1, hlt, if_false,
        ih hne.2 (n := n - seg.length) (by omega), Option.map_none]

end Reads

section Body

variable {frameSize : Nat} {frame : List UInt8} {segs : Segments}

theorem readBody_of_le (hne : [] ∉ segs) (hframe : frame.length ≤ frameSize) {fuel : Nat}
    (hfuel : frameSize - frame.length ≤ fuel) (hn : frameSize - frame.length ≤ segs.flatten.length) :
    ∃ segs', readBody frameSize fuel frame segs =
        some (frame ++ segs.flatten.take (frameSize - frame.length), segs') ∧
      segs'.flatten = segs.flatten.drop (frameSize - frame.length) ∧ [] ∉ segs' := by
  induction fuel generalizing frame segs with
  | zero =>
      have hleft : frameSize - frame.length = 0 := by omega
      exact ⟨segs, by simp [readBody, hleft], by simp [hleft], hne⟩
  | succ fuel ih =>
      by_cases hshort : frame.length < frameSize
      · -- one chunk, then the loop from the longer frame
        have hchunk : 0 < min (frameSize - frame.length) FRAME_CHUNK_BYTES := by
          simp only [FRAME_CHUNK_BYTES]
          omega
        have hle : min (frameSize - frame.length) FRAME_CHUNK_BYTES ≤ frameSize - frame.length :=
          Nat.min_le_left _ _
        obtain ⟨segs₁, hread, hflat₁, hne₁⟩ :=
          readExact_of_le hne (n := min (frameSize - frame.length) FRAME_CHUNK_BYTES) (by omega)
        set c := min (frameSize - frame.length) FRAME_CHUNK_BYTES with hc
        have hlen : (frame ++ segs.flatten.take c).length = frame.length + c := by
          rw [List.length_append, List.length_take]
          omega
        obtain ⟨segs', hrun, hflat', hne'⟩ := @ih (frame ++ segs.flatten.take c) segs₁ hne₁
          (by omega) (by omega) (by rw [hflat₁, List.length_drop]; omega)
        have hrest : frameSize - (frame.length + c) + c = frameSize - frame.length := by omega
        refine ⟨segs', ?_, ?_, hne'⟩
        · rw [readBody, if_pos hshort]
          simp only [← hc, hread, Option.bind_some]
          rw [hrun, hflat₁, hlen, List.append_assoc, ← List.take_add, Nat.add_comm c, hrest]
        · rw [hflat', hflat₁, hlen, List.drop_drop, Nat.add_comm c, hrest]
      · have hleft : frameSize - frame.length = 0 := by omega
        exact ⟨segs, by simp [readBody, hshort, hleft], by simp [hleft], hne⟩

theorem readBody_of_lt (hne : [] ∉ segs) (hframe : frame.length ≤ frameSize) {fuel : Nat}
    (hfuel : frameSize - frame.length ≤ fuel) (hn : segs.flatten.length < frameSize - frame.length) :
    readBody frameSize fuel frame segs = none := by
  induction fuel generalizing frame segs with
  | zero => omega
  | succ fuel ih =>
      have hshort : frame.length < frameSize := by omega
      rw [readBody, if_pos hshort]
      by_cases hfit : min (frameSize - frame.length) FRAME_CHUNK_BYTES ≤ segs.flatten.length
      · -- the chunk arrives; the stream ends in a later one
        obtain ⟨segs₁, hread, hflat₁, hne₁⟩ := readExact_of_le hne hfit
        have hchunk : 0 < min (frameSize - frame.length) FRAME_CHUNK_BYTES := by
          simp only [FRAME_CHUNK_BYTES]
          omega
        set c := min (frameSize - frame.length) FRAME_CHUNK_BYTES with hc
        have hle : c ≤ frameSize - frame.length := Nat.min_le_left _ _
        have hlen : (frame ++ segs.flatten.take c).length = frame.length + c := by
          rw [List.length_append, List.length_take]
          omega
        simp only [hread, Option.bind_some]
        exact @ih (frame ++ segs.flatten.take c) segs₁ hne₁ (by omega) (by omega)
          (by rw [hflat₁, List.length_drop]; omega)
      · simp only [readExact_of_lt hne (Nat.lt_of_not_le hfit), Option.bind_none]

end Body

section Unpack

variable {α : Type} {codec : Codec α} {segs : Segments} {d : Nat} {rest : List UInt8}

def unpackBody (codec : Codec α) (d : Nat) (rx : Segments) : Except UnpackError (α × Segments) :=
  if MAX_FRAME_BYTES < d then .error (.frameTooLarge d)
  else
    match readBody d d [] rx with
    | none => .error .readFailed
    | some (frame, rx) =>
        match codec.deser frame with
        | none => .error .deserFailed
        | some v => .ok (v, rx)

theorem unpack_of_header (hne : [] ∉ segs) (hs : segs.flatten = Bytes.toBeBytes 4 d ++ rest) (hd : d < 2 ^ 32) :
    ∃ segs₂, [] ∉ segs₂ ∧ segs₂.flatten = rest ∧ unpack codec segs = unpackBody codec d segs₂ := by
  have hlen : (Bytes.toBeBytes 4 d).length = 4 := Bytes.length_toBeBytes 4 d
  obtain ⟨segs₁, hread₁, hflat₁, hne₁⟩ := readExact_of_le hne (n := 1) (by rw [hs, List.length_append]; omega)
  obtain ⟨segs₂, hread₂, hflat₂, hne₂⟩ :=
    readExact_of_le hne₁ (n := 3) (by rw [hflat₁, List.length_drop, hs, List.length_append]; omega)
  have hprefix : segs.flatten.take 1 ++ segs₁.flatten.take 3 = Bytes.toBeBytes 4 d := by
    rw [hflat₁, ← List.take_add, hs]
    exact List.take_left' hlen
  have hrest : segs₂.flatten = rest := by
    rw [hflat₂, hflat₁, List.drop_drop, hs]
    exact List.drop_left' hlen
  have hvalue : Bytes.beValue (Bytes.toBeBytes 4 d) = d := by
    rw [Bytes.beValue_toBeBytes]
    exact Nat.mod_eq_of_lt (Nat.lt_of_lt_of_eq hd (by decide))
  refine ⟨segs₂, hne₂, hrest, ?_⟩
  simp only [unpack, hread₁, hread₂, hprefix, hvalue]
  rfl

theorem unpack_of_frame (hne : [] ∉ segs) {body : List UInt8} (hd : d ≤ MAX_FRAME_BYTES) (hbody : body.length = d)
    (hs : segs.flatten = Bytes.toBeBytes 4 d ++ body ++ rest) :
    ∃ segs', [] ∉ segs' ∧ segs'.flatten = rest ∧
      unpack codec segs = match codec.deser body with
        | none => .error .deserFailed
        | some v => .ok (v, segs') := by
  obtain ⟨segs₂, hne₂, hflat₂, hunpack⟩ :=
    @unpack_of_header _ codec _ _ (body ++ rest) hne (by rw [hs, List.append_assoc])
      (by simp only [MAX_FRAME_BYTES] at hd; omega)
  obtain ⟨segs', hrun, hflat', hne'⟩ := @readBody_of_le d [] segs₂ hne₂ (Nat.zero_le d) d
    (Nat.le_refl _) (by rw [hflat₂, List.length_append]; simp only [List.length_nil, Nat.sub_zero]; omega)
  simp only [List.length_nil, Nat.sub_zero, hflat₂, List.nil_append, List.take_left' hbody] at hrun hflat'
  refine ⟨segs', hne', by rw [hflat', List.drop_left' hbody], ?_⟩
  rw [hunpack, unpackBody, if_neg (Nat.not_lt.2 hd), hrun]

theorem unpack_of_tooLarge (hne : [] ∉ segs) (hs : segs.flatten = Bytes.toBeBytes 4 d ++ rest)
    (hd : d < 2 ^ 32) (hbig : MAX_FRAME_BYTES < d) : unpack codec segs = .error (.frameTooLarge d) := by
  obtain ⟨segs₂, -, -, hunpack⟩ := @unpack_of_header _ codec _ _ _ hne hs hd
  rw [hunpack, unpackBody, if_pos hbig]

theorem unpack_of_short (hne : [] ∉ segs) (hs : segs.flatten = Bytes.toBeBytes 4 d ++ rest)
    (hd : d ≤ MAX_FRAME_BYTES) (hshort : rest.length < d) : unpack codec segs = .error .readFailed := by
  obtain ⟨segs₂, hne₂, hflat₂, hunpack⟩ :=
    @unpack_of_header _ codec _ _ _ hne hs (by simp only [MAX_FRAME_BYTES] at hd; omega)
  have hrun := @readBody_of_lt d [] segs₂ hne₂ (Nat.zero_le d) d (Nat.le_refl _)
    (by rw [hflat₂]; simpa using hshort)
  rw [hunpack, unpackBody, if_neg (Nat.not_lt.2 hd), hrun]

end Unpack

section RoundTrip

variable {α : Type} {codec : Codec α}

theorem pack_of_le {v : α} {b : List UInt8} (hser : codec.ser v = some b) (hb : b.length ≤ MAX_FRAME_BYTES) :
    pack codec v = .ok (Bytes.toBeBytes 4 b.length ++ b) := by
  simp [pack, hser, Nat.not_lt.2 hb]

theorem pack_of_lt {v : α} {b : List UInt8} (hser : codec.ser v = some b) (hb : MAX_FRAME_BYTES < b.length) :
    pack codec v = .error (.frameTooLarge b.length) := by
  simp [pack, hser, hb]

theorem pack_eq_ok {v : α} {f : List UInt8} (h : pack codec v = .ok f) :
    ∃ b, codec.ser v = some b ∧ b.length ≤ MAX_FRAME_BYTES ∧ f = Bytes.toBeBytes 4 b.length ++ b := by
  unfold pack at h
  split at h
  · cases h
  · rename_i b hser
    split at h
    · cases h
    · exact ⟨b, hser, Nat.le_of_not_lt ‹_›, (Except.ok.inj h).symm⟩

theorem unpack_pack (hrt : codec.RoundTrip) {v : α} {b : List UInt8} (hser : codec.ser v = some b)
    (hb : b.length ≤ MAX_FRAME_BYTES) {segs : Segments} (hne : [] ∉ segs) {rest : List UInt8}
    (hs : segs.flatten = Bytes.toBeBytes 4 b.length ++ b ++ rest) :
    ∃ segs', [] ∉ segs' ∧ segs'.flatten = rest ∧ unpack codec segs = .ok (v, segs') := by
  obtain ⟨segs', hne', hflat', hunpack⟩ := @unpack_of_frame _ codec _ _ _ hne _ hb rfl hs
  rw [hrt v b hser] at hunpack
  exact ⟨segs', hne', hflat', hunpack⟩

theorem exists_frames {vs : List α} (hfit : ∀ v ∈ vs, ∃ b, codec.ser v = some b ∧ b.length ≤ MAX_FRAME_BYTES) :
    ∃ frames, List.Forall₂ (fun v f => pack codec v = .ok f) vs frames := by
  induction vs with
  | nil => exact ⟨[], .nil⟩
  | cons v vs ih =>
      obtain ⟨b, hser, hb⟩ := hfit v List.mem_cons_self
      obtain ⟨frames, hframes⟩ := ih fun w hw => hfit w (List.mem_cons_of_mem v hw)
      exact ⟨_ :: frames, .cons (pack_of_le hser hb) hframes⟩

theorem unpackN_frames (hrt : codec.RoundTrip) {vs : List α} {frames : List (List UInt8)}
    (hframes : List.Forall₂ (fun v f => pack codec v = .ok f) vs frames) {segs : Segments} (hne : [] ∉ segs)
    {rest : List UInt8} (hs : segs.flatten = frames.flatten ++ rest) :
    ∃ segs', [] ∉ segs' ∧ segs'.flatten = rest ∧ unpackN codec vs.length segs = .ok (vs, segs') := by
  induction hframes generalizing segs with
  | nil => exact ⟨segs, hne, by simpa using hs, rfl⟩
  | @cons v f vs frames hpack _ ih =>
      obtain ⟨b, hser, hb, rfl⟩ := pack_eq_ok hpack
      -- the first `unpack` takes the first frame, and the others follow from the stream after it
      obtain ⟨segs₁, hne₁, hflat₁, hunpack⟩ := unpack_pack hrt hser hb hne
        (show segs.flatten = _ ++ _ ++ (frames.flatten ++ rest) by rw [hs, List.flatten_cons, List.append_assoc])
      obtain ⟨segs', hne', hflat', hrun⟩ := ih hne₁ hflat₁
      refine ⟨segs', hne', hflat', ?_⟩
      rw [List.length_cons, unpackN, hunpack]
      simp only [hrun]
      rfl

theorem visitSeq_map_some (max : Nat) (out items : List α) (hout : out.length ≤ max) :
    visitSeq max out (items.map some) = if out.length + items.length ≤ max then some (out ++ items) else none := by
  induction items generalizing out with
  | nil => simp [visitSeq, hout]
  | cons x xs ih =>
      rw [List.map_cons, visitSeq]
      by_cases hfull : out.length = max
      · rw [if_pos hfull, if_neg (by simp only [List.length_cons]; omega)]
      · rw [if_neg hfull, ih (out ++ [x]) (by simp only [List.length_append, List.length_singleton]; omega)]
        have hlen : (out ++ [x]).length + xs.length = out.length + (x :: xs).length := by
          simp only [List.length_append, List.length_cons, List.length_nil]
          omega
        rw [hlen, List.append_assoc, List.singleton_append]

end RoundTrip

/-- The frame codec over any values whose encoding reads back: frames of values that fit come
back in order over any split of the stream into reads; `pack` and `unpack` refuse exactly the
lengths over `MAX_FRAME_BYTES`; under the cap `unpack` hands `deser` exactly the declared bytes;
and `bounded_vec` keeps exactly the sequences of at most its `MAX` elements. -/
theorem frame_codec_round_trip {α : Type} (codec : Codec α) (hrt : codec.RoundTrip) :
    (∀ vs : List α, (∀ v ∈ vs, ∃ b, codec.ser v = some b ∧ b.length ≤ MAX_FRAME_BYTES) →
      ∃ frames, List.Forall₂ (fun v f => pack codec v = .ok f) vs frames ∧
        ∀ (rest : List UInt8) (segs : Segments), [] ∉ segs → segs.flatten = frames.flatten ++ rest →
          ∃ segs', [] ∉ segs' ∧ segs'.flatten = rest ∧ unpackN codec vs.length segs = .ok (vs, segs')) ∧
    (∀ v b, codec.ser v = some b → (pack codec v = .error (.frameTooLarge b.length) ↔ MAX_FRAME_BYTES < b.length)) ∧
    (∀ d (rest : List UInt8) (segs : Segments), d < 2 ^ 32 → [] ∉ segs →
      segs.flatten = Bytes.toBeBytes 4 d ++ rest →
        (unpack codec segs = .error (.frameTooLarge d) ↔ MAX_FRAME_BYTES < d)) ∧
    (∀ d (body rest : List UInt8) (segs : Segments), d ≤ MAX_FRAME_BYTES → body.length = d → [] ∉ segs →
      segs.flatten = Bytes.toBeBytes 4 d ++ body ++ rest →
        ∃ segs', [] ∉ segs' ∧ segs'.flatten = rest ∧
          unpack codec segs = match codec.deser body with
            | none => .error .deserFailed
            | some v => .ok (v, segs')) ∧
    (∀ (max : Nat) (items : List α),
      visitSeq max [] (items.map some) = if items.length ≤ max then some items else none) := by
  refine ⟨fun vs hfit => ?_, fun v b hser => ?_, fun d rest segs hd hne hs => ?_,
    fun d body rest segs hd hbody hne hs => unpack_of_frame hne hd hbody hs, fun max items => ?_⟩
  · obtain ⟨frames, hframes⟩ := exists_frames hfit
    exact ⟨frames, hframes, fun rest segs hne hs => unpackN_frames hrt hframes hne hs⟩
  · by_cases hb : MAX_FRAME_BYTES < b.length
    · exact iff_of_true (pack_of_lt hser hb) hb
    · rw [pack_of_le hser (Nat.le_of_not_lt hb)]
      exact iff_of_false (fun h => by cases h) hb
  · by_cases hbig : MAX_FRAME_BYTES < d
    · exact iff_of_true (unpack_of_tooLarge hne hs hd hbig) hbig
    · refine iff_of_false (fun h => ?_) hbig
      -- under the cap the answer is a value, a decode failure or a short read
      by_cases hshort : rest.length < d
      · rw [unpack_of_short hne hs (Nat.le_of_not_lt hbig) hshort] at h
        cases h
      · obtain ⟨segs', -, -, hunpack⟩ := @unpack_of_frame _ codec _ _ _ hne _ (Nat.le_of_not_lt hbig)
          (List.length_take_of_le (Nat.le_of_not_lt hshort)) (by rw [hs, List.append_assoc, List.take_append_drop])
        rw [hunpack] at h
        split at h <;> cases h
  · simpa using visitSeq_map_some max [] items (Nat.zero_le max)

def byteCodec : Codec UInt8 := ⟨fun v => some [v], fun b => b.head?⟩

theorem byteCodec_roundTrip : byteCodec.RoundTrip := fun _ _ h => by
  cases h
  rfl

/-- Two frames, `pack 7` and `pack 8`, delivered in three segments that cut both: two `unpack`
calls give 7 and 8 and leave nothing. -/
theorem frame_codec_round_trip_bytes :
    byteCodec.RoundTrip ∧
      ∃ segs', unpackN byteCodec 2 [[0], [0, 0, 1, 7, 0], [0, 0, 1, 8]] = .ok ([7, 8], segs') := by
  obtain ⟨frames, hframes, hread⟩ := (frame_codec_round_trip byteCodec byteCodec_roundTrip).1 [7, 8]
    (fun v _ => ⟨[v], rfl, show 1 ≤ MAX_FRAME_BYTES by decide⟩)
  have hflat : frames.flatten = [0, 0, 0, 1, 7, 0, 0, 0, 1, 8] := by
    rcases hframes with _ | ⟨h₁, _ | ⟨h₂, hnil⟩⟩
    cases hnil
    cases h₁
    cases h₂
    rfl
  obtain ⟨segs', -, -, hrun⟩ := hread [] [[0], [0, 0, 1, 7, 0], [0, 0, 1, 8]] (by decide) (by rw [hflat]; rfl)
  exact ⟨byteCodec_roundTrip, segs', hrun⟩

end Pack

end Promtuz
