import Promtuz.Common.Proto
import Promtuz.Lib.Table
import Promtuz.Lib.Reach

/-! The client's relay table (`libcore::data::relay`): the circuit breaker that
`Relay::connect` drives through `record_success`, `record_failure` and
`record_terminal_failure`, the resolver upsert `Relay::refresh`, and the weighted pick
`Relay::fetch_best`. Scores are rationals where the source computes in `f64`, and the values
`rand::random` yields are an input of each pick. -/

namespace Promtuz.RelayTable

open Table

/- What the SQLite binding layer does with a call's positional parameters: run the statement, or
refuse the call. -/
variable (bind : Nat → Nat → Except BindError Unit)

def FAILURE_THRESHOLD : Nat := 3
def BACKOFF_BASE_MS : Nat := 5000
def BACKOFF_MAX_MS : Nat := 30 * 60 * 1000
def BACKOFF_TERMINAL_MS : Nat := 2 * 60 * 1000
def WINDOW_DURATION_MS : Nat := 10 * 60 * 1000
def SCORE_WEIGHT_SUCCESS : ℚ := 0.6
def SCORE_WEIGHT_LATENCY : ℚ := 0.4
def EXPLORE_PROBABILITY : ℚ := 0.2
def TOP_N : Nat := 3

/-- `db::network::CircuitState`. -/
inductive CircuitState
  | closed
  | «open»
  | halfOpen
  deriving DecidableEq, Repr

/-- A row of `relays`, with the columns the circuit breaker and `fetch_best` read. -/
structure RelayRow where
  id : NodeId
  host : List UInt8
  port : UInt16
  protocolVersion : UInt16
  circuitState : CircuitState
  backoffUntil : Option Int
  consecutiveFailures : Nat
  windowAttempts : Nat
  windowSuccesses : Nat
  windowStart : Int
  lastLatency : Option Int
  deriving DecidableEq

/-- The `relays` table; `id` is its primary key. -/
@[ext]
structure RelayDb where
  rows : List RelayRow
  keys_nodup : (rows.map RelayRow.id).Nodup

def RelayDb.empty : RelayDb := ⟨[], List.nodup_nil⟩

def RelayDb.update (p : RelayRow → Bool) (f : RelayRow → RelayRow) (hf : ∀ r, (f r).id = r.id)
    (db : RelayDb) : RelayDb :=
  ⟨Table.update p f db.rows, by rw [map_update hf]; exact db.keys_nodup⟩

def byId (id : NodeId) (r : RelayRow) : Bool := decide (r.id = id)

/-- The test of the `CASE WHEN window_start < ? THEN ..` arms, which restart the stats window. -/
def rolls (threshold : Int) (r : RelayRow) : Bool := decide (r.windowStart < threshold)

/-- The `SET` of `record_success`, whose window test reads `window_threshold`. -/
def succeedRow (now : Int) (r : RelayRow) : RelayRow :=
  let roll := rolls (now - WINDOW_DURATION_MS) r
  { r with
    circuitState := .closed
    backoffUntil := none
    consecutiveFailures := 0
    windowAttempts := if roll then 1 else r.windowAttempts + 1
    windowSuccesses := if roll then 1 else r.windowSuccesses + 1
    windowStart := if roll then now else r.windowStart }

def recordSuccess (id : NodeId) (now : Int) (db : RelayDb) : RelayDb :=
  db.update (byId id) (succeedRow now) fun _ => rfl

def backoffMs (consecutiveFailures : Nat) : Nat :=
  min (BACKOFF_BASE_MS * (1 <<< min (consecutiveFailures - FAILURE_THRESHOLD) 10)) BACKOFF_MAX_MS

/-- The first statement of `record_failure`; `threshold` is what its window test reads. -/
def failRow (now threshold : Int) (r : RelayRow) : RelayRow :=
  { r with
    consecutiveFailures := r.consecutiveFailures + 1
    windowAttempts := if rolls threshold r then 1 else r.windowAttempts + 1
    windowStart := if rolls threshold r then now else r.windowStart }

def openRow (deadline : Int) (r : RelayRow) : RelayRow :=
  { r with circuitState := .open, backoffUntil := some deadline }

/-- The two statements of `record_failure`: the streak update, whose `RETURNING` decides whether
the second opens the circuit. With no row for `id` the `RETURNING` query finds nothing and
neither has written. -/
def failureStatements (id : NodeId) (now threshold : Int) (db : RelayDb) : RelayDb :=
  let db' := db.update (byId id) (failRow now threshold) fun _ => rfl
  match db'.rows.find? (byId id) with
  | none => db'
  | some r =>
    -- `RETURNING consecutive_failures`, read back through `as u32`
    let consecutiveFailures := r.consecutiveFailures % 2 ^ 32
    if FAILURE_THRESHOLD ≤ consecutiveFailures then
      db'.update (byId id) (openRow (now + backoffMs consecutiveFailures)) fun _ => rfl
    else db'

/-- `record_failure`. Its first statement reads `?1`, `?2` and `?3` (the window test reads `?3`,
which is `now`) and is handed four parameters, `now`, the id, `now` and `window_threshold`; every
caller drops the error. -/
def recordFailure (id : NodeId) (now : Int) (db : RelayDb) : RelayDb :=
  match bind 3 4 with
  | .ok () => failureStatements id now now db
  | .error _ => db

def terminalRow (now : Int) (r : RelayRow) : RelayRow :=
  { r with
    circuitState := .open
    backoffUntil := some (now + BACKOFF_TERMINAL_MS)
    consecutiveFailures := r.consecutiveFailures + 1 }

def recordTerminalFailure (id : NodeId) (now : Int) (db : RelayDb) : RelayDb :=
  db.update (byId id) (terminalRow now) fun _ => rfl

/-- `record_rtt`, without the sample buffer that only the relays page reads. -/
def recordRtt (id : NodeId) (rttMs : Nat) (db : RelayDb) : RelayDb :=
  db.update (byId id) (fun r => { r with lastLatency := some rttMs }) fun _ => rfl

/-- `common::proto::client_res::RelayDescriptor`, without the pubkey nothing in libcore reads. -/
structure RelayDescriptor where
  id : NodeId
  addr : SocketAddr

def moved (d : RelayDescriptor) (r : RelayRow) : Bool := r.host != d.addr.ip || r.port != d.addr.port

def refreshRow (d : RelayDescriptor) (r : RelayRow) : RelayRow :=
  { r with
    circuitState := if moved d r then .closed else r.circuitState
    backoffUntil := if moved d r then none else r.backoffUntil
    consecutiveFailures := if moved d r then 0 else r.consecutiveFailures
    host := d.addr.ip
    port := d.addr.port
    protocolVersion := PROTOCOL_VERSION }

def freshRow (now : Int) (d : RelayDescriptor) : RelayRow :=
  { id := d.id, host := d.addr.ip, port := d.addr.port, protocolVersion := PROTOCOL_VERSION,
    circuitState := .closed, backoffUntil := none, consecutiveFailures := 0,
    windowAttempts := 0, windowSuccesses := 0, windowStart := now, lastLatency := none }

theorem nodup_keys_append {rows : List RelayRow} {row : RelayRow} (hkeys : (rows.map RelayRow.id).Nodup)
    (hnew : rows.any (byId row.id) = false) : ((rows ++ [row]).map RelayRow.id).Nodup := by
  rw [List.map_append, List.nodup_append]
  refine ⟨hkeys, List.nodup_singleton _, ?_⟩
  intro a ha b hb
  obtain ⟨r, hr, rfl⟩ := List.mem_map.1 ha
  rw [List.map_singleton, List.mem_singleton] at hb
  subst hb
  simpa [byId] using List.any_eq_false.1 hnew r hr

def upsert (now : Int) (db : RelayDb) (d : RelayDescriptor) : RelayDb :=
  if h : db.rows.any (byId d.id) then db.update (byId d.id) (refreshRow d) fun _ => rfl
  else ⟨db.rows ++ [freshRow now d], nodup_keys_append db.keys_nodup (by simpa [freshRow] using h)⟩

/-- `Relay::refresh`: one upsert per descriptor. `CHECK(port > 0 ...)` fails the statement for a
zero port, and `?` ends the loop there with the rows before it written. -/
def refresh (now : Int) : List RelayDescriptor → RelayDb → RelayDb
  | [], db => db
  | d :: ds, db => if d.addr.port = 0 then db else refresh now ds (upsert now db d)

/-- The promotion `fetch_best` commits before it reads: an open circuit whose backoff has passed
goes half-open. -/
def expired (now : Int) (r : RelayRow) : Bool :=
  r.circuitState == .open && r.backoffUntil.any fun b => decide (b ≤ now)

def promote (now : Int) (db : RelayDb) : RelayDb :=
  db.update (expired now) (fun r => { r with circuitState := .halfOpen }) fun _ => rfl

def eligible (r : RelayRow) : Bool :=
  r.protocolVersion == PROTOCOL_VERSION && (r.circuitState == .closed || r.circuitState == .halfOpen)

/-- The `Relay` that `fetch_best` builds; its connection, DHT client and home node id start
empty. -/
structure Relay where
  id : NodeId
  host : List UInt8
  port : UInt16
  deriving DecidableEq

structure Candidate where
  relay : Relay
  latency : Option Int
  successRate : ℚ

def RelayRow.relay (r : RelayRow) : Relay := ⟨r.id, r.host, r.port⟩

/-- A row read as a candidate; the success rate is
`CAST(window_successes AS REAL) / MAX(window_attempts, 1)`. -/
def RelayRow.candidate (r : RelayRow) : Candidate :=
  ⟨r.relay, r.lastLatency, (r.windowSuccesses : ℚ) / ((max r.windowAttempts 1 : Nat) : ℚ)⟩

def candidates (now : Int) (db : RelayDb) : List Candidate :=
  ((promote now db).rows.filter eligible).map RelayRow.candidate

def normLatency (minLat maxLat : Int) : Option Int → ℚ
  | some l => if maxLat > minLat then ((l - minLat : Int) : ℚ) / ((maxLat - minLat : Int) : ℚ) else 0
  | none => 1

def score (minLat maxLat : Int) (c : Candidate) : ℚ :=
  SCORE_WEIGHT_SUCCESS * c.successRate + SCORE_WEIGHT_LATENCY * (1 - normLatency minLat maxLat c.latency)

/-- The candidates scored and sorted best first; `sort_by` is stable, as `mergeSort` is. -/
def rank (cs : List Candidate) : List (ℚ × Candidate) :=
  let lats := cs.filterMap Candidate.latency
  let minLat := lats.min?.getD 0
  let maxLat := lats.max?.getD 0
  (cs.map fun c => (score minLat maxLat c, c)).mergeSort fun a b => decide (b.1 ≤ a.1)

def pickWeighted (pick : ℚ) (dflt : Candidate) : List (ℚ × Candidate) → Candidate
  | [] => dflt
  | (s, c) :: rest => if pick - s ≤ 0 then c else pickWeighted (pick - s) dflt rest

/-- The pick among the ranked candidates, `draw i` the `i`-th value `rand::random` yields. The
exploration coin is drawn only with more than `TOP_N` candidates, as `&&` short-circuits. -/
def choose (ranked : List (ℚ × Candidate)) (draw : Nat → ℚ) : Option Candidate :=
  if TOP_N < ranked.length ∧ draw 0 < EXPLORE_PROBABILITY then
    let tail := ranked.drop TOP_N
    let idx := ⌊draw 1 * tail.length⌋.toNat
    tail[min idx (tail.length - 1)]?.map Prod.snd
  else
    let pool := ranked.take TOP_N
    let u := if TOP_N < ranked.length then draw 1 else draw 0
    let total := (pool.map Prod.fst).sum
    pool.getLast?.map fun last => pickWeighted (u * total) last.2 pool

inductive RelayError
  | noneAvailable
  deriving DecidableEq

/-- `Relay::fetch_best`. The promotion is committed whatever the pick finds; `choose` finds
nothing only on no candidates, where the source returns `NoneAvailable`. -/
def fetchBest (now : Int) (draw : Nat → ℚ) (db : RelayDb) : Except RelayError Relay × RelayDb :=
  match choose (rank (candidates now db)) draw with
  | some c => (.ok c.relay, promote now db)
  | none => (.error .noneAvailable, promote now db)

/-- `quinn::ConnectionError`, as far as `is_terminal_for_relay` reads it. -/
inductive ConnectionError
  | transportError (code : Nat)
  | other

/-- A TLS alert that no retry fixes: the transport's crypto error range `0x100..=0x1ff`. -/
def isTerminalForRelay : ConnectionError → Bool
  | .transportError code =>
    decide (0x100 ≤ code ∧ code ≤ 0x1ff) && [42, 43, 44, 45, 46, 48, 51].contains (code &&& 0xff)
  | .other => false

/-- How `Relay::connect` ends, as far as it writes the relay's row. -/
inductive ConnectResult
  | connectFailed (err : ConnectionError)
  | timedOut
  | rejected
  | accepted
  | aborted

def connect (id : NodeId) (now : Int) (db : RelayDb) : ConnectResult → RelayDb
  | .connectFailed err =>
    if isTerminalForRelay err then recordTerminalFailure id now db else recordFailure bind id now db
  | .timedOut | .rejected => recordFailure bind id now db
  | .accepted => recordSuccess id now db
  | .aborted => db

inductive Op
  | resolve (relays : List RelayDescriptor) (now : Int)
  | fetch (now : Int) (draw : Nat → ℚ)
  | connect (id : NodeId) (now : Int) (result : ConnectResult)
  | sampleRtt (id : NodeId) (rttMs : Nat)
  | connectionLost (id : NodeId) (now : Int)

def Op.time : Op → Option Int
  | .resolve _ now | .fetch now _ | .connect _ now _ | .connectionLost _ now => some now
  | .sampleRtt _ _ => none

def step (db : RelayDb) : Op → RelayDb
  | .resolve relays now => refresh now relays db
  | .fetch now draw => (fetchBest now draw db).2
  | .connect id now result => connect bind id now db result
  | .sampleRtt id rttMs => recordRtt id rttMs db
  | .connectionLost id now => recordFailure bind id now db

def run (ops : List Op) : RelayDb := ops.foldl (step bind) RelayDb.empty

variable {bind}

/-- A connect that ends in a TLS alert `is_terminal_for_relay` names. -/
def Op.terminal : Op → Bool
  | .connect _ _ (.connectFailed err) => isTerminalForRelay err
  | _ => false

theorem byId_iff {id : NodeId} {r : RelayRow} : byId id r = true ↔ r.id = id := by
  simp [byId]

theorem RelayDb.mem_update {p f hf} {db : RelayDb} {r' : RelayRow} :
    r' ∈ (db.update p f hf).rows ↔ ∃ r ∈ db.rows, (if p r then f r else r) = r' :=
  Table.mem_update

theorem RelayDb.mem_update_of_mem {p f hf} {db : RelayDb} {r : RelayRow} (hr : r ∈ db.rows)
    (hp : p r = true) : f r ∈ (db.update p f hf).rows := by
  have h : (if p r then f r else r) ∈ (db.update p f hf).rows := Table.mem_update_of_mem hr
  rwa [if_pos hp] at h

theorem backoffMs_le (consecutiveFailures : Nat) : backoffMs consecutiveFailures ≤ BACKOFF_MAX_MS :=
  min_le_right _ _

theorem expired_iff {now : Int} {r : RelayRow} :
    expired now r = true ↔ r.circuitState = .open ∧ ∃ b, r.backoffUntil = some b ∧ b ≤ now := by
  cases hb : r.backoffUntil <;> simp [expired, hb]

/-- Both statements of `record_failure` on the row they select. -/
def settleFailure (now threshold : Int) (r : RelayRow) : RelayRow :=
  if FAILURE_THRESHOLD ≤ (r.consecutiveFailures + 1) % 2 ^ 32 then
    openRow (now + backoffMs ((r.consecutiveFailures + 1) % 2 ^ 32)) (failRow now threshold r)
  else failRow now threshold r

theorem settleFailure_id (now threshold : Int) (r : RelayRow) : (settleFailure now threshold r).id = r.id := by
  unfold settleFailure
  split <;> rfl

theorem failureStatements_eq (id : NodeId) (now threshold : Int) (db : RelayDb) :
    failureStatements id now threshold db =
      db.update (byId id) (settleFailure now threshold) (settleFailure_id now threshold) := by
  ext1
  unfold failureStatements
  dsimp only
  split
  next hnone =>
    -- no row holds `id`, so neither statement writes
    have hsel : ∀ r ∈ db.rows, byId id r = false := by
      intro r hr
      have hmem : (if byId id r then failRow now threshold r else r) ∈
          (db.update (byId id) (failRow now threshold) fun _ => rfl).rows := Table.mem_update_of_mem hr
      have hnot := List.find?_eq_none.1 hnone _ hmem
      cases hp : byId id r
      · rfl
      · rw [hp, if_pos rfl] at hnot
        exact absurd hp hnot
    simp only [RelayDb.update, update_eq_self hsel]
  next r hfind =>
    -- the row `RETURNING` reads is the one both statements select
    have hone : ∀ x ∈ db.rows, byId id x = true → x.consecutiveFailures + 1 = r.consecutiveFailures := by
      intro x hx hp
      have hmem : failRow now threshold x ∈ (db.update (byId id) (failRow now threshold) fun _ => rfl).rows :=
        RelayDb.mem_update_of_mem hx hp
      rw [← eq_of_find?_key (db.update (byId id) (failRow now threshold) fun _ => rfl).keys_nodup hfind hmem
        (byId_iff.1 hp)]
      rfl
    split
    next hopen =>
      simp only [RelayDb.update]
      rw [update_update ?_ db.rows]
      · refine update_congr fun x hx hp => ?_
        simp only [Function.comp, settleFailure, hone x hx hp, if_pos hopen]
      · exact fun _ hx => hx
    next hshort =>
      simp only [RelayDb.update]
      refine update_congr fun x hx hp => ?_
      simp only [settleFailure, hone x hx hp, if_neg hshort]

theorem recordFailure_unbound (hbind : InvalidParameterCount bind) (id : NodeId) (now : Int) (db : RelayDb) :
    recordFailure bind id now db = db := by
  obtain ⟨e, he⟩ := hbind 3 4 (by decide)
  simp only [recordFailure, he]

section RowInvariant

variable {P : RelayRow → Prop} {db : RelayDb}

theorem forall_upsert {now : Int} {d : RelayDescriptor} (h : ∀ r ∈ db.rows, P r)
    (hrefresh : ∀ r, P r → P (refreshRow d r)) (hfresh : P (freshRow now d)) :
    ∀ r ∈ (upsert now db d).rows, P r := by
  unfold upsert
  split
  · exact forall_mem_update h fun r _ => hrefresh r
  · intro r hr
    rcases List.mem_append.1 hr with hr | hr
    · exact h r hr
    · rw [List.mem_singleton.1 hr]
      exact hfresh

theorem forall_refresh {now : Int} (relays : List RelayDescriptor) (h : ∀ r ∈ db.rows, P r)
    (hrefresh : ∀ d r, P r → P (refreshRow d r)) (hfresh : ∀ d, P (freshRow now d)) :
    ∀ r ∈ (refresh now relays db).rows, P r := by
  induction relays generalizing db with
  | nil => exact h
  | cons d ds ih =>
    simp only [refresh]
    split
    · exact h
    · exact ih (forall_upsert h (hrefresh d) (hfresh d))

end RowInvariant

/-- A row whose circuit starts over. -/
def Clean (r : RelayRow) : Prop :=
  r.circuitState = .closed ∧ r.backoffUntil = none ∧ r.consecutiveFailures = 0

/-- What every row of a reachable table satisfies, `t` bounding the times of the events so far:
only a closed circuit goes without a deadline, and no deadline lies past the cap. -/
structure RowSound (t : Int) (r : RelayRow) : Prop where
  current : r.protocolVersion = PROTOCOL_VERSION
  closed : r.circuitState = .closed → r.consecutiveFailures < FAILURE_THRESHOLD ∧ r.backoffUntil = none
  opened : r.circuitState = .open → ∃ b, r.backoffUntil = some b ∧ b ≤ t + BACKOFF_MAX_MS
  halfOpen : r.circuitState = .halfOpen → ∃ b, r.backoffUntil = some b ∧ b ≤ t

def Sound (t : Int) (db : RelayDb) : Prop := ∀ r ∈ db.rows, RowSound t r

namespace RowSound

variable {t now : Int} {r r' : RelayRow}

theorem of_clean (hv : r.protocolVersion = PROTOCOL_VERSION) (hc : Clean r) : RowSound t r := by
  obtain ⟨hc, hb, hf⟩ := hc
  refine ⟨hv, fun _ => ⟨by simp [hf, FAILURE_THRESHOLD], hb⟩, fun ho => ?_, fun hh => ?_⟩
  · rw [hc] at ho
    cases ho
  · rw [hc] at hh
    cases hh

theorem congr (h : RowSound t r) (hv : r'.protocolVersion = PROTOCOL_VERSION)
    (hc : r'.circuitState = r.circuitState) (hb : r'.backoffUntil = r.backoffUntil)
    (hf : r'.consecutiveFailures = r.consecutiveFailures) : RowSound t r' where
  current := hv
  closed hc' := by
    rw [hb, hf]
    exact h.closed (hc ▸ hc')
  opened ho := by
    rw [hb]
    exact h.opened (hc ▸ ho)
  halfOpen hh := by
    rw [hb]
    exact h.halfOpen (hc ▸ hh)

theorem settle {threshold : Int} (h : RowSound t r) (hnow : now ≤ t) :
    RowSound t (settleFailure now threshold r) := by
  unfold settleFailure
  split
  next =>
    -- the circuit opens, its deadline within the cap
    have hcap := backoffMs_le ((r.consecutiveFailures + 1) % 2 ^ 32)
    refine ⟨h.current, fun hc => ?_, fun _ => ⟨_, rfl, by omega⟩, fun hh => ?_⟩
    · simp [openRow] at hc
    · simp [openRow] at hh
  next hshort =>
    -- below the threshold the circuit is as it was, one failure longer
    refine ⟨h.current, fun hc => ?_, h.opened, h.halfOpen⟩
    obtain ⟨hlt, hnone⟩ := h.closed hc
    simp only [FAILURE_THRESHOLD] at hlt hshort ⊢
    have hmod : (r.consecutiveFailures + 1) % 2 ^ 32 = r.consecutiveFailures + 1 := Nat.mod_eq_of_lt (by omega)
    rw [hmod] at hshort
    exact ⟨by simp only [failRow]; omega, hnone⟩

theorem terminal (h : RowSound t r) (hnow : now ≤ t) : RowSound t (terminalRow now r) where
  current := h.current
  closed hc := by simp [terminalRow] at hc
  opened _ := ⟨_, rfl, by simp only [BACKOFF_TERMINAL_MS, BACKOFF_MAX_MS]; omega⟩
  halfOpen hh := by simp [terminalRow] at hh

theorem refresh (h : RowSound t r) (d : RelayDescriptor) : RowSound t (refreshRow d r) := by
  cases hm : moved d r
  · exact h.congr rfl (by simp [refreshRow, hm]) (by simp [refreshRow, hm]) (by simp [refreshRow, hm])
  · exact of_clean rfl (by simp [Clean, refreshRow, hm])

theorem promote (h : RowSound t r) (hnow : now ≤ t) (hexp : expired now r = true) :
    RowSound t { r with circuitState := .halfOpen } := by
  obtain ⟨-, b, hb, hle⟩ := expired_iff.1 hexp
  refine ⟨h.current, fun hc => ?_, fun ho => ?_, fun _ => ⟨b, hb, by omega⟩⟩
  · cases hc
  · cases ho

theorem eligible_late (h : RowSound t r) (hlate : t + BACKOFF_MAX_MS ≤ now) :
    eligible (if expired now r then { r with circuitState := .halfOpen } else r) = true := by
  cases hc : r.circuitState with
  | closed =>
    have hexp : expired now r = false := by simp [expired, hc]
    simp [hexp, eligible, hc, h.current]
  | «open» =>
    obtain ⟨b, hb, hle⟩ := h.opened hc
    have hexp : expired now r = true := expired_iff.2 ⟨hc, b, hb, by omega⟩
    simp [hexp, eligible, h.current]
  | halfOpen =>
    have hexp : expired now r = false := by simp [expired, hc]
    simp [hexp, eligible, hc, h.current]

end RowSound

section Runs

variable {t now : Int} {db : RelayDb}

theorem Sound.failure (h : Sound t db) (hnow : now ≤ t) (id : NodeId) : Sound t (recordFailure bind id now db) := by
  unfold recordFailure
  split
  · rw [failureStatements_eq]
    exact forall_mem_update h fun r _ hr => hr.settle hnow
  · exact h

theorem Sound.connected (h : Sound t db) (hnow : now ≤ t) (id : NodeId) (result : ConnectResult) :
    Sound t (connect bind id now db result) := by
  cases result with
  | connectFailed err =>
    simp only [connect]
    split
    · exact forall_mem_update h fun r _ hr => hr.terminal hnow
    · exact h.failure hnow id
  | timedOut | rejected => exact h.failure hnow id
  | accepted => exact forall_mem_update h fun r _ hr => RowSound.of_clean hr.current ⟨rfl, rfl, rfl⟩
  | aborted => exact h

theorem fetchBest_snd (now : Int) (draw : Nat → ℚ) (db : RelayDb) : (fetchBest now draw db).2 = promote now db := by
  unfold fetchBest
  split <;> rfl

theorem Sound.after_step (h : Sound t db) (op : Op) (ht : ∀ x ∈ op.time, x ≤ t) : Sound t (step bind db op) := by
  cases op with
  | resolve relays now =>
    exact forall_refresh relays h (fun d r hr => hr.refresh d) fun d => RowSound.of_clean rfl ⟨rfl, rfl, rfl⟩
  | fetch now draw =>
    simp only [step, fetchBest_snd]
    exact forall_mem_update h fun r hexp hr => hr.promote (ht now rfl) hexp
  | connect id now result => exact h.connected (ht now rfl) id result
  | sampleRtt id rttMs => exact forall_mem_update h fun r _ hr => hr.congr hr.current rfl rfl rfl
  | connectionLost id now => exact h.failure (ht now rfl) id

theorem sound_run (ops : List Op) (t : Int) (hclock : ∀ op ∈ ops, ∀ x ∈ op.time, x ≤ t) : Sound t (run bind ops) :=
  Reach.foldl_invariant (P := Sound t) (fun _ op hop h => h.after_step op hop) (fun _ hr => absurd hr List.not_mem_nil) hclock

end Runs

section Pick

variable {ranked : List (ℚ × Candidate)} {draw : Nat → ℚ} {c : Candidate}

theorem pickWeighted_mem (pick : ℚ) (dflt : Candidate) (l : List (ℚ × Candidate)) :
    pickWeighted pick dflt l = dflt ∨ ∃ p ∈ l, p.2 = pickWeighted pick dflt l := by
  induction l generalizing pick with
  | nil => exact .inl rfl
  | cons p l ih =>
    obtain ⟨s, c⟩ := p
    by_cases hs : pick - s ≤ 0
    · exact .inr ⟨(s, c), List.mem_cons_self, by simp [pickWeighted, hs]⟩
    · rcases ih (pick - s) with h | ⟨q, hq, h⟩
      · exact .inl (by simpa [pickWeighted, hs] using h)
      · exact .inr ⟨q, List.mem_cons_of_mem _ hq, by simpa [pickWeighted, hs] using h⟩

theorem choose_some (h : choose ranked draw = some c) :
    (TOP_N < ranked.length ∧ draw 0 < EXPLORE_PROBABILITY) ∧ (∃ p ∈ ranked.drop TOP_N, p.2 = c) ∨
      ¬(TOP_N < ranked.length ∧ draw 0 < EXPLORE_PROBABILITY) ∧ ∃ p ∈ ranked.take TOP_N, p.2 = c := by
  unfold choose at h
  split at h
  next hexp =>
    obtain ⟨p, hp, rfl⟩ := Option.map_eq_some_iff.1 h
    exact .inl ⟨hexp, p, List.mem_of_getElem? hp, rfl⟩
  next hexp =>
    obtain ⟨last, hlast, rfl⟩ := Option.map_eq_some_iff.1 h
    refine .inr ⟨hexp, ?_⟩
    rcases pickWeighted_mem _ last.2 (ranked.take TOP_N) with hd | hq
    · exact ⟨last, List.mem_of_getLast? hlast, hd.symm⟩
    · exact hq

theorem choose_mem (h : choose ranked draw = some c) : ∃ p ∈ ranked, p.2 = c := by
  rcases choose_some h with ⟨-, p, hp, hpc⟩ | ⟨-, p, hp, hpc⟩
  · exact ⟨p, List.mem_of_mem_drop hp, hpc⟩
  · exact ⟨p, List.mem_of_mem_take hp, hpc⟩

theorem choose_isSome (draw : Nat → ℚ) (h : ranked ≠ []) : (choose ranked draw).isSome := by
  unfold choose
  split
  next hexp =>
    -- the clamped index falls inside the tail, which holds the ranks past `TOP_N`
    have hlen : 0 < (ranked.drop TOP_N).length := by
      rw [List.length_drop]
      omega
    have hidx : min ⌊draw 1 * ((ranked.drop TOP_N).length : ℚ)⌋.toNat ((ranked.drop TOP_N).length - 1) <
        (ranked.drop TOP_N).length := by omega
    simp only [Option.isSome_map]
    rw [List.getElem?_eq_getElem hidx]
    rfl
  next =>
    simp only [Option.isSome_map, List.getLast?_isSome, ne_eq, List.take_eq_nil_iff, not_or]
    exact ⟨by decide, h⟩

theorem choose_nil (draw : Nat → ℚ) : choose [] draw = none := by
  simp [choose, TOP_N]

theorem choose_singleton (p : ℚ × Candidate) (draw : Nat → ℚ) : choose [p] draw = some p.2 := by
  simp [choose, pickWeighted, TOP_N]

theorem mem_rank {cs : List Candidate} {p : ℚ × Candidate} (h : p ∈ rank cs) : p.2 ∈ cs := by
  simp only [rank, List.mem_mergeSort, List.mem_map] at h
  obtain ⟨c, hc, rfl⟩ := h
  exact hc

theorem length_rank (cs : List Candidate) : (rank cs).length = cs.length := by
  simp [rank, List.length_mergeSort]

theorem pairwise_rank (cs : List Candidate) : (rank cs).Pairwise fun a b => b.1 ≤ a.1 := by
  have htrans : ∀ a b c : ℚ × Candidate,
      decide (b.1 ≤ a.1) = true → decide (c.1 ≤ b.1) = true → decide (c.1 ≤ a.1) = true := by
    intro a b c hab hbc
    simp only [decide_eq_true_eq] at *
    exact le_trans hbc hab
  have htotal : ∀ a b : ℚ × Candidate, (decide (b.1 ≤ a.1) || decide (a.1 ≤ b.1)) = true := by
    intro a b
    simpa using le_total b.1 a.1
  exact (List.pairwise_mergeSort htrans htotal _).imp fun h => by simpa using h

end Pick

section Fetch

variable {now : Int} {draw : Nat → ℚ} {db : RelayDb} {relay : Relay}

theorem mem_candidates {c : Candidate} :
    c ∈ candidates now db ↔ ∃ r ∈ (promote now db).rows, eligible r = true ∧ r.candidate = c := by
  simp [candidates, and_assoc]

theorem fetchBest_ok_iff :
    (fetchBest now draw db).1 = .ok relay ↔ ∃ c, choose (rank (candidates now db)) draw = some c ∧ c.relay = relay := by
  unfold fetchBest
  split
  next c hc => simp [hc]
  next hc => simp [hc]

theorem fetchBest_none_iff : (fetchBest now draw db).1 = .error .noneAvailable ↔ candidates now db = [] := by
  rw [← List.length_eq_zero_iff, ← length_rank, List.length_eq_zero_iff]
  unfold fetchBest
  split
  next c hc =>
    -- a pick means a candidate
    have hne : rank (candidates now db) ≠ [] := by
      intro hnil
      rw [hnil, choose_nil] at hc
      cases hc
    simp [hne]
  next hc =>
    have hnil : rank (candidates now db) = [] := by
      by_contra hne
      have hsome := choose_isSome draw hne
      rw [hc] at hsome
      cases hsome
    simp [hnil]

theorem picked_row (h : (fetchBest now draw db).1 = .ok relay) :
    ∃ r ∈ db.rows, r.relay = relay ∧
      eligible (if expired now r then { r with circuitState := .halfOpen } else r) = true := by
  obtain ⟨c, hc, rfl⟩ := fetchBest_ok_iff.1 h
  obtain ⟨p, hp, rfl⟩ := choose_mem hc
  obtain ⟨r', hr', helig, hcand⟩ := mem_candidates.1 (mem_rank hp)
  obtain ⟨r, hr, rfl⟩ := RelayDb.mem_update.1 hr'
  refine ⟨r, hr, ?_, helig⟩
  rw [← hcand]
  split <;> rfl

end Fetch

def sampleDescriptor : RelayDescriptor := ⟨Bytes.replicate 32 7, ⟨[10, 0, 0, 1], 443⟩⟩

def sampleRelay : Relay := ⟨Bytes.replicate 32 7, [10, 0, 0, 1], 443⟩

/-- A binding layer that refuses every miscounted call, as rusqlite's `Statement::bind_parameters`
does. -/
def strictBind (expected given : Nat) : Except BindError Unit :=
  if given = expected then .ok () else .error (.invalidParameterCount given expected)

theorem strictBind_invalidParameterCount : InvalidParameterCount strictBind :=
  fun _ _ h => ⟨_, if_neg h⟩

theorem clean_refreshRow {r : RelayRow} (h : Clean r) (d : RelayDescriptor) : Clean (refreshRow d r) := by
  cases hm : moved d r
  · simpa [Clean, refreshRow, hm] using h
  · simp [Clean, refreshRow, hm]

theorem clean_after_step (hbind : InvalidParameterCount bind) {db : RelayDb} (h : ∀ r ∈ db.rows, Clean r) (op : Op)
    (hop : op.terminal = false) :
    ∀ r ∈ (step bind db op).rows, Clean r := by
  cases op with
  | resolve relays now =>
    exact forall_refresh relays h (fun d r hr => clean_refreshRow hr d) fun d => ⟨rfl, rfl, rfl⟩
  | fetch now draw =>
    simp only [step, fetchBest_snd]
    -- a clean circuit is closed, so the promotion passes it by
    exact forall_mem_update h fun r hexp hr => absurd (expired_iff.1 hexp).1 (by rw [hr.1]; decide)
  | connect id now result =>
    cases result with
    | connectFailed err =>
      simp only [Op.terminal] at hop
      simpa only [step, connect, hop, Bool.false_eq_true, if_false, recordFailure_unbound hbind] using h
    | timedOut | rejected | aborted => simpa only [step, connect, recordFailure_unbound hbind] using h
    | accepted => exact forall_mem_update h fun r _ _ => ⟨rfl, rfl, rfl⟩
  | sampleRtt id rttMs => exact forall_mem_update h fun r _ hr => hr
  | connectionLost id now => simpa only [step, recordFailure_unbound hbind] using h

theorem failures_never_trip (hbind : InvalidParameterCount bind) (ops : List Op)
    (hterm : ∀ op ∈ ops, op.terminal = false) :
    ∀ r ∈ (run bind ops).rows, r.circuitState = .closed ∧ r.backoffUntil = none ∧ r.consecutiveFailures = 0 :=
  Reach.foldl_invariant (P := fun db : RelayDb => ∀ r ∈ db.rows, Clean r)
    (fun _ op hop h => clean_after_step hbind h op hop) (fun _ hr => absurd hr List.not_mem_nil) hterm

theorem failures_never_trip_timeouts :
    InvalidParameterCount strictBind ∧
      (freshRow 0 sampleDescriptor).circuitState = .closed ∧ (freshRow 0 sampleDescriptor).backoffUntil = none ∧
      (freshRow 0 sampleDescriptor).consecutiveFailures = 0 :=
  ⟨strictBind_invalidParameterCount, failures_never_trip strictBind_invalidParameterCount
    [.resolve [sampleDescriptor] 0, .connect sampleDescriptor.id 1 .timedOut,
      .connect sampleDescriptor.id 2 .timedOut, .connect sampleDescriptor.id 3 .rejected,
      .connectionLost sampleDescriptor.id 4] (by decide) _ (by decide)⟩

theorem fetch_respects_backoff (ops : List Op) (now : Int) (draw : Nat → ℚ) (relay : Relay)
    (hclock : ∀ op ∈ ops, ∀ t ∈ op.time, t ≤ now) (h : (fetchBest now draw (run bind ops)).1 = .ok relay) :
    ∃ r ∈ (run bind ops).rows, r.relay = relay ∧
      (r.circuitState = .closed ∧ r.consecutiveFailures < FAILURE_THRESHOLD ∧ r.backoffUntil = none ∨
        ∃ b, r.backoffUntil = some b ∧ b ≤ now) := by
  obtain ⟨r, hr, hrelay, helig⟩ := picked_row h
  have hsound := sound_run ops now hclock r hr
  refine ⟨r, hr, hrelay, ?_⟩
  split at helig
  next hexp =>
    -- promoted by this very call: its deadline has passed
    obtain ⟨-, b, hb, hle⟩ := expired_iff.1 hexp
    exact .inr ⟨b, hb, hle⟩
  next =>
    -- a candidate as it stood: closed, or half-open and so past its deadline
    cases hc : r.circuitState with
    | closed => exact .inl ⟨rfl, hsound.closed hc⟩
    | «open» => simp [eligible, hc] at helig
    | halfOpen => exact .inr (hsound.halfOpen hc)

theorem fetchBest_sample : (fetchBest 0 (fun _ => 0) (run strictBind [.resolve [sampleDescriptor] 0])).1 = .ok sampleRelay := by
  have hcand : candidates 0 (run strictBind [.resolve [sampleDescriptor] 0]) = [(freshRow 0 sampleDescriptor).candidate] := rfl
  rw [fetchBest_ok_iff, hcand]
  exact ⟨(freshRow 0 sampleDescriptor).candidate,
    by simp only [rank, List.map_cons, List.map_nil, List.mergeSort_singleton, choose_singleton], rfl⟩

theorem fetch_respects_backoff_fresh :
    ∃ r ∈ (run strictBind [.resolve [sampleDescriptor] 0]).rows, r.relay = sampleRelay ∧
      (r.circuitState = .closed ∧ r.consecutiveFailures < FAILURE_THRESHOLD ∧ r.backoffUntil = none ∨
        ∃ b, r.backoffUntil = some b ∧ b ≤ 0) :=
  fetch_respects_backoff [.resolve [sampleDescriptor] 0] 0 (fun _ => 0) sampleRelay (by simp [Op.time])
    fetchBest_sample

theorem fetch_available_after_backoff (ops : List Op) (t now : Int) (draw : Nat → ℚ)
    (hclock : ∀ op ∈ ops, ∀ x ∈ op.time, x ≤ t) (hlate : t + BACKOFF_MAX_MS ≤ now) :
    (fetchBest now draw (run bind ops)).1 = .error .noneAvailable ↔ (run bind ops).rows = [] := by
  rw [fetchBest_none_iff]
  constructor
  · intro hnil
    -- once the cap has run out every row is a candidate
    rcases hrows : (run bind ops).rows with _ | ⟨r, rows⟩
    · rfl
    · have hr : r ∈ (run bind ops).rows := by
        rw [hrows]
        exact List.mem_cons_self
      have hmem := mem_candidates.2
        ⟨_, RelayDb.mem_update.2 ⟨r, hr, rfl⟩, (sound_run ops t hclock r hr).eligible_late hlate, rfl⟩
      rw [hnil] at hmem
      cases hmem
  · intro hnil
    simp [candidates, promote, RelayDb.update, Table.update, hnil]

theorem fetch_available_after_backoff_terminal :
    (fetchBest (1 + BACKOFF_MAX_MS) (fun _ => 0) (run strictBind [.resolve [sampleDescriptor] 0,
      .connect sampleDescriptor.id 1 (.connectFailed (.transportError 0x12a))])).1 = .error .noneAvailable ↔
      (run strictBind [.resolve [sampleDescriptor] 0,
        .connect sampleDescriptor.id 1 (.connectFailed (.transportError 0x12a))]).rows = [] :=
  fetch_available_after_backoff _ 1 (1 + BACKOFF_MAX_MS) _ (by simp [Op.time]) le_rfl

theorem expired_terminalRow (now now' : Int) (r : RelayRow) :
    expired now' (terminalRow now r) = decide (now + BACKOFF_TERMINAL_MS ≤ now') := by
  simp [expired, terminalRow]

theorem terminal_failure_sidelines (id : NodeId) (now now' : Int) (db : RelayDb) :
    (∃ c ∈ candidates now' (recordTerminalFailure id now db), c.relay.id = id) ↔
      (∃ r ∈ db.rows, r.id = id ∧ r.protocolVersion = PROTOCOL_VERSION) ∧ now + BACKOFF_TERMINAL_MS ≤ now' := by
  constructor
  · rintro ⟨c, hc, hcid⟩
    obtain ⟨r₂, hr₂, helig, rfl⟩ := mem_candidates.1 hc
    obtain ⟨r₁, hr₁, rfl⟩ := RelayDb.mem_update.1 hr₂
    obtain ⟨r, hr, rfl⟩ := RelayDb.mem_update.1 hr₁
    -- the candidate carries `id`, so its row is the one the failure wrote
    have hid : r.id = id := by
      rw [← hcid]
      split_ifs <;> rfl
    rw [if_pos (byId_iff.2 hid), expired_terminalRow] at helig
    by_cases hle : now + BACKOFF_TERMINAL_MS ≤ now'
    · refine ⟨⟨r, hr, hid, ?_⟩, hle⟩
      rw [decide_eq_true hle, if_pos rfl] at helig
      simpa [eligible, terminalRow] using helig
    · -- before the deadline the row is still open, and no candidate
      rw [decide_eq_false hle] at helig
      simp [eligible, terminalRow] at helig
  · rintro ⟨⟨r, hr, hid, hv⟩, hle⟩
    have hr₁ : terminalRow now r ∈ (recordTerminalFailure id now db).rows :=
      RelayDb.mem_update_of_mem hr (byId_iff.2 hid)
    have hr₂ : { terminalRow now r with circuitState := .halfOpen } ∈
        (promote now' (recordTerminalFailure id now db)).rows :=
      RelayDb.mem_update_of_mem hr₁ (by simp [expired_terminalRow, hle])
    exact ⟨_, mem_candidates.2 ⟨_, hr₂, by simp [eligible, terminalRow, hv], rfl⟩, hid⟩

/-- How `refresh` leaves a row it finds: its stats as they were, and its circuit either started
over or kept along with its address. -/
def Refreshed (r r' : RelayRow) : Prop :=
  r'.id = r.id ∧ r'.windowAttempts = r.windowAttempts ∧ r'.windowSuccesses = r.windowSuccesses ∧
    r'.windowStart = r.windowStart ∧ r'.lastLatency = r.lastLatency ∧
    (Clean r' ∨ r'.circuitState = r.circuitState ∧ r'.backoffUntil = r.backoffUntil ∧
      r'.consecutiveFailures = r.consecutiveFailures ∧ r'.host = r.host ∧ r'.port = r.port)

theorem Refreshed.refl (r : RelayRow) : Refreshed r r :=
  ⟨rfl, rfl, rfl, rfl, rfl, .inr ⟨rfl, rfl, rfl, rfl, rfl⟩⟩

theorem Refreshed.trans {r₁ r₂ r₃ : RelayRow} (h₁ : Refreshed r₁ r₂) (h₂ : Refreshed r₂ r₃) : Refreshed r₁ r₃ := by
  obtain ⟨hi₁, ha₁, hs₁, hw₁, hl₁, hc₁⟩ := h₁
  obtain ⟨hi₂, ha₂, hs₂, hw₂, hl₂, hc₂⟩ := h₂
  refine ⟨hi₂.trans hi₁, ha₂.trans ha₁, hs₂.trans hs₁, hw₂.trans hw₁, hl₂.trans hl₁, ?_⟩
  rcases hc₂ with hclean | ⟨hc, hb, hf, hh, hp⟩
  · exact .inl hclean
  · -- the second kept the circuit, so it is as clean, or as kept, as after the first
    rcases hc₁ with ⟨hc', hb', hf'⟩ | ⟨hc', hb', hf', hh', hp'⟩
    · exact .inl ⟨hc.trans hc', hb.trans hb', hf.trans hf'⟩
    · exact .inr ⟨hc.trans hc', hb.trans hb', hf.trans hf', hh.trans hh', hp.trans hp'⟩

theorem refreshed_refreshRow (d : RelayDescriptor) (r : RelayRow) : Refreshed r (refreshRow d r) := by
  refine ⟨rfl, rfl, rfl, rfl, rfl, ?_⟩
  cases hm : moved d r
  · -- not moved: the descriptor carries the stored address
    have ⟨hh, hp⟩ : r.host = d.addr.ip ∧ r.port = d.addr.port := by simpa [moved] using hm
    exact .inr ⟨by simp [refreshRow, hm], by simp [refreshRow, hm], by simp [refreshRow, hm], hh.symm, hp.symm⟩
  · exact .inl ⟨by simp [refreshRow, hm], by simp [refreshRow, hm], by simp [refreshRow, hm]⟩

theorem exists_refreshed_upsert (now : Int) (db : RelayDb) (d : RelayDescriptor) {r : RelayRow}
    (hr : r ∈ db.rows) : ∃ r' ∈ (upsert now db d).rows, Refreshed r r' := by
  unfold upsert
  split
  · refine ⟨_, RelayDb.mem_update.2 ⟨r, hr, rfl⟩, ?_⟩
    split
    · exact refreshed_refreshRow d r
    · exact Refreshed.refl r
  · exact ⟨r, List.mem_append_left _ hr, Refreshed.refl r⟩

theorem refresh_keeps_or_resets (now : Int) (relays : List RelayDescriptor) (db : RelayDb) (r : RelayRow)
    (hr : r ∈ db.rows) : ∃ r' ∈ (refresh now relays db).rows, Refreshed r r' := by
  induction relays generalizing db r with
  | nil => exact ⟨r, hr, Refreshed.refl r⟩
  | cons d ds ih =>
    simp only [refresh]
    split
    · exact ⟨r, hr, Refreshed.refl r⟩
    · obtain ⟨r₁, hr₁, h₁⟩ := exists_refreshed_upsert now db d hr
      obtain ⟨r', hr', h₂⟩ := ih (upsert now db d) r₁ hr₁
      exact ⟨r', hr', h₁.trans h₂⟩

theorem refresh_keeps_or_resets_moved :
    ∃ r' ∈ (refresh 1 [⟨sampleDescriptor.id, ⟨[10, 0, 0, 2], 443⟩⟩] (run strictBind [.resolve [sampleDescriptor] 0])).rows,
      Refreshed (freshRow 0 sampleDescriptor) r' :=
  refresh_keeps_or_resets 1 _ _ _ (by decide)

theorem fetch_exploits_top (now : Int) (draw : Nat → ℚ) (db : RelayDb) (relay : Relay)
    (h : (fetchBest now draw db).1 = .ok relay) :
    (TOP_N < (candidates now db).length ∧ draw 0 < EXPLORE_PROBABILITY ∧
        ∃ p ∈ (rank (candidates now db)).drop TOP_N, p.2.relay = relay) ∨
      (¬(TOP_N < (candidates now db).length ∧ draw 0 < EXPLORE_PROBABILITY) ∧
        ∃ p ∈ (rank (candidates now db)).take TOP_N, p.2.relay = relay ∧
          ∀ q ∈ (rank (candidates now db)).drop TOP_N, q.1 ≤ p.1) := by
  obtain ⟨c, hc, rfl⟩ := fetchBest_ok_iff.1 h
  rw [← length_rank]
  rcases choose_some hc with ⟨hexp, p, hp, rfl⟩ | ⟨hexp, p, hp, rfl⟩
  · exact .inl ⟨hexp.1, hexp.2, p, hp, rfl⟩
  · -- exploited: the pool is the head of the descending ranking
    have hsorted := pairwise_rank (candidates now db)
    rw [← List.take_append_drop TOP_N (rank (candidates now db)), List.pairwise_append] at hsorted
    exact .inr ⟨hexp, p, hp, rfl, fun q hq => hsorted.2.2 p hp q hq⟩

theorem fetch_exploits_top_lone :
    (TOP_N < (candidates 0 (run strictBind [.resolve [sampleDescriptor] 0])).length ∧ (0 : ℚ) < EXPLORE_PROBABILITY ∧
        ∃ p ∈ (rank (candidates 0 (run strictBind [.resolve [sampleDescriptor] 0]))).drop TOP_N, p.2.relay = sampleRelay) ∨
      (¬(TOP_N < (candidates 0 (run strictBind [.resolve [sampleDescriptor] 0])).length ∧ (0 : ℚ) < EXPLORE_PROBABILITY) ∧
        ∃ p ∈ (rank (candidates 0 (run strictBind [.resolve [sampleDescriptor] 0]))).take TOP_N, p.2.relay = sampleRelay ∧
          ∀ q ∈ (rank (candidates 0 (run strictBind [.resolve [sampleDescriptor] 0]))).drop TOP_N, q.1 ≤ p.1) :=
  fetch_exploits_top 0 (fun _ => 0) _ sampleRelay fetchBest_sample

end Promtuz.RelayTable
