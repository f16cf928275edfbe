import LatticeNodes.Analysis.ReceiveQueue
import LatticeNodes.Analysis.RelayStages
import LatticeNodes.Analysis.TrustAnchor

/-!
# When the deferred relay is sent

From the beacon that schedules a relay on, the node goes through `Mesh::loop` at later and later
times, and accepts no further beacon.  The due time is a 32-bit sum and compared as a number, so
a call sends the relay when its reading is at least that of the due time (`Fires`), whichever of
the two has wrapped.  `relay_onTime_iff` says for which times this is the first call that is due.
-/

set_option autoImplicit false

namespace LatticeNodes.Analysis

open LatticeNodes.Program TransitionSystem WrappingClock

namespace RelayTimer

/-! ## What leaves the deferred relay alone -/

/-- The deferred relay is the same. -/
structure SameRelay (m m' : Mesh) : Prop where
  relayPending : m'.relayPending = m.relayPending
  relayPendingAt : m'.relayPendingAt = m.relayPendingAt
  relayPendingMsg : m'.relayPendingMsg = m.relayPendingMsg

instance (m m' : Mesh) : Decidable (SameRelay m m') :=
  decidable_of_iff
    (m'.relayPending = m.relayPending ∧ m'.relayPendingAt = m.relayPendingAt ∧
      m'.relayPendingMsg = m.relayPendingMsg)
    ⟨fun ⟨hpending, hat, hmsg⟩ => ⟨hpending, hat, hmsg⟩,
      fun ⟨hpending, hat, hmsg⟩ => ⟨hpending, hat, hmsg⟩⟩

/-- Doing nothing keeps the relay and its time. -/
theorem SameRelay.refl (m : Mesh) : SameRelay m m :=
  ⟨rfl, rfl, rfl⟩

/-- What two steps keep, they keep together. -/
theorem SameRelay.trans {m₁ m₂ m₃ : Mesh} (h : SameRelay m₁ m₂) (h' : SameRelay m₂ m₃) :
    SameRelay m₁ m₃ where
  relayPending := h'.relayPending.trans h.relayPending
  relayPendingAt := h'.relayPendingAt.trans h.relayPendingAt
  relayPendingMsg := h'.relayPendingMsg.trans h.relayPendingMsg

/-- A message that is no accepted beacon leaves the deferred relay alone.
SOURCE: Mesh.cpp:563-604 -/
theorem handleEntry_sameRelay {m : Mesh} {env : Env} {entry : RecvQueueEntry}
    (h : TrustAnchor.accepts m env entry = false) : SameRelay m (m.handleEntry env entry).1 := by
  cases hreceived : received m env entry with
  | none =>
      rw [handleEntry_of_dropped hreceived]
      exact .refl m
  | some m₁ =>
      have hgate : SameRelay m m₁ := by
        rw [received_frame hreceived]
        exact ⟨rfl, rfl, rfl⟩
      rw [handleEntry_of_received hreceived]
      refine hgate.trans ?_
      by_cases hbeacon : entry.msg.messageType = MeshMessageType.masterBeacon
      · rw [TrustAnchor.accepts, hreceived] at h
        simp only [hbeacon, beq_self_eq_true, Bool.true_and] at h
        rw [dispatch_masterBeacon m₁ env hbeacon]
        rcases processMasterBeacon_inv m₁ env entry.msg with
          ⟨-, heq⟩ | ⟨m₂, trusted, haccepted, -⟩
        · rw [heq]
          exact .refl m₁
        · rw [h] at haccepted
          cases haccepted
      · obtain ⟨mac, pubKey, relay, master, hasMaster, heq⟩ := dispatch_frame_of_ne m₁ env hbeacon
        rw [heq]
        exact ⟨rfl, rfl, rfl⟩

/-- One of the messages that a round of the drain takes is an accepted beacon.
SOURCE: Mesh.cpp:563-604 -/
def drainsBeacon (m : Mesh) (env : ℕ → Env) : ℕ → Bool
  | 0 => false
  | n + 1 =>
      if m.recvQueue.tail = m.recvQueue.head then false
      else
        TrustAnchor.accepts (taken m) (env 0) (current m) ||
          drainsBeacon ((taken m).handleEntry (env 0) (current m)).1 (fun i => env (i + 1)) n

/-- A drain without a beacon keeps them.
SOURCE: Mesh.cpp:563-604 -/
theorem drainEntries_sameRelay {m : Mesh} {env : ℕ → Env} {n : ℕ}
    (h : drainsBeacon m env n = false) : SameRelay m (m.drainEntries env n).1 := by
  induction n generalizing m env with
  | zero => exact .refl m
  | succ n ih =>
      by_cases hempty : m.recvQueue.tail = m.recvQueue.head
      · rw [drainEntries_of_empty hempty]
        exact .refl m
      · rw [drainsBeacon, if_neg hempty, Bool.or_eq_false_iff] at h
        have htaken : SameRelay m (taken m) := ⟨rfl, rfl, rfl⟩
        rw [drainEntries_succ hempty]
        exact (htaken.trans (handleEntry_sameRelay h.1)).trans (ih h.2)

/-! ## The timed work -/

/-- The relay is due at a reading.
SOURCE: Mesh.cpp:1100 -/
def due (m : Mesh) (now : UInt32) : Bool :=
  m.relayPending && decide (m.relayPendingAt ≤ now)

/-- A due relay is handed to the transmission, and is pending no longer.
SOURCE: Mesh.cpp:1099-1105 -/
theorem dispatchRelay_of_due {m : Mesh} {env : Env} (h : due m env.millis = true) :
    m.dispatchRelay env =
      ({ m with relayPending := false }).transmitCore env m.relayPendingMsg.dataType
        m.relayPendingMsg.data MeshMessageType.masterBeacon (some m.relayPendingMsg) :=
  if_pos h

/-- A relay that is not due waits.
SOURCE: Mesh.cpp:1099-1105 -/
theorem dispatchRelay_of_not_due {m : Mesh} {env : Env} (h : due m env.millis = false) :
    m.dispatchRelay env = (m, []) :=
  if_neg (Bool.eq_false_iff.mp h)

/-- The flag is lowered exactly when the relay is due.
SOURCE: Mesh.cpp:1099-1105 -/
theorem dispatchRelay_relay (m : Mesh) (env : Env) :
    (m.dispatchRelay env).1.relayPending = (m.relayPending && !due m env.millis) ∧
      (m.dispatchRelay env).1.relayPendingAt = m.relayPendingAt := by
  cases hdue : due m env.millis with
  | true =>
      rw [dispatchRelay_of_due hdue]
      refine ⟨?_, rfl⟩
      rw [Bool.not_true, Bool.and_false]
      rfl
  | false =>
      rw [dispatchRelay_of_not_due hdue]
      refine ⟨?_, rfl⟩
      rw [Bool.not_false, Bool.and_true]

/-- The timed work clears the relay exactly when it is due.
SOURCE: Mesh.cpp:1095-1111 -/
theorem timedWork_relay (m : Mesh) (env : Env) :
    (m.timedWork env).1.relayPending = (m.relayPending && !due m env.millis) ∧
      (m.timedWork env).1.relayPendingAt = m.relayPendingAt := by
  have hdrained : SameRelay m m.drainPendingEnrollment.1 := by
    rw [drainPendingEnrollment_frame]
    exact ⟨rfl, rfl, rfl⟩
  have hdue : due m.drainPendingEnrollment.1 env.millis = due m env.millis := by
    rw [due, due, hdrained.relayPending, hdrained.relayPendingAt]
  obtain ⟨hpending, hat⟩ := dispatchRelay_relay m.drainPendingEnrollment.1 env
  rw [hdue, hdrained.relayPending] at hpending
  rw [hdrained.relayPendingAt] at hat
  unfold Mesh.timedWork
  simp only
  split
  · rw [broadcastMasterBeacon_frame]
    exact ⟨hpending, hat⟩
  · exact ⟨hpending, hat⟩

/-- `Mesh::loop` does so too, as long as it drains no accepted beacon.
SOURCE: Mesh.cpp:1091-1111 -/
theorem loop_relay {m : Mesh} {env : ℕ → Env} (late : Env)
    (h : drainsBeacon m env recvQueueSize = false) :
    (m.loop env late).1.relayPending = (m.relayPending && !due m late.millis) ∧
      (m.loop env late).1.relayPendingAt = m.relayPendingAt := by
  have hdrained : SameRelay m (m.drainRecvQueue env).1 := drainEntries_sameRelay h
  obtain ⟨hpending, hat⟩ := timedWork_relay (m.drainRecvQueue env).1 late
  rw [due, hdrained.relayPending, hdrained.relayPendingAt] at hpending
  rw [hdrained.relayPendingAt] at hat
  exact ⟨hpending, hat⟩

/-! ## The system -/

/-- The node since a relay was scheduled, the times of its calls of `loop` after that and of the
calls that dispatched the relay, oldest first. -/
structure State where
  mesh : Mesh
  scheduledAt : UInt32
  jitterMs : ℕ
  calls : List ℕ
  dispatched : List ℕ

/-- The clock `d` ms after the relay was scheduled. -/
def State.now (s : State) (d : ℕ) : UInt32 :=
  reading (s.scheduledAt.toNat + d)

inductive Event where
  | loop (d : ℕ) (env : ℕ → Env) (late : Env)
  /-- Any work of the node between two calls. -/
  | other (m' : Mesh)

def step (s : State) : Event → Option State
  | .loop d env late =>
      if (∀ c ∈ s.calls, c < d) ∧ d < 2 ^ 31 ∧ late.millis = s.now d ∧
          drainsBeacon s.mesh env recvQueueSize = false then
        some { s with
          mesh := (s.mesh.loop env late).1
          calls := s.calls ++ [d]
          dispatched :=
            if s.mesh.relayPending && !(s.mesh.loop env late).1.relayPending then
              s.dispatched ++ [d]
            else s.dispatched }
      else none
  | .other m' => if SameRelay s.mesh m' then some { s with mesh := m' } else none

/-- A beacon has just scheduled a relay.
SOURCE: Mesh.cpp:899-920 -/
structure Start (s : State) : Prop where
  scheduled : ∃ m env msg, Schedules m env msg ∧ s.mesh = (m.processMasterBeacon env msg).1 ∧
    s.scheduledAt = env.millisLate ∧
    s.jitterMs = (env.espRandom % Config.relayJitterMaxMs).toNat
  calls : s.calls = []
  dispatched : s.dispatched = []

def system : System State Event where
  Init := Start
  step := step

/-! ## Statement -/

/-- The call comes when the relay is due: 10 ms and the jitter after it was scheduled. -/
def State.late (s : State) (d : ℕ) : Bool :=
  decide (10 + s.jitterMs ≤ d)

/-- The relay was dispatched in the first call that was due, and in no other. -/
def OnTime (s : State) : Prop :=
  s.dispatched = (s.calls.find? s.late).toList

/-- The clock has not wrapped between the due time and the first call that is due; or it wraps
before the due time, and no call comes before it wraps. -/
def Timely (s : State) : Prop :=
  if s.scheduledAt.toNat + 10 + s.jitterMs < UInt32.size then
    ∀ d, s.calls.find? s.late = some d → s.scheduledAt.toNat + d < UInt32.size
  else ∀ d ∈ s.calls, d < 10 + s.jitterMs → UInt32.size ≤ s.scheduledAt.toNat + d

/-- The object when the loop comes to the deferred relay.
SOURCE: Mesh.cpp:1091-1099 -/
def atRelay (m : Mesh) (env : ℕ → Env) : Mesh :=
  (m.drainRecvQueue env).1.drainPendingEnrollment.1

/-- A call that is noted down hands the relay to the transmission, and any other one does not.
SOURCE: Mesh.cpp:1099-1105 -/
def Transmits (s : State) : Prop :=
  ∀ d env late s', step s (.loop d env late) = some s' →
    (s'.dispatched = s.dispatched ++ [d] ∧
      (atRelay s.mesh env).dispatchRelay late =
        ({ atRelay s.mesh env with relayPending := false }).transmitCore late
          s.mesh.relayPendingMsg.dataType s.mesh.relayPendingMsg.data
          MeshMessageType.masterBeacon (some s.mesh.relayPendingMsg)) ∨
    (s'.dispatched = s.dispatched ∧
      (atRelay s.mesh env).dispatchRelay late = (atRelay s.mesh env, []))

/-! ## The invariant -/

/-- The comparison of the two numbers.
SOURCE: Mesh.cpp:918, 1100 -/
def State.fires (s : State) (d : ℕ) : Bool :=
  decide ((s.scheduledAt.toNat + 10 + s.jitterMs) % UInt32.size ≤
    (s.scheduledAt.toNat + d) % UInt32.size)

/-- The relay is sent in the first call that fires. -/
structure Timed (s : State) : Prop where
  dueAt : s.mesh.relayPendingAt.toNat =
    (s.scheduledAt.toNat + 10 + s.jitterMs) % UInt32.size
  jitter : s.jitterMs < 64
  near : ∀ d ∈ s.calls, d < 2 ^ 31
  ordered : s.calls.Pairwise (· < ·)
  pending : s.mesh.relayPending = (s.calls.find? s.fires).isNone
  dispatched : s.dispatched = (s.calls.find? s.fires).toList

/-- The due time and the pending flag of a relay just scheduled.
SOURCE: Mesh.cpp:910-920 -/
theorem processMasterBeacon_scheduled {m : Mesh} {env : Env} {msg : MeshMessage}
    (h : Schedules m env msg) :
    (m.processMasterBeacon env msg).1.relayPending = true ∧
      (m.processMasterBeacon env msg).1.relayPendingAt =
        env.millisLate + 10 + (env.espRandom % Config.relayJitterMaxMs).toUInt8.toUInt32 := by
  obtain ⟨haccepted, hnode, hnew⟩ := h
  rcases processMasterBeacon_inv m env msg with
    ⟨hrejected, -⟩ | ⟨m', trusted, -, -, htrust, heq⟩
  · rw [hrejected] at haccepted
    cases haccepted
  · obtain ⟨-, hrole, hnewer⟩ := htrust.relay
    have hnotMaster : ¬(noted m' env msg).isMaster = true := by
      rw [Bool.not_eq_true]
      exact hrole.trans hnode
    have hkept : ¬(!(noted m' env msg).isNewer msg) = true := by
      rw [Bool.not_eq_true', Bool.not_eq_false]
      exact hnewer.trans hnew
    rw [heq, afterTrust, updateRoute_noteMaster, Mesh.relayBeacon, if_neg hnotMaster,
      if_neg hkept]
    exact ⟨rfl, rfl⟩

/-- The jitter is below 64 and fits in its byte. -/
theorem toNat_jitter (random : UInt32) :
    (random % Config.relayJitterMaxMs).toUInt8.toUInt32.toNat =
      (random % Config.relayJitterMaxMs).toNat ∧
    (random % Config.relayJitterMaxMs).toNat < 64 := by
  have hlt : (random % Config.relayJitterMaxMs).toNat < 64 := by
    rw [UInt32.toNat_mod]
    exact Nat.mod_lt _ (by decide)
  refine ⟨?_, hlt⟩
  rw [UInt8.toNat_toUInt32, UInt32.toNat_toUInt8]
  omega

/-- At the start the relay waits since no call. -/
theorem timed_of_start {s : State} (h : Start s) : Timed s := by
  obtain ⟨m, env, msg, hschedules, hmesh, hat, hjitter⟩ := h.scheduled
  obtain ⟨hpending, hdue⟩ := processMasterBeacon_scheduled hschedules
  obtain ⟨hsame, hlt⟩ := toNat_jitter env.espRandom
  constructor
  · have hten : (10 : UInt32).toNat = 10 := rfl
    rw [hmesh, hdue, UInt32.toNat_add, UInt32.toNat_add, hsame, hten, hat, hjitter]
    simp only [UInt32.size]
    omega
  · rw [hjitter]
    exact hlt
  · rw [h.calls]
    exact fun d hd => absurd hd List.not_mem_nil
  · rw [h.calls]
    exact List.Pairwise.nil
  · rw [hmesh, hpending, h.calls]
    rfl
  · rw [h.dispatched, h.calls]
    rfl

/-- A call sends the pending relay exactly when it fires. -/
theorem Timed.due_iff {s : State} (h : Timed s) (d : ℕ) :
    due s.mesh (s.now d) = (s.mesh.relayPending && s.fires d) := by
  rw [due, State.fires, State.now]
  congr 1
  rw [decide_eq_decide, UInt32.le_iff_toNat_le, toNat_reading, h.dueAt]

/-- A pass sends the relay or finds it early, as the real time says. -/
theorem Timed.loop {s : State} (h : Timed s) {d : ℕ} {env : ℕ → Env} {late : Env}
    (hlater : ∀ c ∈ s.calls, c < d) (hnear : d < 2 ^ 31) (hnow : late.millis = s.now d)
    (hquiet : drainsBeacon s.mesh env recvQueueSize = false) {s' : State}
    (hstep : s' = { s with
      mesh := (s.mesh.loop env late).1
      calls := s.calls ++ [d]
      dispatched :=
        if s.mesh.relayPending && !(s.mesh.loop env late).1.relayPending then s.dispatched ++ [d]
        else s.dispatched }) :
    Timed s' := by
  obtain ⟨hpending, hat⟩ := loop_relay late hquiet
  rw [hnow, h.due_iff] at hpending
  have hfind : (s.calls ++ [d]).find? s.fires =
      ((s.calls.find? s.fires).or (if s.fires d then some d else none)) := by
    rw [List.find?_append, List.find?_singleton]
  subst hstep
  constructor
  · exact hat ▸ h.dueAt
  · exact h.jitter
  · intro c hc
    rcases List.mem_append.mp hc with hc | hc
    · exact h.near c hc
    · rw [List.mem_singleton.mp hc]
      exact hnear
  · refine List.pairwise_append.mpr ⟨h.ordered, List.pairwise_singleton _ _, ?_⟩
    intro c hc d' hd'
    rw [List.mem_singleton.mp hd']
    exact hlater c hc
  · show (s.mesh.loop env late).1.relayPending = ((s.calls ++ [d]).find? s.fires).isNone
    rw [hpending, h.pending, hfind]
    cases s.calls.find? s.fires with
    | none => cases s.fires d <;> rfl
    | some c => rfl
  · show (if s.mesh.relayPending && !(s.mesh.loop env late).1.relayPending then
      s.dispatched ++ [d] else s.dispatched) = ((s.calls ++ [d]).find? s.fires).toList
    rw [hpending, h.pending, hfind, h.dispatched]
    cases s.calls.find? s.fires with
    | none => cases s.fires d <;> rfl
    | some c => rfl

/-- The relay is timed in every reachable state. -/
theorem timed_of_reachable {s : State} (h : system.Reachable s) : Timed s := by
  refine h.invariant ?_ ?_
  · exact fun s hs => timed_of_start hs
  intro s e s' hs hstep
  cases e with
  | loop d env late =>
      change step s (.loop d env late) = some s' at hstep
      simp only [RelayTimer.step, Option.ite_none_right_eq_some, Option.some.injEq] at hstep
      obtain ⟨⟨hlater, hnear, hnow, hquiet⟩, heq⟩ := hstep
      exact hs.loop hlater hnear hnow hquiet heq.symm
  | other m' =>
      change step s (.other m') = some s' at hstep
      simp only [RelayTimer.step, Option.ite_none_right_eq_some, Option.some.injEq] at hstep
      obtain ⟨hsame, rfl⟩ := hstep
      exact ⟨hsame.relayPendingAt ▸ hs.dueAt, hs.jitter, hs.near, hs.ordered,
        hsame.relayPending ▸ hs.pending, hs.dispatched⟩

/-! ## Result -/

/-- As long as the due time has not wrapped, a call fires when it is due and its reading has not
wrapped either. -/
theorem Timed.fires_iff_of_lt {s : State} (h : Timed s)
    (hdue : s.scheduledAt.toNat + 10 + s.jitterMs < UInt32.size) {d : ℕ} (hd : d ∈ s.calls) :
    s.fires d = true ↔ s.late d = true ∧ s.scheduledAt.toNat + d < UInt32.size := by
  have hnear := h.near d hd
  rw [State.fires, State.late, decide_eq_true_eq, decide_eq_true_eq]
  simp only [UInt32.size] at hdue ⊢
  omega

/-- When it has, a call fires when it is due, or before the clock wraps. -/
theorem Timed.fires_iff_of_le {s : State} (h : Timed s)
    (hdue : UInt32.size ≤ s.scheduledAt.toNat + 10 + s.jitterMs) {d : ℕ} (hd : d ∈ s.calls) :
    s.fires d = true ↔ s.late d = true ∨ s.scheduledAt.toNat + d < UInt32.size := by
  have hnear := h.near d hd
  have hjitter := h.jitter
  have hlt := s.scheduledAt.toNat_lt
  rw [State.fires, State.late, decide_eq_true_eq, decide_eq_true_eq]
  simp only [UInt32.size] at hdue ⊢
  omega

/-- A stricter test finds the same value first exactly when that value passes it. -/
theorem find?_eq_find?_iff {α : Type*} {p q : α → Bool} {l : List α}
    (h : ∀ b ∈ l, q b = true → p b = true) :
    l.find? q = l.find? p ↔ ∀ a, l.find? p = some a → q a = true := by
  constructor
  · intro heq a ha
    rw [← heq] at ha
    exact List.find?_some ha
  · intro hpass
    cases ha : l.find? p with
    | none =>
        rw [List.find?_eq_none] at ha ⊢
        exact fun b hb hq => ha b hb (h b hb hq)
    | some a =>
        obtain ⟨-, before, after, rfl, hbefore⟩ := List.find?_eq_some_iff_append.mp ha
        refine List.find?_eq_some_iff_append.mpr ⟨hpass a ha, before, after, rfl, ?_⟩
        intro b hb
        rw [Bool.not_eq_true', Bool.eq_false_iff]
        intro hq
        have hnot := hbefore b hb
        rw [h b (List.mem_append_left _ hb) hq] at hnot
        cases hnot

/-- In an ordered list the first value that passes a test is the least. -/
theorem find?_le {p : ℕ → Bool} {l : List ℕ} (hordered : l.Pairwise (· < ·)) {a d : ℕ}
    (ha : l.find? p = some a) (hd : d ∈ l) (hp : p d = true) : a ≤ d := by
  obtain ⟨-, before, after, rfl, hnone⟩ := List.find?_eq_some_iff_append.mp ha
  rcases List.mem_append.mp hd with hin | hin
  · have hnot := hnone d hin
    rw [hp] at hnot
    cases hnot
  · rcases List.mem_cons.mp hin with rfl | hin
    · exact Nat.le_refl _
    · rw [List.pairwise_append] at hordered
      exact (List.rel_of_pairwise_cons hordered.2.1 hin).le

/-- Nothing before the relay touches it. -/
theorem atRelay_sameRelay {m : Mesh} {env : ℕ → Env}
    (h : drainsBeacon m env recvQueueSize = false) : SameRelay m (atRelay m env) := by
  refine (drainEntries_sameRelay h).trans ?_
  rw [atRelay, drainPendingEnrollment_frame]
  exact ⟨rfl, rfl, rfl⟩

/-- The calls noted down are those that transmit the relay. -/
theorem transmits (s : State) : Transmits s := by
  intro d env late s' hstep
  simp only [RelayTimer.step, Option.ite_none_right_eq_some, Option.some.injEq] at hstep
  obtain ⟨⟨-, -, -, hquiet⟩, rfl⟩ := hstep
  have hsame := atRelay_sameRelay hquiet
  have hdue : due (atRelay s.mesh env) late.millis = due s.mesh late.millis := by
    rw [due, due, hsame.relayPending, hsame.relayPendingAt]
  have hpending := (loop_relay late hquiet).1
  cases hfires : due s.mesh late.millis with
  | true =>
      have hwaits : s.mesh.relayPending = true := (Bool.and_eq_true_iff.mp hfires).1
      rw [hfires, Bool.not_true, Bool.and_false] at hpending
      rw [hfires] at hdue
      left
      refine ⟨?_, ?_⟩
      · show (if _ then _ else _) = _
        rw [hpending, hwaits]
        rfl
      · rw [← hsame.relayPendingMsg]
        exact dispatchRelay_of_due hdue
  | false =>
      rw [hfires, Bool.not_false, Bool.and_true] at hpending
      rw [hfires] at hdue
      right
      refine ⟨?_, dispatchRelay_of_not_due hdue⟩
      show (if _ then _ else _) = _
      rw [hpending, Bool.and_not_self, if_neg Bool.false_ne_true]

/-- **The relay is sent on time exactly when the calls are timely.**  The calls that count are
those that hand it to the transmission.
SOURCE: Mesh.cpp:910-920, 1099-1105 -/
theorem relay_onTime_iff {s : State} (h : system.Reachable s) :
    (OnTime s ↔ Timely s) ∧ Transmits s := by
  refine ⟨?_, transmits s⟩
  have hs := timed_of_reachable h
  have hfind : OnTime s ↔ s.calls.find? s.fires = s.calls.find? s.late := by
    rw [OnTime, hs.dispatched]
    refine ⟨fun heq => ?_, congrArg Option.toList⟩
    have hhead := congrArg List.head? heq
    rwa [Option.head?_toList, Option.head?_toList] at hhead
  rw [hfind, Timely]
  split
  · next hdue =>
    rw [find?_eq_find?_iff fun d hd hfire => ((hs.fires_iff_of_lt hdue hd).mp hfire).1]
    refine forall₂_congr fun d hfirst => ?_
    rw [hs.fires_iff_of_lt hdue (List.mem_of_find?_eq_some hfirst)]
    exact and_iff_right (List.find?_some hfirst)
  · next hwrapped =>
    have hdue := Nat.le_of_not_lt hwrapped
    rw [eq_comm, find?_eq_find?_iff fun d hd hlate =>
      (hs.fires_iff_of_le hdue hd).mpr (.inl hlate)]
    constructor
    · intro hall d hd hearly
      by_contra hbefore
      have hfire : s.fires d = true :=
        (hs.fires_iff_of_le hdue hd).mpr (.inr (Nat.lt_of_not_le hbefore))
      obtain ⟨first, hfirst⟩ := Option.isSome_iff_exists.mp
        (List.find?_isSome.mpr ⟨d, hd, hfire⟩)
      -- The first call that fires comes no later than `d`, which is not due.
      have hle := find?_le hs.ordered hfirst hd hfire
      have hlate := hall first hfirst
      rw [State.late, decide_eq_true_eq] at hlate
      omega
    · intro htimely d hfirst
      have hd := List.mem_of_find?_eq_some hfirst
      rcases (hs.fires_iff_of_le hdue hd).mp (List.find?_some hfirst) with hlate | hbefore
      · exact hlate
      · by_contra hearly
        rw [State.late, decide_eq_true_eq] at hearly
        have hwrap := htimely d hd (Nat.lt_of_not_le hearly)
        omega

/-! ## A call just before the clock wraps -/

def beacon : MeshMessage :=
  { MeshMessage.zero with
    messageType := MeshMessageType.masterBeacon
    originMacAddress := Vector.replicate 6 1
    epochNum := 1 }

/-- Five ms before the clock wraps, with the least jitter. -/
def wrapEnv : Env :=
  { quietEnv with millisLate := 0xFFFFFFFB }

def scheduled : State where
  mesh := (Mesh.new.processMasterBeacon wrapEnv beacon).1
  scheduledAt := 0xFFFFFFFB
  jitterMs := 0
  calls := []
  dispatched := []

/-- A scheduled relay is a start. -/
theorem start_scheduled : Start scheduled :=
  ⟨⟨Mesh.new, wrapEnv, beacon, by decide, rfl, rfl, rfl⟩, rfl, rfl⟩

/-- The first call comes one ms later. -/
theorem early_run :
    ∃ s, system.runFrom scheduled
        [.loop 1 (fun _ => quietEnv) { quietEnv with millis := 0xFFFFFFFC }] = some s ∧
      s.calls = [1] ∧ s.dispatched = [1] ∧ s.jitterMs = 0 ∧ s.scheduledAt = 0xFFFFFFFB :=
  ⟨_, rfl, rfl, rfl, rfl, rfl⟩

/-- The relay is sent nine ms too early.
SOURCE: Mesh.cpp:918, 1100 -/
theorem not_forall_onTime : ¬∀ s, system.Reachable s → OnTime s := by
  intro hall
  obtain ⟨s, hrun, hcalls, hdispatched, hjitter, -⟩ := early_run
  have hontime := hall s (System.Reachable.runFrom (.init start_scheduled) hrun)
  have hnotLate : s.late 1 = false := by
    rw [State.late, hjitter]
    rfl
  rw [OnTime, hcalls, hdispatched, List.find?_singleton, hnotLate] at hontime
  cases hontime

/-! ## Four calls far from the wrap -/

/-- One second after the start, with five ms of jitter. -/
def calmEnv : Env :=
  { quietEnv with
    millisLate := 1000
    espRandom := 5 }

def calm : State where
  mesh := (Mesh.new.processMasterBeacon calmEnv beacon).1
  scheduledAt := 1000
  jitterMs := 5
  calls := []
  dispatched := []

/-- The relay that was scheduled away from the wrap is a start. -/
theorem start_calm : Start calm :=
  ⟨⟨Mesh.new, calmEnv, beacon, by decide, rfl, rfl, rfl⟩, rfl, rfl⟩

def callAt (d : ℕ) : Event :=
  .loop d (fun _ => quietEnv) { quietEnv with millis := reading (1000 + d) }

/-- The third call is the first one that is due, and sends the relay. -/
theorem relay_onTime_calm :
    ∃ s, system.runFrom calm [callAt 3, callAt 14, callAt 15, callAt 20] = some s ∧
      s.calls = [3, 14, 15, 20] ∧ s.dispatched = [15] ∧ OnTime s ∧ Transmits s := by
  have hrun : ∃ s, system.runFrom calm [callAt 3, callAt 14, callAt 15, callAt 20] = some s ∧
      s.calls = [3, 14, 15, 20] ∧ s.dispatched = [15] ∧ s.scheduledAt = 1000 ∧ s.jitterMs = 5 :=
    ⟨_, rfl, rfl, rfl, rfl, rfl⟩
  obtain ⟨s, hrun, hcalls, hdispatched, hat, hjitter⟩ := hrun
  have hreach := System.Reachable.runFrom (.init start_calm) hrun
  have htimely : Timely s := by
    rw [Timely, hat, hjitter, if_pos (by decide)]
    intro d hd
    have hmem := List.mem_of_find?_eq_some hd
    rw [hcalls] at hmem
    have hle : ∀ c ∈ [3, 14, 15, 20], (1000 : UInt32).toNat + c < UInt32.size := by decide
    exact hle d hmem
  obtain ⟨hiff, htransmits⟩ := relay_onTime_iff hreach
  exact ⟨s, hrun, hcalls, hdispatched, hiff.mpr htimely, htransmits⟩

end RelayTimer

end LatticeNodes.Analysis
