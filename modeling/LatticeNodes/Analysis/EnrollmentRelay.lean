import LatticeNodes.Analysis.Enrollment
import LatticeNodes.Analysis.MeshNetwork
import LatticeNodes.Analysis.ReceiveQueue
import LatticeNodes.Library.LatestSlot

/-!
# The requests of one `loop()`

A master whose receive queue is filled by the WiFi task at any time, while `loop()` drains it round
by round.  A request that is drained goes into one pending slot, which is handed to the server when
the queue is empty.  The log of an iteration is that of a `LatestSlot`: the requests, and then the
last of them.  `relaysAll_iff` says for which iterations no request is lost.
-/

set_option autoImplicit false

namespace LatticeNodes.Analysis

open LatticeNodes.Program TransitionSystem LatestSlot SpscRing

namespace EnrollmentRelay

/-! ## The system -/

/-- The origin and the key of a request. -/
abbrev Request := MacAddress × Key

/-- The log of an iteration: the requests that `drainRecvQueue` dispatched, and the calls of the
relay callback, in their order. -/
abbrev Log := List (Record Request)

/-- `draining` says that `loop()` is in its drain; `log` is the log of the present iteration,
`finished` those of the earlier ones. -/
structure State where
  mesh : Mesh
  draining : Bool
  log : Log
  finished : List Log

inductive Event where
  /-- The WiFi task delivers a frame, whatever `loop()` is doing. -/
  | receive (srcMac : MacAddress) (len : ℕ) (msg : MeshMessage)
  /-- `loop()` begins. -/
  | begin
  /-- A round of the drain. -/
  | handle (env : Env)
  /-- The drain finds the queue empty, and `loop()` ends. -/
  | finish (env : Env)
  /-- A call of `main.ino` or of an adapter, which may come from within a round. -/
  | call (env : Env) (c : MeshNetwork.Call)
  | checkMasterTimeout (env : Env)

/-- The request that the drain dispatches to `processEnrollmentRequest`, if the entry is one.
SOURCE: Mesh.cpp:565-590 -/
def requestOf (m : Mesh) (entry : RecvQueueEntry) : List Request :=
  if entry.msg.messageType = MeshMessageType.enrollment ∧ (m.passGate entry.msg).isSome = true then
    [(entry.msg.originMacAddress, entry.msg.enrollmentPublicKey)]
  else []

/-- The calls of the relay callback. -/
def relaysOf (effects : List Effect) : Log := (Enrollment.relayedRequests effects).map .delivered

def step (s : State) : Event → Option State
  | .receive srcMac len msg => some { s with mesh := s.mesh.onDataRecvCallback srcMac len msg }
  | .begin => if s.draining = false then some { s with draining := true } else none
  | .handle env =>
      if s.draining = true ∧ s.mesh.recvQueue.tail ≠ s.mesh.recvQueue.head then
        let handled := (taken s.mesh).handleEntry env (current s.mesh)
        some { s with
          mesh := handled.1
          log := s.log ++ (requestOf (taken s.mesh) (current s.mesh)).map .posted ++
            relaysOf handled.2 }
      else none
  | .finish env =>
      if s.draining = true ∧ s.mesh.recvQueue.tail = s.mesh.recvQueue.head then
        let timed := s.mesh.timedWork env
        some ⟨timed.1, false, [], s.finished ++ [s.log ++ relaysOf timed.2]⟩
      else none
  | .call env c => some { s with mesh := (c.run s.mesh env).1 }
  | .checkMasterTimeout env => some { s with mesh := s.mesh.checkMasterTimeout env }

/-- A master with a registered callback, between two iterations, and with no request waiting. -/
structure Start (s : State) : Prop where
  isMaster : s.mesh.isMaster = true
  registered : s.mesh.enrollmentRelayFn = true
  noneWaits : s.mesh.pendingEnrollmentRelay = false
  draining : s.draining = false
  log : s.log = []
  finished : s.finished = []

def system : System State Event where
  Init := Start
  step := step

/-! ## The pending slot -/

/-- The request that waits in the object. -/
def waiting (m : Mesh) : Option Request :=
  if m.pendingEnrollmentRelay = true then
    some (m.pendingEnrollmentMac, m.pendingEnrollmentPubKey)
  else none

/-- What the slot depends on: the three members that hold the request, the role and the
callback. -/
structure SlotKept (m m' : Mesh) : Prop where
  waiting : waiting m' = waiting m
  isMaster : m'.isMaster = m.isMaster
  enrollmentRelayFn : m'.enrollmentRelayFn = m.enrollmentRelayFn

section Slot

variable {m : Mesh}

/-- Doing nothing keeps the slot. -/
theorem SlotKept.refl (m : Mesh) : SlotKept m m := ⟨rfl, rfl, rfl⟩

/-- What two steps keep, they keep together. -/
theorem SlotKept.trans {m₁ m₂ m₃ : Mesh} (h : SlotKept m₁ m₂) (h' : SlotKept m₂ m₃) :
    SlotKept m₁ m₃ :=
  ⟨h'.waiting.trans h.waiting, h'.isMaster.trans h.isMaster,
    h'.enrollmentRelayFn.trans h.enrollmentRelayFn⟩

/-- A frame that comes in waits in the queue.
SOURCE: Mesh.cpp:544-561 -/
theorem onDataRecvCallback_slotKept (m : Mesh) (srcMac : MacAddress) (len : ℕ)
    (msg : MeshMessage) : SlotKept m (m.onDataRecvCallback srcMac len msg) := by
  rw [onDataRecvCallback_frame]
  exact ⟨rfl, rfl, rfl⟩

/-- The timeout does not touch the slot.
SOURCE: Mesh.cpp:801-815 -/
theorem checkMasterTimeout_slotKept (m : Mesh) (env : Env) :
    SlotKept m (m.checkMasterTimeout env) := by
  rw [checkMasterTimeout_frame]
  exact ⟨rfl, rfl, rfl⟩

/-- A beacon does not touch the slot.
SOURCE: Mesh.cpp:684-703 -/
theorem broadcastMasterBeacon_slotKept (m : Mesh) (env : Env) :
    SlotKept m (m.broadcastMasterBeacon env).1 := by
  rw [broadcastMasterBeacon_frame]
  exact ⟨rfl, rfl, rfl⟩

/-- No call of the node touches the slot. -/
theorem run_slotKept (m : Mesh) (env : Env) (c : MeshNetwork.Call) :
    SlotKept m (c.run m env).1 := by
  rw [MeshNetwork.Call.run_frame]
  exact ⟨rfl, rfl, rfl⟩

/-- The gate does not touch the slot.
SOURCE: Mesh.cpp:570-582 -/
theorem received_slotKept {m' : Mesh} {env : Env} {entry : RecvQueueEntry}
    (h : received m env entry = some m') : SlotKept m m' := by
  rw [received_frame h]
  exact ⟨rfl, rfl, rfl⟩

/-- The handler of a beacon does not touch the slot.
SOURCE: Mesh.cpp:831-921 -/
theorem processMasterBeacon_slotKept (m : Mesh) (env : Env) (msg : MeshMessage) :
    SlotKept m (m.processMasterBeacon env msg).1 := by
  rcases processMasterBeacon_inv m env msg with ⟨-, heq⟩ | ⟨m', trusted, -, -, htrust, heq⟩
  · rw [heq]
    exact SlotKept.refl m
  · rw [heq]
    have htrusted : SlotKept m m' := by
      cases htrust with
      | _ => exact ⟨rfl, rfl, rfl⟩
    refine htrusted.trans ?_
    by_cases hskip : m'.isMaster = true ∨ m'.isNewer msg = false
    · rw [afterTrust_of_not_relayed hskip]
      exact ⟨rfl, rfl, rfl⟩
    · obtain ⟨hnode, hnew⟩ := not_or.mp hskip
      obtain ⟨time, hafter⟩ := afterTrust_of_relayed (by simpa using hnode) (by simpa using hnew)
      rw [hafter]
      exact ⟨rfl, rfl, rfl⟩

/-- **A message that is no request leaves the slot alone.**
SOURCE: Mesh.cpp:587-602 -/
theorem dispatch_slotKept (m : Mesh) (env : Env) {msg : MeshMessage}
    (htype : msg.messageType ≠ MeshMessageType.enrollment) :
    SlotKept m (m.dispatch env msg).1 := by
  rw [Mesh.dispatch, if_neg htype]
  split
  · unfold Mesh.processJoinAck
    split
    · exact SlotKept.refl m
    · split
      · exact SlotKept.refl m
      · split
        · exact ⟨rfl, rfl, rfl⟩
        · exact SlotKept.refl m
  · split
    · exact processMasterBeacon_slotKept m env msg
    · split
      · rw [processAdapterData_fst]
        exact SlotKept.refl m
      · exact SlotKept.refl m

/-- **A round of the drain posts the request of its entry, if it has one.**
SOURCE: Mesh.cpp:565-590, 1001-1010 -/
theorem handleEntry_waiting (hmaster : m.isMaster = true) (env : Env) (entry : RecvQueueEntry) :
    waiting (m.handleEntry env entry).1 =
      (requestOf m entry).getLast?.or (waiting m) := by
  cases hreceived : received m env entry with
  | none =>
      have hgate : (m.passGate entry.msg).isSome = false := by
        rw [← isSome_received m env entry, hreceived]
        rfl
      rw [handleEntry_of_dropped hreceived, requestOf, if_neg fun h => by simp [hgate] at h]
      rfl
  | some m' =>
      have hgate : (m.passGate entry.msg).isSome = true := by
        rw [← isSome_received m env entry, hreceived]
        rfl
      have hkept := received_slotKept hreceived
      rw [handleEntry_of_received hreceived]
      by_cases htype : entry.msg.messageType = MeshMessageType.enrollment
      · have hmaster' : m'.isMaster = true := hkept.isMaster.trans hmaster
        rw [requestOf, if_pos ⟨htype, hgate⟩, Mesh.dispatch, if_pos htype]
        simp [Mesh.processEnrollmentRequest, hmaster', waiting]
      · rw [requestOf, if_neg fun h => htype h.1,
          (dispatch_slotKept m' env htype).waiting, hkept.waiting]
        rfl

/-- A round leaves the role and the callback alone. -/
theorem handleEntry_role (m : Mesh) (env : Env) (entry : RecvQueueEntry) :
    (m.handleEntry env entry).1.isMaster = m.isMaster ∧
      (m.handleEntry env entry).1.enrollmentRelayFn = m.enrollmentRelayFn := by
  have hsame := handleEntry_sameNode m env entry
  exact ⟨hsame.isMaster, hsame.enrollmentRelayFn⟩

end Slot

/-! ## The calls of the callback -/

section Relays

/-- The requests relayed by two lists of effects. -/
theorem relaysOf_append (xs ys : List Effect) :
    relaysOf (xs ++ ys) = relaysOf xs ++ relaysOf ys := by
  simp [relaysOf, Enrollment.relayedRequests]

/-- Every effect but a call of the relay callback. -/
def NoRelay : Effect → Prop
  | .enrollmentRelay _ _ => False
  | _ => True

/-- Effects that relay no request. -/
theorem relaysOf_eq_nil {effects : List Effect} (h : ∀ e ∈ effects, NoRelay e) :
    relaysOf effects = [] := by
  rw [relaysOf, List.map_eq_nil_iff, Enrollment.relayedRequests, List.filterMap_eq_nil_iff]
  intro e he
  have hnone := h e he
  cases e with
  | enrollmentRelay mac pubKey => exact hnone.elim
  | _ => rfl

/-- The radio is no server. -/
theorem noRelay_of_radioOnly {e : Effect} (h : RadioOnly e) : NoRelay e := by
  cases e with
  | enrollmentRelay mac pubKey => exact h.elim
  | _ => trivial

/-- **The drain only defers: no round of it calls the relay callback.**
SOURCE: Mesh.cpp:563-604 -/
theorem relaysOf_handleEntry (m : Mesh) (env : Env) (entry : RecvQueueEntry) :
    relaysOf (m.handleEntry env entry).2 = [] := by
  apply relaysOf_eq_nil
  exact handleEntry_effects_of m env entry (fun _ => noRelay_of_radioOnly) (fun _ => trivial)
    (fun _ => trivial) (fun _ => trivial) trivial

/-- The relay timer relays no request.
SOURCE: Mesh.cpp:1099-1105 -/
theorem relaysOf_dispatchRelay (m : Mesh) (env : Env) :
    relaysOf (m.dispatchRelay env).2 = [] := by
  unfold Mesh.dispatchRelay
  split
  · refine relaysOf_eq_nil fun e he => ?_
    exact noRelay_of_radioOnly (transmitCore_radioOnly _ _ _ _ _ _ e he)
  · rfl

/-- A beacon relays no request.
SOURCE: Mesh.cpp:684-703 -/
theorem relaysOf_broadcastMasterBeacon (m : Mesh) (env : Env) :
    relaysOf (m.broadcastMasterBeacon env).2 = [] := by
  unfold Mesh.broadcastMasterBeacon Mesh.espNowBroadcast
  split
  · rfl
  · split
    · rfl
    · rfl

end Relays

/-! ## The timed work -/

section Timed

variable {m : Mesh}

/-- What the timed work does to the object before the deferred relay and the beacon. -/
theorem drainPendingEnrollment_slot (hregistered : m.enrollmentRelayFn = true) :
    waiting m.drainPendingEnrollment.1 = none ∧
      m.drainPendingEnrollment.1.isMaster = m.isMaster ∧
      m.drainPendingEnrollment.1.enrollmentRelayFn = m.enrollmentRelayFn ∧
      relaysOf m.drainPendingEnrollment.2 = (waiting m).toList.map .delivered := by
  unfold Mesh.drainPendingEnrollment
  cases hpending : m.pendingEnrollmentRelay with
  | false => simp [waiting, hpending, relaysOf, Enrollment.relayedRequests]
  | true => simp [waiting, hpending, hregistered, relaysOf, Enrollment.relayedRequests]

/-- The relay timer does not touch the slot.
SOURCE: Mesh.cpp:1099-1105 -/
theorem dispatchRelay_slotKept (m : Mesh) (env : Env) : SlotKept m (m.dispatchRelay env).1 := by
  rcases dispatchRelay_fst m env with h | h
  · rw [h]
    exact SlotKept.refl m
  · rw [h]
    exact ⟨rfl, rfl, rfl⟩

/-- **The timed work hands the waiting request to the callback, and no other.**
SOURCE: Mesh.cpp:1082-1111 -/
theorem timedWork_slot (hregistered : m.enrollmentRelayFn = true) (env : Env) :
    waiting (m.timedWork env).1 = none ∧ (m.timedWork env).1.isMaster = m.isMaster ∧
      (m.timedWork env).1.enrollmentRelayFn = m.enrollmentRelayFn ∧
      relaysOf (m.timedWork env).2 = (waiting m).toList.map .delivered := by
  obtain ⟨hnone, hmaster, hfn, hrelays⟩ := drainPendingEnrollment_slot hregistered
  have hdispatch := dispatchRelay_slotKept m.drainPendingEnrollment.1 env
  have hsilent := relaysOf_dispatchRelay m.drainPendingEnrollment.1 env
  unfold Mesh.timedWork
  simp only [relaysOf_append]
  rw [hrelays, hsilent]
  split
  · have hbeacon := hdispatch.trans (broadcastMasterBeacon_slotKept _ env)
    refine ⟨hbeacon.waiting.trans hnone, hbeacon.isMaster.trans hmaster,
      hbeacon.enrollmentRelayFn.trans hfn, ?_⟩
    rw [relaysOf_broadcastMasterBeacon, List.append_nil, List.append_nil]
  · refine ⟨hdispatch.waiting.trans hnone, hdispatch.isMaster.trans hmaster,
      hdispatch.enrollmentRelayFn.trans hfn, ?_⟩
    rw [List.append_nil]
    exact List.append_nil _

end Timed

/-! ## `loop()` as a run -/

/-- The rounds of the drain, when no frame arrives meanwhile, are steps that end with an empty
queue.
SOURCE: Mesh.cpp:563-604 -/
theorem drainEntries_run (s : State) (hdraining : s.draining = true) (env : ℕ → Env) (n : ℕ)
    (hn : (queued s.mesh.recvQueue).length ≤ n) :
    ∃ es s', system.runFrom s es = some s' ∧ s'.mesh = (s.mesh.drainEntries env n).1 ∧
      s'.draining = true ∧ s'.mesh.recvQueue.tail = s'.mesh.recvQueue.head := by
  induction n generalizing s env with
  | zero =>
      have hempty := List.length_eq_zero_iff.mp (Nat.le_zero.mp hn)
      exact ⟨[], s, rfl, rfl, hdraining, Ring.view_eq_nil_iff.mp hempty⟩
  | succ n ih =>
      by_cases hempty : s.mesh.recvQueue.tail = s.mesh.recvQueue.head
      · rw [drainEntries_of_empty hempty]
        exact ⟨[], s, rfl, rfl, hdraining, hempty⟩
      · have hround : ∃ s₁, system.step s (.handle (env 0)) = some s₁ ∧
            s₁.mesh = ((taken s.mesh).handleEntry (env 0) (current s.mesh)).1 ∧
            s₁.draining = true := by
          exact ⟨_, if_pos ⟨hdraining, hempty⟩, rfl, hdraining⟩
        obtain ⟨s₁, hstep, hmesh, hdraining₁⟩ := hround
        have hless : (queued s₁.mesh.recvQueue).length ≤ n := by
          rw [queued_eq_cons hempty, List.length_cons] at hn
          rw [hmesh, handleEntry_recvQueue]
          omega
        obtain ⟨es, s', hrun, hmesh', hrest⟩ := ih s₁ hdraining₁ (fun i => env (i + 1)) hless
        refine ⟨.handle (env 0) :: es, s', ?_, ?_, hrest⟩
        · rw [System.runFrom_cons, hstep]
          exact hrun
        · rw [hmesh', hmesh, drainEntries_succ hempty]

/-- **A call of `loop()` is a run of the system.**
SOURCE: Mesh.cpp:1091-1111 -/
theorem loop_run (s : State) (hidle : s.draining = false) (env : ℕ → Env) (late : Env) :
    ∃ es s', system.runFrom s es = some s' ∧ s'.mesh = (s.mesh.loop env late).1 ∧
      s'.draining = false := by
  have hbegin : system.step s .begin = some { s with draining := true } := if_pos hidle
  obtain ⟨es, s₁, hrun, hmesh, hdraining, hempty⟩ :=
    drainEntries_run { s with draining := true } rfl env recvQueueSize
      (length_queued_lt s.mesh.recvQueue).le
  have hfinish : system.step s₁ (.finish late) =
      some ⟨(s₁.mesh.timedWork late).1, false, [],
        s₁.finished ++ [s₁.log ++ relaysOf (s₁.mesh.timedWork late).2]⟩ :=
    if_pos ⟨hdraining, hempty⟩
  refine ⟨.begin :: (es ++ [.finish late]), ⟨(s₁.mesh.timedWork late).1, false, [],
    s₁.finished ++ [s₁.log ++ relaysOf (s₁.mesh.timedWork late).2]⟩, ?_, ?_, rfl⟩
  · rw [System.runFrom_cons, hbegin, Option.bind_some, System.runFrom_append, hrun,
      Option.bind_some, System.runFrom_cons, hfinish]
    rfl
  · show (s₁.mesh.timedWork late).1 = _
    rw [hmesh]
    rfl

/-! ## The invariant -/

/-- The slot and the log of the present iteration, as the general construction sees them. -/
def slotOf (s : State) : Slot Request := ⟨waiting s.mesh, s.log⟩

structure Inv (s : State) : Prop where
  isMaster : s.mesh.isMaster = true
  registered : s.mesh.enrollmentRelayFn = true
  /-- Since the iteration began, requests were posted and nothing else happened to the slot. -/
  posted : ∃ posts, slotOf s = Slot.opened.postAll posts
  idle : s.draining = false → slotOf s = Slot.opened
  rounds : ∀ log ∈ s.finished, ∃ posts, log = round posts

section Steps

variable {s : State}

/-- An empty slot is an opened round. -/
theorem inv_of_start (h : Start s) : Inv s := by
  have hopened : slotOf s = Slot.opened := by
    rw [slotOf, h.log, waiting, h.noneWaits]
    rfl
  refine ⟨h.isMaster, h.registered, ⟨[], hopened⟩, fun _ => hopened, ?_⟩
  intro log hlog
  rw [h.finished] at hlog
  cases hlog

/-- Work that leaves the slot alone. -/
theorem Inv.kept (h : Inv s) {m' : Mesh} (hkept : SlotKept s.mesh m') :
    Inv { s with mesh := m' } := by
  have hslot : slotOf { s with mesh := m' } = slotOf s := by
    rw [slotOf, slotOf, hkept.waiting]
  refine ⟨hkept.isMaster.trans h.isMaster, hkept.enrollmentRelayFn.trans h.registered, ?_, ?_,
    h.rounds⟩
  · rw [hslot]
    exact h.posted
  · intro hidle
    rw [hslot]
    exact h.idle hidle

/-- A round posts the request of its entry. -/
theorem postAll_requestOf (slot : Slot Request) (m : Mesh) (entry : RecvQueueEntry) :
    slot.postAll (requestOf m entry) =
      ⟨(requestOf m entry).getLast?.or slot.pending,
        slot.log ++ (requestOf m entry).map .posted⟩ := by
  unfold requestOf
  split
  · rfl
  · simp [Slot.postAll]

/-- A drained frame posts its request, if it is one.
SOURCE: Mesh.cpp:563-604 -/
theorem Inv.handle (h : Inv s) (hdraining : s.draining = true) (env : Env) :
    Inv { s with
      mesh := ((taken s.mesh).handleEntry env (current s.mesh)).1
      log := s.log ++ (requestOf (taken s.mesh) (current s.mesh)).map .posted ++
        relaysOf ((taken s.mesh).handleEntry env (current s.mesh)).2 } := by
  have hmaster : (taken s.mesh).isMaster = true := h.isMaster
  obtain ⟨hrole, hfn⟩ := handleEntry_role (taken s.mesh) env (current s.mesh)
  obtain ⟨posts, hposts⟩ := h.posted
  refine ⟨hrole.trans hmaster, hfn.trans h.registered, ?_, ?_, h.rounds⟩
  · refine ⟨posts ++ requestOf (taken s.mesh) (current s.mesh), ?_⟩
    rw [Slot.postAll_append, ← hposts, postAll_requestOf, slotOf, relaysOf_handleEntry,
      handleEntry_waiting hmaster, List.append_nil]
    rfl
  · intro hidle
    cases hdraining.symm.trans hidle

/-- The end of an iteration: its log is that of a round. -/
theorem Inv.finish (h : Inv s) (env : Env) :
    Inv ⟨(s.mesh.timedWork env).1, false, [],
      s.finished ++ [s.log ++ relaysOf (s.mesh.timedWork env).2]⟩ := by
  obtain ⟨hnone, hrole, hfn, hrelays⟩ := timedWork_slot h.registered env
  obtain ⟨posts, hposts⟩ := h.posted
  have hopened : slotOf ⟨(s.mesh.timedWork env).1, false, [],
      s.finished ++ [s.log ++ relaysOf (s.mesh.timedWork env).2]⟩ = Slot.opened := by
    rw [slotOf, hnone]
    rfl
  have hround : s.log ++ relaysOf (s.mesh.timedWork env).2 = round posts := by
    rw [← log_flush_postAll, ← hposts, hrelays]
    rfl
  refine ⟨hrole.trans h.isMaster, hfn.trans h.registered, ⟨[], hopened⟩, fun _ => hopened, ?_⟩
  intro log hlog
  rcases List.mem_append.mp hlog with hlog | hlog
  · exact h.rounds log hlog
  · rw [List.mem_singleton.mp hlog]
    exact ⟨posts, hround⟩

/-- Every step keeps slot and log together. -/
theorem Inv.step {s' : State} {e : Event} (h : Inv s) (hstep : system.step s e = some s') :
    Inv s' := by
  cases e with
  | receive srcMac len msg =>
      cases hstep
      exact h.kept (onDataRecvCallback_slotKept s.mesh srcMac len msg)
  | begin =>
      simp only [system, EnrollmentRelay.step, Option.ite_none_right_eq_some,
        Option.some.injEq] at hstep
      obtain ⟨hidle, rfl⟩ := hstep
      refine ⟨h.isMaster, h.registered, h.posted, fun hfalse => ?_, h.rounds⟩
      cases hfalse
  | handle env =>
      simp only [system, EnrollmentRelay.step, Option.ite_none_right_eq_some,
        Option.some.injEq] at hstep
      obtain ⟨⟨hdraining, -⟩, rfl⟩ := hstep
      exact h.handle hdraining env
  | finish env =>
      simp only [system, EnrollmentRelay.step, Option.ite_none_right_eq_some,
        Option.some.injEq] at hstep
      obtain ⟨-, rfl⟩ := hstep
      exact h.finish env
  | call env c =>
      cases hstep
      exact h.kept (run_slotKept s.mesh env c)
  | checkMasterTimeout env =>
      cases hstep
      exact h.kept (checkMasterTimeout_slotKept s.mesh env)

/-- The invariant holds in every reachable state. -/
theorem inv_of_reachable (h : system.Reachable s) : Inv s :=
  h.invariant (fun _ hs => inv_of_start hs) fun _ _ _ hs hstep => hs.step hstep

/-- **Every iteration is a round of the slot**: it posts the requests it dispatched, and then
calls the callback for the last of them. -/
theorem finished_round (h : system.Reachable s) {log : Log} (hlog : log ∈ s.finished) :
    ∃ posts, log = round posts :=
  (inv_of_reachable h).rounds log hlog

/-- **Every dispatched request of an iteration is relayed exactly once before the iteration ends,
if and only if all of its requests carry the same origin and key.**
SOURCE: Mesh.cpp:563-604, 1001-1010, 1082-1111 -/
theorem relaysAll_iff (h : system.Reachable s) {log : Log} (hlog : log ∈ s.finished) :
    DeliversAll log ↔ Uniform log := by
  obtain ⟨posts, rfl⟩ := finished_round h hlog
  exact deliversAll_round_iff posts

end Steps

/-! ## Two requests in one iteration -/

/-- A master with a relay callback, just booted. -/
def master : State where
  mesh :=
    { Mesh.new with
      deviceMacAddress := Vector.replicate 6 1
      isMaster := true
      enrollmentRelayFn := true }
  draining := false
  log := []
  finished := []

/-- The master is a start. -/
theorem start_master : Start master :=
  ⟨rfl, rfl, rfl, rfl, rfl, rfl⟩

/-- What the node with this address broadcasts. -/
def requestFrame (b : UInt8) : MeshMessage :=
  Mesh.enrollmentRequest
    { Mesh.new with
      deviceMacAddress := Vector.replicate 6 b
      devicePublicKey := Vector.replicate 32 b }

/-- The requests of these nodes arrive, and one `loop()` drains both. -/
def batch (b₁ b₂ : UInt8) : List Event :=
  [.receive (Vector.replicate 6 b₁) 127 (requestFrame b₁),
    .receive (Vector.replicate 6 b₂) 127 (requestFrame b₂),
    .begin, .handle quietEnv, .handle quietEnv, .finish quietEnv]

def requestRecord (b : UInt8) : Request := (Vector.replicate 6 b, Vector.replicate 32 b)

/-- Two equal requests are relayed once. -/
theorem batch_same_run :
    ∃ s, system.runFrom master (batch 2 2) = some s ∧
      s.finished = [round [requestRecord 2, requestRecord 2]] :=
  ⟨_, rfl, rfl⟩

/-- Of two different ones the first is overwritten. -/
theorem batch_other_run :
    ∃ s, system.runFrom master (batch 2 3) = some s ∧
      s.finished = [round [requestRecord 2, requestRecord 3]] :=
  ⟨_, rfl, rfl⟩

/-- Two different requests in one pass, decided by the condition. -/
theorem relaysAll_iff_batch :
    ∃ s log, system.Reachable s ∧ log ∈ s.finished ∧ log ≠ [] ∧
      (DeliversAll log ↔ Uniform log) := by
  obtain ⟨s, hrun, hfinished⟩ := batch_same_run
  have hreach := System.Reachable.runFrom (.init start_master) hrun
  have hlog : round [requestRecord 2, requestRecord 2] ∈ s.finished := by
    rw [hfinished]
    exact List.mem_cons_self
  exact ⟨s, _, hreach, hlog, by simp [LatestSlot.round], relaysAll_iff hreach hlog⟩

/-- The request of the first of two nodes is not relayed.
SOURCE: Mesh.cpp:1001-1010 -/
theorem not_relaysAll_batch :
    ∃ s log, system.Reachable s ∧ log ∈ s.finished ∧ ¬DeliversAll log := by
  obtain ⟨s, hrun, hfinished⟩ := batch_other_run
  have hreach := System.Reachable.runFrom (.init start_master) hrun
  have hlog : round [requestRecord 2, requestRecord 3] ∈ s.finished := by
    rw [hfinished]
    exact List.mem_cons_self
  refine ⟨s, _, hreach, hlog, fun hdelivers => ?_⟩
  have hcount := hdelivers [] (requestRecord 2) [.posted (requestRecord 3),
    .delivered (requestRecord 3)] rfl
  have hnone : List.count (Record.delivered (requestRecord 2))
      [.posted (requestRecord 3), .delivered (requestRecord 3)] = 0 := by decide
  omega

end EnrollmentRelay

end LatticeNodes.Analysis
