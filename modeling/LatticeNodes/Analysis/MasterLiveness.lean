import LatticeNodes.Analysis.BeaconUptime
import LatticeNodes.Analysis.BestRoute
import LatticeNodes.Analysis.RouteHealing
import LatticeNodes.Library.Heartbeat

/-!
# A node knows whether its master is alive

The beacons of a master are its heartbeat, and a node is a detector of it.  The timeout is exact:
after a check the node has a route if and only if it accepted a beacon in time
(`route_alive_iff`), over any uptime and whatever it receives, as long as the checks do not stop
for 49 days.
-/

set_option autoImplicit false

namespace LatticeNodes.Analysis

open LatticeNodes.Program TransitionSystem WrappingClock Heartbeat

namespace MasterLiveness

/-! ## One received frame -/

section OneFrame

variable {m : Mesh} {env : Env} {entry : RecvQueueEntry}

/-- **An accepted beacon gives the node a route to its origin.**
SOURCE: Mesh.cpp:886-897 -/
theorem route_of_accepts (h : TrustAnchor.accepts m env entry = true) :
    (m.handleEntry env entry).1.currentMaster.distance ≠ 0xFF ∧
      (m.handleEntry env entry).1.currentMaster.mac = entry.msg.originMacAddress := by
  obtain ⟨-, hroute, hhops⟩ := handleEntry_of_accepts h
  rw [hroute]
  exact ⟨updateRoute_distance hhops, updateRoute_mac m entry.msg⟩

/-- The time of the last beacon moves with an accepted beacon only.
SOURCE: Mesh.cpp:887 -/
theorem lastBeacon_handleEntry (m : Mesh) (env : Env) (entry : RecvQueueEntry) :
    (m.handleEntry env entry).1.lastMasterBeaconReceivedMs =
      if TrustAnchor.accepts m env entry then env.millisLate
      else m.lastMasterBeaconReceivedMs := by
  cases TrustAnchor.handleEntry_trustMove m env entry with
  | kept hrefused _ hlast => rw [hrefused, if_neg Bool.false_ne_true, hlast]
  | joinAck hrefused _ _ hlast => rw [hrefused, if_neg Bool.false_ne_true, hlast]
  | beacon haccepted _ _ _ _ hlast => rw [haccepted, if_pos rfl, hlast]

/-- A drained frame changes no role.
SOURCE: Mesh.cpp:563-604 -/
theorem isMaster_handleEntry (m : Mesh) (env : Env) (entry : RecvQueueEntry) :
    (m.handleEntry env entry).1.isMaster = m.isMaster :=
  (handleEntry_sameNode m env entry).isMaster

end OneFrame

/-! ## The observer -/

/-- A node, real time, when it last accepted a beacon and when it last checked. -/
structure Watch where
  mesh : Mesh
  clock : ℕ
  lastAccepted : Option ℕ
  checked : ℕ

namespace Watch

inductive Event where
  /-- A received frame is drained, from its first reading of the clock to its last. -/
  | receive (start finish : ℕ) (env : Env) (entry : RecvQueueEntry)
  | checkTimeout (time : ℕ) (env : Env)
  /-- Any other work of the node: nothing else writes the route or the time of the beacon. -/
  | other (m' : Mesh)

/-- The longest break between two checks that the clock can tell from a short one, 49 days. -/
def longestBreak : ℕ := UInt32.size - 1 - Config.staleMasterThresholdMs.toNat

def step (s : Watch) : Event → Option Watch
  | .receive start finish env entry =>
      if s.clock ≤ start ∧ start ≤ finish then
        some { s with
          mesh := (s.mesh.handleEntry (TrustAnchor.envAt start finish env) entry).1
          clock := finish
          lastAccepted :=
            if TrustAnchor.accepts s.mesh (TrustAnchor.envAt start finish env) entry then
              some finish
            else s.lastAccepted }
      else none
  | .checkTimeout time env =>
      if s.clock ≤ time ∧ time ≤ s.checked + longestBreak then
        some { s with
          mesh := s.mesh.checkMasterTimeout (TrustAnchor.envAt time time env)
          clock := time
          checked := time }
      else none
  | .other m' =>
      if m'.currentMaster = s.mesh.currentMaster ∧ m'.isMaster = s.mesh.isMaster ∧
          m'.lastMasterBeaconReceivedMs = s.mesh.lastMasterBeaconReceivedMs then
        some { s with mesh := m' }
      else none

/-- A node without a route, that has accepted no beacon yet.
SOURCE: Mesh.cpp:162-170 -/
structure Start (s : Watch) : Prop where
  node : s.mesh.isMaster = false
  route : s.mesh.currentMaster.distance = 0xFF
  lastAccepted : s.lastAccepted = none
  checked : s.checked ≤ s.clock

def system : System Watch Event where
  Init := Start
  step := step

/-- The node as a detector of its master. -/
def detector (s : Watch) : Detector :=
  ⟨s.lastAccepted, s.mesh.currentMaster.distance != 0xFF, s.checked⟩

/-- A route comes with the reading of the last accepted beacon. -/
structure Stamped (s : Watch) : Prop where
  node : s.mesh.isMaster = false
  stamp : s.mesh.currentMaster.distance ≠ 0xFF →
    ∃ time ∈ s.lastAccepted, s.mesh.lastMasterBeaconReceivedMs = reading time
  accepted : ∀ time ∈ s.lastAccepted, time ≤ s.clock
  checked : s.checked ≤ s.clock

section Steps

variable {s s' : Watch}

/-- The check takes the route away exactly when the detector does.
SOURCE: Mesh.cpp:801-815 -/
theorem Stamped.clears_iff (h : Stamped s) (time : ℕ) (env : Env) :
    ((s.mesh.checkMasterTimeout (TrustAnchor.envAt time time env)).currentMaster.distance !=
        0xFF) =
      (s.detector.alive && !s.detector.expired Config.staleMasterThresholdMs time) := by
  rw [BestRoute.checkMasterTimeout_currentMaster, BestRoute.clearsRoute, h.node]
  by_cases hroute : s.mesh.currentMaster.distance = 0xFF
  · simp [detector, hroute]
  · obtain ⟨heard, hheard, hstamp⟩ := h.stamp hroute
    have hnow : (TrustAnchor.envAt time time env).millis = reading time := rfl
    have hexpired : s.detector.expired Config.staleMasterThresholdMs time =
        decide (Config.staleMasterThresholdMs < reading time - reading heard) := by
      rw [Detector.expired, detector, Option.mem_def.mp hheard, Option.any_some]
    rw [hexpired, hstamp, hnow]
    by_cases hlong : Config.staleMasterThresholdMs < reading time - reading heard
    · simp [hroute, hlong]
    · simp [detector, hlong]

/-- Every step keeps the stamp the reading of the last accepted beacon. -/
theorem Stamped.step (h : Stamped s) {e : Event} (hstep : step s e = some s') : Stamped s' := by
  cases e with
  | receive start finish env entry =>
      simp only [Watch.step, Option.ite_none_right_eq_some, Option.some.injEq] at hstep
      obtain ⟨⟨hnow, hle⟩, rfl⟩ := hstep
      have hclock := hnow.trans hle
      refine ⟨(isMaster_handleEntry _ _ _).trans h.node, ?_, ?_, h.checked.trans hclock⟩
      · dsimp only
        rw [lastBeacon_handleEntry]
        by_cases haccepted :
            TrustAnchor.accepts s.mesh (TrustAnchor.envAt start finish env) entry = true
        · rw [if_pos haccepted, if_pos haccepted]
          exact fun _ => ⟨finish, rfl, rfl⟩
        · rw [if_neg haccepted, if_neg haccepted, route_of_refused (by simpa using haccepted)]
          exact h.stamp
      · dsimp only
        split
        · intro time htime
          exact (Option.mem_some_iff.mp htime).symm.le
        · exact fun time htime => (h.accepted time htime).trans hclock
  | checkTimeout time env =>
      simp only [Watch.step, Option.ite_none_right_eq_some, Option.some.injEq] at hstep
      obtain ⟨⟨hnow, -⟩, rfl⟩ := hstep
      have hnode : (s.mesh.checkMasterTimeout (TrustAnchor.envAt time time env)).isMaster =
          false := by
        unfold Mesh.checkMasterTimeout
        split
        · exact h.node
        · split
          · exact h.node
          · split
            · exact h.node
            · exact h.node
      refine ⟨hnode, ?_, fun t ht => (h.accepted t ht).trans hnow, le_rfl⟩
      intro hroute
      have hkept : s.mesh.checkMasterTimeout (TrustAnchor.envAt time time env) = s.mesh := by
        by_contra hchanged
        apply hroute
        unfold Mesh.checkMasterTimeout at hchanged ⊢
        split at hchanged
        · exact absurd rfl hchanged
        · split at hchanged
          · exact absurd rfl hchanged
          · split at hchanged
            · next hmaster hknown hstale => rw [if_neg hmaster, if_neg hknown, if_pos hstale]
            · exact absurd rfl hchanged
      dsimp only at hroute ⊢
      rw [hkept] at hroute ⊢
      exact h.stamp hroute
  | other m' =>
      simp only [Watch.step, Option.ite_none_right_eq_some, Option.some.injEq] at hstep
      obtain ⟨⟨hroute, hnode, hlast⟩, rfl⟩ := hstep
      refine ⟨hnode.trans h.node, ?_, h.accepted, h.checked⟩
      dsimp only
      rw [hroute, hlast]
      exact h.stamp

/-- The stamp is the reading of the last accepted beacon in every reachable state. -/
theorem stamped_of_reachable (h : system.Reachable s) : Stamped s := by
  refine h.invariant ?_ ?_
  · intro s hs
    refine ⟨hs.node, fun hroute => absurd hs.route hroute, ?_, hs.checked⟩
    rw [hs.lastAccepted]
    exact fun _ htime => absurd htime (Option.not_mem_none _)
  · exact fun s e s' hs hstep => hs.step hstep

/-- **The node is a detector**: each event is one of the detector, or none of its business. -/
theorem step_detector (h : Stamped s) {e : Event} (hstep : step s e = some s') :
    s'.detector = s.detector ∨
      ∃ d, (Detector.system Config.staleMasterThresholdMs longestBreak).step s.detector d =
        some s'.detector := by
  cases e with
  | receive start finish env entry =>
      simp only [Watch.step, Option.ite_none_right_eq_some, Option.some.injEq] at hstep
      obtain ⟨⟨hnow, hle⟩, rfl⟩ := hstep
      have hclock := hnow.trans hle
      by_cases haccepted :
          TrustAnchor.accepts s.mesh (TrustAnchor.envAt start finish env) entry = true
      · right
        refine ⟨.hear finish, ?_⟩
        have huntil : s.detector.Until finish :=
          ⟨h.checked.trans hclock, fun t ht => (h.accepted t ht).trans hclock⟩
        have hroute := (route_of_accepts haccepted).1
        rw [Detector.step_hear huntil]
        simp [detector, haccepted, hroute]
      · left
        simp only [detector, route_of_refused (by simpa using haccepted), if_neg haccepted]
  | checkTimeout time env =>
      simp only [Watch.step, Option.ite_none_right_eq_some, Option.some.injEq] at hstep
      obtain ⟨⟨hnow, hbreak⟩, rfl⟩ := hstep
      right
      refine ⟨.check time, ?_⟩
      have huntil : s.detector.Until time :=
        ⟨h.checked.trans hnow, fun t ht => (h.accepted t ht).trans hnow⟩
      have hcleared := h.clears_iff time env
      rw [Detector.step_check huntil hbreak, ← hcleared]
      rfl
  | other m' =>
      simp only [Watch.step, Option.ite_none_right_eq_some, Option.some.injEq] at hstep
      obtain ⟨⟨hroute, -, -⟩, rfl⟩ := hstep
      left
      simp only [detector, hroute]

end Steps

end Watch

/-- **A node has a route exactly as long as its master was heard in time**: in every run of
received frames, checks and other work, at the time of the last check it has one if and only if it
accepted a beacon at most `STALE_MASTER_THRESHOLD_MS` before.
SOURCE: Mesh.cpp:801-815, 831-897 -/
theorem route_alive_iff {s : Watch} (h : Watch.system.Reachable s) :
    s.mesh.currentMaster.distance ≠ 0xFF ↔
      ∃ time, s.lastAccepted = some time ∧
        s.checked ≤ time + Config.staleMasterThresholdMs.toNat := by
  have hfits : Config.staleMasterThresholdMs.toNat + Watch.longestBreak < UInt32.size := by decide
  have hdetector : (Detector.system Config.staleMasterThresholdMs Watch.longestBreak).Reachable
      s.detector := by
    refine h.simulate_of_reachable Watch.detector ?_ ?_
    · intro s hs
      refine ⟨hs.lastAccepted, ?_⟩
      simp [Watch.detector, hs.route]
    · exact fun s e s' hs hstep => Watch.step_detector (Watch.stamped_of_reachable hs) hstep
  have hexact := Detector.alive_iff hfits hdetector
  simpa [Detector.Exact, Watch.detector] using hexact

/-! ## One beacon -/

/-- A beacon of a master next to the node. -/
def firstBeacon : RecvQueueEntry where
  srcMac := Vector.replicate 6 1
  msg :=
    { MeshMessage.zero with
      protoVersion := Config.protoVersion
      messageType := MeshMessageType.masterBeacon
      originMacAddress := Vector.replicate 6 1
      lastHopMacAddress := Vector.replicate 6 1
      epochNum := 1
      seqNum := 1 }

def unheard : Watch where
  mesh := Mesh.new
  clock := 0
  lastAccepted := none
  checked := 0

/-- A node that has heard nothing is a start. -/
theorem start_unheard : Watch.Start unheard :=
  ⟨rfl, rfl, rfl, le_rfl⟩

/-- The beacon of the first second has expired after the tenth. -/
theorem route_alive_iff_beacon :
    ∃ s, Watch.system.Reachable s ∧ s.lastAccepted = some 1000 ∧ s.checked = 10001 ∧
      ¬s.mesh.currentMaster.distance ≠ 0xFF := by
  have hrun : ∃ s, Watch.system.runFrom unheard
      [.receive 1000 1000 quietEnv firstBeacon, .checkTimeout 10001 quietEnv] = some s ∧
        s.lastAccepted = some 1000 ∧ s.checked = 10001 := ⟨_, rfl, rfl, rfl⟩
  obtain ⟨s, hrun, hlast, hchecked⟩ := hrun
  have hreach := System.Reachable.runFrom (.init start_unheard) hrun
  refine ⟨s, hreach, hlast, hchecked, ?_⟩
  rw [route_alive_iff hreach]
  rintro ⟨time, htime, hfresh⟩
  obtain rfl : 1000 = time := Option.some.inj (hlast.symm.trans htime)
  rw [hchecked] at hfresh
  exact absurd hfresh (by decide)

end MasterLiveness

end LatticeNodes.Analysis
