import LatticeNodes.Analysis.RouteStages
import LatticeNodes.Library.TransitionSystem
import Mathlib.Data.List.MinMax

/-!
# The route record is the best accepted path

A node with the log of the beacons it accepted and of the times its route was cleared.
`currentRun` are the beacons of the last origin since the last clearing or change of origin;
the record always is that of the earliest of them with the fewest hops (`RouteOf`).
-/

set_option autoImplicit false

namespace LatticeNodes.Analysis

open LatticeNodes.Program TransitionSystem

namespace BestRoute

/-! ## The system -/

inductive Entry where
  | accepted (beacon : MeshMessage)
  | cleared

/-- The node, and what became of its route, newest first. -/
structure State where
  mesh : Mesh
  log : List Entry

/-- The check finds a route whose master has been silent for too long.
SOURCE: Mesh.cpp:801-806 -/
def clearsRoute (m : Mesh) (env : Env) : Bool :=
  !m.isMaster && m.currentMaster.distance != 0xFF &&
    decide (Config.staleMasterThresholdMs < env.millis - m.lastMasterBeaconReceivedMs)

inductive Event where
  | beacon (env : Env) (msg : MeshMessage)
  | checkTimeout (env : Env)
  /-- Any other work of the node: nothing else writes the route, and trust may change at will. -/
  | other (m' : Mesh)

def step (s : State) : Event → Option State
  | .beacon env msg =>
      some {
        mesh := (s.mesh.processMasterBeacon env msg).1
        log := if s.mesh.acceptsBeacon env msg then .accepted msg :: s.log else s.log }
  | .checkTimeout env =>
      some {
        mesh := s.mesh.checkMasterTimeout env
        log := if clearsRoute s.mesh env then .cleared :: s.log else s.log }
  | .other m' =>
      if m'.currentMaster = s.mesh.currentMaster ∧ m'.isMaster = s.mesh.isMaster then
        some { s with mesh := m' }
      else none

/-- A node without a route.
SOURCE: Mesh.cpp:169-171 -/
structure Start (s : State) : Prop where
  node : s.mesh.isMaster = false
  distance : s.mesh.currentMaster.distance = 0xFF
  log : s.log = []

def system : System State Event where
  Init := Start
  step := step

/-- A received message is a run of such events.
SOURCE: Mesh.cpp:563-604 -/
theorem handleEntry_run (s : State) (env : Env) (entry : RecvQueueEntry) :
    ∃ es s', system.runFrom s es = some s' ∧ s'.mesh = (s.mesh.handleEntry env entry).1 := by
  cases hreceived : received s.mesh env entry with
  | none =>
      rw [handleEntry_of_dropped hreceived]
      exact ⟨[], s, rfl, rfl⟩
  | some m =>
      have hframe := received_frame hreceived
      have hgate : system.step s (.other m) = some { s with mesh := m } := by
        apply if_pos
        rw [hframe]
        exact ⟨rfl, rfl⟩
      rw [handleEntry_of_received hreceived]
      by_cases hbeacon : entry.msg.messageType = MeshMessageType.masterBeacon
      · rw [dispatch_masterBeacon m env hbeacon]
        refine ⟨[.other m, .beacon env entry.msg],
          { mesh := (m.processMasterBeacon env entry.msg).1
            log := if m.acceptsBeacon env entry.msg then .accepted entry.msg :: s.log
              else s.log }, ?_, rfl⟩
        rw [System.runFrom_cons, hgate]
        rfl
      · have hother : system.step { s with mesh := m } (.other (m.dispatch env entry.msg).1) =
            some { s with mesh := (m.dispatch env entry.msg).1 } := by
          apply if_pos
          exact ⟨dispatch_currentMaster_of_ne m env hbeacon,
            (dispatch_sameNode m env entry.msg).isMaster⟩
        refine ⟨[.other m, .other (m.dispatch env entry.msg).1],
          { s with mesh := (m.dispatch env entry.msg).1 }, ?_, rfl⟩
        rw [System.runFrom_cons, hgate, Option.bind_some, System.runFrom_cons, hother]
        rfl

/-! ## The beacons of the current run -/

/-- The newest entries that are beacons of one origin. -/
def ofOrigin (origin : MacAddress) : List Entry → List MeshMessage
  | .accepted beacon :: log =>
      if beacon.originMacAddress = origin then beacon :: ofOrigin origin log else []
  | _ => []

/-- The beacons of the last accepted origin since the route was cleared or a beacon of another
origin was accepted, newest first. -/
def currentRun : List Entry → List MeshMessage
  | .accepted beacon :: log => beacon :: ofOrigin beacon.originMacAddress log
  | _ => []

/-- The number of hops a beacon has come. -/
def hops (beacon : MeshMessage) : ℕ := beacon.hopCount.toNat

/-- A further beacon of the same origin extends the run. -/
theorem currentRun_same {beacon last : MeshMessage}
    (h : last.originMacAddress = beacon.originMacAddress) (log : List Entry) :
    currentRun (.accepted beacon :: .accepted last :: log) =
      beacon :: currentRun (.accepted last :: log) := by
  rw [currentRun, currentRun, ofOrigin, if_pos h, h]

/-- A beacon of another origin starts a run. -/
theorem currentRun_other {beacon last : MeshMessage}
    (h : last.originMacAddress ≠ beacon.originMacAddress) (log : List Entry) :
    currentRun (.accepted beacon :: .accepted last :: log) = [beacon] := by
  rw [currentRun, ofOrigin, if_neg h]

/-- The first beacon after the route was cleared starts a run. -/
theorem currentRun_first {log : List Entry} (h : currentRun log = []) (beacon : MeshMessage) :
    currentRun (.accepted beacon :: log) = [beacon] := by
  cases log with
  | nil => rfl
  | cons entry log =>
      cases entry with
      | accepted last => exact absurd h (List.cons_ne_nil _ _)
      | cleared => rfl

/-! ## The invariant -/

/-- The route record of a log: none without a beacon, or the earliest of the run with the fewest
hops. -/
inductive RouteOf (route : MasterInfo) (log : List Entry) : Prop
  | unknown (hdistance : route.distance = 0xFF) (hlog : currentRun log = [])
  | known {last best : MeshMessage} {earlier : List Entry}
      (hlog : log = .accepted last :: earlier) (hmac : route.mac = last.originMacAddress)
      (hbest : best ∈ (currentRun log).reverse.argmin hops)
      (hnear : best.hopCount < Config.maxHops) (hdistance : route.distance = best.hopCount + 1)
      (hnextHop : route.nextHop = best.lastHopMacAddress)

/-- The route to the origin of a beacon, over the node it came from. -/
def routeOver (beacon : MeshMessage) : MasterInfo :=
  ⟨beacon.originMacAddress, beacon.hopCount + 1, beacon.lastHopMacAddress⟩

/-- The first beacon of a run is the best. -/
theorem RouteOf.first {beacon : MeshMessage} {log : List Entry}
    (hrun : currentRun (.accepted beacon :: log) = [beacon])
    (hnear : beacon.hopCount < Config.maxHops) :
    RouteOf (routeOver beacon) (.accepted beacon :: log) := by
  refine .known rfl rfl ?_ hnear rfl rfl
  rw [hrun]
  exact List.argmin_singleton

/-- Below the limit the hop count does not wrap. -/
theorem toNat_hopCount_succ {beacon : MeshMessage} (h : beacon.hopCount < Config.maxHops) :
    (beacon.hopCount + 1).toNat = hops beacon + 1 ∧ hops beacon < Config.maxHops.toNat := by
  have hlt : beacon.hopCount.toNat < Config.maxHops.toNat := UInt8.lt_iff_toNat_lt.mp h
  have hmax : Config.maxHops.toNat = 10 := rfl
  have hone : (1 : UInt8).toNat = 1 := rfl
  refine ⟨?_, hlt⟩
  rw [UInt8.toNat_add, hone, hops]
  omega

/-- The route stage chooses between the record and the new beacon as the run does.
SOURCE: Mesh.cpp:889-897 -/
theorem RouteOf.accept {m : Mesh} {log : List Entry} (h : RouteOf m.currentMaster log)
    {beacon : MeshMessage} (hnear : beacon.hopCount < Config.maxHops) :
    RouteOf (m.updateRoute beacon).currentMaster (.accepted beacon :: log) := by
  cases h with
  | unknown hdistance hlog =>
      rw [updateRoute_of_better (.inl hdistance)]
      exact .first (currentRun_first hlog beacon) hnear
  | @known last best earlier hlog hmac hbest hbestNear hdistance hnextHop =>
      subst hlog
      by_cases hsame : last.originMacAddress = beacon.originMacAddress
      · obtain ⟨hnew, hnewLt⟩ := toNat_hopCount_succ hnear
        obtain ⟨hold, holdLt⟩ := toNat_hopCount_succ hbestNear
        have hmax : Config.maxHops.toNat = 10 := rfl
        have hknown : m.currentMaster.distance ≠ 0xFF := by
          intro hfar
          rw [hdistance] at hfar
          have hfull := congrArg UInt8.toNat hfar
          rw [hold, show (0xFF : UInt8).toNat = 255 from rfl] at hfull
          omega
        have hshorter : beacon.hopCount + 1 < m.currentMaster.distance ↔
            hops beacon < hops best := by
          rw [UInt8.lt_iff_toNat_lt, hdistance, hnew, hold]
          omega
        have hrun : (currentRun (.accepted beacon :: .accepted last :: earlier)).reverse =
            (currentRun (.accepted last :: earlier)).reverse ++ [beacon] := by
          rw [currentRun_same hsame, List.reverse_cons]
        have hargmin : (currentRun (.accepted beacon :: .accepted last :: earlier)).reverse.argmin
            hops = if hops beacon < hops best then some beacon else some best := by
          rw [hrun, List.argmin_concat, Option.mem_def.mp hbest]
        by_cases hless : hops beacon < hops best
        · rw [updateRoute_of_better (.inr (.inr (hshorter.mpr hless)))]
          refine .known rfl rfl ?_ hnear rfl rfl
          rw [hargmin, if_pos hless]
          rfl
        · have hkept : ¬BetterRoute m beacon := by
            rintro (hfar | hchanged | hbetter)
            · exact hknown hfar
            · exact hchanged (hmac.trans hsame)
            · exact hless (hshorter.mp hbetter)
          rw [updateRoute_of_not_better hkept]
          refine .known rfl (hmac.trans hsame) ?_ hbestNear hdistance hnextHop
          rw [hargmin, if_neg hless]
          rfl
      · rw [updateRoute_of_better (.inr (.inl (by rw [hmac]; exact hsame)))]
        exact .first (currentRun_other hsame earlier) hnear

/-- An accepted beacon has passed the hop guard.
SOURCE: Mesh.cpp:832-836 -/
theorem hopCount_lt_of_accepts {m : Mesh} {env : Env} {msg : MeshMessage}
    (h : m.acceptsBeacon env msg = true) : msg.hopCount < Config.maxHops := by
  rw [Mesh.acceptsBeacon, Bool.and_eq_true, Bool.not_eq_true', decide_eq_false_iff_not] at h
  exact UInt8.not_le.mp h.1

/-- SOURCE: Mesh.cpp:801-815 -/
theorem checkMasterTimeout_currentMaster (m : Mesh) (env : Env) :
    (m.checkMasterTimeout env).currentMaster =
      if clearsRoute m env then ⟨zeroMac, 0xFF, zeroMac⟩ else m.currentMaster := by
  unfold Mesh.checkMasterTimeout clearsRoute
  split
  · next hmaster => simp [hmaster]
  · next hnode =>
    split
    · next hunknown => simp [hunknown]
    · next hknown =>
      split
      · next hstale => simp [hnode, hknown, hstale]
      · next hfresh => simp [hfresh]

/-- The record is that of the log. -/
def State.Best (s : State) : Prop :=
  RouteOf s.mesh.currentMaster s.log

/-- The record is the best of its run in every reachable state. -/
theorem best_of_reachable {s : State} (h : system.Reachable s) : s.Best := by
  refine h.invariant ?_ ?_
  · intro s hs
    rw [State.Best, hs.log]
    exact .unknown hs.distance rfl
  · intro s e s' hs hstep
    cases e with
    | beacon env msg =>
        cases hstep
        show RouteOf (s.mesh.processMasterBeacon env msg).1.currentMaster _
        rw [processMasterBeacon_currentMaster]
        split
        · next haccepted => exact hs.accept (hopCount_lt_of_accepts haccepted)
        · exact hs
    | checkTimeout env =>
        cases hstep
        show RouteOf (s.mesh.checkMasterTimeout env).currentMaster _
        rw [checkMasterTimeout_currentMaster]
        split
        · exact .unknown rfl rfl
        · exact hs
    | other m' =>
        change step s (.other m') = some s' at hstep
        simp only [BestRoute.step, Option.ite_none_right_eq_some, Option.some.injEq] at hstep
        obtain ⟨⟨hroute, -⟩, rfl⟩ := hstep
        rw [State.Best, hroute]
        exact hs

/-! ## Result -/

/-- **A known route is the best accepted path.**  The last entry of the log is a beacon of the
recorded master; the distance and the next hop are those of the earliest beacon of the current
run with the fewest hops.
SOURCE: Mesh.cpp:162-182, 801-815, 831-897 -/
theorem route_best {s : State} (h : system.Reachable s)
    (hknown : s.mesh.currentMaster.distance ≠ 0xFF) :
    ∃ last earlier best, s.log = .accepted last :: earlier ∧
      s.mesh.currentMaster.mac = last.originMacAddress ∧
      best ∈ (currentRun s.log).reverse.argmin hops ∧
      s.mesh.currentMaster.distance.toNat = 1 + hops best ∧
      s.mesh.currentMaster.nextHop = best.lastHopMacAddress ∧
      1 ≤ s.mesh.currentMaster.distance.toNat ∧
      s.mesh.currentMaster.distance ≤ Config.maxHops := by
  cases best_of_reachable h with
  | unknown hdistance => exact absurd hdistance hknown
  | @known last best earlier hlog hmac hbest hnear hdistance hnextHop =>
      obtain ⟨hsucc, hlt⟩ := toNat_hopCount_succ hnear
      rw [← hdistance] at hsucc
      refine ⟨last, earlier, best, hlog, hmac, hbest, ?_, hnextHop, ?_, ?_⟩
      · omega
      · omega
      · rw [UInt8.le_iff_toNat_le]
        omega

/-! ## Two masters -/

/-- A node in dual-master mode. -/
def node : State where
  mesh := { Mesh.new with dualMasterMode := true }
  log := []

/-- A node without a route is a start. -/
theorem start_node : Start node :=
  ⟨rfl, rfl, rfl⟩

/-- A beacon of a master that has come over some hops, by way of a neighbour. -/
def beacon (master neighbour hopCount : UInt8) : MeshMessage :=
  { MeshMessage.zero with
    messageType := MeshMessageType.masterBeacon
    originMacAddress := Vector.replicate 6 master
    lastHopMacAddress := Vector.replicate 6 neighbour
    hopCount := hopCount }

/-- The two masters take turns; the last run has a worse beacon, the best one, a tie and a worse
one again. -/
def beacons : List MeshMessage :=
  [beacon 1 3 1, beacon 2 4 5, beacon 1 5 4, beacon 1 6 2, beacon 1 7 2, beacon 1 8 3]

/-- The route is by way of the neighbour that brought the best beacon of the last run first. -/
theorem route_best_turns :
    ∃ s last earlier best, system.Reachable s ∧
      s.log = (beacons.map Entry.accepted).reverse ∧ s.log = .accepted last :: earlier ∧
      s.mesh.currentMaster.mac = last.originMacAddress ∧
      best ∈ (currentRun s.log).reverse.argmin hops ∧ best = beacon 1 6 2 ∧
      s.mesh.currentMaster.distance.toNat = 1 + hops best ∧
      s.mesh.currentMaster.nextHop = best.lastHopMacAddress ∧
      1 ≤ s.mesh.currentMaster.distance.toNat ∧
      s.mesh.currentMaster.distance ≤ Config.maxHops := by
  have hrun : ∃ s, system.runFrom node (beacons.map (.beacon quietEnv)) = some s ∧
      s.log = (beacons.map Entry.accepted).reverse ∧ s.mesh.currentMaster.distance = 3 ∧
      (currentRun s.log).reverse.argmin hops = some (beacon 1 6 2) :=
    ⟨_, rfl, rfl, by decide +kernel, by decide +kernel⟩
  obtain ⟨s, hrun, hlog, hdistance, hargmin⟩ := hrun
  have hreach := System.Reachable.runFrom (.init start_node) hrun
  obtain ⟨last, earlier, best, hlast, hmac, hbest, hroute⟩ :=
    route_best hreach (by rw [hdistance]; decide)
  have hsame : best = beacon 1 6 2 := by
    rw [hargmin, Option.mem_some_iff] at hbest
    exact hbest.symm
  exact ⟨s, last, earlier, best, hreach, hlog, hlast, hmac, hbest, hsame, hroute⟩

end BestRoute

end LatticeNodes.Analysis
