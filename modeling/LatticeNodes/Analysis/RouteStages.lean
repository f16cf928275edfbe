import LatticeNodes.Analysis.MeshFrames

/-!
# What a receive step does to the route

Only a beacon touches the current master, and only one that is accepted; what it then becomes
is up to the route stage alone (`handleEntry_currentMaster`).
-/

set_option autoImplicit false

namespace LatticeNodes.Analysis

open LatticeNodes.Program

/-- A trust step leaves the route alone. -/
theorem TrustStep.currentMaster {m m' : Mesh} {env : Env} {msg : MeshMessage}
    {effects : List Effect} (h : TrustStep m env msg m' effects) :
    m'.currentMaster = m.currentMaster := by
  cases h with
  | _ => rfl

/-- The new route depends on the old one only.
SOURCE: Mesh.cpp:889-897 -/
theorem updateRoute_currentMaster_congr {m m' : Mesh} (msg : MeshMessage)
    (h : m'.currentMaster = m.currentMaster) :
    (m'.updateRoute msg).currentMaster = (m.updateRoute msg).currentMaster := by
  by_cases hbetter : BetterRoute m msg
  · have hbetter' : BetterRoute m' msg := by
      rw [BetterRoute, h]
      exact hbetter
    rw [updateRoute_of_better hbetter, updateRoute_of_better hbetter']
  · have hbetter' : ¬BetterRoute m' msg := by
      rw [BetterRoute, h]
      exact hbetter
    rw [updateRoute_of_not_better hbetter, updateRoute_of_not_better hbetter', h]

/-- After the route stage the record is of the beacon's origin.
SOURCE: Mesh.cpp:889-897 -/
theorem updateRoute_mac (m : Mesh) (msg : MeshMessage) :
    (m.updateRoute msg).currentMaster.mac = msg.originMacAddress := by
  by_cases hbetter : BetterRoute m msg
  · rw [updateRoute_of_better hbetter]
  · rw [updateRoute_of_not_better hbetter]
    by_contra hne
    exact hbetter (.inr (.inl hne))

/-- A beacon that passes the hop guard is nearer than the distance of no route. -/
theorem hopCount_succ_ne {msg : MeshMessage} (hnear : msg.hopCount < Config.maxHops) :
    msg.hopCount + 1 ≠ 0xFF := by
  intro hwrap
  rw [UInt8.lt_iff_toNat_lt] at hnear
  have hmax : Config.maxHops.toNat = 10 := rfl
  have hfull := congrArg UInt8.toNat hwrap
  rw [UInt8.toNat_add] at hfull
  have hone : (1 : UInt8).toNat = 1 := rfl
  have hlimit : (0xFF : UInt8).toNat = 255 := rfl
  omega

/-- After the route stage there is a route. -/
theorem updateRoute_distance {m : Mesh} {msg : MeshMessage}
    (hnear : msg.hopCount < Config.maxHops) :
    (m.updateRoute msg).currentMaster.distance ≠ 0xFF := by
  by_cases hbetter : BetterRoute m msg
  · rw [updateRoute_of_better hbetter]
    exact hopCount_succ_ne hnear
  · rw [updateRoute_of_not_better hbetter]
    exact fun hfar => hbetter (.inl hfar)

/-- SOURCE: Mesh.cpp:831-897 -/
theorem processMasterBeacon_currentMaster (m : Mesh) (env : Env) (msg : MeshMessage) :
    (m.processMasterBeacon env msg).1.currentMaster =
      if m.acceptsBeacon env msg then (m.updateRoute msg).currentMaster
      else m.currentMaster := by
  rcases processMasterBeacon_inv m env msg with
    ⟨hrejected, heq⟩ | ⟨m', trusted, haccepted, -, htrust, heq⟩
  · rw [heq, hrejected, if_neg Bool.false_ne_true]
  · rw [heq, haccepted, if_pos rfl]
    show (afterTrust m' env msg).currentMaster = _
    rw [afterTrust_currentMaster]
    exact updateRoute_currentMaster_congr msg htrust.currentMaster

/-- **A beacon that is accepted takes the route to its origin.**
SOURCE: Mesh.cpp:889-897 -/
theorem processMasterBeacon_route {m : Mesh} {env : Env} {msg : MeshMessage}
    (h : m.acceptsBeacon env msg = true) :
    (m.processMasterBeacon env msg).1.currentMaster.mac = msg.originMacAddress := by
  rw [processMasterBeacon_currentMaster, if_pos h]
  exact updateRoute_mac m msg

/-- No other message than a beacon touches the route.
SOURCE: Mesh.cpp:584-602 -/
theorem dispatch_currentMaster_of_ne (m : Mesh) (env : Env) {msg : MeshMessage}
    (h : msg.messageType ≠ MeshMessageType.masterBeacon) :
    (m.dispatch env msg).1.currentMaster = m.currentMaster := by
  obtain ⟨mac, pubKey, relay, master, hasMaster, heq⟩ := dispatch_frame_of_ne m env h
  rw [heq]

/-- **The route changes with an accepted beacon only.**
SOURCE: Mesh.cpp:563-604, 831-897 -/
theorem handleEntry_currentMaster (m : Mesh) (env : Env) (entry : RecvQueueEntry) :
    (m.handleEntry env entry).1.currentMaster = m.currentMaster ∨
      entry.msg.messageType = MeshMessageType.masterBeacon ∧
        (m.handleEntry env entry).1.currentMaster = (m.updateRoute entry.msg).currentMaster := by
  cases hreceived : received m env entry with
  | none =>
      left
      rw [handleEntry_of_dropped hreceived]
  | some m' =>
      have hroute : m'.currentMaster = m.currentMaster := by
        rw [received_frame hreceived]
      rw [handleEntry_of_received hreceived]
      by_cases htype : entry.msg.messageType = MeshMessageType.masterBeacon
      · rw [dispatch_masterBeacon m' env htype, processMasterBeacon_currentMaster]
        split
        · right
          exact ⟨htype, updateRoute_currentMaster_congr entry.msg hroute⟩
        · left
          exact hroute
      · left
        rw [dispatch_currentMaster_of_ne m' env htype, hroute]

/-- Whatever master the route leads to, a beacon of it was received. -/
theorem handleEntry_currentMaster_mac (m : Mesh) (env : Env) (entry : RecvQueueEntry) :
    (m.handleEntry env entry).1.currentMaster = m.currentMaster ∨
      entry.msg.messageType = MeshMessageType.masterBeacon ∧
        (m.handleEntry env entry).1.currentMaster.mac = entry.msg.originMacAddress := by
  rcases handleEntry_currentMaster m env entry with hsame | ⟨htype, hroute⟩
  · exact .inl hsame
  · by_cases hbetter : BetterRoute m entry.msg
    · right
      rw [hroute, updateRoute_of_better hbetter]
      exact ⟨htype, rfl⟩
    · left
      rw [hroute, updateRoute_of_not_better hbetter]

end LatticeNodes.Analysis
