import LatticeNodes.Analysis.EffectRuns
import LatticeNodes.Analysis.PeerTables
import LatticeNodes.Program.MeshInit

/-!
# The calls that edit the peer table

`addPeer` and `enrollPeer` choose a table, save it and register the peer with the radio.  An
enrollment forgets the old registration first (`reregister`).
-/

set_option autoImplicit false

namespace LatticeNodes.Analysis

open LatticeNodes.Program

/-- The table after an enrollment; `none` when it is full.
SOURCE: Mesh.cpp:1036-1051 -/
def enrolledPeers (t : PeerTable) (mac : MacAddress) (publicKey : Key) : Option PeerTable :=
  if (t.findPeer mac).isSome then some (t.modify mac fun p => { p with publicKey := publicKey })
  else if Config.maxPeers ≤ t.entries.length then none
  else some (t.appendPeer ⟨mac, publicKey, 0⟩)

section Calls

variable {m : Mesh} {tls : Mbedtls} {env : Env} {mac : MacAddress} {publicKey : Key}

/-- The registration is renewed with the key.
SOURCE: Mesh.cpp:1054-1058 -/
def reregister (m : Mesh) (tls : Mbedtls) (env : Env) (mac : MacAddress) (publicKey : Key) :
    Mesh × List Effect :=
  (if m.espNowPeers.any (·.peerAddr == mac) then m.espNowDelPeer env mac
    else m).registerPeerWithEspNow tls env mac publicKey

/-- SOURCE: Mesh.cpp:1035-1075 -/
theorem enrollPeer_eq : m.enrollPeer tls env mac publicKey =
    match enrolledPeers m.peers mac publicKey with
    | none => (m, [])
    | some t =>
        ((reregister { m with peers := t } tls env mac publicKey).1,
          .savePeerList t.records t.entries.length ::
            ((reregister { m with peers := t } tls env mac publicKey).2 ++ Mesh.espNowBroadcast env
              ((reregister { m with peers := t } tls env mac publicKey).1.joinAck mac
                publicKey))) := rfl

/-- A broadcast uses the radio only.
SOURCE: Mesh.cpp:698-701 -/
theorem espNowBroadcast_radioOnly (msg : MeshMessage) :
    AllRadioOnly (Mesh.espNowBroadcast env msg) := by
  unfold Mesh.espNowBroadcast
  split
  · intro e he
    rw [List.mem_singleton.mp he]
    exact trivial
  · exact allRadioOnly_nil

/-- Registering a peer uses the radio only.
SOURCE: Mesh.cpp:131-160 -/
theorem registerPeerWithEspNow_radioOnly :
    AllRadioOnly (m.registerPeerWithEspNow tls env mac publicKey).2 := by
  unfold Mesh.registerPeerWithEspNow
  split
  · exact allRadioOnly_nil
  · split
    · exact allRadioOnly_nil
    · intro e he
      rw [List.mem_singleton.mp he]
      rfl

/-- Registering a peer changes the radio's registry only. -/
theorem registerPeerWithEspNow_frame :
    (m.registerPeerWithEspNow tls env mac publicKey).1 =
      { m with espNowPeers := (m.registerPeerWithEspNow tls env mac publicKey).1.espNowPeers } := by
  unfold Mesh.registerPeerWithEspNow
  split
  · rfl
  · split <;> rfl

/-- Deleting a peer from the radio touches the radio's table only.
SOURCE: Mesh.cpp:131-160 -/
theorem espNowDelPeer_frame :
    m.espNowDelPeer env mac =
      { m with espNowPeers := (m.espNowDelPeer env mac).espNowPeers } := by
  unfold Mesh.espNowDelPeer
  split <;> rfl

/-- Registering a peer anew touches the radio's table only.
SOURCE: Mesh.cpp:131-160 -/
theorem reregister_frame :
    (reregister m tls env mac publicKey).1 =
      { m with espNowPeers := (reregister m tls env mac publicKey).1.espNowPeers } := by
  rw [reregister, registerPeerWithEspNow_frame]
  split
  · rw [espNowDelPeer_frame]
  · rfl

/-- The node's own table stays. -/
theorem reregister_peers : (reregister m tls env mac publicKey).1.peers = m.peers := by
  rw [reregister_frame]

/-- An enrollment changes the peer table and the radio's registry only. -/
theorem enrollPeer_frame : (m.enrollPeer tls env mac publicKey).1 =
    { m with
      peers := (m.enrollPeer tls env mac publicKey).1.peers
      espNowPeers := (m.enrollPeer tls env mac publicKey).1.espNowPeers } := by
  rw [enrollPeer_eq]
  split
  · rfl
  · simp only
    rw [reregister_frame]

/-- An added peer changes the peer table and the radio's registry only.
SOURCE: Mesh.cpp:706-720 -/
theorem addPeer_frame : (m.addPeer tls env mac).1 =
    { m with
      peers := (m.addPeer tls env mac).1.peers
      espNowPeers := (m.addPeer tls env mac).1.espNowPeers } := by
  unfold Mesh.addPeer
  split
  · rfl
  · split
    · rfl
    · simp only
      rw [registerPeerWithEspNow_frame]

/-- SOURCE: Mesh.cpp:310-323, 722-726 -/
theorem removePeer_frame : (m.removePeer env mac).1 =
    { m with
      peers := (m.removePeer env mac).1.peers
      espNowPeers := (m.removePeer env mac).1.espNowPeers } := by
  unfold Mesh.removePeer
  simp only
  split
  · rw [espNowDelPeer_frame]
  · rfl

/-- The loop over the table changes the radio's registry only.
SOURCE: Mesh.cpp:514-516 -/
theorem registerPeers_frame (tls : Mbedtls) (env : Env) (m : Mesh) (ps : List PeerInfo) :
    ∃ registered,
      (Mesh.registerPeers tls env m ps).1 = { m with espNowPeers := registered } := by
  induction ps generalizing m with
  | nil => exact ⟨m.espNowPeers, rfl⟩
  | cons p ps ih =>
      obtain ⟨registered, heq⟩ := ih (m.registerPeerWithEspNow tls env p.mac p.publicKey).1
      refine ⟨registered, ?_⟩
      show (Mesh.registerPeers tls env
        (m.registerPeerWithEspNow tls env p.mac p.publicKey).1 ps).1 = _
      rw [heq, registerPeerWithEspNow_frame]

/-- Registering a peer sends nothing. -/
theorem registerPeerWithEspNow_silent :
    sentFrames (m.registerPeerWithEspNow tls env mac publicKey).2 = [] := by
  unfold Mesh.registerPeerWithEspNow
  split
  · rfl
  · split <;> rfl

end Calls

end LatticeNodes.Analysis
