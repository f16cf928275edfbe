import LatticeNodes.Analysis.MeshFrames
import LatticeNodes.Analysis.PeerCalls
import LatticeNodes.Library.TransitionSystem

/-!
# The enrollment exchange

A master and a node, the frames each has sent, and the requests the master has handed to the
server.  A frame stays in the air once it was sent, so it may arrive late, repeatedly or
never; the server approves any request it was handed, any number of times.

`enrollment_never_agrees`: whatever the exchange does, the node never holds the master's key.
`JOIN_ACK` carries no key, and nothing the node receives touches the keys of its peer table.
-/

set_option autoImplicit false

namespace LatticeNodes.Analysis

open LatticeNodes.Program TransitionSystem

namespace Enrollment

/-! ## The system -/

/-- `enrolled` is the node's enrolled flag, as a `JOIN_ACK` of the master set it. -/
structure State where
  master : Mesh
  node : Mesh
  masterSent : List MeshMessage
  nodeSent : List MeshMessage
  relayed : List (MacAddress × Key)
  enrolled : Bool

inductive Event where
  /-- The node broadcasts its request. -/
  | request (env : Env)
  /-- The master drains a frame of the node. -/
  | masterReceives (env : Env) (msg : MeshMessage)
  /-- `loop()` hands the pending request to the server. -/
  | relay
  /-- The server approves a request it was handed. -/
  | approve (env : Env) (mac : MacAddress) (publicKey : Key)
  /-- The node drains a frame of the master. -/
  | nodeReceives (env : Env) (msg : MeshMessage)

/-- The requests among the effects. -/
def relayedRequests (effects : List Effect) : List (MacAddress × Key) :=
  effects.filterMap fun
    | .enrollmentRelay mac pubKey => some (mac, pubKey)
    | _ => none

def framesOf (effects : List Effect) : List MeshMessage :=
  (sentFrames effects).map Prod.snd

def step (tls : Mbedtls) (s : State) : Event → Option State
  | .request env =>
      some { s with nodeSent := s.nodeSent ++ framesOf (s.node.sendEnrollmentRequest env) }
  | .masterReceives env msg =>
      if msg ∈ s.nodeSent then
        let handled := s.master.handleEntry env ⟨s.node.deviceMacAddress, msg⟩
        some { s with master := handled.1, masterSent := s.masterSent ++ framesOf handled.2 }
      else none
  | .relay =>
      let drained := s.master.drainPendingEnrollment
      some { s with master := drained.1, relayed := s.relayed ++ relayedRequests drained.2 }
  | .approve env mac publicKey =>
      if (mac, publicKey) ∈ s.relayed then
        let approved := s.master.enrollPeer tls env mac publicKey
        some { s with master := approved.1, masterSent := s.masterSent ++ framesOf approved.2 }
      else none
  | .nodeReceives env msg =>
      if msg ∈ s.masterSent then
        let handled := s.node.handleEntry env ⟨s.master.deviceMacAddress, msg⟩
        some { s with
          node := handled.1
          nodeSent := s.nodeSent ++ framesOf handled.2
          enrolled := s.enrolled || decide (Effect.saveEnrolledFlag true ∈ handled.2) }
      else none

/-- The peer table holds this address with this key. -/
def HoldsKey (m : Mesh) (mac : MacAddress) (publicKey : Key) : Prop :=
  ∃ p ∈ m.peers.entries, p.mac = mac ∧ p.publicKey = publicKey

/-- A master and a node that do not know each other's key; nothing was sent yet. -/
structure Initial (s : State) : Prop where
  master : s.master.isMaster = true
  node : s.node.isMaster = false
  masterUnknown : ¬HoldsKey s.node s.master.deviceMacAddress s.master.devicePublicKey
  nodeUnknown : ¬HoldsKey s.master s.node.deviceMacAddress s.node.devicePublicKey
  masterSent : s.masterSent = []
  nodeSent : s.nodeSent = []
  relayed : s.relayed = []
  enrolled : s.enrolled = false

def system (tls : Mbedtls) : System State Event where
  Init := Initial
  step := step tls

/-! ## Statement -/

/-- The node was enrolled by the master's `JOIN_ACK`, and the master holds the node's key. -/
def Enrolled (s : State) : Prop :=
  s.enrolled = true ∧ HoldsKey s.master s.node.deviceMacAddress s.node.devicePublicKey

/-- The driver encrypts what goes to this address, with this link key. -/
def Encrypts (m : Mesh) (mac : MacAddress) (lmk : Vector UInt8 16) : Prop :=
  ⟨mac, true, lmk⟩ ∈ m.espNowPeers

/-- The node holds the master's key, both sides encrypt the link, and their keys agree. -/
structure Agreed (s : State) : Prop where
  holds : HoldsKey s.node s.master.deviceMacAddress s.master.devicePublicKey
  encrypted : ∃ lmk, Encrypts s.master s.node.deviceMacAddress lmk ∧
    Encrypts s.node s.master.deviceMacAddress lmk

/-! ## The keys a node holds -/

/-- What the table holds is read off its addresses and keys. -/
theorem holdsKey_iff {m : Mesh} {mac : MacAddress} {publicKey : Key} :
    HoldsKey m mac publicKey ↔ (mac, publicKey) ∈ peerKeys m.peers := by
  simp [HoldsKey, peerKeys]

/-- The master's own address and key never change.
SOURCE: Mesh.cpp:1035-1089 -/
theorem enrollPeer_identity (m : Mesh) (tls : Mbedtls) (env : Env) (mac : MacAddress)
    (publicKey : Key) :
    (m.enrollPeer tls env mac publicKey).1.deviceMacAddress = m.deviceMacAddress ∧
      (m.enrollPeer tls env mac publicKey).1.devicePublicKey = m.devicePublicKey := by
  rw [enrollPeer_frame]
  exact ⟨rfl, rfl⟩

/-- Handing a request over keeps the identity of the node.
SOURCE: Mesh.cpp:1082-1089 -/
theorem drainPendingEnrollment_identity (m : Mesh) :
    m.drainPendingEnrollment.1.deviceMacAddress = m.deviceMacAddress ∧
      m.drainPendingEnrollment.1.devicePublicKey = m.devicePublicKey := by
  rw [drainPendingEnrollment_frame]
  exact ⟨rfl, rfl⟩

/-- The node's keys, and the address and key it would have to hold, stay the same. -/
structure SameKeys (s s' : State) : Prop where
  keys : peerKeys s'.node.peers = peerKeys s.node.peers
  mac : s'.master.deviceMacAddress = s.master.deviceMacAddress
  publicKey : s'.master.devicePublicKey = s.master.devicePublicKey

/-- One step of the exchange: one case for each event. -/
theorem step_sameKeys {tls : Mbedtls} {s s' : State} {e : Event}
    (h : step tls s e = some s') : SameKeys s s' := by
  cases e with
  | request env =>
      cases h
      exact ⟨rfl, rfl, rfl⟩
  | masterReceives env msg =>
      simp only [step, Option.ite_none_right_eq_some, Option.some.injEq] at h
      obtain ⟨-, rfl⟩ := h
      have hsame := handleEntry_sameNode s.master env ⟨s.node.deviceMacAddress, msg⟩
      exact ⟨rfl, hsame.deviceMacAddress, hsame.devicePublicKey⟩
  | relay =>
      cases h
      obtain ⟨hmac, hkey⟩ := drainPendingEnrollment_identity s.master
      exact ⟨rfl, hmac, hkey⟩
  | approve env mac publicKey =>
      simp only [step, Option.ite_none_right_eq_some, Option.some.injEq] at h
      obtain ⟨-, rfl⟩ := h
      obtain ⟨hmac, hkey⟩ := enrollPeer_identity s.master tls env mac publicKey
      exact ⟨rfl, hmac, hkey⟩
  | nodeReceives env msg =>
      simp only [step, Option.ite_none_right_eq_some, Option.some.injEq] at h
      obtain ⟨-, rfl⟩ := h
      have hsame := handleEntry_sameNode s.node env ⟨s.master.deviceMacAddress, msg⟩
      exact ⟨hsame.peerKeys, rfl, rfl⟩

/-- In no reachable state does the node hold the master's key. -/
theorem master_never_known {tls : Mbedtls} {s : State} (h : (system tls).Reachable s) :
    ¬HoldsKey s.node s.master.deviceMacAddress s.master.devicePublicKey := by
  refine h.invariant (fun s (hs : Initial s) => hs.masterUnknown) fun s e s' hs hstep => ?_
  have hsame := step_sameKeys hstep
  rw [holdsKey_iff] at hs ⊢
  rw [hsame.keys, hsame.mac, hsame.publicKey]
  exact hs

/-! ## Result -/

/-- **An enrolled node never agrees with its master on a link key.**
SOURCE: Mesh.cpp:1012-1075 -/
theorem enrollment_never_agrees {tls : Mbedtls} {s : State} (h : (system tls).Reachable s) :
    Enrolled s → ¬Agreed s := by
  intro _ hagreed
  exact master_never_known h hagreed.holds

/-! ## A complete exchange -/

/-- A Diffie-Hellman exchange over bytes in which a private key is its own public key: it is
symmetric. -/
def xorTls : Mbedtls :=
  ⟨fun a b => Vector.zipWith (· ^^^ ·) a b, fun _ => Vector.replicate 32 0⟩

def keyOf (b : UInt8) : Key := Vector.replicate 32 b

/-- A master and a node with empty peer tables. -/
def strangers : State where
  master :=
    { Mesh.new with
      deviceMacAddress := Vector.replicate 6 1
      devicePrivateKey := keyOf 1
      devicePublicKey := keyOf 1
      isMaster := true
      enrollmentRelayFn := true }
  node :=
    { Mesh.new with
      deviceMacAddress := Vector.replicate 6 2
      devicePrivateKey := keyOf 2
      devicePublicKey := keyOf 2 }
  masterSent := []
  nodeSent := []
  relayed := []
  enrolled := false

/-- The two strangers are a start. -/
theorem initial_strangers : Initial strangers where
  master := rfl
  node := rfl
  masterUnknown := by rintro ⟨p, hp, -⟩; cases hp
  nodeUnknown := by rintro ⟨p, hp, -⟩; cases hp
  masterSent := rfl
  nodeSent := rfl
  relayed := rfl
  enrolled := rfl

/-- Request, relay, approval and acknowledgement, without loss. -/
def exchange : List Event :=
  [.request quietEnv,
    .masterReceives quietEnv strangers.node.enrollmentRequest,
    .relay,
    .approve quietEnv strangers.node.deviceMacAddress strangers.node.devicePublicKey,
    .nodeReceives quietEnv
      (strangers.master.joinAck strangers.node.deviceMacAddress strangers.node.devicePublicKey)]

/-- The whole exchange enrolls the node. -/
theorem exchange_enrolls :
    ∃ s, (system xorTls).runFrom strangers exchange = some s ∧ Enrolled s :=
  ⟨_, rfl, rfl, _, List.mem_cons_self, rfl, rfl⟩

/-- The complete exchange enrolls the node without agreement. -/
theorem exchange_never_agrees :
    ∃ s, (system xorTls).runFrom strangers exchange = some s ∧ Enrolled s ∧
      (Enrolled s → ¬Agreed s) := by
  obtain ⟨s, hrun, henrolled⟩ := exchange_enrolls
  have hreach : (system xorTls).Reachable s :=
    System.Reachable.runFrom (.init initial_strangers) hrun
  exact ⟨s, hrun, henrolled, enrollment_never_agrees hreach⟩

/-- The enrolled node has no key of its master. -/
theorem not_agreed_exchange :
    ∃ s, (system xorTls).runFrom strangers exchange = some s ∧ Enrolled s ∧
      s.node.peers.entries = [] ∧ ¬Agreed s := by
  have hrun : ∃ s, (system xorTls).runFrom strangers exchange = some s ∧ Enrolled s ∧
      s.node.peers.entries = [] := ⟨_, rfl, ⟨rfl, _, List.mem_cons_self, rfl, rfl⟩, rfl⟩
  obtain ⟨s, hs, henrolled, hempty⟩ := hrun
  refine ⟨s, hs, henrolled, hempty, fun hagreed => ?_⟩
  obtain ⟨p, hp, -⟩ := hagreed.holds
  rw [hempty] at hp
  cases hp

end Enrollment

end LatticeNodes.Analysis
