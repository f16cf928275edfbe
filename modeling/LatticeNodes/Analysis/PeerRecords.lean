import LatticeNodes.Analysis.EepromStore
import LatticeNodes.Analysis.PeerTables
import LatticeNodes.Program.Device
import LatticeNodes.Program.MeshInit
import Mathlib.Data.List.GetD

/-!
# The stored peer records

A table is stored as one 38-byte record for each entry and `0xFF` behind them
(`region_savePeerList`), and loading the records gives the entries back, in order and without
those whose address is all `0xFF` (`pairs_loadPeersFromEEPROM`).
-/

set_option autoImplicit false

namespace LatticeNodes.Analysis

open LatticeNodes.Program FieldStore EepromFields

/-! ## Records -/

/-- The 380 bytes of the peer list. -/
def region (em : EepromManager) : List UInt8 :=
  em.readBytes EepromAddresses.peerList EepromSizes.peerListSize

/-- SOURCE: Mesh.cpp:279-281 -/
def record (p : PeerInfo) : List UInt8 := p.mac.toList ++ p.publicKey.toList

def pairs (t : PeerTable) : List (MacAddress × Key) := t.entries.map fun p => (p.mac, p.publicKey)

/-- A record has its size.
SOURCE: Mesh.cpp:274-284 -/
theorem length_record (p : PeerInfo) : (record p).length = EepromSizes.peerRecordSize := by
  simp [record, EepromSizes.peerRecordSize]

/-- So many records have so many times their size. -/
theorem length_flatMap_record (ps : List PeerInfo) :
    (ps.flatMap record).length = ps.length * EepromSizes.peerRecordSize := by
  induction ps with
  | nil => simp
  | cons p ps ih =>
      rw [List.flatMap_cons, List.length_append, length_record, ih, List.length_cons, Nat.add_mul]
      omega

/-- A saved table is its records, erased behind them.
SOURCE: Mesh.cpp:274-286 -/
theorem records_eq (t : PeerTable) : t.records = t.entries.flatMap record ++
    List.replicate (EepromSizes.peerListSize -
      t.entries.length * EepromSizes.peerRecordSize) 0xFF := by
  rw [← length_flatMap_record]
  rfl

/-- Byte `j` of record `i`. -/
theorem getD_flatMap_record {ps : List PeerInfo} {i : ℕ} (hi : i < ps.length) {j : ℕ}
    (hj : j < EepromSizes.peerRecordSize) (rest : List UInt8) :
    (ps.flatMap record ++ rest).getD (i * EepromSizes.peerRecordSize + j) 0 =
      (record ps[i]).getD j 0 := by
  induction ps generalizing i with
  | nil => simp at hi
  | cons p ps ih =>
      have hlength := length_record p
      cases i with
      | zero =>
          have hin : j < (record p).length := by omega
          simp [List.flatMap_cons, List.getElem?_append_left, hin]
      | succ i =>
          have hindex : (i + 1) * EepromSizes.peerRecordSize + j =
              (record p).length + (i * EepromSizes.peerRecordSize + j) := by
            rw [hlength, Nat.add_mul]
            omega
          have hrest := ih (by simpa using hi)
          rw [List.flatMap_cons, List.append_assoc, hindex,
            List.getD_append_right _ _ _ _ (by omega), Nat.add_sub_cancel_left, hrest]
          rfl

/-! ## Saving -/

/-- **The region holds what the pointer leads to, and `0xFF` behind it.**
SOURCE: EEPROM_Manager.cpp:290-314 -/
theorem region_savePeerList_pointer {em : EepromManager} (h : Production em)
    (peerRecords : ℕ → UInt8) {numPeers : ℕ} (hfits : numPeers ≤ Config.maxPeers) :
    region (em.savePeerList peerRecords numPeers) =
      (List.range (numPeers * EepromSizes.peerRecordSize)).map peerRecords ++
        List.replicate ((Config.maxPeers - numPeers) * EepromSizes.peerRecordSize) 0xFF := by
  have hfew : ¬Config.maxPeers < numPeers := Nat.not_lt.mpr hfits
  have hread := @run_read em h (.peerList peerRecords numPeers) trivial
  have hwrites : writesOf (.peerList peerRecords numPeers) =
      consecutive EepromAddresses.peerList (List.replicate EepromSizes.peerListSize 0xFF) ++
        consecutive EepromAddresses.peerList ((List.range
          (numPeers * EepromSizes.peerRecordSize)).map peerRecords) :=
    if_neg hfew
  have hall : region (SaveCall.run em (.peerList peerRecords numPeers)) =
      (peerRegion peerRecords numPeers).toList := by
    rw [region, readBytes_eq_take (Nat.le_refl _), hread, hwrites, readVector_peerRegion]
    exact List.take_of_length_le (Nat.le_of_eq (Vector.length_toList ..))
  rw [← toList_peerRegion peerRecords hfits]
  exact hall

/-- **The region holds the records after a save.**
SOURCE: Mesh.cpp:274-285, EEPROM_Manager.cpp:290-314 -/
theorem region_savePeerList {em : EepromManager} (h : Production em) (t : PeerTable) :
    region (em.savePeerList (Device.pointerTo t.records) t.entries.length) = t.records := by
  have hused : (List.range (t.entries.length * EepromSizes.peerRecordSize)).map
      (Device.pointerTo t.records) = t.entries.flatMap record := by
    apply List.ext_getElem
    · rw [List.length_map, List.length_range, length_flatMap_record]
    · intro i hi hi'
      rw [List.getElem_map, List.getElem_range, Device.pointerTo, records_eq,
        List.getD_append _ _ _ _ hi', List.getD_eq_getElem _ _ hi']
  have hrest : (Config.maxPeers - t.entries.length) * EepromSizes.peerRecordSize =
      EepromSizes.peerListSize - t.entries.length * EepromSizes.peerRecordSize :=
    Nat.sub_mul _ _ _
  rw [region_savePeerList_pointer h _ t.bounded, hused, hrest, ← records_eq]

/-! ## Loading -/

/-- The entry as it is loaded. -/
def unseen (p : PeerInfo) : PeerInfo := { p with lastSeenMillis := 0 }

/-- The record at an index is read back, its time unset.
SOURCE: Mesh.cpp:233-272 -/
theorem storedPeer_of_lt {ps : List PeerInfo} {i : ℕ} (hi : i < ps.length) (rest : List UInt8) :
    Mesh.storedPeer (ps.flatMap record ++ rest) i = unseen ps[i] := by
  have hmac : (Mesh.storedPeer (ps.flatMap record ++ rest) i).mac = ps[i].mac := by
    apply Vector.ext
    intro j hj
    have hsize : j < EepromSizes.peerRecordSize := by
      simp only [EepromSizes.peerRecordSize]
      omega
    have hbyte := getD_flatMap_record hi hsize rest
    rw [Mesh.storedPeer, Vector.getElem_ofFn, hbyte, record,
      List.getD_append _ _ _ _ (by simpa using hj)]
    simp [hj]
  have hkey : (Mesh.storedPeer (ps.flatMap record ++ rest) i).publicKey = ps[i].publicKey := by
    apply Vector.ext
    intro j hj
    have hsize : 6 + j < EepromSizes.peerRecordSize := by
      simp only [EepromSizes.peerRecordSize]
      omega
    have hbyte := getD_flatMap_record hi hsize rest
    rw [← Nat.add_assoc] at hbyte
    rw [Mesh.storedPeer, Vector.getElem_ofFn, hbyte, record,
      List.getD_append_right _ _ _ _ (by simp)]
    simp [hj]
  calc Mesh.storedPeer (ps.flatMap record ++ rest) i
      = ⟨(Mesh.storedPeer (ps.flatMap record ++ rest) i).mac,
          (Mesh.storedPeer (ps.flatMap record ++ rest) i).publicKey, 0⟩ := rfl
    _ = unseen ps[i] := by
      rw [hmac, hkey]
      rfl

/-- A slot behind the records is empty. -/
theorem storedPeer_of_le (t : PeerTable) {i : ℕ} (hlo : t.entries.length ≤ i)
    (hhi : i < Config.maxPeers) : (Mesh.storedPeer t.records i).mac = broadcastMac := by
  apply Vector.ext
  intro j hj
  have hbefore : (t.entries.flatMap record).length ≤ i * EepromSizes.peerRecordSize + j := by
    rw [length_flatMap_record]
    exact (Nat.mul_le_mul_right _ hlo).trans (Nat.le_add_right _ _)
  have hindex : i * EepromSizes.peerRecordSize + j - (t.entries.flatMap record).length <
      EepromSizes.peerListSize - t.entries.length * EepromSizes.peerRecordSize := by
    rw [length_flatMap_record] at hbefore ⊢
    simp only [Config.maxPeers] at hhi
    simp only [EepromSizes.peerListSize, EepromSizes.peerRecordSize, Config.maxPeers] at hbefore ⊢
    omega
  rw [Mesh.storedPeer, Vector.getElem_ofFn, records_eq, List.getD_append_right _ _ _ _ hbefore,
    List.getD_replicate _ hindex]
  simp [broadcastMac]

/-- The stored peers are appended one by one while there is room.
SOURCE: Mesh.cpp:233-272 -/
theorem foldl_appendStored (peerRecords : List UInt8) (is : List ℕ) (t : PeerTable)
    (hroom : t.entries.length + is.length ≤ Config.maxPeers) :
    (is.foldl (Mesh.appendStored peerRecords) t).entries =
      t.entries ++ (is.map (Mesh.storedPeer peerRecords)).filter (·.mac ≠ broadcastMac) := by
  induction is generalizing t with
  | nil => simp
  | cons i is ih =>
      rw [List.length_cons] at hroom
      have happend := @entries_appendPeer t (by omega) (Mesh.storedPeer peerRecords i)
      rw [List.foldl_cons, List.map_cons]
      by_cases hempty : (Mesh.storedPeer peerRecords i).mac = broadcastMac
      · have hkept : Mesh.appendStored peerRecords t i = t := if_pos hempty
        rw [hkept, ih t (by omega)]
        simp [hempty]
      · have hadded : Mesh.appendStored peerRecords t i =
            t.appendPeer (Mesh.storedPeer peerRecords i) := if_neg hempty
        have hroom' : (t.appendPeer (Mesh.storedPeer peerRecords i)).entries.length + is.length ≤
            Config.maxPeers := by
          rw [happend, List.length_append, List.length_singleton]
          omega
        rw [hadded, ih _ hroom', happend]
        simp [hempty]

/-- **Loading the records of a table gives its entries, without the empty address.**
SOURCE: Mesh.cpp:233-259 -/
theorem storedPeers_of_region {em : EepromManager} (hinit : em.isInitialized = true)
    {t : PeerTable} (hregion : region em = t.records) :
    (Mesh.storedPeers em).entries =
      (t.entries.map unseen).filter (·.mac ≠ broadcastMac) := by
  have hload : em.loadPeerList Config.maxPeers = some t.records := by
    have hnot : ¬Config.maxPeers < Config.maxPeers := Nat.lt_irrefl _
    rw [EepromManager.loadPeerList, hinit, if_neg hnot, ← hregion]
    rfl
  have hsplit : (List.range Config.maxPeers).map (Mesh.storedPeer t.records) =
      t.entries.map unseen ++ ((List.range (Config.maxPeers - t.entries.length)).map
        (t.entries.length + ·)).map (Mesh.storedPeer t.records) := by
    have hrange := @List.range_add t.entries.length (Config.maxPeers - t.entries.length)
    rw [Nat.add_sub_of_le t.bounded] at hrange
    rw [hrange, List.map_append]
    congr 1
    apply List.ext_getElem
    · simp
    · intro i hi hi'
      have hlt : i < t.entries.length := by simpa using hi
      have hstored := storedPeer_of_lt hlt
        (List.replicate (EepromSizes.peerListSize -
          t.entries.length * EepromSizes.peerRecordSize) 0xFF)
      rw [← records_eq] at hstored
      simp [hstored]
  have hempty : (((List.range (Config.maxPeers - t.entries.length)).map
      (t.entries.length + ·)).map (Mesh.storedPeer t.records)).filter
        (·.mac ≠ broadcastMac) = [] := by
    apply List.filter_eq_nil_iff.mpr
    intro p hp
    simp only [List.mem_map, List.mem_range] at hp
    obtain ⟨k, ⟨i, hi, rfl⟩, rfl⟩ := hp
    have hmac := @storedPeer_of_le t (t.entries.length + i) (by omega) (by omega)
    simp [hmac]
  have hfold := foldl_appendStored t.records (List.range Config.maxPeers) PeerTable.empty (by
    rw [List.length_range]
    exact (Nat.zero_add _).le)
  simp only [Mesh.storedPeers, hload]
  rw [hfold, hsplit, List.filter_append, hempty, List.append_nil]
  rfl

/-- **A saved table is loaded back**, addresses and keys.
SOURCE: Mesh.cpp:233-272 -/
theorem pairs_loadPeersFromEEPROM {em : EepromManager} (hinit : em.isInitialized = true)
    {t : PeerTable} (hregion : region em = t.records)
    (hsome : ∃ p ∈ t.entries, p.mac ≠ broadcastMac) (m : Mesh) :
    pairs (m.loadPeersFromEEPROM em).peers =
      (pairs t).filter fun p => p.1 ≠ broadcastMac := by
  have hstored := storedPeers_of_region hinit hregion
  have hne : (Mesh.storedPeers em).entries ≠ [] := by
    obtain ⟨p, hp, hmac⟩ := hsome
    have hmem : unseen p ∈ (Mesh.storedPeers em).entries := by
      rw [hstored, List.mem_filter]
      exact ⟨List.mem_map_of_mem hp, decide_eq_true hmac⟩
    exact List.ne_nil_of_mem hmem
  rw [Mesh.loadPeersFromEEPROM, if_neg hne, pairs]
  show (Mesh.storedPeers em).entries.map _ = _
  rw [hstored, pairs, List.filter_map, List.filter_map, List.map_map]
  rfl

end LatticeNodes.Analysis
