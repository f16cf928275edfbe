import LatticeNodes.Program.MeshState
import Mathlib.Data.List.Perm.Basic

/-!
# The peer table

What `findPeer` returns after each operation on the peer table, and which entries the
operations leave: appending, writing through the pointer, and the removal that puts the last
entry in the place of the removed one.
-/

set_option autoImplicit false

namespace LatticeNodes.Analysis

open LatticeNodes.Program

/-- Changing a peer is seen by who looks for it. -/
theorem find?_modifyFirst (mac mac' : MacAddress) {f : PeerInfo → PeerInfo}
    (hmac : ∀ p, (f p).mac = p.mac) (ps : List PeerInfo) :
    (PeerTable.modifyFirst mac f ps).find? (fun p => p.mac = mac') =
      if mac' = mac then (ps.find? fun p => p.mac = mac').map f
      else ps.find? fun p => p.mac = mac' := by
  induction ps with
  | nil => simp [PeerTable.modifyFirst]
  | cons p ps ih =>
      unfold PeerTable.modifyFirst
      by_cases hfirst : p.mac = mac
      · rw [if_pos hfirst]
        by_cases hsame : mac' = mac
        · rw [if_pos hsame, List.find?_cons_of_pos (by simp [hmac, hfirst, hsame]),
            List.find?_cons_of_pos (by simp [hfirst, hsame])]
          rfl
        · have hother : ¬p.mac = mac' := fun h => hsame (h.symm.trans hfirst)
          rw [if_neg hsame, List.find?_cons_of_neg (by simp [hmac, hother]),
            List.find?_cons_of_neg (by simp [hother])]
      · rw [if_neg hfirst]
        by_cases hhit : p.mac = mac'
        · have hother : ¬mac' = mac := fun h => hfirst (hhit.trans h)
          rw [if_neg hother, List.find?_cons_of_pos (by simp [hhit]),
            List.find?_cons_of_pos (by simp [hhit])]
        · rw [List.find?_cons_of_neg (by simp [hhit]), List.find?_cons_of_neg (by simp [hhit]), ih]

/-- Writing through the pointer changes what is found at this address only.
SOURCE: Mesh.cpp:324-330, 818-829 -/
theorem findPeer_modify (t : PeerTable) (mac mac' : MacAddress) {f : PeerInfo → PeerInfo}
    (hmac : ∀ p, (f p).mac = p.mac) :
    (t.modify mac f).findPeer mac' =
      if mac' = mac then (t.findPeer mac').map f else t.findPeer mac' :=
  find?_modifyFirst mac mac' hmac t.entries

/-- A table finds exactly the addresses of its entries. -/
theorem findPeer_isSome_iff {t : PeerTable} {mac : MacAddress} :
    (t.findPeer mac).isSome = true ↔ ∃ p ∈ t.entries, p.mac = mac := by
  simp [PeerTable.findPeer]

/-- A peer that is found is in the table.
SOURCE: Mesh.cpp:324-330 -/
theorem mem_of_findPeer {t : PeerTable} {mac : MacAddress} {p : PeerInfo}
    (h : t.findPeer mac = some p) : p ∈ t.entries ∧ p.mac = mac :=
  ⟨List.mem_of_find?_eq_some h, by simpa using List.find?_some h⟩

/-! ## Entries -/

def macs (t : PeerTable) : List MacAddress := t.entries.map (·.mac)

/-- An address is in the table exactly when its peer is found.
SOURCE: Mesh.cpp:324-330 -/
theorem mem_macs {t : PeerTable} {mac : MacAddress} :
    mac ∈ macs t ↔ (t.findPeer mac).isSome = true := by
  rw [findPeer_isSome_iff, macs, List.mem_map]

/-- A peer is appended while there is room.
SOURCE: Mesh.cpp:184-189 -/
theorem entries_appendPeer {t : PeerTable} (h : t.entries.length < Config.maxPeers)
    (peer : PeerInfo) : (t.appendPeer peer).entries = t.entries ++ [peer] := by
  rw [PeerTable.appendPeer, dif_pos h]

/-- Different peers have different addresses. -/
theorem mac_ne_of_distinct {p : PeerInfo} {ps : List PeerInfo}
    (hdistinct : ((p :: ps).map (·.mac)).Nodup) {q : PeerInfo} (hq : q ∈ ps) : q.mac ≠ p.mac := by
  intro heq
  obtain ⟨hnew, -⟩ := List.nodup_cons.mp hdistinct
  exact hnew (List.mem_map.mpr ⟨q, hq, heq⟩)

/-- Writing through the pointer changes the entry of the address and no other. -/
theorem modifyFirst_eq_map {mac : MacAddress} {f : PeerInfo → PeerInfo} {ps : List PeerInfo}
    (hdistinct : (ps.map (·.mac)).Nodup) :
    PeerTable.modifyFirst mac f ps = ps.map fun p => if p.mac = mac then f p else p := by
  induction ps with
  | nil => rfl
  | cons p ps ih =>
      obtain ⟨-, hrest⟩ := List.nodup_cons.mp hdistinct
      by_cases hfirst : p.mac = mac
      · have hsame : ps.map (fun p => if p.mac = mac then f p else p) = ps.map id := by
          apply List.map_congr_left
          intro q hq
          have hother : ¬q.mac = mac := by
            rw [← hfirst]
            exact mac_ne_of_distinct hdistinct hq
          rw [if_neg hother]
          rfl
        rw [List.map_id] at hsame
        simp [PeerTable.modifyFirst, hfirst, hsame]
      · simp [PeerTable.modifyFirst, hfirst, ih hrest]

/-- A change that keeps addresses keeps the table's. -/
theorem macs_modify (t : PeerTable) (mac : MacAddress) {f : PeerInfo → PeerInfo}
    (hmac : ∀ p, (f p).mac = p.mac) : macs (t.modify mac f) = macs t := by
  show (PeerTable.modifyFirst mac f t.entries).map (·.mac) = t.entries.map (·.mac)
  induction t.entries with
  | nil => rfl
  | cons p ps ih =>
      by_cases hfirst : p.mac = mac
      · simp [PeerTable.modifyFirst, hfirst, hmac]
      · simp [PeerTable.modifyFirst, hfirst, ih]

/-- The last entry takes the place of the removed one.
SOURCE: Mesh.cpp:311-316 -/
theorem swapRemove_perm {ps : List PeerInfo} {i : ℕ} (h : i < ps.length) :
    (PeerTable.swapRemove ps i).Perm (ps.eraseIdx i) := by
  induction ps using List.reverseRecOn with
  | nil => simp at h
  | append_singleton ps last _ =>
      rw [List.length_append, List.length_singleton] at h
      have hlast : (ps ++ [last]).getLast? = some last := List.getLast?_concat
      simp only [PeerTable.swapRemove, hlast]
      by_cases hi : i < ps.length
      · rw [List.set_append_left _ _ hi, List.dropLast_concat, List.eraseIdx_append_of_lt_length hi]
        exact (List.set_perm_cons_eraseIdx hi last).trans (List.perm_append_singleton _ _).symm
      · have hend : i = ps.length := by omega
        subst hend
        rw [List.eraseIdx_append_of_length_le (Nat.le_refl _)]
        simp

/-- Removing the peer found is removing all with its address. -/
theorem eraseIdx_eq_filter {mac : MacAddress} {ps : List PeerInfo} {i : ℕ}
    (hdistinct : (ps.map (·.mac)).Nodup) (h : ps.findIdx? (fun p => p.mac = mac) = some i) :
    ps.eraseIdx i = ps.filter fun p => p.mac ≠ mac := by
  induction ps generalizing i with
  | nil => simp at h
  | cons p ps ih =>
      obtain ⟨-, hrest⟩ := List.nodup_cons.mp hdistinct
      by_cases hfirst : p.mac = mac
      · have hall : ps.filter (fun p => !decide (p.mac = mac)) = ps := by
          apply List.filter_eq_self.mpr
          intro q hq
          have hother := mac_ne_of_distinct hdistinct hq
          rw [hfirst] at hother
          simpa using hother
        simp only [List.findIdx?_cons, hfirst, decide_true, if_true, Option.some.injEq] at h
        subst h
        simp [hfirst, hall]
      · simp only [List.findIdx?_cons, hfirst, decide_false, Bool.false_eq_true, if_false,
          Option.map_eq_some_iff] at h
        obtain ⟨j, hj, rfl⟩ := h
        simp [hfirst, ih hrest hj]

/-- **A removal takes out the entry of the address and keeps the others.**
SOURCE: Mesh.cpp:310-316 -/
theorem remove_perm {t : PeerTable} (hdistinct : (macs t).Nodup) (mac : MacAddress) :
    (t.remove mac).entries.Perm (t.entries.filter fun p => p.mac ≠ mac) := by
  unfold PeerTable.remove
  split
  · next hnone =>
    have hall : t.entries.filter (fun p => p.mac ≠ mac) = t.entries := by
      apply List.filter_eq_self.mpr
      intro p hp
      simpa using List.findIdx?_eq_none_iff.mp hnone p hp
    rw [hall]
  · next i hi =>
    obtain ⟨hlt, -⟩ := List.findIdx?_eq_some_iff_getElem.mp hi
    rw [← eraseIdx_eq_filter hdistinct hi]
    exact swapRemove_perm hlt

/-- Removing a peer keeps the addresses distinct.
SOURCE: Mesh.cpp:310-322 -/
theorem nodup_remove {t : PeerTable} (hdistinct : (macs t).Nodup) (mac : MacAddress) :
    (macs (t.remove mac)).Nodup := by
  have hperm := (remove_perm hdistinct mac).map (·.mac)
  rw [macs, hperm.nodup_iff]
  exact hdistinct.sublist (List.filter_sublist.map _)

/-- Appending a new peer keeps the addresses distinct.
SOURCE: Mesh.cpp:184-189 -/
theorem nodup_append {t : PeerTable} (hdistinct : (macs t).Nodup) {peer : PeerInfo}
    (hnew : (t.findPeer peer.mac).isSome = false) (hroom : t.entries.length < Config.maxPeers) :
    (macs (t.appendPeer peer)).Nodup := by
  have habsent : peer.mac ∉ macs t := by
    rw [mem_macs, hnew]
    exact Bool.false_ne_true
  rw [macs, entries_appendPeer hroom, List.map_append, List.nodup_append]
  refine ⟨hdistinct, List.nodup_singleton _, fun a ha b hb heq => ?_⟩
  have hmac : a = peer.mac := heq.trans (List.mem_singleton.mp hb)
  rw [hmac] at ha
  exact habsent ha

end LatticeNodes.Analysis
