import TwoPcEngine.Cluster.Elect

/-! What `CheckAndElect` reports: whether it moved the master pointer, while some member at a
non-empty address is alive. The pointer it clears when none is, it does not report. -/

namespace TwoPc.Membership

namespace Cluster

variable {c : Cluster}

@[simp] theorem alive_setRole (p q : Ptr) (role : NodeRole) :
    ((c.setRole p role).get q).any (·.alive) = (c.get q).any (·.alive) := by
  rw [get_setRole]
  split <;> cases c.get q <;> rfl

@[simp] theorem aliveAddrs_setRole (p : Ptr) (role : NodeRole) :
    (c.setRole p role).aliveAddrs = c.aliveAddrs := by
  simp only [aliveAddrs, setRole_nodes, alive_setRole]

@[simp] theorem lowestAliveAddrLocked_setRole (p : Ptr) (role : NodeRole) :
    (c.setRole p role).lowestAliveAddrLocked = c.lowestAliveAddrLocked := by
  simp only [lowestAliveAddrLocked, aliveAddrs_setRole]

theorem lowestAliveAddrLocked_demote (m : Ptr) :
    ({ c.setRole m .slave with master := none } : Cluster).lowestAliveAddrLocked =
      c.lowestAliveAddrLocked :=
  lowestAliveAddrLocked_setRole m .slave

theorem lowestAliveAddrLocked_mem (h : c.lowestAliveAddrLocked ≠ "") :
    c.lowestAliveAddrLocked ∈ c.aliveAddrs := by
  revert h
  unfold lowestAliveAddrLocked
  split
  · exact fun h => absurd rfl h
  · next a as hs => exact fun _ => (sortStrings_perm _).subset (hs ▸ List.mem_cons_self a as)

theorem electMasterLocked_of_lookup (hlow : c.lowestAliveAddrLocked ≠ "") {p : Ptr}
    (hp : c.nodes.lookup c.lowestAliveAddrLocked = some p) :
    c.electMasterLocked.1 = true ∧ c.electMasterLocked.2.master = some p := by
  simp only [electMasterLocked, if_neg hlow, resetRoles_nodes, hp, and_self]

/-- The master pointer is alive at the least alive address: `CheckAndElect` keeps it. -/
def MasterCurrent (c : Cluster) : Prop :=
  ∃ m r, c.master = some m ∧ c.get m = some r ∧ r.alive = true ∧
    r.addr = c.lowestAliveAddrLocked

theorem masterCurrent_iff {m : Ptr} {r : Record} (hm : c.master = some m) (hr : c.get m = some r) :
    MasterCurrent c ↔ r.alive = true ∧ r.addr = c.lowestAliveAddrLocked := by
  simp [MasterCurrent, hm, hr]

theorem checkAndElect_cases (hlow : c.lowestAliveAddrLocked ≠ "") {p : Ptr}
    (hp : c.nodes.lookup c.lowestAliveAddrLocked = some p) :
    (MasterCurrent c ∧ c.checkAndElect = (false, c)) ∨
      (¬ MasterCurrent c ∧ c.checkAndElect.1 = true ∧ c.checkAndElect.2.master = some p) := by
  have he := electMasterLocked_of_lookup hlow hp
  rcases hm : c.master with _ | m
  · refine .inr ⟨by simp [MasterCurrent, hm], ?_⟩
    simpa [checkAndElect, hm, hlow] using he
  rcases hr : c.get m with _ | r
  · refine .inr ⟨by simp [MasterCurrent, hm, hr], ?_⟩
    simpa [checkAndElect, hm, hr, hlow, Ne.symm hlow] using he
  by_cases ha : r.alive
  · by_cases hl : r.addr = c.lowestAliveAddrLocked
    · exact .inl ⟨(masterCurrent_iff hm hr).mpr ⟨ha, hl⟩,
        by simp [checkAndElect, hm, hr, ha, hl, hlow]⟩
    · exact .inr ⟨by simp [masterCurrent_iff hm hr, hl],
        by simpa [checkAndElect, hm, hr, ha, hl, hlow] using he⟩
  · have he' := electMasterLocked_of_lookup (c := { c.setRole m .slave with master := none })
      (by rwa [lowestAliveAddrLocked_demote]) (by rwa [lowestAliveAddrLocked_demote])
    exact .inr ⟨by simp [masterCurrent_iff hm hr, ha],
      by simpa [checkAndElect, hm, hr, ha, hlow] using he'⟩

theorem checkAndElect_of_empty (hlow : c.lowestAliveAddrLocked = "") :
    c.checkAndElect.1 = false ∧ c.checkAndElect.2.master = none := by
  simp only [checkAndElect, hlow]
  repeat' split
  all_goals simp_all

namespace Keyed

/-- In a table that keeps each record under its own address, while a member at a non-empty
address is alive, `CheckAndElect` returns true exactly when it moves the master pointer. -/
theorem checkAndElect_reports (hk : Keyed c) (hlow : c.lowestAliveAddrLocked ≠ "") :
    c.checkAndElect.1 = true ↔ c.checkAndElect.2.master ≠ c.master := by
  obtain ⟨p, hp, halive⟩ := mem_aliveAddrs.mp (lowestAliveAddrLocked_mem hlow)
  rcases checkAndElect_cases hlow hp with ⟨-, he⟩ | ⟨hc, h1, h2⟩
  · simp [he]
  · refine iff_of_true h1 fun hpm => hc ?_
    obtain ⟨r, hr, hra⟩ := hk.get_of_lookup hp
    exact ⟨p, r, h2 ▸ hpm.symm, hr, by simpa [hr] using halive, hra⟩

end Keyed

end Cluster

open Cluster

theorem checkAndElect_unreported_eviction (c : Cluster) (hlow : c.lowestAliveAddrLocked = "")
    (hm : c.master ≠ none) :
    c.checkAndElect.1 = false ∧ c.checkAndElect.2.master ≠ c.master := by
  obtain ⟨h1, h2⟩ := checkAndElect_of_empty hlow
  exact ⟨h1, by rw [h2]; exact hm.symm⟩

def masterDies : List Op := [.addNode "a" "" "", .electMaster, .setAlive "a" false]

theorem checkAndElect_unreported_eviction_masterDies :
    MembershipInv (run newCluster masterDies) ∧
      (run newCluster masterDies).lowestAliveAddrLocked = "" ∧
      (run newCluster masterDies).master ≠ none ∧
      ((run newCluster masterDies).checkAndElect.1 = false ∧
        (run newCluster masterDies).checkAndElect.2.master ≠
          (run newCluster masterDies).master) :=
  ⟨(membershipInv_iff _).mpr (by decide), by decide, by decide,
    checkAndElect_unreported_eviction _ (by decide) (by decide)⟩

def masterFails : List Op := joinBA ++ [.electMaster, .setAlive "a" false]

end TwoPc.Membership
