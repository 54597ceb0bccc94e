import TwoPcEngine.Cluster.Basic

/-! The membership invariant and the election's postcondition: the runs that break them, and
what the code does keep. -/

namespace TwoPc.Membership

namespace Cluster

@[simp] theorem update_nodes (c : Cluster) (p : Ptr) (f : Record → Record) :
    (c.update p f).nodes = c.nodes := rfl

@[simp] theorem update_master (c : Cluster) (p : Ptr) (f : Record → Record) :
    (c.update p f).master = c.master := rfl

theorem get_update (c : Cluster) (p q : Ptr) (f : Record → Record) :
    (c.update p f).get q = if p = q then (c.get q).map f else c.get q := by
  simp only [get, update, List.getElem?_modify]
  split <;> cases c.heap[q]? <;> rfl

end Cluster

/-- The membership invariant: a member whose record reads `MASTER` is the master pointer, and
a master pointer is the record stored under its own address, reading `MASTER`. -/
structure MembershipInv (c : Cluster) : Prop where
  onlyMaster : ∀ k p r, c.nodes.lookup k = some p → c.get p = some r → r.role = .master →
    c.master = some p
  masterHeld : ∀ p, c.master = some p →
    ∃ r, c.get p = some r ∧ c.nodes.lookup r.addr = some p ∧ r.role = .master

def membershipOk (c : Cluster) : Bool :=
  c.nodes.entries.all (fun e => (c.get e.2).all fun r => r.role != .master || c.master == some e.2) &&
    match c.master with
    | none => true
    | some p => (c.get p).any fun r => c.nodes.lookup r.addr == some p && r.role == .master

theorem membershipInv_of_ok {c : Cluster} (h : membershipOk c = true) : MembershipInv c := by
  simp only [membershipOk, Bool.and_eq_true, List.all_eq_true] at h
  obtain ⟨h₁, h₂⟩ := h
  refine ⟨fun k p r hk hp hr => ?_, fun p hm => ?_⟩
  · have := h₁ ⟨k, p⟩ (AList.mem_lookup_iff.mp hk)
    simp only [hp, Option.all_some, hr, bne_self_eq_false, Bool.false_or, beq_iff_eq] at this
    exact this
  · rw [hm] at h₂
    cases hp : c.get p with
    | none => simp [hp] at h₂
    | some r =>
      simp only [hp, Option.any_some, Bool.and_eq_true, beq_iff_eq] at h₂
      exact ⟨r, rfl, h₂⟩

theorem membershipOk_of_inv {c : Cluster} (h : MembershipInv c) : membershipOk c = true := by
  simp only [membershipOk, Bool.and_eq_true, List.all_eq_true]
  refine ⟨fun e he => ?_, ?_⟩
  · cases hp : c.get e.2 with
    | none => rfl
    | some r =>
      cases hr : r.role
      · simp [hp, hr, h.onlyMaster e.1 e.2 r (AList.mem_lookup_iff.mpr he) hp hr]
      · simp [hp, hr]
  · cases hm : c.master with
    | none => rfl
    | some p =>
      obtain ⟨r, hp, hl, hr⟩ := h.masterHeld p hm
      simp [hp, hl, hr]

theorem membershipInv_iff (c : Cluster) : MembershipInv c ↔ membershipOk c = true :=
  ⟨membershipOk_of_inv, membershipInv_of_ok⟩

/-- Three runs from an empty table that break the invariant. `ElectMaster` after every member
died clears the pointer but leaves the old master's record `MASTER`. `AddNode` over the
master's address replaces its record in the map while the pointer still holds the old one.
`ApplyState` re-adding the address of a removed master that is the local node creates a new
record reading `MASTER`, with no master pointer. -/
theorem membership_broken :
    ¬ MembershipInv (run newCluster
        [.addNode "a" "" "", .electMaster, .setAlive "a" false, .electMaster]) ∧
      ¬ MembershipInv (run newCluster [.addNode "a" "" "", .electMaster, .addNode "a" "" ""]) ∧
      ¬ MembershipInv (run newCluster
        [.addNode "a" "" "", .electMaster, .removeNode "a", .applyState [⟨"a", "", ""⟩] (some 0)]) := by
  simp only [membershipInv_iff]
  decide

theorem election_postcondition_broken :
    MembershipInv (run newCluster [.addNode "" "" ""]) ∧
      (run newCluster [.addNode "" "" ""]).aliveAddrs = [""] ∧
      (run newCluster [.addNode "" "" ""]).electMaster.master = none ∧
      (run newCluster [.addNode "" "" ""]).checkAndElect.2.master = none ∧
      MembershipInv (run newCluster [.addNode "a" "" "", .electMaster, .setAlive "a" false]) ∧
      (run newCluster [.addNode "a" "" "", .electMaster, .setAlive "a" false]).aliveAddrs = [] ∧
      (run newCluster [.addNode "a" "" "", .electMaster, .setAlive "a" false]).electMaster.master = none ∧
      (run newCluster [.addNode "a" "" "", .electMaster, .setAlive "a" false]).electMaster.nodes.lookup "a" =
        some 0 ∧
      ((run newCluster [.addNode "a" "" "", .electMaster, .setAlive "a" false]).electMaster.get 0).map
        (·.role) = some .master := by
  simp only [membershipInv_iff]
  decide

end TwoPc.Membership
