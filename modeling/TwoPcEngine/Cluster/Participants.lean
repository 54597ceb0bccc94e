import TwoPcEngine.Cluster.Invariant

/-! The remote participants `Execute` takes from the table: distinct and apart from the local node
while it is the master under its own address, which a join or add-node request for that address
breaks. -/

namespace TwoPc.Membership

namespace Cluster

/-- `participantAddrs` of `Execute`: `p.Addr` for each node `GetSlaveNodes` returned. -/
def participantAddrs (c : Cluster) : List String := c.getSlaveNodes.filterMap c.addrOf

variable {c : Cluster}

abbrev slaveAlive (c : Cluster) (e : Σ _ : String, Ptr) : Bool :=
  (c.get e.2).any fun r => r.alive && r.role == .slave

theorem filterMap_addrOf_slaves {es : List (Σ _ : String, Ptr)}
    (h : ∀ e ∈ es, c.addrOf e.2 = some e.1) :
    (es.filterMap fun e => if c.slaveAlive e then some e.2 else none).filterMap c.addrOf =
      (es.filter c.slaveAlive).map (·.1) := by
  induction es with
  | nil => rfl
  | cons e es ih =>
    rw [List.forall_mem_cons] at h
    by_cases he : c.slaveAlive e <;> simp [List.filter_cons, he, h.1, ih h.2]

theorem Keyed.participantAddrs_eq (hk : Keyed c) :
    c.participantAddrs = (c.nodes.entries.filter c.slaveAlive).map (·.1) :=
  filterMap_addrOf_slaves fun e he => hk e.1 e.2 (AList.mem_lookup_iff.mpr he)

theorem Keyed.participantAddrs_nodup (hk : Keyed c) : c.participantAddrs.Nodup := by
  rw [hk.participantAddrs_eq]
  exact ((List.filter_sublist _).map _).nodup c.nodes.keys_nodup

theorem Keyed.mem_participantAddrs (hk : Keyed c) {a : String} :
    a ∈ c.participantAddrs ↔
      ∃ p, c.nodes.lookup a = some p ∧ (c.get p).any fun r => r.alive && r.role == .slave := by
  rw [hk.participantAddrs_eq]
  simp [Sigma.exists, ← AList.mem_lookup_iff]

end Cluster

open Cluster

theorem participants_distinct_of_master (os : List Op) {a : String} {l : Ptr}
    (hl : (run newCluster os).nodes.lookup a = some l)
    (hrole : ((run newCluster os).get l).map (·.role) = some .master) :
    (run newCluster os).participantAddrs.Nodup ∧ a ∉ (run newCluster os).participantAddrs := by
  have hk := Keyed.init.run os
  refine ⟨hk.participantAddrs_nodup, fun ha => ?_⟩
  obtain ⟨p, hp, hs⟩ := hk.mem_participantAddrs.mp ha
  obtain rfl : l = p := Option.some.inj (hl.symm.trans hp)
  cases h : (run newCluster os).get l <;> simp_all

theorem participants_distinct_of_master_joinBA :
    (run newCluster (joinBA ++ [.electMaster])).nodes.lookup "a" = some 1 ∧
      ((run newCluster (joinBA ++ [.electMaster])).get 1).map (·.role) = some .master ∧
      (run newCluster (joinBA ++ [.electMaster])).participantAddrs.Nodup ∧
      "a" ∉ (run newCluster (joinBA ++ [.electMaster])).participantAddrs :=
  ⟨by decide, by decide, @participants_distinct_of_master _ "a" 1 (by decide) (by decide)⟩

theorem MembershipInv.handleAddNode_master_addr {c : Cluster} (hm : MembershipInv c) (hk : Keyed c)
    {a : String} {p : Ptr} (name database : String) (hp : c.master = some p)
    (ha : c.nodes.lookup a = some p) :
    (c.handleAddNode a name database).master = some p ∧
      ((c.handleAddNode a name database).get p).map (·.role) = some .master ∧
      (c.handleAddNode a name database).nodes.lookup a ≠ some p ∧
      a ∈ (c.handleAddNode a name database).participantAddrs ∧
      ¬ MembershipInv (c.handleAddNode a name database) := by
  obtain ⟨r, hr, -, hrole⟩ := hm.masterHeld p hp
  have hne : p ≠ c.heap.length := (List.getElem?_eq_some_iff.mp hr).1.ne
  have hget : (c.handleAddNode a name database).get p = some r := by
    rw [get_handleAddNode, if_neg hne, hr]
  have hlookup : (c.handleAddNode a name database).nodes.lookup a = some c.heap.length := by
    rw [handleAddNode_nodes, AList.lookup_insert]; rfl
  have hra : r.addr = a := by simpa [addrOf, hr] using hk a p ha
  refine ⟨(handleAddNode_master ..).trans hp, by rw [hget]; exact congrArg some hrole,
    fun h => hne (Option.some.inj (hlookup.symm.trans h)).symm, ?_, fun hm' => ?_⟩
  · exact (hk.handleAddNode a name database).mem_participantAddrs.mpr
      ⟨_, hlookup, by rw [get_handleAddNode, if_pos rfl]; rfl⟩
  · obtain ⟨r', hr', hl', -⟩ := hm'.masterHeld p ((handleAddNode_master ..).trans hp)
    obtain rfl : r = r' := Option.some.inj (hget.symm.trans hr')
    rw [hra, hlookup] at hl'
    exact hne (Option.some.inj hl').symm

theorem addNode_master_addr_orphans (os : List Op) {a : String} {p : Ptr} (name database : String)
    (hm : MembershipInv (run newCluster os)) (hp : (run newCluster os).master = some p)
    (ha : (run newCluster os).nodes.lookup a = some p) :
    (run newCluster (os ++ [.addNode a name database])).master = some p ∧
      ((run newCluster (os ++ [.addNode a name database])).get p).map (·.role) = some .master ∧
      (run newCluster (os ++ [.addNode a name database])).nodes.lookup a ≠ some p ∧
      a ∈ (run newCluster (os ++ [.addNode a name database])).participantAddrs ∧
      ¬ MembershipInv (run newCluster (os ++ [.addNode a name database])) := by
  rw [run_append]
  exact hm.handleAddNode_master_addr (Keyed.init.run os) name database hp ha

theorem addNode_master_addr_orphans_joinBA :
    MembershipInv (run newCluster (joinBA ++ [.electMaster])) ∧
      (run newCluster (joinBA ++ [.electMaster])).master = some 1 ∧
      (run newCluster (joinBA ++ [.electMaster])).nodes.lookup "a" = some 1 ∧
      (run newCluster (joinBA ++ [.electMaster] ++ [.addNode "a" "" ""])).master = some 1 ∧
      ((run newCluster (joinBA ++ [.electMaster] ++ [.addNode "a" "" ""])).get 1).map (·.role) =
        some .master ∧
      (run newCluster (joinBA ++ [.electMaster] ++ [.addNode "a" "" ""])).nodes.lookup "a" ≠ some 1 ∧
      "a" ∈ (run newCluster (joinBA ++ [.electMaster] ++ [.addNode "a" "" ""])).participantAddrs ∧
      ¬ MembershipInv (run newCluster (joinBA ++ [.electMaster] ++ [.addNode "a" "" ""])) :=
  ⟨membershipInv_of_ok (by decide), by decide, by decide,
    addNode_master_addr_orphans _ "" "" (membershipInv_of_ok (by decide)) (by decide) (by decide)⟩

theorem lowestAliveAddrLocked_of_empty_alive {c : Cluster} (h : "" ∈ c.aliveAddrs) :
    c.lowestAliveAddrLocked = "" := by
  have hle := lowestAliveAddrLocked_le h
  rw [String.le_iff_toList_le] at hle
  generalize c.lowestAliveAddrLocked = s at hle ⊢
  obtain ⟨l⟩ := s
  cases l with
  | nil => rfl
  | cons a as => exact absurd hle (by simp [LE.le, List.le, List.lt])

/-- A join with the empty address, which the join handler, unlike the add-node, remove-node and
set-name handlers, does not reject: until a check marks it dead, the new member is alive under the
least address, so `CheckAndElect` finds no alive member, demotes the master and clears the pointer,
however many other members are alive. -/
theorem MembershipInv.join_empty_addr {c : Cluster} (hm : MembershipInv c) (hk : Keyed c)
    (h0 : c.nodes.lookup "" = none) :
    (c.handleAddNode "" "" "").checkAndElect.2.master = none ∧
      ∀ a p r, (c.handleAddNode "" "" "").checkAndElect.2.nodes.lookup a = some p →
        (c.handleAddNode "" "" "").checkAndElect.2.get p = some r → r.role = .slave := by
  have hm₁ : MembershipInv (c.handleAddNode "" "" "") :=
    hm.handleAddNode hk "" "" fun _ _ => by simp [h0]
  have hk₁ := hk.handleAddNode "" "" ""
  have hl : (c.handleAddNode "" "" "").lowestAliveAddrLocked = "" :=
    lowestAliveAddrLocked_of_empty_alive (mem_aliveAddrs.mpr ⟨c.heap.length,
      by rw [handleAddNode_nodes, AList.lookup_insert]; rfl, by rw [get_handleAddNode, if_pos rfl]; rfl⟩)
  refine ⟨(checkAndElect_of_empty hl).2, fun a p r hp hr => ?_⟩
  rw [rolesOnly_checkAndElect.nodes] at hp
  obtain ⟨r₁, hr₁, -⟩ := hk₁.get_of_lookup hp
  rw [get_checkAndElect_of_empty hl, hr₁] at hr
  have hrole := hm₁.role_eq hp hr₁
  split_ifs at hr hrole
  · obtain rfl := Option.some.inj hr
    rfl
  · obtain rfl := Option.some.inj hr
    exact hrole

theorem join_empty_addr_demotes_master (os : List Op) (hm : MembershipInv (run newCluster os))
    (h0 : (run newCluster os).nodes.lookup "" = none) :
    (run newCluster (os ++ [.addNode "" "" "", .checkAndElect])).master = none ∧
      ∀ a p r, (run newCluster (os ++ [.addNode "" "" "", .checkAndElect])).nodes.lookup a = some p →
        (run newCluster (os ++ [.addNode "" "" "", .checkAndElect])).get p = some r → r.role = .slave := by
  rw [run_append]
  exact hm.join_empty_addr (Keyed.init.run os) h0

theorem join_empty_addr_demotes_master_joinBA :
    MembershipInv (run newCluster (joinBA ++ [.electMaster])) ∧
      (run newCluster (joinBA ++ [.electMaster])).nodes.lookup "" = none ∧
      (run newCluster (joinBA ++ [.electMaster] ++ [.addNode "" "" "", .checkAndElect])).master = none ∧
      ∀ a p r, (run newCluster (joinBA ++ [.electMaster] ++ [.addNode "" "" "", .checkAndElect])).nodes.lookup
          a = some p →
        (run newCluster (joinBA ++ [.electMaster] ++ [.addNode "" "" "", .checkAndElect])).get p = some r →
          r.role = .slave :=
  ⟨membershipInv_of_ok (by decide), by decide,
    join_empty_addr_demotes_master _ (membershipInv_of_ok (by decide)) (by decide)⟩

end TwoPc.Membership
