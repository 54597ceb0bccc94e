import TwoPcEngine.Cluster.Persist

/-! The operations that keep the membership invariant: all but an `AddNode` over the master's
address, an `ElectMaster` that finds nobody alive while a master is set, and an `ApplyState` whose
local node is not a member. -/

namespace TwoPc.Membership

namespace Cluster

variable {c c' : Cluster} {a : String} {role : NodeRole}

namespace Relabel

theorem update_if (h : Relabel c c') (s : String) (p : Ptr) {f : Record → Record}
    (hf : ∀ r, (f r).addr = r.addr ∧ (f r).role = r.role) :
    Relabel c (if s ≠ "" then c'.update p f else c') := by
  split
  exacts [h.update p hf, h]

theorem get_newNode (h : Relabel (c.newNode a role).2 c') :
    ∃ r, c'.get (c.newNode a role).1 = some r ∧ r.addr = a ∧ r.role = role := by
  obtain ⟨r, hr, he⟩ := Option.map_eq_some'.mp ((h.get _).trans (by rw [get_newNode_self]; rfl))
  exact ⟨r, hr, (Prod.mk.inj he).1, (Prod.mk.inj he).2⟩

end Relabel

theorem relabel_handleAddNode (c : Cluster) (a name database : String) :
    ∃ c', Relabel (c.newNode a .slave).2 c' ∧
      c.handleAddNode a name database = c'.addNode (c.newNode a .slave).1 :=
  ⟨_, ((relabel_update _ _ fun _ => by exact ⟨rfl, rfl⟩).update_if _ _
    fun _ => by exact ⟨rfl, rfl⟩).update_if _ _ fun _ => by exact ⟨rfl, rfl⟩, rfl⟩

theorem addNode_of_get {n : Ptr} {r : Record} (h : c.get n = some r) :
    c.addNode n = { c with nodes := c.nodes.insert r.addr n } := by
  simp [addNode, h]

theorem handleAddNode_nodes (c : Cluster) (a name database : String) :
    (c.handleAddNode a name database).nodes = c.nodes.insert a (c.newNode a .slave).1 := by
  obtain ⟨c', h, he⟩ := relabel_handleAddNode c a name database
  obtain ⟨r, hr, hra, -⟩ := h.get_newNode
  rw [he, addNode_of_get hr, hra, h.nodes]
  rfl

@[simp] theorem handleAddNode_master (c : Cluster) (a name database : String) :
    (c.handleAddNode a name database).master = c.master := by
  obtain ⟨c', h, he⟩ := relabel_handleAddNode c a name database
  obtain ⟨r, hr, -⟩ := h.get_newNode
  rw [he, addNode_of_get hr]
  exact h.master

theorem get_newNode (c : Cluster) (a : String) (role : NodeRole) (q : Ptr) :
    (c.newNode a role).2.get q = if q = c.heap.length then some ⟨a, role, true, "", ""⟩ else c.get q := by
  simp only [newNode, get]
  split_ifs with h
  · exact h ▸ List.getElem?_concat_length ..
  · rcases Nat.lt_or_gt_of_ne h with h | h
    · exact List.getElem?_append_left h
    · simp [List.getElem?_eq_none, Nat.succ_le_of_lt h, Nat.le_of_lt h]

theorem get_handleAddNode (c : Cluster) (a name database : String) (q : Ptr) :
    (c.handleAddNode a name database).get q =
      if q = c.heap.length then some ⟨a, .slave, true, name, database⟩ else c.get q := by
  have h := get_newNode c a .slave
  simp only [newNode] at h
  simp only [handleAddNode, newNode, get_addNode]
  by_cases hn : name = "" <;> by_cases hd : database = "" <;> by_cases hq : q = c.heap.length <;>
    simp [hn, hd, hq, get_update, h, eq_comm]

end Cluster

open Cluster

variable {c c' : Cluster}

theorem MembershipInv.init : MembershipInv newCluster :=
  ⟨fun _ _ _ h => by simp [newCluster] at h, fun _ h => by simp [newCluster] at h⟩

theorem Cluster.Keyed.membershipInv_electMaster (hk : Keyed c) (hl : c.lowestAliveAddrLocked ≠ "") :
    MembershipInv c.electMaster := by
  obtain ⟨p, hp, -⟩ := mem_aliveAddrs.mp (lowestAliveAddrLocked_mem hl)
  refine .of_roles hk.electMasterLocked (fun a q hq => ?_) fun p' hp' => ?_
  · rw [Cluster.electMaster, electMasterLocked_nodes] at hq
    obtain ⟨r, hr, -⟩ := hk.get_of_lookup hq
    have hap : a = c.lowestAliveAddrLocked ↔ p = q :=
      ⟨fun h => Option.some.inj (hp.symm.trans (h ▸ hq)), fun h => hk.ptr_inj hq (h ▸ hp)⟩
    rw [hk.get_electMaster rfl hl hp hq, electMaster_eq hl hp, hr]
    simp [hap]
  · rw [electMaster_eq hl hp] at hp'
    exact ⟨_, by rw [Cluster.electMaster, electMasterLocked_nodes]; exact Option.some.inj hp' ▸ hp⟩

namespace MembershipInv

theorem roles (hm : MembershipInv c) (hk : Keyed c) {a : String} {p : Ptr}
    (hp : c.nodes.lookup a = some p) :
    (c.get p).map (·.role) = some (if c.master = some p then .master else .slave) := by
  obtain ⟨r, hr, -⟩ := hk.get_of_lookup hp
  rw [hr, Option.map_some', hm.role_eq hp hr]

theorem newNode (hm : MembershipInv c) (hk : Keyed c) (a : String) (role : NodeRole) :
    MembershipInv (c.newNode a role).2 where
  onlyMaster k p r hp hr hrole := by
    obtain ⟨r₀, hr₀, -⟩ := hk.get_of_lookup hp
    rw [get_newNode_of_get hr₀] at hr
    exact hm.onlyMaster k p r₀ hp hr₀ (Option.some.inj hr ▸ hrole)
  masterHeld p hp := by
    obtain ⟨r, hr, hl, hrole⟩ := hm.masterHeld p hp
    exact ⟨r, get_newNode_of_get hr a role, hl, hrole⟩

theorem addNode (hm : MembershipInv c) {n : Ptr} {r : Record} (hn : c.get n = some r)
    (hslave : r.role = .slave) (hmaster : ∀ p, c.master = some p → c.nodes.lookup r.addr ≠ some p) :
    MembershipInv (c.addNode n) := by
  rw [addNode_of_get hn]
  constructor
  · intro k p r' hp hr' hrole
    by_cases hka : k = r.addr
    · subst hka
      obtain rfl : n = p := by simpa using hp
      obtain rfl : r = r' := Option.some.inj (hn.symm.trans hr')
      simp [hslave] at hrole
    · exact hm.onlyMaster k p r' (by simpa [AList.lookup_insert_ne hka] using hp) hr' hrole
  · intro p hp
    obtain ⟨r', hr', hl, hrole⟩ := hm.masterHeld p hp
    have hne : r'.addr ≠ r.addr := fun h => hmaster p hp (h ▸ hl)
    exact ⟨r', hr', by simpa [AList.lookup_insert_ne hne] using hl, hrole⟩

theorem addNode_fresh (hm : MembershipInv c) (hk : Keyed c) {a : String}
    (h : Relabel (c.newNode a .slave).2 c')
    (hmaster : ∀ p, c.master = some p → c.nodes.lookup a ≠ some p) :
    MembershipInv (c'.addNode (c.newNode a .slave).1) := by
  obtain ⟨r, hr, rfl, hslave⟩ := h.get_newNode
  exact ((hm.newNode hk _ _).relabel h).addNode hr hslave fun p hp => by
    rw [h.nodes]
    exact hmaster p (h.master ▸ hp)

theorem handleAddNode (hm : MembershipInv c) (hk : Keyed c) {addr : String} (name database : String)
    (hmaster : ∀ p, c.master = some p → c.nodes.lookup addr ≠ some p) :
    MembershipInv (c.handleAddNode addr name database) := by
  obtain ⟨c', h, he⟩ := relabel_handleAddNode c addr name database
  rw [he]
  exact hm.addNode_fresh hk h hmaster

theorem removeNode (hm : MembershipInv c) (hk : Keyed c) (a : String) :
    MembershipInv (c.removeNode a) := by
  unfold Cluster.removeNode
  cases hn : c.nodes.lookup a with
  | none => exact hm
  | some n =>
    dsimp only
    constructor
    · intro k p r hp hr hrole
      have hka : k ≠ a := by rintro rfl; simp at hp
      rw [AList.lookup_erase_ne hka] at hp
      have hmp := hm.onlyMaster k p r hp hr hrole
      have hpn : p ≠ n := fun h => hka (hk.ptr_inj hp (h ▸ hn))
      simp [hmp, hpn]
    · intro p hp
      split_ifs at hp with hmn
      obtain ⟨r, hr, hl, hrole⟩ := hm.masterHeld p hp
      have hra : r.addr ≠ a := fun h => hmn (Option.some.inj ((h ▸ hl).symm.trans hn) ▸ hp)
      exact ⟨r, hr, by rw [AList.lookup_erase_ne hra]; exact hl, hrole⟩

theorem demote (hm : MembershipInv c) (hk : Keyed c) {m : Ptr} (hmm : c.master = some m) :
    MembershipInv { c.setRole m .slave with master := none } :=
  .of_roles (hk.demote m) (fun a q hq => by
    have := hm.roles hk hq
    obtain ⟨r, hr, -⟩ := hk.get_of_lookup hq
    show ((c.setRole m .slave).get q).map (·.role) =
      some (if (none : Option Ptr) = some q then .master else .slave)
    rw [hr, hmm] at this
    rw [get_setRole, hr]
    by_cases h : m = q <;> simp_all)
    fun _ h => nomatch h

theorem promote (hm : MembershipInv c) (hk : Keyed c) (hnone : c.master = none) {a : String}
    {n : Ptr} (hn : c.nodes.lookup a = some n) :
    MembershipInv (({ c with master := some n } : Cluster).setRole n .master) :=
  .of_roles ((hk.of_eq rfl rfl).setRole _ _) (fun b q hq => by
    have := hm.roles hk hq
    obtain ⟨r, hr, -⟩ := hk.get_of_lookup hq
    show ((({ c with master := some n } : Cluster).setRole n .master).get q).map (·.role) =
      some (if some n = some q then .master else .slave)
    rw [hr, hnone] at this
    rw [get_setRole, get_heap, hr]
    by_cases h : n = q <;> simp_all)
    fun p hp => ⟨a, by simpa using (Option.some.inj hp) ▸ hn⟩

theorem clear (hm : MembershipInv c) (hnone : c.master = none) :
    MembershipInv { c with master := none } :=
  hm.relabel ⟨rfl, hnone.symm, fun _ => rfl⟩

theorem evictMaster (hm : MembershipInv c) (hk : Keyed c) : MembershipInv c.evictMaster := by
  unfold Cluster.evictMaster
  split
  exacts [hm.demote hk ‹_›, hm]

theorem setMaster (hm : MembershipInv c) (hk : Keyed c) (addr : String) :
    MembershipInv (c.setMaster (c.getNode addr)) := by
  unfold Cluster.setMaster getNode
  cases hmc : c.master with
  | none =>
    cases hn : c.nodes.lookup addr with
    | none => exact hm.clear hmc
    | some n => exact hm.promote hk hmc hn
  | some m =>
    have hd := hm.demote hk hmc
    cases hn : c.nodes.lookup addr with
    | none => exact hd
    | some n => exact hd.promote (hk.demote m) rfl hn

/-- `ElectMaster` keeps the invariant unless it finds no alive address while a master is set. -/
theorem electMaster (hm : MembershipInv c) (hk : Keyed c)
    (hs : c.lowestAliveAddrLocked ≠ "" ∨ c.master = none) : MembershipInv c.electMaster := by
  by_cases hl : c.lowestAliveAddrLocked = ""
  · simp only [Cluster.electMaster, electMasterLocked, if_pos hl]
    exact hm.clear (hs.resolve_left (not_not.mpr hl))
  · exact hk.membershipInv_electMaster hl

theorem checkAndElect (hm : MembershipInv c) (hk : Keyed c) : MembershipInv c.checkAndElect.2 :=
  hk.checkAndElect.membershipInv_of_settled <|
    @Keyed.settled_checkAndElect c hk hm (fun a => (c.view a).any (·.alive)) fun a p hp => by
      obtain ⟨r, hr, -⟩ := hk.get_of_lookup hp
      simp [view, getNode, hp, hr]

theorem applyStored (hm : MembershipInv c) (hk : Keyed c) {l : Option Ptr}
    (hl : ∀ p, l = some p → ∃ a, c.nodes.lookup a = some p) (sn : StoredNode) :
    MembershipInv (c.applyStored l sn) := by
  by_cases ha : sn.address = ""
  · simpa only [Cluster.applyStored, if_pos ha] using hm
  rw [applyStored_eq hk hl ha]
  have hf : ∀ r : Record, (r.restore sn).addr = r.addr ∧ (r.restore sn).role = r.role :=
    fun _ => ⟨rfl, rfl⟩
  cases h : c.nodes.lookup sn.address with
  | some n => exact hm.relabel (relabel_update _ _ hf)
  | none =>
    exact (hm.addNode_fresh hk (Relabel.refl _) fun p _ => by simp [h]).relabel
      (relabel_update _ _ hf)

theorem applyState (hm : MembershipInv c) (hk : Keyed c) {l : Option Ptr}
    (hl : ∀ p, l = some p → ∃ a, c.nodes.lookup a = some p) (nodes : List StoredNode) :
    MembershipInv (c.applyState nodes l) := by
  induction nodes generalizing c with
  | nil => exact hm
  | cons sn nodes ih =>
    exact ih (hm.applyStored hk hl sn) (hk.applyStored l sn)
      fun p hp => let ⟨a, ha⟩ := hl p hp; ⟨a, (applyStored_grows c l sn).nodes a p ha⟩

end MembershipInv

/-- The operations that keep the invariant where they are applied: all but an `AddNode` over the
master's own address, an `ElectMaster` that finds no alive address while a master is set, and an
`ApplyState` whose local node is not a member. -/
def Safe (c : Cluster) : Op → Prop
  | .addNode addr _ _ => c.master = none ∨ c.nodes.lookup addr ≠ c.master
  | .electMaster => c.lowestAliveAddrLocked ≠ "" ∨ c.master = none
  | .applyState _ localNode => ∀ p ∈ localNode, p ∈ c.nodes.entries.map (·.2)
  | _ => True

instance (c : Cluster) : DecidablePred (Safe c)
  | .addNode addr _ _ =>
    inferInstanceAs (Decidable (c.master = none ∨ c.nodes.lookup addr ≠ c.master))
  | .electMaster => inferInstanceAs (Decidable (c.lowestAliveAddrLocked ≠ "" ∨ c.master = none))
  | .applyState _ l =>
    inferInstanceAs (Decidable (∀ p ∈ l, p ∈ c.nodes.entries.map fun e : Σ _ : String, Ptr => e.2))
  | .removeNode _ | .setNodeName _ _ | .setAlive _ _ | .setMaster _ | .evictMaster
  | .checkAndElect => isTrue trivial

def SafeRun : Cluster → List Op → Prop
  | _, [] => True
  | c, o :: os => Safe c o ∧ SafeRun (step c o) os

instance decidableSafeRun : ∀ (c : Cluster) (os : List Op), Decidable (SafeRun c os)
  | _, [] => isTrue trivial
  | c, o :: os =>
    haveI := decidableSafeRun (step c o) os
    inferInstanceAs (Decidable (Safe c o ∧ SafeRun (step c o) os))

theorem MembershipInv.step (hm : MembershipInv c) (hk : Keyed c) :
    ∀ {o : Op}, Safe c o → MembershipInv (step c o)
  | .addNode _ name database, hs => hm.handleAddNode hk name database fun p hp => by
    simpa [Safe, hp] using hs
  | .removeNode a, _ => hm.removeNode hk a
  | .setNodeName addr _, _ => by
    dsimp only [Membership.step, setNodeName]
    split
    exacts [hm.relabel (relabel_update _ _ fun _ => ⟨rfl, rfl⟩), hm]
  | .setAlive addr _, _ => by
    dsimp only [Membership.step]
    split
    exacts [hm.relabel (relabel_update _ _ fun _ => ⟨rfl, rfl⟩), hm]
  | .setMaster addr, _ => hm.setMaster hk addr
  | .evictMaster, _ => hm.evictMaster hk
  | .electMaster, hs => hm.electMaster hk hs
  | .checkAndElect, _ => hm.checkAndElect hk
  | .applyState nodes _, hs => hm.applyState hk (fun p hp => by
      obtain ⟨e, he, rfl⟩ := List.mem_map.mp (hs p hp)
      exact ⟨e.1, AList.mem_lookup_iff.mpr he⟩) nodes

theorem MembershipInv.run (hm : MembershipInv c) (hk : Keyed c) {os : List Op}
    (hs : SafeRun c os) : MembershipInv (run c os) := by
  induction os generalizing c with
  | nil => exact hm
  | cons o os ih => exact ih (hm.step hk hs.1) (hk.step o) hs.2

/-- The membership invariant holds after every run from the empty table in which each operation
is safe where it is applied. -/
theorem membershipInv_of_safeRun (os : List Op) (hs : SafeRun newCluster os) :
    MembershipInv (run newCluster os) :=
  MembershipInv.init.run Keyed.init hs

def membershipTour : List Op :=
  joinBA ++ [.electMaster, .setNodeName "b" "beta", .setAlive "a" false, .checkAndElect,
    .removeNode "a", .setMaster "b", .evictMaster, .applyState [⟨"a", "alpha", ""⟩, ⟨"c", "", ""⟩]
    (some 0), .checkAndElect]

theorem membershipInv_of_safeRun_tour :
    SafeRun newCluster membershipTour ∧ MembershipInv (run newCluster membershipTour) :=
  ⟨by decide, membershipInv_of_safeRun membershipTour (by decide)⟩

end TwoPc.Membership
