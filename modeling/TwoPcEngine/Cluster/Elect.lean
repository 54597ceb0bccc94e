import TwoPcEngine.Cluster.Election

/-! What `ElectMaster` establishes from any reachable table: the alive member at the least non-empty
address is the master, every other member reads `SLAVE`, and `GetSlaveNodes` returns the others. -/

namespace TwoPc.Membership

namespace Cluster

def addrOf (c : Cluster) (p : Ptr) : Option String := (c.get p).map (·.addr)

@[simp] theorem setRole_nodes (c : Cluster) (p : Ptr) (role : NodeRole) :
    (c.setRole p role).nodes = c.nodes := rfl

@[simp] theorem setRole_master (c : Cluster) (p : Ptr) (role : NodeRole) :
    (c.setRole p role).master = c.master := rfl

theorem addrOf_update (c : Cluster) (p : Ptr) {f : Record → Record} (hf : ∀ r, (f r).addr = r.addr) :
    (c.update p f).addrOf = c.addrOf := by
  funext q
  simp only [addrOf, get_update]
  split <;> simp [Option.map_map, Function.comp_def, hf]

@[simp] theorem addrOf_setRole (c : Cluster) (p : Ptr) (role : NodeRole) :
    (c.setRole p role).addrOf = c.addrOf :=
  addrOf_update c p fun _ => rfl

theorem get_setRole (c : Cluster) (p q : Ptr) (role : NodeRole) :
    (c.setRole p role).get q = if p = q then (c.get q).map ({ · with role := role }) else c.get q :=
  get_update c p q _

theorem resetRoles_eq (c : Cluster) (es : List (Σ _ : String, Ptr)) :
    c.resetRoles es = ⟨(c.resetRoles es).heap, c.nodes, c.master⟩ := by
  induction es generalizing c with
  | nil => rfl
  | cons e es ih => exact ih _

theorem get_resetRoles (c : Cluster) (es : List (Σ _ : String, Ptr)) (q : Ptr) :
    (c.resetRoles es).get q =
      if q ∈ es.map (·.2) then (c.get q).map ({ · with role := .slave }) else c.get q := by
  induction es generalizing c with
  | nil => simp [resetRoles]
  | cons e es ih =>
    simp only [resetRoles, ih, get_setRole, List.map_cons, List.mem_cons]
    by_cases h : q = e.2
    · subst h
      simp [Option.map_map, Function.comp_def]
    · simp only [h, false_or, Ne.symm h, if_false]

@[simp] theorem resetRoles_nodes (c : Cluster) (es : List (Σ _ : String, Ptr)) :
    (c.resetRoles es).nodes = c.nodes := by
  rw [resetRoles_eq]

@[simp] theorem get_heap (c : Cluster) (nodes : AList fun _ : String => Ptr) (m : Option Ptr)
    (q : Ptr) : (⟨c.heap, nodes, m⟩ : Cluster).get q = c.get q := rfl

@[simp] theorem addrOf_resetRoles (c : Cluster) (es : List (Σ _ : String, Ptr)) :
    (c.resetRoles es).addrOf = c.addrOf := by
  funext q
  simp only [addrOf, get_resetRoles]
  split <;> simp [Option.map_map, Function.comp_def]

theorem get_newNode_of_get {c : Cluster} {p : Ptr} {r : Record} (h : c.get p = some r) (a : String)
    (role : NodeRole) : (c.newNode a role).2.get p = some r := by
  simpa [newNode, get, List.getElem?_append_left (List.getElem?_eq_some_iff.mp h).1] using h

/-- Every member's record is stored under its own address. -/
def Keyed (c : Cluster) : Prop := ∀ k p, c.nodes.lookup k = some p → c.addrOf p = some k

namespace Keyed

variable {c : Cluster}

theorem of_eq (h : Keyed c) {c' : Cluster} (hn : c'.nodes = c.nodes) (ha : c'.addrOf = c.addrOf) :
    Keyed c' :=
  fun k p hk => ha ▸ h k p (hn ▸ hk)

theorem ptr_inj (h : Keyed c) {k k' : String} {p : Ptr} (hk : c.nodes.lookup k = some p)
    (hk' : c.nodes.lookup k' = some p) : k = k' :=
  Option.some.inj ((h k p hk).symm.trans (h k' p hk'))

theorem update (h : Keyed c) (p : Ptr) {f : Record → Record} (hf : ∀ r, (f r).addr = r.addr) :
    Keyed (c.update p f) :=
  h.of_eq rfl (addrOf_update c p hf)

theorem newNode (h : Keyed c) (a : String) (role : NodeRole) : Keyed (c.newNode a role).2 :=
  fun k p hk => by
    obtain ⟨r, hr, hra⟩ := Option.map_eq_some'.mp (h k p hk)
    simp [addrOf, get_newNode_of_get hr, hra]

theorem addNode (h : Keyed c) (n : Ptr) : Keyed (c.addNode n) := by
  unfold Cluster.addNode
  cases hn : c.get n with
  | none => exact h
  | some r =>
    intro k p hk
    by_cases hkr : k = r.addr
    · subst hkr
      simp only [AList.lookup_insert, Option.some.injEq] at hk
      subst hk
      exact congrArg (Option.map (·.addr)) hn
    · exact h k p (by simpa [AList.lookup_insert_ne hkr] using hk)

theorem removeNode (h : Keyed c) (a : String) : Keyed (c.removeNode a) := by
  unfold Cluster.removeNode
  cases c.nodes.lookup a with
  | none => exact h
  | some n =>
    intro k p hk
    by_cases hka : k = a
    · subst hka
      simp [AList.lookup_erase] at hk
    · exact h k p (by simpa [AList.lookup_erase_ne hka] using hk)

theorem update_if (h : Keyed c) (s : String) (p : Ptr) {f : Record → Record}
    (hf : ∀ r, (f r).addr = r.addr) : Keyed (if s ≠ "" then c.update p f else c) := by
  split
  exacts [h.update p hf, h]

theorem setRole (h : Keyed c) (p : Ptr) (role : NodeRole) : Keyed (c.setRole p role) :=
  h.update p fun _ => rfl

theorem demote (h : Keyed c) (m : Ptr) : Keyed { c.setRole m .slave with master := none } :=
  h.update m fun _ => rfl

theorem resetRoles (h : Keyed c) (es : List (Σ _ : String, Ptr)) : Keyed (c.resetRoles es) := by
  induction es generalizing c with
  | nil => exact h
  | cons e es ih => exact ih (h.setRole e.2 _)

theorem handleAddNode (h : Keyed c) (addr name database : String) :
    Keyed (c.handleAddNode addr name database) := by
  unfold Cluster.handleAddNode
  dsimp only
  exact ((((h.newNode _ _).update _ fun _ => by rfl).update_if _ _ fun _ => by rfl).update_if _ _
    fun _ => by rfl).addNode _

/-- One node of `ApplyState`: the local node's labels, then the node's own record, found or
created under its address. -/
theorem applyStored (h : Keyed c) (l : Option Ptr) (sn : StoredNode) :
    Keyed (c.applyStored l sn) := by
  unfold Cluster.applyStored
  by_cases ha : sn.address = ""
  · rw [if_pos ha]
    exact h
  rw [if_neg ha]
  dsimp only
  refine ((update_if (update_if ?_ _ _ fun _ => by rfl) _ _ fun _ => by rfl).update _
    fun _ => by rfl)
  split
  on_goal 2 => refine (Keyed.newNode ?_ _ _).addNode _
  all_goals
    cases l with
    | none => exact h
    | some l =>
      dsimp only
      split
      exacts [(h.update_if _ _ fun _ => by rfl).update_if _ _ fun _ => by rfl, h]

theorem applyState (h : Keyed c) (nodes : List StoredNode) (l : Option Ptr) :
    Keyed (c.applyState nodes l) := by
  induction nodes generalizing c with
  | nil => exact h
  | cons sn nodes ih => exact ih (h.applyStored l sn)

theorem setMaster (h : Keyed c) (n : Option Ptr) : Keyed (c.setMaster n) := by
  unfold Cluster.setMaster
  split <;> split
  all_goals first | exact h | exact h.setRole _ _ | exact (h.setRole _ _).setRole _ _

theorem evictMaster (h : Keyed c) : Keyed c.evictMaster := by
  unfold Cluster.evictMaster
  split
  exacts [h.demote _, h]

theorem electMasterLocked (h : Keyed c) : Keyed c.electMasterLocked.2 := by
  unfold Cluster.electMasterLocked
  dsimp only
  split_ifs
  · exact h
  · split
    exacts [(h.resetRoles _).setRole _ _, h.resetRoles _]

theorem checkAndElect (h : Keyed c) : Keyed c.checkAndElect.2 := by
  unfold Cluster.checkAndElect
  dsimp only
  repeat' split
  all_goals dsimp only
  all_goals with_reducible first
    | exact h | exact h.demote _ | exact (h.demote _).demote _
    | exact h.electMasterLocked | exact (h.demote _).electMasterLocked

end Keyed

end Cluster

open Cluster

theorem Cluster.Keyed.init : Keyed newCluster := fun k p hk => by
  simp [newCluster] at hk

theorem Cluster.Keyed.step {c : Cluster} (h : Keyed c) : ∀ o, Keyed (step c o)
  | .addNode addr name database => h.handleAddNode addr name database
  | .removeNode addr => h.removeNode addr
  | .setNodeName addr name => by
    dsimp only [Membership.step, setNodeName]
    split
    exacts [h.update _ fun _ => rfl, h]
  | .setAlive addr alive => by
    dsimp only [Membership.step]
    split
    exacts [h.update _ fun _ => rfl, h]
  | .setMaster _ => h.setMaster _
  | .evictMaster => h.evictMaster
  | .electMaster => h.electMasterLocked
  | .checkAndElect => h.checkAndElect
  | .applyState nodes l => h.applyState nodes l

theorem Cluster.Keyed.run {c : Cluster} (h : Keyed c) (os : List Op) : Keyed (run c os) := by
  induction os generalizing c with
  | nil => exact h
  | cons o os ih => exact ih (h.step o)

/-! ### The election -/

namespace Cluster

variable {c : Cluster}

theorem mem_aliveAddrs {a : String} :
    a ∈ c.aliveAddrs ↔ ∃ p, c.nodes.lookup a = some p ∧ (c.get p).any (·.alive) := by
  simp only [aliveAddrs, List.mem_filterMap, Option.ite_none_right_eq_some, Option.some.injEq]
  constructor
  · rintro ⟨⟨k, p⟩, he, hp, rfl⟩
    exact ⟨p, AList.mem_lookup_iff.mpr he, hp⟩
  · rintro ⟨p, hp, ha⟩
    exact ⟨⟨a, p⟩, AList.mem_lookup_iff.mp hp, ha, rfl⟩

theorem ptr_mem_entries {a : String} {p : Ptr} (hp : c.nodes.lookup a = some p) :
    p ∈ c.nodes.entries.map (·.2) :=
  List.mem_map.mpr ⟨⟨a, p⟩, AList.mem_lookup_iff.mp hp, rfl⟩

theorem lowestAliveAddrLocked_eq {a : String} (ha : a ∈ c.aliveAddrs)
    (hmin : ∀ b ∈ c.aliveAddrs, a ≤ b) : c.lowestAliveAddrLocked = a := by
  have hperm := sortStrings_perm c.aliveAddrs
  have hsorted := sortStrings_sorted c.aliveAddrs
  unfold lowestAliveAddrLocked
  split
  next hs => exact absurd (hperm.mem_iff.mpr ha) (by simp [hs])
  next x xs hs =>
    rw [hs] at hperm hsorted
    have hx : x ∈ c.aliveAddrs := hperm.subset (List.mem_cons_self x xs)
    have hxa : x ≤ a := by
      rcases List.mem_cons.mp (hperm.mem_iff.mpr ha) with rfl | h
      · exact le_rfl
      · exact List.rel_of_sorted_cons hsorted a h
    exact le_antisymm hxa (hmin x hx)

theorem electMaster_eq (hlow : c.lowestAliveAddrLocked ≠ "") {p : Ptr}
    (hp : c.nodes.lookup c.lowestAliveAddrLocked = some p) :
    c.electMaster = { (c.resetRoles c.nodes.entries).setRole p .master with master := some p } := by
  simp only [electMaster, electMasterLocked, if_neg hlow, resetRoles_nodes, hp]

theorem electMasterLocked_nodes : c.electMasterLocked.2.nodes = c.nodes := by
  unfold electMasterLocked
  dsimp only
  split_ifs
  · rfl
  · split <;> simp

theorem mem_getSlaveNodes {q : Ptr} :
    q ∈ c.getSlaveNodes ↔
      ∃ b, c.nodes.lookup b = some q ∧ (c.get q).any fun r => r.alive && r.role == .slave := by
  simp only [getSlaveNodes, List.mem_filterMap, Option.ite_none_right_eq_some, Option.some.injEq]
  constructor
  · rintro ⟨⟨b, q⟩, he, hs, rfl⟩
    exact ⟨b, AList.mem_lookup_iff.mpr he, hs⟩
  · rintro ⟨b, hb, hs⟩
    exact ⟨⟨b, q⟩, AList.mem_lookup_iff.mp hb, hs, rfl⟩

namespace Keyed

theorem get_of_lookup (hk : Keyed c) {b : String} {q : Ptr} (hq : c.nodes.lookup b = some q) :
    ∃ r, c.get q = some r ∧ r.addr = b :=
  Option.map_eq_some'.mp (hk b q hq)

/-- The election rewrites the members' roles and nothing else: the member under the least
alive address becomes `MASTER`, every other one `SLAVE`. -/
theorem get_electMaster (hk : Keyed c) {a : String} (hlow : c.lowestAliveAddrLocked = a)
    (hne : a ≠ "") {p : Ptr} (hp : c.nodes.lookup a = some p) {b : String} {q : Ptr}
    (hq : c.nodes.lookup b = some q) :
    c.electMaster.get q = (c.get q).map ({ · with role := if b = a then .master else .slave }) := by
  subst hlow
  rw [electMaster_eq hne hp]
  by_cases hb : b = c.lowestAliveAddrLocked
  · subst hb
    obtain rfl := Option.some.inj (hq.symm.trans hp)
    simp [get_setRole, get_resetRoles, ptr_mem_entries hp, Option.map_map, Function.comp_def]
  · have hqp : q ≠ p := fun h => hb (hk.ptr_inj hq (h ▸ hp))
    simp [get_setRole, Ne.symm hqp, get_resetRoles, ptr_mem_entries hq, hb]

variable (hk : Keyed c) {a : String} (ha : a ∈ c.aliveAddrs) (hmin : ∀ b ∈ c.aliveAddrs, a ≤ b)
  (hne : a ≠ "")
include hk ha hmin hne

theorem electMaster_elects :
    ∃ p, c.nodes.lookup a = some p ∧ c.electMaster.master = some p ∧
      (c.electMaster.get p).map (·.role) = some .master ∧
      ∀ b q, c.nodes.lookup b = some q → b ≠ a → (c.electMaster.get q).map (·.role) = some .slave := by
  obtain ⟨p, hp, -⟩ := mem_aliveAddrs.mp ha
  have hlow := lowestAliveAddrLocked_eq ha hmin
  refine ⟨p, hp, by rw [electMaster_eq (hlow ▸ hne) (hlow ▸ hp)], ?_, fun b q hq hba => ?_⟩
  · obtain ⟨r, hr, -⟩ := hk.get_of_lookup hp
    simp [hk.get_electMaster hlow hne hp hp, hr]
  · obtain ⟨r, hr, -⟩ := hk.get_of_lookup hq
    simp [hk.get_electMaster hlow hne hp hq, hr, hba]

theorem electMaster_slaves (q : Ptr) :
    q ∈ c.electMaster.getSlaveNodes ↔ ∃ b ∈ c.aliveAddrs, b ≠ a ∧ c.nodes.lookup b = some q := by
  obtain ⟨p, hp, -⟩ := mem_aliveAddrs.mp ha
  have hlow := lowestAliveAddrLocked_eq ha hmin
  rw [mem_getSlaveNodes, electMaster, electMasterLocked_nodes]
  constructor
  · rintro ⟨b, hq, hs⟩
    obtain ⟨r, hr, -⟩ := hk.get_of_lookup hq
    rw [← electMaster, hk.get_electMaster hlow hne hp hq, hr] at hs
    by_cases hba : b = a
    · simp [hba] at hs
    · simp only [hba, if_false, Option.map_some', Option.any_some, Bool.and_eq_true,
        beq_self_eq_true, and_true] at hs
      exact ⟨b, mem_aliveAddrs.mpr ⟨q, hq, by simp [hr, hs]⟩, hba, hq⟩
  · rintro ⟨b, hb, hba, hq⟩
    obtain ⟨q', hq', halive⟩ := mem_aliveAddrs.mp hb
    obtain rfl : q' = q := Option.some.inj (hq'.symm.trans hq)
    obtain ⟨r, hr, -⟩ := hk.get_of_lookup hq
    refine ⟨b, hq, ?_⟩
    rw [← electMaster, hk.get_electMaster hlow hne hp hq, hr]
    simp_all

end Keyed

end Cluster

/-- In every reachable table, `ElectMaster` makes the alive member with the least address the
master and every other member `SLAVE`, whenever that address is not the empty string. -/
theorem electMaster_elects_lowest (os : List Op) {a : String}
    (ha : a ∈ (run newCluster os).aliveAddrs) (hmin : ∀ b ∈ (run newCluster os).aliveAddrs, a ≤ b)
    (hne : a ≠ "") :
    ∃ p, (run newCluster os).nodes.lookup a = some p ∧ (run newCluster os).electMaster.master = some p ∧
      ((run newCluster os).electMaster.get p).map (·.role) = some .master ∧
      ∀ b q, (run newCluster os).nodes.lookup b = some q → b ≠ a →
        ((run newCluster os).electMaster.get q).map (·.role) = some .slave :=
  (Keyed.init.run os).electMaster_elects ha hmin hne

theorem electMaster_slaves_alive (os : List Op) {a : String}
    (ha : a ∈ (run newCluster os).aliveAddrs) (hmin : ∀ b ∈ (run newCluster os).aliveAddrs, a ≤ b)
    (hne : a ≠ "") (q : Ptr) :
    q ∈ (run newCluster os).electMaster.getSlaveNodes ↔
      ∃ b ∈ (run newCluster os).aliveAddrs, b ≠ a ∧ (run newCluster os).nodes.lookup b = some q :=
  (Keyed.init.run os).electMaster_slaves ha hmin hne q

def joinBA : List Op := [.addNode "b" "" "", .addNode "a" "" ""]

theorem joinBA_least : ∀ b ∈ (run newCluster joinBA).aliveAddrs, "a" ≤ b := by
  have h : (run newCluster joinBA).aliveAddrs = ["a", "b"] := by decide
  simp only [h, List.mem_cons, List.mem_singleton, forall_eq_or_imp, forall_eq,
    List.not_mem_nil, false_imp_iff, implies_true, and_true]
  exact ⟨le_rfl, (keyLe_iff _ _).mp (by decide)⟩

theorem electMaster_elects_lowest_joinBA :
    ∃ p, (run newCluster joinBA).nodes.lookup "a" = some p ∧
      (run newCluster joinBA).electMaster.master = some p ∧
      ((run newCluster joinBA).electMaster.get p).map (·.role) = some .master ∧
      ∀ b q, (run newCluster joinBA).nodes.lookup b = some q → b ≠ "a" →
        ((run newCluster joinBA).electMaster.get q).map (·.role) = some .slave :=
  electMaster_elects_lowest joinBA (by decide) joinBA_least (by decide)

theorem electMaster_slaves_alive_joinBA :
    0 ∈ (run newCluster joinBA).electMaster.getSlaveNodes ↔
      ∃ b ∈ (run newCluster joinBA).aliveAddrs, b ≠ "a" ∧ (run newCluster joinBA).nodes.lookup b = some 0 :=
  electMaster_slaves_alive joinBA (by decide) joinBA_least (by decide) 0

end TwoPc.Membership
