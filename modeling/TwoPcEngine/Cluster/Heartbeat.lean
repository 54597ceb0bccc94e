import TwoPcEngine.Cluster.Check

/-! The heartbeat round, `HeartbeatManager.checkAllNodes`: its checks land in any order with the
same result, one round settles the table on the health results, and a second round with the same
results changes nothing. -/

namespace TwoPc.Membership

namespace Cluster

/-- `checkNode(addr)`: the outcome of the health check, `err == nil`, written through `SetAlive`
to the member stored under `addr`, if there is one. -/
def checkNode (c : Cluster) (addr : String) (healthy : Bool) : Cluster :=
  match c.getNode addr with
  | some n => c.update n fun r => { r with alive := healthy }
  | none => c

def nodeAddrs (c : Cluster) : List String := c.nodes.entries.filterMap fun e => c.addrOf e.2

def checkAll (c : Cluster) (healthy : String → Bool) : List String → Cluster
  | [] => c
  | addr :: addrs => (c.checkNode addr (healthy addr)).checkAll healthy addrs

/-- `checkAllNodes`, its goroutines' writes landing in the order `order`, a permutation of
`nodeAddrs c`: nothing for an empty table, otherwise every check and then `CheckAndElect`. -/
def checkAllNodes (c : Cluster) (healthy : String → Bool) (order : List String) : Cluster :=
  if c.nodes.entries.isEmpty then c else (c.checkAll healthy order).checkAndElect.2

variable {c : Cluster}

theorem step_setAlive (addr : String) (healthy : Bool) :
    step c (.setAlive addr healthy) = c.checkNode addr healthy := rfl

@[simp] theorem checkNode_nodes (a : String) (x : Bool) : (c.checkNode a x).nodes = c.nodes := by
  unfold checkNode; split <;> rfl

@[simp] theorem checkNode_master (a : String) (x : Bool) : (c.checkNode a x).master = c.master := by
  unfold checkNode; split <;> rfl

theorem checkNode_of_lookup {a : String} {p : Ptr} (h : c.nodes.lookup a = some p) (x : Bool) :
    c.checkNode a x = c.update p fun r => { r with alive := x } := by
  simp only [checkNode, getNode, h]

theorem checkNode_of_none {a : String} (h : c.nodes.lookup a = none) (x : Bool) :
    c.checkNode a x = c := by
  simp only [checkNode, getNode, h]

theorem get_checkNode (a : String) (x : Bool) (q : Ptr) :
    (c.checkNode a x).get q =
      if c.nodes.lookup a = some q then (c.get q).map ({ · with alive := x }) else c.get q := by
  cases h : c.nodes.lookup a with
  | none => simp [checkNode_of_none h]
  | some p => simp only [checkNode_of_lookup h, get_update, Option.some.injEq]

theorem Keyed.checkNode (hk : Keyed c) (a : String) (x : Bool) : Keyed (c.checkNode a x) := by
  unfold Cluster.checkNode
  split
  exacts [hk.update _ fun _ => rfl, hk]

/-- `c'` differs from `c` in names, database labels and liveness only: the same members, the same
master pointer, and every record with the same address and role. -/
structure Relabel (c c' : Cluster) : Prop where
  nodes : c'.nodes = c.nodes
  master : c'.master = c.master
  get : ∀ q, (c'.get q).map (fun r => (r.addr, r.role)) = (c.get q).map fun r => (r.addr, r.role)

namespace Relabel

variable {c' c'' : Cluster}

theorem refl (c : Cluster) : Relabel c c := ⟨rfl, rfl, fun _ => rfl⟩

theorem trans (h : Relabel c c') (h' : Relabel c' c'') : Relabel c c'' :=
  ⟨h'.nodes.trans h.nodes, h'.master.trans h.master, fun q => (h'.get q).trans (h.get q)⟩

theorem update (h : Relabel c c') (p : Ptr) {f : Record → Record}
    (hf : ∀ r, (f r).addr = r.addr ∧ (f r).role = r.role) : Relabel c (c'.update p f) :=
  ⟨h.nodes, h.master, fun q => by
    rw [get_update, ← h.get q]
    split <;> simp [Option.map_map, Function.comp_def, hf]⟩

theorem get_some (h : Relabel c c') {q : Ptr} {r : Record} (hr : c'.get q = some r) :
    ∃ r₀, c.get q = some r₀ ∧ r₀.addr = r.addr ∧ r₀.role = r.role := by
  have := h.get q
  rw [hr, Option.map_some'] at this
  obtain ⟨r₀, hr₀, he⟩ := Option.map_eq_some'.mp this.symm
  exact ⟨r₀, hr₀, (Prod.mk.inj he).1, (Prod.mk.inj he).2⟩

theorem keyed (h : Relabel c c') (hk : Keyed c) : Keyed c' :=
  hk.of_eq h.nodes <| funext fun q => by
    simpa [addrOf, Option.map_map, Function.comp_def] using congrArg (Option.map Prod.fst) (h.get q)

end Relabel

theorem relabel_update (c : Cluster) (p : Ptr) {f : Record → Record}
    (hf : ∀ r, (f r).addr = r.addr ∧ (f r).role = r.role) : Relabel c (c.update p f) :=
  (Relabel.refl c).update p hf

theorem relabel_checkNode (c : Cluster) (a : String) (x : Bool) : Relabel c (c.checkNode a x) := by
  unfold checkNode
  split
  exacts [relabel_update _ _ fun _ => ⟨rfl, rfl⟩, Relabel.refl c]

theorem relabel_checkAll (c : Cluster) (healthy : String → Bool) (o : List String) :
    Relabel c (c.checkAll healthy o) := by
  induction o generalizing c with
  | nil => exact Relabel.refl c
  | cons a o ih => exact (relabel_checkNode c a _).trans (ih _)

theorem update_comm {p q : Ptr} (hpq : p ≠ q) (f g : Record → Record) :
    (c.update p f).update q g = (c.update q g).update p f := by
  show (⟨_, _, _⟩ : Cluster) = ⟨_, _, _⟩
  congr 1
  apply List.ext_getElem?
  intro i
  simp only [update, List.getElem?_modify]
  by_cases hp : p = i <;> by_cases hq : q = i
  · exact absurd (hp.trans hq.symm) hpq
  all_goals simp [hp, hq]

theorem Keyed.checkNode_comm (hk : Keyed c) (healthy : String → Bool) (a b : String) :
    (c.checkNode a (healthy a)).checkNode b (healthy b) =
      (c.checkNode b (healthy b)).checkNode a (healthy a) := by
  by_cases hab : a = b
  · rw [hab]
  rcases ha : c.nodes.lookup a with _ | p <;> rcases hb : c.nodes.lookup b with _ | q
  · rw [checkNode_of_none ha, checkNode_of_none hb, checkNode_of_none ha]
  · rw [checkNode_of_none ha, checkNode_of_lookup hb, checkNode_of_none (c := c.update q _) ha]
  · rw [checkNode_of_lookup ha, checkNode_of_none hb, checkNode_of_none (c := c.update p _) hb,
      checkNode_of_lookup ha]
  · rw [checkNode_of_lookup ha, checkNode_of_lookup hb, checkNode_of_lookup (c := c.update p _) hb,
      checkNode_of_lookup (c := c.update q _) ha]
    exact update_comm (fun hpq => hab (hk.ptr_inj ha (by rw [hpq]; exact hb))) _ _

@[simp] theorem checkAll_nodes (healthy : String → Bool) (o : List String) :
    (c.checkAll healthy o).nodes = c.nodes :=
  (relabel_checkAll c healthy o).nodes

@[simp] theorem checkAll_master (healthy : String → Bool) (o : List String) :
    (c.checkAll healthy o).master = c.master :=
  (relabel_checkAll c healthy o).master

theorem Keyed.checkAll (hk : Keyed c) (healthy : String → Bool) (o : List String) :
    Keyed (c.checkAll healthy o) :=
  (relabel_checkAll c healthy o).keyed hk

theorem Keyed.checkAll_perm (hk : Keyed c) (healthy : String → Bool) {o o' : List String}
    (h : o.Perm o') : c.checkAll healthy o = c.checkAll healthy o' := by
  induction h generalizing c with
  | nil => rfl
  | cons a _ ih => exact ih (hk.checkNode a _)
  | swap a b _ => simp only [Cluster.checkAll, hk.checkNode_comm healthy b a]
  | trans _ _ ih₁ ih₂ => exact (ih₁ hk).trans (ih₂ hk)

theorem Keyed.mem_nodeAddrs (hk : Keyed c) {a : String} :
    a ∈ c.nodeAddrs ↔ (c.nodes.lookup a).isSome := by
  simp only [nodeAddrs, List.mem_filterMap, Option.isSome_iff_exists]
  constructor
  · rintro ⟨⟨k, p⟩, he, hp⟩
    have hk' := hk k p (AList.mem_lookup_iff.mpr he)
    obtain rfl : k = a := Option.some.inj (hk'.symm.trans hp)
    exact ⟨p, AList.mem_lookup_iff.mpr he⟩
  · rintro ⟨p, hp⟩
    exact ⟨⟨a, p⟩, AList.mem_lookup_iff.mp hp, hk a p hp⟩

theorem Keyed.get_checkAll (hk : Keyed c) (healthy : String → Bool) (o : List String) {b : String}
    {q : Ptr} (hb : c.nodes.lookup b = some q) :
    (c.checkAll healthy o).get q =
      if b ∈ o then (c.get q).map ({ · with alive := healthy b }) else c.get q := by
  induction o generalizing c with
  | nil => simp [Cluster.checkAll]
  | cons a o ih =>
    have hab : c.nodes.lookup a = some q ↔ a = b := ⟨fun ha => hk.ptr_inj ha hb, fun h => h ▸ hb⟩
    rw [Cluster.checkAll, ih (hk.checkNode a _) (by rwa [checkNode_nodes]), get_checkNode]
    by_cases h : a = b
    · subst h
      by_cases hmem : a ∈ o <;> simp [hmem, hb, Option.map_map, Function.comp_def]
    · simp [hab, h, Ne.symm h]

end Cluster

open Cluster

theorem MembershipInv.relabel (hm : MembershipInv c) (h : Relabel c c') : MembershipInv c' where
  onlyMaster k p r hp hr hrole := by
    obtain ⟨r₀, hr₀, -, hrole₀⟩ := h.get_some hr
    rw [h.master]
    exact hm.onlyMaster k p r₀ (h.nodes ▸ hp) hr₀ (hrole₀.trans hrole)
  masterHeld p hp := by
    obtain ⟨r, hr, hl, hrole⟩ := hm.masterHeld p (h.master ▸ hp)
    obtain ⟨r', hr', he⟩ := Option.map_eq_some'.mp ((h.get p).trans (by rw [hr]; rfl))
    obtain ⟨ha, hro⟩ := Prod.mk.inj he
    exact ⟨r', hr', by rw [h.nodes, ha]; exact hl, hro.trans hrole⟩

theorem MembershipInv.checkAll (hm : MembershipInv c) (healthy : String → Bool) (o : List String) :
    MembershipInv (c.checkAll healthy o) :=
  hm.relabel (relabel_checkAll c healthy o)

theorem MembershipInv.role_eq (hm : MembershipInv c) {a : String} {p : Ptr} {r : Record}
    (hp : c.nodes.lookup a = some p) (hr : c.get p = some r) :
    r.role = if c.master = some p then .master else .slave := by
  split_ifs with hmp
  · obtain ⟨r', hr', -, hrole⟩ := hm.masterHeld p hmp
    obtain rfl : r' = r := Option.some.inj (hr'.symm.trans hr)
    exact hrole
  · cases h : r.role
    · exact absurd (hm.onlyMaster a p r hp hr h) hmp
    · rfl

theorem MembershipInv.of_roles (hk : Keyed c)
    (hroles : ∀ a p, c.nodes.lookup a = some p →
      (c.get p).map (·.role) = some (if c.master = some p then .master else .slave))
    (hheld : ∀ p, c.master = some p → ∃ a, c.nodes.lookup a = some p) : MembershipInv c where
  onlyMaster k p r hp hr hrole := by
    have := hroles k p hp
    rw [hr, Option.map_some', hrole] at this
    by_contra h
    simp [h] at this
  masterHeld p hp := by
    obtain ⟨a, ha⟩ := hheld p hp
    obtain ⟨r, hr, rfl⟩ := hk.get_of_lookup ha
    have := hroles _ p ha
    rw [hr, hp] at this
    exact ⟨r, hr, ha, by simpa using this⟩

namespace Cluster

variable {c : Cluster}

/-! ### The election after the checks -/

/-- `c'` differs from `c` in the roles and the master pointer only: what the election writes. -/
structure RolesOnly (c c' : Cluster) : Prop where
  nodes : c'.nodes = c.nodes
  get : ∀ q, (c'.get q).map ({ · with role := .slave }) = (c.get q).map ({ · with role := .slave })

namespace RolesOnly

variable {c' c'' : Cluster}

theorem refl (c : Cluster) : RolesOnly c c := ⟨rfl, fun _ => rfl⟩

theorem trans (h : RolesOnly c c') (h' : RolesOnly c' c'') : RolesOnly c c'' :=
  ⟨h'.nodes.trans h.nodes, fun q => (h'.get q).trans (h.get q)⟩

theorem setRole (h : RolesOnly c c') (p : Ptr) (role : NodeRole) : RolesOnly c (c'.setRole p role) :=
  ⟨h.nodes, fun q => by
    rw [get_setRole, ← h.get q]
    split <;> simp [Option.map_map, Function.comp_def]⟩

theorem resetRoles (h : RolesOnly c c') (es : List (Σ _ : String, Ptr)) :
    RolesOnly c (c'.resetRoles es) := by
  induction es generalizing c' with
  | nil => exact h
  | cons e es ih => exact ih (h.setRole e.2 .slave)

theorem withMaster (h : RolesOnly c c') (m : Option Ptr) : RolesOnly c { c' with master := m } :=
  ⟨h.nodes, h.get⟩

theorem alive (h : RolesOnly c c') (q : Ptr) :
    (c'.get q).map (·.alive) = (c.get q).map (·.alive) := by
  simpa [Option.map_map, Function.comp_def] using congrArg (Option.map (·.alive)) (h.get q)

theorem aliveAddrs (h : RolesOnly c c') : c'.aliveAddrs = c.aliveAddrs := by
  simp only [Cluster.aliveAddrs, h.nodes]
  congr 1
  funext e
  have := h.alive e.2
  revert this
  cases c'.get e.2 <;> cases c.get e.2 <;> intro h <;> simp_all

theorem lowestAliveAddrLocked (h : RolesOnly c c') :
    c'.lowestAliveAddrLocked = c.lowestAliveAddrLocked := by
  simp only [Cluster.lowestAliveAddrLocked, h.aliveAddrs]

end RolesOnly

theorem rolesOnly_electMasterLocked : RolesOnly c c.electMasterLocked.2 := by
  unfold electMasterLocked
  dsimp only
  split_ifs
  · exact (RolesOnly.refl c).withMaster none
  · split
    exacts [(((RolesOnly.refl c).resetRoles _).setRole _ _).withMaster _,
      (RolesOnly.refl c).resetRoles _]

theorem rolesOnly_checkAndElect : RolesOnly c c.checkAndElect.2 := by
  unfold checkAndElect
  dsimp only
  repeat' split
  all_goals dsimp only
  all_goals with_reducible first
    | exact RolesOnly.refl c
    | exact ((RolesOnly.refl c).setRole _ _).withMaster _
    | exact ((((RolesOnly.refl c).setRole _ _).withMaster _).setRole _ _).withMaster _
    | exact rolesOnly_electMasterLocked
    | exact (((RolesOnly.refl c).setRole _ _).withMaster _).trans rolesOnly_electMasterLocked

theorem get_checkAndElect_of_empty (hlow : c.lowestAliveAddrLocked = "") (q : Ptr) :
    c.checkAndElect.2.get q =
      if c.master = some q then (c.get q).map ({ · with role := .slave }) else c.get q := by
  rcases hm : c.master with _ | m
  · simp [checkAndElect, hm, hlow]
  · have hs : c.checkAndElect.2 = { c.setRole m .slave with master := none } := by
      simp only [checkAndElect, hm, hlow]
      repeat' split
      all_goals simp_all
    rw [hs, get_heap, get_setRole]
    simp

theorem checkAndElect_of_not_current (hlow : c.lowestAliveAddrLocked ≠ "")
    (hnc : ¬ MasterCurrent c) :
    c.checkAndElect = c.electMasterLocked ∨
      ∃ m, c.checkAndElect = ({ c.setRole m .slave with master := none } : Cluster).electMasterLocked := by
  rcases hm : c.master with _ | m
  · exact .inl (by simp [checkAndElect, hm, hlow])
  rcases hr : c.get m with _ | r
  · exact .inl (by simp [checkAndElect, hm, hr, hlow, Ne.symm hlow])
  by_cases ha : r.alive
  · have hl : r.addr ≠ c.lowestAliveAddrLocked := fun hl => hnc ⟨m, r, hm, hr, ha, hl⟩
    exact .inl (by simp [checkAndElect, hm, hr, ha, hl, hlow])
  · exact .inr ⟨m, by simp [checkAndElect, hm, hr, ha, hlow]⟩

theorem Keyed.get_checkAndElect (hk : Keyed c) (hlow : c.lowestAliveAddrLocked ≠ "")
    (hnc : ¬ MasterCurrent c) {p : Ptr} (hp : c.nodes.lookup c.lowestAliveAddrLocked = some p)
    {b : String} {q : Ptr} (hb : c.nodes.lookup b = some q) :
    c.checkAndElect.2.get q =
      (c.get q).map ({ · with role := if b = c.lowestAliveAddrLocked then .master else .slave }) := by
  rcases checkAndElect_of_not_current hlow hnc with he | ⟨m, he⟩ <;> rw [he]
  · exact hk.get_electMaster rfl hlow hp hb
  · rw [← electMaster, (hk.demote m).get_electMaster (lowestAliveAddrLocked_demote m) hlow hp hb,
      show ({ c.setRole m .slave with master := none } : Cluster).get q = (c.setRole m .slave).get q
        from rfl, get_setRole]
    by_cases hmq : m = q <;> simp [hmq, Option.map_map, Function.comp_def]

/-! ### Settled tables -/

/-- The table agrees with the health results `healthy`: every member is alive exactly when its
check succeeded; the master pointer is the member under the least alive address, or nil when
that address is empty; the master reads `MASTER` and every other member `SLAVE`. -/
structure Settled (healthy : String → Bool) (c : Cluster) : Prop where
  alive : ∀ a p, c.nodes.lookup a = some p → (c.get p).map (·.alive) = some (healthy a)
  master : c.master =
    if c.lowestAliveAddrLocked = "" then none else c.nodes.lookup c.lowestAliveAddrLocked
  roles : ∀ a p, c.nodes.lookup a = some p →
    (c.get p).map (·.role) = some (if c.master = some p then .master else .slave)

theorem Keyed.settled_checkAndElect (hk : Keyed c) (hm : MembershipInv c) {healthy : String → Bool}
    (halive : ∀ a p, c.nodes.lookup a = some p → (c.get p).map (·.alive) = some (healthy a)) :
    Settled healthy c.checkAndElect.2 := by
  have hr := rolesOnly_checkAndElect (c := c)
  refine ⟨fun a p hp => by rw [hr.alive]; exact halive a p (hr.nodes ▸ hp), ?_, fun a p hp => ?_⟩
  · rw [hr.lowestAliveAddrLocked, hr.nodes]
    by_cases hl : c.lowestAliveAddrLocked = ""
    · rw [if_pos hl]
      exact (checkAndElect_of_empty hl).2
    obtain ⟨p, hp, -⟩ := mem_aliveAddrs.mp (lowestAliveAddrLocked_mem hl)
    rw [if_neg hl, hp]
    rcases checkAndElect_cases hl hp with ⟨⟨m, r, hmm, hrm, -, hra⟩, he⟩ | ⟨-, -, h2⟩
    · obtain ⟨r', hr', hl', -⟩ := hm.masterHeld m hmm
      obtain rfl : r' = r := Option.some.inj (hr'.symm.trans hrm)
      rw [he, hmm]
      exact (hra ▸ hl').symm.trans hp
    · exact h2
  · rw [hr.nodes] at hp
    obtain ⟨r, hrp, -⟩ := hk.get_of_lookup hp
    by_cases hl : c.lowestAliveAddrLocked = ""
    · rw [get_checkAndElect_of_empty hl, (checkAndElect_of_empty hl).2, hrp]
      have := hm.role_eq hp hrp
      split_ifs at this ⊢ <;> simp_all
    obtain ⟨p₀, hp₀, -⟩ := mem_aliveAddrs.mp (lowestAliveAddrLocked_mem hl)
    rcases checkAndElect_cases hl hp₀ with ⟨-, he⟩ | ⟨hnc, -, h2⟩
    · rw [he, hrp]
      simp only [Option.map_some', hm.role_eq hp hrp]
    · have hap : a = c.lowestAliveAddrLocked ↔ p₀ = p :=
        ⟨fun h => Option.some.inj (hp₀.symm.trans (h ▸ hp)), fun h => hk.ptr_inj hp (h ▸ hp₀)⟩
      rw [hk.get_checkAndElect hl hnc hp₀ hp, h2, hrp]
      simp only [Option.map_some', Option.some.injEq, hap]

theorem Keyed.alive_checkAll (hk : Keyed c) (healthy : String → Bool) {o : List String}
    (hcov : ∀ a, (c.nodes.lookup a).isSome → a ∈ o) {a : String} {p : Ptr}
    (hp : (c.checkAll healthy o).nodes.lookup a = some p) :
    ((c.checkAll healthy o).get p).map (·.alive) = some (healthy a) := by
  rw [checkAll_nodes] at hp
  obtain ⟨r, hr, -⟩ := hk.get_of_lookup hp
  rw [hk.get_checkAll healthy o hp, if_pos (hcov a (by simp [hp])), hr]
  rfl

theorem entries_isEmpty {c : Cluster} (h : c.nodes.entries.isEmpty) (a : String) :
    c.nodes.lookup a = none := by
  rw [List.isEmpty_iff] at h
  simp [AList.lookup, h]

theorem Keyed.settles (hk : Keyed c) (hm : MembershipInv c) (healthy : String → Bool)
    {o : List String} (ho : o.Perm c.nodeAddrs) : Settled healthy (c.checkAllNodes healthy o) := by
  have hcov : ∀ a, (c.nodes.lookup a).isSome → a ∈ o := fun a ha =>
    ho.mem_iff.mpr (hk.mem_nodeAddrs.mpr ha)
  unfold checkAllNodes
  split_ifs with he
  · have hnil := entries_isEmpty he
    have hlow : c.lowestAliveAddrLocked = "" := by
      rw [List.isEmpty_iff] at he
      simp [lowestAliveAddrLocked, aliveAddrs, he, sortStrings]
    refine ⟨fun a p hp => by simp [hnil] at hp, ?_, fun a p hp => by simp [hnil] at hp⟩
    rw [if_pos hlow]
    rcases hmc : c.master with _ | m
    · rfl
    · obtain ⟨r, -, hl, -⟩ := hm.masterHeld m hmc
      simp [hnil] at hl
  · exact (hk.checkAll healthy o).settled_checkAndElect (hm.checkAll healthy o)
      fun _ _ => hk.alive_checkAll healthy hcov

theorem Keyed.checkAllNodes_perm (hk : Keyed c) (healthy : String → Bool) {o o' : List String}
    (h : o.Perm o') : c.checkAllNodes healthy o = c.checkAllNodes healthy o' := by
  simp only [checkAllNodes, hk.checkAll_perm healthy h]

theorem update_eq_self {p : Ptr} {f : Record → Record} (h : ∀ r, c.get p = some r → f r = r) :
    c.update p f = c := by
  show (⟨_, _, _⟩ : Cluster) = c
  congr
  apply List.ext_getElem?
  intro i
  simp only [List.getElem?_modify]
  split_ifs with hi
  · subst hi
    cases hr : c.heap[p]? with
    | none => rfl
    | some r => simp [h r hr]
  · simp

theorem Settled.checkAll_eq (hs : Settled healthy c) (o : List String) :
    c.checkAll healthy o = c := by
  induction o with
  | nil => rfl
  | cons a o ih =>
    rw [Cluster.checkAll]
    cases ha : c.nodes.lookup a with
    | none => rw [checkNode_of_none ha, ih]
    | some p =>
      rw [checkNode_of_lookup ha, update_eq_self fun r hr => ?_, ih]
      have := hs.alive a p ha
      rw [hr, Option.map_some', Option.some.injEq] at this
      rw [← this]

theorem Keyed.checkAndElect_settled (hk : Keyed c) (hs : Settled healthy c) :
    c.checkAndElect = (false, c) := by
  by_cases hl : c.lowestAliveAddrLocked = ""
  · have hm : c.master = none := by rw [hs.master, if_pos hl]
    simp [Cluster.checkAndElect, hl, hm]
  obtain ⟨p, hp, halive⟩ := mem_aliveAddrs.mp (lowestAliveAddrLocked_mem hl)
  obtain ⟨r, hr, hra⟩ := hk.get_of_lookup hp
  have hm : c.master = some p := by rw [hs.master, if_neg hl, hp]
  rcases checkAndElect_cases hl hp with ⟨-, he⟩ | ⟨hnc, -, -⟩
  · exact he
  · exact absurd ⟨p, r, hm, hr, by simpa [hr] using halive, hra⟩ hnc

theorem Keyed.checkAllNodes_settled (hk : Keyed c) (hs : Settled healthy c) (o : List String) :
    c.checkAllNodes healthy o = c := by
  unfold checkAllNodes
  split_ifs
  · rfl
  · rw [hs.checkAll_eq, hk.checkAndElect_settled hs]

/-! ### One master across processes -/

theorem lowestAliveAddrLocked_le {b : String} (hb : b ∈ c.aliveAddrs) :
    c.lowestAliveAddrLocked ≤ b := by
  have hperm := sortStrings_perm c.aliveAddrs
  have hsorted := sortStrings_sorted c.aliveAddrs
  unfold lowestAliveAddrLocked
  split
  next hs => exact absurd (hperm.mem_iff.mpr hb) (by simp [hs])
  next x xs hs =>
    rw [hs] at hperm hsorted
    rcases List.mem_cons.mp (hperm.mem_iff.mpr hb) with rfl | h
    · exact le_rfl
    · exact List.rel_of_sorted_cons hsorted b h

theorem Settled.mem_aliveAddrs (hk : Keyed c) (hs : Settled healthy c) {a : String} :
    a ∈ c.aliveAddrs ↔ (c.nodes.lookup a).isSome ∧ healthy a := by
  rw [Cluster.mem_aliveAddrs]
  constructor
  · rintro ⟨p, hp, halive⟩
    have := hs.alive a p hp
    obtain ⟨r, hr, -⟩ := hk.get_of_lookup hp
    simp_all
  · rintro ⟨hp, ha⟩
    obtain ⟨p, hp⟩ := Option.isSome_iff_exists.mp hp
    have := hs.alive a p hp
    obtain ⟨r, hr, -⟩ := hk.get_of_lookup hp
    exact ⟨p, hp, by simp_all⟩

theorem Settled.eq_lowest (hk : Keyed c) (hs : Settled healthy c) {l : String} {p : Ptr}
    (hl : c.nodes.lookup l = some p) (hp : (c.get p).map (·.role) = some .master) :
    l = c.lowestAliveAddrLocked ∧ c.lowestAliveAddrLocked ≠ "" := by
  rw [hs.roles l p hl] at hp
  have hm : c.master = some p := by
    by_contra h
    simp [h] at hp
  rw [hs.master] at hm
  split_ifs at hm with hlow
  exact ⟨hk.ptr_inj hl hm, hlow⟩

theorem Settled.lowest_eq {c' : Cluster} (hk : Keyed c) (hk' : Keyed c') (hs : Settled healthy c)
    (hs' : Settled healthy c') (hmem : ∀ a, (c.nodes.lookup a).isSome = (c'.nodes.lookup a).isSome)
    (hne : c.lowestAliveAddrLocked ≠ "") :
    c'.lowestAliveAddrLocked = c.lowestAliveAddrLocked := by
  have hmem' : ∀ a, a ∈ c'.aliveAddrs ↔ a ∈ c.aliveAddrs := fun a => by
    rw [hs.mem_aliveAddrs hk, hs'.mem_aliveAddrs hk', hmem]
  exact lowestAliveAddrLocked_eq ((hmem' _).mpr (lowestAliveAddrLocked_mem hne))
    fun b hb => lowestAliveAddrLocked_le ((hmem' b).mp hb)

theorem Keyed.checkAllNodes (hk : Keyed c) (healthy : String → Bool) (o : List String) :
    Keyed (c.checkAllNodes healthy o) := by
  unfold Cluster.checkAllNodes
  split_ifs
  exacts [hk, (hk.checkAll healthy o).checkAndElect]

theorem Keyed.membershipInv_of_settled (hk : Keyed c) (hs : Settled healthy c) : MembershipInv c :=
  .of_roles hk hs.roles fun p hp => by
    have hm := hs.master
    rw [hp] at hm
    split_ifs at hm
    exact ⟨_, hm.symm⟩

end Cluster

theorem run_append (c : Cluster) (os os' : List Op) : run c (os ++ os') = run (run c os) os' := by
  induction os generalizing c with
  | nil => rfl
  | cons o os ih => exact ih _

theorem Cluster.checkAll_eq_run (c : Cluster) (healthy : String → Bool) (o : List String) :
    c.checkAll healthy o = run c (o.map fun a => .setAlive a (healthy a)) := by
  induction o generalizing c with
  | nil => rfl
  | cons a o ih => exact ih _

theorem Cluster.checkAllNodes_eq_run (c : Cluster) (healthy : String → Bool) (o : List String) :
    c.checkAllNodes healthy o =
      run c (if c.nodes.entries.isEmpty then [] else
        o.map (fun a => .setAlive a (healthy a)) ++ [.checkAndElect]) := by
  unfold checkAllNodes
  split_ifs
  · rfl
  · rw [run_append, ← c.checkAll_eq_run]
    rfl

/-- In every reachable table, the heartbeat's result does not depend on the order in which its
goroutines' health checks land. -/
theorem heartbeat_order_independent (os : List Op) (healthy : String → Bool) {o o' : List String}
    (h : o.Perm o') :
    (run newCluster os).checkAllNodes healthy o = (run newCluster os).checkAllNodes healthy o' :=
  (Keyed.init.run os).checkAllNodes_perm healthy h

theorem heartbeat_order_independent_joinBA :
    ["a", "b"].Perm ["b", "a"] ∧
      (run newCluster joinBA).checkAllNodes (· == "b") ["a", "b"] =
        (run newCluster joinBA).checkAllNodes (· == "b") ["b", "a"] :=
  ⟨.swap _ _ _, heartbeat_order_independent joinBA _ (.swap _ _ _)⟩

theorem heartbeat_settles (os : List Op) (healthy : String → Bool) {o : List String}
    (hm : MembershipInv (run newCluster os)) (ho : o.Perm (run newCluster os).nodeAddrs) :
    Settled healthy ((run newCluster os).checkAllNodes healthy o) ∧
      MembershipInv ((run newCluster os).checkAllNodes healthy o) := by
  have hk := Keyed.init.run os
  have hs := hk.settles hm healthy ho
  exact ⟨hs, (hk.checkAllNodes healthy o).membershipInv_of_settled hs⟩

theorem heartbeat_settles_joinBA :
    MembershipInv (run newCluster joinBA) ∧ ["b", "a"].Perm (run newCluster joinBA).nodeAddrs ∧
      (Settled (· == "b") ((run newCluster joinBA).checkAllNodes (· == "b") ["b", "a"]) ∧
        MembershipInv ((run newCluster joinBA).checkAllNodes (· == "b") ["b", "a"])) :=
  ⟨(membershipInv_iff _).mpr (by decide), by decide,
    heartbeat_settles joinBA _ ((membershipInv_iff _).mpr (by decide)) (by decide)⟩

theorem heartbeat_stable (os : List Op) (healthy : String → Bool) {o : List String}
    (o' : List String) (hm : MembershipInv (run newCluster os))
    (ho : o.Perm (run newCluster os).nodeAddrs) :
    ((run newCluster os).checkAllNodes healthy o).checkAllNodes healthy o' =
      (run newCluster os).checkAllNodes healthy o := by
  have hk := Keyed.init.run os
  exact (hk.checkAllNodes healthy o).checkAllNodes_settled
    (hk.settles hm healthy ho) o'

theorem heartbeat_stable_joinBA :
    MembershipInv (run newCluster joinBA) ∧ ["b", "a"].Perm (run newCluster joinBA).nodeAddrs ∧
      ((run newCluster joinBA).checkAllNodes (· == "b") ["b", "a"]).checkAllNodes (· == "b")
          ["a", "b"] =
        (run newCluster joinBA).checkAllNodes (· == "b") ["b", "a"] :=
  ⟨(membershipInv_iff _).mpr (by decide), by decide,
    heartbeat_stable joinBA _ ["a", "b"] ((membershipInv_iff _).mpr (by decide)) (by decide)⟩

/-- Two reachable tables, such as those of two node processes, settled on the same health
results over the same member addresses agree on the master: a member reading `MASTER` in one
and a member reading `MASTER` in the other are stored under the same address. So at most one
node process, the one at that address, has its own record read `MASTER` and runs `Execute`. -/
theorem settled_single_master (os os' : List Op) {healthy : String → Bool}
    (hs : Settled healthy (run newCluster os)) (hs' : Settled healthy (run newCluster os'))
    (hmem : (run newCluster os).nodes.keys.Perm (run newCluster os').nodes.keys)
    {l l' : String} {p p' : Ptr} (hl : (run newCluster os).nodes.lookup l = some p)
    (hl' : (run newCluster os').nodes.lookup l' = some p')
    (hp : ((run newCluster os).get p).map (·.role) = some .master)
    (hp' : ((run newCluster os').get p').map (·.role) = some .master) : l = l' := by
  have hk := Keyed.init.run os
  have hk' := Keyed.init.run os'
  obtain ⟨rfl, hne⟩ := hs.eq_lowest hk hl hp
  obtain ⟨rfl, -⟩ := hs'.eq_lowest hk' hl' hp'
  refine (hs.lowest_eq hk hk' hs' (fun a => Bool.eq_iff_iff.mpr ?_) hne).symm
  rw [AList.lookup_isSome, AList.lookup_isSome]
  exact hmem.mem_iff

def joinBARound : List Op := joinBA ++ [.setAlive "b" true, .setAlive "a" true, .checkAndElect]

def joinABRound : List Op :=
  [.addNode "a" "" "", .addNode "b" "" "", .setAlive "a" true, .setAlive "b" true, .checkAndElect]

theorem settled_single_master_twoJoins :
    Settled (fun _ => true) (run newCluster joinBARound) ∧
      Settled (fun _ => true) (run newCluster joinABRound) ∧
      (run newCluster joinBARound).nodes.keys.Perm (run newCluster joinABRound).nodes.keys ∧
      (run newCluster joinBARound).nodes.lookup "a" = some 1 ∧
      (run newCluster joinABRound).nodes.lookup "a" = some 0 ∧
      ((run newCluster joinBARound).get 1).map (·.role) = some .master ∧
      ((run newCluster joinABRound).get 0).map (·.role) = some .master ∧ "a" = "a" := by
  have h₁ : Settled (fun _ => true) (run newCluster joinBARound) := by
    have h := (Keyed.init.run joinBA).settles ((membershipInv_iff _).mpr (by decide))
      (fun _ => true) (o := ["b", "a"]) (by decide)
    rwa [checkAllNodes_eq_run, ← run_append] at h
  have h₂ : Settled (fun _ => true) (run newCluster joinABRound) := by
    have h := (Keyed.init.run [.addNode "a" "" "", .addNode "b" "" ""]).settles
      ((membershipInv_iff _).mpr (by decide)) (fun _ => true) (o := ["a", "b"]) (by decide)
    rwa [checkAllNodes_eq_run, ← run_append] at h
  exact ⟨h₁, h₂, by decide, by decide, by decide, by decide, by decide,
    @settled_single_master joinBARound joinABRound _ h₁ h₂ (by decide) "a" "a" 1 0 (by decide)
      (by decide) (by decide) (by decide)⟩

end TwoPc.Membership
