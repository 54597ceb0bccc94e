import TwoPcEngine.Cluster.Invariant

/-! The table `main` of `cmd/node` and of `cmd/master` builds before it serves, what holds of it
until the first election, and that election. -/

namespace TwoPc.Membership

open Cluster

def splitComma (s : String) : List String := (s.toList.splitOn ',').map String.mk

def seedAddrs (nodes : String) : List String := (splitComma nodes).map trimSpace

def addSeed (addr : String) (c : Cluster) (a : String) : Cluster :=
  if a = "" ∨ a = addr then c else c.handleAddNode a "" ""

def localTable (addr name database : String) (role : NodeRole) : Ptr × Cluster :=
  let l := (newCluster.newNode addr role).1
  let c := (newCluster.newNode addr role).2.update l fun r => { r with alive := true }
  let c := if name ≠ "" then c.update l fun r => { r with name := name } else c
  (l, (c.update l fun r => { r with database := database }).addNode l)

/-- The table `main` of `cmd/node` (`role` SLAVE) and of `cmd/master` (`role` MASTER) builds before
it starts the heartbeat, with the local node: the local node, every other address of `--nodes`,
and the persisted nodes merged in with the local node (none when the state file is off or
unreadable). -/
def startTable (addr name database : String) (role : NodeRole) (nodes : String)
    (persisted : List StoredNode) : Ptr × Cluster :=
  let lc := localTable addr name database role
  (lc.1, ((seedAddrs nodes).foldl (addSeed addr) lc.2).applyState persisted (some lc.1))

/-- The table when the first `CheckAndElect` takes the lock: the start-up table after the checks of
the first heartbeat round that landed before it, each an address and its health result. -/
def beforeFirstElection (addr name database : String) (role : NodeRole) (nodes : String)
    (persisted : List StoredNode) (checks : List (String × Bool)) : Cluster :=
  run (startTable addr name database role nodes persisted).2 (checks.map fun x => .setAlive x.1 x.2)

namespace Cluster

variable {c : Cluster}

theorem checkAndElect_of_none (hnone : c.master = none) (hl : c.lowestAliveAddrLocked ≠ "") :
    c.checkAndElect = c.electMasterLocked := by
  simp [checkAndElect, hnone, hl]

theorem lowestAliveAddrLocked_eq_empty (h : c.lowestAliveAddrLocked = "") :
    c.aliveAddrs = [] ∨ "" ∈ c.aliveAddrs := by
  unfold lowestAliveAddrLocked at h
  split at h
  next hs => exact .inl (hs ▸ sortStrings_perm c.aliveAddrs).nil_eq.symm
  next a as hs => exact .inr (h ▸ (sortStrings_perm _).subset (hs ▸ List.mem_cons_self a as))

theorem lowestAliveAddrLocked_ne_empty (h : c.aliveAddrs ≠ []) (h0 : c.nodes.lookup "" = none) :
    c.lowestAliveAddrLocked ≠ "" := fun hl =>
  (lowestAliveAddrLocked_eq_empty hl).elim h fun h' => by
    obtain ⟨p, hp, -⟩ := mem_aliveAddrs.mp h'
    simp [h0] at hp

theorem Keyed.first_election (hk : Keyed c) (hnone : c.master = none)
    (hl : c.lowestAliveAddrLocked ≠ "") :
    MembershipInv c.checkAndElect.2 ∧
      c.checkAndElect.2.master = c.nodes.lookup c.lowestAliveAddrLocked := by
  rw [checkAndElect_of_none hnone hl]
  obtain ⟨p, hp, -⟩ := mem_aliveAddrs.mp (lowestAliveAddrLocked_mem hl)
  exact ⟨hk.membershipInv_electMaster hl, by rw [← Cluster.electMaster, electMaster_eq hl hp, hp]⟩

theorem applyStored_master (hk : Keyed c) {l : Option Ptr}
    (hl : ∀ p, l = some p → ∃ a, c.nodes.lookup a = some p) (sn : StoredNode) :
    (c.applyStored l sn).master = c.master ∧
      ∀ k, k ≠ sn.address → (c.applyStored l sn).nodes.lookup k = c.nodes.lookup k := by
  by_cases ha : sn.address = ""
  · simp only [Cluster.applyStored, if_pos ha, implies_true, and_self]
  rw [applyStored_eq hk hl ha]
  cases h : c.nodes.lookup sn.address with
  | some n => exact ⟨rfl, fun _ _ => rfl⟩
  | none =>
    refine ⟨by dsimp only; rw [update_master, addNode_of_get (get_newNode_self _ _ _)]; rfl,
      fun k hk' => ?_⟩
    rw [update_nodes, nodes_addNode_newNode, AList.lookup_insert_ne hk']

end Cluster

/-- What holds from start-up until the first election: records under their own addresses, no
master pointer, and no member at the empty address. -/
structure Unelected (c : Cluster) : Prop where
  keyed : Keyed c
  master : c.master = none
  noEmpty : c.nodes.lookup "" = none

namespace Unelected

variable {c : Cluster}

theorem addSeed (h : Unelected c) (addr a : String) : Unelected (addSeed addr c a) := by
  unfold Membership.addSeed
  split_ifs with ha
  · exact h
  · refine ⟨h.keyed.handleAddNode a "" "", by simp [h.master], ?_⟩
    rw [handleAddNode_nodes, AList.lookup_insert_ne fun h' => ha (.inl h'.symm)]
    exact h.noEmpty

theorem applyState (h : Unelected c) {l : Option Ptr}
    (hl : ∀ p, l = some p → ∃ a, c.nodes.lookup a = some p) (nodes : List StoredNode) :
    Unelected (c.applyState nodes l) := by
  induction nodes generalizing c with
  | nil => exact h
  | cons sn nodes ih =>
    obtain ⟨hm, hn⟩ := applyStored_master h.keyed hl sn
    refine ih ⟨h.keyed.applyStored l sn, hm.trans h.master, ?_⟩
      fun p hp => let ⟨a, ha⟩ := hl p hp; ⟨a, (applyStored_grows c l sn).nodes a p ha⟩
    by_cases ha : sn.address = ""
    · simpa only [Cluster.applyStored, if_pos ha] using h.noEmpty
    · exact (hn "" (Ne.symm ha)).trans h.noEmpty

theorem relabel {c' : Cluster} (h : Unelected c) (hr : Relabel c c') : Unelected c' :=
  ⟨hr.keyed h.keyed, hr.master ▸ h.master, hr.nodes ▸ h.noEmpty⟩

theorem setAlive (h : Unelected c) (a : String) (x : Bool) : Unelected (step c (.setAlive a x)) :=
  h.relabel (relabel_checkNode c a x)

end Unelected

theorem Unelected.run_setAlive {c : Cluster} (h : Unelected c) (checks : List (String × Bool)) :
    Unelected (run c (checks.map fun x => .setAlive x.1 x.2)) := by
  induction checks generalizing c with
  | nil => exact h
  | cons x checks ih => exact ih (h.setAlive x.1 x.2)

theorem unelected_addNode_local {addr : String} (ha : addr ≠ "") {role : NodeRole} {c : Cluster}
    (h : Relabel (newCluster.newNode addr role).2 c) :
    Unelected (c.addNode (newCluster.newNode addr role).1) ∧
      (c.addNode (newCluster.newNode addr role).1).nodes.lookup addr =
        some (newCluster.newNode addr role).1 := by
  have hk := (h.keyed (Keyed.init.newNode addr role)).addNode (newCluster.newNode addr role).1
  obtain ⟨r, hr, hra, -⟩ := h.get_newNode
  rw [addNode_of_get hr, hra] at hk ⊢
  refine ⟨⟨hk, h.master, ?_⟩, AList.lookup_insert _⟩
  rw [AList.lookup_insert_ne (Ne.symm ha), h.nodes]
  rfl

theorem localTable_spec {addr : String} (ha : addr ≠ "") (name database : String) (role : NodeRole) :
    Unelected (localTable addr name database role).2 ∧
      (localTable addr name database role).2.nodes.lookup addr =
        some (localTable addr name database role).1 :=
  unelected_addNode_local ha (((relabel_update _ _ fun _ => by exact ⟨rfl, rfl⟩).update_if _ _
    fun _ => by exact ⟨rfl, rfl⟩).update _ fun _ => by exact ⟨rfl, rfl⟩)

theorem lookup_foldl_addSeed (addr : String) (c : Cluster) (seeds : List String) :
    (seeds.foldl (addSeed addr) c).nodes.lookup addr = c.nodes.lookup addr := by
  induction seeds generalizing c with
  | nil => rfl
  | cons a seeds ih =>
    rw [List.foldl_cons, ih, addSeed]
    split_ifs with ha
    · rfl
    · rw [handleAddNode_nodes, AList.lookup_insert_ne fun h' => ha (.inr h'.symm)]

theorem unelected_foldl_addSeed (addr : String) {c : Cluster} (h : Unelected c)
    (seeds : List String) : Unelected (seeds.foldl (addSeed addr) c) := by
  induction seeds generalizing c with
  | nil => exact h
  | cons a seeds ih => exact ih (h.addSeed addr a)

theorem unelected_startTable {addr : String} (ha : addr ≠ "") (name database : String)
    (role : NodeRole) (nodes : String) (persisted : List StoredNode) :
    Unelected (startTable addr name database role nodes persisted).2 :=
  have h := localTable_spec ha name database role
  (unelected_foldl_addSeed addr h.1 _).applyState
    (fun p hp => ⟨addr, by rw [lookup_foldl_addSeed, h.2, hp]⟩) persisted

theorem startup_first_election (addr name database : String) (role : NodeRole) (nodes : String)
    (persisted : List StoredNode) (checks : List (String × Bool)) (ha : addr ≠ "")
    (halive : (beforeFirstElection addr name database role nodes persisted checks).aliveAddrs ≠ []) :
    MembershipInv (beforeFirstElection addr name database role nodes persisted checks).checkAndElect.2 ∧
      (beforeFirstElection addr name database role nodes persisted checks).checkAndElect.2.master =
        (beforeFirstElection addr name database role nodes persisted checks).nodes.lookup
          (beforeFirstElection addr name database role nodes persisted checks).lowestAliveAddrLocked :=
  have h := (unelected_startTable ha name database role nodes persisted).run_setAlive checks
  h.keyed.first_election h.master (lowestAliveAddrLocked_ne_empty halive h.noEmpty)

theorem startup_first_election_masterB :
    "b" ≠ "" ∧
      (beforeFirstElection "b" "" "" .master "a, b ,c" [⟨"d", "delta", ""⟩] [("a", false)]).aliveAddrs
        ≠ [] ∧
      MembershipInv (beforeFirstElection "b" "" "" .master "a, b ,c" [⟨"d", "delta", ""⟩]
        [("a", false)]).checkAndElect.2 ∧
      (beforeFirstElection "b" "" "" .master "a, b ,c" [⟨"d", "delta", ""⟩]
        [("a", false)]).checkAndElect.2.master =
        (beforeFirstElection "b" "" "" .master "a, b ,c" [⟨"d", "delta", ""⟩] [("a", false)]).nodes.lookup
          (beforeFirstElection "b" "" "" .master "a, b ,c" [⟨"d", "delta", ""⟩]
            [("a", false)]).lowestAliveAddrLocked :=
  ⟨by decide, by decide, startup_first_election "b" "" "" .master "a, b ,c" [⟨"d", "delta", ""⟩]
    [("a", false)] (by decide) (by decide)⟩

example : (beforeFirstElection "b" "" "" .master "a, b ,c" [⟨"d", "delta", ""⟩]
    [("a", false)]).checkAndElect.2.master = some 0 := by decide

end TwoPc.Membership
