import TwoPcEngine.Cluster.Heartbeat
import TwoPcEngine.Cluster.Restore

/-! `StateStore.SaveCluster`'s snapshot of the members, `ApplyState`'s merge of it at start-up, and
their round trip. `Save` and `Load` are taken to return the list they are given. -/

namespace TwoPc.Membership

namespace Cluster

/-- `SaveCluster`: for each address of `GetNodeAddresses`, sorted, the record `GetNode` finds,
read through `n.Addr`, `GetName` and `GetDatabase`. -/
def saveCluster (c : Cluster) : List StoredNode :=
  (sortStrings c.nodes.keys).filterMap fun addr =>
    ((c.getNode addr).bind c.get).map fun r => ⟨r.addr, r.name, r.database⟩

def view (c : Cluster) (a : String) : Option Record := (c.getNode a).bind c.get

end Cluster

/-- What `ApplyState` writes into the record of the persisted node `sn`: its name and its
database label where they are not empty, and alive. -/
def Record.restore (r : Record) (sn : StoredNode) : Record :=
  { r with
    name := if sn.name ≠ "" then sn.name else r.name
    database := if sn.database ≠ "" then sn.database else r.database
    alive := true }

theorem Record.restore_restore (r : Record) (sn : StoredNode) :
    ({ r.restore sn with alive := r.alive } : Record).restore sn = r.restore sn := by
  simp only [Record.restore]
  split_ifs <;> rfl

/-- The merge `ApplyState` stands for, over addresses: a persisted node with an address makes the
record under it, or a fresh `SLAVE` record, take its labels and be alive. -/
def restoreView (v : String → Option Record) (sn : StoredNode) : String → Option Record :=
  if sn.address = "" then v
  else Function.update v sn.address
    (some (((v sn.address).getD ⟨sn.address, .slave, true, "", ""⟩).restore sn))

theorem restoreView_apply (v : String → Option Record) (sn : StoredNode) (a : String) :
    restoreView v sn a =
      if sn.address ≠ "" ∧ a = sn.address then
        some (((v a).getD ⟨a, .slave, true, "", ""⟩).restore sn)
      else v a := by
  unfold restoreView
  by_cases ha : sn.address = ""
  · simp [ha]
  by_cases hab : a = sn.address
  · subst hab
    simp [ha]
  · simp [ha, hab]

theorem restoreView_apply_of_ne (v : String → Option Record) (sn : StoredNode) {a : String}
    (h : a ≠ sn.address) : restoreView v sn a = v a := by
  rw [restoreView_apply, if_neg fun h' => h h'.2]

theorem restoreView_congr {v w : String → Option Record} (sn : StoredNode) {a : String}
    (h : v a = w a) : restoreView v sn a = restoreView w sn a := by
  rw [restoreView_apply, restoreView_apply, h]

theorem foldl_restoreView_of_not_mem (v : String → Option Record) (nodes : List StoredNode)
    {a : String} (ha : a ∉ nodes.map (·.address)) : nodes.foldl restoreView v a = v a := by
  induction nodes generalizing v with
  | nil => rfl
  | cons sn nodes ih =>
    simp only [List.map_cons, List.mem_cons, not_or] at ha
    rw [List.foldl_cons, ih _ ha.2, restoreView_apply_of_ne _ _ ha.1]

theorem foldl_restoreView_of_mem (v : String → Option Record) {nodes : List StoredNode}
    (hnd : (nodes.map (·.address)).Nodup) {sn : StoredNode} (hsn : sn ∈ nodes) :
    nodes.foldl restoreView v sn.address = restoreView v sn sn.address := by
  induction nodes generalizing v with
  | nil => nomatch hsn
  | cons sn' nodes ih =>
    simp only [List.map_cons, List.nodup_cons] at hnd
    rw [List.foldl_cons]
    rcases List.mem_cons.mp hsn with rfl | hsn
    · exact foldl_restoreView_of_not_mem _ _ hnd.1
    · have hne : sn.address ≠ sn'.address := fun h => hnd.1 (h ▸ List.mem_map_of_mem _ hsn)
      rw [ih _ hnd.2 hsn]
      exact restoreView_congr sn (restoreView_apply_of_ne v sn' hne)

namespace Cluster

variable {c : Cluster}

theorem update_update (p : Ptr) (f g : Record → Record) :
    (c.update p f).update p g = c.update p (g ∘ f) := by
  show (⟨_, _, _⟩ : Cluster) = ⟨_, _, _⟩
  congr 1
  apply List.ext_getElem?
  intro i
  simp only [update, List.getElem?_modify]
  split_ifs <;> simp [Option.map_map, Function.comp_def]

theorem labelWrites_eq (p : Ptr) (sn : StoredNode) :
    (if sn.database ≠ "" then
        (if sn.name ≠ "" then c.update p fun r => { r with name := sn.name } else c).update p
          fun r => { r with database := sn.database }
      else if sn.name ≠ "" then c.update p fun r => { r with name := sn.name } else c) =
      c.update p fun r => { r.restore sn with alive := r.alive } := by
  by_cases hn : sn.name = "" <;> by_cases hd : sn.database = "" <;>
    simp only [hn, hd, ne_eq, not_true_eq_false, not_false_eq_true, if_true, if_false,
      update_update]
  · exact (update_eq_self fun r _ => by simp [hn, hd, Record.restore]).symm
  all_goals congr 1; funext r; simp [hn, hd, Record.restore]

theorem restoreWrites_eq (p : Ptr) (sn : StoredNode) :
    (if sn.database ≠ "" then
        (if sn.name ≠ "" then c.update p fun r => { r with name := sn.name } else c).update p
          fun r => { r with database := sn.database }
      else if sn.name ≠ "" then c.update p fun r => { r with name := sn.name } else c).update p
        (fun r => { r with alive := true }) =
      c.update p (·.restore sn) := by
  rw [labelWrites_eq, update_update]
  rfl

theorem applyStored_eq (hk : Keyed c) {l : Option Ptr}
    (hl : ∀ p, l = some p → ∃ a, c.nodes.lookup a = some p) {sn : StoredNode}
    (ha : sn.address ≠ "") :
    c.applyStored l sn =
      match c.nodes.lookup sn.address with
      | some n => c.update n (·.restore sn)
      | none =>
        ((c.newNode sn.address .slave).2.addNode (c.newNode sn.address .slave).1).update
          (c.newNode sn.address .slave).1 (·.restore sn) := by
  unfold applyStored
  rw [if_neg ha]
  cases l with
  | none =>
    dsimp only
    cases h : c.nodes.lookup sn.address <;> simp only [getNode, h] <;> exact restoreWrites_eq _ _
  | some p =>
    dsimp only
    by_cases hloc : (c.get p).any (·.addr == sn.address) = true
    · obtain ⟨b, hb⟩ := hl p rfl
      obtain ⟨r, hr, hra⟩ := hk.get_of_lookup hb
      have hrb : r.addr = sn.address := by simpa [hr] using hloc
      have hp : c.nodes.lookup sn.address = some p := hrb ▸ hra ▸ hb
      simp only [hloc, if_true, getNode, nodes_update_if, update_nodes, hp]
      rw [restoreWrites_eq, labelWrites_eq, update_update]
      exact congrArg _ (funext fun r => r.restore_restore sn)
    · simp only [hloc, if_false, Bool.false_eq_true]
      cases h : c.nodes.lookup sn.address <;> simp only [getNode, h] <;> exact restoreWrites_eq _ _

theorem Keyed.view_update (hk : Keyed c) {b : String} {n : Ptr} (hn : c.nodes.lookup b = some n)
    (f : Record → Record) : (c.update n f).view = Function.update c.view b ((c.view b).map f) := by
  funext a
  by_cases hab : a = b
  · subst hab
    simp [view, getNode, hn, get_update]
  rw [Function.update_noteq hab]
  cases hq : c.nodes.lookup a with
  | none => simp [view, getNode, hq]
  | some q =>
    have hnq : n ≠ q := fun h => hab (hk.ptr_inj hq (h ▸ hn))
    simp [view, getNode, hq, get_update, hnq]

@[simp] theorem get_addNode (c : Cluster) (n q : Ptr) : (c.addNode n).get q = c.get q := by
  unfold addNode
  split <;> rfl

theorem nodes_addNode_newNode (c : Cluster) (b : String) (role : NodeRole) :
    ((c.newNode b role).2.addNode (c.newNode b role).1).nodes =
      c.nodes.insert b (c.newNode b role).1 := by
  rw [addNode, get_newNode_self]
  rfl

theorem Keyed.view_addNode_newNode (hk : Keyed c) {b : String} (hb : c.nodes.lookup b = none)
    (role : NodeRole) :
    ((c.newNode b role).2.addNode (c.newNode b role).1).view =
      Function.update c.view b (some ⟨b, role, true, "", ""⟩) := by
  funext a
  by_cases hab : a = b
  · subst hab
    simp [view, getNode, lookup_addNode_newNode, get_newNode_self]
  rw [Function.update_noteq hab]
  cases hq : c.nodes.lookup a with
  | none => simp [view, getNode, nodes_addNode_newNode, AList.lookup_insert_ne hab, hq]
  | some q =>
    obtain ⟨r, hr, -⟩ := hk.get_of_lookup hq
    simp [view, getNode, nodes_addNode_newNode, AList.lookup_insert_ne hab, hq,
      get_newNode_of_get hr, hr]

theorem Keyed.view_applyStored (hk : Keyed c) {l : Option Ptr}
    (hl : ∀ p, l = some p → ∃ a, c.nodes.lookup a = some p) (sn : StoredNode) :
    (c.applyStored l sn).view = restoreView c.view sn := by
  by_cases ha : sn.address = ""
  · simp only [Cluster.applyStored, restoreView, ha, if_true]
  rw [applyStored_eq hk hl ha, restoreView, if_neg ha]
  cases h : c.nodes.lookup sn.address with
  | some n =>
    obtain ⟨r, hr, -⟩ := hk.get_of_lookup h
    rw [hk.view_update h]
    simp [view, getNode, h, hr]
  | none =>
    rw [((hk.newNode _ _).addNode _).view_update (lookup_addNode_newNode _),
      hk.view_addNode_newNode h]
    simp [view, getNode, h]

theorem Keyed.view_applyState (hk : Keyed c) {l : Option Ptr}
    (hl : ∀ p, l = some p → ∃ a, c.nodes.lookup a = some p) (nodes : List StoredNode) :
    (c.applyState nodes l).view = nodes.foldl restoreView c.view := by
  induction nodes generalizing c with
  | nil => rfl
  | cons sn nodes ih =>
    have hl' : ∀ p, l = some p → ∃ a, (c.applyStored l sn).nodes.lookup a = some p :=
      fun p hp => let ⟨a, ha⟩ := hl p hp; ⟨a, (applyStored_grows c l sn).nodes a p ha⟩
    rw [List.foldl_cons, ← hk.view_applyStored hl]
    exact ih (hk.applyStored l sn) hl'

theorem Keyed.addr_of_view (hk : Keyed c) {a : String} {r : Record} (h : c.view a = some r) :
    r.addr = a := by
  obtain ⟨p, hp, hr⟩ := Option.bind_eq_some.mp h
  obtain ⟨r', hr', hra⟩ := hk.get_of_lookup hp
  exact Option.some.inj (hr'.symm.trans hr) ▸ hra

theorem Keyed.mem_keys_iff (hk : Keyed c) {a : String} : a ∈ c.nodes.keys ↔ (c.view a).isSome := by
  rw [← AList.mem_keys, ← AList.lookup_isSome]
  cases hp : c.nodes.lookup a with
  | none => simp [view, getNode, hp]
  | some p =>
    obtain ⟨r, hr, -⟩ := hk.get_of_lookup hp
    simp [view, getNode, hp, hr]

theorem Keyed.map_address_saveCluster (hk : Keyed c) :
    c.saveCluster.map (·.address) = sortStrings c.nodes.keys := by
  rw [saveCluster, List.map_filterMap]
  conv_rhs => rw [← List.filterMap_some (sortStrings c.nodes.keys)]
  refine List.filterMap_congr fun a ha => ?_
  obtain ⟨r, hr⟩ := Option.isSome_iff_exists.mp
    (hk.mem_keys_iff.mp ((sortStrings_perm _).mem_iff.mp ha))
  show ((c.view a).map _).map _ = _
  rw [hr]
  exact congrArg some (hk.addr_of_view hr)

theorem Keyed.nodup_saveCluster (hk : Keyed c) : (c.saveCluster.map (·.address)).Nodup :=
  hk.map_address_saveCluster ▸ (sortStrings_perm _).nodup_iff.mpr c.nodes.keys_nodup

theorem Keyed.mem_saveCluster (hk : Keyed c) {a : String} {r : Record} (h : c.view a = some r) :
    (⟨a, r.name, r.database⟩ : StoredNode) ∈ c.saveCluster := by
  refine List.mem_filterMap.mpr
    ⟨a, (sortStrings_perm _).mem_iff.mpr (hk.mem_keys_iff.mpr (by simp [h])), ?_⟩
  show (c.view a).map _ = _
  simp [h, hk.addr_of_view h]

theorem Keyed.view_applyState_saveCluster (hk : Keyed c) {c₀ : Cluster} (hk₀ : Keyed c₀)
    {l : Option Ptr} (hl : ∀ p, l = some p → ∃ a, c₀.nodes.lookup a = some p) (a : String) :
    (c₀.applyState c.saveCluster l).view a =
      match c.view a with
      | some r => restoreView c₀.view ⟨a, r.name, r.database⟩ a
      | none => c₀.view a := by
  rw [hk₀.view_applyState hl]
  cases h : c.view a with
  | some r => exact foldl_restoreView_of_mem _ hk.nodup_saveCluster (hk.mem_saveCluster h)
  | none =>
    refine foldl_restoreView_of_not_mem _ _ ?_
    rw [hk.map_address_saveCluster, (sortStrings_perm _).mem_iff, hk.mem_keys_iff, h]
    exact Bool.false_ne_true

end Cluster

open Cluster

theorem applyState_refines_restoreView (os : List Op) {l : Option Ptr}
    (hl : ∀ p, l = some p → ∃ a, (run newCluster os).nodes.lookup a = some p)
    (nodes : List StoredNode) :
    ((run newCluster os).applyState nodes l).view =
      nodes.foldl restoreView (run newCluster os).view :=
  (Keyed.init.run os).view_applyState hl nodes

theorem applyState_refines_restoreView_joinBA :
    (∀ p, some 0 = some p → ∃ a, (run newCluster joinBA).nodes.lookup a = some p) ∧
      ((run newCluster joinBA).applyState [⟨"b", "beta", "db"⟩, ⟨"c", "", ""⟩] (some 0)).view =
        [⟨"b", "beta", "db"⟩, ⟨"c", "", ""⟩].foldl restoreView (run newCluster joinBA).view :=
  have hl : ∀ p, some 0 = some p → ∃ a, (run newCluster joinBA).nodes.lookup a = some p :=
    fun p hp => ⟨"b", Option.some.inj hp ▸ by decide⟩
  ⟨hl, applyState_refines_restoreView joinBA hl _⟩

/-- The persisted-state round trip, from a reachable table to a reachable start-up table whose
local node, if any, is a member: `ApplyState` of the snapshot `SaveCluster` took gives every
member of the saved table the merge of its own saved name and label, and leaves every other
address of the start-up table as it was. -/
theorem saveCluster_applyState_roundtrip (os os₀ : List Op) {l : Option Ptr}
    (hl : ∀ p, l = some p → ∃ a, (run newCluster os₀).nodes.lookup a = some p) (a : String) :
    ((run newCluster os₀).applyState (run newCluster os).saveCluster l).view a =
      match (run newCluster os).view a with
      | some r => restoreView (run newCluster os₀).view ⟨a, r.name, r.database⟩ a
      | none => (run newCluster os₀).view a :=
  (Keyed.init.run os).view_applyState_saveCluster (Keyed.init.run os₀) hl a

def restartB : List Op := [.addNode "b" "" ""]

theorem saveCluster_applyState_roundtrip_restartB :
    (∀ p, some 0 = some p → ∃ a, (run newCluster restartB).nodes.lookup a = some p) ∧
      ((run newCluster restartB).applyState (run newCluster joinBA).saveCluster (some 0)).view "a" =
        match (run newCluster joinBA).view "a" with
        | some r => restoreView (run newCluster restartB).view ⟨"a", r.name, r.database⟩ "a"
        | none => (run newCluster restartB).view "a" :=
  have hl : ∀ p, some 0 = some p → ∃ a, (run newCluster restartB).nodes.lookup a = some p :=
    fun p hp => ⟨"b", Option.some.inj hp ▸ by decide⟩
  ⟨hl, saveCluster_applyState_roundtrip joinBA restartB hl "a"⟩

end TwoPc.Membership
