import TwoPcEngine.Cluster.Elect

/-! What `ApplyState` restores at start-up. It loses no member and no alive record, and every
persisted node with an address is an alive member afterwards. -/

namespace TwoPc.Membership

namespace Cluster

@[simp] theorem nodes_update_if (c : Cluster) (s : String) (p : Ptr) (f : Record → Record) :
    (if s ≠ "" then c.update p f else c).nodes = c.nodes := by
  split <;> rfl

@[simp] theorem get_isSome_update (c : Cluster) (p q : Ptr) (f : Record → Record) :
    ((c.update p f).get q).isSome = (c.get q).isSome := by
  rw [get_update]
  split <;> simp

@[simp] theorem get_isSome_update_if (c : Cluster) (s : String) (p q : Ptr) (f : Record → Record) :
    ((if s ≠ "" then c.update p f else c).get q).isSome = (c.get q).isSome := by
  split <;> simp

theorem get_newNode_self (c : Cluster) (a : String) (role : NodeRole) :
    (c.newNode a role).2.get (c.newNode a role).1 = some ⟨a, role, true, "", ""⟩ :=
  List.getElem?_concat_length ..

theorem lookup_addNode_newNode {c : Cluster} {a : String} (role : NodeRole) :
    ((c.newNode a role).2.addNode (c.newNode a role).1).nodes.lookup a =
      some (c.newNode a role).1 := by
  simp [addNode, get_newNode_self]

theorem mem_aliveAddrs_update_alive {c : Cluster} {a : String} {n : Ptr}
    (hn : c.nodes.lookup a = some n) (hs : (c.get n).isSome) :
    a ∈ (c.update n fun r => { r with alive := true }).aliveAddrs := by
  obtain ⟨r, hr⟩ := Option.isSome_iff_exists.mp hs
  exact mem_aliveAddrs.mpr ⟨n, hn, by simp [get_update, hr]⟩

/-- `c'` keeps every member of `c` under the same record, and every alive record alive. -/
structure Grows (c c' : Cluster) : Prop where
  nodes : ∀ k p, c.nodes.lookup k = some p → c'.nodes.lookup k = some p
  alive : ∀ p, (c.get p).any (·.alive) → (c'.get p).any (·.alive)

namespace Grows

variable {c c' c'' : Cluster}

theorem refl (c : Cluster) : Grows c c := ⟨fun _ _ h => h, fun _ h => h⟩

theorem trans (h : Grows c c') (h' : Grows c' c'') : Grows c c'' :=
  ⟨fun k p hk => h'.nodes k p (h.nodes k p hk), fun p hp => h'.alive p (h.alive p hp)⟩

theorem update (h : Grows c c') (p : Ptr) {f : Record → Record} (hf : ∀ r, r.alive → (f r).alive) :
    Grows c (c'.update p f) :=
  h.trans ⟨fun _ _ hk => hk, fun q hq => by
    rw [get_update]
    split
    · cases hx : c'.get q with
      | none => simp [hx] at hq
      | some r => simpa [hx] using hf r (by simpa [hx] using hq)
    · exact hq⟩

theorem update_if (h : Grows c c') (s : String) (p : Ptr) {f : Record → Record}
    (hf : ∀ r, r.alive → (f r).alive) : Grows c (if s ≠ "" then c'.update p f else c') := by
  split
  exacts [h.update p hf, h]

theorem newNode (h : Grows c c') (a : String) (role : NodeRole) : Grows c (c'.newNode a role).2 :=
  h.trans ⟨fun _ _ hk => hk, fun q hq => by
    cases hx : c'.get q with
    | none => simp [hx] at hq
    | some r => rwa [get_newNode_of_get hx, ← hx]⟩

theorem addNode_newNode (h : Grows c c') {a : String} (ha : c'.nodes.lookup a = none)
    (role : NodeRole) : Grows c ((c'.newNode a role).2.addNode (c'.newNode a role).1) :=
  (h.newNode a role).trans ⟨fun k p hk => by
    have hka : k ≠ a := by rintro rfl; simp [Cluster.newNode, ha] at hk
    simpa [addNode, get_newNode_self, AList.lookup_insert_ne hka] using hk,
    fun q hq => by simpa [addNode, get_newNode_self] using hq⟩

theorem aliveAddrs (h : Grows c c') {a : String} (ha : a ∈ c.aliveAddrs) : a ∈ c'.aliveAddrs :=
  let ⟨p, hp, hl⟩ := mem_aliveAddrs.mp ha
  mem_aliveAddrs.mpr ⟨p, h.nodes a p hp, h.alive p hl⟩

end Grows

theorem applyStored_grows (c : Cluster) (l : Option Ptr) (sn : StoredNode) :
    Grows c (c.applyStored l sn) := by
  unfold Cluster.applyStored
  by_cases ha : sn.address = ""
  · rw [if_pos ha]
    exact Grows.refl c
  rw [if_neg ha]
  dsimp only
  refine ((Grows.update_if (Grows.update_if ?_ _ _ fun _ h => by exact h) _ _
    fun _ h => by exact h).update _ fun _ _ => by rfl)
  split
  on_goal 2 => refine Grows.addNode_newNode ?_ (by assumption) _
  all_goals
    cases l with
    | none => exact Grows.refl c
    | some l =>
      dsimp only
      split
      exacts [((Grows.refl c).update_if _ _ fun _ h => by exact h).update_if _ _
        fun _ h => by exact h, Grows.refl c]

theorem Keyed.get_isSome {c : Cluster} (hk : Keyed c) {a : String} {n : Ptr}
    (hn : c.nodes.lookup a = some n) : (c.get n).isSome := by
  obtain ⟨r, hr, -⟩ := hk.get_of_lookup hn
  simp [hr]

theorem applyStored_restores {c : Cluster} (hk : Keyed c) (l : Option Ptr) {sn : StoredNode}
    (ha : sn.address ≠ "") : sn.address ∈ (c.applyStored l sn).aliveAddrs := by
  unfold Cluster.applyStored
  rw [if_neg ha]
  dsimp only
  refine mem_aliveAddrs_update_alive ?_ ?_ <;>
    simp only [nodes_update_if, update_nodes, get_isSome_update_if, get_isSome_update] <;> split
  next _ n hn => exact hn
  next => exact lookup_addNode_newNode _
  next _ n hn =>
    cases l with
    | none => exact hk.get_isSome hn
    | some l =>
      dsimp only at hn ⊢
      by_cases hloc : (c.get l).any (·.addr == sn.address) = true
      · simp only [hloc, if_true] at hn ⊢
        exact ((hk.update_if _ _ fun _ => by rfl).update_if _ _ fun _ => by rfl).get_isSome hn
      · simp only [hloc, if_false] at hn ⊢
        exact hk.get_isSome hn
  next => simp [addNode, get_newNode_self]

theorem applyState_grows (c : Cluster) (nodes : List StoredNode) (l : Option Ptr) :
    Grows c (c.applyState nodes l) := by
  induction nodes generalizing c with
  | nil => exact Grows.refl c
  | cons sn nodes ih => exact (applyStored_grows c l sn).trans (ih _)

theorem Keyed.applyState_restores {c : Cluster} (hk : Keyed c) (nodes : List StoredNode)
    (l : Option Ptr) :
    ∀ sn ∈ nodes, sn.address ≠ "" → sn.address ∈ (c.applyState nodes l).aliveAddrs := by
  induction nodes generalizing c with
  | nil => nofun
  | cons sn nodes ih =>
    intro sn' hsn' ha
    rcases List.mem_cons.mp hsn' with rfl | hsn'
    · exact (applyState_grows _ nodes l).aliveAddrs (applyStored_restores hk l ha)
    · exact ih (hk.applyStored l sn) sn' hsn' ha

end Cluster

open Cluster

/-- `ApplyState` on any reachable table loses no member and no alive record, and leaves every
persisted node with a non-empty address an alive member. -/
theorem applyState_restores_persisted (os : List Op) (nodes : List StoredNode) (l : Option Ptr) :
    Grows (run newCluster os) ((run newCluster os).applyState nodes l) ∧
      ∀ sn ∈ nodes, sn.address ≠ "" →
        sn.address ∈ ((run newCluster os).applyState nodes l).aliveAddrs :=
  ⟨applyState_grows _ nodes l, (Keyed.init.run os).applyState_restores nodes l⟩

end TwoPc.Membership
