import TwoPcEngine.Cluster.Interleaved

/-! The writes of a running process, from start-up on: the handlers, the heartbeat's checks and
`CheckAndElect` raced by them. Along every run of them no two members read `MASTER`. -/

namespace TwoPc.Membership

open Cluster

/-- A write to a running process's table: an operation, or a `CheckAndElect` with checks landing
during it. -/
inductive Event
  | op (o : Op)
  | checkAndElectRacing (during₁ during₂ : List (String × Bool))

def Event.apply (c : Cluster) : Event → Cluster
  | .op o => step c o
  | .checkAndElectRacing during₁ during₂ => (c.checkAndElectRacing during₁ during₂).2

def runEvents : Cluster → List Event → Cluster
  | c, [] => c
  | c, e :: es => runEvents (e.apply c) es

/-- The writes of a running process: the handlers' operations, the heartbeat's checks and
`CheckAndElect`, raced or not, with no add-node or join request for the master's own address. -/
def Event.Live (c : Cluster) : Event → Prop
  | .op (.addNode addr _ _) => c.master = none ∨ c.nodes.lookup addr ≠ c.master
  | .op (.removeNode _) | .op (.setNodeName _ _) | .op (.setAlive _ _) | .op .checkAndElect => True
  | .op _ => False
  | .checkAndElectRacing _ _ => True

instance (c : Cluster) : DecidablePred (Event.Live c)
  | .op (.addNode addr _ _) =>
    inferInstanceAs (Decidable (c.master = none ∨ c.nodes.lookup addr ≠ c.master))
  | .op (.removeNode _) | .op (.setNodeName _ _) | .op (.setAlive _ _) | .op .checkAndElect
  | .checkAndElectRacing _ _ => isTrue trivial
  | .op (.setMaster _) | .op .evictMaster | .op .electMaster | .op (.applyState _ _) => isFalse id

def LiveRun : Cluster → List Event → Prop
  | _, [] => True
  | c, e :: es => e.Live c ∧ LiveRun (e.apply c) es

instance decidableLiveRun : ∀ (c : Cluster) (es : List Event), Decidable (LiveRun c es)
  | _, [] => isTrue trivial
  | c, e :: es =>
    haveI := decidableLiveRun (e.apply c) es
    inferInstanceAs (Decidable (e.Live c ∧ LiveRun (e.apply c) es))

/-- The membership invariant, or the invariant but for a master pointer a raced election cleared. -/
def MembershipInvOrCleared (c : Cluster) : Prop := MembershipInv c ∨ ∃ m, MasterCleared c m

variable {c : Cluster} {m : Ptr}

namespace MasterCleared

theorem relabel {c' : Cluster} (h : MasterCleared c m) (hr : Relabel c c') : MasterCleared c' m :=
  ⟨hr.master ▸ h.1, h.2.relabel ⟨hr.nodes, rfl, hr.get⟩⟩

theorem checkAndElectRacing (h : MasterCleared c m) (hk : Keyed c)
    (during₁ during₂ : List (String × Bool)) :
    MembershipInvOrCleared (c.checkAndElectRacing during₁ during₂).2 := by
  have h₁ := relabel_landChecks c during₁
  have h₂ := relabel_landChecks (c.landChecks during₁) during₂
  have hc₂ := (h.relabel h₁).relabel h₂
  rcases checkAndElectRacing_cases c during₁ during₂ with he | ⟨m', hm, he⟩ | he | ⟨m', hm, he⟩
  · exact .inr ⟨m, he ▸ hc₂⟩
  · exact absurd (hm.symm.trans (h₁.master.trans h.1)) (Option.some_ne_none m')
  · rw [he]
    by_cases hl : ((c.landChecks during₁).landChecks during₂).lowestAliveAddrLocked = ""
    · simp only [electMasterLocked, if_pos hl]
      exact .inr ⟨m, by rw [← hc₂.1]; exact hc₂⟩
    · exact .inl ((h₂.keyed (h₁.keyed hk)).membershipInv_electMaster hl)
  · exact absurd (hm.symm.trans (h₁.master.trans h.1)) (Option.some_ne_none m')

theorem handleAddNode (h : MasterCleared c m) (hk : Keyed c) (addr name database : String) :
    MembershipInvOrCleared (c.handleAddNode addr name database) := by
  have hkm : Keyed { c with master := some m } := hk.of_eq rfl rfl
  by_cases ha : c.nodes.lookup addr = some m
  · refine .inl (.of_roles (hk.handleAddNode addr name database) (fun k p hp => ?_)
      fun p hp => by simp [h.1] at hp)
    rw [handleAddNode_master, h.1, get_handleAddNode]
    rw [handleAddNode_nodes] at hp
    by_cases hka : k = addr
    · subst hka
      rw [AList.lookup_insert] at hp
      simp [← Option.some.inj hp, newNode]
    · rw [AList.lookup_insert_ne hka] at hp
      have hpm : p ≠ m := fun hpm => hka (hk.ptr_inj hp (hpm ▸ ha))
      have hroles : (c.get p).map (·.role) = some (if some m = some p then .master else .slave) :=
        h.2.roles hkm hp
      obtain ⟨r, hr, -⟩ := hk.get_of_lookup hp
      rw [if_neg (List.getElem?_eq_some_iff.mp hr).1.ne, hr]
      rw [hr] at hroles
      simpa [hpm.symm] using hroles
  · have hcm := h.2.handleAddNode hkm name database fun p hp => by
      obtain rfl := Option.some.inj hp
      exact ha
    refine .inr ⟨m, by simp [h.1], hcm.relabel ⟨?_, ?_, fun q => ?_⟩⟩
    · show (c.handleAddNode addr name database).nodes = _
      rw [handleAddNode_nodes, handleAddNode_nodes]
      rfl
    · exact (handleAddNode_master { c with master := some m } addr name database).symm
    · show ((c.handleAddNode addr name database).get q).map _ = _
      rw [get_handleAddNode, get_handleAddNode]
      rfl

theorem removeNode (h : MasterCleared c m) (hk : Keyed c) (addr : String) :
    MembershipInvOrCleared (c.removeNode addr) := by
  have hr := h.2.removeNode (hk.of_eq rfl rfl) addr
  unfold Cluster.removeNode at hr ⊢
  cases hn : c.nodes.lookup addr with
  | none => exact .inr ⟨m, h⟩
  | some n =>
    simp only [hn, h.1] at hr ⊢
    by_cases hmn : m = n
    · exact .inl (by simpa [hmn] using hr)
    · exact .inr ⟨m, rfl, by simpa [hmn] using hr⟩

end MasterCleared

theorem MembershipInvOrCleared.apply (hw : MembershipInvOrCleared c) (hk : Keyed c) :
    ∀ {e : Event}, e.Live c → MembershipInvOrCleared (e.apply c)
  | .checkAndElectRacing during₁ during₂, _ =>
    hw.elim (fun hm => (hm.checkAndElectRacing hk during₁ during₂).imp_right
      fun ⟨m, _, h⟩ => ⟨m, h⟩) fun ⟨_, h⟩ => h.checkAndElectRacing hk during₁ during₂
  | .op o, hl => by
    rcases hw with hm | ⟨m, h⟩
    · refine .inl (hm.step hk ?_)
      cases o <;> first | exact hl | trivial
    · cases o with
      | addNode addr name database => exact h.handleAddNode hk addr name database
      | removeNode addr => exact h.removeNode hk addr
      | setNodeName addr name =>
        refine .inr ⟨m, h.relabel ?_⟩
        dsimp only [Event.apply, step, setNodeName]
        split
        exacts [relabel_update _ _ fun _ => ⟨rfl, rfl⟩, .refl c]
      | setAlive addr x => exact .inr ⟨m, h.relabel (relabel_checkNode c addr x)⟩
      | checkAndElect =>
        show MembershipInvOrCleared c.checkAndElect.2
        rw [← checkAndElectRacing_nil]
        exact h.checkAndElectRacing hk [] []
      | _ => exact absurd hl id

theorem Cluster.Keyed.apply (hk : Keyed c) : ∀ e : Event, Keyed (e.apply c)
  | .op o => hk.step o
  | .checkAndElectRacing during₁ during₂ => hk.checkAndElectRacing during₁ during₂

theorem MembershipInvOrCleared.run (hw : MembershipInvOrCleared c) (hk : Keyed c) {es : List Event}
    (hl : LiveRun c es) : MembershipInvOrCleared (runEvents c es) := by
  induction es generalizing c with
  | nil => exact hw
  | cons e es ih => exact ih (hw.apply hk hl.1) (hk.apply e) hl.2

theorem MembershipInvOrCleared.master_unique (hw : MembershipInvOrCleared c) (hk : Keyed c)
    {a b : String} {p q : Ptr} (hp : c.nodes.lookup a = some p) (hq : c.nodes.lookup b = some q)
    (hpm : (c.get p).map (·.role) = some .master) (hqm : (c.get q).map (·.role) = some .master) :
    a = b := by
  obtain ⟨r, hr, -⟩ := hk.get_of_lookup hp
  obtain ⟨s, hs, -⟩ := hk.get_of_lookup hq
  rw [hr] at hpm
  rw [hs] at hqm
  have hrm := Option.some.inj hpm
  have hsm := Option.some.inj hqm
  have hpq : p = q := by
    rcases hw with hm | ⟨m, -, hm⟩ <;>
      exact Option.some.inj ((hm.onlyMaster a p r hp hr hrm).symm.trans (hm.onlyMaster b q s hq hs hsm))
  exact hk.ptr_inj hp (hpq ▸ hq)

theorem Cluster.Keyed.runEvents (hk : Keyed c) (es : List Event) : Keyed (runEvents c es) := by
  induction es generalizing c with
  | nil => exact hk
  | cons e es ih => exact ih (hk.apply e)

theorem single_master_after_startup (addr name database : String) (role : NodeRole) (nodes : String)
    (persisted : List StoredNode) (healthy : String → Bool) (before during₁ during₂ after : List String)
    (ha : addr ≠ "")
    (hround : (before ++ during₁ ++ during₂ ++ after).Perm
      (startTable addr name database role nodes persisted).2.nodeAddrs)
    (hup : ∃ a, healthy a = true ∧
      ((startTable addr name database role nodes persisted).2.nodes.lookup a).isSome)
    (es : List Event)
    (hl : LiveRun (startupRound addr name database role nodes persisted healthy before during₁ during₂
      after) es) :
    MembershipInvOrCleared (runEvents (startupRound addr name database role nodes persisted healthy
        before during₁ during₂ after) es) ∧
      ∀ a b p q, (runEvents (startupRound addr name database role nodes persisted healthy before
          during₁ during₂ after) es).nodes.lookup a = some p →
        (runEvents (startupRound addr name database role nodes persisted healthy before during₁
          during₂ after) es).nodes.lookup b = some q →
        ((runEvents (startupRound addr name database role nodes persisted healthy before during₁
          during₂ after) es).get p).map (·.role) = some .master →
        ((runEvents (startupRound addr name database role nodes persisted healthy before during₁
          during₂ after) es).get q).map (·.role) = some .master → a = b := by
  have hk := startupRound_keyed ha name database role nodes persisted healthy before during₁ during₂ after
  have hw := (MembershipInvOrCleared.run (.inl (hk.membershipInv_of_settled (startupRound_settled addr
    name database role nodes persisted healthy before during₁ during₂ after ha hround hup))) hk hl)
  exact ⟨hw, fun a b p q hp hq hpm hqm => hw.master_unique (hk.runEvents es) hp hq hpm hqm⟩

def liveAfterStartup : List Event :=
  [.op (.addNode "0" "" ""), .checkAndElectRacing [] [("0", false), ("a", false), ("b", false),
    ("c", false), ("d", false)], .op (.setAlive "c" true), .op .checkAndElect]

theorem single_master_after_startup_masterB :
    "b" ≠ "" ∧
      (["a"] ++ ["b"] ++ ["c"] ++ ["d"]).Perm
        (startTable "b" "" "" .master "a, b ,c" [⟨"d", "delta", ""⟩]).2.nodeAddrs ∧
      (∃ a, (a == "c") = true ∧
        ((startTable "b" "" "" .master "a, b ,c" [⟨"d", "delta", ""⟩]).2.nodes.lookup a).isSome) ∧
      LiveRun (startupRound "b" "" "" .master "a, b ,c" [⟨"d", "delta", ""⟩] (· == "c")
        ["a"] ["b"] ["c"] ["d"]) liveAfterStartup ∧
      (MembershipInvOrCleared (runEvents (startupRound "b" "" "" .master "a, b ,c"
          [⟨"d", "delta", ""⟩] (· == "c") ["a"] ["b"] ["c"] ["d"]) liveAfterStartup) ∧
        ∀ a b p q, (runEvents (startupRound "b" "" "" .master "a, b ,c" [⟨"d", "delta", ""⟩]
            (· == "c") ["a"] ["b"] ["c"] ["d"]) liveAfterStartup).nodes.lookup a = some p →
          (runEvents (startupRound "b" "" "" .master "a, b ,c" [⟨"d", "delta", ""⟩]
            (· == "c") ["a"] ["b"] ["c"] ["d"]) liveAfterStartup).nodes.lookup b = some q →
          ((runEvents (startupRound "b" "" "" .master "a, b ,c" [⟨"d", "delta", ""⟩]
            (· == "c") ["a"] ["b"] ["c"] ["d"]) liveAfterStartup).get p).map (·.role) = some .master →
          ((runEvents (startupRound "b" "" "" .master "a, b ,c" [⟨"d", "delta", ""⟩]
            (· == "c") ["a"] ["b"] ["c"] ["d"]) liveAfterStartup).get q).map (·.role) = some .master →
          a = b) :=
  ⟨by decide, by decide, ⟨"c", rfl, by decide⟩, by decide,
    single_master_after_startup "b" "" "" .master "a, b ,c" [⟨"d", "delta", ""⟩] (· == "c")
      ["a"] ["b"] ["c"] ["d"] (by decide) (by decide) ⟨"c", rfl, by decide⟩ liveAfterStartup
      (by decide)⟩

example : (runEvents (startupRound "b" "" "" .master "a, b ,c" [⟨"d", "delta", ""⟩] (· == "c")
      ["a"] ["b"] ["c"] ["d"]) (liveAfterStartup.take 2)).master = none ∧
    ((runEvents (startupRound "b" "" "" .master "a, b ,c" [⟨"d", "delta", ""⟩] (· == "c")
      ["a"] ["b"] ["c"] ["d"]) (liveAfterStartup.take 2)).get 2).map (·.role) = some .master := by
  decide

/-! ### From start-up on -/

def NoNewMaster (c c' : Cluster) : Prop :=
  ∀ a p, c'.nodes.lookup a = some p → (c'.get p).map (·.role) = some .master →
    c.nodes.lookup a = some p ∧ (c.get p).map (·.role) = some .master

namespace NoNewMaster

variable {c' c'' : Cluster}

theorem refl (c : Cluster) : NoNewMaster c c := fun _ _ h h' => ⟨h, h'⟩

theorem trans (h : NoNewMaster c c') (h' : NoNewMaster c' c'') : NoNewMaster c c'' :=
  fun a p hp hm => let ⟨hp', hm'⟩ := h' a p hp hm; h a p hp' hm'

theorem of_relabel (h : Relabel c c') : NoNewMaster c c' := fun a p hp hm => by
  have hr : (c'.get p).map (·.role) = (c.get p).map (·.role) := by
    simpa [Option.map_map, Function.comp_def] using congrArg (Option.map Prod.snd) (h.get p)
  exact ⟨h.nodes ▸ hp, hr ▸ hm⟩

theorem fresh (c : Cluster) (a : String) {c' : Cluster}
    (hnodes : c'.nodes = c.nodes.insert a (c.newNode a .slave).1)
    (hget : ∀ q, (c'.get q).map (·.role) =
      if q = c.heap.length then some .slave else (c.get q).map (·.role)) :
    NoNewMaster c c' := fun b p hp hm => by
  rw [hget] at hm
  split_ifs at hm with hpn
  · cases hm
  · refine ⟨?_, hm⟩
    rw [hnodes] at hp
    by_cases hb : b = a
    · subst hb; rw [AList.lookup_insert] at hp; exact absurd (Option.some.inj hp).symm hpn
    · rwa [AList.lookup_insert_ne hb] at hp

theorem handleAddNode (c : Cluster) (addr name database : String) :
    NoNewMaster c (c.handleAddNode addr name database) :=
  fresh c addr (handleAddNode_nodes c addr name database) fun q => by
    rw [get_handleAddNode]; split_ifs <;> rfl

theorem removeNode (c : Cluster) (addr : String) : NoNewMaster c (c.removeNode addr) := by
  unfold Cluster.removeNode
  split
  · refine fun a p hp hm => ⟨?_, hm⟩
    by_cases ha : a = addr
    · subst ha; simp at hp
    · rwa [AList.lookup_erase_ne ha] at hp
  · exact refl c

theorem applyStored (hk : Keyed c) {l : Option Ptr}
    (hl : ∀ p, l = some p → ∃ a, c.nodes.lookup a = some p) (sn : StoredNode) :
    NoNewMaster c (c.applyStored l sn) := by
  by_cases ha : sn.address = ""
  · simp only [Cluster.applyStored, if_pos ha]; exact refl c
  rw [applyStored_eq hk hl ha]
  split
  · exact of_relabel (relabel_update _ _ fun _ => ⟨rfl, rfl⟩)
  · refine (fresh c sn.address (nodes_addNode_newNode c sn.address .slave) fun q => ?_).trans
      (of_relabel (relabel_update _ _ fun _ => ⟨rfl, rfl⟩))
    rw [get_addNode, get_newNode]
    split_ifs <;> rfl

theorem applyState (hk : Keyed c) {l : Option Ptr}
    (hl : ∀ p, l = some p → ∃ a, c.nodes.lookup a = some p) (nodes : List StoredNode) :
    NoNewMaster c (c.applyState nodes l) := by
  induction nodes generalizing c with
  | nil => exact refl c
  | cons sn nodes ih =>
    exact (applyStored hk hl sn).trans (ih (hk.applyStored l sn)
      fun p hp => let ⟨a, ha⟩ := hl p hp; ⟨a, (applyStored_grows c l sn).nodes a p ha⟩)

end NoNewMaster

def OnlyMaster (c : Cluster) (l : Ptr) : Prop :=
  ∀ a p, c.nodes.lookup a = some p → (c.get p).map (·.role) = some .master → p = l

theorem OnlyMaster.of_noNewMaster {c c' : Cluster} {l : Ptr} (h : OnlyMaster c l)
    (h' : NoNewMaster c c') : OnlyMaster c' l :=
  fun a p hp hm => let ⟨hp', hm'⟩ := h' a p hp hm; h a p hp' hm'

theorem onlyMaster_startTable (addr name database : String) (role : NodeRole) (nodes : String)
    (persisted : List StoredNode) (ha : addr ≠ "") :
    OnlyMaster (startTable addr name database role nodes persisted).2
      (startTable addr name database role nodes persisted).1 := by
  have h := localTable_spec ha name database role
  have hloc : OnlyMaster (localTable addr name database role).2 (localTable addr name database role).1 :=
    fun a p hp _ => by
      by_cases hs : a = addr
      · subst hs; exact Option.some.inj (hp.symm.trans h.2)
      · by_cases hn : name = "" <;>
          simp [localTable, addNode, Cluster.get, Cluster.update, Cluster.newNode, newCluster, hn,
            AList.lookup_insert_ne hs] at hp <;>
          rw [← AList.insert_empty, AList.lookup_insert_ne hs] at hp <;> simp at hp
  have hseeds : ∀ (seeds : List String) (c : Cluster), NoNewMaster c (seeds.foldl (addSeed addr) c) := by
    intro seeds
    induction seeds with
    | nil => exact NoNewMaster.refl
    | cons a seeds ih =>
      intro c
      refine NoNewMaster.trans ?_ (ih _)
      unfold addSeed
      split_ifs
      exacts [NoNewMaster.refl c, NoNewMaster.handleAddNode c a "" ""]
  exact (hloc.of_noNewMaster (hseeds _ _)).of_noNewMaster (NoNewMaster.applyState
    (unelected_foldl_addSeed addr h.1 _).keyed (fun p hp => ⟨addr, by rw [lookup_foldl_addSeed, h.2, hp]⟩)
    persisted)

/-- Before the first election: no master pointer, and only the local record `l` may read
`MASTER`, as `cmd/master` creates it. -/
structure PreElection (c : Cluster) (l : Ptr) : Prop where
  keyed : Keyed c
  master : c.master = none
  only : OnlyMaster c l

def StartupInv (c : Cluster) (l : Ptr) : Prop := MembershipInvOrCleared c ∨ PreElection c l

namespace PreElection

variable {l : Ptr}

theorem relabel {c' : Cluster} (h : PreElection c l) (hr : Relabel c c') : PreElection c' l :=
  ⟨hr.keyed h.keyed, hr.master ▸ h.master, h.only.of_noNewMaster (.of_relabel hr)⟩

theorem checkAndElectRacing (h : PreElection c l) (during₁ during₂ : List (String × Bool)) :
    StartupInv (c.checkAndElectRacing during₁ during₂).2 l := by
  have h₁ := relabel_landChecks c during₁
  have h₂ := (h.relabel h₁).relabel (relabel_landChecks _ during₂)
  rcases checkAndElectRacing_cases c during₁ during₂ with he | ⟨m, hm, he⟩ | he | ⟨m, hm, he⟩
  · exact .inr (he ▸ h₂)
  · exact absurd (hm.symm.trans (h₁.master.trans h.master)) (Option.some_ne_none m)
  · rw [he]
    by_cases hl : ((c.landChecks during₁).landChecks during₂).lowestAliveAddrLocked = ""
    · simp only [electMasterLocked, if_pos hl]
      exact .inr ⟨h₂.keyed.of_eq rfl rfl, rfl, h₂.only⟩
    · exact .inl (.inl (h₂.keyed.membershipInv_electMaster hl))
  · exact absurd (hm.symm.trans (h₁.master.trans h.master)) (Option.some_ne_none m)

theorem apply (h : PreElection c l) : ∀ {e : Event}, e.Live c → StartupInv (e.apply c) l
  | .checkAndElectRacing during₁ during₂, _ => h.checkAndElectRacing during₁ during₂
  | .op o, hl => by
    cases o with
    | addNode addr name database =>
      exact .inr ⟨h.keyed.handleAddNode addr name database, by simp [Event.apply, step, h.master],
        h.only.of_noNewMaster (.handleAddNode c addr name database)⟩
    | removeNode addr =>
      refine .inr ⟨h.keyed.removeNode addr, ?_, h.only.of_noNewMaster (.removeNode c addr)⟩
      show (c.removeNode addr).master = none
      unfold Cluster.removeNode
      split <;> simp [h.master]
    | setNodeName addr name =>
      refine .inr (h.relabel ?_)
      dsimp only [Event.apply, step, setNodeName]
      split
      exacts [relabel_update _ _ fun _ => ⟨rfl, rfl⟩, .refl c]
    | setAlive addr x => exact .inr (h.relabel (relabel_checkNode c addr x))
    | checkAndElect =>
      show StartupInv c.checkAndElect.2 l
      rw [← checkAndElectRacing_nil]
      exact h.checkAndElectRacing [] []
    | _ => exact absurd hl id

end PreElection

namespace StartupInv

variable {l : Ptr}

theorem run (h : StartupInv c l) (hk : Keyed c) {es : List Event} (hl : LiveRun c es) :
    StartupInv (runEvents c es) l := by
  induction es generalizing c with
  | nil => exact h
  | cons e es ih =>
    exact ih (h.elim (fun hw => .inl (hw.apply hk hl.1)) fun hp => hp.apply hl.1) (hk.apply e) hl.2

theorem master_unique (h : StartupInv c l) (hk : Keyed c) {a b : String} {p q : Ptr}
    (hp : c.nodes.lookup a = some p) (hq : c.nodes.lookup b = some q)
    (hpm : (c.get p).map (·.role) = some .master) (hqm : (c.get q).map (·.role) = some .master) :
    a = b := by
  rcases h with hw | hpre
  · exact hw.master_unique hk hp hq hpm hqm
  · exact hk.ptr_inj hp ((hpre.only a p hp hpm).trans (hpre.only b q hq hqm).symm ▸ hq)

theorem membershipInv (h : StartupInv c l) {p : Ptr} (hp : c.master = some p) : MembershipInv c := by
  rcases h with (hm | ⟨m, hc⟩) | hpre
  · exact hm
  · simp [hc.1] at hp
  · simp [hpre.master] at hp

end StartupInv

/-- A process's table over its whole life, from the table `main` builds on: whatever the order in
which the first heartbeat round's checks land before, during and after `main`'s `CheckAndElect`,
and the requests the server takes as soon as it starts land while that round's checks are in
flight and before its own `CheckAndElect`, and whatever the process writes after. At no time do two
members read `MASTER`, and whenever the master pointer is set the membership invariant holds. -/
theorem single_master_from_startup (addr name database : String) (role : NodeRole) (nodes : String)
    (persisted : List StoredNode) (ha : addr ≠ "") (es : List Event)
    (hl : LiveRun (startTable addr name database role nodes persisted).2 es) :
    (∀ p, (runEvents (startTable addr name database role nodes persisted).2 es).master = some p →
      MembershipInv (runEvents (startTable addr name database role nodes persisted).2 es)) ∧
    ∀ a b p q, (runEvents (startTable addr name database role nodes persisted).2 es).nodes.lookup a =
        some p →
      (runEvents (startTable addr name database role nodes persisted).2 es).nodes.lookup b = some q →
      ((runEvents (startTable addr name database role nodes persisted).2 es).get p).map (·.role) =
        some .master →
      ((runEvents (startTable addr name database role nodes persisted).2 es).get q).map (·.role) =
        some .master → a = b := by
  have hU := unelected_startTable ha name database role nodes persisted
  have hs : StartupInv (runEvents (startTable addr name database role nodes persisted).2 es)
      (startTable addr name database role nodes persisted).1 :=
    StartupInv.run (.inr ⟨hU.keyed, hU.master, onlyMaster_startTable addr name database role nodes
      persisted ha⟩) hU.keyed hl
  exact ⟨fun _ hp => hs.membershipInv hp,
    fun _ _ _ _ hp hq hpm hqm => hs.master_unique (hU.keyed.runEvents es) hp hq hpm hqm⟩

def startupServing : List Event :=
  [.op (.setAlive "a" false), .op (.setAlive "b" false), .op (.setAlive "c" false), .op .checkAndElect,
    .op (.addNode "e" "" ""), .op (.removeNode "a"), .op (.setAlive "d" false), .op .checkAndElect]

theorem single_master_from_startup_masterB :
    "b" ≠ "" ∧ LiveRun (startTable "b" "" "" .master "a, b ,c" [⟨"d", "delta", ""⟩]).2 startupServing ∧
      (∀ p, (runEvents (startTable "b" "" "" .master "a, b ,c" [⟨"d", "delta", ""⟩]).2
          startupServing).master = some p →
        MembershipInv (runEvents (startTable "b" "" "" .master "a, b ,c" [⟨"d", "delta", ""⟩]).2
          startupServing)) ∧
      ∀ a b p q, (runEvents (startTable "b" "" "" .master "a, b ,c" [⟨"d", "delta", ""⟩]).2
          startupServing).nodes.lookup a = some p →
        (runEvents (startTable "b" "" "" .master "a, b ,c" [⟨"d", "delta", ""⟩]).2
          startupServing).nodes.lookup b = some q →
        ((runEvents (startTable "b" "" "" .master "a, b ,c" [⟨"d", "delta", ""⟩]).2
          startupServing).get p).map (·.role) = some .master →
        ((runEvents (startTable "b" "" "" .master "a, b ,c" [⟨"d", "delta", ""⟩]).2
          startupServing).get q).map (·.role) = some .master → a = b :=
  ⟨by decide, by decide, single_master_from_startup "b" "" "" .master "a, b ,c" [⟨"d", "delta", ""⟩]
    (by decide) startupServing (by decide)⟩

example : (runEvents (startTable "b" "" "" .master "a, b ,c" [⟨"d", "delta", ""⟩]).2
      (startupServing.take 4)).master = some 3 ∧
    (runEvents (startTable "b" "" "" .master "a, b ,c" [⟨"d", "delta", ""⟩]).2 startupServing).master =
      some 4 := by decide

end TwoPc.Membership
