import TwoPcEngine.Cluster.Startup

/-! `CheckAndElect` with health checks landing between its liveness reads, since `checkNode` writes
`SetAlive` without the cluster lock: what such a call keeps, and how the next round and the
start-up round settle the table. -/

namespace TwoPc.Membership

namespace Cluster

def landChecks (c : Cluster) (checks : List (String × Bool)) : Cluster :=
  run c (checks.map fun x => .setAlive x.1 x.2)

/-- `CheckAndElect`, with the checks `during₁` landing between its scan of `lowestAliveAddrLocked`
and its read of the master's liveness, and the checks `during₂` after that read: before the scan
of `electMasterLocked` when it elects, and otherwise before the call returns (they write
liveness, which no write of the call touches). A check landing within a scan gives it flags that
checks landing just before it would also give, so each scan reads one instant. -/
def checkAndElectRacing (c : Cluster) (during₁ during₂ : List (String × Bool)) : Bool × Cluster :=
  let lowestAlive := c.lowestAliveAddrLocked
  let c := c.landChecks during₁
  let (currentMaster, c) : String × Cluster :=
    match c.master with
    | some m =>
      match c.get m with
      | some r => if !r.alive then ("", { c.setRole m .slave with master := none }) else (r.addr, c)
      | none => ("", c)
    | none => ("", c)
  if lowestAlive = "" then
    (false, (match c.master with
      | some m => { c.setRole m .slave with master := none }
      | none => c).landChecks during₂)
  else if c.master.isNone || currentMaster != lowestAlive then
    (c.landChecks during₂).electMasterLocked
  else (false, c.landChecks during₂)

theorem checkAndElectRacing_nil (c : Cluster) : c.checkAndElectRacing [] [] = c.checkAndElect := rfl

theorem checkAndElectRacing_cases (c : Cluster) (during₁ during₂ : List (String × Bool)) :
    (c.checkAndElectRacing during₁ during₂).2 = (c.landChecks during₁).landChecks during₂ ∨
      (∃ m, (c.landChecks during₁).master = some m ∧ (c.checkAndElectRacing during₁ during₂).2 =
        ({ (c.landChecks during₁).setRole m .slave with master := none } : Cluster).landChecks
          during₂) ∨
      (c.checkAndElectRacing during₁ during₂).2 =
        ((c.landChecks during₁).landChecks during₂).electMasterLocked.2 ∨
      ∃ m, (c.landChecks during₁).master = some m ∧ (c.checkAndElectRacing during₁ during₂).2 =
        (({ (c.landChecks during₁).setRole m .slave with master := none } : Cluster).landChecks
          during₂).electMasterLocked.2 := by
  unfold checkAndElectRacing
  dsimp only
  repeat' split
  all_goals simp_all

theorem relabel_landChecks (c : Cluster) (checks : List (String × Bool)) :
    Relabel c (c.landChecks checks) := by
  induction checks generalizing c with
  | nil => exact .refl c
  | cons x checks ih => exact (relabel_checkNode c x.1 x.2).trans (ih _)

theorem Keyed.checkAndElectRacing (hk : Keyed c) (during₁ during₂ : List (String × Bool)) :
    Keyed (c.checkAndElectRacing during₁ during₂).2 := by
  have hk₁ := (relabel_landChecks c during₁).keyed hk
  rcases checkAndElectRacing_cases c during₁ during₂ with he | ⟨m, -, he⟩ | he | ⟨m, -, he⟩ <;>
    rw [he]
  · exact (relabel_landChecks _ during₂).keyed hk₁
  · exact (relabel_landChecks _ during₂).keyed (hk₁.demote m)
  · exact ((relabel_landChecks _ during₂).keyed hk₁).electMasterLocked
  · exact ((relabel_landChecks _ during₂).keyed (hk₁.demote m)).electMasterLocked

theorem checkAndElectRacing_nodes (c : Cluster) (during₁ during₂ : List (String × Bool)) :
    (c.checkAndElectRacing during₁ during₂).2.nodes = c.nodes := by
  have h₁ := (relabel_landChecks c during₁).nodes
  rcases checkAndElectRacing_cases c during₁ during₂ with he | ⟨m, -, he⟩ | he | ⟨m, -, he⟩ <;>
    rw [he]
  · rw [(relabel_landChecks _ during₂).nodes, h₁]
  · rw [(relabel_landChecks _ during₂).nodes]; exact h₁
  · rw [electMasterLocked_nodes, (relabel_landChecks _ during₂).nodes, h₁]
  · rw [electMasterLocked_nodes, (relabel_landChecks _ during₂).nodes]; exact h₁

theorem landChecks_map (c : Cluster) (healthy : String → Bool) (addrs : List String) :
    c.landChecks (addrs.map fun a => (a, healthy a)) = c.checkAll healthy addrs := by
  rw [landChecks, List.map_map, checkAll_eq_run]
  rfl

theorem mem_aliveAddrs_of_agrees {c : Cluster} {healthy : String → Bool}
    (halive : ∀ a p, c.nodes.lookup a = some p → (c.get p).map (·.alive) = some (healthy a))
    {a : String} : a ∈ c.aliveAddrs ↔ (c.nodes.lookup a).isSome ∧ healthy a = true := by
  rw [mem_aliveAddrs, Option.isSome_iff_exists, ← exists_and_right]
  refine exists_congr fun p => and_congr_right fun hp => ?_
  have h := halive a p hp
  cases hr : c.get p <;> simp_all

theorem Keyed.settled_checkAndElect_of_none (hk : Keyed c) (hnone : c.master = none)
    (hl : c.lowestAliveAddrLocked ≠ "") {healthy : String → Bool}
    (halive : ∀ a p, c.nodes.lookup a = some p → (c.get p).map (·.alive) = some (healthy a)) :
    Settled healthy c.checkAndElect.2 := by
  have h := hk.first_election hnone hl
  have hr := rolesOnly_checkAndElect (c := c)
  exact ⟨fun a p hp => by rw [hr.alive]; exact halive a p (hr.nodes ▸ hp),
    by rw [hr.lowestAliveAddrLocked, hr.nodes, if_neg hl]; exact h.2,
    fun a p hp => h.1.roles hk.checkAndElect hp⟩

theorem Keyed.settled_of_answer (hk : Keyed c) (hnone : c.master = none) {healthy : String → Bool}
    (halive : ∀ a p, c.nodes.lookup a = some p → (c.get p).map (·.alive) = some (healthy a))
    (hup : ∃ a, healthy a = true ∧ (c.nodes.lookup a).isSome)
    (hempty : (c.nodes.lookup "").isSome → healthy "" = false) :
    Settled healthy c.checkAndElect.2 := by
  refine hk.settled_checkAndElect_of_none hnone (fun hl => ?_) halive
  rcases lowestAliveAddrLocked_eq_empty hl with h | h
  · obtain ⟨a, hh, hs⟩ := hup
    simpa [h] using (mem_aliveAddrs_of_agrees halive).mpr ⟨hs, hh⟩
  · obtain ⟨hs, hh⟩ := (mem_aliveAddrs_of_agrees halive).mp h
    simp [hempty hs] at hh

end Cluster

open Cluster

/-- The table satisfies the membership invariant once its master pointer is set back to `m`: the
pointer was cleared while `m`'s record still reads `MASTER`. -/
def MasterCleared (c : Cluster) (m : Ptr) : Prop :=
  c.master = none ∧ MembershipInv { c with master := some m }

variable {c : Cluster}

theorem MembershipInv.electMasterLocked_or (hm : MembershipInv c) (hk : Keyed c) :
    MembershipInv c.electMasterLocked.2 ∨ ∃ m, c.master = some m ∧ MasterCleared c.electMasterLocked.2 m := by
  by_cases hl : c.lowestAliveAddrLocked = ""
  · simp only [electMasterLocked, if_pos hl]
    rcases hmc : c.master with _ | m
    · exact .inl (hm.clear hmc)
    · exact .inr ⟨m, rfl, rfl, by rw [← hmc]; exact hm⟩
  · exact .inl (hk.membershipInv_electMaster hl)

theorem MembershipInv.checkAndElectRacing (hm : MembershipInv c) (hk : Keyed c)
    (during₁ during₂ : List (String × Bool)) :
    MembershipInv (c.checkAndElectRacing during₁ during₂).2 ∨
      ∃ m, c.master = some m ∧ MasterCleared (c.checkAndElectRacing during₁ during₂).2 m := by
  have h₁ := relabel_landChecks c during₁
  have hm₁ := hm.relabel h₁
  have hk₁ := h₁.keyed hk
  have elect : ∀ c', MembershipInv c' → Keyed c' → (c'.master = none ∨ c'.master = c.master) →
      MembershipInv (c'.landChecks during₂).electMasterLocked.2 ∨
        ∃ m, c.master = some m ∧ MasterCleared (c'.landChecks during₂).electMasterLocked.2 m :=
    fun c' hm' hk' hmc => by
      have h₂ := relabel_landChecks c' during₂
      refine ((hm'.relabel h₂).electMasterLocked_or (h₂.keyed hk')).imp_right ?_
      rintro ⟨m, hmm, hc⟩
      rw [h₂.master] at hmm
      exact ⟨m, hmc.resolve_left (by rw [hmm]; exact Option.some_ne_none m) ▸ hmm, hc⟩
  rcases checkAndElectRacing_cases c during₁ during₂ with he | ⟨m, hmc, he⟩ | he | ⟨m, hmc, he⟩ <;>
    rw [he]
  · exact .inl (hm₁.relabel (relabel_landChecks _ during₂))
  · exact .inl ((hm₁.demote hk₁ hmc).relabel (relabel_landChecks _ during₂))
  · exact elect _ hm₁ hk₁ (.inr h₁.master)
  · exact elect _ (hm₁.demote hk₁ hmc) (hk₁.demote m) (.inl rfl)

/-- On every reachable table that satisfies the membership invariant, a `CheckAndElect` while
checks land keeps the invariant, or clears the master pointer and leaves the former master as the
one member reading `MASTER`. -/
theorem checkAndElectRacing_stale_master (os : List Op) (hm : MembershipInv (run newCluster os))
    (during₁ during₂ : List (String × Bool)) :
    MembershipInv ((run newCluster os).checkAndElectRacing during₁ during₂).2 ∨
      ∃ m, (run newCluster os).master = some m ∧
        MasterCleared ((run newCluster os).checkAndElectRacing during₁ during₂).2 m :=
  hm.checkAndElectRacing (Keyed.init.run os) during₁ during₂

def joinBelow : List Op := joinBA ++ [.electMaster, .addNode "0" "" ""]

def allFail : List (String × Bool) := [("0", false), ("a", false), ("b", false)]

theorem checkAndElectRacing_stale_master_joinBelow :
    MembershipInv (run newCluster joinBelow) ∧
      (MembershipInv ((run newCluster joinBelow).checkAndElectRacing [] allFail).2 ∨
        ∃ m, (run newCluster joinBelow).master = some m ∧
          MasterCleared ((run newCluster joinBelow).checkAndElectRacing [] allFail).2 m) :=
  ⟨membershipInv_of_ok (by decide),
    checkAndElectRacing_stale_master joinBelow (membershipInv_of_ok (by decide)) [] allFail⟩

example : ((run newCluster joinBelow).checkAndElectRacing [] allFail).2.master = none ∧
    (((run newCluster joinBelow).checkAndElectRacing [] allFail).2.get 1).map (·.role) =
      some .master := by decide

theorem heartbeat_settles_after_race (os : List Op) (hm : MembershipInv (run newCluster os))
    (during₁ during₂ : List (String × Bool)) (healthy : String → Bool) {o : List String}
    (ho : o.Perm ((run newCluster os).checkAndElectRacing during₁ during₂).2.nodeAddrs)
    (hup : ∃ a, a ≠ "" ∧ healthy a = true ∧
      (((run newCluster os).checkAndElectRacing during₁ during₂).2.nodes.lookup a).isSome)
    (hempty : healthy "" = false) :
    Settled healthy (((run newCluster os).checkAndElectRacing during₁ during₂).2.checkAllNodes healthy o) := by
  generalize hr : ((run newCluster os).checkAndElectRacing during₁ during₂).2 = r at ho hup ⊢
  have hk : Keyed r := hr ▸ (Keyed.init.run os).checkAndElectRacing during₁ during₂
  rcases hr ▸ hm.checkAndElectRacing (Keyed.init.run os) during₁ during₂ with hinv | ⟨m, -, hnone, -⟩
  · exact hk.settles hinv healthy ho
  obtain ⟨a, -, hha, hmem⟩ := hup
  have hcov : ∀ b, (r.nodes.lookup b).isSome → b ∈ o := fun b hb =>
    ho.mem_iff.mpr (hk.mem_nodeAddrs.mpr hb)
  rw [checkAllNodes, if_neg fun he => by simp [entries_isEmpty he a] at hmem]
  exact (hk.checkAll healthy o).settled_of_answer (by rw [checkAll_master, hnone])
    (fun _ _ => hk.alive_checkAll healthy hcov) ⟨a, hha, by rwa [checkAll_nodes]⟩ fun _ => hempty

theorem heartbeat_settles_after_race_joinBelow :
    MembershipInv (run newCluster joinBelow) ∧
      ("b" ≠ "" ∧ ("b" == "b") = true ∧
        (((run newCluster joinBelow).checkAndElectRacing [] allFail).2.nodes.lookup "b").isSome) ∧
      ("" == "b") = false ∧
      Settled (· == "b") (((run newCluster joinBelow).checkAndElectRacing [] allFail).2.checkAllNodes
        (· == "b") ((run newCluster joinBelow).checkAndElectRacing [] allFail).2.nodeAddrs) :=
  ⟨membershipInv_of_ok (by decide), ⟨by decide, rfl, by decide⟩, rfl,
    heartbeat_settles_after_race joinBelow (membershipInv_of_ok (by decide)) [] allFail (· == "b")
      (List.Perm.refl _) ⟨"b", by decide, rfl, by decide⟩ rfl⟩

example : (((run newCluster joinBelow).checkAndElectRacing [] allFail).2.checkAllNodes (· == "b")
      ((run newCluster joinBelow).checkAndElectRacing [] allFail).2.nodeAddrs).master = some 0 ∧
    ((((run newCluster joinBelow).checkAndElectRacing [] allFail).2.checkAllNodes (· == "b")
      ((run newCluster joinBelow).checkAndElectRacing [] allFail).2.nodeAddrs).get 1).map (·.role) =
      some .slave := by decide

/-! ### Start-up -/

def AliveAgrees (healthy : String → Bool) (addrs : List String) (c : Cluster) : Prop :=
  ∀ a ∈ addrs, ∀ p, c.nodes.lookup a = some p → (c.get p).map (·.alive) = some (healthy a)

namespace AliveAgrees

variable {healthy : String → Bool} {addrs : List String}

theorem nil (healthy : String → Bool) (c : Cluster) : AliveAgrees healthy [] c := fun _ h => nomatch h

theorem checkAll (h : AliveAgrees healthy addrs c) (hk : Keyed c) (more : List String) :
    AliveAgrees healthy (addrs ++ more) (c.checkAll healthy more) := fun a ha p hp => by
  rw [checkAll_nodes] at hp
  rw [hk.get_checkAll healthy more hp]
  split_ifs with hmore
  · obtain ⟨r, hr, -⟩ := hk.get_of_lookup hp
    simp [hr]
  · exact h a ((List.mem_append.mp ha).resolve_right hmore) p hp

theorem rolesOnly {c' : Cluster} (h : AliveAgrees healthy addrs c) (hr : RolesOnly c c') :
    AliveAgrees healthy addrs c' := fun a ha p hp => by
  rw [hr.alive]
  exact h a ha p (hr.nodes ▸ hp)

theorem checkAndElectRacing (h : AliveAgrees healthy addrs c) (hk : Keyed c)
    (during₁ during₂ : List String) :
    AliveAgrees healthy (addrs ++ during₁ ++ during₂)
      (c.checkAndElectRacing (during₁.map fun a => (a, healthy a))
        (during₂.map fun a => (a, healthy a))).2 := by
  have h₁ := h.checkAll hk during₁
  have hk₁ := hk.checkAll healthy during₁
  have hd : ∀ m, RolesOnly (c.checkAll healthy during₁)
      { (c.checkAll healthy during₁).setRole m .slave with master := none } :=
    fun m => ((RolesOnly.refl _).setRole _ _).withMaster _
  rcases checkAndElectRacing_cases c (during₁.map fun a => (a, healthy a))
      (during₂.map fun a => (a, healthy a)) with he | ⟨m, -, he⟩ | he | ⟨m, -, he⟩ <;>
    rw [he] <;> simp only [landChecks_map]
  · exact h₁.checkAll hk₁ during₂
  · exact (h₁.rolesOnly (hd m)).checkAll (hk₁.demote m) during₂
  · exact (h₁.checkAll hk₁ during₂).rolesOnly rolesOnly_electMasterLocked
  · exact ((h₁.rolesOnly (hd m)).checkAll (hk₁.demote m) during₂).rolesOnly rolesOnly_electMasterLocked

end AliveAgrees

theorem Unelected.checkAndElectRacing (h : Unelected c) (during₁ during₂ : List (String × Bool)) :
    MembershipInv (c.checkAndElectRacing during₁ during₂).2 ∨
      Unelected (c.checkAndElectRacing during₁ during₂).2 := by
  have h₁ := relabel_landChecks c during₁
  have h₂ := (h.relabel h₁).relabel (relabel_landChecks _ during₂)
  rcases checkAndElectRacing_cases c during₁ during₂ with he | ⟨m, hm, he⟩ | he | ⟨m, hm, he⟩
  · exact .inr (he ▸ h₂)
  · exact absurd (hm.symm.trans (h₁.master.trans h.master)) (Option.some_ne_none m)
  · rw [he]
    by_cases hl : ((c.landChecks during₁).landChecks during₂).lowestAliveAddrLocked = ""
    · simp only [electMasterLocked, if_pos hl]
      exact .inr ⟨h₂.keyed.of_eq rfl rfl, rfl, h₂.noEmpty⟩
    · exact .inl (h₂.keyed.membershipInv_electMaster hl)
  · exact absurd (hm.symm.trans (h₁.master.trans h.master)) (Option.some_ne_none m)

/-- `main` of `cmd/node` and of `cmd/master`, from the start-up table on: `heartbeat.Start()` runs
the first round at once and `main` calls `CheckAndElect` right after, so the round's checks
`before` land before that call, `during₁` and `during₂` during it, and `after` after it; then the
round's own `CheckAndElect`. The table holds the local node, so the round is not skipped. -/
def startupRound (addr name database : String) (role : NodeRole) (nodes : String)
    (persisted : List StoredNode) (healthy : String → Bool)
    (before during₁ during₂ after : List String) : Cluster :=
  let c := (startTable addr name database role nodes persisted).2.checkAll healthy before
  let c := (c.checkAndElectRacing (during₁.map fun a => (a, healthy a))
    (during₂.map fun a => (a, healthy a))).2
  (c.checkAll healthy after).checkAndElect.2

theorem startupRound_keyed {addr : String} (ha : addr ≠ "") (name database : String) (role : NodeRole)
    (nodes : String) (persisted : List StoredNode) (healthy : String → Bool)
    (before during₁ during₂ after : List String) :
    Keyed (startupRound addr name database role nodes persisted healthy before during₁ during₂ after) :=
  ((((unelected_startTable ha name database role nodes persisted).keyed.checkAll healthy
    before).checkAndElectRacing _ _).checkAll healthy after).checkAndElect

theorem startupRound_settled (addr name database : String) (role : NodeRole) (nodes : String)
    (persisted : List StoredNode) (healthy : String → Bool) (before during₁ during₂ after : List String)
    (ha : addr ≠ "")
    (hround : (before ++ during₁ ++ during₂ ++ after).Perm
      (startTable addr name database role nodes persisted).2.nodeAddrs)
    (hup : ∃ a, healthy a = true ∧
      ((startTable addr name database role nodes persisted).2.nodes.lookup a).isSome) :
    Settled healthy
      (startupRound addr name database role nodes persisted healthy before during₁ during₂ after) := by
  have hU := unelected_startTable ha name database role nodes persisted
  unfold startupRound
  generalize (startTable addr name database role nodes persisted).2 = c₀ at hU hround hup ⊢
  have hU₁ := hU.relabel (relabel_checkAll c₀ healthy before)
  set r := ((c₀.checkAll healthy before).checkAndElectRacing (during₁.map fun a => (a, healthy a))
    (during₂.map fun a => (a, healthy a))).2
  have hkr : Keyed r := hU₁.keyed.checkAndElectRacing _ _
  have h₃ := relabel_checkAll r healthy after
  have hnodes : ∀ b, (r.checkAll healthy after).nodes.lookup b = c₀.nodes.lookup b := fun b => by
    rw [checkAll_nodes, checkAndElectRacing_nodes, checkAll_nodes]
  have hA := (((AliveAgrees.nil healthy c₀).checkAll hU.keyed before).checkAndElectRacing
    hU₁.keyed during₁ during₂).checkAll hkr after
  have halive : ∀ b p, (r.checkAll healthy after).nodes.lookup b = some p →
      ((r.checkAll healthy after).get p).map (·.alive) = some (healthy b) := fun b p hp =>
    hA b (by simpa using hround.mem_iff.mpr (hU.keyed.mem_nodeAddrs.mpr (by rw [← hnodes, hp]; rfl))) p hp
  rcases hU₁.checkAndElectRacing (during₁.map fun a => (a, healthy a))
    (during₂.map fun a => (a, healthy a)) with hinv | hU₂
  · exact (h₃.keyed hkr).settled_checkAndElect (hinv.relabel h₃) halive
  · have hU₃ := hU₂.relabel h₃
    obtain ⟨a, hha, hmem⟩ := hup
    exact hU₃.keyed.settled_of_answer hU₃.master halive ⟨a, hha, by rwa [hnodes]⟩
      fun h => absurd h (by rw [hU₃.noEmpty]; decide)

theorem startup_round_settles (addr name database : String) (role : NodeRole) (nodes : String)
    (persisted : List StoredNode) (healthy : String → Bool) (before during₁ during₂ after : List String)
    (ha : addr ≠ "")
    (hround : (before ++ during₁ ++ during₂ ++ after).Perm
      (startTable addr name database role nodes persisted).2.nodeAddrs)
    (hup : ∃ a, healthy a = true ∧
      ((startTable addr name database role nodes persisted).2.nodes.lookup a).isSome) :
    Settled healthy
      (startupRound addr name database role nodes persisted healthy before during₁ during₂ after) :=
  startupRound_settled addr name database role nodes persisted healthy before during₁ during₂ after
    ha hround hup

theorem startup_round_settles_masterB :
    "b" ≠ "" ∧
      (["a"] ++ ["b"] ++ ["c"] ++ ["d"]).Perm
        (startTable "b" "" "" .master "a, b ,c" [⟨"d", "delta", ""⟩]).2.nodeAddrs ∧
      (∃ a, (a == "c") = true ∧
        ((startTable "b" "" "" .master "a, b ,c" [⟨"d", "delta", ""⟩]).2.nodes.lookup a).isSome) ∧
      Settled (· == "c") (startupRound "b" "" "" .master "a, b ,c" [⟨"d", "delta", ""⟩] (· == "c")
        ["a"] ["b"] ["c"] ["d"]) :=
  ⟨by decide, by decide, ⟨"c", rfl, by decide⟩,
    startup_round_settles "b" "" "" .master "a, b ,c" [⟨"d", "delta", ""⟩] (· == "c")
      ["a"] ["b"] ["c"] ["d"] (by decide) (by decide) ⟨"c", rfl, by decide⟩⟩

example : (startupRound "b" "" "" .master "a, b ,c" [⟨"d", "delta", ""⟩] (· == "c")
      ["a"] ["b"] ["c"] ["d"]).master =
      (startTable "b" "" "" .master "a, b ,c" [⟨"d", "delta", ""⟩]).2.nodes.lookup "c" ∧
    ((startupRound "b" "" "" .master "a, b ,c" [⟨"d", "delta", ""⟩] (· == "c")
      ["a"] ["b"] ["c"] ["d"]).get 0).map (·.role) = some .slave := by decide

theorem membershipInv_after_startup (addr name database : String) (role : NodeRole) (nodes : String)
    (persisted : List StoredNode) (healthy : String → Bool) (before during₁ during₂ after : List String)
    (ha : addr ≠ "")
    (hround : (before ++ during₁ ++ during₂ ++ after).Perm
      (startTable addr name database role nodes persisted).2.nodeAddrs)
    (hup : ∃ a, healthy a = true ∧
      ((startTable addr name database role nodes persisted).2.nodes.lookup a).isSome)
    (os : List Op)
    (hs : SafeRun (startupRound addr name database role nodes persisted healthy before during₁ during₂
      after) os) :
    MembershipInv
      (run (startupRound addr name database role nodes persisted healthy before during₁ during₂ after) os) :=
  have hk := startupRound_keyed ha name database role nodes persisted healthy before during₁ during₂ after
  (hk.membershipInv_of_settled (startupRound_settled addr name database role nodes persisted healthy
    before during₁ during₂ after ha hround hup)).run hk hs

def afterStartup : List Op :=
  [.addNode "e" "" "", .removeNode "a", .setAlive "e" true, .checkAndElect, .setNodeName "c" "gamma"]

theorem membershipInv_after_startup_masterB :
    "b" ≠ "" ∧
      (["a"] ++ ["b"] ++ ["c"] ++ ["d"]).Perm
        (startTable "b" "" "" .master "a, b ,c" [⟨"d", "delta", ""⟩]).2.nodeAddrs ∧
      (∃ a, (a == "c") = true ∧
        ((startTable "b" "" "" .master "a, b ,c" [⟨"d", "delta", ""⟩]).2.nodes.lookup a).isSome) ∧
      SafeRun (startupRound "b" "" "" .master "a, b ,c" [⟨"d", "delta", ""⟩] (· == "c")
        ["a"] ["b"] ["c"] ["d"]) afterStartup ∧
      MembershipInv (run (startupRound "b" "" "" .master "a, b ,c" [⟨"d", "delta", ""⟩] (· == "c")
        ["a"] ["b"] ["c"] ["d"]) afterStartup) :=
  ⟨by decide, by decide, ⟨"c", rfl, by decide⟩, by decide,
    membershipInv_after_startup "b" "" "" .master "a, b ,c" [⟨"d", "delta", ""⟩] (· == "c")
      ["a"] ["b"] ["c"] ["d"] (by decide) (by decide) ⟨"c", rfl, by decide⟩ afterStartup (by decide)⟩

end TwoPc.Membership
