import TwoPcEngine.System.World
import TwoPcEngine.Node.Frame

/-! `Execute` commits when nothing fails: each request is served in the order it was sent, its
reply arrives, and every database call succeeds. -/

namespace TwoPc.System

open Participant Coordinator Sql

variable {P V : Type} [SqlValue V] {codec : Codec P V} {s : Setup P}

def Outcomes.ok : Outcomes := ⟨.ok, .ok, .ok⟩

/-- `Execute` starts, each prepare request is served and answered, the decision, each commit
request is served and answered, and `Execute` returns. -/
def Setup.failureFree (s : Setup P) : List (Event P) :=
  [.start .ok] ++ s.remotes.map (fun _ => .deliver 0 Outcomes.ok true) ++ [.decide .ok .ok] ++
    s.remotes.map (fun _ => .deliver 0 Outcomes.ok true) ++ [.finish]

theorem Coord.foldl_record_prepare (g : String → Except String PrepareResponse) :
    ∀ (rs : List String) (c : Coord), rs.Nodup → c.phase = .preparing → (∀ a ∈ rs, c.prepareAns a = none) →
      rs.foldl (fun c a => c.record a (.prepare (g a))) c =
        { c with prepareAns := fun a => if a ∈ rs then some (g a) else c.prepareAns a }
  | [], c, _, _, _ => by simp
  | a :: rs, c, hnd, hp, hn => by
    obtain ⟨ha, hnd⟩ := List.nodup_cons.mp hnd
    have hr : c.record a (.prepare (g a)) = { c with prepareAns := Function.update c.prepareAns a (some (g a)) } := by
      simp [Coord.record, hp, hn a (List.mem_cons_self ..)]
    rw [List.foldl_cons, hr, Coord.foldl_record_prepare g rs
      { c with prepareAns := Function.update c.prepareAns a (some (g a)) } hnd hp fun b hb => ?_]
    · congr 1
      funext b
      by_cases hb : b = a
      · subst hb; simp [ha]
      · simp [hb, Function.update_noteq hb]
    · have hba : b ≠ a := fun h => ha (h ▸ hb)
      simpa [Function.update_noteq hba] using hn b (List.mem_cons_of_mem _ hb)

theorem Coord.foldl_record_commit (g : String → Except String CommitResponse) :
    ∀ (rs : List String) (c : Coord), rs.Nodup → c.phase = .committing → (∀ a ∈ rs, c.commitAns a = none) →
      rs.foldl (fun c a => c.record a (.commit (g a))) c =
        { c with commitAns := fun a => if a ∈ rs then some (g a) else c.commitAns a }
  | [], c, _, _, _ => by simp
  | a :: rs, c, hnd, hp, hn => by
    obtain ⟨ha, hnd⟩ := List.nodup_cons.mp hnd
    have hr : c.record a (.commit (g a)) = { c with commitAns := Function.update c.commitAns a (some (g a)) } := by
      simp [Coord.record, hp, hn a (List.mem_cons_self ..)]
    rw [List.foldl_cons, hr, Coord.foldl_record_commit g rs
      { c with commitAns := Function.update c.commitAns a (some (g a)) } hnd hp fun b hb => ?_]
    · congr 1
      funext b
      by_cases hb : b = a
      · subst hb; simp [ha]
      · simp [hb, Function.update_noteq hb]
    · have hba : b ≠ a := fun h => ha (h ▸ hb)
      simpa [Function.update_noteq hba] using hn b (List.mem_cons_of_mem _ hb)

theorem World.run_serve (f : String → Req) (hf : ∀ a, (f a).addr = a) (o : Outcomes) :
    ∀ (rs : List String) (w : World P V), rs.Nodup → w.net = rs.map f →
      (w.run codec s (rs.map fun _ => .deliver 0 o true)).net = [] ∧
      (∀ a, (w.run codec s (rs.map fun _ => .deliver 0 o true)).nodes a =
        if a ∈ rs then (serve codec s (w.nodes a) o (f a)).2 else w.nodes a) ∧
      (w.run codec s (rs.map fun _ => .deliver 0 o true)).coord =
        rs.foldl (fun c a => c.record a (serve codec s (w.nodes a) o (f a)).1) w.coord
  | [], w, _, hnet => ⟨hnet, fun _ => by simp [World.run], rfl⟩
  | a :: rs, w, hnd, hnet => by
    obtain ⟨ha, hnd⟩ := List.nodup_cons.mp hnd
    have h0 : w.net[0]? = some (f a) := by simp [hnet]
    have hw : w.step codec s (.deliver 0 o true) =
        { w with
          nodes := Function.update w.nodes a (serve codec s (w.nodes a) o (f a)).2
          net := rs.map f
          coord := w.coord.record a (serve codec s (w.nodes a) o (f a)).1 } := by
      simp [World.step, World.deliver_of_get h0, hf, hnet]
    have hrest : ∀ b ∈ rs, b ≠ a := fun b hb h => ha (h ▸ hb)
    obtain ⟨h1, h3, h4⟩ := World.run_serve f hf o rs (w.step codec s (.deliver 0 o true)) hnd (by rw [hw])
    simp only [List.map_cons, World.run, hw] at h1 h3 h4 ⊢
    refine ⟨h1, fun b => ?_, ?_⟩
    · rw [h3 b]
      by_cases hb : b = a
      · subst hb; simp [ha]
      · by_cases hbr : b ∈ rs <;> simp [hb, hbr, Function.update_noteq hb]
    · rw [h4, List.foldl_cons]
      exact List.foldl_ext _ _ _ fun c b hb => by rw [Function.update_noteq (hrest b hb)]

theorem World.start_ok (stores : String → Store V)
    (h0 : s.remotes.length + (if s.localNode.isSome then 1 else 0) ≠ 0)
    (hready : ∀ l, s.localNode = some l →
      (prepare codec s.txID s.payload .ok (newNodeWithDB (stores l) : Node P V)).1 = (true, none)) :
    let w := (World.init stores : World P V).step codec s (.start .ok)
    w.net = s.remotes.map .prepare ∧ w.coord.phase = .preparing ∧
      w.coord.prepareAns = (fun _ => none) ∧ w.coord.commitAns = (fun _ => none) ∧
      (s.localNode.isSome → w.coord.localPrepare = (true, none)) ∧
      ∀ x, w.nodes x = if s.localNode = some x then
        (prepare codec s.txID s.payload .ok (newNodeWithDB (stores x))).2 else newNodeWithDB (stores x) := by
  intro w
  have hw : w = World.start codec s (World.init stores) .ok := rfl
  rw [World.start_eq, if_neg h0] at hw
  rcases hloc : s.localNode with _ | l
  · simp [hw, hloc, World.init, Coord.init]
  · simp [hw, hloc, World.init, Coord.init, Function.update_apply, eq_comm, hready l hloc]
    intro x; by_cases h : l = x <;> simp [h]

theorem World.decide_commit (w : World P V) (hph : w.coord.phase = .preparing) (hnet : w.net = [])
    (hca : w.coord.commitAns = fun _ => none) (hans : ∀ a ∈ s.remotes, (w.coord.prepareAns a).isSome)
    (hall : allPrepared s.localNode s.remotes w.coord.answers = true)
    (hlc : ∀ l, s.localNode = some l → (commit s.txID .ok (w.nodes l)).1 = none) :
    let w' := w.step codec s (.decide .ok .ok)
    w'.net = s.remotes.map .commit ∧ w'.coord.phase = .committing ∧ w'.coord.commitAns = (fun _ => none) ∧
      w'.coord.localCommit = none ∧ w'.coord.prepareAns = w.coord.prepareAns ∧
      w'.coord.localPrepare = w.coord.localPrepare ∧
      ∀ x, w'.nodes x = if s.localNode = some x then (commit s.txID .ok (w.nodes x)).2 else w.nodes x := by
  intro w'
  have hw : w' = World.decide s w .ok .ok := by
    show w.step codec s _ = _
    rw [World.step, if_pos ⟨hph, List.all_eq_true.mpr hans⟩]
  rw [World.decide_eq] at hw
  dsimp only at hw
  rw [if_neg (fun h => absurd (failedNodes_pos_iff.mp h) (by simp [hall])), prepareTransaction_outcome,
    List.filter_eq_self.mpr (allPrepared_iff.mp hall).2] at hw
  rcases hloc : s.localNode with _ | l
  · simp [hw, hloc, hnet, hca]
  · have hr : localReady w.coord.answers = true := by simpa [hloc] using (allPrepared_iff.mp hall).1
    simp [hw, hloc, hnet, hca, hr, hlc l hloc, Function.update_apply]
    intro x
    by_cases h : x = l
    · subst h; simp
    · simp [h, Ne.symm h]

theorem execute_commits_without_failures (stores : String → Store V) (hnd : s.remotes.Nodup)
    (hl : ∀ l, s.localNode = some l → l ∉ s.remotes) (hne : s.localNode.isSome ∨ s.remotes ≠ [])
    {act : SQLAction V} {stmt : Stmt V} {b : String} (ha : parseSQLAction codec s.payload = .ok act)
    (hs : applySQLAction act = .ok stmt) (hb : codec.marshal s.payload = .ok b)
    (hn : namesAuditTable codec s.payload = false) (hrow : ∀ x, (stores x).rows s.txID = none) :
    let w := (World.init stores : World P V).run codec s s.failureFree
    w.coord.phase = .done ⟨s.txID, true, "Transaction committed on " ++
      toString (s.remotes.length + if s.localNode.isSome then 1 else 0) ++ " nodes", ""⟩ ∧
    ∀ x, s.localNode = some x ∨ x ∈ s.remotes → Committed (w.nodes x) s.txID := by
  intro w
  have hx := fun x => fresh_prepare_commit ha hs hb hn (hrow x)
  have h0 : s.remotes.length + (if s.localNode.isSome then 1 else 0) ≠ 0 := by
    rcases hne with h | h
    · simp [h]
    · have := List.length_pos.mpr h; split <;> omega
  have hrl : ∀ x ∈ s.remotes, s.localNode ≠ some x := fun x hx' h => hl x h hx'
  -- `Execute` starts: the local node prepares and the prepare requests go out
  obtain ⟨h1net, h1ph, h1pa, h1ca, h1lp, h1nodes⟩ :=
    @World.start_ok P V _ codec s stores h0 fun l _ => (hx l).1
  set w₁ := (World.init stores : World P V).step codec s (.start .ok)
  have h1r : ∀ a ∈ s.remotes, w₁.nodes a = newNodeWithDB (stores a) := fun a ha => by
    rw [h1nodes, if_neg (hrl a ha)]
  -- each prepare request is served and answered `READY`
  obtain ⟨h2net, h2nodes, h2coord⟩ :=
    @World.run_serve P V _ codec s Req.prepare (fun _ => rfl) Outcomes.ok s.remotes w₁ hnd h1net
  set w₂ := w₁.run codec s (s.remotes.map fun _ => .deliver 0 Outcomes.ok true)
  simp only [serve_prepare] at h2coord
  rw [Coord.foldl_record_prepare _ s.remotes w₁.coord hnd h1ph fun a _ => by rw [h1pa]] at h2coord
  have h2pa : ∀ a ∈ s.remotes, w₂.coord.prepareAns a = some (.ok ⟨statusReady, ""⟩) := fun a ha => by
    simp [h2coord, ha, h1r a ha, Outcomes.ok, (hx a).1, handlePrepare, clientResult]
  have h2r : ∀ a ∈ s.remotes, w₂.nodes a = (prepare codec s.txID s.payload .ok (newNodeWithDB (stores a))).2 :=
    fun a ha => by simp [h2nodes, ha, h1r a ha, Outcomes.ok]
  have hall : allPrepared s.localNode s.remotes w₂.coord.answers = true :=
    allPrepared_iff.mpr ⟨fun h => localReady_iff.mpr (by rw [h2coord]; exact h1lp h),
      fun a ha => by simp [Coord.answers, h2pa a ha, prepareSucceeded]⟩
  -- every participant is `READY`: the decision to commit, and the local node's `Commit`
  have hl₂ : ∀ l, s.localNode = some l →
      w₂.nodes l = (prepare codec s.txID s.payload .ok (newNodeWithDB (stores l))).2 := fun l hloc => by
    rw [h2nodes, if_neg (hl l hloc), h1nodes, if_pos hloc]
  obtain ⟨h3net, h3ph, h3ca, h3lc, h3pa, h3lp, h3nodes⟩ :=
    @World.decide_commit P V _ codec s w₂ (by rw [h2coord]; exact h1ph) h2net (by rw [h2coord]; exact h1ca)
      (fun a ha => by simp [h2pa a ha]) hall fun l hloc => by rw [hl₂ l hloc]; exact (hx l).2.1
  set w₃ := w₂.step codec s (.decide .ok .ok)
  have h3r : ∀ a ∈ s.remotes, w₃.nodes a = w₂.nodes a := fun a ha => by rw [h3nodes, if_neg (hrl a ha)]
  -- each commit request is served and succeeds
  obtain ⟨-, h4nodes, h4coord⟩ :=
    @World.run_serve P V _ codec s Req.commit (fun _ => rfl) Outcomes.ok s.remotes w₃ hnd h3net
  set w₄ := w₃.run codec s (s.remotes.map fun _ => .deliver 0 Outcomes.ok true)
  simp only [serve_commit] at h4coord
  rw [Coord.foldl_record_commit _ s.remotes w₃.coord hnd h3ph fun a _ => by rw [h3ca]] at h4coord
  have h4ca : ∀ a ∈ s.remotes, w₄.coord.commitAns a = some (.ok ⟨true, ""⟩) := fun a ha => by
    simp [h4coord, ha, h3r a ha, h2r a ha, Outcomes.ok, (hx a).2.1, handleCommit, clientResult]
  have h4ph : w₄.coord.phase = .committing := by rw [h4coord]; exact h3ph
  have hall₄ : allPrepared s.localNode s.remotes w₄.coord.answers = true := by
    rwa [@Coord.allPrepared_congr w₂.coord w₄.coord (by rw [h4coord, h3lp]) (by rw [h4coord, h3pa])]
  have hcom : allCommitted s.localNode s.remotes w₄.coord.answers = true :=
    allCommitted_iff.mpr ⟨fun _ => by rw [h4coord]; exact h3lc,
      fun a ha => by simp [Coord.answers, h4ca a ha, commitSucceeded]⟩
  -- `Execute` returns
  have hw : w = World.finish s w₄ := by
    have h5 : w = w₄.step codec s .finish := by simp only [w, Setup.failureFree, World.run_append]; rfl
    rw [h5, World.step, h4ph, if_pos (List.all_eq_true.mpr fun a ha => by simp [h4ca a ha])]
  refine ⟨by rw [hw, World.finish, execute_of_prepared h0 hall₄, if_pos hcom], fun x hx' => ?_⟩
  rw [hw]
  rcases hx' with hx' | hx'
  · rw [World.finish, h4nodes, if_neg (hl x hx'), h3nodes, if_pos hx', hl₂ x hx']
    exact (hx x).2.2
  · rw [World.finish, h4nodes, if_pos hx', h3r x hx', h2r x hx', serve_commit]
    exact (hx x).2.2

theorem execute_commits_without_failures_local :
    let s : Setup (SQLAction Nat) := ⟨"t", some usersInsert, some "m", ["a"]⟩
    let codec : Codec (SQLAction Nat) Nat := actionCodec fun _ => .ok ""
    let w := (World.init fun _ => Store.empty : World (SQLAction Nat) Nat).run codec s s.failureFree
    s.remotes.Nodup ∧ (∀ l, s.localNode = some l → l ∉ s.remotes) ∧ (s.localNode.isSome ∨ s.remotes ≠ []) ∧
      parseSQLAction codec s.payload = .ok (normalize usersInsert) ∧
      applySQLAction (normalize usersInsert) = .ok (specStatement (normalize usersInsert)) ∧
      codec.marshal s.payload = .ok "" ∧ namesAuditTable codec s.payload = false ∧
      (∀ _ : String, (Store.empty : Store Nat).rows s.txID = none) ∧
      w.coord.phase = .done ⟨s.txID, true, "Transaction committed on " ++
        toString (s.remotes.length + if s.localNode.isSome then 1 else 0) ++ " nodes", ""⟩ ∧
      ∀ x, s.localNode = some x ∨ x ∈ s.remotes → Committed (w.nodes x) s.txID :=
  ⟨by decide, by rintro l ⟨⟩; decide, .inl rfl, rfl, rfl, rfl, by decide, fun _ => rfl,
    execute_commits_without_failures _ (by decide) (by rintro l ⟨⟩; decide) (.inl rfl) rfl rfl rfl
      (by decide) fun _ => rfl⟩

end TwoPc.System
