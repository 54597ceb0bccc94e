import TwoPcEngine.System.Decision
import TwoPcEngine.Node.Frame

/-! Atomic commitment end to end: what a run of `Execute` leaves in the participants'
databases, whatever the network and the crashes do. -/

namespace TwoPc.System

open Participant Coordinator Sql

variable {P V : Type} [SqlValue V] {codec : Codec P V} {s : Setup P}

def Req.call (s : Setup P) (o : Outcomes) : Req → Call P
  | .prepare _ => .prepare s.txID s.payload o.prepare
  | .commit _ => .commit s.txID o.commit
  | .abort _ => .abort s.txID o.abort

theorem Req.call_txID (o : Outcomes) (req : Req) : (req.call s o).txID = s.txID := by
  cases req <;> rfl

theorem serve_node (n : Node P V) (o : Outcomes) (req : Req) :
    (serve codec s n o req).2 = Participant.step codec n (req.call s o) := by
  cases req <;> rfl

def Event.namesAuditTable (codec : Codec P V) : Event P → Bool
  | .other _ c => c.namesAuditTable codec
  | _ => false

/-! ### What an event does to one participant -/

/-- What an event may do to one participant: nothing, a crash and restart, or one call, which
commits `t` only if `D`, and is a call of `t` or one `E` allows. -/
def Moves (codec : Codec P V) (t : TxId) (D : Prop) (E : Call P → Prop) (n n' : Node P V) : Prop :=
  n' = n ∨ n' = restart n ∨
    ∃ c, n' = Participant.step codec n c ∧ (∀ o, c = .commit t o → D) ∧ (c.txID = t ∨ E c)

namespace Moves

variable {t : TxId} {D : Prop} {E : Call P → Prop} {n n' : Node P V}

theorem update (f : String → Node P V) (x a : String) {v : Node P V} (hv : Moves codec t D E (f x) v) :
    Moves codec t D E (f a) (Function.update f x v a) := by
  by_cases h : a = x
  · subst h; rwa [Function.update_same]
  · exact .inl (Function.update_noteq h ..)

theorem storeInv (h : Moves codec t D E n n') (hi : StoreInv n) : StoreInv n' := by
  rcases h with rfl | rfl | ⟨c, rfl, -⟩
  exacts [hi, StoreInv.restart n, hi.step codec c]

theorem hasDb (h : Moves codec t D E n n') : n'.hasDb = n.hasDb := by
  rcases h with rfl | rfl | ⟨c, rfl, -⟩
  exacts [rfl, rfl, step_hasDb codec n c]

theorem written (h : Moves codec t D E n n') (hi : StoreInv n) (hD : ¬D)
    (hw : n'.db.store.written t) : n.db.store.written t := by
  rcases h with rfl | rfl | ⟨c, rfl, hc, -⟩
  exacts [hw, hw, step_written_of_not_commit hi (fun o h => hD (hc o h)) hw]

theorem openClean (h : Moves codec t D E n n') (hE : ∀ c, E c → c.namesAuditTable codec = false)
    {o : TxId} (ho : o ≠ t) (hc : OpenClean n o) : OpenClean n' o := by
  rcases h with rfl | rfl | ⟨c, rfl, -, hct⟩
  · exact hc
  · exact OpenClean.restart n o
  · exact hc.step c fun e => hct.elim (fun h => absurd (e.symm.trans h) ho) (hE c)

end Moves

namespace World

variable {w : World P V}

theorem step_moves (hD : Decision s w) (e : Event P) (a : String) :
    Moves codec s.txID ((w.step codec s e).decided = some true) (fun c => ∃ x, e = .other x c)
      (w.nodes a) ((w.step codec s e).nodes a) := by
  cases e with
  | start o =>
    simp only [step]
    split_ifs
    · rw [start_eq]
      split_ifs <;> cases s.localNode <;> first
        | exact .inl rfl
        | exact Moves.update _ _ _ (.inr (.inr ⟨.prepare _ _ o, rfl, (fun _ h => nomatch h), .inl rfl⟩))
    · exact .inl rfl
  | deliver i o replied =>
    cases hi : w.net[i]? with
    | none => simp only [step, deliver_of_none hi]; exact .inl rfl
    | some req =>
      simp only [step, deliver_of_get hi, serve_node]
      refine Moves.update _ _ _ (.inr (.inr ⟨_, rfl, fun _ h => ?_, .inl (Req.call_txID o req)⟩))
      cases req <;> cases h
      exact of_not_not fun hd => hD.noCommit hd _ (List.getElem?_mem hi)
  | decide oc oa =>
    simp only [step]
    split_ifs
    · rw [decide_eq]
      dsimp only
      split_ifs <;> cases s.localNode <;> first
        | exact .inl rfl
        | exact Moves.update _ _ _ (.inr (.inr ⟨.abort _ oa, rfl, (fun _ h => nomatch h), .inl rfl⟩))
        | exact Moves.update _ _ _ (.inr (.inr ⟨.commit _ oc, rfl, fun _ _ => rfl, .inl rfl⟩))
    · exact .inl rfl
  | timeout a => exact .inl rfl
  | finish =>
    simp only [step]
    split <;> (try split_ifs) <;> exact .inl rfl
  | crash x => exact Moves.update _ _ _ (.inr (.inl rfl))
  | other x c =>
    simp only [step]
    split_ifs with h
    · exact .inl rfl
    · exact Moves.update _ _ _ (.inr (.inr ⟨c, rfl, fun o hc => absurd (by rw [hc]; rfl) h, .inr ⟨x, rfl⟩⟩))

theorem step_early (e : Event P) (he : ∀ a, e ≠ .crash a) :
    (w.step codec s e).lost = w.lost ∧
      ((w.step codec s e).coord.phase = .idle ∨ (w.step codec s e).coord.phase = .preparing →
        w.coord.phase = .idle ∨ w.coord.phase = .preparing) := by
  cases e with
  | start o =>
    simp only [step]
    split_ifs with hi
    · rw [start_eq]; split_ifs <;> exact ⟨rfl, fun _ => .inl hi⟩
    · exact ⟨rfl, id⟩
  | deliver i o replied =>
    cases hi : w.net[i]? with
    | none => simp [step, deliver_of_none hi]
    | some req =>
      simp only [step, deliver_of_get hi]
      split_ifs <;> simp
  | timeout a => simp [step]
  | decide oc oa =>
    simp only [step]
    split_ifs with h
    · rw [decide_eq]; dsimp only; split_ifs <;> exact ⟨rfl, fun _ => .inr h.1⟩
    · exact ⟨rfl, id⟩
  | finish =>
    simp only [step]
    split <;> (try split_ifs) <;> simp_all [finish]
  | crash a => exact absurd rfl (he a)
  | other a c => simp only [step]; split_ifs <;> exact ⟨rfl, id⟩

end World

structure Base (w : World P V) : Prop where
  store : ∀ a, StoreInv (w.nodes a)
  hasDb : ∀ a, (w.nodes a).hasDb = true

namespace Base

variable {w : World P V}

omit [SqlValue V] in
theorem init (stores : String → Store V) : Base (World.init stores : World P V) :=
  ⟨fun a => storeInv_newNodeWithDB (stores a), fun _ => rfl⟩

theorem step (hB : Base w) (hD : Decision s w) (e : Event P) : Base (w.step codec s e) :=
  ⟨fun a => (World.step_moves hD e a).storeInv (hB.store a),
    fun a => ((World.step_moves hD e a).hasDb).trans (hB.hasDb a)⟩

end Base

/-- The local node has not crashed while `Execute` waits for its first phase: such a crash
kills the coordinator. -/
def LocalLive (s : Setup P) (w : World P V) : Prop :=
  ∀ l, s.localNode = some l → w.coord.phase = .idle ∨ w.coord.phase = .preparing → l ∉ w.lost

theorem LocalLive.step {w : World P V} (hL : LocalLive s w) (e : Event P) :
    LocalLive s (w.step codec s e) := by
  intro l hl hp
  by_cases hc : ∃ a, e = .crash a
  · obtain ⟨a, rfl⟩ := hc
    simp only [World.step] at hp ⊢
    by_cases hk : s.localNode = some a ∧ !w.coord.phase.isDone
    · rw [if_pos hk] at hp; simp at hp
    · rw [if_neg hk] at hp
      have hla : l ≠ a := by
        rintro rfl; exact hk ⟨hl, by rcases hp with h | h <;> simp [h, Phase.isDone]⟩
      split_ifs <;> simp [hla, hL l hl hp]
  · obtain ⟨hlost, hph⟩ := @World.step_early P V _ codec s w e fun a h => hc ⟨a, h⟩
    rw [hlost]; exact hL l hl (hph hp)

def Unwritten (s : Setup P) (w : World P V) : Prop :=
  w.decided ≠ some true → ∀ a, ¬ (w.nodes a).db.store.written s.txID

theorem Unwritten.step {w : World P V} (hU : Unwritten s w) (hB : Base w) (hD : Decision s w)
    (e : Event P) : Unwritten s (w.step codec s e) := fun hd a hw =>
  have hd' : w.decided ≠ some true := fun h => hd (hD.step_decided h e)
  hU hd' a ((World.step_moves hD e a).written (hB.store a) hd hw)

def OthersClean (s : Setup P) (w : World P V) : Prop := ∀ a o, o ≠ s.txID → OpenClean (w.nodes a) o

theorem OthersClean.step {w : World P V} (hO : OthersClean s w) (hD : Decision s w) (e : Event P)
    (he : e.namesAuditTable codec = false) : OthersClean s (w.step codec s e) :=
  fun a _ ho => (World.step_moves hD e a).openClean (fun c ⟨x, hx⟩ => by subst hx; exact he) ho (hO a _ ho)

/-! ### A decision to commit -/

/-- What the participants that did not crash while holding `txID` owe a decision to commit:
while the prepare answers come in, each one that answered `READY` holds its open transaction;
after the decision, each one a `Commit` is on its way to holds it or has committed, and each
`Commit` that answered success committed `txID`'s write and its `COMMITTED` row. -/
structure Committing (s : Setup P) (w : World P V) : Prop where
  localHolds : ∀ l, s.localNode = some l → w.coord.phase = .preparing →
    localReady w.coord.answers = true → l ∉ w.lost → Holds (w.nodes l) s.txID
  remoteHolds : ∀ a, w.coord.phase = .preparing → a ∉ w.lost → ∀ y,
    w.coord.prepareAns a = some y → prepareSucceeded y = true → Holds (w.nodes a) s.txID
  commitSent : w.decided = some true → ∀ a, a ∉ w.lost → Req.commit a ∈ w.net →
    Holds (w.nodes a) s.txID ∨ Committed (w.nodes a) s.txID
  commitAnswered : w.decided = some true → ∀ a, a ∉ w.lost → ∀ y,
    w.coord.commitAns a = some y → commitSucceeded y = true → Committed (w.nodes a) s.txID
  localCommitted : w.decided = some true → ∀ l, s.localNode = some l → l ∉ w.lost →
    w.coord.localCommit = none → Committed (w.nodes l) s.txID

/-- The local node, when it is also listed among the remote participants, never answers `READY`
as one while it is prepared locally: it still holds `txID` pending. -/
def LocalRemote (s : Setup P) (w : World P V) : Prop :=
  ∀ l, s.localNode = some l → w.coord.phase = .preparing → localReady w.coord.answers = true →
    ∀ y, w.coord.prepareAns l = some y → prepareSucceeded y = false

namespace Committing

variable {w : World P V}

omit [SqlValue V] in
theorem init (stores : String → Store V) : Committing s (World.init stores : World P V) where
  localHolds _ _ h := nomatch h
  remoteHolds _ h := nomatch h
  commitSent h := nomatch h
  commitAnswered h := nomatch h
  localCommitted h := nomatch h

omit [SqlValue V] in
theorem frame (hC : Committing s w) {w' : World P V}
    (hnode : ∀ b, b ∉ w'.lost → b ∉ w.lost ∧
      (w'.decided = some true → Committed (w.nodes b) s.txID → Committed (w'.nodes b) s.txID) ∧
      (w'.coord.phase = .preparing ∨ Req.commit b ∈ w'.net →
        Holds (w.nodes b) s.txID → Holds (w'.nodes b) s.txID))
    (hnet : ∀ b, Req.commit b ∈ w'.net → Req.commit b ∈ w.net) (hd : w'.decided = w.decided)
    (hphase : w'.coord.phase = .preparing → w.coord.phase = .preparing)
    (hlp : w'.coord.localPrepare = w.coord.localPrepare)
    (hlc : w'.coord.localCommit = w.coord.localCommit)
    (hpa : ∀ b y, w'.coord.prepareAns b = some y → prepareSucceeded y = true →
      w.coord.prepareAns b = some y ∨ Holds (w'.nodes b) s.txID)
    (hca : ∀ b, b ∉ w'.lost → ∀ y, w'.coord.commitAns b = some y → commitSucceeded y = true →
      w.coord.commitAns b = some y ∨ Committed (w'.nodes b) s.txID) :
    Committing s w' where
  localHolds l hl hp hr hlost := (hnode l hlost).2.2 (.inl hp)
    (hC.localHolds l hl (hphase hp) (by simpa [localReady, Coord.answers, hlp] using hr) (hnode l hlost).1)
  remoteHolds b hp hlost y hy hs := (hpa b y hy hs).elim
    (fun hy => (hnode b hlost).2.2 (.inl hp) (hC.remoteHolds b (hphase hp) (hnode b hlost).1 y hy hs)) id
  commitSent h b hlost hb := by
    obtain ⟨hlost, hc, hh⟩ := hnode b hlost
    exact (hC.commitSent (hd ▸ h) b hlost (hnet b hb)).imp (hh (.inr hb)) (hc h)
  commitAnswered h b hlost y hy hs := (hca b hlost y hy hs).elim
    (fun hy => (hnode b hlost).2.1 h (hC.commitAnswered (hd ▸ h) b (hnode b hlost).1 y hy hs)) id
  localCommitted h l hl hlost hlc' := (hnode l hlost).2.1 h
    (hC.localCommitted (hd ▸ h) l hl (hnode l hlost).1 (hlc ▸ hlc'))

omit [SqlValue V] in
theorem update_keeps (Q : Node P V → Prop) {f : String → Node P V} {x : String} {v : Node P V}
    (hv : Q (f x) → Q v) (b : String) (h : Q (f b)) : Q (Function.update f x v b) := by
  by_cases hb : b = x
  · subst hb; rw [Function.update_same]; exact hv h
  · rwa [Function.update_noteq hb]

omit [SqlValue V] in
theorem timeout (hC : Committing s w) (a : String) : Committing s { w with coord := w.coord.timeout a } :=
  hC.frame (fun _ hb => ⟨hb, fun _ => id, fun _ => id⟩) (fun _ => id) rfl (by simp) (by simp) (by simp)
    (fun _ y hy hs => (Coord.timeout_prepareAns_some _ _ hy).imp_right fun h => by subst h; cases hs)
    (fun _ _ y hy hs => (Coord.timeout_commitAns_some _ _ hy).imp_right fun h => by subst h; cases hs)

omit [SqlValue V] in
theorem finish (hC : Committing s w) : Committing s (World.finish s w) :=
  hC.frame (fun _ hb => ⟨hb, fun _ => id, fun _ => id⟩) (fun _ => id) rfl nofun rfl rfl
    (fun _ _ hy _ => .inl hy) (fun _ _ _ hy _ => .inl hy)

theorem crash (hC : Committing s w) (hB : Base w) (a : String) :
    Committing s (w.step codec s (.crash a)) := by
  have hlost : ∀ b, b ∉ (w.step codec s (.crash a)).lost →
      b ∉ w.lost ∧ (b = a → ¬ ((w.nodes a).pendingData s.txID).isSome) := by
    intro b hb
    simp only [World.step] at hb
    split_ifs at hb with h
    · simp only [List.mem_cons, not_or] at hb
      exact ⟨hb.2, fun hba => absurd hba hb.1⟩
    · exact ⟨hb, fun _ => h⟩
  have hnode : ∀ b, b ∉ (w.step codec s (.crash a)).lost → Holds (w.nodes b) s.txID →
      Holds ((w.step codec s (.crash a)).nodes b) s.txID := fun b hb hh => by
    have hba : b ≠ a := fun hba => (hlost b hb).2 hba (hba ▸ pendingData_of_holds (hB.store b) hh)
    simpa [World.step, Function.update_noteq hba] using hh
  have hn : (w.step codec s (.crash a)).nodes = Function.update w.nodes a (restart (w.nodes a)) := rfl
  obtain ⟨hc, hph⟩ := @World.crash_coord P V _ codec s w a
  refine hC.frame (fun b hb => ⟨(hlost b hb).1, fun _ => hn ▸ update_keeps (Committed · s.txID) restart_committed b,
    fun _ => hnode b hb⟩) (fun _ => id) rfl (fun h => ?_) (by rw [hc]) (by rw [hc])
    (fun _ _ hy _ => .inl (by rwa [hc] at hy)) (fun _ _ _ hy _ => .inl (by rwa [hc] at hy))
  rcases hph with h' | h' <;> rw [h'] at h
  exacts [h, nomatch h]

theorem other (hC : Committing s w) (hB : Base w) (hO : OthersClean s w) (a : String) (c : Call P) :
    Committing s (w.step codec s (.other a c)) := by
  simp only [World.step]
  split_ifs with h
  · exact hC
  · exact hC.frame (fun b hb => ⟨hb,
      fun _ => update_keeps (Committed · s.txID) (step_committed_other (hB.store a) (hO a _ h) h) b,
      fun _ => update_keeps (Holds · s.txID) (step_holds_other (hB.store a) h) b⟩)
      (fun _ => id) rfl id rfl rfl (fun _ _ hy _ => .inl hy) (fun _ _ _ hy _ => .inl hy)

theorem deliver (hC : Committing s w) (hB : Base w) (hD : Decision s w) (i : Nat) (o : Outcomes)
    (replied : Bool) :
    Committing s (World.deliver codec s w i o replied) := by
  cases hi : w.net[i]? with
  | none => rwa [World.deliver_of_none hi]
  | some req =>
    rw [World.deliver_of_get hi]
    have hmem := List.getElem?_mem hi
    have hc := Coord.records_if w.coord req.addr (serve codec s (w.nodes req.addr) o req).1 replied
    have hnet : ∀ b, Req.commit b ∈ w.net.eraseIdx i → Req.commit b ∈ w.net :=
      fun _ hb => (List.eraseIdx_sublist ..).subset hb
    cases req with
    | prepare a =>
      simp only [Req.addr, serve_prepare] at hc ⊢
      have hi' := hB.store a
      refine hC.frame (fun b hb => ⟨hb,
        fun _ => update_keeps (Committed · s.txID) (prepare_committed · _ _) b,
        fun _ => update_keeps (Holds · s.txID) (fun hh => by rwa [prepare_of_holds hi' hh]) b⟩)
        hnet rfl (hc.phase ▸ id) hc.localPrepare hc.localCommit (fun b y hy hs => ?_)
        (fun b _ y hy _ => ?_)
      · rcases hc.prepareAns b y hy with hy | ⟨rfl, h⟩
        · exact .inl hy
        · cases h
          obtain ⟨h1, h2⟩ := prepareSucceeded_handlePrepare hs
          exact .inr (by
            simpa only [Function.update_same] using prepare_ready_holds (hB.hasDb b) (Prod.ext h1 h2))
      · rcases hc.commitAns b y hy with hy | ⟨-, h⟩
        exacts [.inl hy, by cases h]
    | commit a =>
      simp only [Req.addr, serve_commit] at hc ⊢
      have hd : w.decided = some true := of_not_not fun hd => hD.noCommit hd a hmem
      have hi' := hB.store a
      refine hC.frame (fun b hb => ⟨hb,
        fun _ => update_keeps (Committed · s.txID) (commit_committed hi' · _) b, fun hq hh => ?_⟩)
        hnet rfl (hc.phase ▸ id) hc.localPrepare hc.localCommit (fun b y hy _ => ?_)
        (fun b hb y hy hs => ?_)
      · by_cases hba : b = a
        · subst hba
          rcases hq with hq | hq
          · simp [hD.preparing (hc.phase ▸ hq)] at hd
          · exact absurd hq (hD.served_gone hi)
        · simpa [Function.update_noteq hba] using hh
      · rcases hc.prepareAns b y hy with hy | ⟨-, h⟩
        exacts [.inl hy, by cases h]
      · rcases hc.commitAns b y hy with hy | ⟨rfl, h⟩
        · exact .inl hy
        · cases h
          have herr := commitSucceeded_handleCommit hs
          refine .inr ?_
          simp only [Function.update_same]
          rcases hC.commitSent hd b hb hmem with hh | hc
          exacts [commit_holds_committed hi' hh herr, commit_committed hi' hc _]
    | abort a =>
      have hd : w.decided = some false := of_not_not fun hd => hD.noAbort hd a hmem
      have hnp : w.coord.phase ≠ .preparing := fun hp => by simp [hD.preparing hp] at hd
      have hnt : w.decided ≠ some true := by simp [hd]
      exact ⟨fun _ _ hp => absurd (hc.phase.symm.trans hp) hnp,
        fun _ hp => absurd (hc.phase.symm.trans hp) hnp, fun h => absurd h hnt,
        fun h => absurd h hnt, fun h => absurd h hnt⟩

theorem start (hB : Base w) (hD : Decision s w) (o : Participant.PrepareOutcome)
    (hi : w.coord.phase = .idle) : Committing s (World.start codec s w o) := by
  obtain ⟨-, hd, hc⟩ := hD.idle hi
  have hnt : w.decided ≠ some true := by simp [hd]
  rw [World.start_eq]
  by_cases h0 : s.remotes.length + (if s.localNode.isSome then 1 else 0) = 0
  · rw [if_pos h0]
    exact ⟨fun _ _ h => (nomatch h), fun _ h => (nomatch h), fun h => absurd h hnt, fun h => absurd h hnt,
      fun h => absurd h hnt⟩
  · rw [if_neg h0]
    refine ⟨fun l hl _ hr _ => ?_, fun b _ _ y hy => ?_, fun h => absurd h hnt, fun h => absurd h hnt,
      fun h => absurd h hnt⟩
    · simp only [hl, Function.update_same] at hr ⊢
      exact prepare_ready_holds (hB.hasDb l) (localReady_iff.mp hr)
    · simp [hc, Coord.init] at hy

theorem decide (hC : Committing s w) (hB : Base w) (hD : Decision s w) (hLR : LocalRemote s w)
    (oc : CommitOutcome) (oa : AbortOutcome)
    (hp : w.coord.phase = .preparing) : Committing s (World.decide s w oc oa) := by
  have hd := hD.preparing hp
  rw [World.decide_eq]
  dsimp only
  by_cases hf : (prepareTransaction s.txID s.localNode w.coord.answers s.remotes).1.failedNodes.length > 0
  · rw [if_pos hf]
    exact ⟨fun _ _ h => (nomatch h), fun _ h => (nomatch h), nofun, nofun, nofun⟩
  · rw [if_neg hf]
    have hall : allPrepared s.localNode s.remotes w.coord.answers = true := by
      simpa [failedNodes_pos_iff] using hf
    rw [prepareTransaction_outcome]
    refine ⟨fun _ _ h => (nomatch h), fun _ h => (nomatch h), fun _ a hlost ha => ?_, fun _ a _ y hy => ?_,
      fun _ l hl' hlost hlc => ?_⟩
    · rcases List.mem_append.mp ha with ha | ha
      · exact absurd ha (hD.noCommit (by simp [hd]) a)
      · obtain ⟨b, hb, he⟩ := List.mem_map.mp ha
        cases he
        obtain ⟨hb, hs⟩ := List.mem_filter.mp hb
        cases hy : w.coord.prepareAns a with
        | none => simp [Coord.answers, hy, prepareSucceeded] at hs
        | some y =>
          have hs' : prepareSucceeded y = true := by simpa [Coord.answers, hy] using hs
          have hh := hC.remoteHolds a hp hlost y hy hs'
          refine .inl ?_
          cases hln : s.localNode with
          | none => exact hh
          | some l =>
            have hal : a ≠ l := by
              rintro rfl
              have hr : localReady w.coord.answers = true := by
                simpa [hln] using (allPrepared_iff.mp hall).1
              simp [hLR a hln hp hr y hy] at hs'
            dsimp only
            split_ifs
            · simpa [Function.update_noteq hal] using hh
            · exact hh
    · simp [hD.noCommitAns (by simp [hd]) a] at hy
    · have hr : localReady w.coord.answers = true := by
        simpa [hl'] using (allPrepared_iff.mp hall).1
      simp only [hl', Option.isSome_some, hr, Bool.and_self, if_true, Function.update_same] at hlc ⊢
      exact commit_holds_committed (hB.store l) (hC.localHolds l hl' hp hr hlost) hlc

end Committing

/-! ### Whole runs -/

structure Reachable (s : Setup P) (w : World P V) : Prop where
  base : Base w
  decision : Decision s w
  live : LocalLive s w

namespace Reachable

variable {w : World P V}

omit [SqlValue V] in
theorem init (stores : String → Store V) : Reachable s (World.init stores : World P V) :=
  ⟨Base.init stores, Decision.init stores, fun _ _ _ => List.not_mem_nil _⟩

theorem step (hnd : s.remotes.Nodup) (hR : Reachable s w) (e : Event P) :
    Reachable s (w.step codec s e) :=
  ⟨hR.base.step hR.decision e, hR.decision.step hnd e, hR.live.step e⟩

theorem run (hnd : s.remotes.Nodup) (hR : Reachable s w) (es : List (Event P)) :
    Reachable s (w.run codec s es) := by
  induction es generalizing w with
  | nil => exact hR
  | cons e es ih => exact ih (hR.step hnd e)

end Reachable

theorem LocalRemote.step {w : World P V} (hLR : LocalRemote s w) (hR : Reachable s w)
    (hC : Committing s w) : ∀ e : Event P, LocalRemote s (w.step codec s e)
  | .start o => fun l hl hp hr y hy => by
    simp only [World.step] at hp hr hy
    split_ifs at hp hr hy with hi
    · obtain ⟨-, -, hc⟩ := hR.decision.idle hi
      rw [World.start_eq] at hy
      split_ifs at hy <;> simp [hc, Coord.init] at hy
    · exact hLR l hl hp hr y hy
  | .deliver i o replied => by
    cases hi : w.net[i]? with
    | none => simpa only [World.step, World.deliver_of_none hi] using hLR
    | some req =>
      intro l hl hp hr y hy
      simp only [World.step, World.deliver_of_get hi] at hp hr hy
      have hc := Coord.records_if w.coord req.addr (serve codec s (w.nodes req.addr) o req).1 replied
      rw [hc.phase] at hp
      have hr' : localReady w.coord.answers = true := by
        simpa [localReady, Coord.answers, hc.localPrepare] using hr
      rcases hc.prepareAns l y hy with hy | ⟨rfl, hreq⟩
      · exact hLR l hl hp hr' y hy
      · have hh := hC.localHolds _ hl hp hr' (hR.live _ hl (.inr hp))
        cases req with
        | prepare a =>
          simp only [serve_prepare, prepare_of_holds (hR.base.store _) hh, Reply.prepare.injEq] at hreq
          subst hreq; rfl
        | commit a => simp at hreq
        | abort a => simp at hreq
  | .timeout a => fun l hl hp hr y hy => by
    simp only [World.step, Coord.timeout_phase] at hp hr hy
    rcases Coord.timeout_prepareAns_some _ _ hy with hy | rfl
    · exact hLR l hl hp (by simpa [localReady, Coord.answers] using hr) y hy
    · rfl
  | .decide oc oa => fun l hl hp hr y hy => by
    simp only [World.step] at hp hr hy
    split_ifs at hp hr hy with h
    · rw [World.decide_eq] at hp; dsimp only at hp; split_ifs at hp
    · exact hLR l hl hp hr y hy
  | .finish => by
    simp only [World.step]
    split <;> (try split_ifs) <;> first | exact hLR | exact fun _ _ hp => nomatch hp
  | .crash a => fun l hl hp hr y hy => by
    obtain ⟨hc, hph⟩ := @World.crash_coord P V _ codec s w a
    rw [hc] at hr hy
    rcases hph with h' | h' <;> rw [h'] at hp
    exacts [hLR l hl hp hr y hy, nomatch hp]
  | .other a c => by
    simp only [World.step]
    split_ifs
    exacts [hLR, hLR]

structure Atomic (s : Setup P) (w : World P V) : Prop where
  committing : Committing s w
  localRemote : LocalRemote s w
  others : OthersClean s w

namespace Atomic

variable {w : World P V}

omit [SqlValue V] in
theorem init (stores : String → Store V) : Atomic s (World.init stores : World P V) :=
  ⟨Committing.init stores, (fun _ _ h => nomatch h),
    fun _ _ _ _ _ h => by simp [World.init, newNodeWithDB, Db.connect] at h⟩

theorem step (hR : Reachable s w) (hA : Atomic s w) (e : Event P)
    (he : e.namesAuditTable codec = false) : Atomic s (w.step codec s e) := by
  have hB := hR.base
  have hD := hR.decision
  refine ⟨?_, hA.localRemote.step hR hA.committing e, hA.others.step hD e he⟩
  have hC := hA.committing
  cases e with
  | start o =>
    simp only [World.step]
    split_ifs with h
    exacts [Committing.start hB hD o h, hC]
  | deliver i o replied => exact hC.deliver hB hD i o replied
  | timeout a => exact hC.timeout a
  | decide oc oa =>
    simp only [World.step]
    split_ifs with h
    exacts [hC.decide hB hD hA.localRemote oc oa h.1, hC]
  | finish =>
    simp only [World.step]
    split <;> (try split_ifs) <;> first | exact hC | exact hC.finish
  | crash a => exact hC.crash hB a
  | other a c => exact hC.other hB hA.others a c

theorem run (hnd : s.remotes.Nodup) (hR : Reachable s w) (hA : Atomic s w) (es : List (Event P))
    (hes : ∀ e ∈ es, e.namesAuditTable codec = false) : Atomic s (w.run codec s es) := by
  induction es generalizing w with
  | nil => exact hA
  | cons e es ih =>
    exact ih (hR.step hnd e) (hA.step hR e (hes e (List.mem_cons_self ..)))
      fun e' h => hes e' (List.mem_cons_of_mem _ h)

end Atomic

theorem Unwritten.run {w : World P V} (hnd : s.remotes.Nodup) (hU : Unwritten s w)
    (hR : Reachable s w) (es : List (Event P)) : Unwritten s (w.run codec s es) := by
  induction es generalizing w with
  | nil => exact hU
  | cons e es ih => exact ih (hU.step hR.base hR.decision e) (hR.step hnd e)

/-! ### Atomic commitment -/

/-- Atomic commitment, for every run of `Execute` over distinct remote participants, with any
loss, delay and reordering of requests and replies, timeouts, crashes and restarts, and other
transactions on the participants whose payloads leave `distributed_tx` alone: once `Execute`
has returned `r`, in every later state, (a) if `r` reports success, every participant that did
not crash while it held `txID` pending has `txID`'s write and a `COMMITTED` row committed;
(b) if `r` reports a prepare failure and no participant had `txID`'s write before, none has
it. -/
theorem execute_atomic (stores : String → Store V) (hnd : s.remotes.Nodup) (es es' : List (Event P))
    (hes : ∀ e ∈ es ++ es', e.namesAuditTable codec = false) {r : TransactionResponse}
    (hr : ((World.init stores : World P V).run codec s es).coord.phase = .done r) :
    let w := (World.init stores : World P V).run codec s (es ++ es')
    (r.success = true → ∀ a, s.localNode = some a ∨ a ∈ s.remotes → a ∉ w.lost →
      Committed (w.nodes a) s.txID) ∧
    ((∀ a, ¬ (stores a).written s.txID) → ∀ e, r.error = "Prepare failed for nodes: " ++ e →
      ∀ a, ¬ (w.nodes a).db.store.written s.txID) := by
  intro w
  have hR : Reachable s w := (Reachable.init stores).run hnd _
  have hA : Atomic s w := (Atomic.init stores).run hnd (Reachable.init stores) _ hes
  have hr' : w.coord.phase = .done r := by
    simp only [w, World.run_append, (World.run_of_done hr es').1, hr]
  refine ⟨fun hs a ha hlost => ?_, fun hfresh e he a => ?_⟩
  · obtain ⟨hdec, hall⟩ := hR.decision.success_of_done hr' hs
    obtain ⟨hloc, hrem⟩ := allCommitted_iff.mp hall
    rcases ha with ha | ha
    · exact hA.committing.localCommitted hdec a ha hlost (hloc (by simp [ha]))
    · have hy := hrem a ha
      cases hc : w.coord.commitAns a with
      | none => simp [Coord.answers, hc, commitSucceeded] at hy
      | some y =>
        exact hA.committing.commitAnswered hdec a hlost y hc (by simpa [Coord.answers, hc] using hy)
  · have hU : Unwritten s w := Unwritten.run hnd (fun _ a => hfresh a) (Reachable.init stores) _
    exact hU (hR.decision.undecided_of_prepareFailed hr' he) a

theorem execute_atomic_oneRemote :
    let s : Setup (SQLAction Nat) := ⟨"t", some usersInsert, none, ["a"]⟩
    let codec : Codec (SQLAction Nat) Nat := actionCodec fun _ => .ok ""
    let stores : String → Store Nat := fun _ => Store.empty
    let es : List (Event (SQLAction Nat)) :=
      [.start .ok, .deliver 0 ⟨.ok, .ok, .ok⟩ true, .decide .ok .ok, .deliver 0 ⟨.ok, .ok, .ok⟩ true, .finish]
    let r : TransactionResponse := ⟨"t", true, "Transaction committed on 1 nodes", ""⟩
    let w := (World.init stores : World (SQLAction Nat) Nat).run codec s (es ++ [])
    s.remotes.Nodup ∧ (∀ e ∈ es ++ [], e.namesAuditTable codec = false) ∧
      ((World.init stores : World (SQLAction Nat) Nat).run codec s es).coord.phase = .done r ∧
      (r.success = true → ∀ a, s.localNode = some a ∨ a ∈ s.remotes → a ∉ w.lost →
        Committed (w.nodes a) s.txID) ∧
      ((∀ a, ¬ (stores a).written s.txID) → ∀ e, r.error = "Prepare failed for nodes: " ++ e →
        ∀ a, ¬ (w.nodes a).db.store.written s.txID) :=
  ⟨by decide, by decide, by decide, execute_atomic _ (by decide) _ [] (by decide) (by decide)⟩

theorem written_only_if_all_prepared (stores : String → Store V) (hnd : s.remotes.Nodup)
    (hfresh : ∀ a, ¬ (stores a).written s.txID) (es : List (Event P)) (a : String)
    (hw : (((World.init stores : World P V).run codec s es).nodes a).db.store.written s.txID) :
    allPrepared s.localNode s.remotes ((World.init stores : World P V).run codec s es).coord.answers =
      true := by
  have hR : Reachable s ((World.init stores : World P V).run codec s es) :=
    (Reachable.init stores).run hnd es
  have hU : Unwritten s ((World.init stores : World P V).run codec s es) :=
    Unwritten.run hnd (fun _ a => hfresh a) (Reachable.init stores) es
  by_contra h
  exact hU (fun hdec => h (hR.decision.decided true hdec)) a hw

theorem written_only_if_all_prepared_oneRemote :
    let s : Setup (SQLAction Nat) := ⟨"t", some usersInsert, none, ["a"]⟩
    let codec : Codec (SQLAction Nat) Nat := actionCodec fun _ => .ok ""
    let es : List (Event (SQLAction Nat)) :=
      [.start .ok, .deliver 0 ⟨.ok, .ok, .ok⟩ true, .decide .ok .ok, .deliver 0 ⟨.ok, .ok, .ok⟩ true]
    s.remotes.Nodup ∧ (∀ _ : String, ¬ (Store.empty : Store Nat).written s.txID) ∧
      (((World.init fun _ => Store.empty : World (SQLAction Nat) Nat).run codec s es).nodes
        "a").db.store.written s.txID ∧
      allPrepared s.localNode s.remotes
        ((World.init fun _ => Store.empty : World (SQLAction Nat) Nat).run codec s es).coord.answers =
        true :=
  ⟨by decide, fun _ => by decide, by decide,
    written_only_if_all_prepared _ (by decide) (fun _ => by decide) _ "a" (by decide)⟩

theorem execute_success_not_committed :
    let s : Setup (SQLAction Nat) := ⟨"t", some usersInsert, none, ["a"]⟩
    let codec : Codec (SQLAction Nat) Nat := actionCodec fun _ => .ok ""
    let w := (World.init fun _ => Store.empty : World (SQLAction Nat) Nat).run codec s
      [.start .ok, .deliver 0 ⟨.ok, .ok, .ok⟩ true, .decide .ok .ok, .crash "a",
        .deliver 0 ⟨.ok, .ok, .ok⟩ true, .finish]
    let s' : Setup (SQLAction String) := ⟨"t", some usersName, none, ["a"]⟩
    let codec' : Codec (SQLAction String) String := actionCodec fun _ => .ok ""
    let w' := (World.init fun _ => Store.empty : World (SQLAction String) String).run codec' s'
      [.start .ok, .deliver 0 ⟨.ok, .ok, .ok⟩ true, .decide .ok .ok, .deliver 0 ⟨.ok, .ok, .ok⟩ true,
        .finish, .other "a" (.prepare "u" (some (renameRow "t" "z")) .ok), .other "a" (.commit "u" .ok)]
    w.coord.phase = .done ⟨"t", true, "Transaction committed on 1 nodes", ""⟩ ∧
      ¬ Committed (w.nodes "a") s.txID ∧ w.lost = ["a"] ∧
      w'.coord.phase = .done ⟨"t", true, "Transaction committed on 1 nodes", ""⟩ ∧
      ¬ Committed (w'.nodes "a") s'.txID ∧ w'.lost = [] := by
  intro s codec w s' codec' w'
  have h : w.coord.phase = .done ⟨"t", true, "Transaction committed on 1 nodes", ""⟩ ∧
      (w.nodes "a").db.store.data = [] ∧ w.lost = ["a"] := by decide
  have h' : w'.coord.phase = .done ⟨"t", true, "Transaction committed on 1 nodes", ""⟩ ∧
      (w'.nodes "a").db.store.rows s'.txID = none ∧ w'.lost = [] := by decide
  exact ⟨h.1, fun ⟨⟨_, hm⟩, _⟩ => by simp [h.2.1] at hm, h.2.2, h'.1,
    fun ⟨_, _, hb⟩ => (by rw [h'.2.1] at hb; cases hb), h'.2.2⟩

end TwoPc.System
