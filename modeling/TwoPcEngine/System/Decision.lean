import TwoPcEngine.System.World

/-! The coordinator's records along a run: the requests in flight, the answers it holds and
its decision. The branch `Execute` takes, and the response it returns, agree with the answers
it heard, whatever the network and the participants do. -/

namespace TwoPc.System

open Participant Coordinator Sql

variable {P V : Type} [SqlValue V] {codec : Codec P V} {s : Setup P}

/-- What the coordinator's records and the requests in flight say about its decision. -/
structure Decision (s : Setup P) (w : World P V) : Prop where
  netRemote : ∀ q ∈ w.net, q.addr ∈ s.remotes
  netNodup : w.net.Nodup
  idle : w.coord.phase = .idle → w.net = [] ∧ w.decided = none ∧ w.coord = Coord.init
  preparing : w.coord.phase = .preparing → w.decided = none
  committing : w.coord.phase = .committing → w.decided = some true
  aborting : w.coord.phase = .aborting → w.decided = some false
  /-- `Commit` goes out only after the decision to commit, `Abort` only after the decision to
  abort. -/
  noCommit : w.decided ≠ some true → ∀ a, Req.commit a ∉ w.net
  noAbort : w.decided ≠ some false → ∀ a, Req.abort a ∉ w.net
  noCommitAns : w.decided ≠ some true → ∀ a, w.coord.commitAns a = none
  /-- The decision is the one the prepare answers call for. -/
  decided : ∀ b, w.decided = some b → allPrepared s.localNode s.remotes w.coord.answers = b
  /-- The response is `Execute`'s over the answers heard, after a decision unless there is no
  participant. -/
  done : ∀ r, w.coord.phase = .done r → r = (execute s.txID s.localNode s.remotes w.coord.answers).2
  doneDecided : ∀ r, w.coord.phase = .done r →
    w.decided.isSome ∨ s.remotes.length + (if s.localNode.isSome then 1 else 0) = 0

namespace Decision

variable {w : World P V}

omit [SqlValue V] in
theorem init (stores : String → Store V) : Decision s (World.init stores : World P V) where
  netRemote := by simp [World.init]
  netNodup := List.nodup_nil
  idle := fun _ => ⟨rfl, rfl, rfl⟩
  preparing := fun _ => rfl
  committing := fun h => by cases h
  aborting := fun h => by cases h
  noCommit := by simp [World.init]
  noAbort := by simp [World.init]
  noCommitAns := fun _ _ => rfl
  decided := fun _ h => by cases h
  done := fun _ h => by cases h
  doneDecided := fun _ h => by cases h

omit [SqlValue V] in
theorem sent (hD : Decision s w) {f : String → Req} (hf : Function.Injective f)
    (haddr : ∀ a, (f a).addr = a) {xs : List String} (hxs : xs ⊆ s.remotes) (hnd : xs.Nodup)
    (hnew : ∀ a, f a ∉ w.net) :
    (∀ q ∈ w.net ++ xs.map f, q.addr ∈ s.remotes) ∧ (w.net ++ xs.map f).Nodup := by
  refine ⟨fun q hq => ?_, List.nodup_append.mpr ⟨hD.netNodup, hnd.map hf, fun q hq hq' => ?_⟩⟩
  · rcases List.mem_append.mp hq with hq | hq
    · exact hD.netRemote q hq
    · obtain ⟨a, ha, rfl⟩ := List.mem_map.mp hq
      rw [haddr]
      exact hxs ha
  · obtain ⟨a, -, rfl⟩ := List.mem_map.mp hq'
    exact hnew a hq

omit [SqlValue V] in
theorem served_gone (hD : Decision s w) {i : Nat} {req : Req} (hi : w.net[i]? = some req) :
    req ∉ w.net.eraseIdx i := by
  obtain ⟨h, rfl⟩ := List.getElem?_eq_some_iff.mp hi
  rw [← hD.netNodup.erase_getElem i h]
  exact fun hm => (hD.netNodup.mem_erase_iff.mp hm).1 rfl

omit [SqlValue V] in
theorem mono (hD : Decision s w) {w' : World P V} (hnet : w'.net.Sublist w.net)
    (hd : w'.decided = w.decided) (hphase : w'.coord.phase = w.coord.phase ∨ w'.coord.phase = .dead)
    (hlp : w'.coord.localPrepare = w.coord.localPrepare)
    (hpa : w'.coord.prepareAns = w.coord.prepareAns ∨ w.coord.phase = .preparing)
    (hca : w'.coord.commitAns = w.coord.commitAns ∨ w.coord.phase = .committing)
    (hidle : w'.coord.phase = .idle → w'.coord = w.coord)
    (hdone : ∀ r, w'.coord.phase = .done r → w'.coord = w.coord) : Decision s w' where
  netRemote q hq := hD.netRemote q (hnet.subset hq)
  netNodup := hD.netNodup.sublist hnet
  idle h := by
    have hc := hidle h
    obtain ⟨hn, hdn, hci⟩ := hD.idle (hc ▸ h)
    exact ⟨List.sublist_nil.mp (hn ▸ hnet), hd ▸ hdn, hc.trans hci⟩
  preparing h := hd ▸ hD.preparing (by rcases hphase with h' | h' <;> simp_all)
  committing h := hd ▸ hD.committing (by rcases hphase with h' | h' <;> simp_all)
  aborting h := hd ▸ hD.aborting (by rcases hphase with h' | h' <;> simp_all)
  noCommit h a ha := hD.noCommit (hd ▸ h) a (hnet.subset ha)
  noAbort h a ha := hD.noAbort (hd ▸ h) a (hnet.subset ha)
  noCommitAns h a := by
    rcases hca with hc | hc
    · rw [hc]; exact hD.noCommitAns (hd ▸ h) a
    · exact absurd (hd ▸ hD.committing hc) h
  decided b hb := by
    rcases hpa with hp | hp
    · rw [Coord.allPrepared_congr _ hlp hp]; exact hD.decided b (hd ▸ hb)
    · simp [hd, hD.preparing hp] at hb
  done r h := by
    have hc := hdone r h
    rw [hc] at h ⊢
    exact hD.done r h
  doneDecided r h := hd ▸ hD.doneDecided r (hdone r h ▸ h)

omit [SqlValue V] in
theorem frame (hD : Decision s w) {w' : World P V} (hn : w'.net = w.net) (hc : w'.coord = w.coord)
    (hd : w'.decided = w.decided) : Decision s w' :=
  hD.mono (hn ▸ .refl _) hd (.inl (hc ▸ rfl)) (hc ▸ rfl) (.inl (hc ▸ rfl)) (.inl (hc ▸ rfl))
    (fun _ => hc) fun _ _ => hc

theorem start (hnd : s.remotes.Nodup) (hD : Decision s w) (o : Participant.PrepareOutcome)
    (hi : w.coord.phase = .idle) : Decision s (World.start codec s w o) := by
  obtain ⟨hn, hd, hc⟩ := hD.idle hi
  rw [World.start_eq]
  by_cases h0 : s.remotes.length + (if s.localNode.isSome then 1 else 0) = 0
  · rw [if_pos h0]
    constructor <;> simp [hn, hd, hc, Coord.init]
    · simp only [execute, if_pos h0]
    · simpa using h0
  · rw [if_neg h0]
    constructor <;> simp [hn, hd, hc, Coord.init, Req.addr]
    exact hnd.map fun _ _ h => Req.prepare.inj h

theorem decide (hnd : s.remotes.Nodup) (hD : Decision s w) (oc : CommitOutcome) (oa : AbortOutcome)
    (hp : w.coord.phase = .preparing) : Decision s (World.decide s w oc oa) := by
  have hd := hD.preparing hp
  have hc : w.decided ≠ some true := by simp [hd]
  have ha : w.decided ≠ some false := by simp [hd]
  rw [World.decide_eq]
  dsimp only
  by_cases hf : (prepareTransaction s.txID s.localNode w.coord.answers s.remotes).1.failedNodes.length > 0
  · rw [if_pos hf]
    obtain ⟨hr, hn⟩ := hD.sent (fun _ _ h => Req.abort.inj h) (fun _ => rfl) (List.Subset.refl _) hnd
      (hD.noAbort ha)
    exact ⟨hr, hn, nofun, nofun, nofun, fun _ => rfl, fun _ a => by simp [hD.noCommit hc a],
      fun h => absurd rfl h, fun _ => hD.noCommitAns hc,
      fun b hb => (by cases hb; exact failedNodes_pos_iff.mp hf), nofun, nofun⟩
  · rw [if_neg hf]
    have hpr : (prepareTransaction s.txID s.localNode w.coord.answers s.remotes).1.preparedRemotes =
        s.remotes.filter fun a => prepareSucceeded (w.coord.answers.prepare a) := by
      rw [prepareTransaction_outcome]
    obtain ⟨hr, hn⟩ := hD.sent (fun _ _ h => Req.commit.inj h) (fun _ => rfl)
      (hpr ▸ (List.filter_sublist _).subset) (hpr ▸ hnd.filter _) (hD.noCommit hc)
    exact ⟨hr, hn, nofun, nofun, fun _ => rfl, nofun, fun h => absurd rfl h,
      fun _ a => by simp [hD.noAbort ha a], fun h => absurd rfl h,
      fun b hb => (by cases hb; simpa [failedNodes_pos_iff] using hf), nofun, nofun⟩

theorem deliver (hD : Decision s w) (i : Nat) (o : Outcomes) (replied : Bool) :
    Decision s (World.deliver codec s w i o replied) := by
  cases hi : w.net[i]? with
  | none => rwa [World.deliver_of_none hi]
  | some req =>
    rw [World.deliver_of_get hi]
    have hidle : w.coord.phase ≠ .idle := fun h => by simp [(hD.idle h).1] at hi
    cases replied
    · exact hD.mono (List.eraseIdx_sublist ..) rfl (.inl rfl) rfl (.inl rfl) (.inl rfl) (fun _ => rfl)
        fun _ _ => rfl
    · simp only [if_true]
      generalize (serve codec s (w.nodes req.addr) o req).1 = x
      exact hD.mono (List.eraseIdx_sublist ..) rfl (.inl (Coord.record_phase ..))
        (Coord.record_localPrepare ..) ((Coord.record_prepareAns ..).imp_right (·.1))
        ((Coord.record_commitAns ..).imp_right (·.1)) (fun h => absurd (by simpa using h) hidle)
        fun r h => Coord.record_of_done _ _ (by simpa using h) x

omit [SqlValue V] in
theorem timeout (hD : Decision s w) (a : String) :
    Decision s { w with coord := w.coord.timeout a } :=
  hD.mono (List.Sublist.refl _) rfl (.inl (Coord.timeout_phase ..)) (Coord.timeout_localPrepare ..)
    ((Coord.timeout_prepareAns ..).imp_right (·.1)) ((Coord.timeout_commitAns ..).imp_right (·.1))
    (fun h => Coord.timeout_of_idle _ _ (by simpa using h))
    fun _ h => Coord.timeout_of_done _ _ (by simpa using h)

theorem crash (hD : Decision s w) (a : String) : Decision s (w.step codec s (.crash a)) := by
  simp only [World.step]
  split_ifs <;> first
    | exact hD.frame rfl rfl rfl
    | exact hD.mono (.refl _) rfl (.inr rfl) rfl (.inl rfl) (.inl rfl) (fun h => by cases h) fun _ h => by cases h

omit [SqlValue V] in
theorem finish (hD : Decision s w) (hp : w.coord.phase = .committing ∨ w.coord.phase = .aborting) :
    Decision s (World.finish s w) where
  netRemote := hD.netRemote
  netNodup := hD.netNodup
  idle h := by cases h
  preparing h := by cases h
  committing h := by cases h
  aborting h := by cases h
  noCommit := hD.noCommit
  noAbort := hD.noAbort
  noCommitAns := hD.noCommitAns
  decided := hD.decided
  done _ h := by cases h; rfl
  doneDecided _ _ := .inl (by
    rcases hp with h | h <;> [simp [World.finish, hD.committing h]; simp [World.finish, hD.aborting h]])

theorem step (hnd : s.remotes.Nodup) (hD : Decision s w) : ∀ e : Event P, Decision s (w.step codec s e)
  | .start o => by
    simp only [World.step]
    split_ifs with h
    exacts [hD.start hnd o h, hD]
  | .deliver i o replied => hD.deliver i o replied
  | .timeout a => hD.timeout a
  | .decide oc oa => by
    simp only [World.step]
    split_ifs with h
    exacts [hD.decide hnd oc oa h.1, hD]
  | .finish => by
    simp only [World.step]
    split <;> (try split_ifs) <;> first | exact hD | exact hD.finish (by simp_all)
  | .crash a => hD.crash a
  | .other a c => by
    simp only [World.step]
    split_ifs
    exacts [hD, hD.frame rfl rfl rfl]

theorem step_decided (hD : Decision s w) {b : Bool} (h : w.decided = some b) (e : Event P) :
    (w.step codec s e).decided = some b :=
  (World.step_decided e).elim (·.trans h) fun hp => by simp [hD.preparing hp] at h

theorem run (hnd : s.remotes.Nodup) (hD : Decision s w) (es : List (Event P)) :
    Decision s (w.run codec s es) := by
  induction es generalizing w with
  | nil => exact hD
  | cons e es ih => exact ih (hD.step hnd e)

theorem run_decided (hnd : s.remotes.Nodup) (hD : Decision s w) {b : Bool} (h : w.decided = some b)
    (es : List (Event P)) : (w.run codec s es).decided = some b := by
  induction es generalizing w with
  | nil => exact h
  | cons e es ih => exact ih (hD.step hnd e) (hD.step_decided h e)

/-! ### What the response says -/

omit [SqlValue V] in
theorem success_of_done (hD : Decision s w) {r : TransactionResponse} (h : w.coord.phase = .done r)
    (hs : r.success = true) :
    w.decided = some true ∧ allCommitted s.localNode s.remotes w.coord.answers = true := by
  rw [hD.done r h] at hs
  have h0 : s.remotes.length + (if s.localNode.isSome then 1 else 0) ≠ 0 := fun h0 => by
    simp [execute, h0] at hs
  cases hp : allPrepared s.localNode s.remotes w.coord.answers
  · rw [execute_of_refused hp] at hs
    cases hs
  · rw [execute_of_prepared h0 hp] at hs
    split at hs
    · obtain ⟨b, hb⟩ := Option.isSome_iff_exists.mp ((hD.doneDecided r h).resolve_right h0)
      exact ⟨hb.trans (congrArg some ((hD.decided b hb).symm.trans hp)), ‹_›⟩
    · cases hs

theorem prepareFailed_ne {x e : String} (hx : x.length < 26) : x ≠ "Prepare failed for nodes: " ++ e :=
  fun h => by
    have hl := congrArg String.length h
    rw [String.length_append] at hl
    have h26 : "Prepare failed for nodes: ".length = 26 := by decide
    omega

omit [SqlValue V] in
theorem undecided_of_prepareFailed (hD : Decision s w) {r : TransactionResponse} {e : String}
    (h : w.coord.phase = .done r) (he : r.error = "Prepare failed for nodes: " ++ e) :
    w.decided ≠ some true := by
  intro hd
  rw [hD.done r h] at he
  by_cases h0 : s.remotes.length + (if s.localNode.isSome then 1 else 0) = 0
  · simp only [execute, if_pos h0] at he
    exact prepareFailed_ne (by decide) he
  · rw [execute_of_prepared h0 (hD.decided true hd)] at he
    split at he <;> dsimp only at he <;> exact prepareFailed_ne (by decide) he

end Decision

/-! ### The coordinator of a run -/

/-! ### The answers refine the replies -/

def Coord.answer (c : Coord) : Req → Option Reply
  | .prepare a => (c.prepareAns a).map .prepare
  | .commit a => (c.commitAns a).map .commit
  | .abort a => (c.abortAns a).map .abort

def Req.timedOut : Req → Reply
  | .prepare _ => .prepare (.error "timeout")
  | .commit _ => .commit (.error "timeout")
  | .abort _ => .abort (.error "timeout")

theorem update_map_eq_some {α β : Type} {f : String → Option α} {a b : String} {y : α}
    {g : α → β} {x : β} (h : (Function.update f a (some y) b).map g = some x) :
    (f b).map g = some x ∨ b = a ∧ x = g y := by
  by_cases hb : b = a
  · subst hb
    rw [Function.update_same] at h
    exact .inr ⟨rfl, (Option.some_injective _ h).symm⟩
  · rw [Function.update_noteq hb] at h
    exact .inl h

theorem Coord.answer_record_serve (c : Coord) (n : Node P V) (o : Outcomes) {q req : Req} {x : Reply}
    (h : (c.record q.addr (serve codec s n o q).1).answer req = some x) :
    c.answer req = some x ∨ req = q ∧ x = (serve codec s n o q).1 := by
  cases q <;> cases req <;>
    simp only [Coord.answer, Req.addr, serve_prepare, serve_commit, serve_abort, Coord.record] at h ⊢ <;>
    split_ifs at h <;>
    first
    | exact .inl h
    | (rcases update_map_eq_some h with h | ⟨rfl, rfl⟩
       exacts [.inl h, .inr ⟨rfl, rfl⟩])

theorem Coord.answer_timeout (c : Coord) (a : String) {req : Req} {x : Reply}
    (h : (c.timeout a).answer req = some x) : c.answer req = some x ∨ x = req.timedOut := by
  unfold Coord.timeout at h
  cases req <;> split at h <;> (try split_ifs at h) <;> simp only [Coord.answer] at h ⊢ <;>
    first
    | exact .inl h
    | (rcases update_map_eq_some h with h | ⟨-, rfl⟩
       exacts [.inl h, .inr rfl])

theorem World.step_answer (w : World P V) (e : Event P) {req : Req} {x : Reply}
    (h : (w.step codec s e).coord.answer req = some x) :
    w.coord.answer req = some x ∨ x = req.timedOut ∨ ∃ i o, e = .deliver i o true ∧
      w.net[i]? = some req ∧ x = (serve codec s (w.nodes req.addr) o req).1 := by
  cases e with
  | start o =>
    simp only [World.step] at h
    split_ifs at h
    · rw [World.start_eq] at h; split_ifs at h <;> exact .inl h
    · exact .inl h
  | deliver i o replied =>
    cases hi : w.net[i]? with
    | none => rw [World.step, World.deliver_of_none hi] at h; exact .inl h
    | some q =>
      rw [World.step, World.deliver_of_get hi] at h
      cases replied
      · exact .inl h
      · rcases Coord.answer_record_serve w.coord _ o h with h | ⟨rfl, rfl⟩
        exacts [.inl h, .inr (.inr ⟨i, o, rfl, hi, rfl⟩)]
  | timeout a => exact (Coord.answer_timeout w.coord a h).imp_right .inl
  | decide oc oa =>
    simp only [World.step] at h
    split_ifs at h
    · rw [World.decide_eq] at h; dsimp only at h; split_ifs at h <;> exact .inl h
    · exact .inl h
  | finish =>
    simp only [World.step] at h
    split at h <;> (try split_ifs at h) <;> exact .inl h
  | crash a =>
    simp only [World.step] at h
    split_ifs at h <;> exact .inl h
  | other a c =>
    simp only [World.step] at h
    split_ifs at h <;> exact .inl h

theorem World.run_answer (w : World P V) (es : List (Event P)) {req : Req} {x : Reply}
    (h : (w.run codec s es).coord.answer req = some x) :
    w.coord.answer req = some x ∨ x = req.timedOut ∨ ∃ k i o, es[k]? = some (.deliver i o true) ∧
      (w.run codec s (es.take k)).net[i]? = some req ∧
      x = (serve codec s ((w.run codec s (es.take k)).nodes req.addr) o req).1 := by
  induction es generalizing w with
  | nil => exact .inl h
  | cons e es ih =>
    rcases ih (w.step codec s e) h with h | h | ⟨k, i, o, hk, hi, hx⟩
    · rcases World.step_answer w e h with h | h | ⟨i, o, rfl, hi, hx⟩
      exacts [.inl h, .inr (.inl h), .inr (.inr ⟨0, i, o, List.getElem?_cons_zero, hi, hx⟩)]
    · exact .inr (.inl h)
    · exact .inr (.inr ⟨k + 1, i, o, List.getElem?_cons_succ.trans hk, hi, hx⟩)

theorem commit_sent_excludes_abort (stores : String → Store V) (hnd : s.remotes.Nodup)
    (es es' : List (Event P)) (a : String)
    (hc : Req.commit a ∈ ((World.init stores : World P V).run codec s es).net) :
    allPrepared s.localNode s.remotes ((World.init stores : World P V).run codec s es).coord.answers =
        true ∧
      ∀ b, Req.abort b ∉ ((World.init stores : World P V).run codec s (es ++ es')).net := by
  have hD : Decision s ((World.init stores : World P V).run codec s es) := (Decision.init stores).run hnd es
  have hd : ((World.init stores : World P V).run codec s es).decided = some true := by
    by_contra h
    exact hD.noCommit h a hc
  refine ⟨hD.decided true hd, fun b => ?_⟩
  rw [World.run_append]
  exact (hD.run hnd es').noAbort (by simp [hD.run_decided hnd hd es']) b

theorem commit_sent_excludes_abort_oneRemote :
    let s : Setup (SQLAction Nat) := ⟨"t", some usersInsert, none, ["a"]⟩
    let codec : Codec (SQLAction Nat) Nat := actionCodec fun _ => .ok ""
    let w₀ : World (SQLAction Nat) Nat := World.init fun _ => Store.empty
    let es : List (Event (SQLAction Nat)) := [.start .ok, .deliver 0 ⟨.ok, .ok, .ok⟩ true, .decide .ok .ok]
    s.remotes.Nodup ∧ Req.commit "a" ∈ (w₀.run codec s es).net ∧
      allPrepared s.localNode s.remotes (w₀.run codec s es).coord.answers = true ∧
      ∀ b, Req.abort b ∉ (w₀.run codec s (es ++ [.finish])).net :=
  ⟨by decide, by decide, commit_sent_excludes_abort _ (by decide) _ _ "a" (by decide)⟩

end TwoPc.System
