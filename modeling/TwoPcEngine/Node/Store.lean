import TwoPcEngine.Node.Prepare
import TwoPcEngine.Sql.Render

/-! What `Commit` and `Abort` can do, said once, and the representation invariant of the
participant store that every sequence of calls keeps. -/

namespace TwoPc.Participant

open Sql

variable {P V : Type} [SqlValue V]

/-! ### What one call can do -/

theorem commit_cases (t : TxId) (o : CommitOutcome) (n : Node P V) :
    (∃ h owner ws, n.pendingTx t = some h ∧ n.db.txs[h]? = some (.active owner ws) ∧
      ((∃ e, commit t o n = (some e, { n with db := n.db.setTx h .done })) ∨
        (∃ e, commit t o n = (some e, { n with
          db := ⟨n.db.store.applyWrites owner (ws ++ [.setStatus t .committed]), n.db.txs.set h .done⟩ })) ∨
        commit t o n = (none, finish { n with
          db := ⟨n.db.store.applyWrites owner (ws ++ [.setStatus t .committed]), n.db.txs.set h .done⟩ }
          t .commit))) ∨
    (∃ h, n.pendingTx t = some h ∧ ¬ n.db.isActive h ∧ commit t o n = (none, finish n t .commit)) ∨
    (n.pendingTx t = none ∧ ∃ s, (s = n.db.store ∨ s = n.db.store.setStatus t .committed) ∧
      ((∃ e, commit t o n = (some e, { n with db := { n.db with store := s } })) ∨
        commit t o n = (none, finish { n with db := { n.db with store := s } } t .commit))) := by
  rcases hpt : n.pendingTx t with _ | h
  · refine .inr (.inr ⟨rfl, ?_⟩)
    by_cases hdb : n.hasDb
    swap
    · exact ⟨n.db.store, .inl rfl,
        .inr (by rw [show commit t o n = (none, finish n t .commit) by simp [commit, hpt, hdb]])⟩
    cases hr : o.replay with
    | ok => exact ⟨_, .inr rfl, .inr (by simp [commit, hpt, hdb, Db.execStatus, hr])⟩
    | failed e app =>
      cases app
      · exact ⟨_, .inl rfl, .inl ⟨e.msg, by simp [commit, hpt, hdb, Db.execStatus, hr]⟩⟩
      · exact ⟨_, .inr rfl, .inl ⟨e.msg, by simp [commit, hpt, hdb, Db.execStatus, hr]⟩⟩
  by_cases ha : n.db.isActive h
  · obtain ⟨owner, ws, hh⟩ := ha
    refine .inl ⟨h, owner, ws, rfl, hh, ?_⟩
    cases hu : o.update with
    | some e =>
      exact .inl ⟨e.msg, by simp [commit, hpt, Db.txExec_setStatus hh, hu, Db.txRollback_active hh]⟩
    | none =>
      have hh' := Db.setTx_get_self (.active owner (ws ++ [.setStatus t .committed])) hh
      simp only [commit, hpt, Db.txExec_setStatus hh, hu, Db.txCommit_active hh']
      cases o.commit with
      | ok => exact .inr (.inr (by simp [Db.setTx]))
      | failed e app =>
        cases app
        · exact .inl ⟨e.msg, by simp [Db.setTx]⟩
        · exact .inr (.inl ⟨e.msg, by simp [Db.setTx]⟩)
  · exact .inr (.inl ⟨h, rfl, ha, by simp [commit, hpt, Db.txExec_done ha, Db.txCommit_done ha]⟩)

omit [SqlValue V] in
theorem abort_cases (t : TxId) (o : AbortOutcome) (n : Node P V) :
    (∃ h owner ws, n.pendingTx t = some h ∧ n.db.txs[h]? = some (.active owner ws) ∧
      ((∃ e, abort t o n = (some e, { n with db := n.db.setTx h .done })) ∨
        abort t o n = (none, finish { n with db := n.db.setTx h .done } t .abort))) ∨
    (∃ h, n.pendingTx t = some h ∧ ¬ n.db.isActive h ∧ abort t o n = (none, finish n t .abort)) ∨
    (n.pendingTx t = none ∧ ∃ s, (s = n.db.store ∨ s = n.db.store.setStatus t .aborted) ∧
      ((∃ e, abort t o n = (some e, { n with db := { n.db with store := s } })) ∨
        abort t o n = (none, finish { n with db := { n.db with store := s } } t .abort))) := by
  rcases hpt : n.pendingTx t with _ | h
  · refine .inr (.inr ⟨rfl, ?_⟩)
    by_cases hdb : n.hasDb
    swap
    · exact ⟨n.db.store, .inl rfl,
        .inr (by rw [show abort t o n = (none, finish n t .abort) by simp [abort, hpt, hdb]])⟩
    cases hr : o.replay with
    | ok => exact ⟨_, .inr rfl, .inr (by simp [abort, hpt, hdb, Db.execStatus, hr])⟩
    | failed e app =>
      cases app
      · exact ⟨_, .inl rfl, .inl ⟨e.msg, by simp [abort, hpt, hdb, Db.execStatus, hr]⟩⟩
      · exact ⟨_, .inr rfl, .inl ⟨e.msg, by simp [abort, hpt, hdb, Db.execStatus, hr]⟩⟩
  by_cases ha : n.db.isActive h
  · obtain ⟨owner, ws, hh⟩ := ha
    refine .inl ⟨h, owner, ws, rfl, hh, ?_⟩
    cases hr : o.rollback with
    | none => exact .inr (by simp [abort, hpt, Db.txRollback_active hh, hr])
    | some e => exact .inl ⟨e.msg, by simp [abort, hpt, Db.txRollback_active hh, hr]⟩
  · exact .inr (.inl ⟨h, rfl, ha, by simp [abort, hpt, Db.txRollback_done ha]⟩)

theorem step_pending_ne (codec : Codec P V) (n : Node P V) (c : Call P) {x : TxId}
    (hx : x ≠ c.txID) :
    (step codec n c).pendingTx x = n.pendingTx x ∧ (step codec n c).pendingData x = n.pendingData x := by
  cases c <;> simp only [Call.txID] at hx
  case prepare t p o =>
    rcases prepare_cases codec t p o n with ⟨e, n', hp, hu⟩ | ⟨n', hp, hr⟩ <;>
      simp only [step, hp]
    · exact ⟨by rw [hu.pendingTx], by rw [hu.pendingData]⟩
    refine ⟨?_, by rw [hr.pendingData, Function.update_noteq hx]⟩
    cases hdb : n.hasDb
    · rw [(hr.noDb hdb).1]
    · obtain ⟨_, _, _, -, -, -, -, htx, -⟩ := hr.withDb hdb
      rw [htx, Function.update_noteq hx]
  case commit t o =>
    rcases commit_cases t o n with ⟨_, _, _, -, -, ⟨e, hc⟩ | ⟨e, hc⟩ | hc⟩ | ⟨_, -, -, hc⟩ |
      ⟨-, _, -, ⟨e, hc⟩ | hc⟩ <;> simp [step, hc, Function.update_noteq hx]
  case abort t o =>
    rcases abort_cases t o n with ⟨_, _, _, -, -, ⟨e, hc⟩ | hc⟩ | ⟨_, -, -, hc⟩ |
      ⟨-, _, -, ⟨e, hc⟩ | hc⟩ <;> simp [step, hc, Function.update_noteq hx]

/-! ### The representation invariant -/

/-- The participant store's representation invariant, between calls. -/
structure StoreInv (n : Node P V) : Prop where
  /-- With a database, `pendingTx` and `pendingData` hold the same ids. -/
  keys : n.hasDb = true → ∀ t, (n.pendingTx t).isSome = (n.pendingData t).isSome
  /-- Without one, `pendingTx` stays empty. -/
  noDb : n.hasDb = false → ∀ t, n.pendingTx t = none
  /-- Every open transaction is held in `pendingTx` under the id of the `Prepare` that began
  it, and holds that `Prepare`'s two statements. -/
  held : ∀ h o ws, n.db.txs[h]? = some (.active o ws) →
    n.pendingTx o = some h ∧ ∃ s b, ws = [.exec s, .insertAudit o b]
  bound : ∀ t h, n.pendingTx t = some h → h < n.db.txs.length
  inj : ∀ t t' h, n.pendingTx t = some h → n.pendingTx t' = some h → t = t'

omit [SqlValue V] in
theorem storeInv_newNode : StoreInv (newNode : Node P V) :=
  ⟨fun h => by simp [newNode] at h, fun _ _ => rfl, fun _ _ _ h => by simp [newNode, Db.connect] at h,
    fun _ _ h => by simp [newNode] at h, fun _ _ _ h => by simp [newNode] at h⟩

omit [SqlValue V] in
theorem storeInv_newNodeWithDB (s : Store V) : StoreInv (newNodeWithDB s : Node P V) :=
  ⟨fun _ _ => rfl, fun h => by simp [newNodeWithDB] at h,
    fun _ _ _ h => by simp [newNodeWithDB, Db.connect] at h,
    fun _ _ h => by simp [newNodeWithDB] at h, fun _ _ _ h => by simp [newNodeWithDB] at h⟩

omit [SqlValue V] in
theorem active_of_set_done {l : List (TxHandle V)} {h h' : Nat} {o : TxId} {ws : List (Write V)}
    (hh : (l.set h .done)[h']? = some (.active o ws)) : h' ≠ h ∧ l[h']? = some (.active o ws) := by
  by_cases e : h = h'
  · subst e; simp [List.getElem?_set] at hh
  · exact ⟨Ne.symm e, by rwa [List.getElem?_set_ne e] at hh⟩

omit [SqlValue V] in
theorem active_of_append_done {l : List (TxHandle V)} {h : Nat} {o : TxId} {ws : List (Write V)}
    (hh : (l ++ [.done])[h]? = some (.active o ws)) : l[h]? = some (.active o ws) := by
  rw [List.getElem?_append] at hh
  split_ifs at hh
  · exact hh
  · simp [List.getElem?_cons] at hh

theorem getElem?_concat_eq_some {α : Type} {l : List α} {x y : α} {h : Nat}
    (hh : (l ++ [x])[h]? = some y) : l[h]? = some y ∨ (h = l.length ∧ x = y) := by
  rcases lt_trichotomy h l.length with hlt | rfl | hgt
  · exact .inl (by rwa [List.getElem?_append_left hlt] at hh)
  · exact .inr ⟨rfl, by simpa using hh⟩
  · rw [List.getElem?_eq_none (by simp; omega)] at hh; cases hh

namespace StoreInv

variable {n n' : Node P V}

omit [SqlValue V] in
theorem owner (hi : StoreInv n) {t o : TxId} {h : Nat} {ws : List (Write V)}
    (ht : n.pendingTx t = some h) (hh : n.db.txs[h]? = some (.active o ws)) : o = t :=
  hi.inj o t h (hi.held h o ws hh).1 ht

omit [SqlValue V] in
theorem keep (hi : StoreInv n) (hdb : n'.hasDb = n.hasDb) (htx : n'.pendingTx = n.pendingTx)
    (hdata : n.hasDb = true → n'.pendingData = n.pendingData) (hlen : n.db.txs.length ≤ n'.db.txs.length)
    (hact : ∀ (h : Nat) (o : TxId) (ws : List (Write V)), n'.db.txs[h]? = some (.active o ws) →
      n.db.txs[h]? = some (.active o ws)) :
    StoreInv n' where
  keys h t := by rw [htx, hdata (hdb ▸ h)]; exact hi.keys (hdb ▸ h) t
  noDb h t := by rw [htx]; exact hi.noDb (hdb ▸ h) t
  held h o ws hh := htx ▸ hi.held h o ws (hact h o ws hh)
  bound t h ht := lt_of_lt_of_le (hi.bound t h (htx ▸ ht)) hlen
  inj t t' h ht ht' := hi.inj t t' h (htx ▸ ht) (htx ▸ ht')

omit [SqlValue V] in
theorem erase (hi : StoreInv n) (t : TxId) (hdb : n'.hasDb = n.hasDb)
    (htx : n'.pendingTx = Function.update n.pendingTx t none)
    (hdata : n'.pendingData = Function.update n.pendingData t none)
    (hlen : n'.db.txs.length = n.db.txs.length)
    (hact : ∀ (h : Nat) (o : TxId) (ws : List (Write V)), n'.db.txs[h]? = some (.active o ws) →
      o ≠ t ∧ n.db.txs[h]? = some (.active o ws)) :
    StoreInv n' where
  keys h x := by
    rw [htx, hdata]
    by_cases hx : x = t
    · subst hx; simp
    · simp only [Function.update_noteq hx]; exact hi.keys (hdb ▸ h) x
  noDb h x := by
    rw [htx]
    by_cases hx : x = t
    · subst hx; simp
    · rw [Function.update_noteq hx]; exact hi.noDb (hdb ▸ h) x
  held h o ws hh := by
    obtain ⟨hot, hh'⟩ := hact h o ws hh
    obtain ⟨h₁, h₂⟩ := hi.held h o ws hh'
    exact ⟨by rw [htx, Function.update_noteq hot]; exact h₁, h₂⟩
  bound x h hx := by
    rw [hlen]; rw [htx] at hx
    by_cases hxt : x = t
    · subst hxt; simp at hx
    · rw [Function.update_noteq hxt] at hx; exact hi.bound x h hx
  inj x x' h hx hx' := by
    rw [htx] at hx hx'
    by_cases hxt : x = t
    · subst hxt; simp at hx
    by_cases hxt' : x' = t
    · subst hxt'; simp at hx'
    rw [Function.update_noteq hxt] at hx
    rw [Function.update_noteq hxt'] at hx'
    exact hi.inj x x' h hx hx'

omit [SqlValue V] in
theorem ne_of_active (hi : StoreInv n) {t o : TxId} {h : Nat} {ws : List (Write V)}
    (hh : n.db.txs[h]? = some (.active o ws)) (ht : n.pendingTx t ≠ some h) : o ≠ t := by
  rintro rfl; exact ht (hi.held h o ws hh).1

omit [SqlValue V] in
theorem pendingTx_ne_length (hi : StoreInv n) (t : TxId) :
    n.pendingTx t ≠ some n.db.txs.length :=
  fun ht => lt_irrefl _ (hi.bound t _ ht)

omit [SqlValue V] in
theorem hold (hi : StoreInv n) {t : TxId} {p : Option P} {ws : List (Write V)}
    (hdb : n.hasDb = true) (hfresh : n.pendingData t = none)
    (hws : ∃ s b, ws = [.exec s, .insertAudit t b]) (hdb' : n'.hasDb = n.hasDb)
    (htx : n'.pendingTx = Function.update n.pendingTx t (some n.db.txs.length))
    (hdata : n'.pendingData = Function.update n.pendingData t (some p))
    (hdb'' : n'.db = ⟨n.db.store, n.db.txs ++ [.active t ws]⟩) : StoreInv n' where
  keys _ x := by
    rw [htx, hdata]
    by_cases hx : x = t
    · subst hx; simp
    · simp only [Function.update_noteq hx]; exact hi.keys hdb x
  noDb h := absurd (hdb' ▸ h) (by simp [hdb])
  held h o ws' hh := by
    rw [hdb''] at hh
    rcases getElem?_concat_eq_some hh with hh | ⟨rfl, he⟩
    · obtain ⟨h₁, h₂⟩ := hi.held h o ws' hh
      have hot : o ≠ t := by
        rintro rfl; simpa [h₁, hfresh] using hi.keys hdb o
      exact ⟨by rw [htx, Function.update_noteq hot]; exact h₁, h₂⟩
    · obtain ⟨rfl, rfl⟩ := TxHandle.active.inj he
      exact ⟨by simp [htx], hws⟩
  bound x h hx := by
    rw [htx] at hx; rw [hdb'', List.length_append, List.length_singleton]
    by_cases hxt : x = t
    · subst hxt; simp at hx; omega
    · rw [Function.update_noteq hxt] at hx; exact Nat.lt_succ_of_lt (hi.bound x h hx)
  inj x x' h hx hx' := by
    rw [htx] at hx hx'
    by_cases hxt : x = t <;> by_cases hxt' : x' = t
    · exact hxt.trans hxt'.symm
    · subst hxt; rw [Function.update_same] at hx; rw [Function.update_noteq hxt', ← hx] at hx'
      exact absurd hx' (hi.pendingTx_ne_length x')
    · subst hxt'; rw [Function.update_same] at hx'; rw [Function.update_noteq hxt, ← hx'] at hx
      exact absurd hx (hi.pendingTx_ne_length x)
    · rw [Function.update_noteq hxt] at hx; rw [Function.update_noteq hxt'] at hx'
      exact hi.inj x x' h hx hx'

omit [SqlValue V] in
theorem setDone (hi : StoreInv n) (h : Nat) : StoreInv { n with db := n.db.setTx h .done } :=
  hi.keep rfl rfl (fun _ => rfl) (by simp) fun _ _ _ hh => (active_of_set_done hh).2

omit [SqlValue V] in
theorem commitWrites (hi : StoreInv n) (h : Nat) (st : Store V) :
    StoreInv { n with db := ⟨st, n.db.txs.set h .done⟩ } :=
  hi.keep rfl rfl (fun _ => rfl) (by simp) fun _ _ _ hh => (active_of_set_done hh).2

omit [SqlValue V] in
theorem replay (hi : StoreInv n) (s : Store V) : StoreInv { n with db := { n.db with store := s } } :=
  hi.keep rfl rfl (fun _ => rfl) le_rfl fun _ _ _ hh => hh

omit [SqlValue V] in
theorem finishIdle (hi : StoreInv n) {t : TxId} (st : TxState)
    (ht : ∀ h, n.pendingTx t = some h → ¬ n.db.isActive h) : StoreInv (finish n t st) :=
  hi.erase t rfl rfl rfl rfl fun h o ws hh =>
    ⟨fun e => ht h (e ▸ (hi.held h o ws hh).1) ⟨o, ws, hh⟩, hh⟩

theorem prepare (hi : StoreInv n) (codec : Codec P V) (t : TxId) (p : Option P)
    (o : PrepareOutcome) : StoreInv (Participant.prepare codec t p o n).2 := by
  rcases prepare_cases codec t p o n with ⟨e, n', hp, hu⟩ | ⟨n', hp, hr⟩ <;> rw [hp]
  · refine hi.keep hu.hasDb hu.pendingTx (fun _ => hu.pendingData) ?_ fun h o ws hh => ?_
    · rcases hu.txs with h | h <;> simp [h]
    · rcases hu.txs with h' | h' <;> rw [h'] at hh
      exacts [hh, active_of_append_done hh]
  · cases hdb : n.hasDb
    · obtain ⟨htx, hdb'⟩ := hr.noDb hdb
      refine hi.keep hr.hasDb htx (by simp [hdb]) (by rw [hdb']) fun h o ws hh => ?_
      rwa [hdb'] at hh
    · obtain ⟨a, s, b, -, -, -, -, htx, hdb'⟩ := hr.withDb hdb
      exact hi.hold hdb hr.fresh ⟨s, b, rfl⟩ hr.hasDb htx hr.pendingData hdb'

theorem commit (hi : StoreInv n) (t : TxId) (o : CommitOutcome) :
    StoreInv (Participant.commit t o n).2 := by
  rcases commit_cases t o n with ⟨h, owner, ws, ht, hh, hc⟩ | ⟨h, ht, ha, hc⟩ | ⟨ht, s, hs, hc⟩
  · have hw := hi.commitWrites h (n.db.store.applyWrites owner (ws ++ [.setStatus t .committed]))
    rcases hc with ⟨e, hc⟩ | ⟨e, hc⟩ | hc <;> rw [hc]
    · exact hi.setDone h
    · exact hw
    · refine hw.finishIdle .commit fun h' ht' ⟨o, ws, hh'⟩ => ?_
      obtain rfl : h = h' := Option.some.inj (ht.symm.trans ht')
      simp [List.getElem?_set_self (List.getElem?_eq_some_iff.mp hh).1] at hh'
  · exact hc ▸ hi.finishIdle .commit fun h' ht' => Option.some.inj (ht.symm.trans ht') ▸ ha
  · have hr := hi.replay s
    rcases hc with ⟨e, hc⟩ | hc <;> rw [hc]
    · exact hr
    · exact hr.finishIdle .commit fun h' ht' => by simp [ht] at ht'

omit [SqlValue V] in
theorem abort (hi : StoreInv n) (t : TxId) (o : AbortOutcome) :
    StoreInv (Participant.abort t o n).2 := by
  rcases abort_cases t o n with ⟨h, owner, ws, ht, hh, hc⟩ | ⟨h, ht, ha, hc⟩ | ⟨ht, s, hs, hc⟩
  · rcases hc with ⟨e, hc⟩ | hc <;> rw [hc]
    · exact hi.setDone h
    · refine (hi.setDone h).finishIdle .abort fun h' ht' ⟨o, ws, hh'⟩ => ?_
      obtain rfl : h = h' := Option.some.inj (ht.symm.trans ht')
      simp [Db.setTx_get_self .done hh] at hh'
  · exact hc ▸ hi.finishIdle .abort fun h' ht' => Option.some.inj (ht.symm.trans ht') ▸ ha
  · have hr := hi.replay s
    rcases hc with ⟨e, hc⟩ | hc <;> rw [hc]
    · exact hr
    · exact hr.finishIdle .abort fun h' ht' => by simp [ht] at ht'

theorem step (hi : StoreInv n) (codec : Codec P V) :
    ∀ c : Call P, StoreInv (Participant.step codec n c)
  | .prepare t p o => hi.prepare codec t p o
  | .commit t o => hi.commit t o
  | .abort t o => hi.abort t o

theorem run {codec : Codec P V} (cs : List (Call P)) (hi : StoreInv n) :
    StoreInv (Participant.run codec n cs) := by
  induction cs generalizing n with
  | nil => exact hi
  | cons c cs ih => exact ih (hi.step codec c)

omit [SqlValue V] in
theorem restart (n : Node P V) : StoreInv (Participant.restart n) where
  keys _ _ := rfl
  noDb _ _ := rfl
  held h _ _ hh := by
    simp only [Participant.restart, Db.crash, List.getElem?_map] at hh
    cases n.db.txs[h]? <;> simp at hh
  bound _ _ h := by simp [Participant.restart] at h
  inj _ _ _ h := by simp [Participant.restart] at h

theorem step_active (hi : StoreInv n) (codec : Codec P V) {h : Nat} {o : TxId}
    {ws : List (Write V)} (hh : n.db.txs[h]? = some (.active o ws)) :
    ∀ c : Call P, o ≠ c.txID → (Participant.step codec n c).db.txs[h]? = some (.active o ws)
  | .prepare t p op, _ => by
    have hlt := (List.getElem?_eq_some_iff.mp hh).1
    show (Participant.prepare codec t p op n).2.db.txs[h]? = _
    rcases prepare_cases codec t p op n with ⟨e, n', hp, hu⟩ | ⟨n', hp, hr⟩ <;> rw [hp]
    · rcases hu.txs with h' | h' <;> rw [h']
      · exact hh
      · rwa [List.getElem?_append_left hlt]
    · cases hdb : n.hasDb
      · rwa [(hr.noDb hdb).2]
      · obtain ⟨_, _, _, -, -, -, -, -, hdb'⟩ := hr.withDb hdb
        rwa [hdb', List.getElem?_append_left hlt]
  | .commit t oc, ho => by
    show (Participant.commit t oc n).2.db.txs[h]? = _
    rcases commit_cases t oc n with ⟨h', _, _, ht, -, hc⟩ | ⟨_, -, -, hc⟩ | ⟨-, _, -, ⟨e, hc⟩ | hc⟩
    · have hne : h' ≠ h := fun e => ho (hi.owner (e ▸ ht) hh)
      rcases hc with ⟨e, hc⟩ | ⟨e, hc⟩ | hc <;> rw [hc] <;> exact (List.getElem?_set_ne hne).trans hh
    all_goals rw [hc]; exact hh
  | .abort t oa, ho => by
    show (Participant.abort t oa n).2.db.txs[h]? = _
    rcases abort_cases t oa n with ⟨h', _, _, ht, -, hc⟩ | ⟨_, -, -, hc⟩ | ⟨-, _, -, ⟨e, hc⟩ | hc⟩
    · have hne : h' ≠ h := fun e => ho (hi.owner (e ▸ ht) hh)
      rcases hc with ⟨e, hc⟩ | hc <;> rw [hc] <;> exact (List.getElem?_set_ne hne).trans hh
    all_goals rw [hc]; exact hh

end StoreInv

omit [SqlValue V] in
theorem storeInv_init (db : Option (Store V)) : StoreInv (db.elim newNode newNodeWithDB : Node P V) := by
  cases db
  · exact storeInv_newNode
  · exact storeInv_newNodeWithDB _

theorem commit_ok_finish {t : TxId} {o : CommitOutcome} {n : Node P V} (h : (commit t o n).1 = none) :
    (commit t o n).2.pendingTx t = none ∧ (commit t o n).2.pendingData t = none := by
  rcases commit_cases t o n with ⟨_, _, _, -, -, ⟨e, hc⟩ | ⟨e, hc⟩ | hc⟩ | ⟨_, -, -, hc⟩ |
    ⟨-, _, -, ⟨e, hc⟩ | hc⟩ <;> simp [hc] at h ⊢

omit [SqlValue V] in
theorem abort_ok_finish {t : TxId} {o : AbortOutcome} {n : Node P V} (h : (abort t o n).1 = none) :
    (abort t o n).2.pendingTx t = none ∧ (abort t o n).2.pendingData t = none := by
  rcases abort_cases t o n with ⟨_, _, _, -, -, ⟨e, hc⟩ | hc⟩ | ⟨_, -, -, hc⟩ |
    ⟨-, _, -, ⟨e, hc⟩ | hc⟩ <;> simp [hc] at h ⊢

theorem commit_update_failed {t : TxId} {o : CommitOutcome} {n : Node P V} {h : Nat}
    {e : DriverError} (ht : n.pendingTx t = some h) (ha : n.db.isActive h) (hu : o.update = some e) :
    commit t o n = (some e.msg, { n with db := n.db.setTx h .done }) := by
  obtain ⟨owner, ws, hh⟩ := ha
  simp [commit, ht, Db.txExec_setStatus hh, hu, Db.txRollback_active hh]

theorem pending_maps_agree (codec : Codec P V) (db : Option (Store V)) (cs : List (Call P)) :
    let n := run codec (db.elim newNode newNodeWithDB) cs
    (n.hasDb = true → ∀ t, (n.pendingTx t).isSome = (n.pendingData t).isSome) ∧
    (n.hasDb = false → ∀ t, n.pendingTx t = none) ∧
    (∀ h o ws, n.db.txs[h]? = some (.active o ws) → n.pendingTx o = some h ∧
      ∀ c : Call P, o ≠ c.txID → (step codec n c).db.txs[h]? = some (.active o ws)) ∧
    (∀ t oc, (commit t oc n).1 = none →
      (commit t oc n).2.pendingTx t = none ∧ (commit t oc n).2.pendingData t = none) ∧
    (∀ t oa, (abort t oa n).1 = none →
      (abort t oa n).2.pendingTx t = none ∧ (abort t oa n).2.pendingData t = none) ∧
    (∀ t oc h e, n.pendingTx t = some h → n.db.isActive h → oc.update = some e →
      commit t oc n = (some e.msg, { n with db := n.db.setTx h .done })) := by
  intro n
  have hi : StoreInv n := (storeInv_init db).run cs
  exact ⟨hi.keys, hi.noDb, fun h o ws hh => ⟨(hi.held h o ws hh).1, hi.step_active codec hh⟩,
    fun _ _ => commit_ok_finish, fun _ _ => abort_ok_finish, fun _ _ _ _ => commit_update_failed⟩

theorem commit_rolls_back_ready :
    let n := run (actionCodec fun _ => .ok "") (newNodeWithDB Store.empty)
      [.prepare "t" (some usersInsert) .ok]
    let r := commit "t" ⟨some badConn, none, .ok, .ok⟩ n
    n.txState = .ready ∧ n.pendingTx "t" = some 0 ∧
      n.db.txs[0]? = some (.active "t"
        [.exec ⟨"INSERT INTO \"users\" (\"id\",\"name\") VALUES ($1,$2)", [some 1, some 2]⟩,
          .insertAudit "t" ""]) ∧
      r.1 = some badConn.msg ∧ r.2.pendingTx "t" = some 0 ∧ r.2.db.txs[0]? = some .done := by
  decide

end TwoPc.Participant
