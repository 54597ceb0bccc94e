import TwoPcEngine.Node.Store

/-! The `distributed_tx` audit table against the committed payload writes, what `Commit` and
`Abort` acknowledge, and what keeps a later `Prepare` of the same id out, in runs whose
payload statements leave `distributed_tx` alone. -/

namespace TwoPc.Participant

open Sql

variable {P V : Type} [SqlValue V]

theorem prepare_store (codec : Codec P V) (t : TxId) (p : Option P) (o : PrepareOutcome)
    (n : Node P V) : (prepare codec t p o n).2.db.store = n.db.store := by
  rcases prepare_cases codec t p o n with ⟨e, n', hp, hu⟩ | ⟨n', hp, hr⟩ <;> rw [hp]
  · exact hu.store
  · cases hdb : n.hasDb
    · rw [(hr.noDb hdb).2]
    · obtain ⟨_, _, _, -, -, -, -, -, hdb'⟩ := hr.withDb hdb
      rw [hdb']

/-! ### What one call does to the committed data and to the open transactions -/

section Cases

variable {codec : Codec P V} {n : Node P V}

theorem commit_store_cases (hi : StoreInv n) (t : TxId) (o : CommitOutcome) :
    (commit t o n).2.db.store = n.db.store ∨
      (commit t o n).2.db.store = n.db.store.setStatus t .committed ∨
      ∃ h stmt b, n.db.txs[h]? = some (.active t [.exec stmt, .insertAudit t b]) ∧
        (commit t o n).2.db.txs = n.db.txs.set h .done ∧
        (commit t o n).2.db.store = ⟨Function.update (stmt.commitRows n.db.store.rows) t
          (some ⟨b, .committed⟩), n.db.store.data ++ [(t, stmt)]⟩ := by
  rcases commit_cases t o n with ⟨h, owner, ws, ht, hh, hc⟩ | ⟨_, -, -, hc⟩ | ⟨-, s, hs, hc⟩
  · obtain rfl := hi.owner ht hh
    obtain ⟨-, stmt, b, rfl⟩ := hi.held h owner ws hh
    rcases hc with ⟨e, hc⟩ | ⟨e, hc⟩ | hc <;> rw [hc]
    · exact .inl rfl
    all_goals exact .inr (.inr ⟨h, stmt, b, hh, rfl, Store.applyWrites_prepared ..⟩)
  · exact .inl (by rw [hc]; rfl)
  · rcases hc with ⟨e, hc⟩ | hc <;> rw [hc] <;> rcases hs with rfl | rfl
    exacts [.inl rfl, .inr (.inl rfl), .inl rfl, .inr (.inl rfl)]

omit [SqlValue V] in
theorem abort_store_cases (n : Node P V) (t : TxId) (o : AbortOutcome) :
    (abort t o n).2.db.store = n.db.store ∨
      (abort t o n).2.db.store = n.db.store.setStatus t .aborted := by
  rcases abort_cases t o n with ⟨_, _, _, -, -, ⟨e, hc⟩ | hc⟩ | ⟨_, -, -, hc⟩ |
    ⟨-, s, rfl | rfl, ⟨e, hc⟩ | hc⟩ <;> rw [hc] <;> simp

/-- A call changes the committed data only at its own id, unless the transaction it commits
ran a statement on `distributed_tx`: it keeps it, updates the id's status to `COMMITTED` or
`ABORTED`, or commits the id's open transaction, which finishes. -/
theorem step_store_cases (hi : StoreInv n) (c : Call P) :
    (step codec n c).db.store = n.db.store ∨
      (∃ st, (st = .committed ∨ st = .aborted) ∧
        (step codec n c).db.store = n.db.store.setStatus c.txID st) ∨
      ∃ h stmt b, n.db.txs[h]? = some (.active c.txID [.exec stmt, .insertAudit c.txID b]) ∧
        (step codec n c).db.txs = n.db.txs.set h .done ∧
        (step codec n c).db.store = ⟨Function.update (stmt.commitRows n.db.store.rows) c.txID
          (some ⟨b, .committed⟩), n.db.store.data ++ [(c.txID, stmt)]⟩ := by
  cases c with
  | prepare t p o => exact .inl (prepare_store codec t p o n)
  | commit t o =>
    rcases commit_store_cases hi t o with h | h | h
    exacts [.inl h, .inr (.inl ⟨_, .inl rfl, h⟩), .inr (.inr h)]
  | abort t o =>
    rcases abort_store_cases n t o with h | h
    exacts [.inl h, .inr (.inl ⟨_, .inr rfl, h⟩)]

theorem commit_txs (t : TxId) (o : CommitOutcome) (n : Node P V) :
    (commit t o n).2.db.txs = n.db.txs ∨ ∃ h, (commit t o n).2.db.txs = n.db.txs.set h .done := by
  rcases commit_cases t o n with ⟨h, _, _, -, -, ⟨e, hc⟩ | ⟨e, hc⟩ | hc⟩ | ⟨_, -, -, hc⟩ |
    ⟨-, _, -, ⟨e, hc⟩ | hc⟩ <;> rw [hc]
  all_goals first | exact .inl rfl | exact .inr ⟨h, rfl⟩

omit [SqlValue V] in
theorem abort_txs (t : TxId) (o : AbortOutcome) (n : Node P V) :
    (abort t o n).2.db.txs = n.db.txs ∨ ∃ h, (abort t o n).2.db.txs = n.db.txs.set h .done := by
  rcases abort_cases t o n with ⟨h, _, _, -, -, ⟨e, hc⟩ | hc⟩ | ⟨_, -, -, hc⟩ |
    ⟨-, _, -, ⟨e, hc⟩ | hc⟩ <;> rw [hc]
  all_goals first | exact .inl rfl | exact .inr ⟨h, rfl⟩

omit [SqlValue V] in
theorem active_of_txs {l l' : List (TxHandle V)} {h : Nat} {o : TxId} {ws : List (Write V)}
    (hl : l' = l ∨ ∃ h', l' = l.set h' .done) (hh : l'[h]? = some (.active o ws)) :
    l[h]? = some (.active o ws) := by
  rcases hl with rfl | ⟨h', rfl⟩
  exacts [hh, (active_of_set_done hh).2]

theorem step_active_cases (c : Call P) {h : Nat} {o : TxId} {ws : List (Write V)}
    (hh : (step codec n c).db.txs[h]? = some (.active o ws)) :
    n.db.txs[h]? = some (.active o ws) ∨
      ∃ p op a s b, c = .prepare o p op ∧ parseSQLAction codec p = .ok a ∧
        applySQLAction a = .ok s ∧ s.commitRows n.db.store.rows o = none ∧
        ws = [.exec s, .insertAudit o b] := by
  cases c with
  | prepare t p op =>
    rcases prepare_cases codec t p op n with ⟨e, n', hp, hu⟩ | ⟨n', hp, hr⟩ <;>
      simp only [step, hp] at hh
    · rcases hu.txs with h' | h' <;> rw [h'] at hh
      exacts [.inl hh, .inl (active_of_append_done hh)]
    · cases hdb : n.hasDb
      · exact .inl (by rwa [(hr.noDb hdb).2] at hh)
      · obtain ⟨a, s, b, ha, hs, -, hrow, -, hdb'⟩ := hr.withDb hdb
        rw [hdb'] at hh
        rcases getElem?_concat_eq_some hh with hh | ⟨-, he⟩
        · exact .inl hh
        · obtain ⟨rfl, rfl⟩ := TxHandle.active.inj he
          exact .inr ⟨p, op, a, s, b, rfl, ha, hs, hrow, rfl⟩
  | commit t op => exact .inl (active_of_txs (commit_txs t op n) hh)
  | abort t op => exact .inl (active_of_txs (abort_txs t op n) hh)

end Cases

/-! ### Payloads on `distributed_tx` -/

def Call.namesAuditTable (codec : Codec P V) : Call P → Bool
  | .prepare _ p _ => Sql.namesAuditTable codec p
  | _ => false

/-- No open transaction of `o` runs a payload statement on `distributed_tx`. -/
def OpenClean (n : Node P V) (o : TxId) : Prop :=
  ∀ (h : Nat) (ws : List (Write V)), n.db.txs[h]? = some (.active o ws) →
    ∀ stmt, Write.exec stmt ∈ ws → stmt.onAudit = false

theorem OpenClean.step {codec : Codec P V} {n : Node P V} {o : TxId} (hc : OpenClean n o)
    (c : Call P) (hcall : c.txID = o → c.namesAuditTable codec = false) :
    OpenClean (step codec n c) o := by
  intro h ws hh stmt hm
  rcases step_active_cases c hh with hh | ⟨p, op, a, s, b, rfl, ha, hs, -, rfl⟩
  · exact hc h ws hh stmt hm
  · obtain rfl : stmt = s := by simpa using hm
    exact not_onAudit_of_namesAuditTable ha hs (hcall rfl)

omit [SqlValue V] in
theorem OpenClean.restart (n : Node P V) (o : TxId) : OpenClean (restart n) o := fun h _ hh => by
  simp only [Participant.restart, Db.crash, List.getElem?_map] at hh
  cases n.db.txs[h]? <;> simp at hh

theorem step_store_other {codec : Codec P V} {n : Node P V} (hi : StoreInv n) {c : Call P}
    (hc : OpenClean n c.txID) {t : TxId} (ht : c.txID ≠ t) :
    (step codec n c).db.store.rows t = n.db.store.rows t ∧
      ((step codec n c).db.store.written t ↔ n.db.store.written t) := by
  rcases step_store_cases hi c with h | ⟨st, -, h⟩ | ⟨h, stmt, b, hh, -, h'⟩
  · rw [h]; exact ⟨rfl, Iff.rfl⟩
  · rw [h]; exact ⟨Store.setStatus_rows_ne _ _ (Ne.symm ht), Iff.rfl⟩
  · rw [h', Stmt.commitRows_of_not_onAudit (hc h _ hh stmt (by simp))]
    exact ⟨Function.update_noteq (Ne.symm ht) .., Store.written_append.trans (or_iff_left (Ne.symm ht))⟩

/-! ### The audit table agrees with the committed writes -/

/-- A row for `t` is there exactly when `t`'s payload write is, since the two commit in one
transaction, and it reads `COMMITTED` or `ABORTED`, since that transaction also sets its status. -/
structure AuditInv (s : Store V) : Prop where
  written : ∀ t, (s.rows t).isSome ↔ s.written t
  settled : ∀ t r, s.rows t = some r → r.status = .committed ∨ r.status = .aborted

namespace AuditInv

variable {s : Store V}

omit [SqlValue V] in
theorem empty : AuditInv (Store.empty : Store V) where
  written t := by simp [Store.empty, Store.written]
  settled _ _ h := by simp [Store.empty] at h

omit [SqlValue V] in
theorem setStatus (ha : AuditInv s) (t : TxId) {st : AuditStatus}
    (hst : st = .committed ∨ st = .aborted) : AuditInv (s.setStatus t st) where
  written x := by
    by_cases hx : x = t
    · subst hx; simpa [Store.setStatus_rows_self] using ha.written x
    · rw [Store.setStatus_rows_ne _ _ hx]; exact ha.written x
  settled x r hr := by
    by_cases hx : x = t
    · subst hx
      obtain ⟨_, -, rfl⟩ := Option.map_eq_some'.mp (Store.setStatus_rows_self s x st ▸ hr)
      exact hst
    · rw [Store.setStatus_rows_ne _ _ hx] at hr; exact ha.settled x r hr

omit [SqlValue V] in
theorem commitPrepared (ha : AuditInv s) (t : TxId) (b : String) (stmt : Stmt V) :
    AuditInv ⟨Function.update s.rows t (some ⟨b, .committed⟩), s.data ++ [(t, stmt)]⟩ where
  written x := by
    rw [Store.written_append]
    by_cases hx : x = t
    · subst hx; simp
    · simp only [Function.update_noteq hx, hx, or_false]; exact ha.written x
  settled x r hr := by
    by_cases hx : x = t
    · subst hx; simp only [Function.update_same, Option.some.injEq] at hr; simp [← hr]
    · simp only [Function.update_noteq hx] at hr; exact ha.settled x r hr

end AuditInv

/-- What the audit claims rest on between calls: the store invariant, the audit rows in step
with the writes, and each open transaction without a statement on `distributed_tx` and without
a committed row for its id. -/
structure AuditRun (n : Node P V) : Prop where
  store : StoreInv n
  audit : AuditInv n.db.store
  clean : ∀ o, OpenClean n o
  fresh : ∀ (h : Nat) (o : TxId) (ws : List (Write V)), n.db.txs[h]? = some (.active o ws) →
    n.db.store.rows o = none

namespace AuditRun

variable {codec : Codec P V} {n : Node P V}

omit [SqlValue V] in
theorem init {s : Store V} (hs : AuditInv s) : AuditRun (newNodeWithDB s : Node P V) :=
  ⟨storeInv_newNodeWithDB s, hs, fun _ _ _ h => by simp [newNodeWithDB, Db.connect] at h,
    fun _ _ _ h => by simp [newNodeWithDB, Db.connect] at h⟩

theorem fresh_step (hr : AuditRun n) (c : Call P) (hc : c.namesAuditTable codec = false) {h : Nat}
    {o : TxId} {ws : List (Write V)} (hh : (step codec n c).db.txs[h]? = some (.active o ws))
    (hrow : (step codec n c).db.store.rows o = n.db.store.rows o ∨
      ((step codec n c).db.store.rows o).isSome = (n.db.store.rows o).isSome) :
    (step codec n c).db.store.rows o = none := by
  have hnone : n.db.store.rows o = none := by
    rcases step_active_cases c hh with hh | ⟨p, op, a, s, b, rfl, ha, hs, hrow, -⟩
    · exact hr.fresh h o ws hh
    · rwa [Stmt.commitRows_of_not_onAudit (not_onAudit_of_namesAuditTable ha hs hc)] at hrow
  rcases hrow with e | e
  · rw [e, hnone]
  · simpa [hnone] using e

theorem step (hr : AuditRun n) (c : Call P) (hc : c.namesAuditTable codec = false) :
    AuditRun (step codec n c) where
  store := hr.store.step codec c
  clean o := (hr.clean o).step c fun _ => hc
  audit := by
    rcases step_store_cases hr.store c with h | ⟨st, hst, h⟩ | ⟨h, stmt, b, hh, -, h'⟩
    · rw [h]; exact hr.audit
    · rw [h]; exact hr.audit.setStatus _ hst
    · rw [h', Stmt.commitRows_of_not_onAudit (hr.clean _ h _ hh stmt (by simp))]
      exact hr.audit.commitPrepared _ b stmt
  fresh h o ws hh := by
    refine hr.fresh_step c hc hh ?_
    rcases step_store_cases hr.store c with e | ⟨st, -, e⟩ | ⟨h', stmt, b, hh', htx, e⟩
    · exact .inl (by rw [e])
    · exact .inr (by rw [e, Store.setStatus_rows_isSome])
    · refine .inl ?_
      have hne : h ≠ h' := by rintro rfl; simp [htx, List.getElem?_set_self
        (List.getElem?_eq_some_iff.mp hh').1] at hh
      have hot : o ≠ c.txID := fun e => hne <| by
        subst e
        rw [htx, List.getElem?_set_ne (Ne.symm hne)] at hh
        exact Option.some.inj ((hr.store.held h _ _ hh).1.symm.trans (hr.store.held h' _ _ hh').1)
      rw [e, Stmt.commitRows_of_not_onAudit (hr.clean _ h' _ hh' stmt (by simp))]
      exact Function.update_noteq hot ..

theorem run (hr : AuditRun n) (cs : List (Call P)) (hcs : ∀ c ∈ cs, c.namesAuditTable codec = false) :
    AuditRun (Participant.run codec n cs) := by
  induction cs generalizing n with
  | nil => exact hr
  | cons c cs ih =>
    exact ih (hr.step c (hcs c (List.mem_cons_self ..))) fun c' h => hcs c' (List.mem_cons_of_mem _ h)

end AuditRun

theorem audit_row_matches_write (codec : Codec P V) (s : Store V) (hs : AuditInv s)
    (cs : List (Call P)) (hcs : ∀ c ∈ cs, c.namesAuditTable codec = false) (t : TxId) :
    let st := (run codec (newNodeWithDB s) cs).db.store
    ((st.rows t).isSome ↔ st.written t) ∧
      ∀ r, st.rows t = some r → r.status = .committed ∨ r.status = .aborted :=
  have ha := ((AuditRun.init hs).run cs hcs).audit
  ⟨ha.written t, ha.settled t⟩

theorem audit_row_matches_write_committed :
    AuditInv (Store.empty : Store Nat) ∧
      (∀ c ∈ [.prepare "t" (some usersInsert) .ok, .commit "t" .ok],
        Call.namesAuditTable (actionCodec fun _ => .ok "") c = false) ∧
      let st := (run (actionCodec fun _ => .ok "") (newNodeWithDB Store.empty)
        [.prepare "t" (some usersInsert) .ok, .commit "t" .ok]).db.store
      ((st.rows "t").isSome ↔ st.written "t") ∧
        ∀ r, st.rows "t" = some r → r.status = .committed ∨ r.status = .aborted :=
  ⟨AuditInv.empty, by decide, audit_row_matches_write _ _ AuditInv.empty _ (by decide) "t"⟩

def usersName : SQLAction String := ⟨"users", "INSERT", AList.insert "name" "ann" ∅, ∅⟩

def renameRow (t z : String) : SQLAction String :=
  ⟨"distributed_tx", "UPDATE", AList.insert "tx_id" z ∅, AList.insert "tx_id" t ∅⟩

def setRowStatus (t st : String) : SQLAction String :=
  ⟨"distributed_tx", "UPDATE", AList.insert "status" st ∅, AList.insert "tx_id" t ∅⟩

def insertRow (t st : String) : SQLAction String :=
  ⟨"distributed_tx", "INSERT", AList.insert "tx_id" t (AList.insert "status" st
    (AList.insert "payload" "{}" ∅)), ∅⟩

theorem audit_row_disagrees :
    let replayed := (run (actionCodec fun _ => .ok "") (newNodeWithDB Store.empty)
      [.prepare "t" (some usersInsert) .ok, .commit "t" .ok, .abort "t" .ok]).db.store
    let rewritten := (run (actionCodec fun _ => .ok "") (newNodeWithDB Store.empty)
      [.prepare "t" (some usersName) .ok, .commit "t" .ok,
        .prepare "u" (some (setRowStatus "t" "PREPARED")) .ok, .commit "u" .ok,
        .prepare "v" (some (insertRow "x" "COMMITTED")) .ok, .commit "v" .ok]).db.store
    replayed.rows "t" = some ⟨"", .aborted⟩ ∧ replayed.written "t" ∧
      rewritten.rows "t" = some ⟨"", .prepared⟩ ∧ rewritten.written "t" ∧
      rewritten.rows "x" = some ⟨"{}", .committed⟩ ∧ ¬ rewritten.written "x" := by
  decide

/-! ### What `Commit` and `Abort` acknowledge -/

section Acknowledge

variable {n : Node P V} {t : TxId} {h : Nat}

theorem commit_active_ok (hi : StoreInv n) {o : CommitOutcome} (ht : n.pendingTx t = some h)
    (ha : n.db.isActive h) (hc : (commit t o n).1 = none) :
    (commit t o n).2.db.store.written t ∧
      ∃ b, (commit t o n).2.db.store.rows t = some ⟨b, .committed⟩ := by
  obtain ⟨owner, ws, hh⟩ := ha
  obtain rfl := hi.owner ht hh
  obtain ⟨-, s, b, rfl⟩ := hi.held h owner ws hh
  rcases commit_cases owner o n with ⟨h', _, _, ht', hh', ⟨e, hc'⟩ | ⟨e, hc'⟩ | hc'⟩ |
    ⟨h', ht', ha', -⟩ | ⟨ht', -⟩
  · rw [hc'] at hc; cases hc
  · rw [hc'] at hc; cases hc
  · obtain rfl := Option.some.inj (ht.symm.trans ht')
    obtain ⟨rfl, rfl⟩ := TxHandle.active.inj (Option.some.inj (hh.symm.trans hh'))
    rw [hc']
    exact ⟨⟨s, by simp [Store.applyWrites_prepared]⟩, b, by simp [Store.applyWrites_prepared]⟩
  · exact absurd ⟨owner, _, Option.some.inj (ht.symm.trans ht') ▸ hh⟩ ha'
  · simp [ht] at ht'

omit [SqlValue V] in
theorem abort_active_store {o : AbortOutcome} (ht : n.pendingTx t = some h) (ha : n.db.isActive h) :
    (abort t o n).2.db.store = n.db.store := by
  obtain ⟨owner, ws, hh⟩ := ha
  cases hr : o.rollback <;> simp [abort, ht, Db.txRollback_active hh, hr]

theorem commit_done_ok {o : CommitOutcome} (ht : n.pendingTx t = some h) (ha : ¬ n.db.isActive h) :
    (commit t o n).1 = none := by
  simp [commit, ht, Db.txExec_done ha, Db.txCommit_done ha]

omit [SqlValue V] in
theorem abort_done_ok {o : AbortOutcome} (ht : n.pendingTx t = some h) (ha : ¬ n.db.isActive h) :
    (abort t o n).1 = none := by
  simp [abort, ht, Db.txRollback_done ha]

theorem commit_replay_ok {o : CommitOutcome} (ht : n.pendingTx t = none) (hr : o.replay = .ok) :
    (commit t o n).1 = none := by
  cases hdb : n.hasDb <;> simp [commit, ht, hdb, Db.execStatus, hr]

omit [SqlValue V] in
theorem abort_replay_ok {o : AbortOutcome} (ht : n.pendingTx t = none) (hr : o.replay = .ok) :
    (abort t o n).1 = none := by
  cases hdb : n.hasDb <;> simp [abort, ht, hdb, Db.execStatus, hr]

end Acknowledge

theorem commit_abort_acknowledge (codec : Codec P V) (s : Store V) (hs : AuditInv s)
    (cs : List (Call P)) (hcs : ∀ c ∈ cs, c.namesAuditTable codec = false) (t : TxId) :
    let n := run codec (newNodeWithDB s) cs
    (∀ h, n.pendingTx t = some h → n.db.isActive h →
      (∀ o, (commit t o n).1 = none → (commit t o n).2.db.store.written t ∧
        ∃ b, (commit t o n).2.db.store.rows t = some ⟨b, .committed⟩) ∧
      ∀ o, (abort t o n).1 = none → ¬ (abort t o n).2.db.store.written t) ∧
    (∀ h, n.pendingTx t = some h → ¬ n.db.isActive h →
      ∀ oc oa, (commit t oc n).1 = none ∧ (abort t oa n).1 = none) ∧
    (n.pendingTx t = none → ∀ oc oa, oc.replay = .ok → oa.replay = .ok →
      (commit t oc n).1 = none ∧ (abort t oa n).1 = none) := by
  intro n
  have hr : AuditRun n := (AuditRun.init hs).run cs hcs
  refine ⟨fun h ht hact => ⟨fun o hc => commit_active_ok hr.store ht hact hc, fun o _ => ?_⟩,
    fun h ht hact oc oa => ⟨commit_done_ok ht hact, abort_done_ok ht hact⟩,
    fun ht oc oa hc ha => ⟨commit_replay_ok ht hc, abort_replay_ok ht ha⟩⟩
  obtain ⟨owner, ws, hh⟩ := hact
  obtain rfl := hr.store.owner ht hh
  rw [abort_active_store ht ⟨owner, ws, hh⟩, ← hr.audit.written, hr.fresh h owner ws hh]
  exact Bool.false_ne_true

theorem commit_abort_acknowledge_prepared :
    AuditInv (Store.empty : Store Nat) ∧
      (∀ c ∈ [.prepare "t" (some usersInsert) .ok],
        Call.namesAuditTable (actionCodec fun _ => .ok "") c = false) ∧
      let n := run (actionCodec fun _ => .ok "") (newNodeWithDB Store.empty)
        [.prepare "t" (some usersInsert) .ok]
      (∀ h, n.pendingTx "t" = some h → n.db.isActive h →
        (∀ o, (commit "t" o n).1 = none → (commit "t" o n).2.db.store.written "t" ∧
          ∃ b, (commit "t" o n).2.db.store.rows "t" = some ⟨b, .committed⟩) ∧
        ∀ o, (abort "t" o n).1 = none → ¬ (abort "t" o n).2.db.store.written "t") ∧
      (∀ h, n.pendingTx "t" = some h → ¬ n.db.isActive h →
        ∀ oc oa, (commit "t" oc n).1 = none ∧ (abort "t" oa n).1 = none) ∧
      (n.pendingTx "t" = none → ∀ oc oa, oc.replay = .ok → oa.replay = .ok →
        (commit "t" oc n).1 = none ∧ (abort "t" oa n).1 = none) :=
  ⟨AuditInv.empty, by decide, commit_abort_acknowledge _ _ AuditInv.empty _ (by decide) "t"⟩

theorem commit_abort_acknowledge_unfounded :
    let codec : Codec (SQLAction Nat) Nat := actionCodec fun _ => .ok ""
    let aborted := run codec (newNodeWithDB Store.empty)
      [.prepare "t" (some usersInsert) .ok, .abort "t" .ok]
    let retried := run codec (newNodeWithDB Store.empty)
      [.prepare "t" (some usersInsert) .ok, .commit "t" ⟨some badConn, none, .ok, .ok⟩]
    let renamed := run (actionCodec fun _ => .ok "") (newNodeWithDB Store.empty)
      [.prepare "t" (some usersName) .ok, .commit "t" .ok,
        .prepare "u" (some (renameRow "t" "z")) .ok, .commit "u" .ok,
        .prepare "t" (some usersName) .ok]
    (commit "t" .ok aborted).1 = none ∧ (commit "t" .ok aborted).2.db.store.data = [] ∧
      (commit "t" .ok retried).1 = none ∧ (commit "t" .ok retried).2.db.store.data = [] ∧
      renamed.pendingTx "t" = some 2 ∧ renamed.db.isActive 2 ∧
      (abort "t" .ok renamed).1 = none ∧ (abort "t" .ok renamed).2.db.store.written "t" := by
  refine ⟨by decide, by decide, by decide, by decide, by decide, ⟨"t", _, rfl⟩, by decide, by decide⟩

/-! ### What refuses a later `Prepare` -/

theorem Store.applyWrites_rows_isSome {owner x : TxId} :
    ∀ {ws : List (Write V)}, (∀ stmt, Write.exec stmt ∈ ws → stmt.onAudit = false) →
      ∀ s : Store V, (s.rows x).isSome → ((s.applyWrites owner ws).rows x).isSome
  | [], _, _, h => h
  | w :: ws, hws, s, h => by
    refine Store.applyWrites_rows_isSome (fun stmt hm => hws stmt (List.mem_cons_of_mem _ hm))
      (s.applyWrite owner w) ?_
    cases w with
    | exec stmt =>
      simpa [Store.applyWrite, Stmt.commitRows_of_not_onAudit (hws stmt (List.mem_cons_self ..))] using h
    | insertAudit t p =>
      by_cases hx : x = t
      · subst hx; simp [Store.applyWrite]
      · simpa [Store.applyWrite, Function.update_noteq hx] using h
    | setStatus t st => rwa [Store.applyWrite, Store.setStatus_rows_isSome]

theorem step_rows_isSome (codec : Codec P V) {n : Node P V} (hc : ∀ o, OpenClean n o) {x : TxId}
    (h : (n.db.store.rows x).isSome) : ∀ c : Call P, ((step codec n c).db.store.rows x).isSome
  | .prepare t p o => by rwa [step, prepare_store]
  | .commit t o => by
    rcases commit_cases t o n with ⟨h', _, _, -, hh, ⟨e, hc'⟩ | ⟨e, hc'⟩ | hc'⟩ | ⟨_, -, -, hc'⟩ |
      ⟨-, _, hs, ⟨e, hc'⟩ | hc'⟩
    all_goals simp only [step, hc', finish_db]
    any_goals exact h
    any_goals exact Store.applyWrites_rows_isSome (fun stmt hm => hc _ h' _ hh stmt (by simpa using hm)) _ h
    all_goals rcases hs with rfl | rfl
    all_goals first | exact h | rwa [Store.setStatus_rows_isSome]
  | .abort t o => by
    rcases abort_store_cases n t o with e | e <;> simp only [step, e]
    · exact h
    · rwa [Store.setStatus_rows_isSome]

theorem step_hasDb (codec : Codec P V) (n : Node P V) : ∀ c : Call P, (step codec n c).hasDb = n.hasDb
  | .prepare t p o => by
    rcases prepare_cases codec t p o n with ⟨e, n', hp, hu⟩ | ⟨n', hp, hr⟩ <;> rw [step, hp]
    exacts [hu.hasDb, hr.hasDb]
  | .commit t o => by
    rcases commit_cases t o n with ⟨_, _, _, -, -, ⟨e, hc⟩ | ⟨e, hc⟩ | hc⟩ | ⟨_, -, -, hc⟩ |
      ⟨-, _, -, ⟨e, hc⟩ | hc⟩ <;> rw [step, hc] <;> rfl
  | .abort t o => by
    rcases abort_cases t o n with ⟨_, _, _, -, -, ⟨e, hc⟩ | hc⟩ | ⟨_, -, -, hc⟩ |
      ⟨-, _, -, ⟨e, hc⟩ | hc⟩ <;> rw [step, hc] <;> rfl

theorem run_rows_isSome (codec : Codec P V) {x : TxId} :
    ∀ (cs : List (Call P)) (n : Node P V), (∀ c ∈ cs, c.namesAuditTable codec = false) →
      (∀ o, OpenClean n o) → (n.db.store.rows x).isSome →
      ((run codec n cs).db.store.rows x).isSome ∧ (run codec n cs).hasDb = n.hasDb
  | [], _, _, _, h => ⟨h, rfl⟩
  | c :: cs, n, hcs, hc, h => by
    obtain ⟨h₁, h₂⟩ := run_rows_isSome codec cs (step codec n c)
      (fun c' h' => hcs c' (List.mem_cons_of_mem _ h'))
      (fun o => (hc o).step c fun _ => hcs c (List.mem_cons_self ..)) (step_rows_isSome codec hc h c)
    exact ⟨h₁, h₂.trans (step_hasDb codec n c)⟩

theorem prepare_refused_of_row (codec : Codec P V) {n : Node P V} {t : TxId} {p : Option P}
    (hp : namesAuditTable codec p = false) (o : PrepareOutcome) (hdb : n.hasDb = true)
    (hrow : (n.db.store.rows t).isSome) :
    ∃ e, (prepare codec t p o n).1 = (false, some e) ∧ Unchanged n (prepare codec t p o n).2 := by
  rcases prepare_cases codec t p o n with ⟨e, n', hp', hu⟩ | ⟨n', -, hr⟩
  · exact ⟨e, by rw [hp'], by rwa [hp']⟩
  · obtain ⟨_, _, _, ha, hs, -, hnone, -⟩ := hr.withDb hdb
    rw [Stmt.commitRows_of_not_onAudit (not_onAudit_of_namesAuditTable ha hs hp)] at hnone
    simp [hnone] at hrow

theorem prepare_refused_once_recorded (codec : Codec P V) (n : Node P V) (t : TxId) :
    ((n.pendingData t).isSome → ∀ p o,
      prepare codec t p o n = ((false, some "transaction already in progress"), n)) ∧
    (n.hasDb = true → (∀ o, OpenClean n o) → (n.db.store.rows t).isSome → ∀ cs p o,
      (∀ c ∈ cs, c.namesAuditTable codec = false) → namesAuditTable codec p = false →
      let n' := run codec n cs
      (prepare codec t p o n').1.1 = false ∧ (prepare codec t p o n').2.pendingTx t = n'.pendingTx t ∧
        (prepare codec t p o n').2.pendingData t = n'.pendingData t) ∧
    (StoreInv n → ∀ h o, n.pendingTx t = some h → n.db.isActive h → (commit t o n).1 = none →
      ((commit t o n).2.db.store.rows t).isSome) := by
  refine ⟨fun hp p o => by simp [prepare, hp], fun hdb hc hrow cs p o hcs hp => ?_,
    fun hi h o ht ha hc => ?_⟩
  · obtain ⟨hrow', hdb'⟩ := run_rows_isSome codec cs n hcs hc hrow
    obtain ⟨e, he, hu⟩ := prepare_refused_of_row codec hp o (hdb'.trans hdb) hrow'
    exact ⟨by rw [he], by rw [hu.pendingTx], by rw [hu.pendingData]⟩
  · obtain ⟨b, hb⟩ := (commit_active_ok hi ht ha hc).2
    simp [hb]

theorem prepare_ready_again :
    let codec : Codec (SQLAction Nat) Nat := actionCodec fun _ => .ok ""
    let early := run codec (newNodeWithDB Store.empty) [.abort "t" .ok]
    let again := run codec (newNodeWithDB Store.empty)
      [.prepare "t" (some usersInsert) .ok, .abort "t" .ok]
    let renamed := run (actionCodec fun _ => .ok "") (newNodeWithDB Store.empty)
      [.prepare "t" (some usersName) .ok, .commit "t" .ok,
        .prepare "u" (some (renameRow "t" "z")) .ok, .commit "u" .ok]
    (prepare codec "t" (some usersInsert) .ok early).1 = (true, none) ∧
      (prepare codec "t" (some usersInsert) .ok early).2.txState = .ready ∧
      (prepare codec "t" (some usersInsert) .ok early).2.pendingTx "t" = some 0 ∧
      (prepare codec "t" (some usersInsert) .ok again).1 = (true, none) ∧
      renamed.db.store.written "t" ∧
      (prepare (actionCodec fun _ => .ok "") "t" (some usersName) .ok renamed).1 = (true, none) := by
  decide

end TwoPc.Participant
