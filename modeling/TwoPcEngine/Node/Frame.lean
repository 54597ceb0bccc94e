import TwoPcEngine.Node.Audit

/-! What one call can do to the committed data, said once, and what a call for another
transaction id cannot change: `t`'s open transaction, `t`'s committed write and its row. -/

namespace TwoPc.Participant

open Sql

variable {P V : Type} [SqlValue V]

/-- `t` holds its open prepared transaction. -/
def Holds (n : Node P V) (t : TxId) : Prop := ∃ h, n.pendingTx t = some h ∧ n.db.isActive h

/-- `t`'s payload write and a `COMMITTED` row for `t` are committed. -/
def Committed (n : Node P V) (t : TxId) : Prop :=
  n.db.store.written t ∧ ∃ b, n.db.store.rows t = some ⟨b, .committed⟩

theorem step_data_mono {codec : Codec P V} {n : Node P V} (hi : StoreInv n) (c : Call P) :
    ∀ x ∈ n.db.store.data, x ∈ (step codec n c).db.store.data := by
  rcases step_store_cases hi c with h | ⟨st, -, h⟩ | ⟨h, stmt, b, -, -, h'⟩
  · rw [h]; exact fun _ hx => hx
  · rw [h]; exact fun _ hx => hx
  · rw [h']; exact fun _ hx => List.mem_append_left _ hx

theorem step_written_other {codec : Codec P V} {n : Node P V} (hi : StoreInv n) {c : Call P}
    {t : TxId} (ht : c.txID ≠ t) :
    (step codec n c).db.store.written t ↔ n.db.store.written t := by
  rcases step_store_cases hi c with h | ⟨st, -, h⟩ | ⟨h, stmt, b, -, -, h'⟩
  · rw [h]
  · rw [h]; rfl
  · rw [h']; exact Store.written_append.trans (or_iff_left (Ne.symm ht))

theorem step_written_of_not_commit {codec : Codec P V} {n : Node P V} (hi : StoreInv n)
    {t : TxId} {c : Call P} (hc : ∀ o, c ≠ .commit t o)
    (hw : (step codec n c).db.store.written t) : n.db.store.written t := by
  by_cases ht : c.txID = t
  · cases c with
    | prepare _ p o => rwa [step, prepare_store] at hw
    | commit t' o => exact absurd (by simp_all [Call.txID]) (hc o)
    | abort _ o => rcases abort_store_cases n _ o with h | h <;> rwa [step, h] at hw
  · exact (step_written_other hi ht).mp hw

omit [SqlValue V] in
@[simp] theorem restart_store (n : Node P V) : (restart n).db.store = n.db.store := rfl

omit [SqlValue V] in
@[simp] theorem restart_hasDb (n : Node P V) : (restart n).hasDb = n.hasDb := rfl

/-! ### `t`'s open transaction -/

section Holds

variable {codec : Codec P V} {n : Node P V} {t : TxId}

theorem step_holds_other (hi : StoreInv n) {c : Call P} (ht : c.txID ≠ t) (hh : Holds n t) :
    Holds (step codec n c) t := by
  obtain ⟨h, hp, o, ws, ha⟩ := hh
  obtain rfl := hi.owner hp ha
  exact ⟨h, (step_pending_ne codec n c (Ne.symm ht)).1.trans hp,
    o, ws, hi.step_active codec ha c (Ne.symm ht)⟩

omit [SqlValue V] in
theorem pendingData_of_holds (hi : StoreInv n) (hh : Holds n t) : (n.pendingData t).isSome := by
  obtain ⟨h, hp, -⟩ := hh
  have hdb : n.hasDb = true := by
    cases hd : n.hasDb
    · simp [hi.noDb hd t] at hp
    · rfl
  rw [← hi.keys hdb t, hp]
  rfl

theorem prepare_of_holds (hi : StoreInv n) (hh : Holds n t) (p : Option P) (o : PrepareOutcome) :
    prepare codec t p o n = ((false, some "transaction already in progress"), n) := by
  simp [prepare, pendingData_of_holds hi hh]

theorem prepare_ready_holds (hdb : n.hasDb = true) {p : Option P} {o : PrepareOutcome}
    (hr : (prepare codec t p o n).1 = (true, none)) : Holds (prepare codec t p o n).2 t := by
  rcases prepare_cases codec t p o n with ⟨e, n', hp, -⟩ | ⟨n', hp, hready⟩
  · rw [hp] at hr; cases hr
  · obtain ⟨_, _, _, -, -, -, -, htx, hdb'⟩ := hready.withDb hdb
    rw [hp]
    exact ⟨n.db.txs.length, by rw [htx]; simp, t, _, by rw [hdb']; exact List.getElem?_concat_length ..⟩

theorem commit_holds_committed (hi : StoreInv n) (hh : Holds n t) {o : CommitOutcome}
    (hc : (commit t o n).1 = none) : Committed (commit t o n).2 t := by
  obtain ⟨h, hp, ha⟩ := hh
  exact commit_active_ok hi hp ha hc

/-! With every database call succeeding, a fresh participant prepares and commits. -/

theorem prepare_fresh_ready {p : Option P} {a : SQLAction V} {stmt : Stmt V} {b : String}
    {st : Store V} (ha : parseSQLAction codec p = .ok a) (hs : applySQLAction a = .ok stmt)
    (hb : codec.marshal p = .ok b) (hn : namesAuditTable codec p = false) (hrow : st.rows t = none) :
    (prepare codec t p .ok (newNodeWithDB st : Node P V)).1 = (true, none) := by
  have hc := not_onAudit_of_namesAuditTable ha hs hn
  simp [prepare, newNodeWithDB, ensureSchema, ensureSchemaLocked, PrepareOutcome.ok, Db.begin, Db.connect,
    prepareTx, bind, Except.bind, pure, Except.pure, Except.mapError, ha, hs, hb, checkExec, Db.txExec,
    Store.rejects, Stmt.auditRows_of_not_onAudit hc, Store.applyWrites, Store.applyWrite,
    Stmt.commitRows_of_not_onAudit hc, hrow, Db.setTx]

theorem commit_ok_of_holds (hh : Holds n t) : (commit t .ok n).1 = none := by
  obtain ⟨h, ht, owner, ws, hw⟩ := hh
  simp [commit, ht, Db.txExec_setStatus hw, CommitOutcome.ok, Db.txCommit, Db.setTx, hw,
    List.getElem?_set_self (List.getElem?_eq_some_iff.mp hw).1]

theorem fresh_prepare_commit {p : Option P} {a : SQLAction V} {stmt : Stmt V} {b : String}
    {st : Store V} (ha : parseSQLAction codec p = .ok a) (hs : applySQLAction a = .ok stmt)
    (hb : codec.marshal p = .ok b) (hn : namesAuditTable codec p = false) (hrow : st.rows t = none) :
    (prepare codec t p .ok (newNodeWithDB st : Node P V)).1 = (true, none) ∧
      (commit t .ok (prepare codec t p .ok (newNodeWithDB st : Node P V)).2).1 = none ∧
      Committed (commit t .ok (prepare codec t p .ok (newNodeWithDB st : Node P V)).2).2 t := by
  have hr := prepare_fresh_ready ha hs hb hn hrow
  have hh := prepare_ready_holds rfl hr
  have hi : StoreInv (prepare codec t p .ok (newNodeWithDB st : Node P V)).2 :=
    (storeInv_newNodeWithDB st).step codec (.prepare t p .ok)
  exact ⟨hr, commit_ok_of_holds hh, commit_holds_committed hi hh (commit_ok_of_holds hh)⟩

end Holds

/-! ### `t`'s committed write and row -/

section Committed

variable {codec : Codec P V} {n : Node P V} {t : TxId}

theorem step_committed_other (hi : StoreInv n) {c : Call P} (hcl : OpenClean n c.txID)
    (ht : c.txID ≠ t) (hc : Committed n t) : Committed (step codec n c) t := by
  obtain ⟨hrow, hw⟩ := @step_store_other _ _ _ codec _ hi _ hcl _ ht
  exact ⟨hw.mpr hc.1, by rw [hrow]; exact hc.2⟩

omit [SqlValue V] in
theorem restart_committed (hc : Committed n t) : Committed (restart n) t := hc

theorem prepare_committed (hc : Committed n t) (p : Option P) (o : PrepareOutcome) :
    Committed (prepare codec t p o n).2 t := by
  unfold Committed; rw [prepare_store]; exact hc

theorem commit_committed (hi : StoreInv n) (hc : Committed n t) (o : CommitOutcome) :
    Committed (commit t o n).2 t := by
  obtain ⟨hw, b, hb⟩ := hc
  rcases commit_store_cases hi t o with h | h | ⟨-, stmt, b', -, -, h⟩ <;> unfold Committed <;> rw [h]
  · exact ⟨hw, b, hb⟩
  · exact ⟨hw, b, by rw [Store.setStatus_rows_self, hb]; rfl⟩
  · exact ⟨⟨stmt, List.mem_append_right _ (List.mem_singleton_self _)⟩, b', Function.update_same ..⟩

end Committed

end TwoPc.Participant
