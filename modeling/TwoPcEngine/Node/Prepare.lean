import TwoPcEngine.Node.Basic

/-! `Prepare` is all or nothing: a refusal leaves the participant's maps and committed data as
they were and rolls back the transaction it began; a success holds exactly one open
transaction with the payload statement and the `PREPARED` audit row. -/

namespace TwoPc.Participant

open Sql

variable {P V : Type} [SqlValue V]

/-- What a refused `Prepare` may change: the cached schema check, and the handle table by the
one transaction it began and rolled back. -/
structure Unchanged (n n' : Node P V) : Prop where
  pendingTx : n'.pendingTx = n.pendingTx
  pendingData : n'.pendingData = n.pendingData
  txState : n'.txState = n.txState
  hasDb : n'.hasDb = n.hasDb
  store : n'.db.store = n.db.store
  txs : n'.db.txs = n.db.txs ∨ n'.db.txs = n.db.txs ++ [.done]

/-- A successful `Prepare` of `t`: the payload is pending and, with a database, `t` holds one
new open transaction that ran exactly the rendered payload and the audit insert. -/
structure Ready (codec : Codec P V) (t : TxId) (p : Option P) (n n' : Node P V) : Prop where
  fresh : n.pendingData t = none
  pendingData : n'.pendingData = Function.update n.pendingData t (some p)
  txState : n'.txState = .ready
  hasDb : n'.hasDb = n.hasDb
  noDb : n.hasDb = false → n'.pendingTx = n.pendingTx ∧ n'.db = n.db
  withDb : n.hasDb = true → ∃ a s b, parseSQLAction codec p = .ok a ∧ applySQLAction a = .ok s ∧
    codec.marshal p = .ok b ∧ s.commitRows n.db.store.rows t = none ∧
    n'.pendingTx = Function.update n.pendingTx t (some n.db.txs.length) ∧
    n'.db = ⟨n.db.store, n.db.txs ++ [.active t [.exec s, .insertAudit t b]]⟩

theorem prepareTx_ok {codec : Codec P V} {t : TxId} {p : Option P} {o : PrepareOutcome}
    {db db' : Db V} {h : Nat} (hh : db.txs[h]? = some (.active t []))
    (hr : prepareTx codec t p o db h = .ok db') :
    ∃ a s b, parseSQLAction codec p = .ok a ∧ applySQLAction a = .ok s ∧ codec.marshal p = .ok b ∧
      s.commitRows db.store.rows t = none ∧ db' = db.setTx h (.active t [.exec s, .insertAudit t b]) := by
  obtain ⟨a, ha, hr⟩ := bind_eq_ok.mp hr
  obtain ⟨s, hs, hr⟩ := bind_eq_ok.mp hr
  obtain ⟨db₁, h₁, hr⟩ := bind_eq_ok.mp hr
  obtain ⟨b, hb, hr⟩ := bind_eq_ok.mp hr
  obtain ⟨db₂, h₂, hr⟩ := bind_eq_ok.mp hr
  obtain ⟨rows, -, hr⟩ := bind_eq_ok.mp hr
  obtain ⟨-, -, hx₁⟩ := Db.txExec_ok hh (checkExec_eq_ok.mp h₁)
  have hh₁ : db₁.txs[h]? = some (.active t [.exec s]) := by
    simp only [hx₁, Db.setTx, List.getElem?_set_self (List.getElem?_eq_some_iff.mp hh).1, List.nil_append]
  obtain ⟨hc, -, hx₂⟩ := Db.txExec_ok hh₁ (checkExec_eq_ok.mp h₂)
  by_cases h0 : rows = 0
  · rw [if_pos h0] at hr; cases hr
  obtain rfl : db₂ = db' := Except.ok.inj (by rwa [if_neg h0] at hr)
  subst hx₁ hx₂
  refine ⟨a, s, b, ha, hs, hb, by simpa [Store.applyWrites, Store.applyWrite, Store.rejects] using hc, ?_⟩
  simp only [Db.setTx, List.set_set, List.singleton_append]

theorem prepare_cases (codec : Codec P V) (t : TxId) (p : Option P) (o : PrepareOutcome)
    (n : Node P V) :
    (∃ e n', prepare codec t p o n = ((false, some e), n') ∧ Unchanged n n') ∨
      (∃ n', prepare codec t p o n = ((true, none), n') ∧ Ready codec t p n n') := by
  unfold prepare
  by_cases hp : (n.pendingData t).isSome
  · simp only [hp, if_true]
    exact .inl ⟨_, _, rfl, rfl, rfl, rfl, rfl, rfl, .inl rfl⟩
  have hp' : n.pendingData t = none := by simpa using hp
  simp only [hp, Bool.false_eq_true, if_false]
  cases hdb : n.hasDb
  · exact .inr ⟨_, rfl, hp', rfl, rfl, hdb.symm, fun _ => ⟨rfl, rfl⟩, fun h => by simp_all⟩
  obtain ⟨err, d, e, hs⟩ := ensureSchema_eq n o.schema
  simp only [if_true, hs]
  cases err with
  | some err => exact .inl ⟨_, _, rfl, rfl, rfl, rfl, rfl, rfl, .inl rfl⟩
  | none =>
    cases hb : o.begin with
    | some err => exact .inl ⟨_, _, rfl, rfl, rfl, rfl, rfl, rfl, .inl rfl⟩
    | none =>
      simp only [Db.begin_fst]
      cases hr : prepareTx codec t p o (n.db.begin t).2 n.db.txs.length with
      | error err =>
        refine .inl ⟨_, _, rfl, rfl, rfl, rfl, rfl, by simp, .inr ?_⟩
        simp [Db.txRollback_active (Db.begin_active n.db t), Db.begin_setTx]
      | ok db' =>
        obtain ⟨a, s, b, ha, hs, hb, hrow, rfl⟩ := prepareTx_ok (Db.begin_active n.db t) hr
        exact .inr ⟨_, rfl, hp', rfl, rfl, rfl, fun h => by simp_all,
          fun _ => ⟨a, s, b, ha, hs, hb, hrow, rfl, Db.begin_setTx ..⟩⟩

theorem prepare_all_or_nothing (codec : Codec P V) (t : TxId) (p : Option P) (o : PrepareOutcome)
    (n : Node P V) :
    (∃ e n', prepare codec t p o n = ((false, some e), n') ∧ Unchanged n n') ∨
      (∃ n', prepare codec t p o n = ((true, none), n') ∧ Ready codec t p n n') :=
  prepare_cases codec t p o n

end TwoPc.Participant
