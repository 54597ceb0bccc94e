import TwoPcEngine.Sql.Action

/-! The transactional store a participant talks to through `database/sql`: the committed
`distributed_tx` rows and payload writes, the transactions this process has open, and the
server's reading of the payload statements that name `distributed_tx`. -/

namespace TwoPc

open Sql

abbrev TxId := String

def errTxDone : String := "sql: transaction has already been committed or rolled back"

def isAlreadyFinishedErr (err : String) : Bool :=
  containsText err "already been committed" || containsText err "already been rolled back" ||
    containsText err "already been committed or rolled back"

theorem isAlreadyFinishedErr_errTxDone : isAlreadyFinishedErr errTxDone = true := by decide

/-- An error the Postgres driver reports. Only `database/sql` itself says that a transaction
was already committed or rolled back; the driver's own messages never do. -/
structure DriverError where
  msg : String
  not_finished : isAlreadyFinishedErr msg = false

/-- The driver's answer to COMMIT, or to a statement run outside a transaction: success, or an
error after which the work may or may not have reached the database. -/
inductive Outcome
  | ok
  | failed (e : DriverError) (applied : Bool)

/-- The `status` column, a `TEXT`: the code writes the first three, a payload statement any. -/
inductive AuditStatus
  | prepared
  | committed
  | aborted
  | other (text : String)
  deriving DecidableEq, Repr

def AuditStatus.text : AuditStatus → String
  | .prepared => "PREPARED"
  | .committed => "COMMITTED"
  | .aborted => "ABORTED"
  | .other s => s

def AuditStatus.ofText (s : String) : AuditStatus :=
  if s = "PREPARED" then .prepared
  else if s = "COMMITTED" then .committed
  else if s = "ABORTED" then .aborted
  else .other s

structure AuditRow where
  payload : String
  status : AuditStatus
  deriving DecidableEq, Repr

def uniqueViolation : DriverError :=
  ⟨"duplicate key value violates unique constraint", by decide⟩

def notNullViolation : DriverError :=
  ⟨"null value in column violates not-null constraint", by decide⟩

def undefinedColumn : DriverError := ⟨"column does not exist", by decide⟩

def badConn : DriverError := ⟨"driver: bad connection", by decide⟩

def deadlineExceeded : DriverError := ⟨"context deadline exceeded", by decide⟩

/-! ### Payload statements on `distributed_tx` -/

class SqlValue (V : Type) where
  text : V → Option String

instance : SqlValue Nat := ⟨fun n => some (toString n)⟩

instance : SqlValue String := ⟨some⟩

def words (text : String) : List String := (text.toList.splitOn ' ').map String.mk

def quotedIdentsAux : List Char → Option (List Char) → List String
  | [], _ => []
  | '"' :: l, none => quotedIdentsAux l (some [])
  | '"' :: l, some cur => String.mk cur.reverse :: quotedIdentsAux l none
  | c :: l, some cur => quotedIdentsAux l (some (c :: cur))
  | _ :: l, none => quotedIdentsAux l none

def quotedIdents (w : String) : List String := quotedIdentsAux w.toList none

inductive AuditQuery
  | insert (cols : List String)
  | update (set conds : List String)
  deriving DecidableEq, Repr

/-- The server's reading of the two forms `applySQLAction` renders, when they name
`distributed_tx`. -/
def readAudit : List String → Option AuditQuery
  | "INSERT" :: "INTO" :: "\"distributed_tx\"" :: cols :: _ => some (.insert (quotedIdents cols))
  | "UPDATE" :: "\"distributed_tx\"" :: "SET" :: set :: "WHERE" :: conds =>
    some (.update (quotedIdents set) (conds.flatMap quotedIdents))
  | _ => none

theorem readAudit_insert_ne {tbl : String} (h : tbl ≠ "\"distributed_tx\"") (rest : List String) :
    readAudit ("INSERT" :: "INTO" :: tbl :: rest) = none := by
  delta readAudit readAudit.match_1
  rcases rest with _ | ⟨cols, rest⟩ <;> simp [h]

theorem readAudit_update_ne {tbl : String} (h : tbl ≠ "\"distributed_tx\"") (rest : List String) :
    readAudit ("UPDATE" :: tbl :: rest) = none := by
  delta readAudit readAudit.match_1
  simp [h]

def auditColumns : List String := ["tx_id", "payload", "status"]

def AuditRow.column (k : TxId) (r : AuditRow) (c : String) : Option String :=
  if c = "tx_id" then some k
  else if c = "payload" then some r.payload
  else if c = "status" then some r.status.text
  else none

def AuditRow.assign (kr : TxId × AuditRow) (cv : String × String) : TxId × AuditRow :=
  if cv.1 = "tx_id" then (cv.2, kr.2)
  else if cv.1 = "payload" then (kr.1, { kr.2 with payload := cv.2 })
  else (kr.1, { kr.2 with status := .ofText cv.2 })

/-- The server runs a statement on `distributed_tx` with the argument texts `vals`. An
`UPDATE` whose `WHERE` fixes `tx_id` rewrites that row; one that does not rewrites every
matching row in place, and is refused if it sets `tx_id`. -/
def AuditQuery.exec (rows : TxId → Option AuditRow) (vals : List (Option String)) :
    AuditQuery → Except DriverError (TxId → Option AuditRow)
  | .insert cols =>
    if cols.all (· ∈ auditColumns) then
      let v := fun c => ((cols.zip vals).lookup c).join
      match v "tx_id", v "payload", v "status" with
      | some k, some p, some st =>
        if (rows k).isSome then .error uniqueViolation
        else .ok (Function.update rows k (some ⟨p, .ofText st⟩))
      | _, _, _ => .error notNullViolation
    else .error undefinedColumn
  | .update set conds =>
    if (set ++ conds).all (· ∈ auditColumns) then
      match (set.zip vals).mapM fun cv => cv.2.map (cv.1, ·) with
      | none => .error notNullViolation
      | some asg =>
        let cs := conds.zip (vals.drop set.length)
        let hit := fun k r => cs.all fun cv => cv.2.isSome && r.column k cv.1 == cv.2
        match cs.lookup "tx_id" with
        | some (some k) =>
          match rows k with
          | some r =>
            if hit k r then
              let kr := asg.foldl AuditRow.assign (k, r)
              if kr.1 ≠ k ∧ (rows kr.1).isSome then .error uniqueViolation
              else .ok (Function.update (Function.update rows k none) kr.1 (some kr.2))
            else .ok rows
          | none => .ok rows
        | some none => .ok rows
        | none =>
          if "tx_id" ∈ set then .error uniqueViolation
          else .ok fun k => (rows k).map fun r => if hit k r then (asg.foldl AuditRow.assign (k, r)).2 else r
    else .error undefinedColumn

/-! ### Writes, transactions and the store -/

variable {V : Type}

inductive Write (V : Type)
  | exec (stmt : Stmt V)
  | insertAudit (txID : TxId) (payload : String)
  | setStatus (txID : TxId) (status : AuditStatus)
  deriving DecidableEq

/-- A `*sql.Tx`: open with the statements it ran so far, or finished. `owner` is the id of the
`Prepare` that began it, a label of the model that the database never reads. -/
inductive TxHandle (V : Type)
  | active (owner : TxId) (writes : List (Write V))
  | done
  deriving DecidableEq

/-- What the database has durably committed. Every payload write is listed with the id of the
transaction whose prepared statement made it. -/
structure Store (V : Type) where
  rows : TxId → Option AuditRow
  data : List (TxId × Stmt V)

def Store.empty : Store V := ⟨fun _ => none, []⟩

structure Db (V : Type) where
  store : Store V
  txs : List (TxHandle V)

def Db.connect (s : Store V) : Db V := ⟨s, []⟩

def Store.setStatus (s : Store V) (t : TxId) (st : AuditStatus) : Store V :=
  { s with rows := Function.update s.rows t ((s.rows t).map fun r => { r with status := st }) }

def Store.written (s : Store V) (t : TxId) : Prop := ∃ stmt, (t, stmt) ∈ s.data

theorem Store.written_iff_any (s : Store V) (t : TxId) : s.written t ↔ s.data.any (·.1 == t) := by
  simp [Store.written, List.any_eq_true]

instance (s : Store V) (t : TxId) : Decidable (s.written t) :=
  decidable_of_iff _ (s.written_iff_any t).symm

def Db.setTx (db : Db V) (h : Nat) (x : TxHandle V) : Db V := { db with txs := db.txs.set h x }

def Db.isActive (db : Db V) (h : Nat) : Prop := ∃ o ws, db.txs[h]? = some (.active o ws)

def Db.begin (db : Db V) (owner : TxId) : Nat × Db V :=
  (db.txs.length, { db with txs := db.txs ++ [.active owner []] })

def Db.txRollback (db : Db V) (h : Nat) (o : Option DriverError) : Option String × Db V :=
  match db.txs[h]? with
  | some (.active _ _) => (o.map (·.msg), db.setTx h .done)
  | _ => (some errTxDone, db)

def Db.execStatus (db : Db V) (t : TxId) (st : AuditStatus) (o : Outcome) : Option String × Db V :=
  match o with
  | .ok => (none, { db with store := db.store.setStatus t st })
  | .failed e true => (some e.msg, { db with store := db.store.setStatus t st })
  | .failed e false => (some e.msg, db)

def Db.crash (db : Db V) : Db V := { db with txs := db.txs.map fun _ => .done }

@[simp] theorem Db.setTx_store (db : Db V) (h : Nat) (x : TxHandle V) :
    (db.setTx h x).store = db.store := rfl

@[simp] theorem Db.setTx_length (db : Db V) (h : Nat) (x : TxHandle V) :
    (db.setTx h x).txs.length = db.txs.length := List.length_set ..

theorem Db.setTx_get_self {db : Db V} {h : Nat} {x : TxHandle V} (y : TxHandle V)
    (hh : db.txs[h]? = some x) :
    (db.setTx h y).txs[h]? = some y :=
  List.getElem?_set_self (List.getElem?_eq_some_iff.mp hh).1

@[simp] theorem Db.begin_fst (db : Db V) (t : TxId) : (db.begin t).1 = db.txs.length := rfl

@[simp] theorem Db.begin_store (db : Db V) (t : TxId) : (db.begin t).2.store = db.store := rfl

theorem Db.begin_txs (db : Db V) (t : TxId) : (db.begin t).2.txs = db.txs ++ [.active t []] := rfl

theorem Db.begin_active (db : Db V) (t : TxId) :
    (db.begin t).2.txs[db.txs.length]? = some (.active t []) := List.getElem?_concat_length ..

theorem Db.begin_setTx (db : Db V) (t : TxId) (x : TxHandle V) :
    (db.begin t).2.setTx db.txs.length x = ⟨db.store, db.txs ++ [x]⟩ := by
  simp [Db.begin, Db.setTx]

theorem Db.txRollback_active {db : Db V} {h : Nat} {o : Option DriverError} {owner : TxId}
    {ws : List (Write V)} (hh : db.txs[h]? = some (.active owner ws)) :
    db.txRollback h o = (o.map (·.msg), db.setTx h .done) := by
  simp only [txRollback, hh]

@[simp] theorem Db.txRollback_store (db : Db V) (h : Nat) (o : Option DriverError) :
    (db.txRollback h o).2.store = db.store := by
  unfold txRollback; split <;> rfl

@[simp] theorem Db.execStatus_txs (db : Db V) (t : TxId) (st : AuditStatus) (o : Outcome) :
    (db.execStatus t st o).2.txs = db.txs := by
  unfold execStatus; split <;> rfl

theorem Store.setStatus_rows_ne (s : Store V) {t x : TxId} (st : AuditStatus) (h : x ≠ t) :
    (s.setStatus t st).rows x = s.rows x := Function.update_noteq h ..

theorem Store.setStatus_rows_self (s : Store V) (t : TxId) (st : AuditStatus) :
    (s.setStatus t st).rows t = (s.rows t).map fun r => { r with status := st } :=
  Function.update_same ..

@[simp] theorem Store.setStatus_data (s : Store V) (t : TxId) (st : AuditStatus) :
    (s.setStatus t st).data = s.data := rfl

theorem Db.not_isActive {db : Db V} {h : Nat} (hh : ¬ db.isActive h) :
    ∀ owner ws, db.txs[h]? ≠ some (.active owner ws) := fun owner ws e => hh ⟨owner, ws, e⟩

theorem Db.txRollback_done {db : Db V} {h : Nat} {o : Option DriverError} (hh : ¬ db.isActive h) :
    db.txRollback h o = (some errTxDone, db) := by
  unfold txRollback; split
  · exact absurd ‹_› (not_isActive hh _ _)
  · rfl

theorem Store.written_append {s : Store V} {r : TxId → Option AuditRow} {t x : TxId} {stmt : Stmt V} :
    Store.written ⟨r, s.data ++ [(t, stmt)]⟩ x ↔ s.written x ∨ x = t := by
  simp only [Store.written, List.mem_append, List.mem_singleton, Prod.mk.injEq]
  constructor
  · rintro ⟨st, h | ⟨rfl, -⟩⟩
    exacts [.inl ⟨st, h⟩, .inr rfl]
  · rintro (⟨st, h⟩ | rfl)
    exacts [⟨st, .inl h⟩, ⟨stmt, .inr ⟨rfl, rfl⟩⟩]

theorem Store.setStatus_rows_isSome (s : Store V) (t x : TxId) (st : AuditStatus) :
    ((s.setStatus t st).rows x).isSome = (s.rows x).isSome := by
  by_cases hx : x = t
  · subst hx; simp [Store.setStatus_rows_self]
  · rw [Store.setStatus_rows_ne _ _ hx]

/-! ### The server's side: payload statements, writes and commits -/

variable [SqlValue V]

def Sql.Stmt.auditRows (stmt : Stmt V) (rows : TxId → Option AuditRow) :
    Except DriverError (TxId → Option AuditRow) :=
  match readAudit (words stmt.text) with
  | some q => q.exec rows (stmt.args.map (·.bind SqlValue.text))
  | none => .ok rows

def Sql.Stmt.onAudit (stmt : Stmt V) : Bool := (readAudit (words stmt.text)).isSome

def Sql.Stmt.commitRows (stmt : Stmt V) (rows : TxId → Option AuditRow) : TxId → Option AuditRow :=
  match stmt.auditRows rows with
  | .ok r => r
  | .error _ => rows

theorem Sql.Stmt.auditRows_of_not_onAudit {stmt : Stmt V} (h : stmt.onAudit = false)
    (rows : TxId → Option AuditRow) : stmt.auditRows rows = .ok rows := by
  unfold onAudit at h
  simp only [auditRows, Option.not_isSome_iff_eq_none.mp (by simpa using h)]

theorem Sql.Stmt.commitRows_of_not_onAudit {stmt : Stmt V} (h : stmt.onAudit = false)
    (rows : TxId → Option AuditRow) : stmt.commitRows rows = rows := by
  simp only [commitRows, auditRows_of_not_onAudit h]

/-- A transaction's statements take effect at its commit, in the order they ran. -/
def Store.applyWrite (owner : TxId) (s : Store V) : Write V → Store V
  | .exec stmt => ⟨stmt.commitRows s.rows, s.data ++ [(owner, stmt)]⟩
  | .insertAudit t p => { s with rows := Function.update s.rows t (some ⟨p, .prepared⟩) }
  | .setStatus t st => s.setStatus t st

def Store.applyWrites (owner : TxId) (s : Store V) (ws : List (Write V)) : Store V :=
  ws.foldl (Store.applyWrite owner) s

def Store.rejects (s : Store V) : Write V → Option DriverError
  | .exec stmt =>
    match stmt.auditRows s.rows with
    | .error e => some e
    | .ok _ => none
  | .insertAudit t _ => if (s.rows t).isSome then some uniqueViolation else none
  | .setStatus _ _ => none

def Db.txExec (db : Db V) (h : Nat) (w : Write V) (o : Option DriverError) : Option String × Db V :=
  match db.txs[h]? with
  | some (.active owner ws) =>
    match (db.store.applyWrites owner ws).rejects w with
    | some e => (some (o.getD e).msg, db)
    | none =>
      match o with
      | none => (none, db.setTx h (.active owner (ws ++ [w])))
      | some e => (some e.msg, db)
  | _ => (some errTxDone, db)

def Db.txCommit (db : Db V) (h : Nat) (o : Outcome) : Option String × Db V :=
  match db.txs[h]? with
  | some (.active owner ws) =>
    let applied := { db.setTx h .done with store := db.store.applyWrites owner ws }
    match o with
    | .ok => (none, applied)
    | .failed e true => (some e.msg, applied)
    | .failed e false => (some e.msg, db.setTx h .done)
  | _ => (some errTxDone, db)

@[simp] theorem Db.txExec_store (db : Db V) (h : Nat) (w : Write V) (o : Option DriverError) :
    (db.txExec h w o).2.store = db.store := by
  unfold txExec; split
  · split
    · rfl
    · split <;> rfl
  · rfl

theorem Db.txExec_ok {db db' : Db V} {h : Nat} {w : Write V} {o : Option DriverError} {owner : TxId}
    {ws : List (Write V)} (hh : db.txs[h]? = some (.active owner ws)) (hx : db.txExec h w o = (none, db')) :
    (db.store.applyWrites owner ws).rejects w = none ∧ o = none ∧
      db' = db.setTx h (.active owner (ws ++ [w])) := by
  unfold txExec at hx
  rw [hh] at hx
  cases hr : (db.store.applyWrites owner ws).rejects w with
  | some e => simp [hr] at hx
  | none =>
    cases o with
    | none => exact ⟨rfl, rfl, by simpa [hr, eq_comm] using hx⟩
    | some e => simp [hr] at hx

theorem Db.txExec_error {db db' : Db V} {h : Nat} {w : Write V} {o : Option DriverError} {e : String}
    (hx : db.txExec h w o = (some e, db')) : db' = db := by
  unfold txExec at hx
  split at hx
  · split at hx
    · exact (Prod.mk.inj hx).2.symm
    · cases o <;> simp_all
  · exact (Prod.mk.inj hx).2.symm

theorem Store.applyWrites_prepared (s : Store V) (t : TxId) (stmt : Stmt V) (b : String) :
    s.applyWrites t [.exec stmt, .insertAudit t b, .setStatus t .committed] =
      ⟨Function.update (stmt.commitRows s.rows) t (some ⟨b, .committed⟩), s.data ++ [(t, stmt)]⟩ := by
  simp [applyWrites, applyWrite, setStatus]

theorem Db.txExec_done {db : Db V} {h : Nat} {w : Write V} {o : Option DriverError}
    (hh : ¬ db.isActive h) : db.txExec h w o = (some errTxDone, db) := by
  unfold txExec; split
  · exact absurd ‹_› (not_isActive hh _ _)
  · rfl

theorem Db.txCommit_done {db : Db V} {h : Nat} {o : Outcome} (hh : ¬ db.isActive h) :
    db.txCommit h o = (some errTxDone, db) := by
  unfold txCommit; split
  · exact absurd ‹_› (not_isActive hh _ _)
  · rfl

theorem Db.txExec_setStatus {db : Db V} {h : Nat} {t : TxId} {st : AuditStatus}
    {o : Option DriverError} {owner : TxId} {ws : List (Write V)}
    (hh : db.txs[h]? = some (.active owner ws)) :
    db.txExec h (.setStatus t st) o =
      match o with
      | none => (none, db.setTx h (.active owner (ws ++ [.setStatus t st])))
      | some e => (some e.msg, db) := by
  simp only [txExec, hh, Store.rejects]

theorem Db.txCommit_active {db : Db V} {h : Nat} {o : Outcome} {owner : TxId}
    {ws : List (Write V)} (hh : db.txs[h]? = some (.active owner ws)) :
    db.txCommit h o =
      match o with
      | .ok => (none, ⟨db.store.applyWrites owner ws, db.txs.set h .done⟩)
      | .failed e true => (some e.msg, ⟨db.store.applyWrites owner ws, db.txs.set h .done⟩)
      | .failed e false => (some e.msg, db.setTx h .done) := by
  simp only [txCommit, hh]; rfl

end TwoPc
