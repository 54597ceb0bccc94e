import TwoPcEngine.Db

/-! The participant store of `node.Node` (`Prepare`, `Commit`, `Abort` and the schema check),
each database call taking the driver's answer as an argument. -/

namespace TwoPc.Participant

open Sql

variable {P V : Type} [SqlValue V]

/-- The fields of `node.Node` its transaction methods read and write. `hasDb` is `n.db != nil`;
`schemaDone` and `schemaErr` are the `sync.Once` and the error it cached. -/
structure Node (P V : Type) where
  txState : TxState
  pendingTx : TxId → Option Nat
  pendingData : TxId → Option (Option P)
  hasDb : Bool
  db : Db V
  schemaDone : Bool
  schemaErr : Option String

def newNode : Node P V :=
  ⟨.init, fun _ => none, fun _ => none, false, Db.connect Store.empty, false, none⟩

def newNodeWithDB (s : Store V) : Node P V :=
  ⟨.init, fun _ => none, fun _ => none, true, Db.connect s, false, none⟩

structure SchemaOutcome where
  tableExists : Except DriverError Bool
  ddl : Option DriverError
  recheck : Except DriverError Bool

structure PrepareOutcome where
  schema : SchemaOutcome
  begin : Option DriverError
  apply : Option DriverError
  insert : Option DriverError
  rowsAffected : Except DriverError Int
  rollback : Option DriverError

structure CommitOutcome where
  update : Option DriverError
  rollback : Option DriverError
  commit : Outcome
  replay : Outcome

structure AbortOutcome where
  rollback : Option DriverError
  replay : Outcome

def PrepareOutcome.ok : PrepareOutcome := ⟨⟨.ok true, none, .ok true⟩, none, none, none, .ok 1, none⟩

def CommitOutcome.ok : CommitOutcome := ⟨none, none, .ok, .ok⟩

def AbortOutcome.ok : AbortOutcome := ⟨none, .ok⟩

def ensureSchemaLocked (o : SchemaOutcome) : Option String :=
  match o.tableExists with
  | .error err => some err.msg
  | .ok true => none
  | .ok false =>
    match o.ddl with
    | none => none
    | some err =>
      match o.recheck with
      | .error chkErr => some chkErr.msg
      | .ok true => none
      | .ok false => some err.msg

/-- `ensureSchema`: the first call runs the check, every later one returns its cached error. -/
def ensureSchema (n : Node P V) (o : SchemaOutcome) : Option String × Node P V :=
  if !n.hasDb then (none, n)
  else if n.schemaDone then (n.schemaErr, n)
  else
    let err := ensureSchemaLocked o
    (err, { n with schemaDone := true, schemaErr := err })

def checkExec : Option String × Db V → Except String (Db V)
  | (some err, _) => .error err
  | (none, db) => .ok db

/-- The work `Prepare` does inside its new transaction `h`: parse and render the payload, run
it, insert the audit row and check `RowsAffected`. A failed statement leaves the database as it
was, so rolling back from here is rolling back `h`. -/
def prepareTx (codec : Codec P V) (txID : TxId) (payload : Option P) (o : PrepareOutcome)
    (db : Db V) (h : Nat) : Except String (Db V) := do
  let action ← parseSQLAction codec payload
  let stmt ← applySQLAction action
  let db ← checkExec (db.txExec h (.exec stmt) o.apply)
  let payloadBytes ← codec.marshal payload
  let db ← checkExec (db.txExec h (.insertAudit txID payloadBytes) o.insert)
  let rows ← o.rowsAffected.mapError (·.msg)
  if rows = 0 then throw "transaction already exists" else pure db

def prepare (codec : Codec P V) (txID : TxId) (payload : Option P) (o : PrepareOutcome)
    (n : Node P V) : (Bool × Option String) × Node P V :=
  if (n.pendingData txID).isSome then ((false, some "transaction already in progress"), n)
  else if n.hasDb then
    match ensureSchema n o.schema with
    | (some err, n) => ((false, some err), n)
    | (none, n) =>
      match o.begin with
      | some err => ((false, some err.msg), n)
      | none =>
        let (h, db) := n.db.begin txID
        match prepareTx codec txID payload o db h with
        | .error err => ((false, some err), { n with db := (db.txRollback h o.rollback).2 })
        | .ok db =>
          ((true, none),
            { n with
              db := db, pendingTx := Function.update n.pendingTx txID (some h),
              pendingData := Function.update n.pendingData txID (some payload), txState := .ready })
  else
    ((true, none),
      { n with pendingData := Function.update n.pendingData txID (some payload), txState := .ready })

def finish (n : Node P V) (txID : TxId) (st : TxState) : Node P V :=
  { n with
    pendingTx := Function.update n.pendingTx txID none,
    pendingData := Function.update n.pendingData txID none, txState := st }

omit [SqlValue V] in
@[simp] theorem finish_pendingTx (n : Node P V) (t : TxId) (st : TxState) :
    (finish n t st).pendingTx = Function.update n.pendingTx t none := rfl

omit [SqlValue V] in
@[simp] theorem finish_pendingData (n : Node P V) (t : TxId) (st : TxState) :
    (finish n t st).pendingData = Function.update n.pendingData t none := rfl

omit [SqlValue V] in
@[simp] theorem finish_db (n : Node P V) (t : TxId) (st : TxState) : (finish n t st).db = n.db := rfl

omit [SqlValue V] in
@[simp] theorem finish_hasDb (n : Node P V) (t : TxId) (st : TxState) :
    (finish n t st).hasDb = n.hasDb := rfl

def failsHard (err : Option String) : Bool := err.any (!isAlreadyFinishedErr ·)

@[simp] theorem failsHard_none : failsHard none = false := rfl

@[simp] theorem failsHard_driver (e : DriverError) : failsHard (some e.msg) = true := by
  simp [failsHard, e.not_finished]

@[simp] theorem failsHard_txDone : failsHard (some errTxDone) = false := by
  simp [failsHard, isAlreadyFinishedErr_errTxDone]

def commit (txID : TxId) (o : CommitOutcome) (n : Node P V) : Option String × Node P V :=
  match n.pendingTx txID with
  | some h =>
    let (updErr, db) := n.db.txExec h (.setStatus txID .committed) o.update
    if failsHard updErr then (updErr, { n with db := (db.txRollback h o.rollback).2 })
    else
      let (err, db) := db.txCommit h o.commit
      if failsHard err then (err, { n with db := db })
      else (none, finish { n with db := db } txID .commit)
  | none =>
    if n.hasDb then
      let (err, db) := n.db.execStatus txID .committed o.replay
      if err.isSome then (err, { n with db := db })
      else (none, finish { n with db := db } txID .commit)
    else (none, finish n txID .commit)

def abort (txID : TxId) (o : AbortOutcome) (n : Node P V) : Option String × Node P V :=
  match n.pendingTx txID with
  | some h =>
    let (err, db) := n.db.txRollback h o.rollback
    if failsHard err then (err, { n with db := db })
    else (none, finish { n with db := db } txID .abort)
  | none =>
    if n.hasDb then
      let (err, db) := n.db.execStatus txID .aborted o.replay
      if err.isSome then (err, { n with db := db })
      else (none, finish { n with db := db } txID .abort)
    else (none, finish n txID .abort)

inductive Call (P : Type)
  | prepare (txID : TxId) (payload : Option P) (o : PrepareOutcome)
  | commit (txID : TxId) (o : CommitOutcome)
  | abort (txID : TxId) (o : AbortOutcome)

def Call.txID : Call P → TxId
  | .prepare t _ _ => t
  | .commit t _ => t
  | .abort t _ => t

def step (codec : Codec P V) (n : Node P V) : Call P → Node P V
  | .prepare t p o => (prepare codec t p o n).2
  | .commit t o => (commit t o n).2
  | .abort t o => (abort t o n).2

def run (codec : Codec P V) : Node P V → List (Call P) → Node P V
  | n, [] => n
  | n, c :: cs => run codec (step codec n c) cs

/-- A crash and restart of the participant process: the in-memory maps and the `sync.Once` are
lost, the server rolls back every transaction the process held, committed data stays. -/
def restart (n : Node P V) : Node P V :=
  { n with
    txState := .init, pendingTx := fun _ => none, pendingData := fun _ => none,
    db := n.db.crash, schemaDone := false, schemaErr := none }

omit [SqlValue V] in
theorem checkExec_eq_ok {r : Option String × Db V} {db : Db V} :
    checkExec r = .ok db ↔ r = (none, db) := by
  rcases r with ⟨_ | _, _⟩ <;> simp [checkExec]

omit [SqlValue V] in
theorem ensureSchema_eq (n : Node P V) (o : SchemaOutcome) :
    ∃ err d e, ensureSchema n o = (err, { n with schemaDone := d, schemaErr := e }) := by
  unfold ensureSchema
  split_ifs
  · exact ⟨none, n.schemaDone, n.schemaErr, rfl⟩
  · exact ⟨n.schemaErr, n.schemaDone, n.schemaErr, rfl⟩
  · exact ⟨_, _, _, rfl⟩

theorem run_append (codec : Codec P V) (n : Node P V) (cs cs' : List (Call P)) :
    run codec n (cs ++ cs') = run codec (run codec n cs) cs' := by
  induction cs generalizing n with
  | nil => rfl
  | cons c cs ih => exact ih _

end TwoPc.Participant
