import TwoPcEngine.Node.Store

/-! The schema check runs under a `sync.Once`: its first result, error included, is what every later
`ensureSchema` returns, so a first check that fails makes every later `Prepare` fail. -/

namespace TwoPc.Participant

open Sql

variable {P V : Type} [SqlValue V]

/-- The node after a first schema check that failed with `e`: the `sync.Once` has fired with `e`,
and no transaction is pending. -/
structure SchemaFailed (e : String) (n : Node P V) : Prop where
  hasDb : n.hasDb = true
  schemaDone : n.schemaDone = true
  schemaErr : n.schemaErr = some e
  idle : ∀ t, n.pendingData t = none

namespace SchemaFailed

variable {e : String} {n : Node P V}

omit [SqlValue V] in
theorem withDb (h : SchemaFailed e n) (db : Db V) : SchemaFailed e { n with db := db } :=
  ⟨h.hasDb, h.schemaDone, h.schemaErr, h.idle⟩

omit [SqlValue V] in
theorem finish (h : SchemaFailed e n) (t : TxId) (st : TxState) :
    SchemaFailed e (Participant.finish n t st) :=
  ⟨h.hasDb, h.schemaDone, h.schemaErr, fun x => by
    by_cases hx : x = t <;> simp [Function.update_apply, hx, h.idle]⟩

theorem prepare_eq (h : SchemaFailed e n) (codec : Codec P V) (t : TxId) (p : Option P)
    (o : PrepareOutcome) : prepare codec t p o n = ((false, some e), n) := by
  simp [prepare, ensureSchema, h.idle, h.hasDb, h.schemaDone, h.schemaErr]

theorem commit (h : SchemaFailed e n) (t : TxId) (o : CommitOutcome) :
    SchemaFailed e (Participant.commit t o n).2 := by
  rcases commit_cases t o n with ⟨_, _, _, -, -, ⟨_, hc⟩ | ⟨_, hc⟩ | hc⟩ |
    ⟨_, -, -, hc⟩ | ⟨-, _, -, ⟨_, hc⟩ | hc⟩ <;> rw [hc]
  all_goals first | exact h.withDb _ | exact (h.withDb _).finish _ _

omit [SqlValue V] in
theorem abort (h : SchemaFailed e n) (t : TxId) (o : AbortOutcome) :
    SchemaFailed e (Participant.abort t o n).2 := by
  rcases abort_cases t o n with ⟨_, _, _, -, -, ⟨_, hc⟩ | hc⟩ | ⟨_, -, -, hc⟩ |
    ⟨-, _, -, ⟨_, hc⟩ | hc⟩ <;> rw [hc]
  all_goals first | exact h.withDb _ | exact (h.withDb _).finish _ _

theorem step (h : SchemaFailed e n) (codec : Codec P V) : ∀ c, SchemaFailed e (step codec n c)
  | .prepare t p o => by rw [Participant.step, h.prepare_eq]; exact h
  | .commit t o => h.commit t o
  | .abort t o => h.abort t o

theorem run (codec : Codec P V) : ∀ (cs : List (Call P)) {n : Node P V}, SchemaFailed e n →
    SchemaFailed e (Participant.run codec n cs)
  | [], _, h => h
  | c :: cs, _, h => run codec cs (h.step codec c)

end SchemaFailed

theorem prepare_schema_failed (codec : Codec P V) (s : Store V) (t : TxId) (p : Option P)
    {o : PrepareOutcome} {e : String} (he : ensureSchemaLocked o.schema = some e) :
    (prepare codec t p o (newNodeWithDB s)).1 = (false, some e) ∧
      SchemaFailed e (prepare codec t p o (newNodeWithDB s)).2 := by
  simp only [prepare, newNodeWithDB, ensureSchema, he]
  exact ⟨rfl, rfl, rfl, rfl, fun _ => rfl⟩

theorem schema_error_sticky (codec : Codec P V) (s : Store V) (t : TxId) (p : Option P)
    (o : PrepareOutcome) {e : String} (he : ensureSchemaLocked o.schema = some e)
    (cs : List (Call P)) (t' : TxId) (p' : Option P) (o' : PrepareOutcome) :
    (prepare codec t p o (newNodeWithDB s)).1 = (false, some e) ∧
      prepare codec t' p' o' (run codec (newNodeWithDB s) (.prepare t p o :: cs)) =
        ((false, some e), run codec (newNodeWithDB s) (.prepare t p o :: cs)) := by
  obtain ⟨h₁, h₂⟩ := prepare_schema_failed codec s t p he
  exact ⟨h₁, (SchemaFailed.run codec cs h₂).prepare_eq codec t' p' o'⟩

def PrepareOutcome.schemaTimeout : PrepareOutcome :=
  { PrepareOutcome.ok with schema := ⟨.error deadlineExceeded, none, .ok true⟩ }

theorem schema_error_sticky_timeout :
    ensureSchemaLocked PrepareOutcome.ok.schema = none ∧
      ((prepare (actionCodec fun _ => .ok "") "t" (some usersInsert) .schemaTimeout
          (newNodeWithDB Store.empty)).1 = (false, some "context deadline exceeded") ∧
        prepare (actionCodec fun _ => .ok "") "u" (some usersInsert) .ok
            (run (actionCodec fun _ => .ok "") (newNodeWithDB Store.empty)
              [.prepare "t" (some usersInsert) .schemaTimeout]) =
          ((false, some "context deadline exceeded"),
            run (actionCodec fun _ => .ok "") (newNodeWithDB Store.empty)
              [.prepare "t" (some usersInsert) .schemaTimeout])) :=
  ⟨rfl, schema_error_sticky (actionCodec fun _ => .ok "") Store.empty "t" (some usersInsert)
    .schemaTimeout rfl [] "u" (some usersInsert) .ok⟩

end TwoPc.Participant
