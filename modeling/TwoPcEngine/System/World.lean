import TwoPcEngine.Node.Audit
import TwoPcEngine.Coordinator.Execute

/-! One `Execute` of `txID` among participants with their own databases, with all the environment
may do meanwhile: deliver late, out of order or never, time out, crash and restart a node, and run
other transactions. -/

namespace TwoPc.System

open Participant Coordinator Sql

variable {P V : Type} [SqlValue V]

/-- The data of one run: the payload, the id `uuid.New()` gave it, the local node's address
(the master's own node) and the alive slaves `GetSlaveNodes` returned. -/
structure Setup (P : Type) where
  txID : TxId
  payload : Option P
  localNode : Option String
  remotes : List String

inductive Req
  | prepare (addr : String)
  | commit (addr : String)
  | abort (addr : String)
  deriving DecidableEq

def Req.addr : Req → String
  | .prepare a => a
  | .commit a => a
  | .abort a => a

inductive Reply
  | prepare (r : Except String PrepareResponse)
  | commit (r : Except String CommitResponse)
  | abort (r : Except String CommitResponse)

def handlePrepare (ready : Bool) (err : Option String) : Nat × PrepareResponse :=
  if !ready || err.isSome then (500, ⟨statusAbort, err.getD "Prepare failed"⟩)
  else (200, ⟨statusReady, ""⟩)

def handleCommit (err : Option String) : Nat × CommitResponse :=
  match err with
  | some e => (500, ⟨false, e⟩)
  | none => (200, ⟨true, ""⟩)

/-- `doWithRetry` with retries off, then the body's decoding: a status of 500 or more is an
error. -/
def clientResult {α : Type} : Nat × α → Except String α
  | (code, resp) => if code < 500 then .ok resp else .error ("transient status: " ++ toString code)

/-- The client sees `READY` only from a participant whose `Prepare` returned `(true, nil)`. -/
theorem prepareSucceeded_handlePrepare {ready : Bool} {err : Option String}
    (h : prepareSucceeded (clientResult (handlePrepare ready err)) = true) : ready = true ∧ err = none := by
  cases ready <;> cases err <;> simp_all [handlePrepare, clientResult, prepareSucceeded]

theorem commitSucceeded_handleCommit {err : Option String}
    (h : commitSucceeded (clientResult (handleCommit err)) = true) : err = none := by
  cases err <;> simp_all [handleCommit, clientResult, commitSucceeded]

structure Outcomes where
  prepare : Participant.PrepareOutcome
  commit : CommitOutcome
  abort : AbortOutcome

def serve (codec : Codec P V) (s : Setup P) (n : Node P V) (o : Outcomes) :
    Req → Reply × Node P V
  | .prepare _ =>
    let ((ready, err), n) := Participant.prepare codec s.txID s.payload o.prepare n
    (.prepare (clientResult (handlePrepare ready err)), n)
  | .commit _ =>
    let (err, n) := Participant.commit s.txID o.commit n
    (.commit (clientResult (handleCommit err)), n)
  | .abort _ =>
    let (err, n) := Participant.abort s.txID o.abort n
    (.abort (clientResult (handleCommit err)), n)

section Serve

variable (codec : Codec P V) (s : Setup P) (n : Node P V) (o : Outcomes) (a : String)

@[simp] theorem serve_prepare :
    serve codec s n o (.prepare a) =
      (.prepare (clientResult (handlePrepare (Participant.prepare codec s.txID s.payload o.prepare n).1.1
        (Participant.prepare codec s.txID s.payload o.prepare n).1.2)),
        (Participant.prepare codec s.txID s.payload o.prepare n).2) := rfl

@[simp] theorem serve_commit :
    serve codec s n o (.commit a) =
      (.commit (clientResult (handleCommit (Participant.commit s.txID o.commit n).1)),
        (Participant.commit s.txID o.commit n).2) := rfl

@[simp] theorem serve_abort :
    serve codec s n o (.abort a) =
      (.abort (clientResult (handleCommit (Participant.abort s.txID o.abort n).1)),
        (Participant.abort s.txID o.abort n).2) := rfl

end Serve

inductive Phase
  | idle
  | preparing
  | committing
  | aborting
  | done (resp : TransactionResponse)
  | dead
  deriving DecidableEq

structure Coord where
  phase : Phase
  localPrepare : Bool × Option String
  localCommit : Option String
  prepareAns : String → Option (Except String PrepareResponse)
  commitAns : String → Option (Except String CommitResponse)
  abortAns : String → Option (Except String CommitResponse)

def Coord.init : Coord := ⟨.idle, (false, none), none, fun _ => none, fun _ => none, fun _ => none⟩

/-- The answers `Execute` decides on; an answer never heard counts as an error. -/
def Coord.answers (c : Coord) : Answers :=
  ⟨c.localPrepare, c.localCommit, fun a => (c.prepareAns a).getD (.error ""),
    fun a => (c.commitAns a).getD (.error "")⟩

/-- A reply reaching the coordinator while it waits for it. -/
def Coord.record (c : Coord) (a : String) : Reply → Coord
  | .prepare r =>
    if c.phase = .preparing ∧ (c.prepareAns a).isNone then
      { c with prepareAns := Function.update c.prepareAns a (some r) } else c
  | .commit r =>
    if c.phase = .committing ∧ (c.commitAns a).isNone then
      { c with commitAns := Function.update c.commitAns a (some r) } else c
  | .abort r =>
    if c.phase = .aborting ∧ (c.abortAns a).isNone then
      { c with abortAns := Function.update c.abortAns a (some r) } else c

def Coord.timeout (c : Coord) (a : String) : Coord :=
  match c.phase with
  | .preparing =>
    if (c.prepareAns a).isNone then
      { c with prepareAns := Function.update c.prepareAns a (some (.error "timeout")) } else c
  | .committing =>
    if (c.commitAns a).isNone then
      { c with commitAns := Function.update c.commitAns a (some (.error "timeout")) } else c
  | .aborting =>
    if (c.abortAns a).isNone then
      { c with abortAns := Function.update c.abortAns a (some (.error "timeout")) } else c
  | _ => c

section Coord

variable (c : Coord) (a : String)

@[simp] theorem Coord.record_phase (r : Reply) : (c.record a r).phase = c.phase := by
  cases r <;> simp only [Coord.record] <;> split_ifs <;> rfl

@[simp] theorem Coord.record_localPrepare (r : Reply) :
    (c.record a r).localPrepare = c.localPrepare := by
  cases r <;> simp only [Coord.record] <;> split_ifs <;> rfl

@[simp] theorem Coord.record_localCommit (r : Reply) :
    (c.record a r).localCommit = c.localCommit := by
  cases r <;> simp only [Coord.record] <;> split_ifs <;> rfl

theorem Coord.record_prepareAns (r : Reply) :
    (c.record a r).prepareAns = c.prepareAns ∨
      c.phase = .preparing ∧ c.prepareAns a = none ∧
        ∃ x, r = .prepare x ∧ (c.record a r).prepareAns = Function.update c.prepareAns a (some x) := by
  cases r with
  | prepare x =>
    by_cases h : c.phase = .preparing ∧ (c.prepareAns a).isNone
    · exact .inr ⟨h.1, Option.isNone_iff_eq_none.mp h.2, x, rfl, by simp only [Coord.record, if_pos h]⟩
    · exact .inl (by simp only [Coord.record, if_neg h])
  | commit x => exact .inl (by simp only [Coord.record]; split_ifs <;> rfl)
  | abort x => exact .inl (by simp only [Coord.record]; split_ifs <;> rfl)

theorem Coord.record_commitAns (r : Reply) :
    (c.record a r).commitAns = c.commitAns ∨
      c.phase = .committing ∧
        ∃ x, r = .commit x ∧ (c.record a r).commitAns = Function.update c.commitAns a (some x) := by
  cases r with
  | commit x =>
    by_cases h : c.phase = .committing ∧ (c.commitAns a).isNone
    · exact .inr ⟨h.1, x, rfl, by simp only [Coord.record, if_pos h]⟩
    · exact .inl (by simp only [Coord.record, if_neg h])
  | prepare x => exact .inl (by simp only [Coord.record]; split_ifs <;> rfl)
  | abort x => exact .inl (by simp only [Coord.record]; split_ifs <;> rfl)

theorem Coord.record_prepareAns_some {r : Reply} {b : String} {y : Except String PrepareResponse}
    (h : (c.record a r).prepareAns b = some y) : c.prepareAns b = some y ∨ b = a ∧ r = .prepare y := by
  rcases Coord.record_prepareAns c a r with h' | ⟨-, -, x, rfl, h'⟩
  · exact .inl (h' ▸ h)
  · rw [h', Function.update_apply] at h
    split_ifs at h with hb
    · cases h; exact .inr ⟨hb, rfl⟩
    · exact .inl h

theorem Coord.record_commitAns_some {r : Reply} {b : String} {y : Except String CommitResponse}
    (h : (c.record a r).commitAns b = some y) : c.commitAns b = some y ∨ b = a ∧ r = .commit y := by
  rcases Coord.record_commitAns c a r with h' | ⟨-, x, rfl, h'⟩
  · exact .inl (h' ▸ h)
  · rw [h', Function.update_apply] at h
    split_ifs at h with hb
    · cases h; exact .inr ⟨hb, rfl⟩
    · exact .inl h

structure Coord.Records (c c' : Coord) (a : String) (r : Reply) : Prop where
  phase : c'.phase = c.phase
  localPrepare : c'.localPrepare = c.localPrepare
  localCommit : c'.localCommit = c.localCommit
  prepareAns : ∀ b y, c'.prepareAns b = some y → c.prepareAns b = some y ∨ b = a ∧ r = .prepare y
  commitAns : ∀ b y, c'.commitAns b = some y → c.commitAns b = some y ∨ b = a ∧ r = .commit y

theorem Coord.records_if (r : Reply) (replied : Bool) :
    Coord.Records c (if replied then c.record a r else c) a r := by
  cases replied
  · exact ⟨rfl, rfl, rfl, fun _ _ => .inl, fun _ _ => .inl⟩
  · rw [if_pos rfl]
    exact ⟨record_phase .., record_localPrepare .., record_localCommit ..,
      fun _ _ => record_prepareAns_some c a, fun _ _ => record_commitAns_some c a⟩

@[simp] theorem Coord.timeout_phase : (c.timeout a).phase = c.phase := by
  unfold Coord.timeout; split <;> (try split_ifs) <;> rfl

@[simp] theorem Coord.timeout_localPrepare : (c.timeout a).localPrepare = c.localPrepare := by
  unfold Coord.timeout; split <;> (try split_ifs) <;> rfl

@[simp] theorem Coord.timeout_localCommit : (c.timeout a).localCommit = c.localCommit := by
  unfold Coord.timeout; split <;> (try split_ifs) <;> rfl

theorem Coord.timeout_prepareAns :
    (c.timeout a).prepareAns = c.prepareAns ∨ c.phase = .preparing ∧
      (c.timeout a).prepareAns = Function.update c.prepareAns a (some (.error "timeout")) := by
  unfold Coord.timeout; split <;> (try split_ifs) <;> simp_all

theorem Coord.timeout_commitAns :
    (c.timeout a).commitAns = c.commitAns ∨ c.phase = .committing ∧
      (c.timeout a).commitAns = Function.update c.commitAns a (some (.error "timeout")) := by
  unfold Coord.timeout; split <;> (try split_ifs) <;> simp_all

theorem Coord.timeout_prepareAns_some {b : String} {y : Except String PrepareResponse}
    (h : (c.timeout a).prepareAns b = some y) : c.prepareAns b = some y ∨ y = .error "timeout" := by
  rcases Coord.timeout_prepareAns c a with h' | ⟨-, h'⟩
  · exact .inl (h' ▸ h)
  · rw [h', Function.update_apply] at h
    split_ifs at h
    · cases h; exact .inr rfl
    · exact .inl h

theorem Coord.timeout_commitAns_some {b : String} {y : Except String CommitResponse}
    (h : (c.timeout a).commitAns b = some y) : c.commitAns b = some y ∨ y = .error "timeout" := by
  rcases Coord.timeout_commitAns c a with h' | ⟨-, h'⟩
  · exact .inl (h' ▸ h)
  · rw [h', Function.update_apply] at h
    split_ifs at h
    · cases h; exact .inr rfl
    · exact .inl h

theorem Coord.record_of_done {r : TransactionResponse} (h : c.phase = .done r) (x : Reply) :
    c.record a x = c := by
  cases x <;> simp [Coord.record, h]

theorem Coord.timeout_of_done {r : TransactionResponse} (h : c.phase = .done r) : c.timeout a = c := by
  simp [Coord.timeout, h]

theorem Coord.timeout_of_idle (h : c.phase = .idle) : c.timeout a = c := by
  simp [Coord.timeout, h]

theorem Coord.allPrepared_congr {c' : Coord} (h1 : c'.localPrepare = c.localPrepare)
    (h2 : c'.prepareAns = c.prepareAns) (l : Option String) (rs : List String) :
    allPrepared l rs c'.answers = allPrepared l rs c.answers := by
  simp only [allPrepared, localReady, Coord.answers, h1, h2]

end Coord

def Phase.isDone : Phase → Bool
  | .done _ => true
  | _ => false

/-- The whole system. `decided` and `lost` are records of the model that no process reads:
which branch `Execute` took, and the participants that crashed while holding `txID` pending. -/
structure World (P V : Type) where
  nodes : String → Node P V
  net : List Req
  coord : Coord
  decided : Option Bool
  lost : List String

def World.init (stores : String → Store V) : World P V :=
  ⟨fun a => newNodeWithDB (stores a), [], Coord.init, none, []⟩

inductive Event (P : Type)
  | start (o : Participant.PrepareOutcome)
  /-- The `i`-th request in flight is served; `replied` if its answer reaches the coordinator
  before its timeout. The answer is recorded then: recording it later changes nothing, since the
  coordinator acts only once every answer of a phase is in. -/
  | deliver (i : Nat) (o : Outcomes) (replied : Bool)
  | timeout (addr : String)
  | decide (oc : CommitOutcome) (oa : AbortOutcome)
  | finish
  | crash (addr : String)
  | other (addr : String) (c : Call P)

namespace World

variable (codec : Codec P V) (s : Setup P)

def start (w : World P V) (o : Participant.PrepareOutcome) : World P V :=
  if s.remotes.length + (if s.localNode.isSome then 1 else 0) = 0 then
    { w with
      coord := { w.coord with phase := .done ⟨s.txID, false, "", "No participants available"⟩ } }
  else
    let w :=
      { w with
        net := w.net ++ s.remotes.map .prepare
        coord := { w.coord with phase := .preparing } }
    match s.localNode with
    | some l =>
      let (r, n) := Participant.prepare codec s.txID s.payload o (w.nodes l)
      { w with
        nodes := Function.update w.nodes l n
        coord := { w.coord with localPrepare := r } }
    | none => w

def deliver (w : World P V) (i : Nat) (o : Outcomes) (replied : Bool) : World P V :=
  match w.net[i]? with
  | some req =>
    let (reply, n) := serve codec s (w.nodes req.addr) o req
    { w with
      nodes := Function.update w.nodes req.addr n
      net := w.net.eraseIdx i
      coord := if replied then w.coord.record req.addr reply else w.coord }
  | none => w

/-- `abortTransaction` or `commitTransaction`, once every prepare answer is in. -/
def decide (w : World P V) (oc : CommitOutcome) (oa : AbortOutcome) : World P V :=
  let outcome := (prepareTransaction s.txID s.localNode w.coord.answers s.remotes).1
  let callLocal := outcome.includeLocal && outcome.localPrepared
  if outcome.failedNodes.length > 0 then
    let w := match s.localNode with
      | some l =>
        if callLocal then
          { w with nodes := Function.update w.nodes l (Participant.abort s.txID oa (w.nodes l)).2 }
        else w
      | none => w
    { w with
      net := w.net ++ s.remotes.map .abort
      coord := { w.coord with phase := .aborting }
      decided := some false }
  else
    let (localCommit, w) : Option String × World P V :=
      match s.localNode with
      | some l =>
        if callLocal then
          let (err, n) := Participant.commit s.txID oc (w.nodes l)
          (err, { w with nodes := Function.update w.nodes l n })
        else (none, w)
      | none => (none, w)
    { w with
      net := w.net ++ outcome.preparedRemotes.map .commit
      coord := { w.coord with phase := .committing, localCommit := localCommit }
      decided := some true }

def finish (w : World P V) : World P V :=
  { w with
    coord := { w.coord with phase := .done (execute s.txID s.localNode s.remotes w.coord.answers).2 } }

def step (w : World P V) : Event P → World P V
  | .start o => if w.coord.phase = .idle then start codec s w o else w
  | .deliver i o replied => deliver codec s w i o replied
  | .timeout a => { w with coord := w.coord.timeout a }
  | .decide oc oa =>
    if w.coord.phase = .preparing ∧ s.remotes.all (fun a => (w.coord.prepareAns a).isSome) then
      decide s w oc oa
    else w
  | .finish =>
    match w.coord.phase with
    | .committing =>
      if s.remotes.all (fun a => (w.coord.commitAns a).isSome) then finish s w else w
    | .aborting =>
      if s.remotes.all (fun a => (w.coord.abortAns a).isSome) then finish s w else w
    | _ => w
  | .crash a =>
    { w with
      nodes := Function.update w.nodes a (restart (w.nodes a))
      coord := if s.localNode = some a ∧ !w.coord.phase.isDone then { w.coord with phase := .dead }
        else w.coord
      lost := if ((w.nodes a).pendingData s.txID).isSome then a :: w.lost else w.lost }
  | .other a c =>
    if c.txID = s.txID then w
    else { w with nodes := Function.update w.nodes a (Participant.step codec (w.nodes a) c) }

def run (w : World P V) : List (Event P) → World P V
  | [] => w
  | e :: es => run (step codec s w e) es

/-! ### What each event changes -/

variable {codec s} {w : World P V}

theorem start_eq (o : Participant.PrepareOutcome) :
    start codec s w o =
      if s.remotes.length + (if s.localNode.isSome then 1 else 0) = 0 then
        { w with
          coord := { w.coord with phase := .done ⟨s.txID, false, "", "No participants available"⟩ } }
      else
        { w with
          nodes := match s.localNode with
            | some l => Function.update w.nodes l (Participant.prepare codec s.txID s.payload o (w.nodes l)).2
            | none => w.nodes
          net := w.net ++ s.remotes.map .prepare
          coord := { w.coord with
            phase := .preparing
            localPrepare := match s.localNode with
              | some l => (Participant.prepare codec s.txID s.payload o (w.nodes l)).1
              | none => w.coord.localPrepare } } := by
  unfold start
  split_ifs <;> cases s.localNode <;> rfl

theorem deliver_of_get {i : Nat} {req : Req} (hi : w.net[i]? = some req) (o : Outcomes) (replied : Bool) :
    deliver codec s w i o replied =
      { w with
        nodes := Function.update w.nodes req.addr (serve codec s (w.nodes req.addr) o req).2
        net := w.net.eraseIdx i
        coord := if replied then w.coord.record req.addr (serve codec s (w.nodes req.addr) o req).1
          else w.coord } := by
  simp only [deliver, hi]

theorem deliver_of_none {i : Nat} (hi : w.net[i]? = none) (o : Outcomes) (replied : Bool) :
    deliver codec s w i o replied = w := by
  simp only [deliver, hi]

theorem decide_eq (oc : CommitOutcome) (oa : AbortOutcome) :
    decide s w oc oa =
      let outcome := (prepareTransaction s.txID s.localNode w.coord.answers s.remotes).1
      let callLocal := outcome.includeLocal && outcome.localPrepared
      if outcome.failedNodes.length > 0 then
        { w with
          nodes := match s.localNode with
            | some l =>
              if callLocal then Function.update w.nodes l (Participant.abort s.txID oa (w.nodes l)).2
              else w.nodes
            | none => w.nodes
          net := w.net ++ s.remotes.map .abort
          coord := { w.coord with phase := .aborting }
          decided := some false }
      else
        { w with
          nodes := match s.localNode with
            | some l =>
              if callLocal then Function.update w.nodes l (Participant.commit s.txID oc (w.nodes l)).2
              else w.nodes
            | none => w.nodes
          net := w.net ++ outcome.preparedRemotes.map .commit
          coord := { w.coord with
            phase := .committing
            localCommit := match s.localNode with
              | some l => if callLocal then (Participant.commit s.txID oc (w.nodes l)).1 else none
              | none => none }
          decided := some true } := by
  unfold decide
  dsimp only
  split_ifs <;> cases s.localNode <;> rfl

theorem step_of_done {r : TransactionResponse} (h : w.coord.phase = .done r) (e : Event P) :
    (w.step codec s e).coord = w.coord ∧ (w.step codec s e).decided = w.decided := by
  cases e with
  | deliver i o replied =>
    cases hi : w.net[i]? with
    | none => simp only [step, deliver_of_none hi, and_self]
    | some req =>
      simp only [step, deliver_of_get hi, and_true]
      split_ifs <;> simp only [Coord.record_of_done _ _ h]
  | timeout a => exact ⟨Coord.timeout_of_done _ _ h, rfl⟩
  | crash a => simp [step, h, Phase.isDone]
  | other a c => simp only [step]; split_ifs <;> simp
  | _ => simp [step, h]

theorem crash_coord (w : World P V) (a : String) :
    (w.step codec s (.crash a)).coord = { w.coord with phase := (w.step codec s (.crash a)).coord.phase } ∧
      ((w.step codec s (.crash a)).coord.phase = w.coord.phase ∨
        (w.step codec s (.crash a)).coord.phase = .dead) := by
  simp only [step]
  split_ifs <;> simp

theorem step_decided (e : Event P) :
    (w.step codec s e).decided = w.decided ∨ w.coord.phase = .preparing := by
  cases e with
  | start o =>
    simp only [step]
    split_ifs
    · rw [start_eq]; split_ifs <;> exact .inl rfl
    · exact .inl rfl
  | deliver i o replied =>
    cases hi : w.net[i]? with
    | none => exact .inl (by rw [step, deliver_of_none hi])
    | some req => exact .inl (by rw [step, deliver_of_get hi])
  | decide oc oa =>
    simp only [step]
    split_ifs with h
    exacts [.inr h.1, .inl rfl]
  | finish => simp only [step]; split <;> (try split_ifs) <;> exact .inl rfl
  | other a c => simp only [step]; split_ifs <;> exact .inl rfl
  | _ => exact .inl rfl

theorem run_of_done {r : TransactionResponse} (h : w.coord.phase = .done r) (es : List (Event P)) :
    (w.run codec s es).coord = w.coord ∧ (w.run codec s es).decided = w.decided := by
  induction es generalizing w with
  | nil => exact ⟨rfl, rfl⟩
  | cons e es ih =>
    obtain ⟨hc, hd⟩ := step_of_done h e
    obtain ⟨hc', hd'⟩ := ih (hc ▸ h)
    exact ⟨hc'.trans hc, hd'.trans hd⟩

theorem run_append (w : World P V) (es es' : List (Event P)) :
    w.run codec s (es ++ es') = (w.run codec s es).run codec s es' := by
  induction es generalizing w with
  | nil => rfl
  | cons e es ih => exact ih _

end World

end TwoPc.System
