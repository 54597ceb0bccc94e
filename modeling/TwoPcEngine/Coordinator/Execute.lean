import TwoPcEngine.Protocol

/-! `Coordinator.Execute`: the prepare phase, the decision, and the commit or abort phase, over
the answers each participant gives. The requests of one phase go out concurrently; the model
lists them in the participants' order and every property below counts them. -/

namespace TwoPc.Coordinator

inductive Msg
  | prepare (txID addr : String)
  | commit (txID addr : String)
  | abort (txID addr : String)
  | localPrepare (txID : String)
  | localCommit (txID : String)
  | localAbort (txID : String)
  deriving DecidableEq, Repr

/-- The participants' answers for one transaction: what the local node's `Prepare` and `Commit`
return, and what the HTTP client returns for each remote address (an error for a transport
failure, a timeout or a non-2xx status). -/
structure Answers where
  localPrepare : Bool × Option String
  localCommit : Option String
  prepare : String → Except String PrepareResponse
  commit : String → Except String CommitResponse

structure PrepareResult where
  addr : String
  success : Bool

structure CommitResult where
  addr : String
  success : Bool

structure PrepareOutcome where
  includeLocal : Bool
  localPrepared : Bool
  preparedRemotes : List String
  failedNodes : List String

def prepareSucceeded : Except String PrepareResponse → Bool
  | .ok resp => resp.status == statusReady
  | .error _ => false

def commitSucceeded : Except String CommitResponse → Bool
  | .ok resp => resp.success
  | .error _ => false

def preparePhase (txID : String) (ans : Answers) (participants : List String) :
    List PrepareResult × List Msg :=
  (participants.map fun addr => ⟨addr, prepareSucceeded (ans.prepare addr)⟩,
    participants.map (Msg.prepare txID))

def commitPhase (txID : String) (ans : Answers) (preparedAddrs : List String) :
    List CommitResult × List Msg :=
  (preparedAddrs.map fun addr => ⟨addr, commitSucceeded (ans.commit addr)⟩,
    preparedAddrs.map (Msg.commit txID))

def abortPhase (txID : String) (participantAddrs : List String) : List Msg :=
  participantAddrs.map (Msg.abort txID)

def collectResults (o : PrepareOutcome) : List PrepareResult → PrepareOutcome
  | [] => o
  | r :: rs =>
    collectResults
      (if r.success then { o with preparedRemotes := o.preparedRemotes ++ [r.addr] }
        else { o with failedNodes := o.failedNodes ++ [r.addr] }) rs

def prepareTransaction (txID : String) (localNode : Option String) (ans : Answers)
    (remoteParticipants : List String) : PrepareOutcome × List Msg :=
  let (outcome, localMsgs) : PrepareOutcome × List Msg :=
    match localNode with
    | none => (⟨false, false, [], []⟩, [])
    | some addr =>
      if ans.localPrepare.1 && ans.localPrepare.2.isNone then
        (⟨true, true, [], []⟩, [.localPrepare txID])
      else (⟨true, false, [], [addr ++ " (local)"]⟩, [.localPrepare txID])
  let (prepareResults, msgs) := preparePhase txID ans remoteParticipants
  (collectResults outcome prepareResults, localMsgs ++ msgs)

def commitTransaction (txID : String) (ans : Answers) (outcome : PrepareOutcome) :
    (Bool × Nat) × List Msg :=
  let callLocal := outcome.includeLocal && outcome.localPrepared
  let localCommitSuccess := !callLocal || ans.localCommit.isNone
  let (commitResults, msgs) := commitPhase txID ans outcome.preparedRemotes
  let commitSuccess := commitResults.foldl (fun ok r => if !r.success then false else ok)
    localCommitSuccess
  let totalCommitted := outcome.preparedRemotes.length + if callLocal then 1 else 0
  ((commitSuccess, totalCommitted), (if callLocal then [.localCommit txID] else []) ++ msgs)

def abortTransaction (txID : String) (outcome : PrepareOutcome) (participantAddrs : List String) :
    List Msg :=
  (if outcome.includeLocal && outcome.localPrepared then [.localAbort txID] else []) ++
    abortPhase txID participantAddrs

def fmtSlice (xs : List String) : String := "[" ++ " ".intercalate xs ++ "]"

/-- `Execute` for the transaction id `txID`, over the alive slaves `remoteParticipants`: the
requests it sends and the response it returns. -/
def execute (txID : String) (localNode : Option String) (remoteParticipants : List String)
    (ans : Answers) : List Msg × TransactionResponse :=
  let totalParticipants := remoteParticipants.length + if localNode.isSome then 1 else 0
  if totalParticipants = 0 then ([], ⟨txID, false, "", "No participants available"⟩)
  else
    let participantAddrs := remoteParticipants
    let (outcome, prepareMsgs) := prepareTransaction txID localNode ans remoteParticipants
    if outcome.failedNodes.length > 0 then
      (prepareMsgs ++ abortTransaction txID outcome participantAddrs,
        ⟨txID, false, "", "Prepare failed for nodes: " ++ fmtSlice outcome.failedNodes⟩)
    else
      let ((commitSuccess, totalCommitted), commitMsgs) := commitTransaction txID ans outcome
      if commitSuccess then
        (prepareMsgs ++ commitMsgs,
          ⟨txID, true, "Transaction committed on " ++ toString totalCommitted ++ " nodes", ""⟩)
      else (prepareMsgs ++ commitMsgs, ⟨txID, false, "", "Some commits failed"⟩)

/-! ### The decision over the answers -/

def localReady (ans : Answers) : Bool := ans.localPrepare.1 && ans.localPrepare.2.isNone

theorem localReady_iff {ans : Answers} : localReady ans = true ↔ ans.localPrepare = (true, none) := by
  rcases ans with ⟨⟨_ | _, _ | _⟩, _, _, _⟩ <;> simp [localReady]

def allPrepared (localNode : Option String) (remotes : List String) (ans : Answers) : Bool :=
  (localNode.isNone || localReady ans) && remotes.all fun a => prepareSucceeded (ans.prepare a)

def allCommitted (localNode : Option String) (remotes : List String) (ans : Answers) : Bool :=
  (localNode.isNone || ans.localCommit.isNone) && remotes.all fun a => commitSucceeded (ans.commit a)

variable {txID : String} {localNode : Option String} {remotes : List String} {ans : Answers}

theorem allPrepared_iff :
    allPrepared localNode remotes ans = true ↔
      (localNode.isSome → localReady ans = true) ∧ ∀ a ∈ remotes, prepareSucceeded (ans.prepare a) = true := by
  cases localNode <;> simp [allPrepared]

theorem allCommitted_iff :
    allCommitted localNode remotes ans = true ↔
      (localNode.isSome → ans.localCommit = none) ∧ ∀ a ∈ remotes, commitSucceeded (ans.commit a) = true := by
  cases localNode <;> simp [allCommitted]

def localCall (localNode : Option String) (m : Msg) : List Msg :=
  if localNode.isSome then [m] else []

theorem collectResults_eq (o : PrepareOutcome) (rs : List PrepareResult) :
    collectResults o rs = { o with
      preparedRemotes := o.preparedRemotes ++ (rs.filter (·.success)).map (·.addr),
      failedNodes := o.failedNodes ++ (rs.filter (!·.success)).map (·.addr) } := by
  induction rs generalizing o with
  | nil => simp [collectResults]
  | cons r rs ih => cases hr : r.success <;> simp [collectResults, ih, hr]

theorem commit_foldl (g : String → Bool) (xs : List String) (b : Bool) :
    (xs.map fun addr => (⟨addr, g addr⟩ : CommitResult)).foldl
      (fun ok r => if !r.success then false else ok) b = (b && xs.all g) := by
  induction xs generalizing b with
  | nil => simp
  | cons x xs ih => rw [List.map_cons, List.foldl_cons, ih]; cases hg : g x <;> simp [hg]

theorem prepareTransaction_msgs :
    (prepareTransaction txID localNode ans remotes).2 =
      localCall localNode (.localPrepare txID) ++ remotes.map (.prepare txID) := by
  cases localNode <;> [rfl; (simp only [prepareTransaction]; split <;> rfl)]

theorem prepareTransaction_outcome :
    (prepareTransaction txID localNode ans remotes).1 =
      ⟨localNode.isSome, localNode.isSome && localReady ans,
        remotes.filter (fun a => prepareSucceeded (ans.prepare a)),
        (if localNode.isSome && !localReady ans then [localNode.getD "" ++ " (local)"] else []) ++
          remotes.filter (fun a => !prepareSucceeded (ans.prepare a))⟩ := by
  cases localNode with
  | none => simp [prepareTransaction, preparePhase, collectResults_eq, List.filter_map, Function.comp_def]
  | some addr =>
    by_cases h : (ans.localPrepare.1 && ans.localPrepare.2.isNone) = true <;>
      simp [prepareTransaction, preparePhase, collectResults_eq, List.filter_map, Function.comp_def,
        localReady, h]

theorem prepareTransaction_eq :
    prepareTransaction txID localNode ans remotes =
      (⟨localNode.isSome, localNode.isSome && localReady ans,
        remotes.filter (fun a => prepareSucceeded (ans.prepare a)),
        (if localNode.isSome && !localReady ans then [localNode.getD "" ++ " (local)"] else []) ++
          remotes.filter (fun a => !prepareSucceeded (ans.prepare a))⟩,
        localCall localNode (.localPrepare txID) ++ remotes.map (.prepare txID)) :=
  Prod.ext prepareTransaction_outcome prepareTransaction_msgs

theorem failedNodes_eq_nil :
    (if localNode.isSome && !localReady ans then [localNode.getD "" ++ " (local)"] else []) ++
        remotes.filter (fun a => !prepareSucceeded (ans.prepare a)) = [] ↔
      allPrepared localNode remotes ans = true := by
  cases localNode <;> cases h : localReady ans <;> simp [allPrepared, List.filter_eq_nil_iff, h]

theorem failedNodes_pos_iff :
    (prepareTransaction txID localNode ans remotes).1.failedNodes.length > 0 ↔
      allPrepared localNode remotes ans = false := by
  rw [prepareTransaction_outcome, gt_iff_lt, List.length_pos, Ne, failedNodes_eq_nil]
  simp

theorem commitTransaction_eq (o : PrepareOutcome) :
    commitTransaction txID ans o =
      (((!(o.includeLocal && o.localPrepared) || ans.localCommit.isNone) &&
          o.preparedRemotes.all fun a => commitSucceeded (ans.commit a),
        o.preparedRemotes.length + if o.includeLocal && o.localPrepared then 1 else 0),
        (if o.includeLocal && o.localPrepared then [.localCommit txID] else []) ++
          o.preparedRemotes.map (.commit txID)) := by
  simp only [commitTransaction, commitPhase, commit_foldl]

/-! ### What `Execute` sends and answers -/

theorem execute_of_prepared (h0 : remotes.length + (if localNode.isSome then 1 else 0) ≠ 0)
    (hp : allPrepared localNode remotes ans = true) :
    execute txID localNode remotes ans =
      (localCall localNode (.localPrepare txID) ++ remotes.map (.prepare txID) ++
        (localCall localNode (.localCommit txID) ++ remotes.map (.commit txID)),
        if allCommitted localNode remotes ans then
          ⟨txID, true, "Transaction committed on " ++
            toString (remotes.length + if localNode.isSome then 1 else 0) ++ " nodes", ""⟩
        else ⟨txID, false, "", "Some commits failed"⟩) := by
  have hf := failedNodes_eq_nil.mpr hp
  have hr : remotes.filter (fun a => prepareSucceeded (ans.prepare a)) = remotes :=
    List.filter_eq_self.mpr (allPrepared_iff.mp hp).2
  simp only [execute, if_neg h0, prepareTransaction_eq, hf, hr, List.length_nil, gt_iff_lt,
    lt_irrefl, if_false, commitTransaction_eq]
  cases localNode <;> simp_all [allPrepared, allCommitted, localCall] <;> split <;> rfl

theorem execute_of_refused (hp : allPrepared localNode remotes ans = false) :
    execute txID localNode remotes ans =
      (localCall localNode (.localPrepare txID) ++ remotes.map (.prepare txID) ++
        ((if localNode.isSome && localReady ans then [.localAbort txID] else []) ++
          remotes.map (.abort txID)),
        ⟨txID, false, "", "Prepare failed for nodes: " ++ fmtSlice
          ((if localNode.isSome && !localReady ans then [localNode.getD "" ++ " (local)"] else []) ++
            remotes.filter (fun a => !prepareSucceeded (ans.prepare a)))⟩) := by
  have hf : (if localNode.isSome && !localReady ans then [localNode.getD "" ++ " (local)"] else []) ++
      remotes.filter (fun a => !prepareSucceeded (ans.prepare a)) ≠ [] := fun h => by
    simp [failedNodes_eq_nil.mp h] at hp
  have h0 : remotes.length + (if localNode.isSome then 1 else 0) ≠ 0 := by
    intro h
    cases localNode <;> simp_all [allPrepared, List.length_eq_zero]
  simp only [execute, if_neg h0, prepareTransaction_eq, abortTransaction, abortPhase,
    List.length_pos.mpr hf, gt_iff_lt, if_true]
  cases localNode <;> simp [localCall]

theorem count_map_eq {f : String → Msg} (hf : Function.Injective f) {xs : List String}
    (hnd : xs.Nodup) (m : Msg) : (xs.map f).count m = if m ∈ xs.map f then 1 else 0 :=
  List.count_eq_of_nodup (hnd.map hf)

theorem count_ite (c : Prop) [Decidable c] (m m' : Msg) :
    (if c then [m'] else []).count m = if c ∧ m = m' then 1 else 0 := by
  by_cases h : c <;> by_cases h' : m = m' <;> simp [h, h']

/-- What `Execute` owes its participants and its caller, counted over the requests `msgs` it
sends for `txID` and read off the response `resp`. -/
structure Contract (txID : String) (localNode : Option String) (remotes : List String)
    (ans : Answers) (msgs : List Msg) (resp : TransactionResponse) : Prop where
  sameId : resp.transactionID = txID
  prepareOnce : ∀ a, msgs.count (.prepare txID a) = if a ∈ remotes then 1 else 0
  localPrepareOnce : msgs.count (.localPrepare txID) = if localNode.isSome then 1 else 0
  /-- All `READY`: one `Commit` to every participant, no `Abort`. -/
  commitAll : allPrepared localNode remotes ans = true →
    (∀ a, msgs.count (.commit txID a) = if a ∈ remotes then 1 else 0) ∧
      msgs.count (.localCommit txID) = (if localNode.isSome then 1 else 0) ∧
      (∀ a, msgs.count (.abort txID a) = 0) ∧ msgs.count (.localAbort txID) = 0
  /-- Otherwise: no `Commit`, one `Abort` to every remote participant, and the local node
  aborted exactly when its `Prepare` succeeded. -/
  abortAll : allPrepared localNode remotes ans = false →
    (∀ a, msgs.count (.commit txID a) = 0) ∧ msgs.count (.localCommit txID) = 0 ∧
      (∀ a, msgs.count (.abort txID a) = if a ∈ remotes then 1 else 0) ∧
      msgs.count (.localAbort txID) = if localNode.isSome && localReady ans then 1 else 0
  notBoth : (∀ a, ¬ (Msg.commit txID a ∈ msgs ∧ Msg.abort txID a ∈ msgs)) ∧
    ¬ (Msg.localCommit txID ∈ msgs ∧ Msg.localAbort txID ∈ msgs)
  success : resp.success = true ↔
    allPrepared localNode remotes ans = true ∧ allCommitted localNode remotes ans = true

theorem execute_contract (hnd : remotes.Nodup) (hne : localNode.isSome ∨ remotes ≠ []) :
    Contract txID localNode remotes ans (execute txID localNode remotes ans).1
      (execute txID localNode remotes ans).2 := by
  have h0 : remotes.length + (if localNode.isSome then 1 else 0) ≠ 0 := by
    rcases hne with h | h <;> simp_all
  have cP := count_map_eq (fun _ _ h => (Msg.prepare.inj h).2 : Function.Injective (Msg.prepare txID)) hnd
  have cC := count_map_eq (fun _ _ h => (Msg.commit.inj h).2 : Function.Injective (Msg.commit txID)) hnd
  have cA := count_map_eq (fun _ _ h => (Msg.abort.inj h).2 : Function.Injective (Msg.abort txID)) hnd
  cases hp : allPrepared localNode remotes ans
  · rw [execute_of_refused hp]
    refine ⟨rfl, fun a => ?_, ?_, by simp [hp], fun _ => ⟨fun a => ?_, ?_, fun a => ?_, ?_⟩, ?_, by simp [hp]⟩ <;>
      simp [List.count_append, localCall, count_ite, cP, cC, cA]
  · rw [execute_of_prepared h0 hp]
    refine ⟨by split <;> rfl, fun a => ?_, ?_, fun _ => ⟨fun a => ?_, ?_, fun a => ?_, ?_⟩, by simp [hp], ?_,
      by cases hc : allCommitted localNode remotes ans <;> simp [hc, hp]⟩ <;>
      simp [List.count_append, localCall, count_ite, cP, cC, cA]

theorem execute_contract_allReady :
    ["a", "b"].Nodup ∧ ((some "m").isSome = true ∨ ["a", "b"] ≠ []) ∧
      let ans : Answers := ⟨(true, none), none, fun _ => .ok ⟨statusReady, ""⟩, fun _ => .ok ⟨true, ""⟩⟩
      Contract "t" (some "m") ["a", "b"] ans (execute "t" (some "m") ["a", "b"] ans).1
        (execute "t" (some "m") ["a", "b"] ans).2 :=
  ⟨by decide, .inl rfl, execute_contract (by decide) (.inl rfl)⟩

theorem execute_without_participants :
    let ans : Answers := ⟨(true, none), none, fun _ => .ok ⟨statusReady, ""⟩, fun _ => .ok ⟨true, ""⟩⟩
    allPrepared none [] ans = true ∧ allCommitted none [] ans = true ∧
      execute "t" none [] ans = ([], ⟨"t", false, "", "No participants available"⟩) :=
  ⟨rfl, rfl, rfl⟩

end TwoPc.Coordinator
