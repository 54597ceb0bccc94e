import Mathlib.Algebra.Group.Int
import Mathlib.Tactic.SplitIfs

/-! `HTTPClient.doWithRetry`: the loop that sends one request again after a transport error or a
`5xx` status, up to `maxRetries` more times. Go's `int` is 64 bits wide, so `maxRetries` and the
loop's bound `attempts := maxRetries + 1` are `BitVec 64` and the sum wraps. -/

namespace TwoPc.Transport

/-- The fields of `HTTPClient` the retry loop reads; `retryDelay` is a `time.Duration`, in
nanoseconds. -/
structure HTTPClient where
  maxRetries : BitVec 64
  retryDelay : BitVec 64

def newHTTPClient : HTTPClient := ⟨0, 0⟩

def HTTPClient.withRetry (c : HTTPClient) (maxRetries retryDelay : BitVec 64) : HTTPClient :=
  { c with
    maxRetries := if maxRetries.slt 0 then 0 else maxRetries
    retryDelay := if retryDelay.slt 0 then 0 else retryDelay }

structure Response where
  statusCode : BitVec 64
  deriving DecidableEq

structure RetryResult where
  resp : Option Response
  err : Option String
  calls : Nat
  deriving DecidableEq

def accepted : Except String Response → Option Response
  | .ok resp => if resp.statusCode.slt 500 then some resp else none
  | .error _ => none

def attemptErr : Except String Response → Option String
  | .ok resp => some ("transient status: " ++ toString resp.statusCode.toInt)
  | .error err => some err

/-- The loop from `attempt` on, with `fuel` turns left before `attempt < attempts` fails; the
`attempt`-th call of `do()` answers `outcome attempt`. -/
def retryLoop (outcome : Nat → Except String Response) (attempts : Nat) :
    Nat → Option String → Nat → RetryResult
  | attempt, lastErr, 0 => ⟨none, lastErr, attempt⟩
  | attempt, _, fuel + 1 =>
    match accepted (outcome attempt) with
    | some resp => ⟨some resp, none, attempt + 1⟩
    | none =>
      if attempt = attempts - 1 then ⟨none, attemptErr (outcome attempt), attempt + 1⟩
      else retryLoop outcome attempts (attempt + 1) (attemptErr (outcome attempt)) fuel

/-- How many times the loop body runs: `attempts := c.maxRetries + 1` in 64 bits, and the loop
runs while `attempt < attempts` as signed integers. -/
def HTTPClient.attemptCount (c : HTTPClient) : Nat := (c.maxRetries + 1).toInt.toNat

def HTTPClient.doWithRetry (c : HTTPClient) (outcome : Nat → Except String Response) :
    RetryResult :=
  retryLoop outcome c.attemptCount 0 none c.attemptCount

/-! ### The loop, one turn at a time -/

section Loop

variable {outcome : Nat → Except String Response} {attempts attempt : Nat}
  {lastErr : Option String} {fuel : Nat}

theorem retryLoop_accepted {resp : Response} (h : accepted (outcome attempt) = some resp) :
    retryLoop outcome attempts attempt lastErr (fuel + 1) = ⟨some resp, none, attempt + 1⟩ := by
  simp [retryLoop, h]

theorem retryLoop_last (h : accepted (outcome attempt) = none) (ha : attempt = attempts - 1) :
    retryLoop outcome attempts attempt lastErr (fuel + 1) =
      ⟨none, attemptErr (outcome attempt), attempt + 1⟩ := by
  simp only [retryLoop, h]
  rw [if_pos ha]

theorem retryLoop_next (h : accepted (outcome attempt) = none) (ha : attempt ≠ attempts - 1) :
    retryLoop outcome attempts attempt lastErr (fuel + 1) =
      retryLoop outcome attempts (attempt + 1) (attemptErr (outcome attempt)) fuel := by
  simp [retryLoop, h, ha]

end Loop

/-- What the loop does when it starts at `start` with `n` attempts allowed: it calls `do()` at
least once and at most up to the `n`-th attempt, every call but the last is rejected, and it
returns the last call's response if that is accepted, or else made all `n` calls and returns
the error of the `n`-th. -/
structure RetrySpec (outcome : Nat → Except String Response) (start n : Nat) (r : RetryResult) :
    Prop where
  calls_gt : start < r.calls
  calls_le : r.calls ≤ n
  rejected : ∀ i, start ≤ i → i + 1 < r.calls → accepted (outcome i) = none
  result :
    (∃ resp, accepted (outcome (r.calls - 1)) = some resp ∧ r.resp = some resp ∧
      r.err = none) ∨
    (r.calls = n ∧ accepted (outcome (n - 1)) = none ∧ r.resp = none ∧
      r.err = attemptErr (outcome (n - 1)))

theorem attemptErr_isSome (x : Except String Response) : (attemptErr x).isSome := by
  cases x <;> rfl

theorem RetrySpec.not_nil {outcome : Nat → Except String Response} {start n : Nat}
    {r : RetryResult} (h : RetrySpec outcome start n r) : r.resp.isSome ∨ r.err.isSome := by
  rcases h.result with ⟨resp, -, hr, -⟩ | ⟨-, -, -, he⟩
  · exact .inl (by simp [hr])
  · exact .inr (he ▸ attemptErr_isSome _)

theorem RetrySpec.cons {outcome : Nat → Except String Response} {start n : Nat} {r : RetryResult}
    (h : RetrySpec outcome (start + 1) n r) (hs : accepted (outcome start) = none) :
    RetrySpec outcome start n r where
  calls_gt := by have := h.calls_gt; omega
  calls_le := h.calls_le
  rejected i hi hc := by
    rcases Nat.eq_or_lt_of_le hi with rfl | hi
    · exact hs
    · exact h.rejected i hi hc
  result := h.result

theorem RetrySpec.accepted {outcome : Nat → Except String Response} {attempt attempts : Nat}
    {lastErr : Option String} {fuel : Nat} {resp : Response}
    (hs : accepted (outcome attempt) = some resp) (ha : attempt < attempts) :
    RetrySpec outcome attempt attempts (retryLoop outcome attempts attempt lastErr (fuel + 1)) := by
  rw [retryLoop_accepted hs]
  exact ⟨Nat.lt_succ_self _, ha, fun _ hi hc => by dsimp only at hc; omega,
    .inl ⟨resp, hs, rfl, rfl⟩⟩

theorem retryLoop_spec (outcome : Nat → Except String Response) {attempts : Nat} :
    ∀ fuel attempt lastErr, attempt + fuel + 1 = attempts →
      RetrySpec outcome attempt attempts
        (retryLoop outcome attempts attempt lastErr (fuel + 1)) := by
  intro fuel
  induction fuel with
  | zero =>
    intro attempt lastErr ha
    cases hs : accepted (outcome attempt) with
    | some resp => exact .accepted hs (by omega)
    | none =>
      obtain rfl : attempts = attempt + 1 := by omega
      rw [retryLoop_last hs (by omega)]
      exact ⟨Nat.lt_succ_self _, Nat.le_refl _, fun _ hi hc => by dsimp only at hc; omega,
        .inr ⟨rfl, by simpa using hs, rfl, by simp⟩⟩
  | succ fuel ih =>
    intro attempt lastErr ha
    cases hs : accepted (outcome attempt) with
    | some resp => exact .accepted hs (by omega)
    | none =>
      rw [retryLoop_next hs (by omega)]
      exact (ih (attempt + 1) _ (by omega)).cons hs

/-! ### `WithRetry` and the bound `attempts := maxRetries + 1` -/

@[simp] theorem withRetry_maxRetries (c : HTTPClient) (m d : BitVec 64) :
    (c.withRetry m d).maxRetries = if m.slt 0 then 0 else m := rfl

theorem attemptCount_eq {c : HTTPClient} (h0 : 0 ≤ c.maxRetries.toInt)
    (h1 : c.maxRetries.toInt < 2 ^ 63 - 1) : c.attemptCount = c.maxRetries.toNat + 1 := by
  have hlt := c.maxRetries.isLt
  simp only [HTTPClient.attemptCount, BitVec.toInt_eq_toNat_cond, BitVec.toNat_add,
    show (1 : BitVec 64).toNat = 1 from rfl] at h0 h1 ⊢
  split_ifs at h0 h1 ⊢ <;> omega

theorem attemptCount_intMax {c : HTTPClient} (h : c.maxRetries = BitVec.intMax 64) :
    c.attemptCount = 0 := by
  simp only [HTTPClient.attemptCount, h, BitVec.toInt_eq_toNat_cond, BitVec.toNat_add,
    BitVec.toNat_intMax, show (1 : BitVec 64).toNat = 1 from rfl]
  decide

theorem withRetry_maxRetries_range (c : HTTPClient) {m : BitVec 64} (d : BitVec 64)
    (hm : m.toInt < 2 ^ 63 - 1) :
    0 ≤ (c.withRetry m d).maxRetries.toInt ∧
      (c.withRetry m d).maxRetries.toInt < 2 ^ 63 - 1 := by
  rw [withRetry_maxRetries]
  split_ifs with h
  · simp
  · simp only [BitVec.slt, show (0 : BitVec 64).toInt = 0 from rfl, decide_eq_true_eq,
      Int.not_lt] at h
    exact ⟨h, hm⟩

theorem withRetry_intMax (c : HTTPClient) (d : BitVec 64) :
    (c.withRetry (BitVec.intMax 64) d).maxRetries = BitVec.intMax 64 := by
  rw [withRetry_maxRetries, if_neg]
  simp only [BitVec.slt, show (0 : BitVec 64).toInt = 0 from rfl, BitVec.toInt_eq_toNat_cond,
    BitVec.toNat_intMax]
  decide

theorem withRetry_intMax_returns_nil (c : HTTPClient) (d : BitVec 64)
    (outcome : Nat → Except String Response) :
    (c.withRetry (BitVec.intMax 64) d).doWithRetry outcome = ⟨none, none, 0⟩ := by
  rw [HTTPClient.doWithRetry, attemptCount_intMax (withRetry_intMax c d)]
  rfl

theorem doWithRetry_contract (c : HTTPClient) {m : BitVec 64} (d : BitVec 64)
    (hm : m.toInt < 2 ^ 63 - 1) (outcome : Nat → Except String Response) :
    RetrySpec outcome 0 ((c.withRetry m d).maxRetries.toNat + 1)
        ((c.withRetry m d).doWithRetry outcome) ∧
      (((c.withRetry m d).doWithRetry outcome).resp.isSome ∨
        ((c.withRetry m d).doWithRetry outcome).err.isSome) := by
  obtain ⟨h0, h1⟩ := withRetry_maxRetries_range c d hm
  have hs : RetrySpec outcome 0 ((c.withRetry m d).maxRetries.toNat + 1)
      ((c.withRetry m d).doWithRetry outcome) := by
    rw [HTTPClient.doWithRetry, attemptCount_eq h0 h1]
    exact retryLoop_spec outcome _ 0 none (by omega)
  exact ⟨hs, hs.not_nil⟩

theorem doWithRetry_contract_oneRetry :
    (1 : BitVec 64).toInt < 2 ^ 63 - 1 ∧
      RetrySpec (fun i => if i = 0 then .ok ⟨503⟩ else .ok ⟨200⟩) 0
          ((newHTTPClient.withRetry 1 0).maxRetries.toNat + 1)
          ((newHTTPClient.withRetry 1 0).doWithRetry
            fun i => if i = 0 then .ok ⟨503⟩ else .ok ⟨200⟩) ∧
        (((newHTTPClient.withRetry 1 0).doWithRetry
            fun i => if i = 0 then .ok ⟨503⟩ else .ok ⟨200⟩).resp.isSome ∨
          ((newHTTPClient.withRetry 1 0).doWithRetry
            fun i => if i = 0 then .ok ⟨503⟩ else .ok ⟨200⟩).err.isSome) :=
  ⟨by decide, doWithRetry_contract newHTTPClient 0 (by decide) _⟩

end TwoPc.Transport
