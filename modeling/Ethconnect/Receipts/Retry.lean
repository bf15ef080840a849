import Mathlib.Data.Nat.Find
import Mathlib.Data.Nat.Log
import Mathlib.Logic.Function.Iterate
import Mathlib.Tactic.Ring
import Ethconnect.Receipts.Store

/-!
# The receipt write loop

`writeReceipt` calls `AddReceipt` until it succeeds. Without `overwriteAndRetry` it returns the
first error. With it, it sleeps before each further attempt, multiplying the delay by
`backoffFactor` in `float64` each time, and panics at the first failure seen more than
`RetryTimeoutMS` after it started. After a success it hands the receipt to `SendReply` when the
store has a smart-contract gateway.

Durations are `int64` nanoseconds. `nextDelay` computes `time.Duration(float64(d) *
backoffFactor)` as the hardware does: the `float64` nearest each operand and the product,
ties to even, then truncation. The environment fixes what each `AddReceipt` call returns and
how much time passes in each pass besides the sleep, so the clock never goes backwards and
`Sleep(d)` advances it by at least `d`. The loop runs on `fuel`; `writeReceipt_contract` shows
what fuel is enough.
-/

namespace Ethconnect.Receipts

/-! ## Durations -/

/-- `x` as an `int64`: Go's wrapping arithmetic. -/
def wrapInt64 (x : Int) : Int := (x + 2 ^ 63) % 2 ^ 64 - 2 ^ 63

theorem wrapInt64_of_range {x : Int} (h1 : -2 ^ 63 ≤ x) (h2 : x < 2 ^ 63) : wrapInt64 x = x := by
  unfold wrapInt64; omega

/-- `n` rounded to 53 significant bits, to nearest with ties to even: the `float64` nearest a
natural number below `2 ^ 1024`. -/
def roundSig (n : Nat) : Nat :=
  let k := Nat.log2 n - 52
  if k = 0 then n
  else
    let q := n / 2 ^ k
    let r := n % 2 ^ k
    if 2 ^ (k - 1) < r ∨ (r = 2 ^ (k - 1) ∧ q % 2 = 1) then (q + 1) * 2 ^ k else q * 2 ^ k

/-- The significand of `backoffFactor`, the `float64` nearest 1.1, over `2 ^ 52`. -/
def backoffFactorBits : Nat := 4953959590107546

/-- The magnitude of `float64(d) * backoffFactor`, truncated toward zero. -/
def backoffMagnitude (n : Nat) : Nat := roundSig (roundSig n * backoffFactorBits) / 2 ^ 52

/-- `time.Duration(float64(delay) * backoffFactor)`. A value outside the `int64` range converts,
on amd64, to `-2 ^ 63`. -/
def nextDelay (delay : Int) : Int :=
  let m : Int := backoffMagnitude delay.natAbs
  let v := if delay < 0 then -m else m
  if -2 ^ 63 ≤ v ∧ v < 2 ^ 63 then v else -2 ^ 63

/-- Rounding to 53 significant bits moves a number by at most a `2 ^ 52`-th of it. -/
theorem roundSig_bounds (n : Nat) :
    n - n / 2 ^ 52 ≤ roundSig n ∧ roundSig n ≤ n + n / 2 ^ 52 := by
  unfold roundSig
  dsimp only
  by_cases hk : n.log2 - 52 = 0
  · rw [if_pos hk]; omega
  have hn : n ≠ 0 := by rintro rfl; simp at hk
  have hK : 2 ^ (n.log2 - 52) * 2 ^ 52 ≤ n := by
    rw [← Nat.pow_add, Nat.sub_add_cancel (by omega)]; exact Nat.log2_self_le hn
  have hK' : 2 ^ (n.log2 - 52) ≤ n / 2 ^ 52 :=
    (Nat.le_div_iff_mul_le (Nat.two_pow_pos 52)).mpr hK
  have hdm := Nat.div_add_mod n (2 ^ (n.log2 - 52))
  have hr := Nat.mod_lt n (Nat.two_pow_pos (n.log2 - 52))
  rw [if_neg hk]
  generalize 2 ^ (n.log2 - 52) = K at *
  rw [show (n / K + 1) * K = K * (n / K) + K by ring, show n / K * K = K * (n / K) by ring]
  generalize K * (n / K) = Q at *
  split_ifs <;> omega

theorem nextDelay_zero : nextDelay 0 = 0 := by
  simp [nextDelay, backoffMagnitude, roundSig]

/-- The backoff never shortens a delay of up to `8 * 10 ^ 18` ns: both roundings together lose
less than the tenth that `backoffFactor` adds, and the product stays below `2 ^ 63`. -/
theorem nextDelay_ge {d : Int} (h1 : 1 ≤ d) (h2 : d ≤ 8 * 10 ^ 18) : d ≤ nextDelay d := by
  obtain ⟨n, rfl⟩ : ∃ n : Nat, d = n := ⟨d.toNat, (Int.toNat_of_nonneg (by omega)).symm⟩
  have hf := roundSig_bounds n
  have hp := roundSig_bounds (roundSig n * backoffFactorBits)
  have hm : n ≤ backoffMagnitude n ∧ backoffMagnitude n < 2 ^ 63 := by
    unfold backoffMagnitude backoffFactorBits at *
    generalize roundSig n = f at *
    generalize roundSig (f * 4953959590107546) = p at *
    omega
  simp only [nextDelay, Int.natAbs_ofNat, Int.not_lt.mpr (Int.ofNat_nonneg n), if_false]
  rw [if_pos ⟨by omega, by omega⟩]
  omega

/-! ## The loop -/

/-- What the environment decides in a run of `writeReceipt`. -/
structure RetryEnv where
  /-- The error the `j`-th `AddReceipt` call returns, counting from 0. -/
  addReceipt : Nat → Option String
  /-- The nanoseconds that pass in pass `j` besides the sleep: its overshoot, the
  `AddReceipt` call, the logging. -/
  extra : Nat → Nat

/-- The calls `writeReceipt` makes on the persistence and the gateway. -/
inductive ReceiptCall where
  | addReceipt (requestID : String) (receipt : JObj) (overwrite : Bool)
  | sendReply (receipt : JObj)

structure WriteRun where
  calls : List ReceiptCall
  result : GoResult Unit

/-- The message of `log.Panicf` when the retries run out. -/
def retryPanic : String := "Failed to insert into receipt store"

/-- The `for` loop from pass `attempt`, with the `delay` variable and the time since
`startTime` when the pass begins: the number of `AddReceipt` calls made in all, and how the
loop ends (`ok` at the `break`). `none` when `fuel` passes do not reach the end. -/
def retryLoop (env : RetryEnv) (overwriteAndRetry : Bool) (retryTimeout : Int) :
    (fuel attempt : Nat) → (delay elapsed : Int) → Option (Nat × GoResult Unit)
  | 0, _, _, _ => none
  | fuel + 1, attempt, delay, elapsed =>
    let slept := if 0 < attempt then max delay 0 else 0
    let delay := if 0 < attempt then nextDelay delay else delay
    let timeRetrying := elapsed + slept + env.extra attempt
    match env.addReceipt attempt with
    | none => some (attempt + 1, .ok ())
    | some err =>
      if !overwriteAndRetry then some (attempt + 1, .error err)
      else if retryTimeout < timeRetrying then some (attempt + 1, .panic retryPanic)
      else retryLoop env overwriteAndRetry retryTimeout fuel (attempt + 1) delay timeRetrying

/-- `writeReceipt(requestID, receipt, overwriteAndRetry)` on a store with configuration `conf`;
`gateway` is `r.smartContractGW != nil`. -/
def writeReceipt (conf : ReceiptStoreConf) (gateway : Bool) (env : RetryEnv) (fuel : Nat)
    (requestID : String) (receipt : JObj) (overwriteAndRetry : Bool) : Option WriteRun :=
  (retryLoop env overwriteAndRetry (wrapInt64 (conf.retryTimeoutMS * 1000000)) fuel 0
      (wrapInt64 (conf.retryInitialDelayMS * 1000000)) 0).map fun (attempts, result) =>
    { calls := List.replicate attempts (.addReceipt requestID receipt overwriteAndRetry) ++
        if gateway ∧ result = .ok () then [.sendReply receipt] else []
      result }

section Passes

variable (env : RetryEnv) (overwriteAndRetry : Bool) (retryTimeout delay0 : Int)

/-- The time `Sleep` takes in pass `j`: none in the first, then the delays in turn. -/
def sleptAt : Nat → Int
  | 0 => 0
  | j + 1 => max (nextDelay^[j] delay0) 0

/-- The time since `startTime` when pass `j` begins; pass `j` checks `clockAt (j + 1)`. -/
def clockAt : Nat → Int
  | 0 => 0
  | j + 1 => clockAt j + sleptAt delay0 j + env.extra j

/-- Pass `j` ends the loop. -/
def Stops (j : Nat) : Prop :=
  env.addReceipt j = none ∨ overwriteAndRetry = false ∨ retryTimeout < clockAt env delay0 (j + 1)

instance : DecidablePred (Stops env overwriteAndRetry retryTimeout delay0) :=
  fun _ => inferInstanceAs (Decidable (_ ∨ _ ∨ _))

/-- How the loop ends at a pass that stops it. -/
def stopResult (j : Nat) : GoResult Unit :=
  match env.addReceipt j with
  | none => .ok ()
  | some err => if overwriteAndRetry then .panic retryPanic else .error err

theorem clockAt_nonneg : ∀ j, 0 ≤ clockAt env delay0 j
  | 0 => le_rfl
  | j + 1 => by
    have := clockAt_nonneg j
    have : 0 ≤ sleptAt delay0 j := by cases j <;> simp [sleptAt]
    simp only [clockAt]; omega

/-- One pass of the loop, in terms of the clock and the delays. -/
theorem retryLoop_pass (fuel j : Nat) :
    retryLoop env overwriteAndRetry retryTimeout (fuel + 1) j (nextDelay^[j - 1] delay0)
        (clockAt env delay0 j) =
      match env.addReceipt j with
      | none => some (j + 1, .ok ())
      | some err =>
        if !overwriteAndRetry then some (j + 1, .error err)
        else if retryTimeout < clockAt env delay0 (j + 1) then some (j + 1, .panic retryPanic)
        else retryLoop env overwriteAndRetry retryTimeout fuel (j + 1) (nextDelay^[j] delay0)
          (clockAt env delay0 (j + 1)) := by
  cases j with
  | zero =>
    simp only [retryLoop, clockAt, sleptAt, lt_irrefl, if_false, Nat.zero_sub,
      Function.iterate_zero, id, add_zero, zero_add]
  | succ j =>
    simp only [retryLoop, clockAt, sleptAt, Nat.succ_pos, if_true, Nat.add_sub_cancel,
      Function.iterate_succ_apply']

/-- Enough fuel takes the loop from pass `j` to the first pass `k` that stops it. -/
theorem retryLoop_first_stop {k : Nat} (hstop : Stops env overwriteAndRetry retryTimeout delay0 k) :
    ∀ fuel j, j ≤ k → k - j < fuel →
      (∀ i, j ≤ i → i < k → ¬Stops env overwriteAndRetry retryTimeout delay0 i) →
      retryLoop env overwriteAndRetry retryTimeout fuel j (nextDelay^[j - 1] delay0)
        (clockAt env delay0 j) = some (k + 1, stopResult env overwriteAndRetry k)
  | 0, _, _, hfuel, _ => absurd hfuel (Nat.not_lt_zero _)
  | fuel + 1, j, hjk, hfuel, hgo => by
    rw [retryLoop_pass]
    rcases Nat.eq_or_lt_of_le hjk with rfl | hlt
    · unfold Stops at hstop
      unfold stopResult
      cases ha : env.addReceipt j with
      | none => rfl
      | some err =>
        cases overwriteAndRetry
        · rfl
        · simp only [ha, reduceCtorEq, false_or] at hstop
          simp [hstop]
    · have hj := hgo j le_rfl hlt
      simp only [Stops, not_or] at hj
      obtain ⟨ha, hw, ht⟩ := hj
      obtain ⟨err, ha⟩ := Option.ne_none_iff_exists'.mp ha
      have hw : (!overwriteAndRetry) = false := by simpa using hw
      simp only [ha, hw, Bool.false_eq_true, if_false, if_neg ht]
      exact retryLoop_first_stop hstop fuel (j + 1) hlt (by omega)
        fun i hi hik => hgo i (by omega) hik

/-- While no pass has stopped the loop, every delay is at least the first, and the clock has
advanced by at least the first delay per pass after the first. -/
theorem delays_grow (hD : 1 ≤ delay0) (hT : retryTimeout ≤ 8 * 10 ^ 18) :
    ∀ i, (∀ i' ≤ i, ¬Stops env true retryTimeout delay0 i') →
      delay0 ≤ nextDelay^[i] delay0 ∧ (i : Int) * delay0 ≤ clockAt env delay0 (i + 1)
  | 0, _ => ⟨le_rfl, by simp only [clockAt, sleptAt]; omega⟩
  | i + 1, hno => by
    obtain ⟨hd, hc⟩ := delays_grow hD hT i fun i' hi' => hno i' (by omega)
    have hle : clockAt env delay0 (i + 1 + 1) ≤ retryTimeout := by
      have := hno (i + 1) le_rfl
      simp only [Stops, not_or, not_lt] at this
      exact this.2.2
    have hstep : clockAt env delay0 (i + 1 + 1) =
        clockAt env delay0 (i + 1) + max (nextDelay^[i] delay0) 0 + env.extra (i + 1) := rfl
    have hc0 := clockAt_nonneg env delay0 (i + 1)
    refine ⟨?_, ?_⟩
    · rw [Function.iterate_succ_apply']
      exact hd.trans (nextDelay_ge (by omega) (by omega))
    · rw [Nat.cast_succ, add_mul, one_mul]
      omega

/-- With retries, some pass within `retryTimeout / delay0 + 1` ends the loop. -/
theorem exists_first_stop (hD : 1 ≤ delay0) (hT0 : 0 ≤ retryTimeout)
    (hT : retryTimeout ≤ 8 * 10 ^ 18) :
    ∃ k, k ≤ (retryTimeout / delay0).toNat + 1 ∧ Stops env true retryTimeout delay0 k ∧
      ∀ i < k, ¬Stops env true retryTimeout delay0 i := by
  set m := (retryTimeout / delay0).toNat with hm
  have hK : ∃ j, j ≤ m + 1 ∧ Stops env true retryTimeout delay0 j := by
    by_contra hnone
    push_neg at hnone
    obtain ⟨hd, hc⟩ := delays_grow env retryTimeout delay0 hD hT m
      fun i' hi' => hnone i' (by omega)
    have hmcast : (m : Int) = retryTimeout / delay0 :=
      Int.toNat_of_nonneg (Int.ediv_nonneg hT0 (by omega))
    have hlt := Int.lt_ediv_add_one_mul_self retryTimeout (show 0 < delay0 by omega)
    have hstep : clockAt env delay0 (m + 1 + 1) =
        clockAt env delay0 (m + 1) + max (nextDelay^[m] delay0) 0 + env.extra (m + 1) := rfl
    apply hnone (m + 1) le_rfl
    refine .inr (.inr ?_)
    rw [← hmcast, add_mul, one_mul] at hlt
    omega
  obtain ⟨j, hjK, hj⟩ := hK
  exact ⟨Nat.find ⟨j, hj⟩, (Nat.find_min' _ hj).trans hjK, Nat.find_spec ⟨j, hj⟩,
    fun i hi => Nat.find_min _ hi⟩

end Passes

/-- The retry loop's contract, for delays and timeouts up to `8 * 10 ^ 12` ms: below about
`8.385 * 10 ^ 12` ms, where the first `float64(delay) * backoffFactor` leaves the `int64` range,
and below `9223372036854` ms, where `time.Duration(ms) * time.Millisecond` wraps. Without `overwriteAndRetry`, `writeReceipt`
calls `AddReceipt` once and returns its error. With it, `writeReceipt` never returns an error:
it ends at the first pass whose `AddReceipt` succeeded, returning nil, or whose failure was seen
more than `RetryTimeoutMS` after the start, panicking, after at most
`RetryTimeoutMS / RetryInitialDelayMS + 2` attempts. In both modes `SendReply` gets the receipt,
once, exactly when an `AddReceipt` call succeeded and the store has a gateway. -/
theorem writeReceipt_contract (conf : ReceiptStoreConf)
    (hdelay : conf.retryInitialDelayMS ≤ 8 * 10 ^ 12) (htimeout : conf.retryTimeoutMS ≤ 8 * 10 ^ 12)
    (gateway : Bool) (env : RetryEnv) (requestID : String) (receipt : JObj) :
    let c := newReceiptStore conf
    let bound := (c.retryTimeoutMS / c.retryInitialDelayMS).toNat + 2
    (∀ fuel, 0 < fuel → writeReceipt c gateway env fuel requestID receipt false =
      some ⟨.addReceipt requestID receipt false ::
          (if gateway ∧ env.addReceipt 0 = none then [.sendReply receipt] else []),
        match env.addReceipt 0 with
        | none => .ok ()
        | some err => .error err⟩) ∧
    (∀ fuel, bound ≤ fuel → ∃ k, k + 1 ≤ bound ∧
      (∀ i < k, env.addReceipt i ≠ none ∧
        clockAt env (c.retryInitialDelayMS * 1000000) (i + 1) ≤ c.retryTimeoutMS * 1000000) ∧
      (env.addReceipt k = none ∨
        c.retryTimeoutMS * 1000000 < clockAt env (c.retryInitialDelayMS * 1000000) (k + 1)) ∧
      writeReceipt c gateway env fuel requestID receipt true =
        some ⟨List.replicate (k + 1) (.addReceipt requestID receipt true) ++
            (if gateway ∧ env.addReceipt k = none then [.sendReply receipt] else []),
          if env.addReceipt k = none then .ok () else .panic retryPanic⟩) := by
  intro c bound
  obtain ⟨hT1, hD1, -⟩ : 0 < c.retryTimeoutMS ∧ 0 < c.retryInitialDelayMS ∧ _ :=
    newReceiptStore_pos conf
  obtain ⟨hD2, hT2⟩ : c.retryInitialDelayMS ≤ 8 * 10 ^ 12 ∧ c.retryTimeoutMS ≤ 8 * 10 ^ 12 := by
    simp only [c, newReceiptStore, defaultRetryInitialDelay, defaultRetryTimeout]
    constructor <;> split_ifs <;> omega
  have hwD : wrapInt64 (c.retryInitialDelayMS * 1000000) = c.retryInitialDelayMS * 1000000 :=
    wrapInt64_of_range (by omega) (by omega)
  have hwT : wrapInt64 (c.retryTimeoutMS * 1000000) = c.retryTimeoutMS * 1000000 :=
    wrapInt64_of_range (by omega) (by omega)
  set D := c.retryInitialDelayMS * 1000000
  set T := c.retryTimeoutMS * 1000000
  have hok : ∀ (ow : Bool) (k : Nat), (stopResult env ow k = .ok ()) ↔ env.addReceipt k = none := by
    intro ow k
    unfold stopResult
    cases env.addReceipt k <;> cases ow <;> simp
  have hrun : ∀ (ow : Bool) (fuel k : Nat), Stops env ow T D k →
      (∀ i < k, ¬Stops env ow T D i) → k < fuel →
      writeReceipt c gateway env fuel requestID receipt ow =
        some ⟨List.replicate (k + 1) (.addReceipt requestID receipt ow) ++
            (if gateway ∧ env.addReceipt k = none then [.sendReply receipt] else []),
          stopResult env ow k⟩ := by
    intro ow fuel k hk hfirst hfuel
    have := retryLoop_first_stop env ow T D hk fuel 0 (Nat.zero_le k) (by omega)
      fun i _ hi => hfirst i hi
    simp only [writeReceipt, hwD, hwT, Nat.zero_sub, Function.iterate_zero, id_eq] at this ⊢
    simp only [clockAt] at this
    rw [this]
    simp [hok]
  refine ⟨fun fuel hfuel => ?_, fun fuel hfuel => ?_⟩
  · rw [hrun false fuel 0 (.inr (.inl rfl)) (fun i hi => absurd hi (Nat.not_lt_zero i)) hfuel]
    simp only [List.replicate, List.singleton_append, stopResult]
    cases env.addReceipt 0 <;> rfl
  · obtain ⟨k, hkK, hk, hfirst⟩ := exists_first_stop env T D (by omega) (by omega) (by omega)
    have hdiv : T / D = c.retryTimeoutMS / c.retryInitialDelayMS :=
      Int.mul_ediv_mul_of_pos_left _ _ (by omega)
    rw [hdiv] at hkK
    refine ⟨k, by omega, fun i hi => ?_, ?_, ?_⟩
    · have := hfirst i hi
      simp only [Stops, not_or, not_lt] at this
      exact ⟨this.1, this.2.2⟩
    · rcases hk with h | h | h
      · exact .inl h
      · cases h
      · exact .inr h
    · rw [hrun true fuel k hk hfirst (by omega)]
      simp only [stopResult]
      cases env.addReceipt k <;> rfl

/-- A configuration that takes every default, and a persistence that fails twice and then
succeeds, with no time passing but the sleeps. -/
def defaultsConf : ReceiptStoreConf := ⟨0, 100, 0, 0⟩

def flakyEnv : RetryEnv := ⟨fun j => if j < 2 then some "timeout" else none, fun _ => 0⟩

/-- Retrying after two failures: three `AddReceipt` calls, then the reply, and nil. -/
theorem writeReceipt_contract_sample :
    writeReceipt (newReceiptStore defaultsConf) true flakyEnv 242 "req-1" [] true =
      some ⟨List.replicate 3 (.addReceipt "req-1" [] true) ++ [.sendReply []], .ok ()⟩ := by
  obtain ⟨k, -, hbefore, hend, hrun⟩ := (writeReceipt_contract defaultsConf (by decide) (by decide)
    true flakyEnv "req-1" []).2 242 (by decide)
  have h0 : k ≠ 0 := by rintro rfl; revert hend; decide
  have h1 : k ≠ 1 := by rintro rfl; revert hend; decide
  have h3 : ¬3 ≤ k := fun h => (hbefore 2 (by omega)).1 rfl
  obtain rfl : k = 2 := by omega
  exact hrun

/-- `newReceiptStore` keeps this configuration, whose delay of `2 ^ 58` ms wraps to a zero
`Duration`. -/
def wrappingConf : ReceiptStoreConf := ⟨250, 100, 1, 2 ^ 58⟩

/-- A persistence that always fails, or always succeeds, and a clock that only `Sleep` moves. -/
def failingEnv : RetryEnv := ⟨fun _ => some "timeout", fun _ => 0⟩

def succeedingEnv : RetryEnv := ⟨fun _ => none, fun _ => 0⟩

/-- With a zero delay and a clock that does not move, no pass sees the timeout. -/
theorem retryLoop_zero_delay (fuel : Nat) :
    ∀ j, retryLoop failingEnv true 1000000 fuel j 0 0 = none := by
  induction fuel with
  | zero => intro j; rfl
  | succ fuel ih =>
    intro j
    simp only [retryLoop, failingEnv, nextDelay_zero, ite_self, max_self, Int.add_zero,
      Nat.cast_zero, Bool.not_true, Bool.false_eq_true, if_false]
    exact ih (j + 1)

/-- Without a gateway, a successful write sends no reply; and with a `RetryInitialDelayMS` of
`2 ^ 58`, a failing persistence is retried for ever, however much fuel. -/
theorem writeReceipt_silent_or_endless :
    writeReceipt (newReceiptStore wrappingConf) false succeedingEnv 1 "req-1" [] false =
      some ⟨[.addReceipt "req-1" [] false], .ok ()⟩ ∧
    ∀ fuel, writeReceipt (newReceiptStore wrappingConf) true failingEnv fuel "req-1" [] true =
      none := by
  refine ⟨rfl, fun fuel => ?_⟩
  have hD : wrapInt64 ((newReceiptStore wrappingConf).retryInitialDelayMS * 1000000) = 0 := by
    decide
  have hT : wrapInt64 ((newReceiptStore wrappingConf).retryTimeoutMS * 1000000) = 1000000 := by
    decide
  simp only [writeReceipt, hD, hT, retryLoop_zero_delay, Option.map_none']

end Ethconnect.Receipts
