import Mathlib.Order.Bounds.Basic
import TaskSync.Proofs.Retry.Waits
import TaskSync.Retry.Basic

/-!
# Series of tries

A series ends with the first call behind which no other may come: the call succeeds, no retry is
left, or the caller gives up in the wait. What it ends in is settled by that call alone, where
success goes before the count of retries, and the count before giving up. The count is exact as
long as there are less calls than words.
-/

namespace TaskSync.Retry

variable {α ε : Type} {config : RetryConfig} {trial : Nat → Trial α ε} {source : Random.Source}

/-- Another call comes behind this one: it failed, a retry is left, and the caller did not give up
in the wait. -/
structure GoesOn (config : RetryConfig) (trial : Nat → Trial α ε) (n : Nat) : Prop where
  failed : ∃ e, (trial n).result = .error e
  left : n ≤ config.maxRetries.toNat
  kept : (trial n).givenUp = false

/-- The first calls are not the last one. -/
def GoneOn (config : RetryConfig) (trial : Nat → Trial α ε) (k : Nat) : Prop :=
  ∀ n, 1 ≤ n → n ≤ k → GoesOn config trial n

/-- How a series goes after `k` retries that did not succeed: the three ways in which it ends with
the next call. -/
inductive Goes (config : RetryConfig) (trial : Nat → Trial α ε) (source : Random.Source) :
    Series α ε → Prop where
  | success {k : Nat} {v : α} (before : GoneOn config trial k)
      (result : (trial (k + 1)).result = .ok v) :
      Goes config trial source
        ⟨.success v, k + 1, Backoff.waits config.baseDelay source k, source.skip k⟩
  | exhausted {k : Nat} {e : ε} (before : GoneOn config trial k)
      (result : (trial (k + 1)).result = .error e) (used : k = config.maxRetries.toNat) :
      Goes config trial source
        ⟨.exhausted (UInt32.ofNat (k + 1)) e, k + 1, Backoff.waits config.baseDelay source k,
          source.skip k⟩
  | canceled {k : Nat} {e : ε} (before : GoneOn config trial k)
      (result : (trial (k + 1)).result = .error e) (left : k < config.maxRetries.toNat)
      (givenUp : (trial (k + 1)).givenUp = true) :
      Goes config trial source
        ⟨.canceled, k + 1, Backoff.waits config.baseDelay source (k + 1), source.skip (k + 1)⟩

theorem GoneOn.zero : GoneOn config trial 0 := by
  intro n first last
  omega

theorem GoneOn.succ {k : Nat} (before : GoneOn config trial k)
    (next : GoesOn config trial (k + 1)) : GoneOn config trial (k + 1) := by
  intro n first last
  rcases Nat.lt_or_eq_of_le last with earlier | rfl
  · exact before n first (by omega)
  · exact next

theorem GoneOn.le_maxRetries {k : Nat} (before : GoneOn config trial k) :
    k ≤ config.maxRetries.toNat := by
  cases k with
  | zero => exact Nat.zero_le _
  | succ k => exact (before (k + 1) (by omega) (Nat.le_refl _)).left

/-- What follows a failure, by the number of retries that were made. -/
theorem decide_ofNat {maxRetries : UInt32} {k : Nat} (few : k ≤ maxRetries.toNat) :
    decide maxRetries (UInt32.ofNat k) =
      if k = maxRetries.toNat then .giveUp (UInt32.ofNat (k + 1))
      else .again (UInt32.ofNat (k + 1)) := by
  have small : k < 2 ^ 32 := Nat.lt_of_le_of_lt few maxRetries.toNat_lt
  have next : UInt32.ofNat k + 1 = UInt32.ofNat (k + 1) := (UInt32.ofNat_add k 1).symm
  have used : maxRetries ≤ UInt32.ofNat k ↔ k = maxRetries.toNat := by
    rw [UInt32.le_iff_toNat_le, UInt32.toNat_ofNat_of_lt' small]
    omega
  simp only [decide, used, next]

theorem runFrom_succeeded {retries : UInt32} {calls : Nat} {waits : List (UInt32 × Duration)}
    {v : α} (result : (trial (calls + 1)).result = .ok v) :
    runFrom config trial retries calls waits source =
      ⟨.success v, calls + 1, waits, source⟩ := by
  rw [runFrom, result]

theorem runFrom_failed {retries : UInt32} {calls : Nat} {waits : List (UInt32 × Duration)}
    {e : ε} (result : (trial (calls + 1)).result = .error e) :
    runFrom config trial retries calls waits source =
      match decide config.maxRetries retries with
      | .giveUp attempts => ⟨.exhausted attempts e, calls + 1, waits, source⟩
      | .again retry =>
        let (w, source) := Backoff.wait config.baseDelay retry source
        if (trial (calls + 1)).givenUp then ⟨.canceled, calls + 1, (retry, w) :: waits, source⟩
        else runFrom config trial retry (calls + 1) ((retry, w) :: waits) source := by
  rw [runFrom, result, decide]
  by_cases used : config.maxRetries ≤ retries
  · simp only [dif_pos used, if_pos used]
  · simp only [dif_neg used, if_neg used]

/-- A call either is the last one, or leaves the series behind the wait that follows it. -/
theorem runFrom_step {k : Nat} (before : GoneOn config trial k) :
    Goes config trial source
        (runFrom config trial (UInt32.ofNat k) k (Backoff.waits config.baseDelay source k)
          (source.skip k)) ∨
      GoesOn config trial (k + 1) ∧
        runFrom config trial (UInt32.ofNat k) k (Backoff.waits config.baseDelay source k)
            (source.skip k) =
          runFrom config trial (UInt32.ofNat (k + 1)) (k + 1)
            (Backoff.waits config.baseDelay source (k + 1)) (source.skip (k + 1)) := by
  have few : k ≤ config.maxRetries.toNat := before.le_maxRetries
  cases result : (trial (k + 1)).result with
  | ok v =>
    rw [runFrom_succeeded result]
    exact .inl (.success before result)
  | error e =>
    rw [runFrom_failed result, decide_ofNat few]
    by_cases used : k = config.maxRetries.toNat
    · rw [if_pos used]
      exact .inl (.exhausted before result used)
    · have left : k < config.maxRetries.toNat := by omega
      have waited := Backoff.waits_succ config.baseDelay source k
      simp only [Backoff.waitBefore, Nat.add_sub_cancel, Backoff.wait,
        Random.Source.next_skip] at waited
      simp only [if_neg used, Backoff.wait, Random.Source.next_skip, ← waited]
      cases givenUp : (trial (k + 1)).givenUp with
      | true => exact .inl (.canceled before result left givenUp)
      | false => exact .inr ⟨⟨⟨e, result⟩, left, givenUp⟩, rfl⟩

/-- What is left of a series goes one of the three ways, however many retries were made. -/
theorem runFrom_goes {k : Nat} (before : GoneOn config trial k) :
    Goes config trial source
      (runFrom config trial (UInt32.ofNat k) k (Backoff.waits config.baseDelay source k)
        (source.skip k)) := by
  -- every retry is one less that is left
  induction left : config.maxRetries.toNat - k generalizing k with
  | zero =>
    rcases runFrom_step before with ends | ⟨goes, -⟩
    · exact ends
    · have := goes.left
      omega
  | succ left ih =>
    rcases runFrom_step before with ends | ⟨goes, same⟩
    · exact ends
    · rw [same]
      exact ih (before.succ goes) (by omega)

/-- A series goes one of the three ways. -/
theorem run_goes (config : RetryConfig) (trial : Nat → Trial α ε) (source : Random.Source) :
    Goes config trial source (run config trial source) :=
  runFrom_goes .zero

/-! ### Outcomes and cancellation -/

/-- When the caller gives up: never, before the first call, during a call, or during the wait that
follows a call. -/
inductive Cancellation where
  | never
  | fromStart
  | duringCall (n : Nat)
  | duringWait (n : Nat)

/-- By the end of the wait behind a call the caller has given up. -/
def Cancellation.heard : Cancellation → Nat → Bool
  | never, _ => false
  | fromStart, _ => true
  | duringCall k, n => k ≤ n
  | duringWait k, n => k ≤ n

/-- The calls have these outcomes, the first one that of number one. -/
def trials (outcomes : Nat → Except ε α) (c : Cancellation) (n : Nat) : Trial α ε :=
  ⟨outcomes n, c.heard n⟩

/-- Why no call comes behind this one: it succeeded, the retries are used up, or the wait behind it
finds that the caller has given up. -/
def Last (maxRetries : Nat) (outcomes : Nat → Except ε α) (c : Cancellation) (n : Nat) : Prop :=
  (∃ v, outcomes n = .ok v) ∨ maxRetries < n ∨ c.heard n = true

/-- What a series comes to, by the outcomes of its calls and by when the caller gives up. -/
structure Settled (config : RetryConfig) (outcomes : Nat → Except ε α) (c : Cancellation)
    (source : Random.Source) (s : Series α ε) : Prop where
  /-- The calls end with the first one behind which none may come. -/
  calls : IsLeast {n | 1 ≤ n ∧ Last config.maxRetries.toNat outcomes c n} s.calls
  few : s.calls ≤ config.maxRetries.toNat + 1
  success : ∀ v, s.outcome = .success v ↔
    ∃ n, 1 ≤ n ∧ n ≤ s.calls ∧ outcomes n = .ok v ∧
      ∀ k, 1 ≤ k → k < n → ∃ e, outcomes k = .error e
  exhausted : (∃ attempts e, s.outcome = .exhausted attempts e) ↔
    s.calls = config.maxRetries.toNat + 1 ∧
      ∀ n, 1 ≤ n → n ≤ config.maxRetries.toNat + 1 → ∃ e, outcomes n = .error e
  attempts : ∀ attempts e, s.outcome = .exhausted attempts e →
    attempts.toNat = config.maxRetries.toNat + 1 ∧
      outcomes (config.maxRetries.toNat + 1) = .error e
  /-- A wait is reached behind a call that failed with a retry left. -/
  reached : ∀ n, (∃ w ∈ s.waits, w.1.toNat = n) ↔
    1 ≤ n ∧ n ≤ s.calls ∧ n ≤ config.maxRetries.toNat ∧ ∃ e, outcomes n = .error e
  canceled : s.outcome = .canceled ↔ ∃ w ∈ s.waits, c.heard w.1.toNat = true
  numbered : s.waits.reverse.map (·.1.toNat) = List.range' 1 s.waits.length
  ranges : ∀ w ∈ s.waits,
    Backoff.IsWait config.baseDelay w.1.toNat (source.word (w.1.toNat - 1)) w.2
  lasting : ∀ w ∈ s.waits, .zero < w.2

section Outcomes

variable {outcomes : Nat → Except ε α} {c : Cancellation} {k : Nat}

theorem not_failed {n : Nat} {v : α} (succeeded : outcomes n = .ok v) :
    ¬ ∃ e, outcomes n = .error e := by
  rintro ⟨e, error⟩
  rw [succeeded] at error
  cases error

theorem GoesOn.not_last {n : Nat} (h : GoesOn config (trials outcomes c) n) :
    ¬ Last config.maxRetries.toNat outcomes c n := by
  obtain ⟨failed, left, kept⟩ := h
  have kept : c.heard n = false := kept
  rintro (⟨v, succeeded⟩ | used | heard)
  · exact not_failed succeeded failed
  · omega
  · rw [kept] at heard
    cases heard

/-- The call behind those that went on is the first one that does not, if it does not. -/
theorem GoneOn.isLeast (before : GoneOn config (trials outcomes c) k)
    (last : Last config.maxRetries.toNat outcomes c (k + 1)) :
    IsLeast {n | 1 ≤ n ∧ Last config.maxRetries.toNat outcomes c n} (k + 1) := by
  refine ⟨⟨by omega, last⟩, ?_⟩
  rintro n ⟨first, lastToo⟩
  by_contra earlier
  exact (before n first (by omega)).not_last lastToo

theorem GoneOn.failed (before : GoneOn config (trials outcomes c) k) :
    ∀ n, 1 ≤ n → n < k + 1 → ∃ e, outcomes n = .error e :=
  fun n first last => (before n first (by omega)).failed

theorem GoneOn.failed_next (before : GoneOn config (trials outcomes c) k) {e : ε}
    (result : outcomes (k + 1) = .error e) :
    ∀ n, 1 ≤ n → n ≤ k + 1 → ∃ e, outcomes n = .error e := by
  intro n first last
  rcases Nat.lt_or_eq_of_le last with earlier | rfl
  · exact before.failed n first earlier
  · exact ⟨e, result⟩

variable {s : Series α ε}

/-- The last call is the first one behind which none may come. -/
theorem Goes.calls (h : Goes config (trials outcomes c) source s) :
    IsLeast {n | 1 ≤ n ∧ Last config.maxRetries.toNat outcomes c n} s.calls := by
  cases h with
  | success before result => exact before.isLeast (.inl ⟨_, result⟩)
  | exhausted before result used => exact before.isLeast (.inr (.inl (by omega)))
  | canceled before result left givenUp => exact before.isLeast (.inr (.inr givenUp))

theorem Goes.few (h : Goes config trial source s) : s.calls ≤ config.maxRetries.toNat + 1 := by
  cases h with
  | success before _ => exact Nat.succ_le_succ before.le_maxRetries
  | exhausted before _ _ => exact Nat.succ_le_succ before.le_maxRetries
  | canceled before _ _ _ => exact Nat.succ_le_succ before.le_maxRetries

theorem Goes.success_iff (h : Goes config (trials outcomes c) source s) (v : α) :
    s.outcome = .success v ↔
      ∃ n, 1 ≤ n ∧ n ≤ s.calls ∧ outcomes n = .ok v ∧
        ∀ k, 1 ≤ k → k < n → ∃ e, outcomes k = .error e := by
  -- where all calls failed there is no success among them
  have none {k : Nat} {o : Outcome α ε}
      (failed : ∀ n, 1 ≤ n → n ≤ k + 1 → ∃ e, outcomes n = .error e) (other : o ≠ .success v) :
      o = .success v ↔ ∃ n, 1 ≤ n ∧ n ≤ k + 1 ∧ outcomes n = .ok v ∧
        ∀ k, 1 ≤ k → k < n → ∃ e, outcomes k = .error e := by
    refine ⟨fun same => absurd same other, ?_⟩
    rintro ⟨n, first, last, succeeded, -⟩
    exact absurd (failed n first last) (not_failed succeeded)
  cases h with
  | @success k w before result =>
    have result : outcomes (k + 1) = .ok w := result
    constructor
    · rintro ⟨⟩
      exact ⟨k + 1, by omega, Nat.le_refl _, result, before.failed⟩
    · rintro ⟨n, first, last, succeeded, -⟩
      rcases Nat.lt_or_eq_of_le last with earlier | rfl
      · exact absurd (before.failed n first earlier) (not_failed succeeded)
      · rw [result] at succeeded
        cases succeeded
        rfl
  | exhausted before result _ => exact none (before.failed_next result) nofun
  | canceled before result _ _ => exact none (before.failed_next result) nofun

theorem Goes.exhausted_iff (h : Goes config (trials outcomes c) source s) :
    (∃ attempts e, s.outcome = .exhausted attempts e) ↔
      s.calls = config.maxRetries.toNat + 1 ∧
        ∀ n, 1 ≤ n → n ≤ config.maxRetries.toNat + 1 → ∃ e, outcomes n = .error e := by
  cases h with
  | @success k v before result =>
    have result : outcomes (k + 1) = .ok v := result
    constructor
    · rintro ⟨_, _, ⟨⟩⟩
    · rintro ⟨all, failed⟩
      exact absurd (failed (k + 1) (by omega) (Nat.le_of_eq all)) (not_failed result)
  | exhausted before result used =>
    rw [← used]
    exact ⟨fun _ => ⟨rfl, before.failed_next result⟩, fun _ => ⟨_, _, rfl⟩⟩
  | canceled before result left _ =>
    constructor
    · rintro ⟨_, _, ⟨⟩⟩
    · rintro ⟨all, -⟩
      simp only at all
      omega

theorem Goes.attempts (h : Goes config (trials outcomes c) source s) {attempts : UInt32} {e : ε}
    (same : s.outcome = .exhausted attempts e) :
    attempts = UInt32.ofNat (config.maxRetries.toNat + 1) ∧
      outcomes (config.maxRetries.toNat + 1) = .error e := by
  cases h with
  | success before result => cases same
  | exhausted before result used =>
    cases same
    rw [← used]
    exact ⟨rfl, result⟩
  | canceled before result left _ => cases same

/-- The waits of a series are those before its first retries. -/
theorem Goes.waits (h : Goes config trial source s) :
    ∃ j ≤ config.maxRetries.toNat, s.waits = Backoff.waits config.baseDelay source j := by
  cases h with
  | success before _ => exact ⟨_, before.le_maxRetries, rfl⟩
  | exhausted before _ _ => exact ⟨_, before.le_maxRetries, rfl⟩
  | canceled _ _ left _ => exact ⟨_, left, rfl⟩

theorem Goes.reached_iff (h : Goes config (trials outcomes c) source s) (n : Nat) :
    (∃ w ∈ s.waits, w.1.toNat = n) ↔
      1 ≤ n ∧ n ≤ s.calls ∧ n ≤ config.maxRetries.toNat ∧ ∃ e, outcomes n = .error e := by
  have small : config.maxRetries.toNat < 2 ^ 32 := config.maxRetries.toNat_lt
  cases h with
  | @success k v before result =>
    have result : outcomes (k + 1) = .ok v := result
    have few := before.le_maxRetries
    rw [Backoff.exists_mem_waits (by omega)]
    constructor
    · rintro ⟨first, last⟩
      exact ⟨first, by simp only; omega, by omega, before.failed n first (by omega)⟩
    · rintro ⟨first, last, -, failed⟩
      refine ⟨first, ?_⟩
      rcases Nat.lt_or_eq_of_le last with earlier | rfl
      · exact Nat.le_of_lt_succ earlier
      · exact absurd failed (not_failed result)
  | exhausted before result used =>
    rw [Backoff.exists_mem_waits (by omega)]
    constructor
    · rintro ⟨first, last⟩
      exact ⟨first, by simp only; omega, by omega, before.failed n first (by omega)⟩
    · rintro ⟨first, -, last, -⟩
      exact ⟨first, by omega⟩
  | canceled before result left _ =>
    rw [Backoff.exists_mem_waits (by omega)]
    constructor
    · rintro ⟨first, last⟩
      exact ⟨first, last, by omega, before.failed_next result n first last⟩
    · rintro ⟨first, last, -⟩
      exact ⟨first, last⟩

theorem Goes.canceled_iff (h : Goes config (trials outcomes c) source s) :
    s.outcome = .canceled ↔ ∃ w ∈ s.waits, c.heard w.1.toNat = true := by
  have small : config.maxRetries.toNat < 2 ^ 32 := config.maxRetries.toNat_lt
  -- a wait between two calls was not cut short
  have none {k : Nat} {o : Outcome α ε} (before : GoneOn config (trials outcomes c) k)
      (other : o ≠ .canceled) :
      o = .canceled ↔
        ∃ w ∈ Backoff.waits config.baseDelay source k, c.heard w.1.toNat = true := by
    refine ⟨fun same => absurd same other, ?_⟩
    rintro ⟨w, here, heard⟩
    have few := before.le_maxRetries
    obtain ⟨first, last⟩ := (Backoff.exists_mem_waits (by omega)).mp ⟨w, here, rfl⟩
    have kept : c.heard w.1.toNat = false := (before _ first last).kept
    rw [kept] at heard
    cases heard
  cases h with
  | success before _ => exact none before nofun
  | exhausted before _ _ => exact none before nofun
  | @canceled k e before result left givenUp =>
    have heard : c.heard (k + 1) = true := givenUp
    obtain ⟨w, here, number⟩ :
        ∃ w ∈ Backoff.waits config.baseDelay source (k + 1), w.1.toNat = k + 1 :=
      (Backoff.exists_mem_waits (by omega)).mpr ⟨by omega, Nat.le_refl _⟩
    exact ⟨fun _ => ⟨w, here, by rw [number]; exact heard⟩, fun _ => rfl⟩

end Outcomes

/-- Series are settled by the outcomes of their calls and by when the caller gives up. -/
theorem run_settled (config : RetryConfig) (outcomes : Nat → Except ε α) (c : Cancellation)
    (source : Random.Source) (few : config.maxRetries.toNat < 2 ^ 32 - 1)
    (delayed : .zero < config.baseDelay) :
    Settled config outcomes c source (run config (trials outcomes c) source) := by
  have goes := run_goes config (trials outcomes c) source
  obtain ⟨j, fewer, waits⟩ := goes.waits
  have isWait : ∀ w ∈ Backoff.waits config.baseDelay source j, 1 ≤ w.1.toNat ∧
      Backoff.IsWait config.baseDelay w.1.toNat (source.word (w.1.toNat - 1)) w.2 := by
    intro w here
    obtain ⟨k, first, last, rfl⟩ := Backoff.mem_waits.mp here
    rw [Backoff.toNat_waitBefore (by omega)]
    exact ⟨first, Backoff.isWait_waitBefore (by omega)⟩
  exact {
    calls := goes.calls
    few := goes.few
    success := goes.success_iff
    exhausted := goes.exhausted_iff
    attempts := fun attempts e same => by
      have small : config.maxRetries.toNat + 1 < 2 ^ 32 := by omega
      obtain ⟨rfl, error⟩ := goes.attempts same
      exact ⟨UInt32.toNat_ofNat_of_lt' small, error⟩
    reached := goes.reached_iff
    canceled := goes.canceled_iff
    numbered := by
      rw [waits, Backoff.length_waits]
      exact Backoff.numbers_waits (by omega)
    ranges := by
      rw [waits]
      exact fun w here => (isWait w here).2
    lasting := by
      rw [waits]
      exact fun w here => (isWait w here).2.zero_lt delayed (isWait w here).1 }

/-- Two failures, then a success that is not waited for: the caller gives up in the second wait. -/
def sampleOutcomes (n : Nat) : Except String Nat :=
  if n ≤ 2 then .error (toString n) else .ok n

theorem run_settled_sample :
    (5 : UInt32).toNat < 2 ^ 32 - 1 ∧ Duration.zero < .ofSecs 1 ∧
      Settled ⟨5, .ofSecs 1⟩ sampleOutcomes (.duringWait 2) (.ofSeed 42)
        (run ⟨5, .ofSecs 1⟩ (trials sampleOutcomes (.duringWait 2)) (.ofSeed 42)) ∧
      (run ⟨5, .ofSecs 1⟩ (trials sampleOutcomes (.duringWait 2)) (.ofSeed 42)).calls = 2 :=
  ⟨by decide, by decide, run_settled _ _ _ _ (by decide) (by decide), by decide +kernel⟩

/-! ### Counting calls -/

/-- A series in which all calls fail, and nobody gives up, is exhausted. -/
theorem run_failing (config : RetryConfig) (trial : Nat → Trial α ε) (source : Random.Source)
    (fails : ∀ n, 1 ≤ n → n ≤ config.maxRetries.toNat + 1 →
      (∃ e, (trial n).result = .error e) ∧ (trial n).givenUp = false) :
    ∃ e, (trial (config.maxRetries.toNat + 1)).result = .error e ∧
      run config trial source =
        ⟨.exhausted (UInt32.ofNat (config.maxRetries.toNat + 1)) e, config.maxRetries.toNat + 1,
          Backoff.waits config.baseDelay source config.maxRetries.toNat,
          source.skip config.maxRetries.toNat⟩ := by
  have goes := run_goes config trial source
  generalize run config trial source = s at goes ⊢
  cases goes with
  | success before result =>
    obtain ⟨⟨e, failed⟩, -⟩ := fails _ (by omega) (Nat.succ_le_succ before.le_maxRetries)
    rw [failed] at result
    cases result
  | exhausted before result used =>
    subst used
    exact ⟨_, result, rfl⟩
  | canceled before result left givenUp =>
    obtain ⟨-, kept⟩ := fails _ (by omega) (Nat.succ_le_succ before.le_maxRetries)
    rw [kept] at givenUp
    cases givenUp

/-- Where all calls fail and nobody gives up, there is one call more than there are retries. The
retries are counted from one to their maximum without a gap. The attempts that are reported are the
number of calls in 32 bits: exactly as many as there were calls, unless the maximum is the largest
word. -/
theorem attempts_reported (config : RetryConfig) (trial : Nat → Trial α ε) (source : Random.Source)
    (fails : ∀ n, 1 ≤ n → n ≤ config.maxRetries.toNat + 1 →
      (∃ e, (trial n).result = .error e) ∧ (trial n).givenUp = false) :
    (run config trial source).calls = config.maxRetries.toNat + 1 ∧
      (run config trial source).waits.reverse.map (·.1.toNat) =
        List.range' 1 config.maxRetries.toNat ∧
      ∃ attempts e, (run config trial source).outcome = .exhausted attempts e ∧
        (trial (run config trial source).calls).result = .error e ∧
        attempts.toNat = (run config trial source).calls % 2 ^ 32 ∧
        (attempts.toNat = (run config trial source).calls ↔
          config.maxRetries.toNat < 2 ^ 32 - 1) := by
  obtain ⟨e, error, ran⟩ := run_failing config trial source fails
  have small : config.maxRetries.toNat < 2 ^ 32 := config.maxRetries.toNat_lt
  rw [ran]
  refine ⟨rfl, Backoff.numbers_waits small, _, e, rfl, error, UInt32.toNat_ofNat', ?_⟩
  simp only [UInt32.toNat_ofNat']
  omega

theorem attempts_reported_sample :
    (∀ n, 1 ≤ n → n ≤ (4294967294 : UInt32).toNat + 1 →
      (∃ e, (⟨.error "down", false⟩ : Trial Unit String).result = .error e) ∧
        (⟨.error "down", false⟩ : Trial Unit String).givenUp = false) ∧
      ∃ attempts e,
        (run ⟨4294967294, .zero⟩ (fun _ => (⟨.error "down", false⟩ : Trial Unit String))
          (.ofSeed 42)).outcome = .exhausted attempts e ∧ attempts.toNat = 4294967295 := by
  have fails : ∀ n, 1 ≤ n → n ≤ (4294967294 : UInt32).toNat + 1 →
      (∃ e, (⟨.error "down", false⟩ : Trial Unit String).result = .error e) ∧
        (⟨.error "down", false⟩ : Trial Unit String).givenUp = false :=
    fun _ _ _ => ⟨⟨"down", rfl⟩, rfl⟩
  obtain ⟨calls, -, attempts, e, outcome, -, count, -⟩ := attempts_reported ⟨4294967294, .zero⟩
    (fun _ => (⟨.error "down", false⟩ : Trial Unit String)) (.ofSeed 42) fails
  refine ⟨fails, attempts, e, outcome, ?_⟩
  rw [count, calls]
  rfl

/-- With the largest word for the maximum of retries, no attempt is reported after all these
calls. -/
theorem attempts_wrap :
    (run ⟨4294967295, .zero⟩ (fun _ => (⟨.error "down", false⟩ : Trial Unit String))
        (.ofSeed 42)).calls = 4294967296 ∧
      (run ⟨4294967295, .zero⟩ (fun _ => (⟨.error "down", false⟩ : Trial Unit String))
        (.ofSeed 42)).outcome = .exhausted 0 "down" := by
  obtain ⟨e, error, ran⟩ := run_failing ⟨4294967295, .zero⟩
    (fun _ => (⟨.error "down", false⟩ : Trial Unit String)) (.ofSeed 42)
    fun _ _ _ => ⟨⟨"down", rfl⟩, rfl⟩
  cases error
  rw [ran]
  exact ⟨rfl, rfl⟩

end TaskSync.Retry
