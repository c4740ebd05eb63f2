import GameFixes.Proofs.Catalog.Fetching
import Mathlib.Data.List.Range
import Mathlib.Algebra.Order.Group.Nat

/-!
# How long the client waits

The wait before another attempt doubles until it is the longest wait, and then it stays so. A number
of doublings has 32 bits: an attempt whose number has more counts as the sixteenth, and the wait
after it is shorter again unless the delay is long enough, or zero.

* `doubledWait delay n`: the delay doubled `n` times, at most the longest wait;
* `IsSteady delay`: sixteen doublings of this delay are as long a wait as any larger number of them;
* `waitMs_eq_doubledWait_iff`: the attempts after which the wait is the doubled one;
* `waitMs_le_succ_iff`: the attempts after which the wait does not become shorter;
* `exists_waits_fetch`: a fetch waits after each attempt but its last;
* `fetch_waits_iff`: how long every wait of a fetch is, and when the waits never become shorter.
-/

namespace GameFixes.Catalog

/-- The delay doubled `n` times, at most the longest wait. -/
def doubledWait (delay : UInt64) (n : Nat) : Nat := min longestWait (delay.toNat * 2 ^ n)

/-- A delay of which sixteen doublings are as long as any larger number of them. -/
def IsSteady (delay : UInt64) : Prop := delay = 0 ∨ 2 ^ 48 ≤ delay.toNat

variable {delay : UInt64} {m n : Nat}

/-! ### The doubled delay -/

theorem longestWait_eq : longestWait = 2 ^ 64 - 1 := rfl

/-- More doublings never make the wait shorter. -/
theorem doubledWait_le_doubledWait (h : m ≤ n) : doubledWait delay m ≤ doubledWait delay n :=
  min_le_min_left _ (Nat.mul_le_mul_left _ (Nat.pow_le_pow_right Nat.two_pos h))

theorem doubledWait_zero (n : Nat) : doubledWait 0 n = 0 := by
  simp [doubledWait]

/-- From the sixty-fourth doubling on, the wait is the longest. -/
theorem doubledWait_of_le (hdelay : delay ≠ 0) (hn : 64 ≤ n) :
    doubledWait delay n = longestWait := by
  have hpos : 0 < delay.toNat := Nat.pos_of_ne_zero fun h => hdelay (UInt64.toNat_inj.1 h)
  refine Nat.min_eq_left ?_
  calc longestWait
    _ ≤ 2 ^ 64 := by decide
    _ ≤ 2 ^ n := Nat.pow_le_pow_right Nat.two_pos hn
    _ ≤ delay.toNat * 2 ^ n := Nat.le_mul_of_pos_left _ hpos

/-- Sixteen doublings are as long as sixty-four or more just for the steady delays. -/
theorem doubledWait_eq_sixteenth_iff (hn : 64 ≤ n) :
    doubledWait delay n = doubledWait delay 16 ↔ IsSteady delay := by
  by_cases hdelay : delay = 0
  · subst hdelay
    exact iff_of_true (by rw [doubledWait_zero, doubledWait_zero]) (.inl rfl)
  · rw [doubledWait_of_le hdelay hn, IsSteady, or_iff_right hdelay, doubledWait, longestWait_eq]
    omega

/-! ### One wait -/

theorem doublings_of_lt (h : n < 2 ^ 32) : doublings n = n := if_pos h

theorem doublings_of_le (h : 2 ^ 32 ≤ n) : doublings n = 16 := if_neg (Nat.not_lt.2 h)

/-- The number of doublings has 32 bits. -/
theorem doublings_lt (n : Nat) : doublings n < 2 ^ 32 := by
  rcases Nat.lt_or_ge n (2 ^ 32) with h | h
  · rwa [doublings_of_lt h]
  · rw [doublings_of_le h]
    decide

theorem boundedPower_eq_min (n : Nat) : boundedPower n = min longestWait (2 ^ n) := by
  rw [boundedPower]
  split_ifs with h
  · refine (Nat.min_eq_right ?_).symm
    calc 2 ^ n
      _ ≤ 2 ^ 63 := Nat.pow_le_pow_right Nat.two_pos (Nat.le_of_lt_succ h)
      _ ≤ longestWait := by decide
  · refine (Nat.min_eq_left ?_).symm
    calc longestWait
      _ ≤ 2 ^ 64 := by decide
      _ ≤ 2 ^ n := Nat.pow_le_pow_right Nat.two_pos (Nat.le_of_not_lt h)

/-- To bound the power before it is multiplied makes no difference. -/
theorem waitMs_eq_doubledWait (delay : UInt64) (n : Nat) :
    waitMs delay n = doubledWait delay (doublings n) := by
  rw [waitMs, doubledWait, boundedPower_eq_min, ← Nat.mul_min_mul_left, ← Nat.min_assoc]
  rcases Nat.eq_zero_or_pos delay.toNat with h | h
  · simp [h]
  · rw [Nat.min_eq_left (Nat.le_mul_of_pos_left _ h)]

theorem waitMs_of_lt (h : n < 2 ^ 32) : waitMs delay n = doubledWait delay n := by
  rw [waitMs_eq_doubledWait, doublings_of_lt h]

theorem waitMs_of_le (h : 2 ^ 32 ≤ n) : waitMs delay n = doubledWait delay 16 := by
  rw [waitMs_eq_doubledWait, doublings_of_le h]

/-- The wait is the doubled delay after attempts whose number has 32 bits, and for steady delays. -/
theorem waitMs_eq_doubledWait_iff :
    waitMs delay n = doubledWait delay n ↔ n < 2 ^ 32 ∨ IsSteady delay := by
  rcases Nat.lt_or_ge n (2 ^ 32) with h | h
  · exact iff_of_true (waitMs_of_lt h) (.inl h)
  · rw [waitMs_of_le h, or_iff_right (Nat.not_lt.2 h), eq_comm]
    exact doubledWait_eq_sixteenth_iff (Nat.le_trans (by decide) h)

/-- The waits become shorter between the last number with 32 bits and the next one only. -/
theorem waitMs_le_succ_iff :
    waitMs delay n ≤ waitMs delay (n + 1) ↔ n + 1 ≠ 2 ^ 32 ∨ IsSteady delay := by
  rcases Nat.lt_trichotomy (n + 1) (2 ^ 32) with h | h | h
  · refine iff_of_true ?_ (.inl (Nat.ne_of_lt h))
    rw [waitMs_of_lt (Nat.lt_of_succ_lt h), waitMs_of_lt h]
    exact doubledWait_le_doubledWait (Nat.le_succ n)
  · -- the next attempt counts as the sixteenth, and fewer doublings never make a longer wait
    have hn : 64 ≤ n := by omega
    have hle : doubledWait delay 16 ≤ doubledWait delay n :=
      doubledWait_le_doubledWait (Nat.le_trans (by decide) hn)
    rw [waitMs_of_lt (Nat.lt_of_succ_le (Nat.le_of_eq h)), waitMs_of_le (Nat.le_of_eq h.symm),
      or_iff_right (not_not.2 h), ← doubledWait_eq_sixteenth_iff hn]
    exact ⟨fun hge => Nat.le_antisymm hge hle, Nat.le_of_eq⟩
  · refine iff_of_true ?_ (.inl (Nat.ne_of_gt h))
    rw [waitMs_of_le (Nat.le_of_lt_succ h), waitMs_of_le (Nat.le_of_lt h)]

/-! ### The waits of a fetch -/

/-- The waits after the first `n` attempts. -/
def waitsUpTo (delay : UInt64) (n : Nat) : List Nat := (List.range n).map (waitMs delay)

/-- The first waits never become shorter if none of them comes after an attempt whose number has
more than 32 bits, or if the delay is steady. -/
theorem pairwise_waitsUpTo_iff :
    (waitsUpTo delay n).Pairwise (· ≤ ·) ↔ n ≤ 2 ^ 32 ∨ IsSteady delay := by
  -- it is enough to compare each wait with the next one
  rw [← List.isChain_iff_pairwise, waitsUpTo, List.isChain_map, List.isChain_range]
  simp only [Nat.succ_eq_add_one, waitMs_le_succ_iff]
  by_cases hsteady : IsSteady delay
  · simp [hsteady]
  · simp only [hsteady, or_false]
    constructor
    · intro h
      by_contra hlt
      exact h (2 ^ 32 - 1) (by omega) rfl
    · intro h m hm
      omega

variable {o : ClientOptions} {network : Nat → Outcome}

theorem waits_attemptsUpTo : (attemptsUpTo o network 0 n).waits = waitsUpTo o.retryDelayMs n := by
  rw [waitsUpTo, List.range_eq_range']
  rfl

/-- A fetch waits after each attempt but the last one. -/
theorem exists_waits_fetch (o : ClientOptions) (network : Nat → Outcome) :
    ∃ n ≤ o.maxRetries, (fetch o network).waits = waitsUpTo o.retryDelayMs n := by
  obtain ⟨n, hn, hfollowed, hlast⟩ :=
    exists_last o (if isSendable o.userAgent then network else fun _ => .unsendable)
  refine ⟨n, hn, ?_⟩
  rw [fetch, attempts_of_last (Nat.lt_succ_of_le hn) (by simpa using hfollowed)
    (by simpa using hlast), waits_attemptsUpTo]

/-- A client whose connections all end without an answer waits as often as it may try again. -/
theorem waits_fetch_dropped (huser : isSendable o.userAgent = true) :
    (fetch o fun _ => .dropped).waits = waitsUpTo o.retryDelayMs o.maxRetries := by
  have hsent (n : Nat) : (fun _ => Outcome.dropped : Nat → Outcome) n ≠ .unsendable := nofun
  rw [fetch_of_not_settled huser hsent fun _ _ => by simp [Outcome.IsSettled], waits_attemptsUpTo]

/-- **The waits double up to the longest one and never become shorter, for as long as the numbers of
the attempts have 32 bits.** No step on the way to a wait leaves its range, whatever the number of
the attempt. Where the number has more bits, the wait is the doubled one for the steady delays only,
and the waits of any other client become shorter there, once. -/
theorem fetch_waits_iff (o : ClientOptions) (network : Nat → Outcome) :
    (∀ n, doublings n < 2 ^ 32 ∧ boundedPower (doublings n) < 2 ^ 64 ∧
        waitMs o.retryDelayMs n < 2 ^ 64) ∧
      (∀ n, waitMs o.retryDelayMs n = min (2 ^ 64 - 1) (o.retryDelayMs.toNat * 2 ^ n) ↔
        n < 2 ^ 32 ∨ IsSteady o.retryDelayMs) ∧
      (∀ n, waitMs o.retryDelayMs n ≤ waitMs o.retryDelayMs (n + 1) ↔
        n + 1 ≠ 2 ^ 32 ∨ IsSteady o.retryDelayMs) ∧
      ∃ n ≤ o.maxRetries, (fetch o network).waits = (List.range n).map (waitMs o.retryDelayMs) ∧
        ((fetch o network).waits.Pairwise (· ≤ ·) ↔ n ≤ 2 ^ 32 ∨ IsSteady o.retryDelayMs) := by
  have hlongest : longestWait < 2 ^ 64 := by decide
  refine ⟨fun n => ⟨doublings_lt n, ?_, ?_⟩, fun n => waitMs_eq_doubledWait_iff,
    fun n => waitMs_le_succ_iff, ?_⟩
  · rw [boundedPower_eq_min]
    exact Nat.lt_of_le_of_lt (Nat.min_le_left ..) hlongest
  · exact Nat.lt_of_le_of_lt (waitMs_le _ _) hlongest
  · obtain ⟨n, hn, hwaits⟩ := exists_waits_fetch o network
    refine ⟨n, hn, hwaits, ?_⟩
    rw [hwaits]
    exact pairwise_waitsUpTo_iff

/-- With a delay of one millisecond, the wait after the first attempt whose number has more than 32
bits is about a minute. It is not the longest wait, but the one before it is. -/
theorem not_forall_waits_double :
    (¬ ∀ (delay : UInt64) (n : Nat), n < 2 ^ 64 →
        waitMs delay n = min (2 ^ 64 - 1) (delay.toNat * 2 ^ n)) ∧
      ¬ ∀ (o : ClientOptions) (network : Nat → Outcome), o.maxRetries < 2 ^ 64 →
        (fetch o network).waits.Pairwise (· ≤ ·) := by
  have hsteady : ¬ IsSteady 1 := by
    rintro (h | h)
    · exact absurd h (by decide)
    · exact absurd h (by decide)
  constructor
  · intro h
    have hwait := waitMs_eq_doubledWait_iff.1 (h 1 (2 ^ 32) (by decide))
    exact hwait.elim (Nat.lt_irrefl _) hsteady
  · intro h
    let o : ClientOptions :=
      { apiUrl := "http://localhost/catalog", userAgent := "fixtool/0.1",
        maxRetries := 2 ^ 32 + 1, retryDelayMs := 1 }
    have hpairwise := h o (fun _ => .dropped) (by decide)
    rw [waits_fetch_dropped (by decide), pairwise_waitsUpTo_iff] at hpairwise
    exact hpairwise.elim (Nat.not_succ_le_self _) hsteady

end GameFixes.Catalog
