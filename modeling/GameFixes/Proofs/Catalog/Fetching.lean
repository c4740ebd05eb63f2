import GameFixes.Catalog.Client
import Mathlib.Data.Nat.Find

/-!
# How often the catalog is asked for

The client tries again after outcomes that may pass, and only as often as it is allowed to. It stops
at the first outcome that is settled, or else at the last attempt.

* `Outcome.IsSettled`: the server has answered, and the same request would be answered alike;
* `IsFollowed o network n`: the attempt `n` is followed by another one;
* `attempts_of_last`: the attempts up to the first one that is not followed, as a whole;
* `exists_last`: there is such an attempt, at most the last one that is allowed;
* `Fetch.Retried`: a request that was sent again some number of times, with a warning each time;
* `fetch_retried`: how often a fetch tries again, and what it returns.
-/

namespace GameFixes.Catalog

/-! ### Outcomes -/

/-- The server has answered with a status that does not ask to try again. -/
def Outcome.IsSettled (x : Outcome) : Prop :=
  ∃ status body, x = .answer status body ∧ status.code ∉ [408, 429, 502, 503, 504]

/-- The failure that an outcome without a catalog stands for. -/
def Outcome.failure : Outcome → Failure
  | .answer status _ => .catalogStatus status.text
  | .dropped | .unsendable => .catalogCall

variable {x : Outcome}

/-- What can be sent is tried again unless it is settled. -/
theorem Outcome.isRetryable_iff (h : x ≠ .unsendable) : x.isRetryable = true ↔ ¬ x.IsSettled := by
  cases x with
  | answer status body =>
    have hsettled : (Outcome.answer status body).IsSettled ↔
        status.code ∉ [408, 429, 502, 503, 504] := by simp [IsSettled]
    rw [hsettled, not_not, isRetryable, Status.isRetryable, List.contains_iff_mem]
  | dropped => simp [isRetryable, IsSettled]
  | unsendable => exact absurd rfl h

theorem Outcome.result_of_isRetryable (h : x.isRetryable = true) :
    x.result = .error x.failure := by
  cases x with
  | answer status body => simp [result, failure, Status.isSuccess_eq_false_of_isRetryable h]
  | dropped | unsendable => rfl

theorem Outcome.result_answer (status : Status) (body : String) :
    (Outcome.answer status body).result =
      if 200 ≤ status.code ∧ status.code < 300 then
        (parse (bodyOf status body)).mapError Failure.catalog
      else .error (.catalogStatus status.text) := by
  have hsuccess : status.isSuccess = true ↔ 200 ≤ status.code ∧ status.code < 300 := by
    simp [Status.isSuccess]
  simp only [result, hsuccess]
  refine if_congr Iff.rfl ?_ rfl
  cases parse (bodyOf status body) <;> rfl

/-- No outcome is that the attempts are used up. -/
theorem Outcome.result_ne_retriesExhausted (x : Outcome) :
    x.result ≠ .error .retriesExhausted := by
  cases x with
  | answer status body =>
    rw [result_answer]
    split_ifs
    · cases parse (bodyOf status body) <;> simp [Except.mapError]
    · simp
  | dropped | unsendable => simp [result]

/-! ### Attempts -/

variable {o : ClientOptions} {network : Nat → Outcome} {n : Nat}

/-- An attempt that is followed by another one. -/
def IsFollowed (o : ClientOptions) (network : Nat → Outcome) (n : Nat) : Prop :=
  n < o.maxRetries ∧ (network n).isRetryable = true

instance (o : ClientOptions) (network : Nat → Outcome) (n : Nat) :
    Decidable (IsFollowed o network n) :=
  inferInstanceAs (Decidable (_ ∧ _))

/-- The attempts from `a` on of which the first `m` are followed by another one. -/
def attemptsUpTo (o : ClientOptions) (network : Nat → Outcome) (a m : Nat) : Fetch where
  result := (network (a + m)).result
  requests := (List.range' a (m + 1)).flatMap fun j => sent o.request (network j)
  events := (List.range' a m).flatMap (fun j => [requestEvent j, retryEvent j (network j)]) ++
    [requestEvent (a + m)]
  waits := (List.range' a m).map (waitMs o.retryDelayMs)

/-- Attempts go on until one of them is not followed. -/
theorem attempts_of_last {left a m : Nat} (hleft : m < left)
    (hfollowed : ∀ j < m, IsFollowed o network (a + j)) (hlast : ¬ IsFollowed o network (a + m)) :
    attempts o network left a = attemptsUpTo o network a m := by
  -- the first attempt is taken off, and the others start one later
  induction m generalizing left a with
  | zero =>
    obtain ⟨left, rfl⟩ := Nat.exists_eq_add_one.2 hleft
    have hcond : ¬ (decide (a < o.maxRetries) && (network a).isRetryable) = true := by
      simpa [IsFollowed] using hlast
    rw [attempts, if_neg hcond]
    simp [attemptsUpTo]
  | succ m ih =>
    obtain ⟨left, rfl⟩ := Nat.exists_eq_add_one.2 (Nat.zero_lt_of_lt hleft)
    have hcond : (decide (a < o.maxRetries) && (network a).isRetryable) = true := by
      simpa [IsFollowed] using hfollowed 0 (Nat.succ_pos m)
    have hlater : attempts o network left (a + 1) = attemptsUpTo o network (a + 1) m := by
      refine ih (Nat.lt_of_succ_lt_succ hleft) (fun j hj => ?_) ?_
      · have h := hfollowed (j + 1) (Nat.succ_lt_succ hj)
        rwa [Nat.add_comm j, ← Nat.add_assoc] at h
      · rwa [Nat.add_comm m, ← Nat.add_assoc] at hlast
    rw [attempts, if_pos hcond, hlater]
    simp [attemptsUpTo, List.range'_succ, Nat.add_assoc, Nat.add_comm 1 m]

/-- The attempts that are allowed come to an end. -/
theorem exists_last (o : ClientOptions) (network : Nat → Outcome) :
    ∃ n ≤ o.maxRetries, (∀ j < n, IsFollowed o network j) ∧ ¬ IsFollowed o network n := by
  have h : ∃ n, ¬ IsFollowed o network n := ⟨o.maxRetries, fun h => Nat.lt_irrefl _ h.1⟩
  refine ⟨Nat.find h, Nat.find_min' h fun h => Nat.lt_irrefl _ h.1, fun j hj => ?_, Nat.find_spec h⟩
  exact not_not.1 (Nat.find_min h hj)

/-! ### Retries -/

/-- A fetch that tried again `n` times. -/
structure Fetch.Retried (f : Fetch) (o : ClientOptions) (network : Nat → Outcome) (n : Nat) :
    Prop where
  /-- The request was sent once more than that, and always the same one. -/
  requests : f.requests = List.replicate (n + 1) o.request
  /-- There is one warning for each retry, with the outcome that led to it. -/
  warnings : f.events.filter (·.level = .warn) =
    (List.range n).map fun j => retryEvent j (network j)
  /-- The warnings are numbered from zero. -/
  numbers : (f.events.filter (·.level = .warn)).map (·.fields.lookup "attempt") =
    (List.range n).map fun j => some (.number j)

theorem lookup_attempt_retryEvent (j : Nat) (x : Outcome) :
    (retryEvent j x).fields.lookup "attempt" = some (.number j) := by
  cases x <;> rfl

/-- Attempts that can be sent are retries but for the last. -/
theorem retried_attemptsUpTo (hnetwork : ∀ n, network n ≠ .unsendable) (n : Nat) :
    (attemptsUpTo o network 0 n).Retried o network n := by
  have hsent (j : Nat) : sent o.request (network j) = [o.request] := by
    cases h : network j with
    | answer | dropped => rfl
    | unsendable => exact absurd h (hnetwork j)
  have hwarnings : (attemptsUpTo o network 0 n).events.filter (·.level = .warn) =
      (List.range n).map fun j => retryEvent j (network j) := by
    simp [attemptsUpTo, List.filter_flatMap, requestEvent, retryEvent, List.range_eq_range',
      List.map_eq_flatMap]
  refine ⟨?_, hwarnings, ?_⟩
  · simp only [attemptsUpTo, hsent]
    rw [← List.map_eq_flatMap, List.map_const', List.length_range']
  · rw [hwarnings, List.map_map]
    exact List.map_congr_left fun j _ => lookup_attempt_retryEvent j (network j)

theorem fetch_of_last (huser : isSendable o.userAgent = true) (hn : n ≤ o.maxRetries)
    (hfollowed : ∀ j < n, IsFollowed o network j) (hlast : ¬ IsFollowed o network n) :
    fetch o network = attemptsUpTo o network 0 n := by
  rw [fetch, if_pos huser]
  exact attempts_of_last (Nat.lt_succ_of_le hn) (by simpa using hfollowed) (by simpa using hlast)

theorem isFollowed_iff (hnetwork : ∀ n, network n ≠ .unsendable) (n : Nat) :
    IsFollowed o network n ↔ n < o.maxRetries ∧ ¬ (network n).IsSettled := by
  rw [IsFollowed, Outcome.isRetryable_iff (hnetwork n)]

/-- Up to the first settled outcome. -/
theorem fetch_of_settled (huser : isSendable o.userAgent = true)
    (hnetwork : ∀ n, network n ≠ .unsendable) (hn : n ≤ o.maxRetries)
    (hbefore : ∀ j < n, ¬ (network j).IsSettled) (hsettled : (network n).IsSettled) :
    fetch o network = attemptsUpTo o network 0 n := by
  refine fetch_of_last huser hn (fun j hj => ?_) fun h => ?_
  · exact (isFollowed_iff hnetwork j).2 ⟨Nat.lt_of_lt_of_le hj hn, hbefore j hj⟩
  · exact ((isFollowed_iff hnetwork n).1 h).2 hsettled

/-- Up to the last attempt. -/
theorem fetch_of_not_settled (huser : isSendable o.userAgent = true)
    (hnetwork : ∀ n, network n ≠ .unsendable)
    (hnone : ∀ j ≤ o.maxRetries, ¬ (network j).IsSettled) :
    fetch o network = attemptsUpTo o network 0 o.maxRetries := by
  refine fetch_of_last huser le_rfl (fun j hj => ?_) fun h => Nat.lt_irrefl _ h.1
  exact (isFollowed_iff hnetwork j).2 ⟨hj, hnone j (Nat.le_of_lt hj)⟩

/-- **A fetch tries again until an outcome is settled or no retry is left.** If the first settled
outcome `k` is within the retries, the fetch tries again `k` times and returns the catalog of the
answer, or its status. Otherwise it uses up all retries and returns the failure of the last attempt.
It never tries again after a settled outcome, and some attempt always gives the result. -/
theorem fetch_retried (o : ClientOptions) (network : Nat → Outcome)
    (huser : isSendable o.userAgent = true) (hnetwork : ∀ n, network n ≠ .unsendable) :
    (∀ k ≤ o.maxRetries, (∀ j < k, ¬ (network j).IsSettled) → (network k).IsSettled →
      (fetch o network).Retried o network k ∧
        ∀ status body, network k = .answer status body → (fetch o network).result =
          if 200 ≤ status.code ∧ status.code < 300 then
            (parse (bodyOf status body)).mapError Failure.catalog
          else .error (.catalogStatus status.text)) ∧
      ((∀ j ≤ o.maxRetries, ¬ (network j).IsSettled) →
        (fetch o network).Retried o network o.maxRetries ∧
          (fetch o network).result = .error (network o.maxRetries).failure) ∧
      (∀ j, (network j).IsSettled → (fetch o network).requests.length ≤ j + 1) ∧
      (fetch o network).result ≠ .error .retriesExhausted := by
  obtain ⟨n, hn, hfollowed, hlast⟩ := exists_last o network
  have hfetch := fetch_of_last huser hn hfollowed hlast
  refine ⟨fun k hk hbefore hsettled => ?_, fun hnone => ?_, fun j hj => ?_, ?_⟩
  · rw [fetch_of_settled huser hnetwork hk hbefore hsettled]
    refine ⟨retried_attemptsUpTo hnetwork k, fun status body hanswer => ?_⟩
    rw [attemptsUpTo, Nat.zero_add, hanswer, Outcome.result_answer]
  · have hretryable := (Outcome.isRetryable_iff (hnetwork o.maxRetries)).2 (hnone _ le_rfl)
    rw [fetch_of_not_settled huser hnetwork hnone]
    refine ⟨retried_attemptsUpTo hnetwork _, ?_⟩
    rw [attemptsUpTo, Nat.zero_add, Outcome.result_of_isRetryable hretryable]
  · rw [hfetch, (retried_attemptsUpTo hnetwork n).requests, List.length_replicate]
    by_contra hlt
    -- an outcome that another attempt follows is not settled
    exact ((isFollowed_iff hnetwork j).1 (hfollowed j (by omega))).2 hj
  · rw [hfetch]
    exact Outcome.result_ne_retriesExhausted _

/-- A busy server, an ended connection and then a catalog with an entry, with one retry to spare. -/
theorem fetch_retried_thirdAnswer :
    let o : ClientOptions := { apiUrl := "http://localhost/catalog", userAgent := "fixtool/0.1",
                               maxRetries := 3 }
    let body := "[\x7b\"umu_id\":\"umu-570\",\"title\":\"Dota 2\"\x7d]"
    let network : Nat → Outcome
      | 0 => .answer ⟨503⟩ ""
      | 1 => .dropped
      | _ => .answer ⟨200⟩ body
    (fetch o network).Retried o network 2 ∧
      (fetch o network).result = .ok [⟨"umu-570", "Dota 2", none, none⟩] := by
  intro o body network
  have hnetwork : ∀ n, network n ≠ .unsendable
    | 0 | 1 | _ + 2 => nofun
  have hbefore : ∀ j < 2, ¬ (network j).IsSettled
    | 0, _ => by simp [network, Outcome.IsSettled]
    | 1, _ => by simp [network, Outcome.IsSettled]
  have h := (fetch_retried o network (by decide) hnetwork).1 2 (by decide) hbefore
    ⟨⟨200⟩, body, rfl, by decide⟩
  refine ⟨h.1, ?_⟩
  rw [h.2 ⟨200⟩ body rfl]
  decide +kernel

end GameFixes.Catalog
