import ProbeLsp.PyText

/-!
`test_socket_limits.py`: rounds of concurrent `probe search --lsp` runs against the daemon. How
each run ends is the environment's; the script sorts the runs into four counts and passes a round
when more than 80% of its runs succeeded and fewer than 10% failed on a connection. Python's
`str.lower` is the parameter `lower`, and the rates are exact: Python divides and compares floats,
whose rounding cannot move `k / n` across `0.8` or `0.1` for `n ≤ 100`.
-/

namespace ProbeLsp.SocketLimits

open PyText

/-- The dict `run_probe_search` returns, without its `stdout`, which nothing reads. -/
structure SearchResult where
  returncode : Int
  stderr : List Char
  deriving DecidableEq, Repr

/-- How `process.communicate()` under `asyncio.wait_for` ends: the exit code and the standard
error decoded with `errors='ignore'`, `asyncio.TimeoutError`, or another `Exception` with its
`str(e)`. -/
inductive SearchRun where
  | exited (returncode : Int) (stderr : List Char)
  | timedOut
  | failed (e : List Char)

def runProbeSearch : SearchRun → SearchResult
  | .exited returncode stderr => ⟨returncode, stderr⟩
  | .timedOut => ⟨-1, "TIMEOUT".toList⟩
  | .failed e => ⟨-2, e⟩

/-- How a search task ends: `run_probe_search` returns, or the task is cancelled, whose
`CancelledError` is not an `Exception` and escapes its `try`. -/
inductive TaskEnd where
  | ran (run : SearchRun)
  | cancelled

/-- An entry of `asyncio.gather(*tasks, return_exceptions=True)`: the value a task returned, or
the exception that ended it, with whether that is an `Exception`. -/
inductive Gathered where
  | returned (result : SearchResult)
  | raised (isException : Bool)
  deriving DecidableEq, Repr

def gathered : TaskEnd → Gathered
  | .ran run => .returned (runProbeSearch run)
  | .cancelled => .raised false

structure Tally where
  successes : Nat
  timeouts : Nat
  errors : Nat
  connectionErrors : Nat
  deriving DecidableEq, Repr

def Tally.total (t : Tally) : Nat := t.successes + t.timeouts + t.errors + t.connectionErrors

section Analysis

variable (lower : List Char → List Char)

/-- One pass of the loop over `enumerate(results)`; `none` where `result["returncode"]` raises, on
an exception that is not an `Exception`. -/
def countResult (t : Tally) : Gathered → Option Tally
  | .raised true => some { t with errors := t.errors + 1 }
  | .raised false => none
  | .returned result =>
    if result.returncode = 0 then some { t with successes := t.successes + 1 }
    else if isIn "TIMEOUT".toList result.stderr then some { t with timeouts := t.timeouts + 1 }
    else if isIn "connection".toList (lower result.stderr) || isIn "socket".toList (lower result.stderr) then
      some { t with connectionErrors := t.connectionErrors + 1 }
    else some { t with errors := t.errors + 1 }

def analyze (results : List Gathered) : Option Tally := results.foldlM (countResult lower) ⟨0, 0, 0, 0⟩

inductive Kind where
  | success
  | timeout
  | error
  | connectionError
  deriving DecidableEq, Repr

def classify (result : SearchResult) : Kind :=
  if result.returncode = 0 then .success
  else if isIn "TIMEOUT".toList result.stderr then .timeout
  else if isIn "connection".toList (lower result.stderr) || isIn "socket".toList (lower result.stderr) then
    .connectionError
  else .error

def Gathered.kind : Gathered → Option Kind
  | .returned result => some (classify lower result)
  | .raised true => some .error
  | .raised false => none

example : classify lower (runProbeSearch .timedOut) = .timeout := rfl

def Tally.add (t : Tally) : Kind → Tally
  | .success => { t with successes := t.successes + 1 }
  | .timeout => { t with timeouts := t.timeouts + 1 }
  | .error => { t with errors := t.errors + 1 }
  | .connectionError => { t with connectionErrors := t.connectionErrors + 1 }

def Tally.ofKinds (ks : List Kind) : Tally :=
  ⟨ks.count .success, ks.count .timeout, ks.count .error, ks.count .connectionError⟩

theorem countResult_eq (t : Tally) (g : Gathered) : countResult lower t g = (g.kind lower).map t.add := by
  cases g with
  | raised isException => cases isException <;> rfl
  | returned result =>
    simp only [countResult, Gathered.kind, classify, Option.map_some']
    split_ifs <;> rfl

theorem add_total (t : Tally) (k : Kind) : (t.add k).total = t.total + 1 := by
  cases k <;> simp only [Tally.add, Tally.total] <;> omega

theorem foldl_add (t : Tally) (ks : List Kind) :
    ks.foldl Tally.add t = ⟨t.successes + ks.count .success, t.timeouts + ks.count .timeout,
      t.errors + ks.count .error, t.connectionErrors + ks.count .connectionError⟩ := by
  induction ks generalizing t with
  | nil => rfl
  | cons k ks ih =>
    rw [List.foldl_cons, ih]
    cases k <;> simp only [Tally.add, ne_eq, reduceCtorEq, not_false_eq_true, List.count_cons_of_ne,
      List.count_cons_self, Tally.mk.injEq, and_true, true_and] <;> omega

theorem kind_of_ne {g : Gathered} (h : g ≠ .raised false) : ∃ k, g.kind lower = some k := by
  match g, h with
  | .returned _, _ => exact ⟨_, rfl⟩
  | .raised true, _ => exact ⟨_, rfl⟩

theorem foldlM_countResult (t : Tally) (results : List Gathered) (h : Gathered.raised false ∉ results) :
    results.foldlM (countResult lower) t = some ((results.filterMap (Gathered.kind lower)).foldl Tally.add t) := by
  induction results generalizing t with
  | nil => rfl
  | cons g gs ih =>
    obtain ⟨k, hk⟩ := kind_of_ne lower (List.ne_of_not_mem_cons h).symm
    rw [List.foldlM_cons, countResult_eq, hk, List.filterMap_cons_some hk]
    exact ih _ (List.not_mem_of_not_mem_cons h)

theorem foldlM_countResult_none (t : Tally) (results : List Gathered) (h : Gathered.raised false ∈ results) :
    results.foldlM (countResult lower) t = none := by
  induction results generalizing t with
  | nil => cases h
  | cons g gs ih =>
    rw [List.foldlM_cons, countResult_eq]
    rcases List.mem_cons.mp h with rfl | h
    · rfl
    · cases g.kind lower with
      | none => rfl
      | some k => exact ih _ h

theorem analyze_counts (results : List Gathered) :
    analyze lower results = if Gathered.raised false ∈ results then none
      else some (Tally.ofKinds (results.filterMap (Gathered.kind lower))) := by
  split_ifs with h
  · exact foldlM_countResult_none lower _ _ h
  · rw [analyze, foldlM_countResult lower _ _ h, foldl_add]
    simp only [Nat.zero_add, Tally.ofKinds]

theorem foldlM_countResult_total {t t' : Tally} {results : List Gathered}
    (h : results.foldlM (countResult lower) t = some t') : t'.total = t.total + results.length := by
  induction results generalizing t with
  | nil => cases h; rfl
  | cons g gs ih =>
    rw [List.foldlM_cons, countResult_eq] at h
    cases hk : g.kind lower with
    | none => rw [hk] at h; cases h
    | some k =>
      rw [hk] at h
      rw [ih h, add_total, List.length_cons]
      omega

theorem analyze_total {results : List Gathered} {t : Tally} (h : analyze lower results = some t) :
    t.total = results.length := by
  simpa only [Tally.total, Nat.zero_add] using foldlM_countResult_total lower h

theorem analyze_total_two :
    analyze id [.returned ⟨0, []⟩, .raised true] = some ⟨1, 0, 1, 0⟩ ∧ (⟨1, 0, 1, 0⟩ : Tally).total = 2 :=
  ⟨rfl, analyze_total id (rfl : analyze id [.returned ⟨0, []⟩, .raised true] = some ⟨1, 0, 1, 0⟩)⟩

end Analysis

/-- `success_rate > 0.8 and connection_error_rate < 0.1`, each rate a count over `num_concurrent`. -/
def passed (numConcurrent : Nat) (t : Tally) : Bool :=
  decide ((t.successes : ℚ) / numConcurrent > 0.8) && decide ((t.connectionErrors : ℚ) / numConcurrent < 0.1)

theorem rate_gt_iff {k n : Nat} (hn : 0 < n) : (k : ℚ) / n > 0.8 ↔ 4 * n < 5 * k := by
  rw [gt_iff_lt, lt_div_iff₀ (by exact_mod_cast hn), ← Nat.cast_lt (α := ℚ)]
  push_cast
  constructor <;> intro h <;> linarith

theorem rate_lt_iff {k n : Nat} (hn : 0 < n) : (k : ℚ) / n < 0.1 ↔ 10 * k < n := by
  rw [div_lt_iff₀ (by exact_mod_cast hn), ← Nat.cast_lt (α := ℚ)]
  push_cast
  constructor <;> intro h <;> linarith

theorem passed_eq {n : Nat} (hn : 0 < n) (t : Tally) :
    passed n t = decide (4 * n < 5 * t.successes ∧ 10 * t.connectionErrors < n) := by
  simp only [passed, rate_gt_iff hn, rate_lt_iff hn, Bool.decide_and]

def searchQueries : List String := ["fn", "struct", "impl", "use", "mod", "let", "match", "if"]

/-- `search_queries[i % len(search_queries)]`. -/
def taskQuery (i : Nat) : String := searchQueries.get ⟨i % searchQueries.length, Nat.mod_lt _ (by decide)⟩

/-- How `subprocess.run` of `probe lsp start -f` ends: it returns, raises `TimeoutExpired`, which
the round catches, or raises another exception, which nothing catches. -/
inductive StartRun where
  | returned
  | timedOut
  | raised
  deriving DecidableEq, Repr

section Round

variable (lower : List Char → List Char)

/-- `test_concurrent_connections(num_concurrent)`, where `task i q` is how the `i`-th search, for
query `q`, ends: the counts it prints and the verdict it returns; `none` where it raises. -/
def testConcurrentConnections (start : StartRun) (task : Nat → String → TaskEnd) (numConcurrent : Nat) :
    Option (Tally × Bool) :=
  if start = .raised then none else do
  let t ← analyze lower ((List.range numConcurrent).map fun i => gathered (task i (taskQuery i)))
  if numConcurrent = 0 then none else some (t, passed numConcurrent t)

/-- `main()`: a round of 50 searches, then one of 100; the exit code it returns. -/
def main (start₁ start₂ : StartRun) (task₁ task₂ : Nat → String → TaskEnd) : Option Nat := do
  let (_, success1) ← testConcurrentConnections lower start₁ task₁ 50
  let (_, success2) ← testConcurrentConnections lower start₂ task₂ 100
  pure (if success1 && success2 then 0 else 1)

def roundKinds (runs : Nat → String → SearchRun) (n : Nat) : List Kind :=
  (List.range n).map fun i => classify lower (runProbeSearch (runs i (taskQuery i)))

theorem testConcurrentConnections_ran {start : StartRun} (hs : start ≠ .raised) (runs : Nat → String → SearchRun)
    {n : Nat} (hn : 0 < n) :
    testConcurrentConnections lower start (fun i q => .ran (runs i q)) n =
      some (Tally.ofKinds (roundKinds lower runs n), passed n (Tally.ofKinds (roundKinds lower runs n))) := by
  have hr : Gathered.raised false ∉ (List.range n).map fun i => gathered (.ran (runs i (taskQuery i))) := by
    simp only [List.mem_map, gathered, reduceCtorEq, and_false, exists_false, not_false_eq_true]
  have hk : ((List.range n).map fun i => gathered (.ran (runs i (taskQuery i)))).filterMap (Gathered.kind lower) =
      roundKinds lower runs n := by
    rw [List.filterMap_map, roundKinds, ← List.filterMap_eq_map]
    rfl
  rw [testConcurrentConnections, if_neg hs, analyze_counts, if_neg hr, hk]
  simp only [Nat.pos_iff_ne_zero.mp hn, if_false]
  rfl

theorem main_exit {start₁ start₂ : StartRun} (h₁ : start₁ ≠ .raised) (h₂ : start₂ ≠ .raised)
    (runs₁ runs₂ : Nat → String → SearchRun) :
    main lower start₁ start₂ (fun i q => .ran (runs₁ i q)) (fun i q => .ran (runs₂ i q)) =
      some (if 41 ≤ (roundKinds lower runs₁ 50).count .success ∧
          (roundKinds lower runs₁ 50).count .connectionError ≤ 4 ∧
          81 ≤ (roundKinds lower runs₂ 100).count .success ∧
          (roundKinds lower runs₂ 100).count .connectionError ≤ 9 then 0 else 1) := by
  rw [main, testConcurrentConnections_ran lower h₁ runs₁ (by decide),
    testConcurrentConnections_ran lower h₂ runs₂ (by decide)]
  simp only [Option.bind_eq_bind, Option.some_bind, passed_eq (by decide : 0 < 50), passed_eq (by decide : 0 < 100),
    Tally.ofKinds, Bool.decide_and, Bool.and_eq_true, decide_eq_true_eq]
  exact congrArg some (if_congr (by omega) rfl rfl)

theorem main_exit_all_succeed :
    StartRun.returned ≠ .raised ∧
      main id .returned .returned (fun _ _ => .ran (.exited 0 [])) (fun _ _ => .ran (.exited 0 [])) =
        some (if 41 ≤ (roundKinds id (fun _ _ => .exited 0 []) 50).count .success ∧
            (roundKinds id (fun _ _ => .exited 0 []) 50).count .connectionError ≤ 4 ∧
            81 ≤ (roundKinds id (fun _ _ => .exited 0 []) 100).count .success ∧
            (roundKinds id (fun _ _ => .exited 0 []) 100).count .connectionError ≤ 9 then 0 else 1) :=
  ⟨by decide, main_exit id (by decide) (by decide) _ _⟩

end Round

end ProbeLsp.SocketLimits
