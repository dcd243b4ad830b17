import ProbeLsp.Client

namespace ProbeLsp.LspDaemonClient

/-- `s.rstrip(c)`. -/
def rstrip (s : String) (c : Char) : String := ⟨(s.data.reverse.dropWhile (· == c)).reverse⟩

/-- The socket path for `os.name` and the value of `TMPDIR`, if set. -/
def getSocketPath (osName : String) (tmpdir : Option String) : String :=
  if osName = "nt" then "\\\\.\\pipe\\lsp-daemon"
  else rstrip (tmpdir.getD "/tmp") '/' ++ "/lsp-daemon.sock"

example : getSocketPath "posix" none = "/tmp/lsp-daemon.sock" := by decide

/-- What `connect` does besides connecting: `os.system` and `time.sleep`. -/
inductive Effect where
  | system (command : String)
  | sleep (seconds : Nat)
  deriving DecidableEq, Repr

/-- The `for attempt in range(3)` loop of `connect`: still trying, left by `break` with a
connected socket, or left by an exception. -/
inductive Loop where
  | trying (effects : List Effect)
  | connected (s : Socket) (effects : List Effect)
  | raised (e : PyError) (effects : List Effect)

def Loop.effects : Loop → List Effect
  | trying fx | connected _ fx | raised _ fx => fx

/-- `except (ConnectionRefusedError, FileNotFoundError)`. -/
def caught : PyError → Bool
  | .connectionRefused | .fileNotFound => true
  | _ => false

def probeCmd (localBuild : Bool) : String :=
  if localBuild then "./target/debug/probe" else "probe"

/-- One pass of the loop; `attemptAt i` is what `self.socket.connect` does on attempt `i`. -/
def connectStep (attemptAt : Nat → Except PyError Socket) (localBuild : Bool) : Loop → Nat → Loop
  | .trying fx, attempt =>
    match attemptAt attempt with
    | .ok s => .connected s fx
    | .error e =>
      if caught e then
        if attempt = 0 then
          .trying (fx ++ [.system (probeCmd localBuild ++ " lsp start 2>/dev/null"), .sleep 3])
        else if attempt < 2 then .trying (fx ++ [.sleep 1])
        else .raised e fx
      else .raised e fx
  | done, _ => done

def connectLoop (attemptAt : Nat → Except PyError Socket) (localBuild : Bool) : Loop :=
  (List.range 3).foldl (connectStep attemptAt localBuild) (.trying [])

def connect (lib : JsonLib) (attemptAt : Nat → Except PyError Socket) (localBuild : Bool)
    (clientId : String) : List Effect × Except PyError (EStateM.Result PyError Socket String) :=
  match connectLoop attemptAt localBuild with
  | .connected s fx => (fx, .ok (handshake lib clientId s))
  | .raised e fx => (fx, .error e)
  | .trying fx => (fx, .error (.exception "unreachable: range(3) ends in break or raise"))

def startEffects (localBuild : Bool) : List Effect :=
  [.system (probeCmd localBuild ++ " lsp start 2>/dev/null"), .sleep 3, .sleep 1]

def effectsBefore (localBuild : Bool) (i : Nat) : List Effect :=
  (startEffects localBuild).take (if i = 0 then 0 else i + 1)

section Loop

variable (attemptAt : Nat → Except PyError Socket) (localBuild : Bool)

def RefusedBefore (i : Nat) : Prop := ∀ j < i, ∃ e, attemptAt j = .error e ∧ caught e = true

def LoopInv (k : Nat) : Loop → Prop
  | .trying fx => k ≤ 2 ∧ fx = effectsBefore localBuild k ∧ RefusedBefore attemptAt k
  | .connected s fx => ∃ i < k, fx = effectsBefore localBuild i ∧ RefusedBefore attemptAt i ∧
      attemptAt i = .ok s
  | .raised e fx => ∃ i < k, fx = effectsBefore localBuild i ∧ RefusedBefore attemptAt i ∧
      attemptAt i = .error e ∧ (caught e = true → i = 2)

theorem refusedBefore_succ {k : Nat} {e : PyError} (h : RefusedBefore attemptAt k)
    (he : attemptAt k = .error e) (hc : caught e = true) : RefusedBefore attemptAt (k + 1) := by
  intro j hj
  rcases Nat.lt_succ_iff_lt_or_eq.mp hj with hj | rfl
  · exact h j hj
  · exact ⟨e, he, hc⟩

theorem loopInv_step {k : Nat} (hk : k < 3) {st : Loop} (h : LoopInv attemptAt localBuild k st) :
    LoopInv attemptAt localBuild (k + 1) (connectStep attemptAt localBuild st k) := by
  cases st with
  | connected s fx =>
    obtain ⟨i, hi, rest⟩ := h
    exact ⟨i, Nat.lt_succ_of_lt hi, rest⟩
  | raised e fx =>
    obtain ⟨i, hi, rest⟩ := h
    exact ⟨i, Nat.lt_succ_of_lt hi, rest⟩
  | trying fx =>
    obtain ⟨hk2, rfl, hr⟩ := h
    rcases hat : attemptAt k with e | s
    · simp only [connectStep, hat]
      by_cases hc : caught e = true
      · rw [if_pos hc]
        have hr' := refusedBefore_succ attemptAt hr hat hc
        match k, hk with
        | 0, _ => exact ⟨by decide, rfl, hr'⟩
        | 1, _ => exact ⟨le_refl 2, rfl, hr'⟩
        | 2, _ => exact ⟨2, Nat.lt_succ_self 2, rfl, hr, hat, fun _ => rfl⟩
      · rw [if_neg hc]
        exact ⟨k, Nat.lt_succ_self k, rfl, hr, hat, fun h => absurd h hc⟩
    · simp only [connectStep, hat]
      exact ⟨k, Nat.lt_succ_self k, rfl, hr, hat⟩

theorem loopInv_range {k : Nat} (hk : k ≤ 3) :
    LoopInv attemptAt localBuild k ((List.range k).foldl (connectStep attemptAt localBuild) (.trying [])) := by
  induction k with
  | zero => exact ⟨Nat.zero_le 2, rfl, fun j hj => absurd hj (Nat.not_lt_zero j)⟩
  | succ k ih =>
    rw [List.range_succ, List.foldl_append, List.foldl_cons, List.foldl_nil]
    exact loopInv_step attemptAt localBuild (by omega) (ih (by omega))

theorem connectLoop_connected {s : Socket} {fx : List Effect}
    (h : connectLoop attemptAt localBuild = .connected s fx) :
    ∃ i < 3, fx = effectsBefore localBuild i ∧ RefusedBefore attemptAt i ∧ attemptAt i = .ok s := by
  have hinv : LoopInv attemptAt localBuild 3 (connectLoop attemptAt localBuild) :=
    loopInv_range attemptAt localBuild (le_refl 3)
  rw [h] at hinv
  exact hinv

theorem connectLoop_of_ok {i : Nat} {s : Socket} (hi : i < 3) (hr : RefusedBefore attemptAt i)
    (hs : attemptAt i = .ok s) :
    connectLoop attemptAt localBuild = .connected s (effectsBefore localBuild i) := by
  have hinv : LoopInv attemptAt localBuild 3 (connectLoop attemptAt localBuild) :=
    loopInv_range attemptAt localBuild (le_refl 3)
  generalize connectLoop attemptAt localBuild = l at hinv ⊢
  have hne : ∀ {j e}, j < i → attemptAt j = .error e → caught e = true := fun hj he => by
    obtain ⟨e', he', hc⟩ := hr _ hj
    rw [he] at he'
    cases he'
    exact hc
  cases l with
  | trying fx => exact absurd hinv.1 (by decide)
  | connected s' fx =>
    obtain ⟨i', -, rfl, hr', hs'⟩ := hinv
    rcases Nat.lt_trichotomy i' i with hlt | rfl | hgt
    · obtain ⟨e, he, -⟩ := hr _ hlt
      rw [he] at hs'
      cases hs'
    · rw [hs] at hs'
      cases hs'
      rfl
    · obtain ⟨e, he, -⟩ := hr' _ hgt
      rw [he] at hs
      cases hs
  | raised e fx =>
    obtain ⟨i', -, -, hr', he, hc⟩ := hinv
    rcases Nat.lt_trichotomy i' i with hlt | rfl | hgt
    · have := hc (hne hlt he)
      omega
    · rw [hs] at he
      cases he
    · obtain ⟨e', he', -⟩ := hr' _ hgt
      rw [he'] at hs
      cases hs

theorem connect_outcome (lib : JsonLib) (clientId : String) :
    ∃ i < 3, RefusedBefore attemptAt i ∧
      (connect lib attemptAt localBuild clientId).1 = effectsBefore localBuild i ∧
      ((∃ s, attemptAt i = .ok s ∧ (connect lib attemptAt localBuild clientId).2 = .ok (handshake lib clientId s)) ∨
        ∃ e, attemptAt i = .error e ∧ (caught e = true → i = 2) ∧
          (connect lib attemptAt localBuild clientId).2 = .error e) := by
  have h : LoopInv attemptAt localBuild 3 (connectLoop attemptAt localBuild) :=
    loopInv_range attemptAt localBuild (le_refl 3)
  unfold connect
  generalize connectLoop attemptAt localBuild = l at h ⊢
  cases l with
  | trying fx => exact absurd h.1 (by decide)
  | connected s fx =>
    obtain ⟨i, hi, rfl, hr, hs⟩ := h
    exact ⟨i, hi, hr, rfl, .inl ⟨s, hs, rfl⟩⟩
  | raised e fx =>
    obtain ⟨i, hi, rfl, hr, he, hc⟩ := h
    exact ⟨i, hi, hr, rfl, .inr ⟨e, he, hc, rfl⟩⟩

end Loop

end ProbeLsp.LspDaemonClient
