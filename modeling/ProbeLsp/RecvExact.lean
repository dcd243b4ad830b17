import ProbeLsp.Wire

namespace ProbeLsp.LspDaemonClient

def socketClosed : PyError := .connectionError "Socket closed"

/-- The `while len(data) < n` loop of `_recv_exact`, from the bytes `data` read so far. -/
def recvLoop (n : Nat) (data : Bytes) (s : Socket) : EStateM.Result PyError Socket Bytes :=
  if data.length < n then
    match s.recv (n - data.length) with
    | ([], s') => .error socketClosed s'
    | (c :: cs, s') => recvLoop n (data ++ c :: cs) s'
  else .ok data s
termination_by n - data.length
decreasing_by simp only [List.length_append, List.length_cons]; omega

def recvExact (n : Nat) : Client Bytes := recvLoop n []

theorem recvLoop_measure_lt {n : Nat} {data : Bytes} {s : Socket} (hd : data.length < n)
    (hc : (s.recv (n - data.length)).1 ≠ []) :
    n - (data ++ (s.recv (n - data.length)).1).length < n - data.length := by
  have := List.length_pos.mpr hc
  simp only [List.length_append]
  omega

theorem recvLoop_spec (n : Nat) (data : Bytes) (s : Socket) (h : data.length ≤ n) :
    ∃ j ≤ n - data.length, recvLoop n data s =
      if n - data.length ≤ s.inbox.length then
        .ok (data ++ s.inbox.take (n - data.length)) (s.consume (n - data.length) j)
      else .error socketClosed (s.consume s.inbox.length j) := by
  induction data, s using recvLoop.induct n with
  | case1 data s hd s' hr =>
    have hnil : s.inbox = [] :=
      (s.recv_eq_nil_iff (Nat.sub_pos_of_lt hd)).mp (congrArg Prod.fst hr)
    have hs' : s' = s.consume s.inbox.length 1 :=
      (congrArg Prod.snd hr).symm.trans (s.consume_eq_of_le 1 (by simp only [hnil, List.length_nil, Nat.zero_le]))
    refine ⟨1, by omega, ?_⟩
    rw [recvLoop, if_pos hd]
    simp only [hr, hs', if_neg (by simp only [hnil, List.length_nil]; omega : ¬n - data.length ≤ s.inbox.length)]
  | case2 data s hd c cs s' hr ih =>
    obtain ⟨k, hk, hkn, hkl, hchunk, rfl⟩ := Socket.recv_cons hr
    have hlen : (c :: cs).length = k := by rw [hchunk, List.length_take, Nat.min_eq_left hkl]
    obtain ⟨j, hj, heq⟩ := ih (by rw [List.length_append, hlen]; omega)
    clear ih
    rw [List.length_append, hlen] at hj heq
    refine ⟨1 + j, by omega, ?_⟩
    rw [recvLoop, if_pos hd]
    simp only [hr, heq, Socket.consume_inbox, List.length_drop, Socket.consume_consume]
    by_cases hc : n - data.length ≤ s.inbox.length
    · have he : k + (n - (data.length + k)) = n - data.length := by omega
      rw [if_pos (by omega), if_pos hc, List.append_assoc, hchunk, ← List.take_add, he]
    · rw [if_neg (by omega), if_neg hc, Socket.consume_eq_of_le _ (by omega)]
  | case3 data s hd =>
    have he : n - data.length = 0 := by omega
    refine ⟨0, Nat.zero_le _, ?_⟩
    rw [recvLoop, if_neg hd, he, if_pos (Nat.zero_le _)]
    simp only [List.take_zero, List.append_nil, Socket.consume_zero]

section RecvExact

variable {n : Nat} {s : Socket}

theorem recvExact_of_le (h : n ≤ s.inbox.length) :
    ∃ j ≤ n, recvExact n s = .ok (s.inbox.take n) (s.consume n j) := by
  obtain ⟨j, hj, he⟩ := recvLoop_spec n [] s (Nat.zero_le n)
  rw [List.length_nil, Nat.sub_zero, if_pos h] at he
  exact ⟨j, hj, he⟩

theorem recvExact_of_lt (h : s.inbox.length < n) :
    ∃ j ≤ n, recvExact n s = .error socketClosed (s.consume s.inbox.length j) := by
  obtain ⟨j, hj, he⟩ := recvLoop_spec n [] s (Nat.zero_le n)
  rw [List.length_nil, Nat.sub_zero, if_neg (Nat.not_le.mpr h)] at he
  exact ⟨j, hj, he⟩

theorem recvExact_eq_ok {d : Bytes} {s' : Socket} (h : recvExact n s = .ok d s') :
    n ≤ s.inbox.length ∧ d = s.inbox.take n ∧ ∃ j ≤ n, s' = s.consume n j := by
  by_cases hn : n ≤ s.inbox.length
  · obtain ⟨j, hj, he⟩ := recvExact_of_le hn
    rw [he] at h
    cases h
    exact ⟨hn, rfl, j, hj, rfl⟩
  · obtain ⟨j, -, he⟩ := recvExact_of_lt (Nat.not_le.mp hn)
    rw [he] at h
    cases h

theorem recvExact_calls_le : (resultState (recvExact n s)).calls ≤ s.calls + n := by
  by_cases hn : n ≤ s.inbox.length
  · obtain ⟨j, hj, he⟩ := recvExact_of_le hn
    simp only [he, resultState, Socket.consume_calls]
    omega
  · obtain ⟨j, hj, he⟩ := recvExact_of_lt (Nat.not_le.mp hn)
    simp only [he, resultState, Socket.consume_calls]
    omega

theorem recvExact_keepsSent (n : Nat) : KeepsSent (recvExact n) := by
  intro s
  by_cases hn : n ≤ s.inbox.length
  · obtain ⟨j, -, he⟩ := recvExact_of_le hn
    rw [he]
    rfl
  · obtain ⟨j, -, he⟩ := recvExact_of_lt (Nat.not_le.mp hn)
    rw [he]
    rfl

end RecvExact

end ProbeLsp.LspDaemonClient
