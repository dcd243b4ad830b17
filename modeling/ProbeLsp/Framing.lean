import ProbeLsp.RecvExact

namespace ProbeLsp.LspDaemonClient

/-- Lines 83–87 of `_send_request`: the bytes handed to `sendall` for an encoded request. -/
def buildFrame (encoded : Bytes) : Except PyError Bytes := do
  let length ← structPack encoded.length
  pure (length ++ encoded)

def frame (p : Bytes) : Bytes := be32 p.length ++ p

/-- Lines 89–94 of `_send_request`: the response frame read. -/
def recvResponse : Client Bytes := do
  let lengthBytes ← recvExact 4
  let responseLength ← fromExcept (structUnpack lengthBytes)
  recvExact responseLength

def recvFrames : Nat → Client (List Bytes)
  | 0 => pure []
  | k + 1 => do
    let p ← recvResponse
    let ps ← recvFrames k
    pure (p :: ps)

@[simp] theorem frame_length (p : Bytes) : (frame p).length = 4 + p.length := by
  simp only [frame, List.length_append, be32_length]

theorem buildFrame_of_lt {p : Bytes} (h : p.length < 2 ^ 32) : buildFrame p = .ok (frame p) := by
  simp only [buildFrame, structPack_of_lt h]
  rfl

theorem buildFrame_of_ge {p : Bytes} (h : 2 ^ 32 ≤ p.length) :
    buildFrame p = .error (.structError "'I' format requires 0 <= number <= 4294967295") := by
  simp only [buildFrame, structPack_of_ge h]
  rfl

theorem consume_frame {s : Socket} {p rest : Bytes} (j : Nat) (hs : s.inbox = frame p ++ rest) :
    s.consume (4 + p.length) j = { s with inbox := rest, calls := s.calls + j } := by
  simp only [Socket.consume, hs, List.drop_left' (frame_length p)]

theorem recvResponse_keepsSent : KeepsSent recvResponse :=
  keepsSent_bind (recvExact_keepsSent 4) fun _ =>
    keepsSent_bind (keepsSent_fromExcept _) fun n => recvExact_keepsSent n

theorem recvResponse_frame {p rest : Bytes} {s : Socket} (hp : p.length < 2 ^ 32)
    (hs : s.inbox = frame p ++ rest) :
    ∃ j, recvResponse s = .ok p { s with inbox := rest, calls := s.calls + j } := by
  have hhead : s.inbox.take 4 = be32 p.length := by
    rw [hs, frame, List.append_assoc, List.take_left' (be32_length _)]
  have htail : s.inbox.drop 4 = p ++ rest := by
    rw [hs, frame, List.append_assoc, List.drop_left' (be32_length _)]
  obtain ⟨j₁, -, h₁⟩ := recvExact_of_le
    (show 4 ≤ s.inbox.length by simp only [hs, List.length_append, frame_length]; omega)
  obtain ⟨j₂, -, h₂⟩ := recvExact_of_le (show p.length ≤ (s.consume 4 j₁).inbox.length by
    rw [Socket.consume_inbox, htail, List.length_append]; omega)
  refine ⟨j₁ + j₂, ?_⟩
  rw [recvResponse, bind_ok h₁, hhead, structUnpack_be32 hp, bind_ok (fromExcept_ok _), h₂,
    Socket.consume_inbox, htail, List.take_left' rfl, Socket.consume_consume, consume_frame _ hs]

theorem recvFrames_prefix (ps : List Bytes) (hps : ∀ p ∈ ps, p.length < 2 ^ 32) (rest : Bytes)
    (s : Socket) (hs : s.inbox = (ps.map frame).flatten ++ rest) (i : Nat) (hi : i ≤ ps.length) :
    ∃ j, recvFrames i s =
      .ok (ps.take i) { s with inbox := ((ps.drop i).map frame).flatten ++ rest, calls := s.calls + j } := by
  induction ps generalizing s i with
  | nil =>
    obtain rfl : i = 0 := Nat.le_zero.mp hi
    exact ⟨0, by rw [List.drop_zero, ← hs]; rfl⟩
  | cons p ps ih =>
    cases i with
    | zero => exact ⟨0, by rw [List.drop_zero, ← hs]; rfl⟩
    | succ i =>
      obtain ⟨j₁, h₁⟩ := recvResponse_frame (hps p (List.mem_cons_self _ _))
        (by rw [hs, List.map_cons, List.flatten_cons, List.append_assoc])
      obtain ⟨j₂, h₂⟩ := ih (fun q hq => hps q (List.mem_cons_of_mem _ hq))
        { s with inbox := (ps.map frame).flatten ++ rest, calls := s.calls + j₁ } rfl i
        (Nat.le_of_succ_le_succ hi)
      refine ⟨j₁ + j₂, ?_⟩
      rw [recvFrames, bind_ok h₁, bind_ok h₂]
      simp only [pure_apply, List.take_succ_cons, List.drop_succ_cons, Nat.add_assoc]

theorem recvFrames_concat (ps : List Bytes) (hps : ∀ p ∈ ps, p.length < 2 ^ 32) (rest : Bytes)
    (s : Socket) (hs : s.inbox = (ps.map frame).flatten ++ rest) :
    (∀ p ∈ ps, buildFrame p = .ok (frame p)) ∧
    ∀ i ≤ ps.length, ∃ j, recvFrames i s =
      .ok (ps.take i) { s with inbox := ((ps.drop i).map frame).flatten ++ rest, calls := s.calls + j } :=
  ⟨fun p hp => buildFrame_of_lt (hps p hp), recvFrames_prefix ps hps rest s hs⟩

theorem recvFrames_concat_two_frames :
    (∀ p ∈ [[7], [8, 9]], (p : Bytes).length < 2 ^ 32) ∧
    ((∀ p ∈ [[7], [8, 9]], buildFrame p = .ok (frame p)) ∧
      ∀ i ≤ 2, ∃ j, recvFrames i ⟨frame [7] ++ frame [8, 9] ++ [1], fun _ => 1, 0, []⟩ =
        .ok ([[7], [8, 9]].take i)
          ⟨(([[7], [8, 9]].drop i).map frame).flatten ++ [1], fun _ => 1, 0 + j, []⟩) :=
  ⟨by decide, recvFrames_concat [[7], [8, 9]] (by decide) [1]
    ⟨frame [7] ++ frame [8, 9] ++ [1], fun _ => 1, 0, []⟩ rfl⟩

def Truncated (inbox : Bytes) : Prop :=
  inbox.length < 4 ∨ ∃ head tail n, inbox = head ++ tail ∧ structUnpack head = .ok n ∧ tail.length < n

theorem recvResponse_truncated {s : Socket} (h : Truncated s.inbox) :
    ∃ s', recvResponse s = .error socketClosed s' := by
  rcases h with h | ⟨head, tail, n, hs, hn, ht⟩
  · obtain ⟨j, -, h₁⟩ := recvExact_of_lt h
    exact ⟨_, bind_error h₁⟩
  · obtain ⟨rfl, -⟩ := structUnpack_ok hn
    have hhead : s.inbox.take 4 = be32 n := by rw [hs, List.take_left' (be32_length n)]
    have htail : s.inbox.drop 4 = tail := by rw [hs, List.drop_left' (be32_length n)]
    obtain ⟨j₁, -, h₁⟩ := recvExact_of_le
      (show 4 ≤ s.inbox.length by rw [hs, List.length_append, be32_length]; omega)
    obtain ⟨j₂, -, h₂⟩ := recvExact_of_lt
      (show (s.consume 4 j₁).inbox.length < n by rw [Socket.consume_inbox, htail]; exact ht)
    exact ⟨_, by rw [recvResponse, bind_ok h₁, hhead, hn, bind_ok (fromExcept_ok _), h₂]⟩

theorem recvResponse_eq_ok {s s' : Socket} {p : Bytes} (h : recvResponse s = .ok p s') :
    p.length < 2 ^ 32 ∧ s.inbox = frame p ++ s'.inbox ∧ ∃ j, s' = s.consume (4 + p.length) j := by
  obtain ⟨head, s₁, h₁, h⟩ := bind_eq_ok h
  obtain ⟨n, s₂, h₂, h₃⟩ := bind_eq_ok h
  obtain ⟨hu, rfl⟩ := fromExcept_eq_ok h₂
  obtain ⟨-, rfl, j₁, -, rfl⟩ := recvExact_eq_ok h₁
  obtain ⟨hn, rfl, j₂, -, rfl⟩ := recvExact_eq_ok h₃
  obtain ⟨hb, hlt⟩ := structUnpack_ok hu
  have hlen : ((s.consume 4 j₁).inbox.take n).length = n := List.length_take_of_le hn
  refine ⟨by rw [hlen]; exact hlt, ?_, j₁ + j₂, by rw [hlen, Socket.consume_consume]⟩
  rw [frame, hlen, ← hb, List.append_assoc]
  simp only [Socket.consume_inbox, List.take_append_drop]

end ProbeLsp.LspDaemonClient
