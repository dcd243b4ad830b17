import ProbeLsp.Framing

namespace ProbeLsp.LspDaemonClient

/-- A value `json.dumps` takes or `json.loads` returns; an `obj` lists a dict's keys once each,
in order. -/
inductive Json where
  | null
  | bool (b : Bool)
  | num (n : Int)
  | str (s : PyStr)
  | arr (xs : List Json)
  | obj (fields : List (String × Json))
  deriving Inhabited

/-- The standard-library calls the client makes around its framing:
`json.dumps(request).encode('utf-8')`, `json.loads(response_bytes.decode('utf-8'))`, and the
`str()` an f-string applies to a decoded value. -/
structure JsonLib where
  dumps : Json → Bytes
  loads : Bytes → Except PyError Json
  repr : Json → String

def sendRequest (lib : JsonLib) (request : Json) : Client Json := do
  let encoded := lib.dumps request
  let message ← fromExcept (buildFrame encoded)
  sendall message
  let responseBytes ← recvResponse
  fromExcept (lib.loads responseBytes)

section Spec

variable (lib : JsonLib) (request : Json) (s : Socket)

theorem sendRequest_of_lt (h : (lib.dumps request).length < 2 ^ 32) :
    sendRequest lib request s =
      (recvResponse >>= fun r => fromExcept (lib.loads r)) (s.sendall (frame (lib.dumps request))) := by
  rw [sendRequest, bind_ok (by rw [buildFrame_of_lt h]; exact fromExcept_ok _), bind_ok (sendall_apply _)]

theorem sendRequest_of_ge (h : 2 ^ 32 ≤ (lib.dumps request).length) :
    sendRequest lib request s =
      .error (.structError "'I' format requires 0 <= number <= 4294967295") s := by
  rw [sendRequest, bind_error (by rw [buildFrame_of_ge h]; exact fromExcept_error _)]

theorem sendRequest_sent (h : (lib.dumps request).length < 2 ^ 32) :
    (resultState (sendRequest lib request s)).sent = s.sent ++ frame (lib.dumps request) := by
  rw [sendRequest_of_lt lib request s h,
    keepsSent_bind recvResponse_keepsSent (fun r => keepsSent_fromExcept (lib.loads r))]
  rfl

theorem sendRequest_eq_ok {v : Json} {s' : Socket} (h : sendRequest lib request s = .ok v s') :
    (lib.dumps request).length < 2 ^ 32 ∧ s'.sent = s.sent ++ frame (lib.dumps request) ∧
      ∃ p, s.inbox = frame p ++ s'.inbox ∧ lib.loads p = .ok v := by
  by_cases hl : (lib.dumps request).length < 2 ^ 32
  · rw [sendRequest_of_lt lib request s hl] at h
    obtain ⟨p, s₁, h₁, h₂⟩ := bind_eq_ok h
    obtain ⟨hv, rfl⟩ := fromExcept_eq_ok h₂
    obtain ⟨-, hs, j, rfl⟩ := recvResponse_eq_ok h₁
    exact ⟨hl, rfl, p, hs, hv⟩
  · rw [sendRequest_of_ge lib request s (Nat.not_lt.mp hl)] at h
    cases h

theorem sendRequest_frame {p rest : Bytes} {v : Json} (hr : (lib.dumps request).length < 2 ^ 32)
    (hp : p.length < 2 ^ 32) (hs : s.inbox = frame p ++ rest) (hv : lib.loads p = .ok v) :
    ∃ j, sendRequest lib request s = .ok v
      { s with inbox := rest, calls := s.calls + j, sent := s.sent ++ frame (lib.dumps request) } := by
  obtain ⟨j, h⟩ := recvResponse_frame hp (show (s.sendall (frame (lib.dumps request))).inbox = _ from hs)
  exact ⟨j, by rw [sendRequest_of_lt lib request s hr, bind_ok h, hv]; rfl⟩

end Spec

theorem sendRequest_whole_frame (s : Socket) :
    (Truncated s.inbox →
      (∃ s', recvResponse s = .error socketClosed s') ∧
      ∀ lib request, (lib.dumps request).length < 2 ^ 32 →
        ∃ s', sendRequest lib request s = .error socketClosed s') ∧
    (∀ p s', recvResponse s = .ok p s' → s.inbox = frame p ++ s'.inbox) ∧
    (∀ lib request v s', sendRequest lib request s = .ok v s' →
      ∃ p, s.inbox = frame p ++ s'.inbox ∧ lib.loads p = .ok v) ∧
    (∀ n (data : Bytes), data.length < n → (s.recv (n - data.length)).1 ≠ [] →
      n - (data ++ (s.recv (n - data.length)).1).length < n - data.length) ∧
    ∀ n, (resultState (recvExact n s)).calls ≤ s.calls + n := by
  refine ⟨fun ht => ⟨recvResponse_truncated ht, fun lib request hl => ?_⟩,
    fun p s' h => (recvResponse_eq_ok h).2.1, fun lib request v s' h => (sendRequest_eq_ok lib request s h).2.2,
    fun n data hd hc => recvLoop_measure_lt hd hc, fun n => recvExact_calls_le⟩
  obtain ⟨s', h⟩ := recvResponse_truncated (show Truncated (s.sendall (frame (lib.dumps request))).inbox from ht)
  exact ⟨s', by rw [sendRequest_of_lt lib request s hl, bind_error h]⟩

theorem sendRequest_whole_frame_cut :
    Truncated [0, 0, 0, 5, 1, 2] ∧
      ∃ s', recvResponse ⟨[0, 0, 0, 5, 1, 2], fun _ => 1, 0, []⟩ = .error socketClosed s' :=
  have ht : Truncated [0, 0, 0, 5, 1, 2] := .inr ⟨[0, 0, 0, 5], [1, 2], 5, rfl, rfl, by decide⟩
  ⟨ht, ((sendRequest_whole_frame ⟨[0, 0, 0, 5, 1, 2], fun _ => 1, 0, []⟩).1 ht).1⟩

def sendRequests (lib : JsonLib) : List Json → Client (List Json)
  | [] => pure []
  | r :: rs => do
    let v ← sendRequest lib r
    let vs ← sendRequests lib rs
    pure (v :: vs)

theorem sendRequests_session (lib : JsonLib) (reqs : List Json)
    (hreq : ∀ r ∈ reqs, (lib.dumps r).length < 2 ^ 32) (ps : List Bytes)
    (hps : ∀ p ∈ ps, p.length < 2 ^ 32) (vs : List Json) (hdec : ps.mapM lib.loads = .ok vs)
    (hlen : ps.length = reqs.length) (rest : Bytes) (s : Socket)
    (hs : s.inbox = (ps.map frame).flatten ++ rest) :
    ∃ j, sendRequests lib reqs s = .ok vs
      { s with inbox := rest, calls := s.calls + j,
               sent := s.sent ++ (reqs.map fun r => frame (lib.dumps r)).flatten } := by
  induction reqs generalizing ps vs s with
  | nil =>
    obtain rfl := List.length_eq_zero.mp hlen
    cases hdec
    refine ⟨0, ?_⟩
    simp only [List.map_nil, List.flatten_nil, List.nil_append, List.append_nil] at hs ⊢
    rw [← hs]
    rfl
  | cons r rs ih =>
    obtain ⟨p, ps, rfl⟩ := List.exists_cons_of_length_eq_add_one hlen
    rw [List.mapM_cons] at hdec
    cases hv : lib.loads p with
    | error e => rw [hv] at hdec; cases hdec
    | ok v =>
      cases hvs : ps.mapM lib.loads with
      | error e => rw [hv, hvs] at hdec; cases hdec
      | ok vs' =>
        rw [hv, hvs] at hdec
        cases hdec
        obtain ⟨j₁, h₁⟩ := sendRequest_frame lib r s (hreq r (List.mem_cons_self _ _))
          (hps p (List.mem_cons_self _ _)) (by rw [hs, List.map_cons, List.flatten_cons, List.append_assoc]) hv
        obtain ⟨j₂, h₂⟩ := ih (fun q hq => hreq q (List.mem_cons_of_mem _ hq)) ps
          (fun q hq => hps q (List.mem_cons_of_mem _ hq)) vs' hvs (Nat.succ.inj hlen)
          ⟨(ps.map frame).flatten ++ rest, s.sizes, s.calls + j₁, s.sent ++ frame (lib.dumps r)⟩ rfl
        refine ⟨j₁ + j₂, ?_⟩
        rw [sendRequests, bind_ok h₁, bind_ok h₂]
        simp only [pure_apply, List.map_cons, List.flatten_cons, List.append_assoc, Nat.add_assoc]

def byteLib : JsonLib where
  dumps
    | .num n => [UInt8.ofNat n.toNat]
    | _ => [0]
  loads p := .ok (.num (p.headD 0).toNat)
  repr _ := ""

theorem sendRequests_session_two :
    (∀ r ∈ [Json.num 1, .num 2], (byteLib.dumps r).length < 2 ^ 32) ∧ (∀ p ∈ [[5], [6]], (p : Bytes).length < 2 ^ 32) ∧
      [[5], [6]].mapM byteLib.loads = .ok [.num 5, .num 6] ∧ [[5], [6]].length = [Json.num 1, .num 2].length ∧
      ∃ j, sendRequests byteLib [.num 1, .num 2] ⟨([[5], [6]].map frame).flatten ++ [7], fun _ => 1, 0, []⟩ =
        .ok [.num 5, .num 6]
          ⟨[7], fun _ => 1, 0 + j, [] ++ ([Json.num 1, .num 2].map fun r => frame (byteLib.dumps r)).flatten⟩ :=
  ⟨by decide, by decide, rfl, rfl,
    sendRequests_session byteLib [.num 1, .num 2] (by decide) [[5], [6]] (by decide) [.num 5, .num 6] rfl rfl [7]
      ⟨([[5], [6]].map frame).flatten ++ [7], fun _ => 1, 0, []⟩ rfl⟩

end ProbeLsp.LspDaemonClient
