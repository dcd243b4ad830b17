import ProbeLsp.Connect
import ProbeLsp.PyText

/-!
`main()` of the client example: `connect`, then `ping`, `get_status`, `get_logs(5)` and, when
`lsp-test-project/src/main.rs` exists, `get_call_hierarchy` on it, printing each reply. The
first exception, raised by a call or by the printing, ends the `try` block, and `finally`
closes the connection. The printing is modelled as whether it raises: a missing key or a value
of the wrong type, or a printed string that holds a lone surrogate, which a UTF-8 `stdout` cannot
encode.
-/

namespace ProbeLsp.LspDaemonClient

/-- Lines 193–204: the five status fields, then each pool's `language` and `status`. -/
def statusPrints (status : Json) : Bool :=
  ["uptime_secs", "total_requests", "active_connections", "version", "git_hash"].all
      (fun key => (status.getItem key).any Json.printable) &&
    match status.getItem "pools" with
    | none => false
    | some pools =>
      !pools.truthy ||
        match pools.items with
        | none => false
        | some ps => ps.all fun pool =>
          (pool.getItem "language").any Json.printable && (pool.getItem "status").any Json.printable

/-- Lines 209–212: each entry's `level` and `message[:80]`. -/
def logsPrint (logs : Json) : Bool :=
  match logs.items with
  | none => false
  | some entries =>
    entries.all fun entry =>
      (entry.getItem "level").any Json.printable && ((entry.getItem "message").bind (·.slice 80)).any Json.printable

/-- `s.split('/')[-1]`. -/
def lastPart (s : PyStr) : PyStr := ⟨(s.codes.reverse.takeWhile (· != '/'.toNat)).reverse⟩

/-- Lines 221–234: the error, or `len` of both call lists and, for the first three callers,
`call.get('name', 'unknown')` and `call.get('uri', '').split('/')[-1]`. -/
def callHierarchyPrints (result : Json) : Bool :=
  match result.contains "error" with
  | none => false
  | some true => (result.getItem "error").any Json.printable
  | some false =>
    match result.get "incoming_calls" (.arr []), result.get "outgoing_calls" (.arr []) with
    | .ok incoming, .ok outgoing =>
      incoming.len.isSome && outgoing.len.isSome &&
        (!incoming.truthy ||
          match (incoming.slice 3).bind Json.items with
          | none => false
          | some calls =>
            calls.all fun call =>
              match call.get "name" (.str "unknown"), call.get "uri" (.str "") with
              | .ok name, .ok (.str uri) => name.printable && (Json.str (lastPart uri)).printable
              | _, _ => false)
    | _, _ => false

def testFile : String := "lsp-test-project/src/main.rs"

/-- The `uuid4` values of `main`'s requests. -/
structure Ids where
  client : String
  ping : String
  status : String
  logs : String
  callHierarchy : String

/-- A call of `main` after `connect`: its request, and the method's reading of the reply
followed by the printing (`false` when the printing raises). -/
structure Call where
  req : Json
  read : Json → Except PyError Bool

def Call.run (lib : JsonLib) (c : Call) : Client Bool := exchange lib c.req c.read

def mainCalls (lib : JsonLib) (ids : Ids) (testFileExists : Bool) : List Call :=
  [⟨request "Ping" ids.ping [], fun r => (pingReply r).map fun _ => true⟩,
    ⟨request "Status" ids.status [], fun r => (statusReply lib r).map statusPrints⟩,
    ⟨request "GetLogs" ids.logs [("lines", .num 5)], fun r => (logsReply r).map logsPrint⟩] ++
  if testFileExists then
    [⟨callHierarchyRequest ids.callHierarchy testFile 66 4,
      fun r => (callHierarchyReply lib r).map callHierarchyPrints⟩]
  else []

theorem mainCalls_run (lib : JsonLib) (ids : Ids) (testFileExists : Bool) :
    (mainCalls lib ids testFileExists).map (Call.run lib) =
      [ping lib ids.ping >>= fun _ => pure true,
        getStatus lib ids.status >>= fun status => pure (statusPrints status),
        getLogs lib ids.logs 5 >>= fun logs => pure (logsPrint logs)] ++
      if testFileExists then
        [getCallHierarchy lib ids.callHierarchy testFile 66 4 >>= fun r => pure (callHierarchyPrints r)]
      else [] := by
  cases testFileExists <;>
    simp only [mainCalls, Call.run, ping, getStatus, getLogs, getCallHierarchy, exchange_map,
      List.map_cons, List.map_nil, List.map_append, Bool.false_eq_true, ↓reduceIte]

def runCalls (lib : JsonLib) : List Call → Socket → Bool × Socket
  | [], s => (true, s)
  | c :: cs, s =>
    match c.run lib s with
    | .ok true s' => runCalls lib cs s'
    | .ok false s' => (false, s')
    | .error _ s' => (false, s')

/-- What a run of `main` did: the effects of `connect`, the connection it opened as `main`
leaves it to `close()`, and whether the `try` block ran to its end. -/
structure MainRun where
  effects : List Effect
  connection : Option Socket
  completed : Bool

def main (lib : JsonLib) (attemptAt : Nat → Except PyError Socket) (localBuild : Bool) (ids : Ids)
    (testFileExists : Bool) : MainRun :=
  match connect lib attemptAt localBuild ids.client with
  | (fx, .error _) => ⟨fx, none, false⟩
  | (fx, .ok (.error _ s)) => ⟨fx, some s, false⟩
  | (fx, .ok (.ok _ s)) =>
    ⟨fx, some (runCalls lib (mainCalls lib ids testFileExists) s).2,
      (runCalls lib (mainCalls lib ids testFileExists) s).1⟩

def mainRequests (lib : JsonLib) (ids : Ids) (testFileExists : Bool) : List Json :=
  connectRequest ids.client :: (mainCalls lib ids testFileExists).map (·.req)

section Transcript

variable (lib : JsonLib)

def SentPrefix (reqs : List Json) (s₀ s : Socket) (done : Bool) : Prop :=
  ∃ k ≤ reqs.length, s.sent = s₀.sent ++ ((reqs.take k).map fun r => frame (lib.dumps r)).flatten ∧
    (done = true → k = reqs.length)

theorem sentPrefix_nil (s : Socket) : SentPrefix lib [] s s true :=
  ⟨0, le_refl 0, (List.append_nil _).symm, fun _ => rfl⟩

theorem sentPrefix_none {reqs : List Json} {s₀ s : Socket} (h : s.sent = s₀.sent) :
    SentPrefix lib reqs s₀ s false :=
  ⟨0, Nat.zero_le _, by rw [h, List.take_zero, List.map_nil, List.flatten_nil, List.append_nil],
    fun h => by cases h⟩

theorem sentPrefix_cons {r : Json} {reqs : List Json} {s₀ s₁ s : Socket} {done : Bool}
    (h : s₁.sent = s₀.sent ++ frame (lib.dumps r)) (hp : SentPrefix lib reqs s₁ s done) :
    SentPrefix lib (r :: reqs) s₀ s done := by
  obtain ⟨k, hk, hs, hd⟩ := hp
  refine ⟨k + 1, Nat.succ_le_succ hk, ?_, fun hdone => by rw [hd hdone, List.length_cons]⟩
  rw [hs, h, List.take_succ_cons, List.map_cons, List.flatten_cons, List.append_assoc]

theorem sentPrefix_one {r : Json} {reqs : List Json} {s₀ s : Socket}
    (h : s.sent = s₀.sent ++ frame (lib.dumps r)) : SentPrefix lib (r :: reqs) s₀ s false :=
  sentPrefix_cons lib h (sentPrefix_none lib rfl)

theorem runCalls_sent : ∀ (cs : List Call) (s : Socket),
    SentPrefix lib (cs.map (·.req)) s (runCalls lib cs s).2 (runCalls lib cs s).1
  | [], s => sentPrefix_nil lib s
  | c :: cs, s => by
    by_cases hl : (lib.dumps c.req).length < 2 ^ 32
    · have hsent : (resultState (c.run lib s)).sent = s.sent ++ frame (lib.dumps c.req) :=
        exchange_sent lib c.req c.read s hl
      rcases h : c.run lib s with ⟨_ | _, s'⟩ | ⟨e, s'⟩ <;> rw [h] at hsent <;> simp only [runCalls, h]
      · exact sentPrefix_one lib hsent
      · exact sentPrefix_cons lib hsent (runCalls_sent cs s')
      · exact sentPrefix_one lib hsent
    · have h : c.run lib s = .error (.structError "'I' format requires 0 <= number <= 4294967295") s :=
        exchange_of_ge lib c.req c.read s (Nat.not_lt.mp hl)
      simp only [runCalls, h]
      exact sentPrefix_none lib rfl

theorem handshake_sent (clientId : String) (s : Socket)
    (h : (lib.dumps (connectRequest clientId)).length < 2 ^ 32) :
    (resultState (handshake lib clientId s)).sent = s.sent ++ frame (lib.dumps (connectRequest clientId)) := by
  have hpure : ∀ _ : Unit, KeepsSent (pure clientId : Client String) := fun _ _ => rfl
  rw [handshake]
  exact (sent_bind hpure s).trans (exchange_sent lib _ _ s h)

theorem handshake_of_ge (clientId : String) (s : Socket)
    (h : 2 ^ 32 ≤ (lib.dumps (connectRequest clientId)).length) :
    handshake lib clientId s = .error (.structError "'I' format requires 0 <= number <= 4294967295") s := by
  rw [handshake, bind_error (exchange_of_ge lib _ _ s h)]

theorem main_of_connected {attemptAt : Nat → Except PyError Socket} {localBuild : Bool} {ids : Ids}
    {testFileExists : Bool} {s₀ : Socket} {fx : List Effect}
    (hl : connectLoop attemptAt localBuild = .connected s₀ fx) :
    ∃ s done, main lib attemptAt localBuild ids testFileExists = ⟨fx, some s, done⟩ ∧
      SentPrefix lib (mainRequests lib ids testFileExists) s₀ s done := by
  by_cases hc : (lib.dumps (connectRequest ids.client)).length < 2 ^ 32
  · have hsent := handshake_sent lib ids.client s₀ hc
    cases hh : handshake lib ids.client s₀ with
    | ok v s₁ =>
      rw [hh] at hsent
      exact ⟨_, _, by simp only [main, connect, hl, hh],
        sentPrefix_cons lib hsent (runCalls_sent lib _ s₁)⟩
    | error e s₁ =>
      rw [hh] at hsent
      exact ⟨s₁, false, by simp only [main, connect, hl, hh], sentPrefix_one lib hsent⟩
  · have hh := handshake_of_ge lib ids.client s₀ (Nat.not_lt.mp hc)
    exact ⟨s₀, false, by simp only [main, connect, hl, hh], sentPrefix_none lib rfl⟩

theorem main_transcript (attemptAt : Nat → Except PyError Socket) (localBuild : Bool) (ids : Ids)
    (testFileExists : Bool) :
    ((main lib attemptAt localBuild ids testFileExists).connection = none →
        (main lib attemptAt localBuild ids testFileExists).completed = false) ∧
      ∀ s, (main lib attemptAt localBuild ids testFileExists).connection = some s →
        ∃ i < 3, ∃ s₀, attemptAt i = .ok s₀ ∧ ∃ k ≤ (mainRequests lib ids testFileExists).length,
          s.sent = s₀.sent ++
            (((mainRequests lib ids testFileExists).take k).map fun r => frame (lib.dumps r)).flatten ∧
          ((main lib attemptAt localBuild ids testFileExists).completed = true →
            k = (mainRequests lib ids testFileExists).length) := by
  cases hl : connectLoop attemptAt localBuild with
  | connected s₀ fx =>
    obtain ⟨i, hi, -, -, hs₀⟩ := connectLoop_connected attemptAt localBuild hl
    obtain ⟨s, done, hmain, hsent⟩ := main_of_connected lib hl
    rw [hmain]
    exact ⟨fun h => (by cases h), fun s' hs' => by cases hs'; exact ⟨i, hi, s₀, hs₀, hsent⟩⟩
  | trying fx => simp only [main, connect, hl, reduceCtorEq, false_implies, implies_true, and_self]
  | raised e fx => simp only [main, connect, hl, reduceCtorEq, false_implies, implies_true, and_self]

end Transcript

section Completion

variable (lib : JsonLib)

theorem handshake_frame (clientId : String) {s : Socket} {p rest : Bytes} {v : Json}
    (hr : (lib.dumps (connectRequest clientId)).length < 2 ^ 32) (hp : p.length < 2 ^ 32)
    (hs : s.inbox = frame p ++ rest) (hv : lib.loads p = .ok v) (hc : connectReply v = .ok ()) :
    ∃ j, handshake lib clientId s = .ok clientId
      { s with inbox := rest, calls := s.calls + j,
               sent := s.sent ++ frame (lib.dumps (connectRequest clientId)) } := by
  obtain ⟨j, h⟩ := sendRequest_frame lib (connectRequest clientId) s hr hp hs hv
  have he : exchange lib (connectRequest clientId) connectReply s = .ok ()
      { s with inbox := rest, calls := s.calls + j,
               sent := s.sent ++ frame (lib.dumps (connectRequest clientId)) } := by
    rw [exchange_of_sendRequest h, hc]
    rfl
  exact ⟨j, by rw [handshake, bind_ok he]; rfl⟩

theorem runCalls_frames {cs : List Call} {replies : List (Bytes × Json)}
    (hread : List.Forall₂ (fun c p => c.read p.2 = .ok true) cs replies)
    (hreq : ∀ c ∈ cs, (lib.dumps c.req).length < 2 ^ 32)
    (hdec : ∀ p ∈ replies, p.1.length < 2 ^ 32 ∧ lib.loads p.1 = .ok p.2) (rest : Bytes) (s : Socket)
    (hs : s.inbox = (replies.map (frame ·.1)).flatten ++ rest) :
    ∃ j, runCalls lib cs s = (true,
      { s with inbox := rest, calls := s.calls + j,
               sent := s.sent ++ (cs.map fun c => frame (lib.dumps c.req)).flatten }) := by
  induction hread generalizing s with
  | nil =>
    refine ⟨0, ?_⟩
    rw [List.map_nil, List.flatten_nil, List.nil_append] at hs
    rw [runCalls, ← hs, List.map_nil, List.flatten_nil, List.append_nil]
    rfl
  | @cons c p cs ps hc _ ih =>
    obtain ⟨hp, hv⟩ := hdec p (List.mem_cons_self _ _)
    obtain ⟨j, h⟩ := sendRequest_frame lib c.req s (hreq c (List.mem_cons_self _ _)) hp
      (by rw [hs, List.map_cons, List.flatten_cons, List.append_assoc]) hv
    obtain ⟨j', h'⟩ := ih (fun c' hc' => hreq c' (List.mem_cons_of_mem _ hc'))
      (fun p' hp' => hdec p' (List.mem_cons_of_mem _ hp'))
      ⟨(ps.map (frame ·.1)).flatten ++ rest, s.sizes, s.calls + j, s.sent ++ frame (lib.dumps c.req)⟩ rfl
    refine ⟨j + j', ?_⟩
    have hrun : c.run lib s = .ok true
        ⟨(ps.map (frame ·.1)).flatten ++ rest, s.sizes, s.calls + j, s.sent ++ frame (lib.dumps c.req)⟩ := by
      rw [Call.run, exchange_of_sendRequest h, hc]
      rfl
    rw [runCalls, hrun]
    simp only [h', List.map_cons, List.flatten_cons, List.append_assoc, Nat.add_assoc]

theorem main_completes (attemptAt : Nat → Except PyError Socket) (localBuild : Bool) (ids : Ids)
    (testFileExists : Bool) {i : Nat} {s₀ : Socket} (hi : i < 3) (hrefused : RefusedBefore attemptAt i)
    (hconn : attemptAt i = .ok s₀)
    (hreq : ∀ r ∈ mainRequests lib ids testFileExists, (lib.dumps r).length < 2 ^ 32)
    (connected : Bytes × Json) (replies : List (Bytes × Json))
    (hdec : ∀ p ∈ connected :: replies, p.1.length < 2 ^ 32 ∧ lib.loads p.1 = .ok p.2)
    (hconnected : connectReply connected.2 = .ok ())
    (hread : List.Forall₂ (fun c p => c.read p.2 = .ok true) (mainCalls lib ids testFileExists) replies)
    (rest : Bytes) (hin : s₀.inbox = ((connected :: replies).map (frame ·.1)).flatten ++ rest) :
    (main lib attemptAt localBuild ids testFileExists).effects = effectsBefore localBuild i ∧
      (main lib attemptAt localBuild ids testFileExists).completed = true ∧
      ∃ j, (main lib attemptAt localBuild ids testFileExists).connection =
        some { s₀ with
               inbox := rest, calls := s₀.calls + j,
               sent := s₀.sent ++
                 ((mainRequests lib ids testFileExists).map fun r => frame (lib.dumps r)).flatten } := by
  obtain ⟨hp, hv⟩ := hdec connected (List.mem_cons_self _ _)
  obtain ⟨j, hh⟩ := handshake_frame lib ids.client (hreq _ (List.mem_cons_self _ _)) hp
    (by rw [hin, List.map_cons, List.flatten_cons, List.append_assoc]) hv hconnected
  obtain ⟨j', hrun⟩ := runCalls_frames lib hread
    (fun c hc => hreq _ (List.mem_cons_of_mem _ (List.mem_map_of_mem _ hc)))
    (fun p hp => hdec p (List.mem_cons_of_mem _ hp)) rest
    ⟨(replies.map (frame ·.1)).flatten ++ rest, s₀.sizes, s₀.calls + j,
      s₀.sent ++ frame (lib.dumps (connectRequest ids.client))⟩ rfl
  simp only [main, connect, connectLoop_of_ok attemptAt localBuild hi hrefused hconn, hh, hrun,
    mainRequests, List.map_cons, List.map_map, List.flatten_cons, List.append_assoc, Nat.add_assoc, true_and]
  exact ⟨j + j', rfl⟩

def sessionReplies : List (Bytes × Json) :=
  [([2], .obj [("type", .str "Pong")]),
    ([3], .obj [("type", .str "Status"), ("status", .obj [("uptime_secs", .num 1),
      ("total_requests", .num 1), ("active_connections", .num 1), ("version", .str "0.1"),
      ("git_hash", .str "0"), ("pools", .arr [.obj [("language", .str "Rust"), ("status", .str "Ready")]])])]),
    ([4], .obj [("type", .str "Logs"), ("entries", .arr [.obj [("level", .str "INFO"), ("message", .str "ok")]])]),
    ([5], .obj [("type", .str "CallHierarchy"), ("result", .obj [
      ("incoming_calls", .arr [.obj [("name", .str "main"), ("uri", .str "file:///src/main.rs")]]),
      ("outgoing_calls", .arr [])])])]

def sessionConnected : Bytes × Json :=
  ([1], .obj [("type", .str "Connected"), ("daemon_version", .str "0.1")])

def sessionSocket : Socket :=
  ⟨((sessionConnected :: sessionReplies).map (frame ·.1)).flatten, fun _ => 1, 0, []⟩

def sessionLib : JsonLib where
  dumps _ := [0]
  loads p :=
    if p = [1] then .ok sessionConnected.2
    else (sessionReplies.lookup p).elim (.ok .null) .ok
  repr _ := ""

def sessionAttempt : Nat → Except PyError Socket
  | 0 => .error .connectionRefused
  | _ => .ok sessionSocket

theorem main_completes_session :
    (main sessionLib sessionAttempt false ⟨"c", "p", "s", "l", "h"⟩ true).effects = effectsBefore false 1 ∧
      (main sessionLib sessionAttempt false ⟨"c", "p", "s", "l", "h"⟩ true).completed = true ∧
      ∃ j, (main sessionLib sessionAttempt false ⟨"c", "p", "s", "l", "h"⟩ true).connection =
        some { sessionSocket with
               inbox := [], calls := sessionSocket.calls + j,
               sent := sessionSocket.sent ++
                 ((mainRequests sessionLib ⟨"c", "p", "s", "l", "h"⟩ true).map
                   fun r => frame (sessionLib.dumps r)).flatten } :=
  main_completes sessionLib sessionAttempt false ⟨"c", "p", "s", "l", "h"⟩ true (i := 1)
    (by decide) (fun j hj => by obtain rfl : j = 0 := (by omega); exact ⟨_, rfl, rfl⟩) rfl
    (fun _ _ => (by decide : 1 < 2 ^ 32)) sessionConnected sessionReplies
    (by
      simp only [sessionReplies, sessionConnected, List.forall_mem_cons]
      exact ⟨⟨by decide, rfl⟩, ⟨by decide, rfl⟩, ⟨by decide, rfl⟩, ⟨by decide, rfl⟩, ⟨by decide, rfl⟩,
        fun _ h => absurd h (List.not_mem_nil _)⟩)
    rfl (.cons rfl (.cons rfl (.cons rfl (.cons rfl .nil)))) [] (List.append_nil _).symm

end Completion

end ProbeLsp.LspDaemonClient
