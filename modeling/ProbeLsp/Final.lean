import ProbeLsp.HeaderFields

/-!
`main()` of the final gopls test. It sends four messages, and after each one calls
`read_lsp_messages`; it looks through the messages of the last call for the reply to request 2;
then it sends `shutdown`. Each call of `read_lsp_messages` starts where the one before it stopped
reading `proc.stdout`. The messages of the first three calls are dropped unread.
-/

namespace ProbeLsp.LspDaemonClient.Json

/-- `v == n` for a Python `int` `n`; `True` and `False` compare as 1 and 0. -/
def eqInt : Json → Int → Bool
  | num m, n => m == n
  | bool b, n => (if b then 1 else 0) == n
  | _, _ => false

end ProbeLsp.LspDaemonClient.Json

namespace ProbeLsp.Gopls.Final

open PyText LspDaemonClient

/-- What the loop over the last messages prints about the reply to request 2. -/
inductive Report where
  /-- `!!! Call hierarchy ERROR: {msg['error']['message']}` -/
  | error (message : Json)
  /-- `!!! Call hierarchy SUCCESS: {json.dumps(msg['result'], indent=2)[:200]}...` -/
  | success (result : Json)

/-- What ends `main` early: the `AttributeError` of `msg.get` on a message that is not a dict, the
`KeyError` or `TypeError` of `msg['error']['message']`, or the `UnicodeEncodeError` of printing a
message that holds a lone surrogate. -/
inductive Raised where
  | get (e : PyError)
  | lookup
  | print

/-- The body of `for msg in messages:`. -/
def report (msg : Json) : Except Raised (Option Report) :=
  match msg.get "id" .null with
  | .error e => .error (.get e)
  | .ok id =>
    if id.eqInt 2 then
      if msg.contains "error" = some true then
        match (msg.getItem "error").bind (·.getItem "message") with
        | some message => if message.printable then .ok (some (.error message)) else .error .print
        | none => .error .lookup
      else if msg.contains "result" = some true then .ok ((msg.getItem "result").map .success)
      else .ok none
    else .ok none

/-- The loop `for msg in messages:`: what it prints, in order. -/
def reports : List Json → Except Raised (List Report)
  | [] => .ok []
  | msg :: msgs => do
    let r ← report msg
    let rs ← reports msgs
    pure (r.toList ++ rs)

/-- The requests written to `proc.stdin`, and the bytes `gopls` has written to `proc.stdout` that
are still unread. -/
structure Pipes where
  stdin : List Json
  stdout : Bytes

abbrev Run := EStateM Raised Pipes

/-- `send_lsp_request(proc, request)`. -/
def send (request : Json) : Run Unit := modify fun p => { p with stdin := p.stdin ++ [request] }

/-- `read_lsp_messages(proc, timeout)`, where `ready` has one entry per pass of its loop. -/
def readMessages (lib : JsonLib) (ready : List Bool) : Run (List Json) := fun p =>
  .ok (readLspMessagesRest lib ready p.stdout).1 { p with stdout := (readLspMessagesRest lib ready p.stdout).2 }

def liftExcept {α : Type} : Except Raised α → Run α
  | .ok a => pure a
  | .error e => throw e

def initializeRequest : Json :=
  .obj [("jsonrpc", .str "2.0"), ("id", .num 1), ("method", .str "initialize"),
    ("params", .obj [("processId", .null), ("rootUri", .str Inspector.projectUri),
      ("capabilities", .obj [("textDocument", .obj [("callHierarchy", .obj [("dynamicRegistration", .bool false)])])]),
      ("initializationOptions", .obj [("expandWorkspaceToModule", .bool true),
        ("directoryFilters", .arr [.str "-", .str "+."]), ("symbolScope", .str "workspace")]),
      ("workspaceFolders", .arr [.obj [("uri", .str Inspector.projectUri), ("name", .str "lsp-test-go")]])])]

/-- `main()` from the `initialize` request to `shutdown`, where `content` is the text of `main.go`
and `ready₁` to `ready₄` are what `select` reports in the four calls of `read_lsp_messages`. The
other three messages are those the inspector sends. -/
def main (lib : JsonLib) (ready₁ ready₂ ready₃ ready₄ : List Bool) (content : String) : Run (List Report) := do
  send initializeRequest
  let _ ← readMessages lib ready₁
  send Inspector.initializedNotification
  let _ ← readMessages lib ready₂
  send (Inspector.didOpenNotification content)
  let _ ← readMessages lib ready₃
  send Inspector.prepareCallHierarchyRequest
  let messages ← readMessages lib ready₄
  let found ← liftExcept (reports messages)
  send Inspector.shutdownRequest
  pure found

def lspStream (ps : List (Bytes × Json)) : Bytes := (ps.map (lspFrame ·.1)).flatten

@[simp] theorem lspStream_nil : lspStream [] = [] := rfl

@[simp] theorem lspStream_cons (p : Bytes × Json) (ps : List (Bytes × Json)) :
    lspStream (p :: ps) = lspFrame p.1 ++ lspStream ps := rfl

section Loop

theorem getItem_obj (fields : List (String × Json)) (key : String) :
    (Json.obj fields).getItem key = fields.lookup key := rfl

def BadMessage (msg : Json) : Prop :=
  (msg.getItem "error").bind (·.getItem "message") = none ∨
    ∃ t, (msg.getItem "error").bind (·.getItem "message") = some (.str t) ∧ ∃ c ∈ t.codes, 0xD800 ≤ c ∧ c ≤ 0xDFFF

theorem report_error_iff (msg : Json) :
    (∃ e, report msg = .error e) ↔ msg.isDict = false ∨
      (((msg.getItem "id").getD .null).eqInt 2 = true ∧ msg.contains "error" = some true ∧ BadMessage msg) := by
  cases msg with
  | obj fields =>
    simp only [report, get_obj, getItem_obj, Json.isDict, Bool.true_eq_false, false_or, BadMessage]
    split_ifs with h2 he hr
    · cases (fields.lookup "error").bind (·.getItem "message") with
      | none => simp [h2, he]
      | some m =>
        simp only [h2, he, true_and, reduceCtorEq, false_or, Option.some.injEq, ← printable_eq_false]
        cases m.printable <;> simp
    all_goals simp [*]
  | _ => simp [report, Json.get, Json.isDict]

theorem reports_error_iff : ∀ msgs : List Json,
    (∃ e, reports msgs = .error e) ↔ ∃ msg ∈ msgs, ∃ e, report msg = .error e
  | [] => by simp [reports]
  | msg :: msgs => by
    simp only [reports, List.mem_cons, exists_eq_or_imp, ← reports_error_iff msgs]
    cases report msg with
    | error e => exact iff_of_true ⟨e, rfl⟩ (.inl ⟨e, rfl⟩)
    | ok r =>
      cases reports msgs with
      | error e => exact iff_of_true ⟨e, rfl⟩ (.inr ⟨e, rfl⟩)
      | ok rs => exact iff_of_false (fun ⟨_, he⟩ => by cases he) (by simp)

end Loop

section Reads

variable (lib : JsonLib)

theorem readLspMessagesRest_frames : ∀ (ready : List Bool) (ps : List (Bytes × Json)),
    (∀ p ∈ ps, p.1 ≠ [] ∧ lib.loads p.1 = .ok p.2) →
    ∃ k ≤ ready.count true,
      readLspMessagesRest lib ready (lspStream ps) = ((ps.take k).map (·.2), lspStream (ps.drop k))
  | [], ps, _ => ⟨0, le_rfl, rfl⟩
  | false :: ready, ps, hps => by
    obtain ⟨k, hk, h⟩ := readLspMessagesRest_frames ready ps hps
    exact ⟨k, by simpa using hk, h⟩
  | true :: ready, [], _ =>
    ⟨0, Nat.zero_le _, by rw [lspStream_nil, readLspMessagesRest, readMessage_nil]; rfl⟩
  | true :: ready, (b, m) :: ps, hps => by
    have hb := hps (b, m) (List.mem_cons_self _ _)
    rw [lspStream_cons, readLspMessagesRest, readMessage_lspFrame lib hb.1 hb.2]
    cases reportRaises m
    · obtain ⟨k, hk, h⟩ := readLspMessagesRest_frames ready ps fun p hp => hps p (List.mem_cons_of_mem _ hp)
      refine ⟨k + 1, by simpa using hk, ?_⟩
      show (readLspMessagesRest lib ready (lspStream ps)).map (m :: ·) id = _
      rw [h]
      rfl
    · exact ⟨1, by simp, by simp⟩

end Reads

section Main

variable {α β : Type}

@[simp] theorem send_apply (request : Json) (p : Pipes) :
    send request p = .ok () { p with stdin := p.stdin ++ [request] } := rfl

theorem readMessages_apply {lib : JsonLib} {ready : List Bool} {pipe rest : Bytes} {msgs : List Json}
    (h : readLspMessagesRest lib ready pipe = (msgs, rest)) (stdin : List Json) :
    readMessages lib ready ⟨stdin, pipe⟩ = .ok msgs ⟨stdin, rest⟩ := by
  simp only [readMessages, h]

theorem liftExcept_bind (x : Except Raised α) (f : α → Run β) (p : Pipes) :
    (liftExcept x >>= f) p = match x with
      | .ok a => f a p
      | .error e => .error e p := by
  cases x <;> rfl

variable (lib : JsonLib)

theorem main_reads {ready₁ ready₂ ready₃ ready₄ : List Bool} {pipe₀ pipe₁ pipe₂ pipe₃ pipe₄ : Bytes}
    {msgs₁ msgs₂ msgs₃ msgs₄ : List Json} (h₁ : readLspMessagesRest lib ready₁ pipe₀ = (msgs₁, pipe₁))
    (h₂ : readLspMessagesRest lib ready₂ pipe₁ = (msgs₂, pipe₂))
    (h₃ : readLspMessagesRest lib ready₃ pipe₂ = (msgs₃, pipe₃))
    (h₄ : readLspMessagesRest lib ready₄ pipe₃ = (msgs₄, pipe₄)) (content : String) :
    main lib ready₁ ready₂ ready₃ ready₄ content ⟨[], pipe₀⟩ =
      match reports msgs₄ with
      | .ok found => .ok found ⟨[initializeRequest, Inspector.initializedNotification,
          Inspector.didOpenNotification content, Inspector.prepareCallHierarchyRequest, Inspector.shutdownRequest], pipe₄⟩
      | .error e => .error e ⟨[initializeRequest, Inspector.initializedNotification,
          Inspector.didOpenNotification content, Inspector.prepareCallHierarchyRequest], pipe₄⟩ := by
  unfold main
  rw [bind_ok (send_apply _ _)]
  simp only [List.nil_append]
  rw [bind_ok (readMessages_apply h₁ _), bind_ok (send_apply _ _)]
  simp only [List.cons_append, List.nil_append]
  rw [bind_ok (readMessages_apply h₂ _), bind_ok (send_apply _ _)]
  simp only [List.cons_append, List.nil_append]
  rw [bind_ok (readMessages_apply h₃ _), bind_ok (send_apply _ _)]
  simp only [List.cons_append, List.nil_append]
  rw [bind_ok (readMessages_apply h₄ _), liftExcept_bind]
  cases reports msgs₄ <;> rfl

end Main

end ProbeLsp.Gopls.Final
