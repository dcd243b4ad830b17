import ProbeLsp.LspStdio

namespace ProbeLsp.LspDaemonClient.Json

/-- `v[0]`; `none` where Python raises: a decoded `dict` has string keys only, and an empty
`list` or `str` has no item. -/
def first : Json → Option Json
  | arr xs => xs.head?
  | str s => s.codes.head?.map fun c => str ⟨[c]⟩
  | _ => none

theorem contains_of_getItem {v r : Json} {key : String} (h : v.getItem key = some r) :
    v.truthy = true ∧ v.contains key = some true := by
  cases v with
  | obj fields =>
    induction fields with
    | nil => cases h
    | cons f fields ih =>
      refine ⟨rfl, congrArg some ?_⟩
      by_cases hf : f.1 = key
      · simp only [List.any_cons, hf, beq_self_eq_true, Bool.true_or]
      · have hb : (key == f.1) = false := beq_false_of_ne (Ne.symm hf)
        simp only [getItem, List.lookup, hb] at h
        simp only [List.any_cons, beq_false_of_ne hf, Bool.false_or]
        exact Option.some.inj (ih h).2
  | _ => cases h

end ProbeLsp.LspDaemonClient.Json

namespace ProbeLsp.Gopls.Inspector

open PyText LspDaemonClient

/-- The pipes of `gopls` as `main` sees them: the requests written to `proc.stdin`, oldest first,
each as the frame `send_lsp_request` writes; what `gopls` wrote to `proc.stdout` and the script
has not read; and how many reads came before. -/
structure Pipes where
  stdin : List Json
  stdout : Bytes
  reads : Nat

/-- What ends `main` early: an exception of `read_lsp_response`, or the `TypeError`, `KeyError` or
`IndexError` of looking into a response. -/
inductive Raised where
  | read (e : PyError)
  | lookup

abbrev Stdio := EStateM Raised Pipes

/-- `send_lsp_request(proc, request)`. -/
def send (request : Json) : Stdio Unit := modify fun p => { p with stdin := p.stdin ++ [request] }

/-- `read_lsp_response(proc, timeout)`, where `ready i` is whether `select` finds `proc.stdout`
readable at the `i`-th read. -/
def receive (lib : JsonLib) (ready : Nat → Bool) : Stdio (Option Json) := fun p =>
  match readLspResponse lib (ready p.reads) p.stdout with
  | (.ok response, rest) => .ok response { p with stdout := rest, reads := p.reads + 1 }
  | (.error e, rest) => .error (.read e) { p with stdout := rest, reads := p.reads + 1 }

def lookup {α : Type} : Option α → Stdio α
  | some a => pure a
  | none => throw .lookup

def projectUri : String := "file:///Users/leonidbugaev/conductor/repo/probe/paris/lsp-test-go"

def mainGoUri : String := "file:///Users/leonidbugaev/conductor/repo/probe/paris/lsp-test-go/main.go"

def initializeRequest : Json :=
  .obj [("jsonrpc", .str "2.0"), ("id", .num 1), ("method", .str "initialize"),
    ("params", .obj [("processId", .null), ("rootUri", .str projectUri), ("capabilities", .obj []),
      ("initializationOptions", .obj [("expandWorkspaceToModule", .bool true),
        ("directoryFilters", .arr [.str "-", .str "+."]), ("symbolScope", .str "workspace")]),
      ("workspaceFolders", .arr [.obj [("uri", .str projectUri), ("name", .str "lsp-test-go")]])])]

def initializedNotification : Json :=
  .obj [("jsonrpc", .str "2.0"), ("method", .str "initialized"), ("params", .obj [])]

/-- `textDocument/didOpen` of `main.go`, whose text is `content`. -/
def didOpenNotification (content : String) : Json :=
  .obj [("jsonrpc", .str "2.0"), ("method", .str "textDocument/didOpen"),
    ("params", .obj [("textDocument", .obj [("uri", .str mainGoUri), ("languageId", .str "go"),
      ("version", .num 1), ("text", .str content)])])]

def prepareCallHierarchyRequest : Json :=
  .obj [("jsonrpc", .str "2.0"), ("id", .num 2), ("method", .str "textDocument/prepareCallHierarchy"),
    ("params", .obj [("textDocument", .obj [("uri", .str mainGoUri)]),
      ("position", .obj [("line", .num 9), ("character", .num 6)])])]

def incomingCallsRequest (item : Json) : Json :=
  .obj [("jsonrpc", .str "2.0"), ("id", .num 3), ("method", .str "callHierarchy/incomingCalls"),
    ("params", .obj [("item", item)])]

def shutdownRequest : Json :=
  .obj [("jsonrpc", .str "2.0"), ("id", .num 999), ("method", .str "shutdown"), ("params", .null)]

def exitNotification : Json :=
  .obj [("jsonrpc", .str "2.0"), ("method", .str "exit"), ("params", .null)]

/-- The `if response:` block that follows `textDocument/prepareCallHierarchy`: when the response
has a truthy `result`, `callHierarchy/incomingCalls` for its first item, and one more read. -/
def followPrepare (lib : JsonLib) (ready : Nat → Bool) : Option Json → Stdio Unit
  | some response =>
    if response.truthy then do
      if ← lookup (response.contains "result") then
        let result ← lookup (response.getItem "result")
        if result.truthy then
          send (incomingCallsRequest (← lookup result.first))
          let _ ← receive lib ready
    else pure ()
  | none => pure ()

/-- `main()` from the `initialize` request to the `exit` notification, where `content` is the
text of `main.go`. -/
def main (lib : JsonLib) (ready : Nat → Bool) (content : String) : Stdio Unit := do
  send initializeRequest
  let _ ← receive lib ready
  send initializedNotification
  send (didOpenNotification content)
  send prepareCallHierarchyRequest
  followPrepare lib ready (← receive lib ready)
  send shutdownRequest
  let _ ← receive lib ready
  send exitNotification

section Run

variable (lib : JsonLib) {α β : Type}

@[simp] theorem send_apply (request : Json) (p : Pipes) :
    send request p = .ok () { p with stdin := p.stdin ++ [request] } := rfl

theorem receive_lspFrame {body : Bytes} {m : Json} (hb : body ≠ []) (hl : lib.loads body = .ok m)
    (stdin : List Json) (rest : Bytes) (k : Nat) :
    receive lib (fun _ => true) ⟨stdin, lspFrame body ++ rest, k⟩ = .ok (some m) ⟨stdin, rest, k + 1⟩ := by
  simp only [receive, readLspResponse_lspFrame lib hb, hl]
  rfl

theorem followPrepare_skip {m : Json} (hr : m.contains "result" = some false) (ready : Nat → Bool) (p : Pipes) :
    followPrepare lib ready (some m) p = .ok () p := by
  by_cases ht : m.truthy = true
  · simp only [followPrepare, ht, if_true, hr, lookup, pure_bind, Bool.false_eq_true, if_false]
    rfl
  · simp only [followPrepare, ht, if_false]
    rfl

theorem followPrepare_first {m item : Json} {items : List Json} (hr : m.getItem "result" = some (.arr (item :: items)))
    {body : Bytes} {m' : Json} (hb : body ≠ []) (hl : lib.loads body = .ok m') (stdin : List Json) (rest : Bytes)
    (k : Nat) :
    followPrepare lib (fun _ => true) (some m) ⟨stdin, lspFrame body ++ rest, k⟩ =
      .ok () ⟨stdin ++ [incomingCallsRequest item], rest, k + 1⟩ := by
  obtain ⟨ht, hc⟩ := Json.contains_of_getItem hr
  simp only [followPrepare, ht, if_true, hc, hr, lookup, pure_bind]
  simp only [Json.truthy, Json.first, List.isEmpty_cons, Bool.not_false, if_true, List.head?, pure_bind]
  rw [bind_ok (send_apply _ _), bind_ok (receive_lspFrame lib hb hl _ _ _)]
  rfl

theorem main_two_frames {b₁ b₂ : Bytes} (h₁ : b₁ ≠ []) (h₂ : b₂ ≠ []) {m₁ m₂ : Json} (hl₁ : lib.loads b₁ = .ok m₁)
    (hl₂ : lib.loads b₂ = .ok m₂) (content : String) (rest : Bytes) :
    main lib (fun _ => true) content ⟨[], lspFrame b₁ ++ (lspFrame b₂ ++ rest), 0⟩ =
      (do
        followPrepare lib (fun _ => true) (some m₂)
        send shutdownRequest
        let _ ← receive lib fun _ => true
        send exitNotification)
      ⟨[initializeRequest, initializedNotification, didOpenNotification content, prepareCallHierarchyRequest],
        rest, 2⟩ := by
  unfold main
  rw [bind_ok (send_apply _ _), bind_ok (receive_lspFrame lib h₁ hl₁ _ _ _),
    bind_ok (send_apply _ _), bind_ok (send_apply _ _), bind_ok (send_apply _ _),
    bind_ok (receive_lspFrame lib h₂ hl₂ _ _ _)]
  rfl

theorem main_notification {b₁ b₂ b₃ : Bytes} (h₁ : b₁ ≠ []) (h₂ : b₂ ≠ []) (h₃ : b₃ ≠ [])
    {m₁ m₂ m₃ : Json} (hl₁ : lib.loads b₁ = .ok m₁) (hl₂ : lib.loads b₂ = .ok m₂) (hl₃ : lib.loads b₃ = .ok m₃)
    (hr : m₂.contains "result" = some false) (content : String) (tail : Bytes) :
    main lib (fun _ => true) content ⟨[], lspFrame b₁ ++ lspFrame b₂ ++ lspFrame b₃ ++ tail, 0⟩ =
      .ok () ⟨[initializeRequest, initializedNotification, didOpenNotification content,
        prepareCallHierarchyRequest, shutdownRequest, exitNotification], tail, 3⟩ := by
  simp only [List.append_assoc]
  rw [main_two_frames lib h₁ h₂ hl₁ hl₂, bind_ok (followPrepare_skip lib hr _ _),
    bind_ok (send_apply _ _), bind_ok (receive_lspFrame lib h₃ hl₃ _ _ _)]
  rfl

theorem main_notification_empty :
    ([1] : Bytes) ≠ [] ∧ emptyDictLib.loads [1] = .ok (.obj []) ∧ (Json.obj []).contains "result" = some false ∧
      main emptyDictLib (fun _ => true) "" ⟨[], lspFrame [1] ++ lspFrame [1] ++ lspFrame [1] ++ [], 0⟩ =
        .ok () ⟨[initializeRequest, initializedNotification, didOpenNotification "",
          prepareCallHierarchyRequest, shutdownRequest, exitNotification], [], 3⟩ :=
  ⟨List.cons_ne_nil _ _, rfl, rfl,
    main_notification emptyDictLib (List.cons_ne_nil _ _) (List.cons_ne_nil _ _) (List.cons_ne_nil _ _) rfl rfl rfl rfl
      "" []⟩

theorem main_incomingCalls {b₁ b₂ b₃ b₄ : Bytes} (h₁ : b₁ ≠ []) (h₂ : b₂ ≠ []) (h₃ : b₃ ≠ []) (h₄ : b₄ ≠ [])
    {m₁ m₂ m₃ m₄ item : Json} {items : List Json} (hl₁ : lib.loads b₁ = .ok m₁) (hl₂ : lib.loads b₂ = .ok m₂)
    (hl₃ : lib.loads b₃ = .ok m₃) (hl₄ : lib.loads b₄ = .ok m₄) (hr : m₂.getItem "result" = some (.arr (item :: items)))
    (content : String) (tail : Bytes) :
    main lib (fun _ => true) content ⟨[], lspFrame b₁ ++ lspFrame b₂ ++ lspFrame b₃ ++ lspFrame b₄ ++ tail, 0⟩ =
      .ok () ⟨[initializeRequest, initializedNotification, didOpenNotification content,
        prepareCallHierarchyRequest, incomingCallsRequest item, shutdownRequest, exitNotification], tail, 4⟩ := by
  simp only [List.append_assoc]
  rw [main_two_frames lib h₁ h₂ hl₁ hl₂, bind_ok (followPrepare_first lib hr h₃ hl₃ _ _ _),
    bind_ok (send_apply _ _), bind_ok (receive_lspFrame lib h₄ hl₄ _ _ _)]
  rfl

def resultLib : JsonLib := ⟨fun _ => [1], fun _ => .ok (.obj [("result", .arr [.null])]), fun _ => ""⟩

theorem main_incomingCalls_null :
    resultLib.loads [1] = .ok (.obj [("result", .arr [.null])]) ∧
      (Json.obj [("result", .arr [.null])]).getItem "result" = some (.arr [.null]) ∧
      main resultLib (fun _ => true) "" ⟨[], lspFrame [1] ++ lspFrame [1] ++ lspFrame [1] ++ lspFrame [1] ++ [], 0⟩ =
        .ok () ⟨[initializeRequest, initializedNotification, didOpenNotification "",
          prepareCallHierarchyRequest, incomingCallsRequest .null, shutdownRequest, exitNotification], [], 4⟩ :=
  ⟨rfl, rfl, main_incomingCalls resultLib (List.cons_ne_nil _ _) (List.cons_ne_nil _ _) (List.cons_ne_nil _ _)
    (List.cons_ne_nil _ _) rfl rfl rfl rfl rfl "" []⟩

end Run

section Writes

variable {α β : Type}

/-- Whatever `x` returns or raises from `p`, it has written to `gopls` a prefix of a sequence of
requests that `W` allows, and all of that sequence when it returns. -/
def WritesIn (x : Stdio α) (W : List Json → Prop) (p : Pipes) : Prop :=
  match x p with
  | .ok _ p' => ∃ ws, W ws ∧ p'.stdin = p.stdin ++ ws
  | .error _ p' => ∃ ws, W ws ∧ ∃ w, w <+: ws ∧ p'.stdin = p.stdin ++ w

def Then (W₁ W₂ : List Json → Prop) (ws : List Json) : Prop := ∃ ws₁ ws₂, W₁ ws₁ ∧ W₂ ws₂ ∧ ws = ws₁ ++ ws₂

theorem writesIn_mono {x : Stdio α} {W W' : List Json → Prop} {p : Pipes} (h : WritesIn x W p)
    (hW : ∀ ws, W ws → W' ws) : WritesIn x W' p := by
  unfold WritesIn at h ⊢
  split at h <;> obtain ⟨ws, hws, h⟩ := h <;> exact ⟨ws, hW ws hws, h⟩

theorem writesIn_bind [Inhabited α] {x : Stdio α} {f : α → Stdio β} {W₁ W₂ : List Json → Prop} {p : Pipes}
    (hx : WritesIn x W₁ p) (hf : ∀ a p', WritesIn (f a) W₂ p') : WritesIn (x >>= f) (Then W₁ W₂) p := by
  have hW : ∃ ws, W₂ ws := by
    have h := hf default p
    unfold WritesIn at h
    split at h <;> exact ⟨_, h.choose_spec.1⟩
  show WritesIn (EStateM.bind x f) _ p
  unfold WritesIn at hx ⊢
  unfold EStateM.bind
  cases hxp : x p with
  | ok a p₁ =>
    rw [hxp] at hx
    obtain ⟨ws₁, h₁, hs₁⟩ := hx
    have hfa := hf a p₁
    unfold WritesIn at hfa
    split at hfa <;> rename_i hfp <;> simp only [hfp]
    · obtain ⟨ws₂, h₂, hs₂⟩ := hfa
      exact ⟨_, ⟨_, _, h₁, h₂, rfl⟩, by rw [hs₂, hs₁, List.append_assoc]⟩
    · obtain ⟨ws₂, h₂, w, hw, hs₂⟩ := hfa
      exact ⟨_, ⟨_, _, h₁, h₂, rfl⟩, ws₁ ++ w, (List.prefix_append_right_inj ws₁).mpr hw,
        by rw [hs₂, hs₁, List.append_assoc]⟩
  | error e p₁ =>
    rw [hxp] at hx
    obtain ⟨ws₁, h₁, w, hw, hs⟩ := hx
    obtain ⟨ws₂, h₂⟩ := hW
    exact ⟨_, ⟨_, _, h₁, h₂, rfl⟩, w, hw.trans (List.prefix_append _ _), hs⟩

theorem writesIn_send (request : Json) (p : Pipes) : WritesIn (send request) (· = [request]) p := ⟨_, rfl, rfl⟩

theorem writesIn_pure (a : α) (p : Pipes) : WritesIn (pure a) (· = []) p := ⟨_, rfl, (List.append_nil _).symm⟩

theorem writesIn_receive (lib : JsonLib) (ready : Nat → Bool) (p : Pipes) :
    WritesIn (receive lib ready) (· = []) p := by
  unfold WritesIn receive
  rcases readLspResponse lib (ready p.reads) p.stdout with ⟨_ | _, _⟩
  · exact ⟨_, rfl, [], List.prefix_refl _, (List.append_nil _).symm⟩
  · exact ⟨_, rfl, (List.append_nil _).symm⟩

theorem writesIn_lookup (o : Option α) (p : Pipes) : WritesIn (lookup o) (· = []) p := by
  cases o with
  | some a => exact writesIn_pure a p
  | none => exact ⟨_, rfl, [], List.prefix_refl _, (List.append_nil _).symm⟩

theorem writesIn_after_nil [Inhabited α] {x : Stdio α} {f : α → Stdio β} {W : List Json → Prop} {p : Pipes}
    (hx : WritesIn x (· = []) p) (hf : ∀ a p', WritesIn (f a) W p') : WritesIn (x >>= f) W p :=
  writesIn_mono (writesIn_bind hx hf) fun _ ⟨_, _, h₁, h₂, h⟩ => by rwa [h, h₁, List.nil_append]

def FollowUp (ws : List Json) : Prop := ws = [] ∨ ∃ item, ws = [incomingCallsRequest item]

theorem writesIn_followPrepare (lib : JsonLib) (ready : Nat → Bool) (response : Option Json) (p : Pipes) :
    WritesIn (followPrepare lib ready response) FollowUp p := by
  have hnil : ∀ p, WritesIn (pure () : Stdio Unit) FollowUp p := fun p => writesIn_mono (writesIn_pure () p) fun _ => .inl
  cases response with
  | none => exact hnil p
  | some r =>
    rw [followPrepare]
    split_ifs
    · refine writesIn_after_nil (writesIn_lookup _ p) fun b p₁ => ?_
      split_ifs
      · refine writesIn_after_nil (writesIn_lookup _ p₁) fun result p₂ => ?_
        split_ifs
        · refine writesIn_after_nil (writesIn_lookup _ p₂) fun item p₃ => writesIn_mono
            (writesIn_bind (writesIn_send _ p₃) fun _ p₄ => writesIn_after_nil (writesIn_receive lib ready p₄)
              fun _ p₅ => writesIn_pure () p₅) ?_
          rintro _ ⟨_, _, rfl, rfl, rfl⟩
          exact .inr ⟨item, rfl⟩
        · exact hnil p₂
      · exact hnil p₁
    · exact hnil p

theorem main_writes (lib : JsonLib) (ready : Nat → Bool) (content : String) (p : Pipes) :
    WritesIn (main lib ready content) (fun ws => ∃ extra, FollowUp extra ∧
      ws = [initializeRequest, initializedNotification, didOpenNotification content, prepareCallHierarchyRequest] ++
        extra ++ [shutdownRequest, exitNotification]) p := by
  unfold main
  refine writesIn_mono (writesIn_bind (writesIn_send _ p) fun _ p₁ =>
    writesIn_after_nil (writesIn_receive lib ready p₁) fun _ p₂ =>
    writesIn_bind (writesIn_send _ p₂) fun _ p₃ =>
    writesIn_bind (writesIn_send _ p₃) fun _ p₄ =>
    writesIn_bind (writesIn_send _ p₄) fun _ p₅ =>
    writesIn_after_nil (writesIn_receive lib ready p₅) fun r p₆ =>
    writesIn_bind (writesIn_followPrepare lib ready r p₆) fun _ p₇ =>
    writesIn_bind (writesIn_send _ p₇) fun _ p₈ =>
    writesIn_after_nil (writesIn_receive lib ready p₈) fun _ p₉ => writesIn_send _ p₉) ?_
  rintro _ ⟨_, _, rfl, ⟨_, _, rfl, ⟨_, _, rfl, ⟨_, _, rfl, ⟨extra, _, hx, ⟨_, _, rfl, rfl, rfl⟩, rfl⟩, rfl⟩, rfl⟩,
    rfl⟩, rfl⟩
  exact ⟨extra, hx, by simp⟩

end Writes

end ProbeLsp.Gopls.Inspector
