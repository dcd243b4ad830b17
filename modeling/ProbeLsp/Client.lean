import ProbeLsp.Request

namespace ProbeLsp.LspDaemonClient

namespace Json

def typeName : Json → String
  | null => "NoneType"
  | bool _ => "bool"
  | num _ => "int"
  | str _ => "str"
  | arr _ => "list"
  | obj _ => "dict"

def isDict : Json → Bool
  | obj _ => true
  | _ => false

/-- `v.get(key, default)`: only a `dict` has `get`. -/
def get (v : Json) (key : String) (default : Json) : Except PyError Json :=
  match v with
  | obj fields => .ok ((fields.lookup key).getD default)
  | v => .error (.attributeError ("'" ++ v.typeName ++ "' object has no attribute 'get'"))

/-- `v == t` for a Python string `t`. -/
def isStr : Json → String → Bool
  | str s, t => s == PyStr.ofString t
  | _, _ => false

/-- Whether `print` can write `str(v)` (an f-string's `{v}`): the `repr` of any value that is
not a `str` escapes its surrogates, so only a `str` holding one raises. -/
def printable : Json → Bool
  | str s => s.encodes
  | _ => true

end Json

/-- `str(v)` as an f-string formats it: a string is itself, any other value its `repr`. -/
def JsonLib.str (lib : JsonLib) : Json → PyStr
  | .str s => s
  | v => lib.repr v

def request (type requestId : String) (fields : List (String × Json)) : Json :=
  .obj (("type", .str type) :: ("request_id", .str requestId) :: fields)

def connectRequest (clientId : String) : Json :=
  .obj [("type", .str "Connect"), ("client_id", .str clientId)]

def exchange {β : Type} (lib : JsonLib) (req : Json) (reply : Json → Except PyError β) : Client β := do
  let response ← sendRequest lib req
  fromExcept (reply response)

def statusReply (lib : JsonLib) (response : Json) : Except PyError Json := do
  if (← response.get "type" .null).isStr "Status" then
    response.get "status" (.obj [])
  else if (← response.get "type" .null).isStr "Error" then
    throw (.exception ("Error: " ++ lib.str (← response.get "error" (.str "Unknown error"))))
  else
    throw (.exception ("Unexpected response: " ++ lib.str response))

def pingReply (response : Json) : Except PyError Bool := do
  return (← response.get "type" .null).isStr "Pong"

def logsReply (response : Json) : Except PyError Json := do
  if (← response.get "type" .null).isStr "Logs" then
    response.get "entries" (.arr [])
  else
    return .arr []

def callHierarchyReply (lib : JsonLib) (response : Json) : Except PyError Json := do
  if (← response.get "type" .null).isStr "CallHierarchy" then
    response.get "result" (.obj [])
  else if (← response.get "type" .null).isStr "Error" then
    return .obj [("error", ← response.get "error" (.str "Unknown error"))]
  else
    return .obj [("error", .str ("Unexpected response: " ++ lib.str response))]

def surrogateError : PyError := .encodeError "'utf-8' codec can't encode character: surrogates not allowed"

/-- Lines 69–73 of `connect`: a `Connected` reply is printed, never checked, and any other is
printed through its `repr`, which cannot raise. -/
def connectReply (response : Json) : Except PyError Unit := do
  if (← response.get "type" .null).isStr "Connected" then
    let daemonVersion ← response.get "daemon_version" (.str "unknown")
    unless daemonVersion.printable do throw surrogateError

def getStatus (lib : JsonLib) (requestId : String) : Client Json :=
  exchange lib (request "Status" requestId []) (statusReply lib)

def ping (lib : JsonLib) (requestId : String) : Client Bool :=
  exchange lib (request "Ping" requestId []) pingReply

def getLogs (lib : JsonLib) (requestId : String) (lines : Int) : Client Json :=
  exchange lib (request "GetLogs" requestId [("lines", .num lines)]) logsReply

def callHierarchyRequest (requestId filePath : String) (line column : Int) : Json :=
  request "CallHierarchy" requestId
    [("file_path", .str filePath), ("line", .num line), ("column", .num column), ("workspace_hint", .null)]

def getCallHierarchy (lib : JsonLib) (requestId filePath : String) (line column : Int) : Client Json :=
  exchange lib (callHierarchyRequest requestId filePath line column) (callHierarchyReply lib)

def handshake (lib : JsonLib) (clientId : String) : Client String := do
  exchange lib (connectRequest clientId) connectReply
  return clientId

theorem exchange_of_sendRequest {β : Type} {lib : JsonLib} {req : Json} {reply : Json → Except PyError β}
    {s s' : Socket} {v : Json} (h : sendRequest lib req s = .ok v s') :
    exchange lib req reply s = fromExcept (reply v) s' := by
  rw [exchange, bind_ok h]

section Exchange

variable {β γ : Type} (lib : JsonLib) (req : Json) (reply : Json → Except PyError β) (s : Socket)

theorem exchange_sent (h : (lib.dumps req).length < 2 ^ 32) :
    (resultState (exchange lib req reply s)).sent = s.sent ++ frame (lib.dumps req) := by
  rw [exchange, sent_bind (fun v => keepsSent_fromExcept (reply v)), sendRequest_sent lib req s h]

theorem exchange_of_ge (h : 2 ^ 32 ≤ (lib.dumps req).length) :
    exchange lib req reply s = .error (.structError "'I' format requires 0 <= number <= 4294967295") s := by
  rw [exchange, bind_error (sendRequest_of_ge lib req s h)]

theorem exchange_map (f : β → γ) :
    exchange lib req (fun r => (reply r).map f) = exchange lib req reply >>= fun b => pure (f b) := by
  simp only [exchange, bind_assoc]
  congr
  funext r
  cases reply r <;> rfl

end Exchange

@[simp] theorem get_obj (fields : List (String × Json)) (key : String) (d : Json) :
    (Json.obj fields).get key d = .ok ((fields.lookup key).getD d) := rfl

theorem printable_eq_false (v : Json) :
    v.printable = false ↔ ∃ t, v = .str t ∧ ∃ c ∈ t.codes, 0xD800 ≤ c ∧ c ≤ 0xDFFF := by
  cases v <;> simp [Json.printable, PyStr.encodes_eq_false]

theorem handshake_of_sendRequest {lib : JsonLib} {clientId : String} {s s' : Socket} {v : Json}
    (h : sendRequest lib (connectRequest clientId) s = .ok v s') :
    handshake lib clientId s = match connectReply v with
      | .ok _ => .ok clientId s'
      | .error e => .error e s' := by
  have hx : exchange lib (connectRequest clientId) connectReply s = fromExcept (connectReply v) s' :=
    exchange_of_sendRequest h
  cases hc : connectReply v with
  | ok u => rw [handshake, bind_ok (hx.trans (by rw [hc]; rfl))]; rfl
  | error e => rw [handshake, bind_error (hx.trans (by rw [hc]; rfl))]

theorem replies_isOk (lib : JsonLib) (r : Json) :
    (pingReply r).isOk = r.isDict ∧ (logsReply r).isOk = r.isDict ∧ (callHierarchyReply lib r).isOk = r.isDict ∧
      (statusReply lib r).isOk = (r.isDict && ((r.get "type" .null).toOption.getD .null).isStr "Status") := by
  cases r with
  | obj fields =>
    simp only [pingReply, logsReply, callHierarchyReply, statusReply, get_obj,
      except_ok_bind, Json.isDict, Except.toOption, Option.getD_some, Bool.true_and]
    refine ⟨rfl, by split_ifs <;> rfl, by split_ifs <;> rfl, ?_⟩
    cases ((fields.lookup "type").getD .null).isStr "Status" <;>
      cases ((fields.lookup "type").getD .null).isStr "Error" <;> rfl
  | _ => exact ⟨rfl, rfl, rfl, rfl⟩

theorem connectReply_obj (fields : List (String × Json)) :
    connectReply (.obj fields) =
      if ((fields.lookup "type").getD .null).isStr "Connected" &&
          !((fields.lookup "daemon_version").getD (.str "unknown")).printable
      then .error surrogateError else .ok () := by
  simp only [connectReply, get_obj, except_ok_bind]
  cases ((fields.lookup "type").getD .null).isStr "Connected" <;>
    cases ((fields.lookup "daemon_version").getD (.str "unknown")).printable <;> rfl

section Replies

variable (lib : JsonLib) (fields : List (String × Json))

theorem replies_of_error (he : fields.lookup "type" = some (.str "Error")) :
    pingReply (.obj fields) = .ok false ∧ logsReply (.obj fields) = .ok (.arr []) ∧
      callHierarchyReply lib (.obj fields) = .ok (.obj [("error", (fields.lookup "error").getD (.str "Unknown error"))]) ∧
      statusReply lib (.obj fields) =
        .error (.exception ("Error: " ++ lib.str ((fields.lookup "error").getD (.str "Unknown error")))) := by
  simp only [pingReply, logsReply, callHierarchyReply, statusReply, get_obj, he, Option.getD_some, except_ok_bind]
  exact ⟨rfl, rfl, rfl, rfl⟩

end Replies

def surrogateLib : JsonLib :=
  ⟨fun _ => [1], fun _ => .ok (.obj [("type", .str "Connected"), ("daemon_version", .str ⟨[0xD800]⟩)]), fun _ => "{}"⟩

def emptyDictLib : JsonLib := ⟨fun _ => [1], fun _ => .ok (.obj []), fun _ => "{}"⟩

end ProbeLsp.LspDaemonClient
