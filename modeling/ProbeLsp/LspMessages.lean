import ProbeLsp.LspStdio

namespace ProbeLsp.Gopls

open PyText LspDaemonClient

/-- Whether the printing block of `read_lsp_messages` raises on `msg`: it reads `method`,
`params`, `diagnostics` and each diagnostic's `message`, or `error` and its `message`, or
calls `msg.get('id')`; printing a `method`, an error `message` or an `id` that is a string
with a lone surrogate raises `UnicodeEncodeError` (the diagnostics list prints its `repr`). -/
def reportRaises (msg : Json) : Bool :=
  match msg.contains "method" with
  | none => true
  | some true =>
    match msg.getItem "method" with
    | none => true
    | some m =>
      if m.isStr "textDocument/publishDiagnostics" then
        match msg.getItem "params" with
        | none => true
        | some params =>
          match params.get "diagnostics" (.arr []) with
          | .error _ => true
          | .ok diags =>
            diags.truthy &&
              match diags.items with
              | none => true
              | some ds => ds.any fun d => (d.getItem "message").isNone
      else !m.printable
  | some false =>
    match msg.contains "error" with
    | none => true
    | some true =>
      match (msg.getItem "error").bind (·.getItem "message") with
      | none => true
      | some m => !m.printable
    | some false =>
      match msg.contains "result" with
      | none => true
      | some true =>
        match msg.get "id" .null with
        | .error _ => true
        | .ok id => !id.printable
      | some false => false

/-- How one pass of the `while` body ends once `select` reports the pipe readable. -/
inductive Pass where
  /-- `break`, or an exception caught by `except: break`. -/
  | stop
  /-- `continue`, after a header without a length. -/
  | skip
  /-- `messages.append(msg)`, then `break` if printing it `raised`. -/
  | message (msg : Json) (raised : Bool)

/-- One pass over a readable pipe: the header loop, `if not header: break`, the header parse,
`proc.stdout.read(content_length)` and `json.loads`, then the printing. -/
def readMessage (lib : JsonLib) (pipe : Bytes) : Pass × Bytes :=
  let (header, rest) := readHeader [] pipe
  if header.isEmpty then (.stop, rest) else
  match utf8Decode header with
  | none => (.stop, rest)
  | some headerStr =>
    match contentLength (splitCrlf headerStr) with
    | .error _ => (.stop, rest)
    | .ok n =>
      if n = 0 then (.skip, rest) else
      match readN n rest with
      | .error _ => (.stop, rest)
      | .ok (content, rest') =>
        match lib.loads content with
        | .error _ => (.stop, rest')
        | .ok msg => (.message msg (reportRaises msg), rest')

/-- `read_lsp_messages(proc)`: `ready` has one entry per pass of the `while` loop before the
timeout, whether `select` found the pipe readable in it; the messages collected, and the bytes
left unread in `proc.stdout`. -/
def readLspMessagesRest (lib : JsonLib) : List Bool → Bytes → List Json × Bytes
  | [], pipe => ([], pipe)
  | false :: ready, pipe => readLspMessagesRest lib ready pipe
  | true :: ready, pipe =>
    match readMessage lib pipe with
    | (.stop, rest) => ([], rest)
    | (.skip, rest) => readLspMessagesRest lib ready rest
    | (.message msg true, rest) => ([msg], rest)
    | (.message msg false, rest) => (readLspMessagesRest lib ready rest).map (msg :: ·) id

def readLspMessages (lib : JsonLib) (ready : List Bool) (pipe : Bytes) : List Json :=
  (readLspMessagesRest lib ready pipe).1

def keptMessages : List Json → List Json
  | [] => []
  | msg :: msgs => msg :: if reportRaises msg then [] else keptMessages msgs

section Run

variable (lib : JsonLib)

theorem readMessage_lspFrame {body : Bytes} {msg : Json} (hb : body ≠ []) (hl : lib.loads body = .ok msg)
    (rest : Bytes) :
    readMessage lib (lspFrame body ++ rest) = (.message msg (reportRaises msg), rest) := by
  have hn : (body.length : Int) ≠ 0 := by simpa using hb
  have hh : (ascii (header body.length)).isEmpty = false := by
    rw [ascii_header, List.isEmpty_eq_false_iff_exists_mem]
    exact ⟨13, List.mem_append_right _ (List.mem_cons_self _ _)⟩
  rw [readMessage, lspFrame, List.append_assoc, readHeader_header]
  simp only [hh, utf8Decode_header, contentLength_header]
  rw [if_neg hn, readN_body]
  simp only [hl, Bool.false_eq_true, if_false]

theorem readMessage_nil : readMessage lib [] = (.stop, []) := rfl

@[simp] theorem readLspMessages_false (ready : List Bool) (pipe : Bytes) :
    readLspMessages lib (false :: ready) pipe = readLspMessages lib ready pipe := rfl

theorem readLspMessages_eof (ready : List Bool) : readLspMessages lib (true :: ready) [] = [] := rfl

theorem readLspMessagesRest_lspFrame {body : Bytes} {msg : Json} (hb : body ≠ []) (hl : lib.loads body = .ok msg)
    (ready : List Bool) (rest : Bytes) :
    readLspMessagesRest lib (true :: ready) (lspFrame body ++ rest) =
      if reportRaises msg then ([msg], rest) else (readLspMessagesRest lib ready rest).map (msg :: ·) id := by
  rw [readLspMessagesRest, readMessage_lspFrame lib hb hl]
  cases reportRaises msg <;> rfl

theorem readLspMessages_lspFrame {body : Bytes} {msg : Json} (hb : body ≠ [])
    (hl : lib.loads body = .ok msg) (ready : List Bool) (rest : Bytes) :
    readLspMessages lib (true :: ready) (lspFrame body ++ rest) =
      msg :: if reportRaises msg then [] else readLspMessages lib ready rest := by
  rw [readLspMessages, readLspMessagesRest_lspFrame lib hb hl]
  cases reportRaises msg <;> rfl

theorem readLspMessagesRest_of_skip {P : Bytes → Prop}
    (hstep : ∀ pipe, P pipe → pipe ≠ [] → ∃ rest, readMessage lib pipe = (.skip, rest) ∧ P rest) :
    ∀ (ready : List Bool) {pipe : Bytes}, P pipe → ∃ rest, readLspMessagesRest lib ready pipe = ([], rest) ∧ P rest
  | [], pipe, h => ⟨pipe, rfl, h⟩
  | false :: ready, _, h => readLspMessagesRest_of_skip hstep ready h
  | true :: ready, pipe, h => by
    rcases eq_or_ne pipe [] with rfl | hne
    · exact ⟨[], by rw [readLspMessagesRest, readMessage_nil], h⟩
    obtain ⟨rest, hr, hp⟩ := hstep pipe h hne
    rw [readLspMessagesRest, hr]
    exact readLspMessagesRest_of_skip hstep ready hp

theorem readLspMessages_frames (ps : List (Bytes × Json))
    (hps : ∀ p ∈ ps, p.1 ≠ [] ∧ lib.loads p.1 = .ok p.2) (ready : List Bool) (rest : Bytes) :
    readLspMessages lib ready (ps.map (lspFrame ·.1)).flatten =
        (keptMessages (ps.map (·.2))).take (ready.count true) ∧
      (keptMessages (ps.map (·.2))).take (ready.count true) <+:
        readLspMessages lib ready ((ps.map (lspFrame ·.1)).flatten ++ rest) := by
  induction ready generalizing ps with
  | nil => exact ⟨rfl, List.nil_prefix⟩
  | cons r ready ih =>
    cases r with
    | false => simpa only [readLspMessages_false, List.count_cons_of_ne Bool.false_ne_true] using ih ps hps
    | true =>
      rw [List.count_cons_self]
      cases ps with
      | nil => exact ⟨readLspMessages_eof lib ready, List.nil_prefix⟩
      | cons p ps =>
        obtain ⟨hb, hl⟩ := hps p (List.mem_cons_self _ _)
        have ih' := ih ps fun q hq => hps q (List.mem_cons_of_mem _ hq)
        simp only [List.map_cons, List.flatten_cons, List.append_assoc, keptMessages,
          List.take_succ_cons, readLspMessages_lspFrame lib hb hl]
        cases reportRaises p.2 with
        | true => simp only [↓reduceIte, List.take_nil, List.prefix_refl, and_self]
        | false =>
          simp only [Bool.false_eq_true, if_false]
          exact ⟨congrArg _ ih'.1, List.cons_prefix_cons.mpr ⟨rfl, ih'.2⟩⟩

def twoReplies : List (Bytes × Json) := [([1], .obj []), ([2], .obj [])]

theorem readLspMessages_frames_two :
    (∀ p ∈ twoReplies, p.1 ≠ [] ∧ emptyDictLib.loads p.1 = .ok p.2) ∧
      (readLspMessages emptyDictLib [true, false, true] (twoReplies.map (lspFrame ·.1)).flatten =
          (keptMessages (twoReplies.map (·.2))).take ([true, false, true].count true) ∧
        (keptMessages (twoReplies.map (·.2))).take ([true, false, true].count true) <+:
          readLspMessages emptyDictLib [true, false, true] ((twoReplies.map (lspFrame ·.1)).flatten ++ [9])) := by
  have h : ∀ p ∈ twoReplies, p.1 ≠ [] ∧ emptyDictLib.loads p.1 = .ok p.2 := by
    simp [twoReplies, emptyDictLib]
  exact ⟨h, readLspMessages_frames emptyDictLib twoReplies h [true, false, true] [9]⟩

end Run

end ProbeLsp.Gopls
