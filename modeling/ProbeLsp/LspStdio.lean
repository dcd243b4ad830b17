import ProbeLsp.PyText

/-!
The LSP stdio framing of `test_gopls_inspector.py` and `test_gopls_final.py`: a
`Content-Length: n\r\n\r\n` header, then `n` bytes of JSON, on the pipes of a `gopls`
subprocess.
-/

namespace ProbeLsp.Gopls

open PyText LspDaemonClient

def contentLengthKey : List Char := "Content-Length:".data

/-- `f"Content-Length: {content_length}\r\n\r\n"`. -/
def header (n : Nat) : List Char := contentLengthKey ++ ' ' :: decimal n ++ ['\r', '\n', '\r', '\n']

def lspFrame (body : Bytes) : Bytes := ascii (header body.length) ++ body

/-- What `send_lsp_request` writes to `proc.stdin`: `message.encode('utf-8')`, where the
header part of `message` is ASCII and the rest is the request's JSON text. -/
def sendLspRequest (lib : JsonLib) (request : Json) : Bytes := lspFrame (lib.dumps request)

def crlf2 : Bytes := [13, 10, 13, 10]

/-- The header loop of both scripts: `read(1)` until `b"\r\n\r\n" in header`, or until
`read(1)` returns `b""`; the header read and the rest of the pipe. -/
def readHeader (header pipe : Bytes) : Bytes × Bytes :=
  if isIn crlf2 header then (header, pipe)
  else match pipe with
    | [] => (header, [])
    | b :: rest => readHeader (header ++ [b]) rest

/-- The `for line in header_str.split('\r\n')` loop: the first `Content-Length:` line decides,
and `0` stands when there is none. -/
def contentLength : List (List Char) → Except PyError Int
  | [] => .ok 0
  | line :: lines =>
    if contentLengthKey.isPrefixOf line then
      match line.splitOn ':' with
      | _ :: field :: _ => pyInt (strip field)
      | _ => .error (.indexError "list index out of range")
    else contentLength lines

/-- `proc.stdout.read(n)` on the rest of the pipe: at most `n` bytes, or all of them for `n = -1`.
`BufferedReader.read` raises `ValueError` for a length below `-1` and `OverflowError` for one
outside `ssize_t`, before it reads. No pipe holds `2 ^ 63` bytes, so the model raises for a large
`n` only on a pipe shorter than `n`, which every real pipe is. -/
def readN (n : Int) (pipe : Bytes) : Except PyError (Bytes × Bytes) :=
  if n < -2 ^ 63 ∨ (2 ^ 63 ≤ n ∧ pipe.length < n) then
    .error (.overflowError "cannot fit 'int' into an index-sized integer")
  else if n < -1 then .error (.valueError "read length must be non-negative or -1")
  else if n = -1 then .ok (pipe, [])
  else .ok (pipe.take n.toNat, pipe.drop n.toNat)

/-- `read_lsp_response(proc)`, once `select` has said whether the pipe is `ready`: the reply
(`None` as `none`) and what is left in the pipe. The header loop's `return None` at end of
file is the test after it: only a loop cut short lacks the blank line. -/
def readLspResponse (lib : JsonLib) (ready : Bool) (pipe : Bytes) :
    Except PyError (Option Json) × Bytes :=
  if !ready then (.ok none, pipe) else
  let (header, rest) := readHeader [] pipe
  if !isIn crlf2 header then (.ok none, rest) else
  match utf8Decode header with
  | none => (.error (.decodeError "'utf-8' codec can't decode"), rest)
  | some headerStr =>
    match contentLength (splitCrlf headerStr) with
    | .error e => (.error e, rest)
    | .ok n =>
      if n = 0 then (.ok none, rest) else
      match readN n rest with
      | .error e => (.error e, rest)
      | .ok (content, rest') => ((lib.loads content).map some, rest')

section HeaderLoop

def Inert (pre : Bytes) : Prop := ∀ y, isIn crlf2 (pre ++ y) = isIn crlf2 y

variable {pre : Bytes} (h : Inert pre)

theorem isIn_crlf2_append {xs : Bytes} (hx : (13 : UInt8) ∉ xs) (ys : Bytes) :
    isIn crlf2 (xs ++ ys) = isIn crlf2 ys := by
  induction xs with
  | nil => rfl
  | cons x xs ih =>
    have hx13 : (13 == x) = false := beq_false_of_ne fun e => hx (e ▸ List.mem_cons_self _ _)
    rw [List.cons_append, isIn, ih fun e => hx (List.mem_cons_of_mem _ e)]
    simp [crlf2, List.isPrefixOf, hx13]

theorem isIn_crlf2_take : ∀ j < 4, isIn crlf2 (crlf2.take j) = false := by decide

include h in
theorem isIn_crlf2_take_frame {k : Nat} (hk : k < pre.length + 4) :
    isIn crlf2 ((pre ++ crlf2).take k) = false := by
  rw [List.take_append_eq_append_take]
  by_cases hk' : k ≤ pre.length
  · rw [Nat.sub_eq_zero_of_le hk', List.take_zero, List.append_nil]
    refine isIn_of_append (pre.drop k) ?_
    rw [List.take_append_drop, ← List.append_nil pre, h]
    rfl
  · rw [List.take_of_length_le (by omega), h]
    exact isIn_crlf2_take _ (by omega)

include h in
theorem readHeader_split (tail : Bytes) :
    ∀ a b, a ++ b = pre ++ crlf2 → readHeader a (b ++ tail) = (pre ++ crlf2, tail)
  | a, [], hab => by
    rw [List.append_nil] at hab
    subst hab
    rw [readHeader.eq_def, if_pos (by rw [h]; rfl)]
    rfl
  | a, x :: b, hab => by
    have hlen : a.length < pre.length + 4 := by
      have := congrArg List.length hab
      simp only [List.length_append, List.length_cons, List.length_nil, crlf2] at this
      omega
    have hpre : isIn crlf2 a = false := by
      have := congrArg (List.take a.length) hab
      rw [List.take_left] at this
      rw [this]
      exact isIn_crlf2_take_frame h hlen
    rw [List.cons_append, readHeader.eq_def, if_neg (by rw [hpre]; exact Bool.false_ne_true)]
    exact readHeader_split tail (a ++ [x]) b (by rw [List.append_assoc]; exact hab)

include h in
theorem readHeader_frame (tail : Bytes) :
    readHeader [] (pre ++ crlf2 ++ tail) = (pre ++ crlf2, tail) :=
  readHeader_split h tail [] _ rfl

end HeaderLoop

section Header

theorem contentLengthKey_char : ∀ c ∈ contentLengthKey, c.toNat < 0x80 ∧ c ≠ '\r' := by decide

theorem headerLine_char {n : Nat} {c : Char} (hc : c ∈ contentLengthKey ++ ' ' :: decimal n) :
    c.toNat < 0x80 ∧ c ≠ '\r' := by
  rcases List.mem_append.mp hc with hk | hm
  · exact contentLengthKey_char c hk
  · rcases List.mem_cons.mp hm with rfl | hm
    · decide
    · obtain ⟨d, hd, rfl⟩ := decimal_mem hm
      exact ⟨(digitChar_facts d hd).2.2.2, (digitChar_facts d hd).2.2.1⟩

theorem ascii_header (n : Nat) :
    ascii (header n) = ascii (contentLengthKey ++ ' ' :: decimal n) ++ crlf2 := by
  rw [header, ascii, List.map_append]
  rfl

theorem cr_not_mem_ascii (n : Nat) : (13 : UInt8) ∉ ascii (contentLengthKey ++ ' ' :: decimal n) := by
  intro hm
  obtain ⟨c, hc, e⟩ := List.mem_map.mp hm
  obtain ⟨hlt, hcr⟩ := headerLine_char hc
  have h13 : c.toNat = 13 := by
    have := congrArg UInt8.toNat e
    rwa [UInt8.toNat_ofNat_of_lt (by simp only [UInt8.size]; omega)] at this
  exact hcr (by rw [← Char.ofNat_toNat c, h13])

theorem readHeader_header (n : Nat) (tail : Bytes) :
    readHeader [] (ascii (header n) ++ tail) = (ascii (header n), tail) := by
  rw [ascii_header]
  exact readHeader_frame (isIn_crlf2_append (cr_not_mem_ascii _)) _

theorem isIn_crlf2_header (n : Nat) : isIn crlf2 (ascii (header n)) = true := by
  rw [ascii_header, isIn_crlf2_append (cr_not_mem_ascii n)]
  rfl

theorem utf8Decode_header (n : Nat) : utf8Decode (ascii (header n)) = some (header n) := by
  refine utf8Decode_ascii _ fun c hc => ?_
  rcases List.mem_append.mp hc with hl | hcrlf
  · exact (headerLine_char hl).1
  · exact (by decide : ∀ c ∈ ['\r', '\n', '\r', '\n'], c.toNat < 0x80) c hcrlf

theorem contentLength_field (n : Nat) (lines : List (List Char)) :
    contentLength ((contentLengthKey ++ ' ' :: decimal n) :: lines) = .ok n := by
  have hpre : contentLengthKey.isPrefixOf (contentLengthKey ++ ' ' :: decimal n) = true :=
    List.isPrefixOf_iff_prefix.mpr (List.prefix_append _ _)
  have hkey : contentLengthKey = "Content-Length".data ++ [':'] := rfl
  have hsplit : (contentLengthKey ++ ' ' :: decimal n).splitOn ':' =
      ["Content-Length".data, ' ' :: decimal n] := by
    rw [hkey, List.append_assoc, List.singleton_append, List.splitOn,
      List.splitOnP_first _ _ (by decide) ':' rfl, List.splitOnP_eq_single]
    intro c hc
    rcases List.mem_cons.mp hc with rfl | hm
    · decide
    · obtain ⟨d, hd, rfl⟩ := decimal_mem hm
      simpa using (digitChar_facts d hd).2.1
  rw [contentLength, if_pos hpre, hsplit]
  show pyInt (strip (' ' :: decimal n)) = _
  rw [strip_space_decimal, pyInt_decimal]

theorem contentLength_header (n : Nat) : contentLength (splitCrlf (header n)) = .ok n := by
  rw [header, splitCrlf_line _ fun hm => (headerLine_char hm).2 rfl, contentLength_field]

theorem contentLength_error {lines : List (List Char)} {e : PyError} (h : contentLength lines = .error e) :
    e = .valueError "invalid literal for int() with base 10" := by
  induction lines with
  | nil => cases h
  | cons line lines ih =>
    rw [contentLength] at h
    split_ifs at h with hp
    · obtain ⟨t, rfl⟩ := List.isPrefixOf_iff_prefix.mp hp
      obtain ⟨f, fs, hf⟩ := List.exists_cons_of_ne_nil (List.splitOnP_ne_nil (· == ':') t)
      have hsplit : (contentLengthKey ++ t).splitOn ':' = "Content-Length".data :: f :: fs := by
        rw [show contentLengthKey = "Content-Length".data ++ [':'] from rfl, List.append_assoc,
          List.singleton_append, List.splitOn, List.splitOnP_first _ _ (by decide) ':' rfl, hf]
      rw [hsplit] at h
      exact pyInt_error h
    · exact ih h

theorem readN_ofNat {n : Nat} {pipe : Bytes} (h : n < 2 ^ 63 ∨ n ≤ pipe.length) :
    readN n pipe = .ok (pipe.take n, pipe.drop n) := by
  rw [readN, if_neg (by omega), if_neg (by omega), if_neg (by omega), Int.toNat_ofNat]

theorem readN_body (body rest : Bytes) : readN body.length (body ++ rest) = .ok (body, rest) := by
  have h : body.length ≤ (body ++ rest).length := by simp
  rw [readN_ofNat (.inr h), List.take_left, List.drop_left]

theorem readN_neg {k : Nat} (hk : 0 < k) (pipe : Bytes) :
    readN (-(k : Int)) pipe =
      if k = 1 then .ok (pipe, [])
      else .error (if k ≤ 2 ^ 63 then .valueError "read length must be non-negative or -1"
        else .overflowError "cannot fit 'int' into an index-sized integer") := by
  unfold readN
  split_ifs <;> first | rfl | omega

theorem readN_of_overflow {n : Nat} {pipe : Bytes} (hn : 2 ^ 63 ≤ n) (h : pipe.length < n) :
    readN n pipe = .error (.overflowError "cannot fit 'int' into an index-sized integer") :=
  if_pos (.inr ⟨by omega, by omega⟩)

end Header

theorem readLspResponse_header (lib : JsonLib) {n : Nat} (hn : n ≠ 0) (tail : Bytes) :
    readLspResponse lib true (ascii (header n) ++ tail) =
      match readN n tail with
      | .error e => (.error e, tail)
      | .ok (content, rest) => ((lib.loads content).map some, rest) := by
  have hn' : (n : Int) ≠ 0 := by omega
  rw [readLspResponse, readHeader_header]
  simp only [Bool.not_true, isIn_crlf2_header, utf8Decode_header, contentLength_header]
  rw [if_neg hn']
  rfl

theorem readLspResponse_lspFrame (lib : JsonLib) {body : Bytes} (h : body ≠ []) (rest : Bytes) :
    readLspResponse lib true (lspFrame body ++ rest) = ((lib.loads body).map some, rest) := by
  rw [lspFrame, List.append_assoc, readLspResponse_header lib (by simpa using h), readN_body]

theorem readLspResponse_sendLspRequest (lib : JsonLib) (request : Json) (rest : Bytes)
    (h : lib.dumps request ≠ []) :
    readLspResponse lib true (sendLspRequest lib request ++ rest) =
      ((lib.loads (lib.dumps request)).map some, rest) :=
  readLspResponse_lspFrame lib h rest

theorem readLspResponse_sendLspRequest_empty :
    emptyDictLib.dumps (.obj []) ≠ [] ∧
      readLspResponse emptyDictLib true (sendLspRequest emptyDictLib (.obj []) ++ [7]) =
        ((emptyDictLib.loads (emptyDictLib.dumps (.obj []))).map some, [7]) :=
  ⟨List.cons_ne_nil _ _, readLspResponse_sendLspRequest emptyDictLib (.obj []) [7] (List.cons_ne_nil _ _)⟩

theorem readN_error {n : Int} {pipe : Bytes} {e : PyError} (h : readN n pipe = .error e) :
    e = .valueError "read length must be non-negative or -1" ∨
      e = .overflowError "cannot fit 'int' into an index-sized integer" := by
  unfold readN at h
  split_ifs at h <;> cases h
  · exact .inr rfl
  · exact .inl rfl

end ProbeLsp.Gopls
