import ProbeLsp.LspMessages
import ProbeLsp.Inspector

namespace ProbeLsp.Gopls

open PyText LspDaemonClient

/-- `'\r\n'.join(fields)`. -/
def joinCrlf : List (List Char) → List Char
  | [] => []
  | [field] => field
  | field :: next :: fields => field ++ '\r' :: '\n' :: joinCrlf (next :: fields)

def headerBlock (fields : List (List Char)) : List Char := joinCrlf fields ++ ['\r', '\n', '\r', '\n']

def contentLengthField (n : Nat) : List Char := contentLengthKey ++ ' ' :: decimal n

def Crfree (s : List Char) : Prop := ∀ c ∈ s, c.toNat < 0x80 ∧ c ≠ '\r'

def OtherField (field : List Char) : Prop :=
  field ≠ [] ∧ Crfree field ∧ contentLengthKey.isPrefixOf field = false

def ObjectText (body : List Char) : Prop := body.head? = some '{' ∧ Crfree body

def framed (bodies : List (List Char)) : Bytes := (bodies.map fun body => lspFrame (ascii body)).flatten

def Desynced (pipe : Bytes) : Prop :=
  pipe = [] ∨ ∃ body bodies, ObjectText body ∧ (∀ b ∈ bodies, ObjectText b) ∧ pipe = ascii body ++ framed bodies

def Lost (pipe : Bytes) : Prop :=
  Desynced pipe ∨
    ∃ fields rest, (∀ f ∈ fields, OtherField f) ∧ Desynced rest ∧ pipe = ascii (headerBlock fields) ++ rest

instance : DecidablePred Crfree := fun s => inferInstanceAs (Decidable (∀ c ∈ s, _))

instance : DecidablePred OtherField := fun f =>
  inferInstanceAs (Decidable (f ≠ [] ∧ Crfree f ∧ contentLengthKey.isPrefixOf f = false))

instance : DecidablePred ObjectText := fun b => inferInstanceAs (Decidable (b.head? = some '{' ∧ Crfree b))

theorem OtherField.ok {field : List Char} (h : OtherField field) : field ≠ [] ∧ Crfree field := ⟨h.1, h.2.1⟩

@[simp] theorem framed_nil : framed [] = [] := rfl

@[simp] theorem framed_cons (body : List Char) (bodies : List (List Char)) :
    framed (body :: bodies) = lspFrame (ascii body) ++ framed bodies := rfl

example : headerBlock [contentLengthField 12] = header 12 := rfl

section Needle

theorem isIn_crlf2_cr_lf {c : UInt8} (hc : c ≠ 13) (z : Bytes) :
    isIn crlf2 (13 :: 10 :: c :: z) = isIn crlf2 (c :: z) := by
  have h₁ : crlf2.isPrefixOf (13 :: 10 :: c :: z) = false := by
    simp only [crlf2, List.isPrefixOf, beq_self_eq_true, beq_false_of_ne (Ne.symm hc), Bool.true_and,
      Bool.false_and]
  rw [isIn, isIn, h₁]
  rfl

theorem ascii_append (a b : List Char) : ascii (a ++ b) = ascii a ++ ascii b := List.map_append _ _ _

theorem ascii_crlf (s : List Char) : ascii ('\r' :: '\n' :: s) = 13 :: 10 :: ascii s := rfl

theorem ascii_cons (c : Char) (s : List Char) : ascii (c :: s) = UInt8.ofNat c.toNat :: ascii s := rfl

theorem ascii_toNat {c : Char} (h : c.toNat < 0x80) : (UInt8.ofNat c.toNat).toNat = c.toNat :=
  UInt8.toNat_ofNat_of_lt (by simp only [UInt8.size]; omega)

theorem ascii_ne_cr {c : Char} (h : c.toNat < 0x80 ∧ c ≠ '\r') : UInt8.ofNat c.toNat ≠ 13 := by
  intro e
  have h13 : c.toNat = 13 := by rw [← ascii_toNat h.1, e]; rfl
  exact h.2 (by rw [← Char.ofNat_toNat c, h13])

theorem cr_not_mem_ascii_of {s : List Char} (h : Crfree s) : (13 : UInt8) ∉ ascii s := by
  intro hm
  obtain ⟨c, hc, e⟩ := List.mem_map.mp hm
  exact ascii_ne_cr (h c hc) e

theorem inert_ascii {s : List Char} (h : Crfree s) : Inert (ascii s) :=
  isIn_crlf2_append (cr_not_mem_ascii_of h)

theorem joinCrlf_cons (g : List Char) : ∀ fs, ∃ t, joinCrlf (g :: fs) = g ++ t
  | [] => ⟨[], (List.append_nil g).symm⟩
  | _ :: _ => ⟨_, rfl⟩

theorem inert_joinCrlf : ∀ fields : List (List Char), (∀ f ∈ fields, f ≠ [] ∧ Crfree f) →
    Inert (ascii (joinCrlf fields))
  | [], _ => fun _ => rfl
  | [f], h => inert_ascii (h f (List.mem_singleton_self f)).2
  | f :: g :: fs, h => fun y => by
    have hg := h g (by simp)
    obtain ⟨c, g', rfl⟩ := List.exists_cons_of_ne_nil hg.1
    obtain ⟨t, ht⟩ := joinCrlf_cons (c :: g') fs
    have ih := inert_joinCrlf ((c :: g') :: fs) (fun f hf => h f (List.mem_cons_of_mem _ hf)) y
    rw [ht, List.cons_append, ascii_cons, List.cons_append] at ih
    rw [joinCrlf, ht, ascii_append, List.append_assoc, inert_ascii (h f (by simp)).2, ascii_crlf,
      List.cons_append, List.cons_append, List.cons_append c g' t, ascii_cons, List.cons_append,
      isIn_crlf2_cr_lf (ascii_ne_cr (hg.2 c (List.mem_cons_self _ _)))]
    exact ih

end Needle

section Block

theorem mem_joinCrlf {c : Char} : ∀ {fields : List (List Char)}, c ∈ joinCrlf fields →
    (∃ f ∈ fields, c ∈ f) ∨ c = '\r' ∨ c = '\n'
  | [], h => absurd h (List.not_mem_nil c)
  | [f], h => .inl ⟨f, List.mem_singleton_self f, h⟩
  | f :: g :: fs, h => by
    rw [joinCrlf] at h
    rcases List.mem_append.mp h with h | h
    · exact .inl ⟨f, List.mem_cons_self _ _, h⟩
    · rcases List.mem_cons.mp h with h | h
      · exact .inr (.inl h)
      rcases List.mem_cons.mp h with h | h
      · exact .inr (.inr h)
      rcases mem_joinCrlf h with ⟨f', hf', hc⟩ | h
      · exact .inl ⟨f', List.mem_cons_of_mem _ hf', hc⟩
      · exact .inr h

theorem ascii_headerBlock (fields : List (List Char)) :
    ascii (headerBlock fields) = ascii (joinCrlf fields) ++ crlf2 := by
  rw [headerBlock, ascii_append]
  rfl

variable {fields : List (List Char)} (hf : ∀ f ∈ fields, f ≠ [] ∧ Crfree f)

include hf in
theorem readHeader_headerBlock (tail : Bytes) :
    readHeader [] (ascii (headerBlock fields) ++ tail) = (ascii (headerBlock fields), tail) := by
  rw [ascii_headerBlock]
  exact readHeader_frame (inert_joinCrlf fields hf) tail

include hf in
theorem isIn_crlf2_headerBlock : isIn crlf2 (ascii (headerBlock fields)) = true := by
  rw [ascii_headerBlock, inert_joinCrlf fields hf]
  rfl

include hf in
theorem utf8Decode_headerBlock : utf8Decode (ascii (headerBlock fields)) = some (headerBlock fields) := by
  refine utf8Decode_ascii _ fun c hc => ?_
  rcases List.mem_append.mp hc with hc | hc
  · rcases mem_joinCrlf hc with ⟨f, hf', hc⟩ | rfl | rfl
    · exact ((hf f hf').2 c hc).1
    all_goals decide
  · exact (by decide : ∀ c ∈ ['\r', '\n', '\r', '\n'], c.toNat < 0x80) c hc

end Block

theorem splitCrlf_joinCrlf (rest : List Char) :
    ∀ (f : List Char) (fs : List (List Char)), (∀ g ∈ f :: fs, Crfree g) →
      splitCrlf (joinCrlf (f :: fs) ++ '\r' :: '\n' :: rest) = f :: fs ++ splitCrlf rest
  | f, [], h => splitCrlf_line f (fun hm => ((h f (List.mem_cons_self _ _)) _ hm).2 rfl) rest
  | f, g :: gs, h => by
    rw [joinCrlf, List.append_assoc, List.cons_append, List.cons_append,
      splitCrlf_line f (fun hm => ((h f (List.mem_cons_self _ _)) _ hm).2 rfl),
      splitCrlf_joinCrlf rest g gs fun g' hg' => h g' (List.mem_cons_of_mem _ hg')]
    rfl

theorem contentLength_append {pre : List (List Char)} (h : ∀ f ∈ pre, contentLengthKey.isPrefixOf f = false)
    (lines : List (List Char)) : contentLength (pre ++ lines) = contentLength lines := by
  induction pre with
  | nil => rfl
  | cons f pre ih =>
    rw [List.cons_append, contentLength, if_neg (by rw [h f (List.mem_cons_self _ _)]; exact Bool.false_ne_true),
      ih fun g hg => h g (List.mem_cons_of_mem _ hg)]

theorem splitCrlf_headerBlock {fields : List (List Char)} (hne : fields ≠ []) (h : ∀ f ∈ fields, Crfree f) :
    splitCrlf (headerBlock fields) = fields ++ [[], []] := by
  obtain ⟨f, fs, rfl⟩ := List.exists_cons_of_ne_nil hne
  exact splitCrlf_joinCrlf ['\r', '\n'] f fs h

theorem headerFields_ok {pre post : List (List Char)} (hpre : ∀ f ∈ pre, OtherField f)
    (hpost : ∀ f ∈ post, f ≠ [] ∧ Crfree f) (n : Nat) :
    ∀ f ∈ pre ++ contentLengthField n :: post, f ≠ [] ∧ Crfree f := by
  intro f hf
  rcases List.mem_append.mp hf with hf | hf
  · exact (hpre f hf).ok
  rcases List.mem_cons.mp hf with rfl | hf
  · exact ⟨List.ne_nil_of_mem (List.mem_append_right _ (List.mem_cons_self ' ' _)), fun c hc => headerLine_char hc⟩
  · exact hpost f hf

theorem contentLength_headerBlock_field {pre post : List (List Char)} (hpre : ∀ f ∈ pre, OtherField f)
    (hpost : ∀ f ∈ post, f ≠ [] ∧ Crfree f) (n : Nat) :
    contentLength (splitCrlf (headerBlock (pre ++ contentLengthField n :: post))) = .ok n := by
  rw [splitCrlf_headerBlock (by simp) fun f hf => (headerFields_ok hpre hpost n f hf).2, List.append_assoc,
    contentLength_append fun f hf => (hpre f hf).2.2, List.cons_append]
  exact contentLength_field n _

theorem contentLength_headerBlock_none {fields : List (List Char)} (h : ∀ f ∈ fields, OtherField f) :
    contentLength (splitCrlf (headerBlock fields)) = .ok 0 := by
  cases fields with
  | nil => rfl
  | cons f fs =>
    rw [splitCrlf_headerBlock (List.cons_ne_nil f fs) fun g hg => (h g hg).2.1,
      contentLength_append fun g hg => (h g hg).2.2]
    rfl

section Readers

variable (lib : JsonLib) {fields : List (List Char)} (hf : ∀ f ∈ fields, f ≠ [] ∧ Crfree f)

theorem isEmpty_ascii_headerBlock (fields : List (List Char)) : (ascii (headerBlock fields)).isEmpty = false := by
  rw [ascii_headerBlock, List.isEmpty_eq_false_iff_exists_mem]
  exact ⟨13, List.mem_append_right _ (List.mem_cons_self _ _)⟩

include hf in
theorem readLspResponse_headerBlock {n : Int} (hn : contentLength (splitCrlf (headerBlock fields)) = .ok n)
    (tail : Bytes) :
    readLspResponse lib true (ascii (headerBlock fields) ++ tail) =
      if n = 0 then (.ok none, tail) else
        match readN n tail with
        | .error e => (.error e, tail)
        | .ok (content, rest) => ((lib.loads content).map some, rest) := by
  rw [readLspResponse, readHeader_headerBlock hf]
  simp only [Bool.not_true, isIn_crlf2_headerBlock hf, utf8Decode_headerBlock hf, hn]
  rfl

include hf in
theorem readMessage_headerBlock {n : Int} (hn : contentLength (splitCrlf (headerBlock fields)) = .ok n)
    (tail : Bytes) :
    readMessage lib (ascii (headerBlock fields) ++ tail) =
      if n = 0 then (.skip, tail) else
        match readN n tail with
        | .error _ => (.stop, tail)
        | .ok (content, rest) =>
          match lib.loads content with
          | .error _ => (.stop, rest)
          | .ok msg => (.message msg (reportRaises msg), rest) := by
  rw [readMessage, readHeader_headerBlock hf]
  simp only [isEmpty_ascii_headerBlock, utf8Decode_headerBlock hf, hn]
  rfl

theorem readers_headerFields {pre post : List (List Char)} (hpre : ∀ f ∈ pre, OtherField f)
    (hpost : ∀ f ∈ post, f ≠ [] ∧ Crfree f) {body : Bytes} (hb : body ≠ []) (rest : Bytes) :
    readLspResponse lib true (ascii (headerBlock (pre ++ contentLengthField body.length :: post)) ++ body ++ rest) =
        ((lib.loads body).map some, rest) ∧
      ∀ msg, lib.loads body = .ok msg →
        readMessage lib (ascii (headerBlock (pre ++ contentLengthField body.length :: post)) ++ body ++ rest) =
          (.message msg (reportRaises msg), rest) := by
  have hn := contentLength_headerBlock_field hpre hpost body.length
  have hf := headerFields_ok hpre hpost body.length
  have h0 : ((body.length : Nat) : Int) ≠ 0 := by simpa using hb
  rw [List.append_assoc]
  refine ⟨?_, fun msg hl => ?_⟩
  · rw [readLspResponse_headerBlock lib hf hn, if_neg h0, readN_body]
  · rw [readMessage_headerBlock lib hf hn, if_neg h0, readN_body]
    simp only [hl]

theorem readers_headerFields_contentType :
    (∀ f ∈ ["Content-Type: utf-8".data], OtherField f) ∧ (∀ f ∈ ([] : List (List Char)), f ≠ [] ∧ Crfree f) ∧
      ([7] : Bytes) ≠ [] ∧
      (readLspResponse emptyDictLib true
          (ascii (headerBlock (["Content-Type: utf-8".data] ++ [contentLengthField ([7] : Bytes).length])) ++ [7] ++ []) =
          ((emptyDictLib.loads [7]).map some, []) ∧
        ∀ msg, emptyDictLib.loads [7] = .ok msg →
          readMessage emptyDictLib
            (ascii (headerBlock (["Content-Type: utf-8".data] ++ [contentLengthField ([7] : Bytes).length])) ++ [7] ++ []) =
            (.message msg (reportRaises msg), [])) :=
  ⟨by decide, by decide, by decide, readers_headerFields emptyDictLib (by decide) (by decide) (by decide) []⟩

theorem readLspResponse_noLength (h : ∀ f ∈ fields, OtherField f) (tail : Bytes) :
    readLspResponse lib true (ascii (headerBlock fields) ++ tail) = (.ok none, tail) := by
  rw [readLspResponse_headerBlock lib (fun f hf => (h f hf).ok) (contentLength_headerBlock_none h), if_pos rfl]

theorem readMessage_noLength (h : ∀ f ∈ fields, OtherField f) (tail : Bytes) :
    readMessage lib (ascii (headerBlock fields) ++ tail) = (.skip, tail) := by
  rw [readMessage_headerBlock lib (fun f hf => (h f hf).ok) (contentLength_headerBlock_none h), if_pos rfl]

end Readers

section NegativeLength

variable (lib : JsonLib)

theorem contentLength_key (v : List Char) (hv : ':' ∉ v) (lines : List (List Char)) :
    contentLength ((contentLengthKey ++ v) :: lines) = pyInt (strip v) := by
  have hpre : contentLengthKey.isPrefixOf (contentLengthKey ++ v) = true :=
    List.isPrefixOf_iff_prefix.mpr (List.prefix_append _ _)
  have hsplit : (contentLengthKey ++ v).splitOn ':' = ["Content-Length".data, v] := by
    rw [show contentLengthKey = "Content-Length".data ++ [':'] from rfl, List.append_assoc, List.singleton_append,
      List.splitOn, List.splitOnP_first _ _ (by decide) ':' rfl, List.splitOnP_eq_single]
    intro c hc h
    exact hv (beq_iff_eq.mp h ▸ hc)
  rw [contentLength, if_pos hpre, hsplit]

theorem unsignedInt_decimal (k : Nat) : unsignedInt (decimal k) = some k := by
  obtain ⟨c, cs, hcs⟩ := List.exists_cons_of_ne_nil (decimal_ne_nil k)
  obtain ⟨d, hd, rfl⟩ := decimal_mem (hcs ▸ List.mem_cons_self _ cs)
  have h := pyInt_decimal k
  rw [pyInt, hcs, signedInt_of_digit (digitVal_digitChar hd)] at h
  rw [hcs, unsignedInt, digitVal_digitChar hd, Option.some_bind]
  cases hr : readDigits d cs with
  | none => simp [hr] at h
  | some n =>
    simp [hr] at h
    rw [h]

theorem pyInt_neg_decimal (k : Nat) : pyInt ('-' :: decimal k) = .ok (-k) := by
  simp [pyInt, signedInt, unsignedInt_decimal]

theorem strip_space_neg_decimal (k : Nat) : strip (' ' :: '-' :: decimal k) = '-' :: decimal k := by
  have hs : ∀ c ∈ '-' :: decimal k, isSpace c = false := by
    intro c hc
    rcases List.mem_cons.mp hc with rfl | hc
    · decide
    obtain ⟨d, hd, rfl⟩ := decimal_mem hc
    exact (digitChar_facts d hd).1
  rw [strip, List.dropWhile_cons, if_pos (by decide : isSpace ' ' = true), dropWhile_of_forall hs,
    dropWhile_of_forall fun c hc => hs c (List.mem_reverse.mp hc), List.reverse_reverse]

theorem negativeField_ok (k : Nat) :
    contentLengthKey ++ ' ' :: '-' :: decimal k ≠ [] ∧ Crfree (contentLengthKey ++ ' ' :: '-' :: decimal k) := by
  refine ⟨List.ne_nil_of_mem (List.mem_append_right _ (List.mem_cons_self _ _)), fun c hc => ?_⟩
  rcases List.mem_append.mp hc with hk | hm
  · exact contentLengthKey_char c hk
  rcases List.mem_cons.mp hm with rfl | hm
  · decide
  rcases List.mem_cons.mp hm with rfl | hm
  · decide
  obtain ⟨d, hd, rfl⟩ := decimal_mem hm
  exact ⟨(digitChar_facts d hd).2.2.2, (digitChar_facts d hd).2.2.1⟩

theorem contentLength_headerBlock_negative (k : Nat) :
    contentLength (splitCrlf (headerBlock [contentLengthKey ++ ' ' :: '-' :: decimal k])) = .ok (-k) := by
  have hv : ':' ∉ ' ' :: '-' :: decimal k := by
    intro hm
    rcases List.mem_cons.mp hm with h | hm
    · exact absurd h (by decide)
    rcases List.mem_cons.mp hm with h | hm
    · exact absurd h (by decide)
    obtain ⟨d, hd, h⟩ := decimal_mem hm
    exact (digitChar_facts d hd).2.1 h.symm
  rw [splitCrlf_headerBlock (List.cons_ne_nil _ _) fun f hf => List.mem_singleton.mp hf ▸ (negativeField_ok k).2,
    List.singleton_append, contentLength_key _ hv, strip_space_neg_decimal, pyInt_neg_decimal]

theorem readLspMessages_nil : ∀ ready : List Bool, readLspMessages lib ready [] = []
  | [] => rfl
  | false :: ready => readLspMessages_nil ready
  | true :: ready => readLspMessages_eof lib ready

theorem readers_negativeLength (k : Nat) (rest : Bytes) :
    (k = 1 →
      readLspResponse lib true (ascii (headerBlock [contentLengthKey ++ ' ' :: '-' :: decimal k]) ++ rest) =
          ((lib.loads rest).map some, []) ∧
        ∀ ready, readLspMessages lib (true :: ready)
            (ascii (headerBlock [contentLengthKey ++ ' ' :: '-' :: decimal k]) ++ rest) =
          match lib.loads rest with
          | .ok msg => [msg]
          | .error _ => []) ∧
    (2 ≤ k →
      readLspResponse lib true (ascii (headerBlock [contentLengthKey ++ ' ' :: '-' :: decimal k]) ++ rest) =
          (.error (if k ≤ 2 ^ 63 then .valueError "read length must be non-negative or -1"
            else .overflowError "cannot fit 'int' into an index-sized integer"), rest) ∧
        ∀ ready, readLspMessages lib (true :: ready)
            (ascii (headerBlock [contentLengthKey ++ ' ' :: '-' :: decimal k]) ++ rest) = []) := by
  have hf : ∀ f ∈ [contentLengthKey ++ ' ' :: '-' :: decimal k], f ≠ [] ∧ Crfree f :=
    fun f hf => List.mem_singleton.mp hf ▸ negativeField_ok k
  have hn := contentLength_headerBlock_negative k
  refine ⟨fun hk => ?_, fun hk => ?_⟩
  · have h0 : -(k : Int) ≠ 0 := by omega
    have hr : readN (-(k : Int)) rest = .ok (rest, []) := by rw [readN_neg (by omega), if_pos hk]
    refine ⟨by rw [readLspResponse_headerBlock lib hf hn, if_neg h0, hr], fun ready => ?_⟩
    rw [readLspMessages, readLspMessagesRest, readMessage_headerBlock lib hf hn, if_neg h0, hr]
    dsimp only
    cases lib.loads rest with
    | error e => rfl
    | ok msg =>
      dsimp only
      cases reportRaises msg
      · exact congrArg (msg :: ·) (readLspMessages_nil lib ready)
      · rfl
  · have h0 : -(k : Int) ≠ 0 := by omega
    have hr := readN_neg (k := k) (by omega) rest
    rw [if_neg (by omega : k ≠ 1)] at hr
    refine ⟨by rw [readLspResponse_headerBlock lib hf hn, if_neg h0, hr], fun ready => ?_⟩
    rw [readLspMessages, readLspMessagesRest, readMessage_headerBlock lib hf hn, if_neg h0, hr]

theorem readers_negativeLength_two :
    readLspResponse emptyDictLib true (ascii (headerBlock [contentLengthKey ++ ' ' :: '-' :: decimal 2]) ++ [7]) =
        (.error (if 2 ≤ 2 ^ 63 then .valueError "read length must be non-negative or -1"
          else .overflowError "cannot fit 'int' into an index-sized integer"), [7]) ∧
      ∀ ready, readLspMessages emptyDictLib (true :: ready)
          (ascii (headerBlock [contentLengthKey ++ ' ' :: '-' :: decimal 2]) ++ [7]) = [] :=
  (readers_negativeLength emptyDictLib 2 [7]).2 (by decide)

end NegativeLength

section Desync

variable (lib : JsonLib)

theorem headerBlock_field (text : List Char) (n : Nat) :
    headerBlock [text ++ contentLengthField n] = text ++ header n := by
  simp only [headerBlock, joinCrlf, contentLengthField, header, List.append_assoc]

theorem ascii_text_lspFrame (text : List Char) (x : Bytes) :
    ascii text ++ lspFrame x = ascii (headerBlock [text ++ contentLengthField x.length]) ++ x := by
  rw [headerBlock_field, ascii_append, lspFrame, List.append_assoc]

theorem ObjectText.eq_cons {body : List Char} (hb : ObjectText body) : ∃ b, body = '{' :: b := by
  cases body with
  | nil => cases hb.1
  | cons c b => exact ⟨b, by rw [Option.some.inj hb.1]⟩

theorem objectText_isPrefixOf {body : List Char} (hb : ObjectText body) (s : List Char) :
    contentLengthKey.isPrefixOf (body ++ s) = false := by
  obtain ⟨b, rfl⟩ := hb.eq_cons
  rfl

theorem objectText_field {body : List Char} (hb : ObjectText body) (n : Nat) :
    OtherField (body ++ contentLengthField n) :=
  ⟨List.ne_nil_of_mem (List.mem_append_right _ (List.mem_append_right _ (List.mem_cons_self ' ' _))),
    fun c hc => (List.mem_append.mp hc).elim (hb.2 c) headerLine_char, objectText_isPrefixOf hb _⟩

theorem readHeader_of_isIn_false : ∀ {acc : Bytes} (pipe : Bytes), isIn crlf2 (acc ++ pipe) = false →
    readHeader acc pipe = (acc ++ pipe, [])
  | acc, [], h => by
    rw [List.append_nil] at h
    rw [readHeader, if_neg (by rw [h]; exact Bool.false_ne_true), List.append_nil]
  | acc, b :: rest, h => by
    rw [readHeader, if_neg (by rw [isIn_of_append _ h]; exact Bool.false_ne_true),
      readHeader_of_isIn_false rest (by rwa [List.append_assoc]), List.append_assoc, List.singleton_append]

theorem splitCrlf_of_cr_not_mem : ∀ {s : List Char}, '\r' ∉ s → splitCrlf s = [s]
  | [], _ => rfl
  | c :: s, h => by
    rw [splitCrlf_cons (fun e => h (e ▸ List.mem_cons_self _ _)),
      splitCrlf_of_cr_not_mem fun hm => h (List.mem_cons_of_mem _ hm)]
    rfl

theorem ascii_text_framed {body : List Char} (hb : ObjectText body) (b : List Char) (bs : List (List Char)) :
    ∃ fields, (∀ f ∈ fields, OtherField f) ∧
      ascii body ++ framed (b :: bs) = ascii (headerBlock fields) ++ (ascii b ++ framed bs) :=
  ⟨_, fun f hf => List.mem_singleton.mp hf ▸ objectText_field hb (ascii b).length,
    by rw [framed_cons, ← List.append_assoc, ascii_text_lspFrame, List.append_assoc]⟩

theorem Desynced.of_cons {b : List Char} {bs : List (List Char)} (h : ∀ b' ∈ b :: bs, ObjectText b') :
    Desynced (ascii b ++ framed bs) :=
  .inr ⟨b, bs, h b (List.mem_cons_self _ _), fun b' hb' => h b' (List.mem_cons_of_mem _ hb'), rfl⟩

theorem isIn_crlf2_objectText {body : List Char} (hb : ObjectText body) : isIn crlf2 (ascii body) = false := by
  rw [← List.append_nil (ascii body), inert_ascii hb.2]
  rfl

theorem readLspResponse_objectText {body : List Char} (hb : ObjectText body) :
    readLspResponse lib true (ascii body) = (.ok none, []) := by
  rw [readLspResponse, readHeader_of_isIn_false _ (isIn_crlf2_objectText hb), List.nil_append]
  simp only [isIn_crlf2_objectText hb, Bool.not_false, Bool.not_true]
  rfl

theorem readMessage_objectText {body : List Char} (hb : ObjectText body) :
    readMessage lib (ascii body) = (.skip, []) := by
  have hn : contentLength [body] = .ok 0 := by
    rw [← List.append_nil [body], contentLength_append fun f hf => by
      rw [List.mem_singleton.mp hf, ← objectText_isPrefixOf hb [], List.append_nil]]
    rfl
  have hne : (ascii body).isEmpty = false := by
    obtain ⟨b, rfl⟩ := hb.eq_cons
    rfl
  rw [readMessage, readHeader_of_isIn_false _ (isIn_crlf2_objectText hb), List.nil_append]
  simp only [hne, utf8Decode_ascii body fun c hc => (hb.2 c hc).1,
    splitCrlf_of_cr_not_mem fun hm => (hb.2 _ hm).2 rfl, hn]
  rfl

theorem readMessage_desynced {pipe : Bytes} (h : Desynced pipe) (hne : pipe ≠ []) :
    ∃ rest, readMessage lib pipe = (.skip, rest) ∧ Desynced rest := by
  rcases h with rfl | ⟨body, bodies, hb, hbs, rfl⟩
  · exact absurd rfl hne
  cases bodies with
  | nil => exact ⟨[], by rw [framed_nil, List.append_nil, readMessage_objectText lib hb], .inl rfl⟩
  | cons b bs =>
    obtain ⟨fields, hf, e⟩ := ascii_text_framed hb b bs
    exact ⟨_, by rw [e, readMessage_noLength lib hf], .of_cons hbs⟩

theorem readLspResponse_desynced {pipe : Bytes} (h : Desynced pipe) :
    ∃ rest, readLspResponse lib true pipe = (.ok none, rest) ∧ Desynced rest := by
  rcases h with rfl | ⟨body, bodies, hb, hbs, rfl⟩
  · exact ⟨[], rfl, .inl rfl⟩
  cases bodies with
  | nil => exact ⟨[], by rw [framed_nil, List.append_nil, readLspResponse_objectText lib hb], .inl rfl⟩
  | cons b bs =>
    obtain ⟨fields, hf, e⟩ := ascii_text_framed hb b bs
    exact ⟨_, by rw [e, readLspResponse_noLength lib hf], .of_cons hbs⟩

theorem readMessage_lost {pipe : Bytes} (h : Lost pipe) (hne : pipe ≠ []) :
    ∃ rest, readMessage lib pipe = (.skip, rest) ∧ Lost rest := by
  rcases h with h | ⟨fields, rest, hf, hd, rfl⟩
  · obtain ⟨rest, hr, hd⟩ := readMessage_desynced lib h hne
    exact ⟨rest, hr, .inl hd⟩
  · exact ⟨rest, readMessage_noLength lib hf rest, .inl hd⟩

theorem readLspResponse_lost {pipe : Bytes} (h : Lost pipe) :
    ∃ rest, readLspResponse lib true pipe = (.ok none, rest) ∧ Lost rest := by
  rcases h with h | ⟨fields, rest, hf, hd, rfl⟩
  · obtain ⟨rest, hr, hd⟩ := readLspResponse_desynced lib h
    exact ⟨rest, hr, .inl hd⟩
  · exact ⟨rest, readLspResponse_noLength lib hf rest, .inl hd⟩

end Desync

namespace Inspector

section Silent

variable (lib : JsonLib) {P : Bytes → Prop}
  (hstep : ∀ pipe, P pipe → ∃ rest, readLspResponse lib true pipe = (.ok none, rest) ∧ P rest)

theorem followPrepare_none (ready : Nat → Bool) (p : Pipes) : followPrepare lib ready none p = .ok () p := rfl

include hstep in
theorem receive_of_none (ready : Nat → Bool) (stdin : List Json) {pipe : Bytes} (h : P pipe) (k : Nat) :
    ∃ rest, receive lib ready ⟨stdin, pipe, k⟩ = .ok none ⟨stdin, rest, k + 1⟩ ∧ P rest := by
  cases hr : ready k
  · exact ⟨pipe, by simp only [receive, hr, readLspResponse, Bool.not_false, if_true], h⟩
  · obtain ⟨rest, he, hp⟩ := hstep pipe h
    exact ⟨rest, by simp only [receive, hr, he], hp⟩

include hstep in
theorem main_of_none (ready : Nat → Bool) (content : String) {pipe : Bytes} (h : P pipe) (k : Nat) :
    ∃ rest, main lib ready content ⟨[], pipe, k⟩ =
      .ok () ⟨[initializeRequest, initializedNotification, didOpenNotification content, prepareCallHierarchyRequest,
        shutdownRequest, exitNotification], rest, k + 3⟩ := by
  obtain ⟨r₁, h₁, p₁⟩ := receive_of_none lib hstep ready [initializeRequest] h k
  obtain ⟨r₂, h₂, p₂⟩ := receive_of_none lib hstep ready
    [initializeRequest, initializedNotification, didOpenNotification content, prepareCallHierarchyRequest] p₁ (k + 1)
  obtain ⟨r₃, h₃, -⟩ := receive_of_none lib hstep ready
    [initializeRequest, initializedNotification, didOpenNotification content, prepareCallHierarchyRequest,
      shutdownRequest] p₂ (k + 1 + 1)
  refine ⟨r₃, ?_⟩
  unfold main
  rw [bind_ok (send_apply _ _)]
  simp only [List.nil_append]
  rw [bind_ok h₁, bind_ok (send_apply _ _), bind_ok (send_apply _ _), bind_ok (send_apply _ _)]
  simp only [List.cons_append, List.nil_append]
  rw [bind_ok h₂, bind_ok (followPrepare_none lib ready _), bind_ok (send_apply _ _)]
  simp only [List.cons_append, List.nil_append]
  rw [bind_ok h₃]
  rfl

end Silent

end Inspector

section Lost

variable (lib : JsonLib)

end Lost

end ProbeLsp.Gopls
