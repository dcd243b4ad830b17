import ProbeLsp.Client

namespace ProbeLsp.PyText

/-- `str(n)` for a non-negative `int`. -/
def decimal (n : Nat) : List Char :=
  if n = 0 then ['0'] else (Nat.digits 10 n).reverse.map Nat.digitChar

/-- The code point of the digit zero of each run of ten decimal digits (category `Nd`) in the
Unicode 15.0 tables of Python 3.12: `int()` reads a digit of any of these scripts. -/
def decimalZeros : List Nat :=
  [0x30, 0x660, 0x6F0, 0x7C0, 0x966, 0x9E6, 0xA66, 0xAE6, 0xB66, 0xBE6, 0xC66, 0xCE6, 0xD66, 0xDE6,
    0xE50, 0xED0, 0xF20, 0x1040, 0x1090, 0x17E0, 0x1810, 0x1946, 0x19D0, 0x1A80, 0x1A90, 0x1B50,
    0x1BB0, 0x1C40, 0x1C50, 0xA620, 0xA8D0, 0xA900, 0xA9D0, 0xA9F0, 0xAA50, 0xABF0, 0xFF10,
    0x104A0, 0x10D30, 0x11066, 0x110F0, 0x11136, 0x111D0, 0x112F0, 0x11450, 0x114D0, 0x11650,
    0x116C0, 0x11730, 0x118E0, 0x11950, 0x11C50, 0x11D50, 0x11DA0, 0x11F50, 0x16A60, 0x16AC0,
    0x16B50, 0x1D7CE, 0x1D7D8, 0x1D7E2, 0x1D7EC, 0x1D7F6, 0x1E140, 0x1E2F0, 0x1E4F0, 0x1E950,
    0x1FBF0]

/-- `unicodedata.decimal(c)`. -/
def digitVal (c : Char) : Option Nat :=
  (decimalZeros.find? fun z => z ≤ c.toNat && c.toNat < z + 10).map fun z => c.toNat - z

def readDigits (acc : Nat) : List Char → Option Nat
  | [] => some acc
  | '_' :: c :: cs => (digitVal c).bind fun d => readDigits (10 * acc + d) cs
  | c :: cs => (digitVal c).bind fun d => readDigits (10 * acc + d) cs

def unsignedInt : List Char → Option Nat
  | c :: cs => (digitVal c).bind fun d => readDigits d cs
  | [] => none

def signedInt : List Char → Option Int
  | '-' :: t => (unsignedInt t).map fun n => -(n : Int)
  | '+' :: t => (unsignedInt t).map fun n => (n : Int)
  | t => (unsignedInt t).map fun n => (n : Int)

/-- `int(s)` on stripped text: an optional sign, then decimal digits of any script. -/
def pyInt (s : List Char) : Except PyError Int :=
  match signedInt s with
  | some n => .ok n
  | none => .error (.valueError "invalid literal for int() with base 10")

/-- `str.isspace` for one character. -/
def isSpace (c : Char) : Bool :=
  c ∈ ['\t', '\n', '\x0b', '\x0c', '\r', '\x1c', '\x1d', '\x1e', '\x1f', ' ', '\x85', '\xa0',
    '\u1680', '\u2000', '\u2001', '\u2002', '\u2003', '\u2004', '\u2005', '\u2006', '\u2007',
    '\u2008', '\u2009', '\u200a', '\u2028', '\u2029', '\u202f', '\u205f', '\u3000']

/-- `s.strip()`. -/
def strip (s : List Char) : List Char := ((s.dropWhile isSpace).reverse.dropWhile isSpace).reverse

def consHead (c : Char) : List (List Char) → List (List Char)
  | [] => [[c]]
  | l :: ls => (c :: l) :: ls

/-- `s.split('\r\n')`. -/
def splitCrlf : List Char → List (List Char)
  | [] => [[]]
  | '\r' :: '\n' :: cs => [] :: splitCrlf cs
  | c :: cs => consHead c (splitCrlf cs)

/-- `needle in haystack` for `bytes` and `str`. -/
def isIn {α : Type} [BEq α] (needle : List α) : List α → Bool
  | [] => needle.isEmpty
  | b :: bs => needle.isPrefixOf (b :: bs) || isIn needle bs

/-- `s.encode('utf-8')` for ASCII text. -/
def ascii (s : List Char) : Bytes := s.map fun c => UInt8.ofNat c.toNat

def isCont (b : UInt8) : Bool := 0x80 ≤ b.toNat && b.toNat ≤ 0xBF

/-- `bytes.decode('utf-8')`: `none` where Python raises `UnicodeDecodeError`. Only the
well-formed sequences of UTF-8 decode: no overlong forms, no surrogates, nothing past
`U+10FFFF`. -/
def utf8Decode : Bytes → Option (List Char)
  | [] => some []
  | b0 :: bs =>
    if b0.toNat < 0x80 then (Char.ofNat b0.toNat :: ·) <$> utf8Decode bs
    else match bs with
    | [] => none
    | b1 :: bs1 =>
      if 0xC2 ≤ b0.toNat ∧ b0.toNat ≤ 0xDF then
        if isCont b1 then
          (Char.ofNat ((b0.toNat - 0xC0) * 0x40 + (b1.toNat - 0x80)) :: ·) <$> utf8Decode bs1
        else none
      else match bs1 with
      | [] => none
      | b2 :: bs2 =>
        if 0xE0 ≤ b0.toNat ∧ b0.toNat ≤ 0xEF then
          if (if b0.toNat = 0xE0 then 0xA0 ≤ b1.toNat ∧ b1.toNat ≤ 0xBF
              else if b0.toNat = 0xED then 0x80 ≤ b1.toNat ∧ b1.toNat ≤ 0x9F
              else isCont b1) ∧ isCont b2 then
            (Char.ofNat ((b0.toNat - 0xE0) * 0x1000 + (b1.toNat - 0x80) * 0x40 + (b2.toNat - 0x80)) :: ·) <$>
              utf8Decode bs2
          else none
        else match bs2 with
        | [] => none
        | b3 :: bs3 =>
          if 0xF0 ≤ b0.toNat ∧ b0.toNat ≤ 0xF4 ∧
              (if b0.toNat = 0xF0 then 0x90 ≤ b1.toNat ∧ b1.toNat ≤ 0xBF
               else if b0.toNat = 0xF4 then 0x80 ≤ b1.toNat ∧ b1.toNat ≤ 0x8F
               else isCont b1) ∧ isCont b2 ∧ isCont b3 then
            (Char.ofNat ((b0.toNat - 0xF0) * 0x40000 + (b1.toNat - 0x80) * 0x1000 +
              (b2.toNat - 0x80) * 0x40 + (b3.toNat - 0x80)) :: ·) <$> utf8Decode bs3
          else none
termination_by structural bs => bs

theorem digitVal_digitChar {d : Nat} (h : d < 10) : digitVal (Nat.digitChar d) = some d := by
  interval_cases d <;> rfl

theorem readDigits_cons {c : Char} (h : c ≠ '_') (acc : Nat) (cs : List Char) :
    readDigits acc (c :: cs) = (digitVal c).bind fun d => readDigits (10 * acc + d) cs := by
  rw [readDigits]
  exact fun _ _ hc => absurd hc h

theorem readDigits_digits (acc : Nat) (ds : List Nat) (h : ∀ d ∈ ds, d < 10) :
    readDigits acc (ds.map Nat.digitChar) = some (ds.foldl (fun a d => 10 * a + d) acc) := by
  induction ds generalizing acc with
  | nil => rfl
  | cons d ds ih =>
    have hd := h d (List.mem_cons_self _ _)
    rw [List.map_cons, readDigits_cons (by interval_cases d <;> decide), digitVal_digitChar hd,
      Option.some_bind, ih _ fun d' hd' => h d' (List.mem_cons_of_mem _ hd'), List.foldl_cons]

theorem signedInt_of_digit {c : Char} {d : Nat} (h : digitVal c = some d) (cs : List Char) :
    signedInt (c :: cs) = (readDigits d cs).map fun n => (n : Int) := by
  have hm : c ≠ '-' := by rintro rfl; cases h
  have hp : c ≠ '+' := by rintro rfl; cases h
  rw [signedInt]
  · simp only [unsignedInt, h, Option.some_bind]
  · exact fun _ heq => hm (List.cons.inj heq).1
  · exact fun _ heq => hp (List.cons.inj heq).1

theorem foldr_digits (ds : List Nat) : ds.foldr (fun d a => 10 * a + d) 0 = Nat.ofDigits 10 ds := by
  induction ds with
  | nil => rfl
  | cons d ds ih => rw [List.foldr_cons, ih, Nat.ofDigits_cons]; omega

theorem pyInt_decimal (n : Nat) : pyInt (decimal n) = .ok n := by
  rcases Nat.eq_zero_or_pos n with rfl | hn
  · rfl
  have hL : (Nat.digits 10 n).reverse ≠ [] := by
    simpa using Nat.digits_ne_nil_iff_ne_zero.mpr hn.ne'
  obtain ⟨d, ds, hds⟩ := List.exists_cons_of_ne_nil hL
  have hlt : ∀ x ∈ d :: ds, x < 10 := fun x hx =>
    Nat.digits_lt_base (by norm_num) (List.mem_reverse.mp (hds ▸ hx))
  have hval : (d :: ds).foldl (fun a d => 10 * a + d) 0 = n := by
    rw [← hds, List.foldl_reverse, foldr_digits, Nat.ofDigits_digits]
  rw [decimal, if_neg hn.ne', hds, List.map_cons, pyInt,
    signedInt_of_digit (digitVal_digitChar (hlt d (List.mem_cons_self _ _))),
    readDigits_digits _ _ fun x hx => hlt x (List.mem_cons_of_mem _ hx)]
  rw [List.foldl_cons, Nat.mul_zero, Nat.zero_add] at hval
  rw [hval]
  rfl

theorem pyInt_error {s : List Char} {e : PyError} (h : pyInt s = .error e) :
    e = .valueError "invalid literal for int() with base 10" := by
  unfold pyInt at h
  split at h <;> cases h
  rfl

theorem utf8Decode_cons_lt {b : UInt8} (h : b.toNat < 0x80) (bs : Bytes) :
    utf8Decode (b :: bs) = (Char.ofNat b.toNat :: ·) <$> utf8Decode bs := by
  rw [utf8Decode.eq_def]
  exact if_pos h

theorem utf8Decode_ascii (s : List Char) (h : ∀ c ∈ s, c.toNat < 0x80) : utf8Decode (ascii s) = some s := by
  induction s with
  | nil => rfl
  | cons c s ih =>
    have hc : (UInt8.ofNat c.toNat).toNat = c.toNat :=
      UInt8.toNat_ofNat_of_lt (by have := h c (List.mem_cons_self _ _); simp only [UInt8.size]; omega)
    rw [ascii, List.map_cons, utf8Decode_cons_lt (by rw [hc]; exact h c (List.mem_cons_self _ _)), ← ascii,
      ih fun c' hc' => h c' (List.mem_cons_of_mem _ hc'), hc, Char.ofNat_toNat]
    rfl

theorem digitChar_facts : ∀ d < 10, isSpace (Nat.digitChar d) = false ∧ Nat.digitChar d ≠ ':' ∧
    Nat.digitChar d ≠ '\r' ∧ (Nat.digitChar d).toNat < 0x80 := by decide

theorem decimal_mem {n : Nat} {c : Char} (h : c ∈ decimal n) : ∃ d < 10, c = Nat.digitChar d := by
  unfold decimal at h
  split at h
  · exact ⟨0, by norm_num, List.mem_singleton.mp h⟩
  · obtain ⟨d, hd, rfl⟩ := List.mem_map.mp h
    exact ⟨d, Nat.digits_lt_base (by norm_num) (List.mem_reverse.mp hd), rfl⟩

theorem decimal_ne_nil (n : Nat) : decimal n ≠ [] := by
  unfold decimal
  split
  · exact List.cons_ne_nil _ _
  · simpa using Nat.digits_ne_nil_iff_ne_zero.mpr ‹_›

theorem dropWhile_of_forall {p : Char → Bool} {l : List Char} (h : ∀ c ∈ l, p c = false) :
    l.dropWhile p = l := by
  cases l with
  | nil => rfl
  | cons c l => simp only [List.dropWhile_cons, h c (List.mem_cons_self _ _), Bool.false_eq_true, if_false]

theorem strip_space_decimal (n : Nat) : strip (' ' :: decimal n) = decimal n := by
  have hs : ∀ c ∈ decimal n, isSpace c = false := fun c hc => by
    obtain ⟨d, hd, rfl⟩ := decimal_mem hc
    exact (digitChar_facts d hd).1
  have hsp : isSpace ' ' = true := by decide
  rw [strip, List.dropWhile_cons, if_pos hsp, dropWhile_of_forall hs,
    dropWhile_of_forall fun c hc => hs c (List.mem_reverse.mp hc), List.reverse_reverse]

theorem splitCrlf_cons {c : Char} (h : c ≠ '\r') (cs : List Char) :
    splitCrlf (c :: cs) = consHead c (splitCrlf cs) := by
  rw [splitCrlf]
  exact fun _ hc _ => h hc

theorem splitCrlf_line (line : List Char) (h : '\r' ∉ line) (rest : List Char) :
    splitCrlf (line ++ '\r' :: '\n' :: rest) = line :: splitCrlf rest := by
  induction line with
  | nil => rfl
  | cons c line ih =>
    have hc : c ≠ '\r' := fun hc => h (hc ▸ List.mem_cons_self _ _)
    rw [List.cons_append, splitCrlf_cons hc, ih fun hm => h (List.mem_cons_of_mem _ hm)]
    rfl

theorem isIn_iff_infix {α : Type} [BEq α] [LawfulBEq α] (needle haystack : List α) :
    isIn needle haystack = true ↔ needle <:+: haystack := by
  induction haystack with
  | nil => simp only [isIn, List.isEmpty_iff, List.infix_nil]
  | cons b bs ih => rw [isIn, Bool.or_eq_true, List.isPrefixOf_iff_prefix, ih, List.infix_cons_iff]

theorem isIn_of_append {α : Type} [BEq α] [LawfulBEq α] {needle xs : List α} (ys : List α)
    (h : isIn needle (xs ++ ys) = false) : isIn needle xs = false := by
  rw [← Bool.not_eq_true, isIn_iff_infix] at h ⊢
  exact fun hx => h (hx.trans (List.prefix_append xs ys).isInfix)

end ProbeLsp.PyText

namespace ProbeLsp.LspDaemonClient.Json

open PyText

/-- `key in v`: a `dict`'s keys, a `list`'s items, a `str`'s substrings; `none` where Python
raises `TypeError`. -/
def contains (v : Json) (key : String) : Option Bool :=
  match v with
  | obj fields => some (fields.any (·.1 == key))
  | arr xs => some (xs.any (·.isStr key))
  | str s => some (isIn (PyStr.ofString key).codes s.codes)
  | _ => none

/-- `v[key]`; `none` where Python raises `KeyError` or `TypeError`. -/
def getItem (v : Json) (key : String) : Option Json :=
  match v with
  | obj fields => fields.lookup key
  | _ => none

/-- `bool(v)`. -/
def truthy : Json → Bool
  | null => false
  | bool b => b
  | num n => n != 0
  | str s => !s.codes.isEmpty
  | arr xs => !xs.isEmpty
  | obj fields => !fields.isEmpty

/-- `for d in v`: a `list`'s items, a `dict`'s keys, a `str`'s characters; `none` where
Python raises `TypeError`. -/
def items : Json → Option (List Json)
  | arr xs => some xs
  | obj fields => some (fields.map fun f => str f.1)
  | str s => some (s.codes.map fun c => str ⟨[c]⟩)
  | _ => none

/-- `v[:n]`: only a `str` or a `list` can be sliced. -/
def slice (v : Json) (n : Nat) : Option Json :=
  match v with
  | str s => some (str ⟨s.codes.take n⟩)
  | arr xs => some (arr (xs.take n))
  | _ => none

/-- `len(v)`; `none` where Python raises `TypeError`. -/
def len : Json → Option Nat
  | str s => some s.codes.length
  | arr xs => some xs.length
  | obj fields => some fields.length
  | _ => none

end ProbeLsp.LspDaemonClient.Json
