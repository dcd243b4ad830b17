import Mathlib

namespace ProbeLsp

abbrev Bytes := List UInt8

/-- A Python `str`, as its code points: unlike a `String` it can hold the lone surrogates
U+D800 to U+DFFF that `json.loads` returns for an unpaired `\ud800` escape. -/
structure PyStr where
  codes : List Nat
  deriving DecidableEq, Repr

def PyStr.ofString (s : String) : PyStr := ⟨s.data.map Char.toNat⟩

instance : Coe String PyStr := ⟨PyStr.ofString⟩

instance : Append PyStr := ⟨fun a b => ⟨a.codes ++ b.codes⟩⟩

/-- Whether `print` can write the text to a UTF-8 `stdout`; a surrogate raises `UnicodeEncodeError`. -/
def PyStr.encodes (s : PyStr) : Bool := s.codes.all fun c => c < 0xD800 || 0xDFFF < c

@[simp] theorem PyStr.append_codes (a b : PyStr) : (a ++ b).codes = a.codes ++ b.codes := rfl

theorem PyStr.ofString_encodes (s : String) : (PyStr.ofString s).encodes = true := by
  rw [encodes, ofString, List.all_eq_true]
  intro n hn
  obtain ⟨c, -, rfl⟩ := List.mem_map.mp hn
  have hc : c.toNat < 0xD800 ∨ (0xDFFF < c.toNat ∧ c.toNat < 0x110000) := c.valid
  rw [Bool.or_eq_true, decide_eq_true_eq, decide_eq_true_eq]
  exact hc.imp_right And.left

theorem PyStr.encodes_eq_false (s : PyStr) : s.encodes = false ↔ ∃ c ∈ s.codes, 0xD800 ≤ c ∧ c ≤ 0xDFFF := by
  simp only [encodes, List.all_eq_false, Bool.or_eq_true, decide_eq_true_eq, not_or, not_lt]

theorem PyStr.encodes_append {a b : PyStr} : (a ++ b).encodes = (a.encodes && b.encodes) := by
  simp only [encodes, append_codes, List.all_append]

inductive PyError where
  | connectionError (msg : String)
  | structError (msg : String)
  | attributeError (msg : String)
  | exception (msg : PyStr)
  | decodeError (msg : String)
  | encodeError (msg : String)
  | valueError (msg : String)
  | overflowError (msg : String)
  | indexError (msg : String)
  | connectionRefused
  | fileNotFound
  deriving DecidableEq, Repr

/-- The four bytes of `struct.pack('>I', n)`, most significant first. -/
def be32 (n : Nat) : Bytes :=
  [UInt8.ofNat (n / 2 ^ 24 % 256), UInt8.ofNat (n / 2 ^ 16 % 256),
    UInt8.ofNat (n / 2 ^ 8 % 256), UInt8.ofNat (n % 256)]

def structPack (n : Nat) : Except PyError Bytes :=
  if n < 2 ^ 32 then .ok (be32 n)
  else .error (.structError "'I' format requires 0 <= number <= 4294967295")

/-- `struct.unpack('>I', b)[0]`. -/
def structUnpack : Bytes → Except PyError Nat
  | [a, b, c, d] => .ok (a.toNat * 2 ^ 24 + b.toNat * 2 ^ 16 + c.toNat * 2 ^ 8 + d.toNat)
  | _ => .error (.structError "unpack requires a buffer of 4 bytes")

@[simp] theorem be32_length (n : Nat) : (be32 n).length = 4 := rfl

theorem structPack_of_lt {n : Nat} (h : n < 2 ^ 32) : structPack n = .ok (be32 n) := if_pos h

theorem structPack_of_ge {n : Nat} (h : 2 ^ 32 ≤ n) :
    structPack n = .error (.structError "'I' format requires 0 <= number <= 4294967295") :=
  if_neg (Nat.not_lt.mpr h)

theorem toNat_ofNat_mod (n : Nat) : (UInt8.ofNat (n % 256)).toNat = n % 256 :=
  UInt8.toNat_ofNat_of_lt (Nat.mod_lt n (by decide))

theorem structUnpack_be32 {n : Nat} (h : n < 2 ^ 32) : structUnpack (be32 n) = .ok n := by
  simp only [be32, structUnpack, toNat_ofNat_mod]
  congr 1
  omega

theorem structUnpack_ok {b : Bytes} {n : Nat} (h : structUnpack b = .ok n) :
    b = be32 n ∧ n < 2 ^ 32 := by
  match b, h with
  | [a, b, c, d], h =>
    have bounds : a.toNat < 256 ∧ b.toNat < 256 ∧ c.toNat < 256 ∧ d.toNat < 256 :=
      ⟨a.toNat_lt_size, b.toNat_lt_size, c.toNat_lt_size, d.toNat_lt_size⟩
    simp only [structUnpack, Except.ok.injEq] at h
    subst h
    refine ⟨?_, by omega⟩
    simp only [be32, List.cons.injEq, and_true]
    refine ⟨?_, ?_, ?_, ?_⟩ <;> apply UInt8.toNat.inj <;> rw [toNat_ofNat_mod] <;> omega

/-- The client's end of the daemon connection. `inbox` is what is left of the stream the
daemon writes before it closes, `sizes c` the size the kernel picks for the `c`-th `recv`,
`calls` the number of `recv` calls made, `sent` what `sendall` has written. -/
structure Socket where
  inbox : Bytes
  sizes : Nat → Nat
  calls : Nat
  sent : Bytes

namespace Socket

def consume (s : Socket) (k j : Nat) : Socket :=
  { s with inbox := s.inbox.drop k, calls := s.calls + j }

/-- `recv(m)` returns at least one byte when any is left and never more than `m`. -/
def recvSize (s : Socket) (m : Nat) : Nat := min m (max 1 (s.sizes s.calls))

def recv (s : Socket) (m : Nat) : Bytes × Socket :=
  (s.inbox.take (s.recvSize m), s.consume (s.recvSize m) 1)

def sendall (s : Socket) (data : Bytes) : Socket := { s with sent := s.sent ++ data }

@[simp] theorem consume_inbox (s : Socket) (k j : Nat) : (s.consume k j).inbox = s.inbox.drop k := rfl
@[simp] theorem consume_calls (s : Socket) (k j : Nat) : (s.consume k j).calls = s.calls + j := rfl
@[simp] theorem consume_sizes (s : Socket) (k j : Nat) : (s.consume k j).sizes = s.sizes := rfl
@[simp] theorem consume_sent (s : Socket) (k j : Nat) : (s.consume k j).sent = s.sent := rfl
@[simp] theorem sendall_inbox (s : Socket) (d : Bytes) : (s.sendall d).inbox = s.inbox := rfl
@[simp] theorem sendall_calls (s : Socket) (d : Bytes) : (s.sendall d).calls = s.calls := rfl
@[simp] theorem sendall_sizes (s : Socket) (d : Bytes) : (s.sendall d).sizes = s.sizes := rfl
@[simp] theorem sendall_sent (s : Socket) (d : Bytes) : (s.sendall d).sent = s.sent ++ d := rfl

@[simp] theorem consume_zero (s : Socket) : s.consume 0 0 = s := rfl

theorem consume_consume (s : Socket) (k j k' j' : Nat) :
    (s.consume k j).consume k' j' = s.consume (k + k') (j + j') := by
  simp only [consume, List.drop_drop, Nat.add_assoc, Nat.add_comm k']

theorem consume_eq_of_le {s : Socket} {k : Nat} (j : Nat) (h : s.inbox.length ≤ k) :
    s.consume k j = s.consume s.inbox.length j := by
  simp only [consume, List.drop_eq_nil_of_le h, List.drop_length]

theorem recvSize_pos (s : Socket) {m : Nat} (hm : 0 < m) : 0 < s.recvSize m := by
  simp only [recvSize]
  omega

theorem recvSize_le (s : Socket) (m : Nat) : s.recvSize m ≤ m := Nat.min_le_left _ _

/-- Every chunk size the kernel may pick for `recv(m)` is one the schedule can name. -/
theorem recvSize_covers (s : Socket) {m k : Nat} (hk : 0 < k) (hm : k ≤ m) :
    ({ s with sizes := fun _ => k } : Socket).recvSize m = k := by
  simp only [recvSize]
  omega

theorem recv_eq_nil_iff (s : Socket) {m : Nat} (hm : 0 < m) : (s.recv m).1 = [] ↔ s.inbox = [] := by
  simp only [recv, List.take_eq_nil_iff, Nat.pos_iff_ne_zero.mp (s.recvSize_pos hm), false_or]

theorem recv_cons {s s' : Socket} {m : Nat} {c : UInt8} {cs : Bytes} (h : s.recv m = (c :: cs, s')) :
    ∃ k, 0 < k ∧ k ≤ m ∧ k ≤ s.inbox.length ∧ c :: cs = s.inbox.take k ∧ s' = s.consume k 1 := by
  have hc : c :: cs = s.inbox.take (s.recvSize m) := (congrArg Prod.fst h).symm
  have hs' : s' = s.consume (s.recvSize m) 1 := (congrArg Prod.snd h).symm
  have hlen := congrArg List.length hc
  rw [List.length_take] at hlen
  have hm := s.recvSize_le m
  refine ⟨(c :: cs).length, Nat.succ_pos _, by omega, by omega, ?_, ?_⟩
  · conv_lhs => rw [← List.take_length (c :: cs), hc, List.take_take]
    rw [← hc, Nat.min_eq_left (by omega)]
  · by_cases hr : s.recvSize m ≤ s.inbox.length
    · rwa [hlen, Nat.min_eq_left hr]
    · rw [hs', consume_eq_of_le 1 (by omega), hlen, Nat.min_eq_right (by omega)]

end Socket

section Except

variable {α β : Type}

@[simp] theorem except_ok_bind (a : α) (f : α → Except PyError β) : (Except.ok a >>= f) = f a := rfl

@[simp] theorem except_error_bind (e : PyError) (f : α → Except PyError β) :
    (Except.error e >>= f) = .error e := rfl

theorem except_map_eq_error {x : Except PyError α} {f : α → β} {e : PyError}
    (h : x.map f = .error e) : x = .error e := by
  cases x <;> cases h
  rfl

end Except

abbrev Client := EStateM PyError Socket

def fromExcept {α : Type} : Except PyError α → Client α
  | .ok a => pure a
  | .error e => throw e

def sendall (data : Bytes) : Client Unit := modify (·.sendall data)

def resultState {α : Type} : EStateM.Result PyError Socket α → Socket
  | .ok _ s | .error _ s => s

section Bind

variable {ε σ α β : Type} {x : EStateM ε σ α} {f : α → EStateM ε σ β} {s s' : σ}

theorem bind_ok {a : α} (h : x s = .ok a s') : (x >>= f) s = f a s' := by
  show EStateM.bind x f s = _
  simp only [EStateM.bind, h]

theorem bind_error {e : ε} (h : x s = .error e s') : (x >>= f) s = .error e s' := by
  show EStateM.bind x f s = _
  simp only [EStateM.bind, h]

theorem bind_eq_ok {b : β} {s'' : σ} (h : (x >>= f) s = .ok b s'') :
    ∃ a s', x s = .ok a s' ∧ f a s' = .ok b s'' := by
  change EStateM.bind x f s = _ at h
  unfold EStateM.bind at h
  split at h
  · exact ⟨_, _, ‹_›, h⟩
  · cases h

end Bind

section Client

variable {α β : Type} {x : Client α} {f : α → Client β} {s s' : Socket}

theorem fromExcept_eq_ok {e : Except PyError α} {a : α} (h : fromExcept e s = .ok a s') :
    e = .ok a ∧ s' = s := by
  cases e with
  | ok b => cases h; exact ⟨rfl, rfl⟩
  | error e => cases h

@[simp] theorem pure_apply (a : α) : (pure a : Client α) s = .ok a s := rfl

@[simp] theorem fromExcept_ok (a : α) : fromExcept (.ok a) s = .ok a s := rfl

@[simp] theorem fromExcept_error (e : PyError) : (fromExcept (.error e) : Client α) s = .error e s := rfl

@[simp] theorem sendall_apply (d : Bytes) : sendall d s = .ok () (s.sendall d) := rfl

def KeepsSent (x : Client α) : Prop := ∀ s, (resultState (x s)).sent = s.sent

theorem sent_bind (hf : ∀ a, KeepsSent (f a)) (s : Socket) :
    (resultState ((x >>= f) s)).sent = (resultState (x s)).sent := by
  cases h : x s with
  | ok a s' => rw [bind_ok h]; exact hf a s'
  | error e s' => rw [bind_error h]; rfl

theorem keepsSent_bind (hx : KeepsSent x) (hf : ∀ a, KeepsSent (f a)) : KeepsSent (x >>= f) :=
  fun s => (sent_bind hf s).trans (hx s)

theorem keepsSent_fromExcept (e : Except PyError α) : KeepsSent (fromExcept e) := by
  intro s
  cases e <;> rfl

end Client

end ProbeLsp
