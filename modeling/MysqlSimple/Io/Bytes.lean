import MysqlSimple.Io.Act

/-!
# Byte I/O: the `BufReader` cursor, little-endian words, length-encoded integers

`conn.rs` parses every payload through a `std::io::BufReader` and builds every outgoing payload in
a `MemWriter`. A reader here is an `Act` on the unread bytes: `read_u8` pops one,
`read_le_uint_n` pops `n` and fails with `EndOfFile` at the end of the buffer, having consumed what
was there, `seek(k, SeekCur)` skips `k` (past the end, too), `read_to_end` takes the rest. Writers
are plain byte lists.

The length-encoded integer and string (`read_lenenc_int`, `read_lenenc_bytes` and their writers)
belong to the `MyReader`/`MyWriter` traits of `io.rs`, which is not among the sources; they are
modelled from §4.2 of the spec. The round-trip lemmas at the end are what every packet parser of
the model is later checked against.
-/

namespace MysqlSimple

/-- The kinds of `std::io::IoError` that the connection code tells apart. -/
inductive IoError
  | EndOfFile
  | InvalidInput
  | OtherIoError
  deriving DecidableEq, Repr

/-- A `BufReader` over a payload: the state is the unread suffix. -/
abbrev Reader := Act (List UInt8) IoError

/-! ## Reading -/

/-- `read_u8`. -/
def readU8 : Reader UInt8 := fun
  | [] => (.error .EndOfFile, [])
  | b :: r => (.ok b, r)

/-- `read_le_uint_n(n)`: `n` bytes, least significant first, read one at a time. -/
def readLeUintN : Nat → Reader Nat
  | 0 => pure 0
  | n + 1 => do
    let b ← readU8
    let v ← readLeUintN n
    pure (b.toNat + 256 * v)

/-- `read_le_u16`. -/
def readLeU16 : Reader UInt16 := (fun v => v.toUInt16) <$> readLeUintN 2

/-- `read_le_u32`. -/
def readLeU32 : Reader UInt32 := (fun v => v.toUInt32) <$> readLeUintN 4

/-- `read_exact(n)`: exactly `n` bytes; a short buffer is consumed and gives `EndOfFile`. -/
def readExact (n : Nat) : Reader (List UInt8) := fun s =>
  if n ≤ s.length then (.ok (s.take n), s.drop n) else (.error .EndOfFile, [])

/-- `push_exact(buf, n)`: `read_exact(n)` appended to `buf`. -/
def pushExact (buf : List UInt8) (n : Nat) : Reader (List UInt8) := (buf ++ ·) <$> readExact n

/-- `read_to_end`. -/
def readToEnd : Reader (List UInt8) := fun s => (.ok s, [])

/-- `seek(k, SeekCur)`; `BufReader` accepts a position past the end. -/
def seek (k : Nat) : Reader Unit := fun s => (.ok (), s.drop k)

/-- `eof()`. -/
def eof : Reader Bool := fun s => (.ok s.isEmpty, s)

@[simp] theorem readU8_cons (b : UInt8) (r : List UInt8) : readU8 (b :: r) = (.ok b, r) := rfl

@[simp] theorem readU8_nil : readU8 [] = (.error .EndOfFile, []) := rfl

@[simp] theorem readToEnd_apply (s : List UInt8) : readToEnd s = (.ok s, []) := rfl

@[simp] theorem seek_apply (k : Nat) (s : List UInt8) : seek k s = (.ok (), s.drop k) := rfl

@[simp] theorem eof_apply (s : List UInt8) : eof s = (.ok s.isEmpty, s) := rfl

theorem readExact_append {n : Nat} {xs : List UInt8} (h : xs.length = n) (rest : List UInt8) :
    readExact n (xs ++ rest) = (.ok xs, rest) := by
  subst h
  simp [readExact]

theorem pushExact_append {n : Nat} {xs : List UInt8} (h : xs.length = n) (buf rest : List UInt8) :
    pushExact buf n (xs ++ rest) = (.ok (buf ++ xs), rest) := by
  simp [pushExact, readExact_append h]

/-- What a successful `push_exact(buf, n)` returns is `buf` and the `n` bytes it took. -/
theorem pushExact_ok_inv {buf o s s' : List UInt8} {n : Nat}
    (h : pushExact buf n s = (.ok o, s')) : ∃ xs, xs.length = n ∧ s = xs ++ s' ∧ o = buf ++ xs := by
  unfold pushExact at h
  obtain ⟨xs, hx, rfl⟩ := Act.map_eq_ok h
  unfold readExact at hx
  split_ifs at hx with hn
  · cases hx
    exact ⟨_, by simp; omega, (List.take_append_drop n s).symm, rfl⟩
  · cases hx

/-- A reader that never grows its input: whatever it returns, the unread bytes it leaves are at
most those it was given. -/
def Reader.Shrinks {α : Type} (x : Reader α) : Prop := ∀ s, (x s).2.length ≤ s.length

theorem Reader.Shrinks.bind {α β : Type} {x : Reader α} {f : α → Reader β} (hx : x.Shrinks)
    (hf : ∀ a, (f a).Shrinks) : (x >>= f).Shrinks := fun s => by
  have h := hx s
  simp only [Act.bind_apply]
  split <;> rename_i heq <;> rw [heq] at h
  · exact (hf _ _).trans h
  · exact h

theorem Reader.shrinks_pure {α : Type} (a : α) : (pure a : Reader α).Shrinks := fun _ => le_rfl

theorem Reader.shrinks_throw {α : Type} (e : IoError) : (throw e : Reader α).Shrinks :=
  fun _ => le_rfl

theorem readU8_shrinks : readU8.Shrinks := fun s => by cases s <;> simp

theorem readLeUintN_shrinks (n : Nat) : (readLeUintN n).Shrinks := by
  induction n with
  | zero => exact Reader.shrinks_pure _
  | succ n ih =>
    exact readU8_shrinks.bind fun _ => ih.bind fun _ => Reader.shrinks_pure _

theorem readExact_shrinks (n : Nat) : (readExact n).Shrinks := fun s => by
  unfold readExact; split <;> simp

theorem pushExact_shrinks (buf : List UInt8) (n : Nat) : (pushExact buf n).Shrinks := fun s => by
  simp only [pushExact, Act.map_snd]; exact readExact_shrinks n s

/-- A successful `read_u8` consumes one byte. -/
theorem readU8_ok_length {s s' : List UInt8} {b : UInt8} (h : readU8 s = (.ok b, s')) :
    s'.length + 1 = s.length := by
  cases s <;> simp_all [readU8]

/-- A successful `read_le_uint_n(n)` consumes `n` bytes. -/
theorem readLeUintN_ok_length {n : Nat} {s s' : List UInt8} {v : Nat}
    (h : readLeUintN n s = (.ok v, s')) : s'.length + n = s.length := by
  induction n generalizing s v with
  | zero => simp_all [readLeUintN]
  | succ n ih =>
    cases s with
    | nil => simp [readLeUintN] at h
    | cons b r =>
      simp only [readLeUintN, Act.bind_apply, readU8_cons] at h
      split at h <;> simp only [Act.pure_apply, Prod.mk.injEq, reduceCtorEq, false_and] at h
      rename_i heq
      rw [h.2] at heq
      have := ih heq
      simp only [List.length_cons]; omega

/-! ## Writing -/

/-- The `k` low bytes of `v`, least significant first: `write_le_uint_n`. -/
def leBytes : Nat → Nat → List UInt8
  | 0, _ => []
  | k + 1, v => UInt8.ofNat (v % 256) :: leBytes k (v / 256)

/-- `write_le_u16`. -/
def writeLeU16 (x : UInt16) : List UInt8 := leBytes 2 x.toNat

/-- `write_le_u32`. -/
def writeLeU32 (x : UInt32) : List UInt8 := leBytes 4 x.toNat

/-- `write_le_u64`. -/
def writeLeU64 (x : UInt64) : List UInt8 := leBytes 8 x.toNat

@[simp] theorem leBytes_length (k v : Nat) : (leBytes k v).length = k := by
  induction k generalizing v with
  | zero => rfl
  | succ k ih => simp [leBytes, ih]

@[simp] theorem writeLeU16_length (x : UInt16) : (writeLeU16 x).length = 2 := leBytes_length _ _

@[simp] theorem writeLeU32_length (x : UInt32) : (writeLeU32 x).length = 4 := leBytes_length _ _

@[simp] theorem writeLeU64_length (x : UInt64) : (writeLeU64 x).length = 8 := leBytes_length _ _

@[simp] theorem UInt8.toNat_ofNat' (n : Nat) : (UInt8.ofNat n).toNat = n % 256 := by
  simp [UInt8.toNat, UInt8.ofNat, BitVec.toNat_ofNat]

theorem UInt8.toNat_add' (x y : UInt8) : (x + y).toNat = (x.toNat + y.toNat) % 256 := by
  simp [UInt8.add_def, UInt8.toNat]

/-- `as u8` commutes with addition: sequence ids count modulo 256. -/
theorem UInt8.ofNat_add' (a b : Nat) : UInt8.ofNat (a + b) = UInt8.ofNat a + UInt8.ofNat b := by
  apply UInt8.toNat.inj
  rw [UInt8.toNat_add', UInt8.toNat_ofNat', UInt8.toNat_ofNat', UInt8.toNat_ofNat', Nat.add_mod]

theorem UInt8.succ_add_ofNat (s : UInt8) (k : Nat) :
    s + 1 + UInt8.ofNat k = s + UInt8.ofNat (k + 1) := by
  rw [UInt8.ofNat_add' _ 1, add_right_comm, add_assoc]; rfl

theorem readLeUintN_leBytes (k v : Nat) (rest : List UInt8) :
    readLeUintN k (leBytes k v ++ rest) = (.ok (v % 256 ^ k), rest) := by
  induction k generalizing v with
  | zero => simp [readLeUintN, leBytes, Nat.mod_one]
  | succ k ih =>
    simp only [readLeUintN, leBytes, List.cons_append, Act.bind_apply, readU8_cons, ih,
      Act.pure_apply, UInt8.toNat_ofNat', Nat.pow_succ', Nat.mod_mul, Nat.mod_mod]

/-- What `read_le_uint_n(n)` returns is the value of the `n` bytes it took: the converse of
`readLeUintN_leBytes`. -/
theorem readLeUintN_ok_inv {n : Nat} {s s' : List UInt8} {v : Nat}
    (h : readLeUintN n s = (.ok v, s')) : s = leBytes n v ++ s' ∧ v < 256 ^ n := by
  induction n generalizing s v with
  | zero =>
    simp only [readLeUintN, Act.pure_apply, Prod.mk.injEq, Except.ok.injEq] at h
    obtain ⟨rfl, rfl⟩ := h
    exact ⟨rfl, by simp⟩
  | succ n ih =>
    rcases s with _ | ⟨b, r⟩
    · simp [readLeUintN] at h
    simp only [readLeUintN, Act.bind_apply, readU8_cons] at h
    obtain ⟨v', r', hr, hv⟩ := Act.bind_eq_ok h
    simp only [Act.pure_apply, Prod.mk.injEq, Except.ok.injEq] at hv
    obtain ⟨rfl, rfl⟩ := hv
    obtain ⟨rfl, hv'⟩ := ih hr
    have hb : b.toNat < 256 := b.toNat_lt_size
    refine ⟨?_, by rw [Nat.pow_succ]; omega⟩
    rw [leBytes, List.cons_append]
    congr 2
    · apply UInt8.toNat.inj; rw [UInt8.toNat_ofNat']; omega
    · congr 1; omega

theorem readLeU16_writeLeU16 (x : UInt16) (rest : List UInt8) :
    readLeU16 (writeLeU16 x ++ rest) = (.ok x, rest) := by
  have hx : x.toNat < 256 ^ 2 := x.toNat_lt_size
  simp only [readLeU16, writeLeU16, Act.map_apply, readLeUintN_leBytes, Nat.mod_eq_of_lt hx]
  simp [Nat.toUInt16, UInt16.ofNat, UInt16.toNat]

theorem readLeU32_writeLeU32 (x : UInt32) (rest : List UInt8) :
    readLeU32 (writeLeU32 x ++ rest) = (.ok x, rest) := by
  have hx : x.toNat < 256 ^ 4 := x.toNat_lt_size
  simp only [readLeU32, writeLeU32, Act.map_apply, readLeUintN_leBytes, Nat.mod_eq_of_lt hx]
  simp [Nat.toUInt32, UInt32.ofNat, UInt32.toNat]

/-! ## `uint` arithmetic -/

/-- `a - b` on the 64-bit `uint`. The compilers of 2014 did not check unsigned arithmetic, so a
subtraction below zero wraps around modulo `2^64`. -/
def uintSub (a b : Nat) : Nat := (a + 2 ^ 64 - b % 2 ^ 64) % 2 ^ 64

theorem uintSub_of_le {a b : Nat} (ha : a < 2 ^ 64) (h : b ≤ a) : uintSub a b = a - b := by
  unfold uintSub; omega

/-! ## Length-encoded integers and strings (`io.rs`, modelled from the spec) -/

/-- Modelled from the spec: `MyReader::read_lenenc_int` (`io.rs` is not among the sources).
By §4.2 a first byte below `0xFB` is the value, and `0xFC`, `0xFD`, `0xFE` announce 2, 3 and 8
little-endian bytes. The spec gives no integer reading of `0xFB` (a `NULL` cell in a row) or of
`0xFF`, so both are rejected. -/
def readLenencInt : Reader Nat := do
  let head ← readU8
  if head < 0xfb then pure head.toNat
  else if head = 0xfc then readLeUintN 2
  else if head = 0xfd then readLeUintN 3
  else if head = 0xfe then readLeUintN 8
  else throw .InvalidInput

/-- Modelled from the spec: `MyReader::read_lenenc_bytes`, a length-encoded `N`, then `N` bytes. -/
def readLenencBytes : Reader (List UInt8) := do
  let len ← readLenencInt
  readExact len

/-- Modelled from the spec: `MyWriter::write_lenenc_int`, in the shortest of the four forms
(scenario 5 of §8: 250, 251, 65535, 16777215 and `2^32` take 1, 3, 3, 4 and 9 bytes). -/
def writeLenencInt (x : Nat) : List UInt8 :=
  if x < 251 then [UInt8.ofNat x]
  else if x < 2 ^ 16 then 0xfc :: leBytes 2 x
  else if x < 2 ^ 24 then 0xfd :: leBytes 3 x
  else 0xfe :: leBytes 8 x

/-- Modelled from the spec: `MyWriter::write_lenenc_bytes`. -/
def writeLenencBytes (x : List UInt8) : List UInt8 := writeLenencInt x.length ++ x

/-- A byte below `0xFB` read back as a length-encoded integer is itself. -/
theorem UInt8.ofNat_lt_fb {x : Nat} (h : x < 251) : UInt8.ofNat x < 0xfb := by
  rw [UInt8.lt_def]
  simp [UInt8.ofNat, BitVec.lt_def]
  omega

theorem readLenencInt_writeLenencInt {x : Nat} (hx : x < 2 ^ 64) (rest : List UInt8) :
    readLenencInt (writeLenencInt x ++ rest) = (.ok x, rest) := by
  unfold writeLenencInt readLenencInt
  split_ifs with h1 h2 h3
  · simp [UInt8.ofNat_lt_fb h1, Nat.mod_eq_of_lt (show x < 256 by omega)]
  all_goals simp [readLeUintN_leBytes]; omega

theorem readLenencBytes_writeLenencBytes {x : List UInt8} (hx : x.length < 2 ^ 64)
    (rest : List UInt8) : readLenencBytes (writeLenencBytes x ++ rest) = (.ok x, rest) := by
  simp only [readLenencBytes, writeLenencBytes, List.append_assoc, Act.bind_apply,
    readLenencInt_writeLenencInt hx, readExact_append rfl]

/-- A length-encoded string read from `b :: r` leaves a suffix of `r`: at least the first byte is
consumed. -/
theorem readLenencBytes_cons_length_le (b : UInt8) (r : List UInt8) :
    (readLenencBytes (b :: r)).2.length ≤ r.length := by
  have hint : (readLenencInt (b :: r)).2.length ≤ r.length := by
    simp only [readLenencInt, Act.bind_apply, readU8_cons]
    split_ifs <;>
      first
      | exact Reader.shrinks_pure _ r
      | exact readLeUintN_shrinks _ r
      | exact Reader.shrinks_throw _ r
  simp only [readLenencBytes, Act.bind_apply]
  split <;> rename_i h <;> rw [h] at hint
  · exact (readExact_shrinks _ _).trans hint
  · exact hint

end MysqlSimple
