import MysqlSimple.Conn.Writes
import MysqlSimple.Value.Temporal
import MysqlSimple.Value.Budget
import MysqlSimple.Value.BinRow

/-!
# The parameters of `execute`, as a server reads them (`conn.rs:635-663`, `1046-1102`)

`execute` sends a prepared statement's parameters in two ways. The `COM_STMT_EXECUTE` packet holds
the NULL bitmap of `to_bin_payload` (bit `i % 8` of byte `i / 8` for a `NULL` parameter `i`), the
new-params-bound flag `1`, two type bytes per parameter, and the binary values of the parameters
that fit the budget. The others go ahead as long data: `send_long_data` cuts each of them into
`COM_STMT_SEND_LONG_DATA` packets of `max_allowed_packet - 7` bytes of data.

The server's side is modelled from the protocol, not from this code: `readSendLongData` and
`appendLong` for the long data it collects per statement and parameter, and `readExecute` for the
execute packet, which reads the bitmap, the flag and the types, then one value per type by
`read_bin_value`, or the collected long data where there is some. `serveExecute` runs a server
over the packets of one `execute`. Against it:

* `toBinPayload_marks_nulls`: `to_bin_payload` marks exactly the `NULL` parameters, whatever the
  budget, and fails only by panicking, when a `NULL` falls past its bitmap;
* `sendLongData_fits`: every long-data packet is within `max_allowed_packet`;
* `execute_round_trip`: when every parameter sent as long data is a nonempty string, the server
  reads back the statement id and the parameters, up to the sign of a zero duration, which
  `to_bin` cannot carry;
* `execute_loses_empty_string`: an empty string sent as long data reaches the server neither way.
-/

namespace MysqlSimple

/-! ## The NULL bitmap -/

/-- Bit `i % 8` of byte `i / 8` of a parameter bitmap: parameter `i` is `NULL`. -/
def paramNull (bitmap : List UInt8) (i : Nat) : Bool :=
  (bitmap.getD (i / 8) 0).toNat.testBit (i % 8)

theorem UInt8.or_toNat (a b : UInt8) : (a ||| b).toNat = a.toNat ||| b.toNat :=
  BitVec.toNat_or ..

theorem UInt16.mod8_toUInt8 (i : UInt16) : (i % 8).toUInt8 = UInt8.ofNat (i.toNat % 8) := by
  rw [UInt16.toUInt8, UInt16.toNat_mod]; rfl

theorem UInt16.toNat_succ {i : UInt16} (h : i.toNat + 1 < 2 ^ 16) :
    (i + 1).toNat = i.toNat + 1 := by
  simp only [UInt16.add_def, UInt16.toNat, BitVec.toNat_add]
  exact Nat.mod_eq_of_lt h

/-- The update of the `NULL` arm, `*bitmap.get_mut(i / 8) |= 1 << (i % 8)`, sets bit `i` and no
other. -/
theorem paramNull_set {bitmap : List UInt8} {i : UInt16} (hb : i.toNat / 8 < bitmap.length)
    (j : Nat) :
    paramNull (bitmap.set (i.toNat / 8)
      (bitmap.getD (i.toNat / 8) 0 ||| (1 <<< (i % 8).toUInt8))) j =
      (paramNull bitmap j || decide (j = i.toNat)) := by
  unfold paramNull
  simp only [List.getD_eq_getElem?_getD, List.getElem?_set]
  by_cases hj : i.toNat / 8 = j / 8
  · rw [if_pos hj, if_pos (hj ▸ hb), Option.getD_some, ← hj, UInt8.or_toNat,
      UInt16.mod8_toUInt8, UInt8.one_shiftLeft_toNat (Nat.mod_lt _ (by decide)),
      Nat.testBit_or, Nat.testBit_two_pow]
    have hij : (i.toNat % 8 = j % 8) ↔ j = i.toNat := by omega
    simp only [hij]
  · rw [if_neg hj, decide_eq_false (by omega), Bool.or_false]

theorem paramNull_replicate (n j : Nat) : paramNull (List.replicate n 0) j = false := by
  simp only [paramNull, List.getD_eq_getElem?_getD, List.getElem?_replicate]
  split_ifs <;> simp

theorem exists_getElem?_cons {α : Type} {v a : α} {vs : List α} {P : Nat → Prop} :
    (∃ k, (v :: vs)[k]? = some a ∧ P k) ↔
      (v = a ∧ P 0) ∨ ∃ k, vs[k]? = some a ∧ P (k + 1) := by
  constructor
  · rintro ⟨_ | k, hk, hp⟩
    · rw [List.getElem?_cons_zero] at hk; exact .inl ⟨Option.some.inj hk, hp⟩
    · rw [List.getElem?_cons_succ] at hk; exact .inr ⟨k, hk, hp⟩
  · rintro (⟨rfl, hp⟩ | ⟨k, hk, hp⟩)
    · exact ⟨0, List.getElem?_cons_zero, hp⟩
    · exact ⟨k + 1, by rw [List.getElem?_cons_succ]; exact hk, hp⟩

section Loop

variable {cap : Nat}

/-- The loop keeps the bitmap's length and sets, beside the bits already set, those of the `NULL`
values from index `i` on. -/
theorem toBinPayloadLoop_bitmap {vs : List Value} {i : UInt16} {written : Nat}
    {bitmap out : List UInt8} {ids : List UInt16} {r : List UInt8 × List UInt8 × List UInt16}
    (hwrap : i.toNat + vs.length < 2 ^ 16)
    (h : toBinPayloadLoop cap vs i written bitmap out ids = .ok r) :
    r.1.length = bitmap.length ∧ ∀ j, paramNull r.1 j = true ↔
      paramNull bitmap j = true ∨ ∃ k, vs[k]? = some .NULL ∧ j = i.toNat + k := by
  induction vs generalizing i written bitmap out ids with
  | nil => cases h; simp
  | cons v vs ih =>
    rw [List.length_cons] at hwrap
    have hsucc := UInt16.toNat_succ (i := i) (by omega)
    have hwrap' : (i + 1).toNat + vs.length < 2 ^ 16 := by omega
    by_cases hv : v = .NULL
    · -- a `NULL`: its bit is set, then the loop goes on
      subst hv
      rw [toBinPayloadLoop] at h
      split_ifs at h with hb
      obtain ⟨hl, hbits⟩ := ih hwrap' h
      refine ⟨by rw [hl, List.length_set], fun j => ?_⟩
      rw [hbits, paramNull_set hb, hsucc, exists_getElem?_cons]
      simp only [Bool.or_eq_true, decide_eq_true_eq, true_and]
      constructor
      · rintro ((h | h) | ⟨k, hk, rfl⟩)
        · exact .inl h
        · exact .inr (.inl h)
        · exact .inr (.inr ⟨k, hk, by omega⟩)
      · rintro (h | h | ⟨k, hk, rfl⟩)
        · exact .inl (.inl h)
        · exact .inl (.inr h)
        · exact .inr ⟨k, hk, by omega⟩
    · -- any other value, inlined or not, leaves the bitmap alone
      rw [toBinPayloadLoop_of_ne_null hv] at h
      have key : ∀ {w o l}, toBinPayloadLoop cap vs (i + 1) w bitmap o l = .ok r →
          r.1.length = bitmap.length ∧ ∀ j, paramNull r.1 j = true ↔
            paramNull bitmap j = true ∨
              ∃ k, (v :: vs)[k]? = some .NULL ∧ j = i.toNat + k := by
        intro w o l h
        obtain ⟨hl, hbits⟩ := ih hwrap' h
        refine ⟨hl, fun j => ?_⟩
        rw [hbits, hsucc, exists_getElem?_cons]
        simp only [hv, false_and, false_or]
        constructor <;> rintro (h | ⟨k, hk, rfl⟩)
        all_goals first | exact .inl h | exact .inr ⟨k, hk, by omega⟩
      split_ifs at h
      · exact key h
      · exact key h

/-- The loop fails only by panicking, and exactly when a `NULL` value's byte is past the
bitmap. -/
theorem toBinPayloadLoop_error {vs : List Value} {i : UInt16} {written : Nat}
    {bitmap out : List UInt8} {ids : List UInt16} {e : Fault IoError}
    (hwrap : i.toNat + vs.length < 2 ^ 16) :
    toBinPayloadLoop cap vs i written bitmap out ids = .error e ↔
      e = .panic "index out of bounds" ∧
        ∃ k, vs[k]? = some .NULL ∧ bitmap.length ≤ (i.toNat + k) / 8 := by
  induction vs generalizing i written bitmap out ids with
  | nil => simp [toBinPayloadLoop]
  | cons v vs ih =>
    rw [List.length_cons] at hwrap
    have hsucc := UInt16.toNat_succ (i := i) (by omega)
    have hwrap' : (i + 1).toNat + vs.length < 2 ^ 16 := by omega
    rw [exists_getElem?_cons]
    by_cases hv : v = .NULL
    · subst hv
      rw [toBinPayloadLoop]
      split_ifs with hb
      · -- the bit fits: the failure, if any, is further on
        rw [ih hwrap', List.length_set, hsucc]
        simp only [true_and]
        constructor
        · rintro ⟨rfl, k, hk, hle⟩; exact ⟨rfl, .inr ⟨k, hk, by omega⟩⟩
        · rintro ⟨rfl, h | ⟨k, hk, hle⟩⟩
          · omega
          · exact ⟨rfl, k, hk, by omega⟩
      · -- the bit is past the bitmap: `bitmap.get_mut` panics here
        simp only [Except.error.injEq, true_and, Nat.add_zero]
        exact ⟨fun h => ⟨h.symm, .inl (by omega)⟩, fun h => h.1.symm⟩
    · rw [toBinPayloadLoop_of_ne_null hv]
      have key : ∀ {w o l}, toBinPayloadLoop cap vs (i + 1) w bitmap o l = .error e ↔
          e = .panic "index out of bounds" ∧
            ((v = .NULL ∧ bitmap.length ≤ (i.toNat + 0) / 8) ∨
            ∃ k, vs[k]? = some .NULL ∧ bitmap.length ≤ (i.toNat + (k + 1)) / 8) := by
        intro w o l
        rw [ih hwrap', hsucc]
        simp only [hv, false_and, false_or]
        constructor <;> rintro ⟨rfl, k, hk, hle⟩ <;> exact ⟨rfl, k, hk, by omega⟩
      split_ifs
      · exact key
      · exact key

end Loop

theorem toBinPayload_of_loop {params : List Column} {values : List Value} {M : Nat}
    {r : List UInt8 × List UInt8 × List UInt16}
    (hl : toBinPayloadLoop (uintSub (uintSub M ((params.length + 7) / 8)) (values.length * 8))
      values 0 0 (List.replicate ((params.length + 7) / 8) 0) [] [] = .ok r) :
    Value.toBinPayload params values M =
      .ok (r.1, r.2.1, if r.2.2.length = 0 then none else some r.2.2) := by
  unfold Value.toBinPayload
  simp only [hl, bind, Except.bind]
  split_ifs <;> rfl

theorem toBinPayload_of_loop_error {params : List Column} {values : List Value} {M : Nat}
    {e : Fault IoError}
    (hl : toBinPayloadLoop (uintSub (uintSub M ((params.length + 7) / 8)) (values.length * 8))
      values 0 0 (List.replicate ((params.length + 7) / 8) 0) [] [] = .error e) :
    Value.toBinPayload params values M = .error e := by
  unfold Value.toBinPayload
  simp only [hl, bind, Except.bind]

theorem paramNull_toBinPayload {params : List Column} {values : List Value} {M : Nat}
    {bitmap out : List UInt8} {ids : Option (List UInt16)} (hwrap : values.length < 2 ^ 16)
    (h : Value.toBinPayload params values M = .ok (bitmap, out, ids)) :
    bitmap.length = (params.length + 7) / 8 ∧
      ∀ j, paramNull bitmap j = true ↔ values[j]? = some .NULL := by
  rcases hl : toBinPayloadLoop (uintSub (uintSub M ((params.length + 7) / 8)) (values.length * 8))
    values 0 0 (List.replicate ((params.length + 7) / 8) 0) [] [] with e | r
  · rw [toBinPayload_of_loop_error hl] at h; cases h
  · rw [toBinPayload_of_loop hl] at h
    cases h
    obtain ⟨hlen, hbits⟩ := toBinPayloadLoop_bitmap (by simpa using hwrap) hl
    refine ⟨by simpa using hlen, fun j => ?_⟩
    rw [hbits, paramNull_replicate]
    simp

/-- Whatever the budget, `to_bin_payload` keeps its bitmap `(params.len() + 7) / 8` bytes long and
sets bit `j % 8` of byte `j / 8` exactly for the `NULL` values `j`. It fails only by panicking, and
exactly when a `NULL` value's byte is past the bitmap, as with more values than definitions. -/
theorem toBinPayload_marks_nulls (params : List Column) (values : List Value) (M : Nat)
    (hwrap : values.length < 2 ^ 16) :
    (∀ bitmap out ids, Value.toBinPayload params values M = .ok (bitmap, out, ids) →
      bitmap.length = (params.length + 7) / 8 ∧
        ∀ j, paramNull bitmap j = true ↔ values[j]? = some .NULL) ∧
    (∀ e, Value.toBinPayload params values M = .error e ↔
      e = .panic "index out of bounds" ∧
        ∃ j, values[j]? = some .NULL ∧ (params.length + 7) / 8 ≤ j / 8) := by
  have hw : (0 : UInt16).toNat + values.length < 2 ^ 16 := by simpa using hwrap
  have herr := fun e => @toBinPayloadLoop_error (uintSub (uintSub M ((params.length + 7) / 8))
    (values.length * 8)) values 0 0 (List.replicate ((params.length + 7) / 8) 0) [] [] e hw
  simp only [List.length_replicate, UInt16.toNat_zero, Nat.zero_add] at herr
  refine ⟨fun _ _ _ => paramNull_toBinPayload hwrap, fun e => ?_⟩
  rcases hl : toBinPayloadLoop (uintSub (uintSub M ((params.length + 7) / 8)) (values.length * 8))
    values 0 0 (List.replicate ((params.length + 7) / 8) 0) [] [] with e' | r
  · rw [toBinPayload_of_loop_error hl, ← herr, hl, Except.error.injEq, Except.error.injEq]
  · rw [toBinPayload_of_loop hl, ← herr, hl]
    exact ⟨fun h => (nomatch h), fun h => (nomatch h)⟩

/-- Three parameters with no definitions: the hypothesis holds at any short list. -/
theorem toBinPayload_marks_nulls_three :
    [Value.NULL, .Int 5, .NULL].length < 2 ^ 16 ∧
      ((∀ bitmap out ids, Value.toBinPayload [] [.NULL, .Int 5, .NULL] 1024 =
          .ok (bitmap, out, ids) → bitmap.length = (([] : List Column).length + 7) / 8 ∧
            ∀ j, paramNull bitmap j = true ↔ [Value.NULL, .Int 5, .NULL][j]? = some .NULL) ∧
        ∀ e, Value.toBinPayload [] [.NULL, .Int 5, .NULL] 1024 = .error e ↔
          e = .panic "index out of bounds" ∧
            ∃ j, [Value.NULL, .Int 5, .NULL][j]? = some .NULL ∧
            (([] : List Column).length + 7) / 8 ≤ j / 8) :=
  ⟨by decide, toBinPayload_marks_nulls [] _ 1024 (by decide)⟩

/-! ## One parameter: its type bytes and its value -/

/-- The type bytes `t, f` name a binary-protocol type under which `to_bin`'s encoding of `v` reads
back as `v`, the sign of a zero duration cleared, and under which a value missing at the end of
the packet is an `EndOfFile`. -/
def TypeReads (t f : UInt8) (v : Value) : Prop :=
  v ≠ .NULL →
    (v.toBin.length < 2 ^ 64 → ∀ rest,
      readBinValue t (f &&& 0x80 != 0) (v.toBin ++ rest) = (.ok v.zeroTimeUnsigned, rest)) ∧
    readBinValue t (f &&& 0x80 != 0) [] = (.error .EndOfFile, [])

theorem readBinValue_varString (u : Bool) :
    readBinValue mysqlTypeVarString u = .Bytes <$> readLenencBytes := rfl

theorem readBinValue_longlong (u : Bool) :
    readBinValue mysqlTypeLonglong u =
      if u then (fun v => .UInt v.toUInt64) <$> readLeUintN 8 else readIntN 8 false := rfl

theorem readBinValue_double (u : Bool) :
    readBinValue mysqlTypeDouble u = (fun v => .Float v.toUInt64) <$> readLeUintN 8 := rfl

theorem readBinValue_date (u : Bool) : readBinValue mysqlTypeDate u = readU8 >>= readBinDate :=
  rfl

theorem readBinValue_time (u : Bool) : readBinValue mysqlTypeTime u = readU8 >>= readBinTime :=
  rfl

/-- The type bytes `execute` writes for a parameter name a type its encoding reads back under:
`VAR_STRING` for `Bytes`, `LONGLONG` signed or unsigned, `DOUBLE`, `DATE` and `TIME`. A `NULL`
takes its definition's type, which is never read. -/
theorem paramType_reads {cols : List Column} {i : Nat} {v : Value} {c c' : MyConn}
    {ts : List UInt8} (h : paramType cols i v c = (.ok ts, c')) :
    c' = c ∧ ∃ t f, ts = [t, f] ∧ TypeReads t f v := by
  cases v with
  | NULL =>
    rcases hc : cols[i]? with _ | col <;> simp only [paramType, hc] at h
    · cases h
    · cases h; exact ⟨rfl, _, _, rfl, fun hv => absurd rfl hv⟩
  | Bytes x =>
    cases h
    refine ⟨rfl, _, _, rfl, fun _ => ⟨fun hl rest => ?_, rfl⟩⟩
    have hx : x.length < 2 ^ 64 := by
      simp only [Value.toBin, writeLenencBytes, List.length_append] at hl; omega
    rw [readBinValue_varString, Value.toBin, Act.map_apply, readLenencBytes_writeLenencBytes hx]
    rfl
  | Int x =>
    cases h
    refine ⟨rfl, _, _, rfl, fun _ => ⟨fun _ rest => ?_, rfl⟩⟩
    rw [readBinValue_longlong, if_neg (by decide), Value.toBin, readIntN,
      Act.bind_of_ok (readLeUintN_leBytes 8 x.toNat rest),
      Nat.mod_eq_of_lt (show x.toNat < 256 ^ 8 from x.isLt)]
    simp [BitVec.signExtend_eq, Value.zeroTimeUnsigned]
  | UInt x =>
    cases h
    refine ⟨rfl, _, _, rfl, fun _ => ⟨fun _ rest => ?_, rfl⟩⟩
    rw [readBinValue_longlong, if_pos (by decide), Value.toBin, writeLeU64, Act.map_apply,
      readLeUintN_leBytes, Nat.mod_eq_of_lt (show x.toNat < 256 ^ 8 from x.toNat_lt_size)]
    simp [Value.zeroTimeUnsigned]
  | Float x =>
    cases h
    refine ⟨rfl, _, _, rfl, fun _ => ⟨fun _ rest => ?_, rfl⟩⟩
    rw [readBinValue_double, Value.toBin, writeLeU64, Act.map_apply,
      readLeUintN_leBytes, Nat.mod_eq_of_lt (show x.toNat < 256 ^ 8 from x.toNat_lt_size)]
    simp [Value.zeroTimeUnsigned]
  | Date =>
    cases h
    exact ⟨rfl, _, _, rfl, fun _ =>
      ⟨fun _ rest => by rw [readBinValue_date, readBinDate_toBin]; rfl, rfl⟩⟩
  | Time =>
    cases h
    exact ⟨rfl, _, _, rfl, fun _ =>
      ⟨fun _ rest => by rw [readBinValue_time, readBinTime_toBin], rfl⟩⟩

/-- The type loop writes two bytes per parameter, a pair that reads its parameter back, and
leaves the connection alone. -/
theorem paramTypes_reads {cols : List Column} {i : Nat} {vs : List Value} {c c' : MyConn}
    {ts : List UInt8} (h : paramTypes cols i vs c = (.ok ts, c')) :
    c' = c ∧ ∃ pairs : List (UInt8 × UInt8), ts = pairs.flatMap (fun p => [p.1, p.2]) ∧
      List.Forall₂ (fun p v => TypeReads p.1 p.2 v) pairs vs := by
  induction vs generalizing i c ts with
  | nil => cases h; exact ⟨rfl, [], rfl, .nil⟩
  | cons v vs ih =>
    rw [paramTypes] at h
    obtain ⟨t, c₁, ht, h⟩ := Act.bind_eq_ok h
    obtain ⟨ts', c₂, hts, h⟩ := Act.bind_eq_ok h
    cases h
    obtain ⟨rfl, a, b, rfl, hab⟩ := paramType_reads ht
    obtain ⟨rfl, pairs, rfl, hpairs⟩ := ih hts
    exact ⟨rfl, (a, b) :: pairs, rfl, .cons hab hpairs⟩

/-! ## The server's side -/

/-- The `2n` type bytes of an execute packet, as pairs. -/
def readParamTypes : Nat → Reader (List (UInt8 × UInt8))
  | 0 => pure []
  | n + 1 => do
    let t ← readU8
    let f ← readU8
    let ts ← readParamTypes n
    return (t, f) :: ts

/-- Parameter `i` of an execute packet, of type bytes `t, f`: `NULL` where the bitmap says so, the
long data where the parameter has some, and otherwise a value read under the type bytes. -/
def readParam (bitmap : List UInt8) (long : Nat → Option (List UInt8)) (i : Nat) (t f : UInt8) :
    Reader Value :=
  if paramNull bitmap i then pure .NULL else
    match long i with
    | some data => pure (.Bytes data)
    | none => readBinValue t (f &&& 0x80 != 0)

/-- The values of an execute packet from parameter `i` on. -/
def readParamValues (bitmap : List UInt8) (long : Nat → Option (List UInt8)) :
    Nat → List (UInt8 × UInt8) → Reader (List Value)
  | _, [] => pure []
  | i, (t, f) :: ts => do
    let v ← readParam bitmap long i t f
    let vs ← readParamValues bitmap long (i + 1) ts
    return v :: vs

/-- A `COM_STMT_EXECUTE` packet for a statement of `n` parameters, as a server reads it: the
statement id, the flags `0` and the iteration count `1`; for `n > 0` the bitmap, the
new-params-bound flag `1`, the types and the values; and nothing after. `long` is the long
data the server holds, by statement and parameter. -/
def readExecute (n : Nat) (long : UInt32 → Nat → Option (List UInt8)) :
    Reader (UInt32 × List Value) := do
  let cmd ← readU8
  let statementId ← readLeU32
  let flags ← readU8
  let iterations ← readLeU32
  if cmd ≠ comStmtExecute ∨ flags ≠ 0 ∨ iterations ≠ 1 then throw .InvalidInput
  let values ← if n = 0 then pure [] else do
    let bitmap ← readExact ((n + 7) / 8)
    let bound ← readU8
    if bound ≠ 1 then throw .InvalidInput
    let types ← readParamTypes n
    readParamValues bitmap (long statementId) 0 types
  let done ← eof
  if !done then throw .InvalidInput
  return (statementId, values)

/-- A `COM_STMT_SEND_LONG_DATA` packet as a server reads it: statement id, parameter id, and the
rest of the packet as data. -/
def readSendLongData : Reader (UInt32 × UInt16 × List UInt8) := do
  let cmd ← readU8
  if cmd ≠ comStmtSendLongData then throw .InvalidInput
  let statementId ← readLeU32
  let paramId ← readLeU16
  let data ← readToEnd
  return (statementId, paramId, data)

/-- The server's long data after one more packet: the data goes after what the parameter had. -/
def appendLong (long : UInt32 → Nat → Option (List UInt8)) (s : UInt32) (id : UInt16)
    (data : List UInt8) : UInt32 → Nat → Option (List UInt8) :=
  fun s' j => if s' = s ∧ j = id.toNat then some ((long s j).getD [] ++ data) else long s' j

/-- A server taking the packets of one `execute`, for a statement of `n` parameters: long data
until a packet of another command, which it reads as `COM_STMT_EXECUTE`. -/
def serveExecute (n : Nat) :
    List (List UInt8) → (UInt32 → Nat → Option (List UInt8)) →
      Except IoError (UInt32 × List Value)
  | [], _ => .error .EndOfFile
  | pld :: plds, long =>
    if pld.head? = some comStmtSendLongData then do
      let (s, id, data) ← Reader.parse pld readSendLongData
      serveExecute n plds (appendLong long s id data)
    else Reader.parse pld (readExecute n long)

/-! ## The inline values read back -/

section Reads

variable {cap : Nat}

/-- The loop only appends to the large ids, each index once and at or past its own. -/
theorem toBinPayloadLoop_ids {vs : List Value} {i : UInt16} {written : Nat}
    {bitmap out : List UInt8} {ids : List UInt16} {r : List UInt8 × List UInt8 × List UInt16}
    (hwrap : i.toNat + vs.length < 2 ^ 16)
    (h : toBinPayloadLoop cap vs i written bitmap out ids = .ok r) :
    ∃ more, r.2.2 = ids ++ more ∧ (∀ id ∈ more, i.toNat ≤ id.toNat) ∧
      (more.map UInt16.toNat).Nodup := by
  induction vs generalizing i written bitmap out ids with
  | nil => cases h; exact ⟨[], by simp, by simp, List.nodup_nil⟩
  | cons v vs ih =>
    rw [List.length_cons] at hwrap
    have hsucc := UInt16.toNat_succ (i := i) (by omega)
    have hwrap' : (i + 1).toNat + vs.length < 2 ^ 16 := by omega
    have keep : ∀ {w b o}, toBinPayloadLoop cap vs (i + 1) w b o ids = .ok r →
        ∃ more, r.2.2 = ids ++ more ∧ (∀ id ∈ more, i.toNat ≤ id.toNat) ∧
          (more.map UInt16.toNat).Nodup := fun h => by
      obtain ⟨more, hr, hm, hnd⟩ := ih hwrap' h
      exact ⟨more, hr, fun id hid => by have := hm id hid; omega, hnd⟩
    by_cases hv : v = .NULL
    · subst hv
      rw [toBinPayloadLoop] at h
      split_ifs at h
      exact keep h
    · rw [toBinPayloadLoop_of_ne_null hv] at h
      split_ifs at h
      · exact keep h
      · obtain ⟨more, hr, hm, hnd⟩ := ih hwrap' h
        refine ⟨i :: more, by rw [hr, List.append_assoc]; rfl, ?_, ?_⟩
        · rintro id (_ | ⟨_, hid⟩)
          · exact le_rfl
          · have := hm id hid; omega
        · refine List.nodup_cons.mpr ⟨fun hi => ?_, hnd⟩
          obtain ⟨id, hid, he⟩ := List.mem_map.mp hi
          have := hm id hid; omega

/-- A non-`NULL` value takes at least one byte. -/
theorem Value.toBin_length_pos {v : Value} (hv : v ≠ .NULL) : 0 < v.toBin.length := by
  cases v with
  | NULL => exact absurd rfl hv
  | Bytes x =>
    rw [Value.toBin, writeLenencBytes, List.length_append, writeLenencInt]
    split_ifs <;> exact Nat.lt_add_right _ (Nat.succ_pos _)
  | Date =>
    obtain ⟨_, _, h, -⟩ := toBin_date_length_byte (v := .Date ..) rfl
    rw [h]; exact Nat.succ_pos _
  | Time =>
    obtain ⟨_, _, h, -⟩ := toBin_time_length_byte (v := .Time ..) rfl
    rw [h]; exact Nat.succ_pos _
  | _ => simp [Value.toBin, writeLeU64]

/-- With no room left for one byte, the loop inlines nothing more: every value it meets is `NULL`
or goes to the large ids. -/
theorem toBinPayloadLoop_out_of_room {vs : List Value} {i : UInt16} {written : Nat}
    {bitmap out : List UInt8} {ids : List UInt16} {b' out' : List UInt8} {ids' : List UInt16}
    (hroom : uintSub cap written ≤ 1)
    (h : toBinPayloadLoop cap vs i written bitmap out ids = .ok (b', out', ids')) :
    out' = out := by
  induction vs generalizing i bitmap ids with
  | nil => cases h; rfl
  | cons v vs ih =>
    by_cases hv : v = .NULL
    · subst hv
      rw [toBinPayloadLoop] at h
      split_ifs at h
      exact ih h
    · have := Value.toBin_length_pos hv
      rw [toBinPayloadLoop_of_ne_null hv, if_neg (by omega)] at h
      exact ih h

theorem readParamValues_cons {bitmap : List UInt8} {long : Nat → Option (List UInt8)} {i : Nat}
    {t f : UInt8} {ts : List (UInt8 × UInt8)} {s s' : List UInt8} {v : Value}
    (hv : readParam bitmap long i t f s = (.ok v, s')) :
    readParamValues bitmap long i ((t, f) :: ts) s =
      ((v :: ·) <$> readParamValues bitmap long (i + 1) ts) s' := by
  rw [readParamValues, Act.bind_of_ok hv]; rfl

/-- What the loop inlines, a server reads back under the type bytes, parameter by parameter:
with the final bitmap and large ids, and long data for the large ids among the first `k` values,
each of them a string, the first `k` values come back from the bytes the loop appends for them.
The server then goes on from index `i + k`, where the loop goes on, with large ids all before
it. -/
theorem toBinPayloadLoop_reads {long : Nat → Option (List UInt8)} {vs : List Value}
    {ts : List (UInt8 × UInt8)} {i : UInt16} {written : Nat} {bitmap out : List UInt8}
    {ids : List UInt16} {b' out' : List UInt8} {ids' : List UInt16} {k : Nat}
    (hk : k ≤ vs.length) (hwrap : i.toNat + vs.length < 2 ^ 16)
    (hids : ∀ id ∈ ids, id.toNat < i.toNat)
    (h : toBinPayloadLoop cap vs i written bitmap out ids = .ok (b', out', ids'))
    (hts : List.Forall₂ (fun p v => TypeReads p.1 p.2 v) ts vs)
    (hnull : ∀ k, paramNull b' (i.toNat + k) = true ↔ vs[k]? = some .NULL)
    (hlong : ∀ k' v, k' < k → vs[k']? = some v → v ≠ .NULL →
      if i.toNat + k' ∈ ids'.map UInt16.toNat then
        ∃ x, v = .Bytes x ∧ long (i.toNat + k') = some x
      else long (i.toNat + k') = none) :
    ∃ more, (∀ rest, readParamValues b' long i.toNat ts (more ++ rest) =
        (((vs.take k).map Value.zeroTimeUnsigned ++ ·) <$>
          readParamValues b' long (i.toNat + k) (ts.drop k)) rest) ∧
      ∃ (j : UInt16) (written₁ : Nat) (bitmap₁ : List UInt8) (ids₁ : List UInt16),
        j.toNat = i.toNat + k ∧
        (∀ id ∈ ids₁, id.toNat < j.toNat) ∧
        toBinPayloadLoop cap (vs.drop k) j written₁ bitmap₁ (out ++ more) ids₁ =
          .ok (b', out', ids') := by
  induction vs generalizing i written bitmap out ids ts k with
  | nil =>
    obtain rfl : k = 0 := Nat.le_zero.mp hk
    cases hts
    exact ⟨[], fun rest => rfl, i, written, bitmap, ids, rfl, hids, by simpa using h⟩
  | cons v vs ih =>
    cases k with
    | zero =>
      refine ⟨[], fun rest => ?_, i, written, bitmap, ids, rfl, hids, by simpa using h⟩
      simp only [List.take_zero, List.map_nil, List.nil_append, List.drop_zero, Nat.add_zero,
        Act.map_apply]
      generalize readParamValues b' long i.toNat ts rest = r
      rcases r with ⟨_ | _, _⟩ <;> rfl
    | succ k =>
    cases hts with
    | cons hab hts =>
    rename_i p ts
    obtain ⟨t, f⟩ := p
    rw [List.length_cons] at hwrap hk
    have hsucc := UInt16.toNat_succ (i := i) (by omega)
    have hwrap' : (i + 1).toNat + vs.length < 2 ^ 16 := by omega
    have hnull' : ∀ k, paramNull b' ((i + 1).toNat + k) = true ↔ vs[k]? = some .NULL :=
        fun k => by
      rw [hsucc, Nat.add_assoc, Nat.add_comm 1 k, hnull (k + 1), List.getElem?_cons_succ]
    have hlong' : ∀ k' v', k' < k → vs[k']? = some v' → v' ≠ .NULL →
        if (i + 1).toNat + k' ∈ ids'.map UInt16.toNat then
          ∃ x, v' = .Bytes x ∧ long ((i + 1).toNat + k') = some x
        else long ((i + 1).toNat + k') = none := fun k' v' hlt hk' hv' => by
      rw [hsucc, Nat.add_assoc, Nat.add_comm 1 k']
      exact hlong (k' + 1) v' (by omega) (by rw [List.getElem?_cons_succ]; exact hk') hv'
    have h0 := hnull 0
    have hl0 := hlong 0 v (Nat.succ_pos k) List.getElem?_cons_zero
    rw [Nat.add_zero] at h0 hl0
    rw [List.getElem?_cons_zero, Option.some.injEq] at h0
    have hids' : ∀ {ids'' : List UInt16}, (∀ id ∈ ids'', id.toNat ≤ i.toNat) →
        ∀ id ∈ ids'', id.toNat < (i + 1).toNat := fun h id hid => by have := h id hid; omega
    -- the first value read, and the rest as the induction reads it
    have step : ∀ {mid more : List UInt8},
        (∀ rest, readParam b' long i.toNat t f (mid ++ rest) = (.ok v.zeroTimeUnsigned, rest)) →
        (∀ rest, readParamValues b' long (i + 1).toNat ts (more ++ rest) =
          (((vs.take k).map Value.zeroTimeUnsigned ++ ·) <$>
            readParamValues b' long ((i + 1).toNat + k) (ts.drop k)) rest) →
        ∀ rest, readParamValues b' long i.toNat ((t, f) :: ts) (mid ++ more ++ rest) =
          ((((v :: vs).take (k + 1)).map Value.zeroTimeUnsigned ++ ·) <$>
            readParamValues b' long (i.toNat + (k + 1)) (((t, f) :: ts).drop (k + 1))) rest :=
        fun hv hread rest => by
      rw [List.append_assoc, readParamValues_cons (hv _), ← hsucc, Act.map_apply, hread,
        show (i + 1).toNat + k = i.toNat + (k + 1) by omega, Act.map_apply, Act.map_apply,
        List.drop_succ_cons]
      generalize readParamValues b' long (i.toNat + (k + 1)) (ts.drop k) rest = r
      rcases r with ⟨_ | _, _⟩ <;> rfl
    -- the rest of the loop from index `i + 1 + k`
    have tail : ∀ {w o more : List UInt8}, (∃ (j : UInt16) (written₁ : Nat) (bitmap₁ : List UInt8)
        (ids₁ : List UInt16), j.toNat = (i + 1).toNat + k ∧ (∀ id ∈ ids₁, id.toNat < j.toNat) ∧
        toBinPayloadLoop cap (vs.drop k) j written₁ bitmap₁ (o ++ more) ids₁ =
          .ok (b', out', ids')) → o = out ++ w →
        ∃ (j : UInt16) (written₁ : Nat) (bitmap₁ : List UInt8) (ids₁ : List UInt16),
          j.toNat = i.toNat + (k + 1) ∧
          (∀ id ∈ ids₁, id.toNat < j.toNat) ∧
          toBinPayloadLoop cap ((v :: vs).drop (k + 1)) j written₁ bitmap₁ (out ++ (w ++ more))
            ids₁ = .ok (b', out', ids') := by
      rintro w o more ⟨j, w₁, b₁, l₁, hj, hl₁, hloop⟩ rfl
      exact ⟨j, w₁, b₁, l₁, by omega, hl₁, by rwa [List.append_assoc] at hloop⟩
    by_cases hv : v = .NULL
    · -- a `NULL`: nothing inline, the bitmap says so
      subst hv
      rw [toBinPayloadLoop] at h
      split_ifs at h
      obtain ⟨more, hread, hloop⟩ :=
        ih (k := k) (by omega) hwrap' (hids' fun id hid => (hids id hid).le) h hts hnull' hlong'
      refine ⟨[] ++ more, step (fun rest => ?_) hread, tail hloop (List.append_nil _).symm⟩
      simp [readParam, h0.mpr rfl, Value.zeroTimeUnsigned]
    have hn : paramNull b' i.toNat = false := by
      rw [← Bool.not_eq_true, h0]; exact hv
    rw [toBinPayloadLoop_of_ne_null hv] at h
    split_ifs at h with hfit
    · -- inlined: no long data, the value is read under its type
      obtain ⟨new, (hnew : ids' = ids ++ new), hge, -⟩ := toBinPayloadLoop_ids hwrap' h
      obtain ⟨more, hread, hloop⟩ :=
        ih (k := k) (by omega) hwrap' (hids' fun id hid => (hids id hid).le) h hts hnull' hlong'
      have hmem : i.toNat ∉ ids'.map UInt16.toNat := by
        simp only [hnew, List.map_append, List.mem_append, List.mem_map, not_or, not_exists,
          not_and]
        exact ⟨fun id hid he => by have := hids id hid; omega,
          fun id hid he => by have := hge id hid; omega⟩
      have hlen : v.toBin.length < 2 ^ 64 := lt_trans hfit (Nat.mod_lt _ (by decide))
      rw [if_neg hmem] at hl0
      refine ⟨v.toBin ++ more, step (fun rest => ?_) hread, tail hloop rfl⟩
      rw [readParam, if_neg (by rw [hn]; decide), hl0 hv]
      exact (hab hv).1 hlen rest
    · -- sent as long data: the server holds it
      obtain ⟨new, (hnew : ids' = ids ++ [i] ++ new), -, -⟩ := toBinPayloadLoop_ids hwrap' h
      obtain ⟨more, hread, hloop⟩ := ih (k := k) (by omega) hwrap' (hids' fun id hid => by
        rcases List.mem_append.mp hid with hid | hid
        · exact (hids id hid).le
        · rw [List.mem_singleton.mp hid]) h hts hnull' hlong'
      have hmem : i.toNat ∈ ids'.map UInt16.toNat := by
        rw [hnew]; simp
      rw [if_pos hmem] at hl0
      obtain ⟨x, rfl, hx⟩ := hl0 hv
      refine ⟨[] ++ more, step (fun rest => ?_) hread, tail hloop (List.append_nil _).symm⟩
      simp [readParam, hn, hx, Value.zeroTimeUnsigned]

end Reads

/-! ## Long data -/

/-- The bytes of a run of commands: each payload in its frames, from sequence id `0`. -/
def commandStream (plds : List (List UInt8)) : List UInt8 :=
  plds.flatMap fun p => frames (packetChunks p) 0

@[simp] theorem commandStream_nil : commandStream [] = [] := rfl

@[simp] theorem commandStream_cons (p : List UInt8) (plds : List (List UInt8)) :
    commandStream (p :: plds) = frames (packetChunks p) 0 ++ commandStream plds := rfl

@[simp] theorem commandStream_append (plds plds' : List (List UInt8)) :
    commandStream (plds ++ plds') = commandStream plds ++ commandStream plds' :=
  List.flatMap_append _ _ _

/-- A command that returned wrote its payload's frames from sequence id `0`, and kept the packet
limit. -/
theorem writeCommandData_ok {cmd : UInt8} {buf : List UInt8} {c c' : MyConn}
    (h : writeCommandData cmd buf c = (.ok (), c')) :
    c'.outbound = c.outbound ++ commandStream [cmd :: buf] ∧
      c'.maxAllowedPacket = c.maxAllowedPacket := by
  by_cases ht : (cmd :: buf).length > c.maxAllowedPacket ∧ c.maxAllowedPacket < maxPayloadLen
  · rw [writeCommandData_too_large ht] at h; cases h
  · rw [writeCommandData_spec ht] at h
    cases h
    simp

/-- The chunks of one long parameter go out as one `COM_STMT_SEND_LONG_DATA` command each. -/
theorem sendLongChunks_ok {stmt : Stmt} {id : UInt16} {chs : List (List UInt8)} {c c' : MyConn}
    (h : sendLongChunks stmt id chs c = (.ok (), c')) :
    c'.outbound = c.outbound ++ commandStream (chs.map fun ch =>
      comStmtSendLongData :: (writeLeU32 stmt.statementId ++ writeLeU16 id ++ ch)) ∧
    c'.maxAllowedPacket = c.maxAllowedPacket := by
  induction chs generalizing c with
  | nil => cases h; simp
  | cons ch chs ih =>
    obtain ⟨_, c₁, h₁, h⟩ := Act.bind_eq_ok h
    obtain ⟨ho, hm⟩ := writeCommandData_ok h₁
    obtain ⟨ho', hm'⟩ := ih h
    exact ⟨by rw [ho', ho]; simp, hm'.trans hm⟩

/-- A string parameter with a non-zero chunk size goes out chunk by chunk. -/
theorem sendLongData_bytes {stmt : Stmt} {params : List Value} {id : UInt16} {ids : List UInt16}
    {x : List UInt8} {c : MyConn} (hx : params[id.toNat]? = some (.Bytes x))
    (hsz : uintSub c.maxAllowedPacket 7 ≠ 0) :
    sendLongData stmt params (id :: ids) c =
      (sendLongChunks stmt id (chunks (uintSub c.maxAllowedPacket 7) x) >>= fun _ =>
        sendLongData stmt params ids) c := by
  rw [sendLongData, hx]
  simp only [Act.bind_apply, Act.get_apply]
  rw [if_neg hsz]
  rfl

/-- Chunks that leave room for the 7 header bytes all go out. -/
theorem sendLongChunks_fits {stmt : Stmt} {id : UInt16} {chs : List (List UInt8)} (c : MyConn)
    (hchs : ∀ ch ∈ chs, ch.length + 7 ≤ c.maxAllowedPacket) :
    ∃ c', sendLongChunks stmt id chs c = (.ok (), c') ∧
      c'.maxAllowedPacket = c.maxAllowedPacket := by
  induction chs generalizing c with
  | nil => exact ⟨c, rfl, rfl⟩
  | cons ch chs ih =>
    have hfit : ¬((comStmtSendLongData :: (writeLeU32 stmt.statementId ++ writeLeU16 id ++
        ch)).length > c.maxAllowedPacket ∧ c.maxAllowedPacket < maxPayloadLen) := by
      have := hchs ch (List.mem_cons_self _ _)
      simp only [List.length_cons, List.length_append, writeLeU32_length, writeLeU16_length]
      omega
    rw [sendLongChunks, Act.bind_of_ok (writeCommandData_spec hfit)]
    exact ih _ fun ch' hch' => hchs ch' (List.mem_cons_of_mem _ hch')

/-- `send_long_data` cuts each string into chunks of `max_allowed_packet - 7` bytes, so that with
the command byte, the statement id and the parameter id each packet it writes is within
`max_allowed_packet`. With a limit above 7 and ids that name parameters it therefore returns, and
keeps the limit. -/
theorem sendLongData_fits {stmt : Stmt} {params : List Value} {ids : List UInt16} (c : MyConn)
    (hM : 7 < c.maxAllowedPacket) (hM64 : c.maxAllowedPacket < 2 ^ 64)
    (hids : ∀ id ∈ ids, id.toNat < params.length) :
    ∃ c' plds, sendLongData stmt params ids c = (.ok (), c') ∧
      c'.maxAllowedPacket = c.maxAllowedPacket ∧
      c'.outbound = c.outbound ++ commandStream plds ∧
      ∀ p ∈ plds, p.length ≤ c.maxAllowedPacket := by
  induction ids generalizing c with
  | nil => exact ⟨c, [], rfl, rfl, by simp, by simp⟩
  | cons id ids ih =>
    obtain ⟨v, hv⟩ : ∃ v, params[id.toNat]? = some v :=
      ⟨_, List.getElem?_eq_getElem (hids id (List.mem_cons_self _ _))⟩
    have hids' := fun id hid => hids id (List.mem_cons_of_mem _ hid)
    by_cases hb : ∃ x, v = .Bytes x
    · obtain ⟨x, rfl⟩ := hb
      have hsz : uintSub c.maxAllowedPacket 7 = c.maxAllowedPacket - 7 := uintSub_of_le hM64 hM.le
      have hchs : ∀ ch ∈ chunks (uintSub c.maxAllowedPacket 7) x,
          ch.length + 7 ≤ c.maxAllowedPacket := fun ch hch => by
        have := chunks_length_le _ _ ch hch; omega
      obtain ⟨c₁, h₁, hm₁⟩ := sendLongChunks_fits c hchs
      obtain ⟨c', plds, h', hm', ho', hp'⟩ := ih c₁ (hm₁ ▸ hM) (hm₁ ▸ hM64) hids'
      refine ⟨c', _ ++ plds, by rw [sendLongData_bytes hv (by omega), Act.bind_of_ok h₁, h'],
        hm'.trans hm₁, by rw [ho', (sendLongChunks_ok h₁).1, commandStream_append,
          List.append_assoc], fun p hp => ?_⟩
      rcases List.mem_append.mp hp with hp | hp
      · obtain ⟨ch, hch, rfl⟩ := List.mem_map.mp hp
        have := hchs ch hch
        simp only [List.length_cons, List.length_append, writeLeU32_length, writeLeU16_length]
        omega
      · exact hm₁ ▸ hp' p hp
    · rw [sendLongData_skip hv (fun x hx => hb ⟨x, hx⟩)]
      exact ih c hM hM64 hids'

/-- Fifty bytes under `max_allowed_packet = 20` go out in chunks of 13 bytes. -/
theorem sendLongData_fits_fifty :
    let c := { MyConn.init MyOpts.default [] with maxAllowedPacket := 20 }
    let stmt : Stmt := ⟨none, none, 1, 0, 1, 0⟩
    let params := [Value.Bytes (List.replicate 50 0x61)]
    7 < c.maxAllowedPacket ∧ c.maxAllowedPacket < 2 ^ 64 ∧
      (∀ id ∈ [(0 : UInt16)], id.toNat < params.length) ∧
      ∃ c' plds, sendLongData stmt params [0] c = (.ok (), c') ∧
        c'.maxAllowedPacket = c.maxAllowedPacket ∧
        c'.outbound = c.outbound ++ commandStream plds ∧
        ∀ p ∈ plds, p.length ≤ c.maxAllowedPacket := by
  intro c stmt params
  exact ⟨by decide, by decide, by decide,
    sendLongData_fits c (by decide) (by decide) (by decide)⟩

theorem readSendLongData_payload (s : UInt32) (id : UInt16) (ch : List UInt8) :
    Reader.parse (comStmtSendLongData :: (writeLeU32 s ++ writeLeU16 id ++ ch)) readSendLongData =
      .ok (s, id, ch) := by
  simp [Reader.parse, readSendLongData, readU8, List.append_assoc, readLeU32_writeLeU32,
    readLeU16_writeLeU16, readToEnd]

/-- A server takes a long-data packet by appending its data. -/
theorem serveExecute_longData (n : Nat) (s : UInt32) (id : UInt16) (ch : List UInt8)
    (plds : List (List UInt8)) (long : UInt32 → Nat → Option (List UInt8)) :
    serveExecute n ((comStmtSendLongData :: (writeLeU32 s ++ writeLeU16 id ++ ch)) :: plds) long =
      serveExecute n plds (appendLong long s id ch) := by
  rw [serveExecute, List.head?_cons, if_pos rfl, readSendLongData_payload]
  rfl

theorem appendLong_append (long : UInt32 → Nat → Option (List UInt8)) (s : UInt32) (id : UInt16)
    (a b : List UInt8) :
    appendLong (appendLong long s id a) s id b = appendLong long s id (a ++ b) := by
  funext s' j
  simp only [appendLong]
  split_ifs <;> simp_all

/-- The chunks of a parameter, taken in order, leave its data appended whole. -/
theorem serveExecute_longChunks (n : Nat) (s : UInt32) (id : UInt16) {chs : List (List UInt8)}
    (hne : chs ≠ []) (plds : List (List UInt8)) (long : UInt32 → Nat → Option (List UInt8)) :
    serveExecute n ((chs.map fun ch => comStmtSendLongData :: (writeLeU32 s ++ writeLeU16 id ++ ch))
      ++ plds) long = serveExecute n plds (appendLong long s id chs.flatten) := by
  induction chs generalizing long with
  | nil => exact absurd rfl hne
  | cons ch chs ih =>
    rw [List.map_cons, List.cons_append, serveExecute_longData]
    by_cases hc : chs = []
    · subst hc; simp
    · rw [ih hc, appendLong_append, List.flatten_cons]

/-- The long data a server holds for parameter `j` once `send_long_data` has gone over it: the
bytes of a non-empty string. An empty string has no `chunks`, so no packet names it, and a value
of another kind is passed over. -/
def longHeld (params : List Value) (j : Nat) : Option (List UInt8) :=
  match params[j]? with
  | some (.Bytes x) => if x = [] then none else some x
  | _ => none

/-- One parameter of a `send_long_data` that returned: its chunks went out, and together they are
what a server holds for it. -/
theorem sendLongData_cons_ok {stmt : Stmt} {params : List Value} {id : UInt16}
    {ids : List UInt16} {c c' : MyConn}
    (h : sendLongData stmt params (id :: ids) c = (.ok (), c')) :
    ∃ chs c₁, sendLongChunks stmt id chs c = (.ok (), c₁) ∧
      sendLongData stmt params ids c₁ = (.ok (), c') ∧
      (chs = [] ∧ longHeld params id.toNat = none ∨
        chs ≠ [] ∧ longHeld params id.toNat = some chs.flatten) := by
  rcases hp : params[id.toNat]? with _ | v
  · rw [sendLongData, hp] at h; simp [panic] at h
  by_cases hb : ∃ x, v = .Bytes x
  · obtain ⟨x, rfl⟩ := hb
    have hsz : uintSub c.maxAllowedPacket 7 ≠ 0 := fun hz => by
      rw [sendLongData, hp] at h; simp [hz, panic] at h
    rw [sendLongData_bytes hp hsz] at h
    obtain ⟨_, c₁, h₁, h⟩ := Act.bind_eq_ok h
    refine ⟨_, c₁, h₁, h, ?_⟩
    by_cases hx : x = []
    · subst hx
      exact .inl ⟨chunks_nil _, by simp [longHeld, hp]⟩
    · exact .inr ⟨chunks_ne_nil (Nat.pos_of_ne_zero hsz) hx, by
        simp [longHeld, hp, hx, chunks_flatten (Nat.pos_of_ne_zero hsz)]⟩
  · rw [sendLongData_skip hp fun x hx => hb ⟨x, hx⟩] at h
    refine ⟨[], c, rfl, h, .inl ⟨rfl, ?_⟩⟩
    cases v with
    | Bytes x => exact absurd ⟨x, rfl⟩ hb
    | _ => simp [longHeld, hp]

/-- `send_long_data` over distinct ids, as a server takes its packets: for the statement it then
holds `longHeld` for each of the ids, and nothing else of what it held changes. -/
theorem sendLongData_serves {stmt : Stmt} {params : List Value} {ids : List UInt16}
    {c c' : MyConn} (n : Nat) (hnd : (ids.map UInt16.toNat).Nodup)
    (h : sendLongData stmt params ids c = (.ok (), c')) :
    ∃ plds, c'.outbound = c.outbound ++ commandStream plds ∧
      ∀ rest long, (∀ j ∈ ids.map UInt16.toNat, long stmt.statementId j = none) →
        ∃ long', serveExecute n (plds ++ rest) long = serveExecute n rest long' ∧
          ∀ s j, long' s j = if s = stmt.statementId ∧ j ∈ ids.map UInt16.toNat then
            longHeld params j else long s j := by
  induction ids generalizing c with
  | nil =>
    cases h
    exact ⟨[], by simp, fun rest long _ => ⟨long, rfl, fun s j => by simp⟩⟩
  | cons id ids ih =>
    obtain ⟨chs, c₁, h₁, h, hheld⟩ := sendLongData_cons_ok h
    have hnd' := List.nodup_cons.mp hnd
    obtain ⟨plds, ho, hserve⟩ := ih hnd'.2 h
    refine ⟨_ ++ plds, by rw [ho, (sendLongChunks_ok h₁).1, commandStream_append,
      List.append_assoc], fun rest long hnone => ?_⟩
    -- what the server holds after this parameter's chunks
    obtain ⟨long₁, hl₁, hspec₁⟩ : ∃ long₁, serveExecute n ((chs.map fun ch =>
        comStmtSendLongData :: (writeLeU32 stmt.statementId ++ writeLeU16 id ++ ch)) ++
          (plds ++ rest)) long = serveExecute n (plds ++ rest) long₁ ∧
        ∀ s j, long₁ s j = if s = stmt.statementId ∧ j = id.toNat then
          longHeld params id.toNat else long s j := by
      rcases hheld with ⟨rfl, hnil⟩ | ⟨hne, hsome⟩
      · refine ⟨long, rfl, fun s j => ?_⟩
        split_ifs with hsj
        · rw [hnil, hsj.1, hsj.2, hnone _ (List.mem_cons_self _ _)]
        · rfl
      · refine ⟨_, serveExecute_longChunks n _ _ hne _ _, fun s j => ?_⟩
        simp only [appendLong, hsome]
        split_ifs with hsj
        · rw [hsj.2, hnone _ (List.mem_cons_self _ _)]; rfl
        · rfl
    obtain ⟨long', hl', hspec⟩ := hserve rest long₁ fun j hj => by
      rw [hspec₁, if_neg (by rintro ⟨-, rfl⟩; exact hnd'.1 hj)]
      exact hnone j (List.mem_cons_of_mem _ hj)
    refine ⟨long', by rw [List.append_assoc, hl₁, hl'], fun s j => ?_⟩
    rw [hspec, hspec₁]
    simp only [List.map_cons, List.mem_cons]
    by_cases hs : s = stmt.statementId <;> by_cases hj : j = id.toNat
    · subst hs hj; simp
    all_goals simp [hs, hj]

/-! ## The whole exchange -/

theorem readParamTypes_flatMap (pairs : List (UInt8 × UInt8)) (rest : List UInt8) :
    readParamTypes pairs.length (pairs.flatMap (fun p => [p.1, p.2]) ++ rest) =
      (.ok pairs, rest) := by
  induction pairs with
  | nil => rfl
  | cons p pairs ih =>
    simp only [List.length_cons, List.flatMap_cons, readParamTypes, List.cons_append,
      List.singleton_append, List.nil_append, Act.bind_apply, readU8, ih]
    rfl

/-- What an `execute` parameter block that returned was made of. -/
theorem executeParams_ok {stmt : Stmt} {params : List Value} {c c' : MyConn} {body : List UInt8}
    (h : executeParams stmt params c = (.ok body, c')) :
    ∃ cols bitmap values largeIds types, stmt.params = some cols ∧
      Value.toBinPayload cols params c.maxAllowedPacket = .ok (bitmap, values, largeIds) ∧
      (match largeIds with
        | some ids => sendLongData stmt params ids
        | none => pure ()) c = (.ok (), c') ∧
      paramTypes cols 0 params c' = (.ok types, c') ∧
      body = bitmap ++ [1] ++ types ++ values := by
  unfold executeParams at h
  rcases hp : stmt.params with _ | cols
  · simp [hp, getRef, panic] at h
  simp only [hp, getRef] at h
  rw [Act.pure_bind_apply, Act.bind_of_ok (Act.get_apply c)] at h
  rcases hb : Value.toBinPayload cols params c.maxAllowedPacket with
    e | ⟨bitmap, values, largeIds⟩
  · cases e <;> simp [hb, tryIoFault, Except.mapError] at h
  rw [hb] at h
  simp only [tryIoFault, Except.mapError, Act.bind_apply, Act.ofExcept_apply] at h
  refine ⟨cols, bitmap, values, largeIds, ?_⟩
  rcases largeIds with _ | ids
  all_goals obtain ⟨_, c₁, h₁, h⟩ := Act.bind_eq_ok h
  all_goals obtain ⟨types, c₂, h₂, h⟩ := Act.bind_eq_ok h
  all_goals cases h
  all_goals obtain ⟨rfl, -⟩ := paramTypes_reads h₂
  all_goals exact ⟨types, rfl, hb, h₁, h₂, rfl⟩

/-- An execute packet with a parameter block reads its header, bitmap and type bytes, and goes on
as its values read. -/
theorem readExecute_payload_values {n : Nat} {long : UInt32 → Nat → Option (List UInt8)}
    {s : UInt32} {bitmap values : List UInt8} {pairs : List (UInt8 × UInt8)}
    (hn : 0 < n) (hb : bitmap.length = (n + 7) / 8) (hp : pairs.length = n) :
    readExecute n long (comStmtExecute :: (writeLeU32 s ++ [0] ++ writeLeU32 1 ++
      (bitmap ++ [1] ++ pairs.flatMap (fun p => [p.1, p.2]) ++ values))) =
      ((do
        let vs ← readParamValues bitmap (long s) 0 pairs
        let done ← eof
        if !done then throw IoError.InvalidInput
        return (s, vs)) : Reader (UInt32 × List Value)) values := by
  subst hp
  simp only [readExecute, ne_eq, hn.ne', if_false, List.append_assoc, List.nil_append,
    List.singleton_append, List.cons_append, Act.bind_apply, readU8, not_true_eq_false, false_or,
    readLeU32_writeLeU32, readExact_append hb, readParamTypes_flatMap, not_false_eq_true]

/-- An execute packet with a parameter block reads as its statement id and the values its block
reads as. -/
theorem readExecute_payload {n : Nat} {long : UInt32 → Nat → Option (List UInt8)} {s : UInt32}
    {bitmap values : List UInt8} {pairs : List (UInt8 × UInt8)} {vs : List Value}
    (hn : 0 < n) (hb : bitmap.length = (n + 7) / 8) (hp : pairs.length = n)
    (hv : readParamValues bitmap (long s) 0 pairs values = (.ok vs, [])) :
    Reader.parse (comStmtExecute :: (writeLeU32 s ++ [0] ++ writeLeU32 1 ++
      (bitmap ++ [1] ++ pairs.flatMap (fun p => [p.1, p.2]) ++ values))) (readExecute n long) =
      .ok (s, vs) := by
  rw [Reader.parse, readExecute_payload_values hn hb hp, Act.bind_of_ok hv]; rfl

/-- An execute packet whose parameter values fail to read fails with their error. -/
theorem readExecute_payload_error {n : Nat} {long : UInt32 → Nat → Option (List UInt8)}
    {s : UInt32} {bitmap values : List UInt8} {pairs : List (UInt8 × UInt8)} {e : IoError}
    {r : List UInt8} (hn : 0 < n) (hb : bitmap.length = (n + 7) / 8) (hp : pairs.length = n)
    (hv : readParamValues bitmap (long s) 0 pairs values = (.error e, r)) :
    Reader.parse (comStmtExecute :: (writeLeU32 s ++ [0] ++ writeLeU32 1 ++
      (bitmap ++ [1] ++ pairs.flatMap (fun p => [p.1, p.2]) ++ values))) (readExecute n long) =
      .error e := by
  rw [Reader.parse, readExecute_payload_values hn hb hp, Act.bind_of_error hv]

/-- The long data a server holds, by statement and parameter, once it has taken the packets of
`send_long_data` over `ids`. -/
def longAfter (stmt : Stmt) (params : List Value) (ids : List UInt16) (s : UInt32) (j : Nat) :
    Option (List UInt8) :=
  if s = stmt.statementId ∧ j ∈ ids.map UInt16.toNat then longHeld params j else none

/-- A parameter that is a non-empty string if it is a large id: the server holds it exactly when
it is one. -/
theorem longAfter_of_large {stmt : Stmt} {params : List Value} {ids : List UInt16} {k : Nat}
    {v : Value} (hk : params[k]? = some v)
    (hstr : k ∈ ids.map UInt16.toNat → ∃ x, x ≠ [] ∧ params[k]? = some (.Bytes x)) :
    if k ∈ ids.map UInt16.toNat then
      ∃ x, v = .Bytes x ∧ longAfter stmt params ids stmt.statementId k = some x
    else longAfter stmt params ids stmt.statementId k = none := by
  by_cases hkm : k ∈ ids.map UInt16.toNat
  · obtain ⟨x, hx, hpx⟩ := hstr hkm
    rw [if_pos hkm, longAfter, if_pos ⟨rfl, hkm⟩]
    exact ⟨x, Option.some.inj (hk.symm.trans hpx), by simp [longHeld, hpx, hx]⟩
  · rw [if_neg hkm, longAfter, if_neg fun h => hkm h.2]

/-- The large ids of `to_bin_payload`, as a list. -/
theorem largeIds_getD (ids : List UInt16) :
    (if ids.length = 0 then none else some ids).getD [] = ids := by
  split_ifs with h0
  exacts [(List.length_eq_zero.mp h0).symm, rfl]

/-- The packets of an `execute` that returned, for a statement of as many parameters as
definitions, one at least, as a server takes them: the long data, which leaves the server holding
`longHeld` for the large ids of `to_bin_payload`'s loop, then `COM_STMT_EXECUTE` with the loop's
bitmap and inline values and type bytes that read each parameter back. -/
theorem executeSend_served {stmt : Stmt} {params : List Value} {c c' : MyConn}
    (h16 : params.length < 2 ^ 16) (hpos : 0 < params.length)
    (hcols : ∀ cols ∈ stmt.params, cols.length = params.length)
    (hsend : executeSend stmt params c = (.ok (), c')) :
    ∃ (cols : List Column) (cap : Nat) (b' out' : List UInt8) (ids' : List UInt16)
      (pairs : List (UInt8 × UInt8)) (plds : List (List UInt8)), stmt.params = some cols ∧
      Value.toBinPayload cols params c.maxAllowedPacket =
        .ok (b', out', if ids'.length = 0 then none else some ids') ∧
      toBinPayloadLoop cap params 0 0 (List.replicate ((params.length + 7) / 8) 0) [] [] =
        .ok (b', out', ids') ∧
      List.Forall₂ (fun p v => TypeReads p.1 p.2 v) pairs params ∧
      c'.outbound = c.outbound ++ commandStream plds ∧
      serveExecute params.length plds (fun _ _ => none) =
        Reader.parse (comStmtExecute :: (writeLeU32 stmt.statementId ++ [0] ++ writeLeU32 1 ++
          (b' ++ [1] ++ pairs.flatMap (fun p => [p.1, p.2]) ++ out')))
          (readExecute params.length (longAfter stmt params ids')) := by
  obtain ⟨hn, body, c₁, hparams, hw⟩ := executeSend_ok hsend
  have hnum : stmt.numParams.toNat = params.length := by
    rw [hn]; exact UInt16.toNat_ofNat_of_lt h16
  rw [if_pos (show stmt.numParams > 0 from show 0 < stmt.numParams.toNat by rw [hnum]; exact hpos)]
    at hparams
  obtain ⟨cols, bitmap, values, largeIds, types, hp, hb, hlong, ht, rfl⟩ :=
    executeParams_ok hparams
  -- the loop behind `to_bin_payload`
  rcases hl : toBinPayloadLoop (uintSub (uintSub c.maxAllowedPacket ((cols.length + 7) / 8))
    (params.length * 8)) params 0 0 (List.replicate ((cols.length + 7) / 8) 0) [] []
    with e | ⟨b', out', ids'⟩
  · rw [toBinPayload_of_loop_error hl] at hb; cases hb
  have hb' := toBinPayload_of_loop hl
  rw [hb'] at hb
  simp only [Except.ok.injEq, Prod.mk.injEq] at hb
  obtain ⟨rfl, rfl, rfl⟩ := hb
  obtain ⟨new, (hnew : ids' = [] ++ new), -, hnd⟩ :=
    toBinPayloadLoop_ids (by simpa using h16) hl
  rw [List.nil_append] at hnew
  subst hnew
  -- the long data, then the packet
  have hsl : sendLongData stmt params ids' c = (.ok (), c₁) := by
    rcases ids' with _ | ⟨id, ids⟩ <;> exact hlong
  obtain ⟨plds, ho₁, hserve⟩ := sendLongData_serves params.length hnd hsl
  obtain ⟨_, pairs, rfl, hpairs⟩ := paramTypes_reads ht
  obtain ⟨long', hlong', hspec⟩ := hserve [comStmtExecute :: (writeLeU32 stmt.statementId ++
    [0] ++ writeLeU32 1 ++ (b' ++ [1] ++ pairs.flatMap (fun p => [p.1, p.2]) ++ out'))]
    (fun _ _ => none) (fun _ _ => rfl)
  refine ⟨cols, _, b', out', ids', pairs, plds ++ [_], hp, hb', by rwa [hcols cols hp] at hl,
    hpairs, by rw [(writeCommandData_ok hw).1, ho₁, commandStream_append, List.append_assoc], ?_⟩
  rw [hlong', serveExecute, List.head?_cons, if_neg (by decide),
    show long' = longAfter stmt params ids' from funext fun s => funext fun j => hspec s j]

/-- The sending half of `execute`, as a server sees it. Whatever the budget, when the parameters
are as many as the statement's definitions and every one that `to_bin_payload` leaves out of the
packet is a nonempty string, a server that takes the packets `execute` writes (the long data, then
`COM_STMT_EXECUTE`) reads back the statement id and the parameters, a zero duration's sign
apart. -/
theorem execute_round_trip {stmt : Stmt} {params : List Value} {c c' : MyConn}
    (h16 : params.length < 2 ^ 16)
    (hcols : ∀ cols ∈ stmt.params, cols.length = params.length)
    (hlarge : ∀ cols ∈ stmt.params, ∀ r,
      Value.toBinPayload cols params c.maxAllowedPacket = .ok r →
        ∀ id ∈ r.2.2.getD [], ∃ x, x ≠ [] ∧ params[id.toNat]? = some (.Bytes x))
    (hsend : executeSend stmt params c = (.ok (), c')) :
    ∃ plds, c'.outbound = c.outbound ++ commandStream plds ∧
      serveExecute params.length plds (fun _ _ => none) =
        .ok (stmt.statementId, params.map Value.zeroTimeUnsigned) := by
  rcases Nat.eq_zero_or_pos params.length with hnil | hn0
  · -- no parameters: the packet is the header alone
    obtain ⟨hn, body, c₁, hparams, hw⟩ := executeSend_ok hsend
    have hnil := List.length_eq_zero.mp hnil
    subst hnil
    rw [if_neg (by rw [hn]; decide)] at hparams
    cases hparams
    refine ⟨_, (writeCommandData_ok hw).1, ?_⟩
    have h1 := readLeU32_writeLeU32 1 []
    rw [List.append_nil] at h1
    rw [serveExecute, List.head?_cons, if_neg (by decide)]
    simp only [Reader.parse, readExecute, List.append_assoc, List.singleton_append,
      List.append_nil, Act.bind_apply, readU8_cons, readLeU32_writeLeU32, h1, eof_apply]
    rfl
  obtain ⟨cols, cap, b', out', ids', pairs, plds, hp, hb', hl, hpairs, hout, hserve⟩ :=
    executeSend_served h16 hn0 hcols hsend
  obtain ⟨hblen, hbits⟩ := paramNull_toBinPayload h16 hb'
  have hids := hlarge cols hp _ hb'
  rw [largeIds_getD] at hids
  -- every large id is a non-empty string, which the server holds
  have hheld : ∀ k v, k < params.length → params[k]? = some v → v ≠ .NULL →
      if (0 : UInt16).toNat + k ∈ ids'.map UInt16.toNat then ∃ x, v = .Bytes x ∧
        longAfter stmt params ids' stmt.statementId ((0 : UInt16).toNat + k) = some x
      else longAfter stmt params ids' stmt.statementId ((0 : UInt16).toNat + k) = none :=
    fun k v _ hk _ => by
      rw [UInt16.toNat_zero, Nat.zero_add]
      refine longAfter_of_large hk fun hkm => ?_
      obtain ⟨id, hid, rfl⟩ := List.mem_map.mp hkm
      exact hids id hid
  obtain ⟨more, hread, j, w₁, b₁, ids₁, -, -, hloop⟩ := toBinPayloadLoop_reads le_rfl
    (by simpa using h16) (by simp) hl hpairs
    (fun k => by rw [UInt16.toNat_zero, Nat.zero_add]; exact hbits k) hheld
  rw [List.drop_length] at hloop
  simp only [toBinPayloadLoop, List.nil_append, Except.ok.injEq, Prod.mk.injEq] at hloop
  obtain ⟨-, rfl, -⟩ := hloop
  refine ⟨plds, hout, ?_⟩
  rw [hserve]
  refine readExecute_payload hn0 (by rw [hblen, hcols cols hp]) hpairs.length_eq ?_
  have hr := hread []
  rw [List.append_nil, UInt16.toNat_zero] at hr
  rw [hr, show pairs.drop params.length = [] by rw [← hpairs.length_eq, List.drop_length],
    List.take_length]
  simp [readParamValues]

/-- A 20-byte string and a `NULL` under `max_allowed_packet = 20`: the string goes out as long
data, in chunks of 13 and 7 bytes, and the server reads both parameters back. -/
theorem execute_round_trip_long_string :
    let col : Column := ⟨[], [], [], [], [], [], [], 0, 33, 0, mysqlTypeVarString, 0⟩
    let stmt : Stmt := ⟨some [col, col], none, 1, 0, 2, 0⟩
    let c := { MyConn.init MyOpts.default [] with maxAllowedPacket := 20 }
    let params := [Value.Bytes (List.replicate 20 0x61), .NULL]
    ∃ c', params.length < 2 ^ 16 ∧ (∀ cols ∈ stmt.params, cols.length = params.length) ∧
      (∀ cols ∈ stmt.params, ∀ r,
        Value.toBinPayload cols params c.maxAllowedPacket = .ok r →
          ∀ id ∈ r.2.2.getD [], ∃ x, x ≠ [] ∧ params[id.toNat]? = some (.Bytes x)) ∧
      executeSend stmt params c = (.ok (), c') ∧
      ∃ plds, c'.outbound = c.outbound ++ commandStream plds ∧
        serveExecute params.length plds (fun _ _ => none) =
          .ok (stmt.statementId, params.map Value.zeroTimeUnsigned) := by
  intro col stmt c params
  have h16 : params.length < 2 ^ 16 := by decide
  have hcols : ∀ cols ∈ stmt.params, cols.length = params.length := by
    rintro cols ⟨⟩; rfl
  have hbin : Value.toBinPayload [col, col] params c.maxAllowedPacket =
      .ok ([2], [], some [0]) := by decide
  have hlarge : ∀ cols ∈ stmt.params, ∀ r,
      Value.toBinPayload cols params c.maxAllowedPacket = .ok r →
        ∀ id ∈ r.2.2.getD [], ∃ x, x ≠ [] ∧ params[id.toNat]? = some (.Bytes x) := by
    rintro cols ⟨⟩ r hr id hid
    rw [hbin] at hr
    cases hr
    rw [List.mem_singleton.mp hid]
    exact ⟨_, by decide, rfl⟩
  obtain ⟨c₁, hchunks, hm⟩ := @sendLongChunks_fits stmt 0
    (chunks (uintSub c.maxAllowedPacket 7) (List.replicate 20 0x61)) c fun ch hch => by
      have h := chunks_length_le _ _ ch hch
      rw [show uintSub c.maxAllowedPacket 7 = 13 by decide] at h
      show ch.length + 7 ≤ 20
      omega
  have hlong : sendLongData stmt params [0] c = (.ok (), c₁) := by
    rw [sendLongData_bytes rfl (by decide), Act.bind_of_ok hchunks]; rfl
  have ht : paramTypes [col, col] 0 params c₁ =
      (.ok ([mysqlTypeVarString, 0] ++ ([col.columnType, 0] ++ [])), c₁) := rfl
  have hsend := (executeSend_spec rfl (by decide) (executeParams_spec rfl hbin hlong ht)).trans
    (writeCommandData_spec (by rw [hm]; decide))
  exact ⟨_, h16, hcols, hlarge, hsend, execute_round_trip h16 hcols hlarge hsend⟩

/-- An empty string that `to_bin_payload` sends to `large_ids` is lost, whatever the other
parameters and the budget: its `chunks` are none, so no long-data packet names it, and the
packet leaves it out. Where every parameter sent to `large_ids` before it is a non-empty string
(one of another kind is lost too), a server that takes the packets reads the parameters before it
back, and then finds the packet at its end where the empty string's value should be. -/
theorem execute_loses_empty_string {stmt : Stmt} {params : List Value} {c c' : MyConn}
    {j : Nat} (h16 : params.length < 2 ^ 16)
    (hcols : ∀ cols ∈ stmt.params, cols.length = params.length)
    (hj : params[j]? = some (.Bytes []))
    (hlarge : ∀ cols ∈ stmt.params, ∀ r,
      Value.toBinPayload cols params c.maxAllowedPacket = .ok r →
        j ∈ (r.2.2.getD []).map UInt16.toNat ∧ ∀ id ∈ r.2.2.getD [], id.toNat < j →
          ∃ x, x ≠ [] ∧ params[id.toNat]? = some (.Bytes x))
    (hsend : executeSend stmt params c = (.ok (), c')) :
    ∃ plds, c'.outbound = c.outbound ++ commandStream plds ∧
      serveExecute params.length plds (fun _ _ => none) = .error .EndOfFile := by
  obtain ⟨hjl, hjv⟩ := List.getElem?_eq_some_iff.mp hj
  obtain ⟨cols, cap, b', out', ids', pairs, plds, hp, hb', hl, hpairs, hout, hserve⟩ :=
    executeSend_served h16 (by omega) hcols hsend
  obtain ⟨hblen, hbits⟩ := paramNull_toBinPayload h16 hb'
  obtain ⟨hjm, hbefore⟩ := hlarge cols hp _ hb'
  rw [largeIds_getD] at hjm hbefore
  -- the large ids before the empty string are non-empty strings, which the server holds
  have hheld : ∀ k v, k < j → params[k]? = some v → v ≠ .NULL →
      if (0 : UInt16).toNat + k ∈ ids'.map UInt16.toNat then ∃ x, v = .Bytes x ∧
        longAfter stmt params ids' stmt.statementId ((0 : UInt16).toNat + k) = some x
      else longAfter stmt params ids' stmt.statementId ((0 : UInt16).toNat + k) = none :=
    fun k v hkj hk _ => by
      rw [UInt16.toNat_zero, Nat.zero_add]
      refine longAfter_of_large hk fun hkm => ?_
      obtain ⟨id, hid, rfl⟩ := List.mem_map.mp hkm
      exact hbefore id hid hkj
  obtain ⟨more, hread, i₁, w₁, b₁, ids₁, hi₁, hids₁, hloop⟩ := toBinPayloadLoop_reads hjl.le
    (by simpa using h16) (by simp) hl hpairs
    (fun k => by rw [UInt16.toNat_zero, Nat.zero_add]; exact hbits k) hheld
  -- from the empty string on, the loop inlines nothing
  rw [List.drop_eq_getElem_cons hjl, hjv, toBinPayloadLoop_of_ne_null (by simp)] at hloop
  have hi : i₁.toNat = j := by simpa using hi₁
  have hlen : (Value.Bytes []).toBin.length = 1 := rfl
  split_ifs at hloop with hfit
  · -- inlined, it would not be a large id
    have hsucc : (i₁ + 1).toNat = j + 1 := by rw [UInt16.toNat_succ (by omega), hi]
    obtain ⟨new, (hnew : ids' = ids₁ ++ new), hge, -⟩ :=
      toBinPayloadLoop_ids (by rw [hsucc, List.length_drop]; omega) hloop
    obtain ⟨id, hid, hidj⟩ := List.mem_map.mp hjm
    rcases List.mem_append.mp (hnew ▸ hid) with hid | hid
    · have := hids₁ id hid; omega
    · have := hge id hid; omega
  rw [toBinPayloadLoop_out_of_room (by omega) hloop, List.nil_append] at hserve
  -- at the empty string the server holds nothing and the packet has ended
  obtain ⟨hpl, hpt⟩ := List.forall₂_iff_get.mp hpairs
  have hpj : j < pairs.length := hpl ▸ hjl
  have hnot : paramNull b' j = false := by
    rw [← Bool.not_eq_true, hbits, hj]; simp
  have hlj : longAfter stmt params ids' stmt.statementId j = none := by
    simp [longAfter, longHeld, hj]
  have hty := hpt j hpj hjl
  simp only [List.get_eq_getElem, hjv] at hty
  have hr := hread []
  rw [List.append_nil, UInt16.toNat_zero, Nat.zero_add, List.drop_eq_getElem_cons hpj] at hr
  refine ⟨plds, hout, hserve.trans (readExecute_payload_error (by omega)
    (by rw [hblen, hcols cols hp]) hpl (r := []) ?_)⟩
  rw [hr, Act.map_apply, readParamValues, Act.bind_apply, readParam, hnot]
  simp [hlj, (hty (by simp)).2]

/-- `a`, then the empty string, under `max_allowed_packet = 20`: the budget of 3 bytes takes
`a` (2 bytes encoded) and leaves no room for the empty string, which goes to `large_ids`. -/
theorem execute_loses_empty_string_after_a :
    let col : Column := ⟨[], [], [], [], [], [], [], 0, 33, 0, mysqlTypeVarString, 0⟩
    let stmt : Stmt := ⟨some [col, col], none, 1, 0, 2, 0⟩
    let c := { MyConn.init MyOpts.default [] with maxAllowedPacket := 20 }
    let params := [Value.Bytes [0x61], .Bytes []]
    ∃ c', params.length < 2 ^ 16 ∧ (∀ cols ∈ stmt.params, cols.length = params.length) ∧
      params[1]? = some (.Bytes []) ∧
      (∀ cols ∈ stmt.params, ∀ r, Value.toBinPayload cols params c.maxAllowedPacket = .ok r →
        1 ∈ (r.2.2.getD []).map UInt16.toNat ∧ ∀ id ∈ r.2.2.getD [], id.toNat < 1 →
          ∃ x, x ≠ [] ∧ params[id.toNat]? = some (.Bytes x)) ∧
      executeSend stmt params c = (.ok (), c') ∧
      ∃ plds, c'.outbound = c.outbound ++ commandStream plds ∧
        serveExecute params.length plds (fun _ _ => none) = .error .EndOfFile := by
  intro col stmt c params
  have h16 : params.length < 2 ^ 16 := by decide
  have hcols : ∀ cols ∈ stmt.params, cols.length = params.length := by
    rintro cols ⟨⟩; rfl
  have hbin : Value.toBinPayload [col, col] params c.maxAllowedPacket =
      .ok ([0], [1, 0x61], some [1]) := by decide
  have hlarge : ∀ cols ∈ stmt.params, ∀ r,
      Value.toBinPayload cols params c.maxAllowedPacket = .ok r →
        1 ∈ (r.2.2.getD []).map UInt16.toNat ∧ ∀ id ∈ r.2.2.getD [], id.toNat < 1 →
          ∃ x, x ≠ [] ∧ params[id.toNat]? = some (.Bytes x) := by
    rintro cols ⟨⟩ r hr
    rw [hbin] at hr
    cases hr
    refine ⟨by decide, fun id hid hlt => ?_⟩
    rw [List.mem_singleton.mp hid] at hlt
    exact absurd hlt (by decide)
  have hlong : sendLongData stmt params [1] c = (.ok (), c) := by
    rw [sendLongData_bytes rfl (by decide), chunks_nil]; rfl
  have ht : paramTypes [col, col] 0 params c =
      (.ok ([mysqlTypeVarString, 0] ++ ([col.columnType, 0] ++ [])), c) := rfl
  have hsend := (executeSend_spec rfl (by decide) (executeParams_spec rfl hbin hlong ht)).trans
    (writeCommandData_spec (by decide))
  exact ⟨_, h16, hcols, rfl, hlarge, hsend,
    execute_loses_empty_string h16 hcols rfl hlarge hsend⟩

end MysqlSimple
