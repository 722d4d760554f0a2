import MysqlSimple.Packets

/-!
# Values and their encodings (`conn.rs:325-664`)

`Value` is the currency between the protocol and the application. This module holds its four
encodings: the SQL text form `into_str`, the binary parameter form `to_bin`, and the two row
decoders `from_payload` (text protocol) and `from_bin_payload` (binary protocol), together with
`to_bin_payload`, which lays out the parameters of `COM_STMT_EXECUTE` and picks those that go out
of band as long data.

Fixed-width fields keep their Rust widths. An `i64` is a `BitVec 64` read as a two's-complement
integer and an `f64` is its IEEE bit pattern, which is all the code ever does with it: copy it
(`write_le_f64`) or print it (`{:f}`, taken as a parameter, `formatF64`). `read_bin_value` comes
from `io.rs`, which is not among the sources; `from_bin_payload` is stated for any reader of
binary values.
-/

namespace MysqlSimple

/-- `Value`: `NULL`, `Bytes`, `Int(i64)`, `UInt(u64)`, `Float(f64)`, `Date` (year, month, day,
hour, minutes, seconds, micro seconds), `Time` (is negative, days, hours, minutes, seconds, micro
seconds). -/
inductive Value
  | NULL
  | Bytes (x : List UInt8)
  | Int (x : BitVec 64)
  | UInt (x : UInt64)
  | Float (x : UInt64)
  | Date (year : UInt16) (month day hour minute second : UInt8) (microSecond : UInt32)
  | Time (neg : Bool) (days : UInt32) (hour minute second : UInt8) (microSecond : UInt32)
  deriving DecidableEq, Repr

/-- `Value::is_date`. -/
def Value.isDate : Value → Bool
  | .Date .. => true
  | _ => false

/-- `Value::is_time`. -/
def Value.isTime : Value → Bool
  | .Time .. => true
  | _ => false

/-! ## `into_str` -/

/-- The bytes of an ASCII string, as `format!` writes it. -/
def ascii (s : String) : List UInt8 := s.toList.map fun c => c.toNat.toUInt8

/-- The single quote, `0x27`. -/
def quote : UInt8 := 0x27

/-- `{:0wu}`: the decimal digits of `n`, padded with zeros to width `w`. -/
def padDec (w n : Nat) : List UInt8 :=
  ascii (String.mk (List.replicate (w - (Nat.toDigits 10 n).length) '0' ++ Nat.toDigits 10 n))

/-- One uppercase hexadecimal digit. -/
def hexDigit (n : Nat) : UInt8 :=
  if n < 10 then UInt8.ofNat (0x30 + n) else UInt8.ofNat (0x41 + n - 10)

/-- `format!("{:02X}", c)`. -/
def hexByte (c : UInt8) : List UInt8 := [hexDigit (c.toNat / 16), hexDigit (c.toNat % 16)]

/-- A UTF-8 continuation byte, `10xxxxxx`. -/
def utf8Cont (c : UInt8) : Bool := 0x80 ≤ c && c ≤ 0xbf

/-- Whether `str::from_utf8` accepts the bytes: the validation of Rust's `std`, with the
restricted second bytes after `E0`, `ED`, `F0` and `F4` that rule out overlong forms, surrogates
and code points above `U+10FFFF`. -/
def utf8Valid : List UInt8 → Bool
  | [] => true
  | b :: r =>
    if b < 0x80 then utf8Valid r
    else if 0xc2 ≤ b && b ≤ 0xdf then
      match r with
      | c1 :: r => utf8Cont c1 && utf8Valid r
      | [] => false
    else if 0xe0 ≤ b && b ≤ 0xef then
      match r with
      | c1 :: c2 :: r =>
        (if b = 0xe0 then 0xa0 ≤ c1 && c1 ≤ 0xbf
          else if b = 0xed then 0x80 ≤ c1 && c1 ≤ 0x9f else utf8Cont c1) &&
          utf8Cont c2 && utf8Valid r
      | _ => false
    else if 0xf0 ≤ b && b ≤ 0xf4 then
      match r with
      | c1 :: c2 :: c3 :: r =>
        (if b = 0xf0 then 0x90 ≤ c1 && c1 ≤ 0xbf
          else if b = 0xf4 then 0x80 ≤ c1 && c1 ≤ 0x8f else utf8Cont c1) &&
          utf8Cont c2 && utf8Cont c3 && utf8Valid r
      | _ => false
    else false

/-- `'YYYY-MM-DD`, the date part of a `Date` literal after its opening quote. -/
def ymd (y : UInt16) (m d : UInt8) : List UInt8 :=
  padDec 4 y.toNat ++ ascii "-" ++ padDec 2 m.toNat ++ ascii "-" ++ padDec 2 d.toNat

/-- `HH:MM:SS` with the hour padded to width `hw`. -/
def hms (hw : Nat) (h i s : UInt8) : List UInt8 :=
  padDec hw h.toNat ++ ascii ":" ++ padDec 2 i.toNat ++ ascii ":" ++ padDec 2 s.toNat

/-- `Value::into_str` (`conn.rs:340-381`): the SQL text of a value. A `Bytes` value that is valid
UTF-8 goes between single quotes after `s.replace("'", "\'")`; in Rust `"\'"` is the same
one-character string as `"'"`. Anything else is written as a `0x` hex literal. -/
def Value.intoStr (formatF64 : UInt64 → List UInt8) : Value → List UInt8
  | .NULL => ascii "NULL"
  | .Bytes x =>
    if utf8Valid x then
      let replaced := x.flatMap fun b => if b = quote then [quote] else [b]
      quote :: replaced ++ [quote]
    else ascii "0x" ++ x.flatMap hexByte
  | .Int x => ascii (toString x.toInt)
  | .UInt x => ascii (toString x.toNat)
  | .Float x => formatF64 x
  | .Date y m d h i s u =>
    if y = 0 ∧ m = 0 ∧ d = 0 ∧ h = 0 ∧ i = 0 ∧ s = 0 ∧ u = 0 then [quote, quote]
    else if h = 0 ∧ i = 0 ∧ s = 0 ∧ u = 0 then quote :: ymd y m d ++ [quote]
    else if u = 0 then quote :: ymd y m d ++ ascii " " ++ hms 2 h i s ++ [quote]
    else quote :: ymd y m d ++ ascii " " ++ hms 2 h i s ++ ascii "." ++ padDec 6 u.toNat ++ [quote]
  | .Time neg d h i s u =>
    let sign := if neg then ascii "-" else []
    if d = 0 ∧ h = 0 ∧ i = 0 ∧ s = 0 ∧ u = 0 then [quote, quote]
    else if u = 0 then quote :: sign ++ padDec 0 d.toNat ++ ascii " " ++ hms 3 h i s ++ [quote]
    else quote :: sign ++ padDec 0 d.toNat ++ ascii " " ++ hms 3 h i s ++ ascii "." ++
      padDec 6 u.toNat ++ [quote]

/-! ## `to_bin` -/

/-- `Value::to_bin` (`conn.rs:531-595`): the binary form of a parameter. The `MemWriter` it writes
to cannot fail, so the `IoResult` is always `Ok`. A `Date` or `Time` takes the shortest form whose
dropped fields are zero, in the order of the match arms. -/
def Value.toBin : Value → List UInt8
  | .NULL => []
  | .Bytes x => writeLenencBytes x
  | .Int x => leBytes 8 x.toNat
  | .UInt x => writeLeU64 x
  | .Float x => writeLeU64 x
  | .Date y m d h i s u =>
    if y = 0 ∧ m = 0 ∧ d = 0 ∧ h = 0 ∧ i = 0 ∧ s = 0 ∧ u = 0 then [0]
    else if h = 0 ∧ i = 0 ∧ s = 0 ∧ u = 0 then 4 :: writeLeU16 y ++ [m, d]
    else if u = 0 then 7 :: writeLeU16 y ++ [m, d, h, i, s]
    else 11 :: writeLeU16 y ++ [m, d, h, i, s] ++ writeLeU32 u
  | .Time neg d h m s u =>
    if d = 0 ∧ h = 0 ∧ m = 0 ∧ s = 0 ∧ u = 0 then [0]
    else if u = 0 then 8 :: (if neg then 1 else 0) :: writeLeU32 d ++ [h, m, s]
    else 12 :: (if neg then 1 else 0) :: writeLeU32 d ++ [h, m, s] ++ writeLeU32 u

/-! ## `from_payload`: text rows -/

/-- `Value::from_payload` (`conn.rs:597-611`): cells up to the end of the payload, `0xFB` a `NULL`
and anything else a length-encoded string. The byte it tests, `pld[reader.tell()]`, is the first
unread byte. The column count only sizes the output vector. -/
def Value.fromPayload : List UInt8 → Except IoError (List Value)
  | [] => .ok []
  | b :: r =>
    if b = 0xfb then (.NULL :: ·) <$> Value.fromPayload r
    else
      match _h : readLenencBytes (b :: r) with
      | (.ok x, r') => (.Bytes x :: ·) <$> Value.fromPayload r'
      | (.error e, _) => .error e
termination_by s => s.length
decreasing_by
  · simp
  · have := readLenencBytes_cons_length_le b r
    rw [_h] at this
    simp only [List.length_cons] at this ⊢
    omega

/-! ## `from_bin_payload`: binary rows -/

/-- `bit_offset`: a binary row's NULL bitmap starts at bit 2. -/
def bitOffset : Nat := 2

/-- `*bitmap.get(b) & (1 << p) == 0`: bit `p` of byte `b` is clear. -/
def bitClear (bitmap : List UInt8) (b p : Nat) : Bool :=
  bitmap.getD b 0 &&& ((1 : UInt8) <<< UInt8.ofNat p) == 0

section BinaryRows

variable (readBinValue : UInt8 → Bool → Reader Value)

/-- The second loop of `from_bin_payload`: for column `i`, `NULL` if its bitmap bit is set and
otherwise `read_bin_value` with the column's type and `UNSIGNED` flag. -/
def readBinRow (bitmap : List UInt8) : Nat → List Column → Reader (List Value)
  | _, [] => pure []
  | i, col :: cols => do
    let v ← if bitClear bitmap ((i + bitOffset) / 8) ((i + bitOffset) % 8) then
        readBinValue col.columnType (col.flags &&& unsignedFlag != 0)
      else pure .NULL
    let vs ← readBinRow bitmap (i + 1) cols
    pure (v :: vs)

/-- `Value::from_bin_payload` (`conn.rs:613-633`). Its first loop copies `pld[i + 1]` for every
`i` below `bitmap_len`; at the first index past the payload it panics, so it either panics or
copies bytes `1 .. bitmap_len`. The values are then read from `pld.slice_from(1 + bitmap_len)`. -/
def Value.fromBinPayload (pld : List UInt8) (columns : List Column) :
    Except (Fault IoError) (List Value) :=
  let bitmapLen := (columns.length + 7 + bitOffset) / 8
  if pld.length < bitmapLen + 1 then .error (.panic "index out of bounds")
  else
    match readBinRow readBinValue ((pld.drop 1).take bitmapLen) 0 columns
        (pld.drop (1 + bitmapLen)) with
    | (.ok values, _) => .ok values
    | (.error e, _) => .error (.err e)

end BinaryRows

/-! ## `to_bin_payload`: execute parameters -/

/-- The `for value in values.iter()` loop of `to_bin_payload`, over its accumulators: the index
`i: u16`, the bytes `written` so far, the NULL bitmap, the inline values and `large_ids`. A
non-NULL value is inlined while `val.len() < cap - written` and goes to `large_ids` otherwise. -/
def toBinPayloadLoop (cap : Nat) :
    List Value → UInt16 → Nat → List UInt8 → List UInt8 → List UInt16 →
      Except (Fault IoError) (List UInt8 × List UInt8 × List UInt16)
  | [], _, _, bitmap, out, largeIds => .ok (bitmap, out, largeIds)
  | .NULL :: vs, i, written, bitmap, out, largeIds =>
    if i.toNat / 8 < bitmap.length then
      toBinPayloadLoop cap vs (i + 1) written
        (bitmap.set (i.toNat / 8) (bitmap.getD (i.toNat / 8) 0 ||| (1 <<< (i % 8).toUInt8)))
        out largeIds
    else .error (.panic "index out of bounds")
  | v :: vs, i, written, bitmap, out, largeIds =>
    let val := v.toBin
    if val.length < uintSub cap written then
      toBinPayloadLoop cap vs (i + 1) (written + val.length) bitmap (out ++ val) largeIds
    else toBinPayloadLoop cap vs (i + 1) written bitmap out (largeIds ++ [i])

/-- `Value::to_bin_payload(params, values, max_allowed_packet)` (`conn.rs:635-663`): the NULL
bitmap, the inline values, and the ids of the parameters to send through `send_long_data`. The
budget is `cap = max_allowed_packet - bitmap_len - values.len() * 8`, in wrapping `uint`
arithmetic. -/
def Value.toBinPayload (params : List Column) (values : List Value) (maxAllowedPacket : Nat) :
    Except (Fault IoError) (List UInt8 × List UInt8 × Option (List UInt16)) := do
  let bitmapLen := (params.length + 7) / 8
  let cap := uintSub (uintSub maxAllowedPacket bitmapLen) (values.length * 8)
  let (bitmap, out, largeIds) ←
    toBinPayloadLoop cap values 0 0 (List.replicate bitmapLen 0) [] []
  if largeIds.length = 0 then pure (bitmap, out, none) else pure (bitmap, out, some largeIds)

end MysqlSimple
