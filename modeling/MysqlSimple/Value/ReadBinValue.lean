import MysqlSimple.Value

/-!
# `read_bin_value`, modelled from the spec

`from_bin_payload` reads every non-NULL column of a binary row with `MyReader::read_bin_value`,
which lives in `io.rs`, not among the sources. §4.2 of the spec describes it: it switches on the
column type and the `UNSIGNED` flag; integers take 1, 2, 4 or 8 bytes by type, floats 4 and
doubles 8, string-ish types are length-encoded bytes, and dates and times carry a length byte of
0/4/7/11 and 0/8/12. The unit test `test_prepared_statemenst` fixes what the spec leaves open for
narrow integers: an `INT UNSIGNED` column reads back as `Int(123)`, so only `LONGLONG` uses
`UInt`. Two integer types the spec's width list leaves out are read at the width the binary
protocol sends them with: `YEAR` as two bytes, like `SHORT`, and `INT24` as four, like `LONG`.
Every other type code (`NULL`, `NEWDATE`, unassigned codes) is rejected with `InvalidInput`.
-/

namespace MysqlSimple

/-- `f32 as f64` on IEEE bit patterns: the exact widening; a NaN keeps its payload and is
quieted. -/
def widenF32 (x : UInt32) : UInt64 :=
  let sign := UInt64.ofNat ((x.toNat / 2 ^ 31) * 2 ^ 63)
  let e := x.toNat / 2 ^ 23 % 256
  let f := x.toNat % 2 ^ 23
  if e = 255 then
    sign ||| UInt64.ofNat (0x7ff * 2 ^ 52 + f * 2 ^ 29 + if f = 0 then 0 else 2 ^ 51)
  else if e = 0 then
    if f = 0 then sign
    else sign ||| UInt64.ofNat ((Nat.log2 f + 874) * 2 ^ 52 +
      (f - 2 ^ Nat.log2 f) * 2 ^ (52 - Nat.log2 f))
  else sign ||| UInt64.ofNat ((e + 896) * 2 ^ 52 + f * 2 ^ 29)

/-- An integer of `n` bytes as an `i64`: sign-extended, or zero-extended when `UNSIGNED`. -/
def readIntN (n : Nat) (unsigned : Bool) : Reader Value := do
  let v ← readLeUintN n
  pure (.Int (if unsigned then BitVec.ofNat 64 v else (BitVec.ofNat (8 * n) v).signExtend 64))

/-- The body of a `DATE`/`DATETIME`/`TIMESTAMP` value after its length byte. -/
def readBinDate (len : UInt8) : Reader Value := do
  if len = 0 then pure (.Date 0 0 0 0 0 0 0)
  else if len = 4 ∨ len = 7 ∨ len = 11 then
    let y ← readLeU16
    let m ← readU8
    let d ← readU8
    if len = 4 then pure (.Date y m d 0 0 0 0) else
    let h ← readU8
    let i ← readU8
    let s ← readU8
    if len = 7 then pure (.Date y m d h i s 0) else
    pure (.Date y m d h i s (← readLeU32))
  else throw .InvalidInput

/-- The body of a `TIME` value after its length byte. -/
def readBinTime (len : UInt8) : Reader Value := do
  if len = 0 then pure (.Time false 0 0 0 0 0)
  else if len = 8 ∨ len = 12 then
    let neg ← readU8
    let d ← readLeU32
    let h ← readU8
    let m ← readU8
    let s ← readU8
    if len = 8 then pure (.Time (neg = 1) d h m s 0) else
    pure (.Time (neg = 1) d h m s (← readLeU32))
  else throw .InvalidInput

/-- Modelled from the spec: `MyReader::read_bin_value(column_type, unsigned)`. -/
def readBinValue (t : UInt8) (unsigned : Bool) : Reader Value :=
  if t ∈ stringTypes then .Bytes <$> readLenencBytes
  else if t = mysqlTypeTiny then readIntN 1 unsigned
  else if t = mysqlTypeShort ∨ t = mysqlTypeYear then readIntN 2 unsigned
  else if t = mysqlTypeLong ∨ t = mysqlTypeInt24 then readIntN 4 unsigned
  else if t = mysqlTypeLonglong then
    if unsigned then (fun v => .UInt v.toUInt64) <$> readLeUintN 8 else readIntN 8 false
  else if t = mysqlTypeFloat then (fun v => .Float (widenF32 v)) <$> readLeU32
  else if t = mysqlTypeDouble then (fun v => .Float v.toUInt64) <$> readLeUintN 8
  else if t = mysqlTypeTimestamp ∨ t = mysqlTypeDate ∨ t = mysqlTypeDatetime then
    readU8 >>= readBinDate
  else if t = mysqlTypeTime then readU8 >>= readBinTime
  else throw .InvalidInput

end MysqlSimple
