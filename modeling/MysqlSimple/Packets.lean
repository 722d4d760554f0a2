import MysqlSimple.Io.Bytes
import MysqlSimple.Consts

/-!
# Packet parsers (`conn.rs:28-309`)

`OkPacket`, `ErrPacket`, `EOFPacket`, `HandshakePacket`, `Stmt` and `Column`, each with its
`from_payload`. Every parser runs a `BufReader` over the payload and returns `IoResult`; the only
exception is the handshake parser, which indexes `auth_plugin_name` with `get(len - 1)` and so
panics on an empty plugin name instead of returning.

Beside each parser stands the encoding a server uses for that packet (`toPayload`). These
encoders are not in the source; they state what a well-formed packet is, and the round-trip
lemmas `fromPayload_toPayload` say that each parser decodes exactly what was encoded.
-/

namespace MysqlSimple

/-- Run a reader over a whole payload. -/
def Reader.parse {α : Type} (pld : List UInt8) (r : Reader α) : Except IoError α := (r pld).1

@[simp] theorem Reader.parse_def {α : Type} (pld : List UInt8) (r : Reader α) :
    Reader.parse pld r = (r pld).1 := rfl

/-! ## OK, ERR and EOF -/

/-- `OkPacket`. -/
structure OkPacket where
  affectedRows : UInt64
  lastInsertId : UInt64
  statusFlags : UInt16
  warnings : UInt16
  info : List UInt8
  deriving DecidableEq, Repr

/-- `OkPacket::from_payload`. -/
def OkPacket.fromPayload (pld : List UInt8) : Except IoError OkPacket := Reader.parse pld do
  seek 1
  let affectedRows ← readLenencInt
  let lastInsertId ← readLenencInt
  let statusFlags ← readLeU16
  let warnings ← readLeU16
  let info ← readToEnd
  pure ⟨affectedRows.toUInt64, lastInsertId.toUInt64, statusFlags, warnings, info⟩

/-- `ErrPacket`. -/
structure ErrPacket where
  sqlState : List UInt8
  errorMessage : List UInt8
  errorCode : UInt16
  deriving DecidableEq, Repr

/-- `ErrPacket::from_payload`: the marker byte, the code, the `#` byte, five bytes of SQL state,
and the message up to the end. -/
def ErrPacket.fromPayload (pld : List UInt8) : Except IoError ErrPacket := Reader.parse pld do
  seek 1
  let errorCode ← readLeU16
  seek 1
  let sqlState ← readExact 5
  let errorMessage ← readToEnd
  pure ⟨sqlState, errorMessage, errorCode⟩

/-- `EOFPacket`. -/
structure EOFPacket where
  warnings : UInt16
  statusFlags : UInt16
  deriving DecidableEq, Repr

/-- `EOFPacket::from_payload`. -/
def EOFPacket.fromPayload (pld : List UInt8) : Except IoError EOFPacket := Reader.parse pld do
  seek 1
  let warnings ← readLeU16
  let statusFlags ← readLeU16
  pure ⟨warnings, statusFlags⟩

/-- The OK packet a server sends. -/
def OkPacket.toPayload (p : OkPacket) : List UInt8 :=
  0x00 :: writeLenencInt p.affectedRows.toNat ++ writeLenencInt p.lastInsertId.toNat ++
    writeLeU16 p.statusFlags ++ writeLeU16 p.warnings ++ p.info

/-- The ERR packet a server sends: the SQL state is always five bytes. -/
def ErrPacket.toPayload (e : ErrPacket) : List UInt8 :=
  0xff :: writeLeU16 e.errorCode ++ 0x23 :: e.sqlState ++ e.errorMessage

/-- The EOF packet a server sends. -/
def EOFPacket.toPayload (p : EOFPacket) : List UInt8 :=
  0xfe :: writeLeU16 p.warnings ++ writeLeU16 p.statusFlags

/-- An ERR packet as a server sends it: five bytes of SQL state. -/
def ErrPacket.WellFormed (e : ErrPacket) : Prop := e.sqlState.length = 5

instance (e : ErrPacket) : Decidable e.WellFormed := inferInstanceAs (Decidable (_ = _))

@[simp] theorem UInt64.ofNat_toNat' (x : UInt64) : UInt64.ofNat x.toNat = x := by
  simp [UInt64.ofNat, UInt64.toNat]

theorem OkPacket.fromPayload_toPayload (p : OkPacket) :
    OkPacket.fromPayload p.toPayload = .ok p := by
  simp only [fromPayload, toPayload, List.append_assoc, List.cons_append, Reader.parse_def,
    Act.bind_apply, seek_apply, List.drop_succ_cons, List.drop_zero,
    readLenencInt_writeLenencInt p.affectedRows.toNat_lt_size,
    readLenencInt_writeLenencInt p.lastInsertId.toNat_lt_size, readLeU16_writeLeU16,
    readToEnd_apply, Act.pure_apply, Nat.toUInt64, UInt64.ofNat_toNat']

theorem ErrPacket.fromPayload_toPayload {e : ErrPacket} (he : e.WellFormed) :
    ErrPacket.fromPayload e.toPayload = .ok e := by
  simp only [fromPayload, toPayload, List.append_assoc, List.cons_append, Reader.parse_def,
    Act.bind_apply, seek_apply, List.drop_succ_cons, List.drop_zero, readLeU16_writeLeU16,
    readExact_append he, readToEnd_apply, Act.pure_apply]

theorem EOFPacket.fromPayload_toPayload (p : EOFPacket) :
    EOFPacket.fromPayload p.toPayload = .ok p := by
  have h := readLeU16_writeLeU16 p.statusFlags []
  rw [List.append_nil] at h
  simp only [fromPayload, toPayload, List.cons_append, Reader.parse_def, Act.bind_apply,
    seek_apply, List.drop_succ_cons, List.drop_zero, readLeU16_writeLeU16, h, Act.pure_apply]

/-! ## Handshake -/

/-- `HandshakePacket`. -/
structure HandshakePacket where
  authPluginData : List UInt8
  authPluginName : List UInt8
  connectionId : UInt32
  capabilityFlags : UInt32
  statusFlags : UInt16
  protocolVersion : UInt8
  characterSet : UInt8
  deriving DecidableEq, Repr

/-- `while try!(reader.read_u8()) != 0u8 {}`: skip the NUL-terminated server version. -/
def skipServerVersion : Reader Unit := fun
  | [] => (.error .EndOfFile, [])
  | b :: r => if b = 0 then (.ok (), r) else skipServerVersion r

/-- `reader.tell()`: the cursor position in a payload of `payloadLen` bytes. -/
def tell (payloadLen : Nat) : Reader Nat := fun s => (.ok (payloadLen - s.length), s)

/-- `if *v.get(v.len() - 1) == 0u8 { v.pop(); }`. On an empty vector `len() - 1` wraps around and
`get` panics. -/
def popTrailingNul (v : List UInt8) : Except (Fault IoError) (List UInt8) :=
  match v.getLast? with
  | none => .error (.panic "index out of bounds")
  | some b => .ok (if b = 0 then v.dropLast else v)

/-- `HandshakePacket::from_payload` (`conn.rs:153-198`). The short form ends after the low half of
the capability flags; the long form goes on with the character set, the status flags, the high
half of the flags, and then, as the flags say, the scramble's second part and the plugin name. -/
def HandshakePacket.fromPayload (pld : List UInt8) : Except (Fault IoError) HandshakePacket :=
  Prod.fst <| (show Act (List UInt8) (Fault IoError) HandshakePacket from do
    let protocolVersion ← readU8.lift
    skipServerVersion.lift
    let connectionId ← readLeU32.lift
    let authPluginData ← (pushExact [] 8).lift
    (seek 1).lift
    let capabilityFlags := (← readLeU16.lift).toUInt32
    if (← (tell pld.length).lift) = pld.length then
      pure ⟨authPluginData, [], connectionId, capabilityFlags, 0, protocolVersion, 0⟩
    else
      let characterSet ← readU8.lift
      let statusFlags ← readLeU16.lift
      let capabilityFlags := capabilityFlags ||| ((← readLeU16.lift).toUInt32 <<< 16)
      let lengthOfAuthPluginData : Int ←
        if capabilityFlags &&& clientPluginAuth > 0 then (fun b => (b.toNat : Int)) <$> readU8.lift
        else do (seek 1).lift; pure 0
      (seek 10).lift
      let authPluginData ←
        if capabilityFlags &&& clientSecureConnection > 0 then do
          let len := lengthOfAuthPluginData - 8
          let len := if len > 13 then len else 13
          let data ← (pushExact authPluginData len.toNat).lift
          Act.ofExcept (popTrailingNul data)
        else pure authPluginData
      let authPluginName ←
        if capabilityFlags &&& clientPluginAuth > 0 then do
          Act.ofExcept (popTrailingNul (← readToEnd.lift))
        else pure []
      pure ⟨authPluginData, authPluginName, connectionId, capabilityFlags, statusFlags,
        protocolVersion, characterSet⟩) pld

/-! ## Prepared statements and column definitions -/

/-- `Column`. -/
structure Column where
  catalog : List UInt8
  schema : List UInt8
  table : List UInt8
  orgTable : List UInt8
  name : List UInt8
  orgName : List UInt8
  defaultValues : List UInt8
  columnLength : UInt32
  characterSet : UInt16
  flags : UInt16
  columnType : UInt8
  decimals : UInt8
  deriving DecidableEq, Repr

/-- `Column::from_payload(command, pld)`. The length of the fixed-size fields is read and
dropped, errors included (`let _ =`); default values follow only for `COM_FIELD_LIST`. -/
def Column.fromPayload (command : UInt8) (pld : List UInt8) : Except IoError Column :=
  Reader.parse pld do
    let catalog ← readLenencBytes
    let schema ← readLenencBytes
    let table ← readLenencBytes
    let orgTable ← readLenencBytes
    let name ← readLenencBytes
    let orgName ← readLenencBytes
    Act.discard readLenencInt
    let characterSet ← readLeU16
    let columnLength ← readLeU32
    let columnType ← readU8
    let flags ← readLeU16
    let decimals ← readU8
    seek 2
    let defaultValues ←
      if command = comFieldList then do readExact (← readLenencInt) else pure []
    pure ⟨catalog, schema, table, orgTable, name, orgName, defaultValues, columnLength,
      characterSet, flags, columnType, decimals⟩

/-- A column definition as a server sends it (`ColumnDefinition41`): six length-encoded strings,
the length `0x0c` of the fixed-size fields, the character set, the column length, the type, the
flags, the decimals, two filler bytes, and for `COM_FIELD_LIST` the default values. -/
def Column.toPayload (command : UInt8) (col : Column) : List UInt8 :=
  writeLenencBytes col.catalog ++ writeLenencBytes col.schema ++ writeLenencBytes col.table ++
    writeLenencBytes col.orgTable ++ writeLenencBytes col.name ++ writeLenencBytes col.orgName ++
    writeLenencInt 0x0c ++ writeLeU16 col.characterSet ++ writeLeU32 col.columnLength ++
    col.columnType :: writeLeU16 col.flags ++ col.decimals :: 0 :: 0 ::
    if command = comFieldList then writeLenencBytes col.defaultValues else []

/-- A definition a server can send for `command`: its strings fit a length-encoded integer, and
only `COM_FIELD_LIST` carries default values. -/
structure Column.WellFormed (command : UInt8) (col : Column) : Prop where
  strings_lt : ∀ s ∈ [col.catalog, col.schema, col.table, col.orgTable, col.name, col.orgName,
    col.defaultValues], s.length < 2 ^ 64
  defaults_empty : command ≠ comFieldList → col.defaultValues = []

/-- `Column::from_payload` decodes every definition a server sends for the command it answers,
the length of the fixed-size fields it drops and the default values of `COM_FIELD_LIST`
included. -/
theorem Column.fromPayload_reads_definition {command : UInt8} {col : Column}
    (hwf : col.WellFormed command) :
    Column.fromPayload command (col.toPayload command) = .ok col := by
  have h := hwf.strings_lt
  simp only [List.mem_cons, List.mem_singleton, forall_eq_or_imp, forall_eq,
    List.not_mem_nil] at h
  obtain ⟨h1, h2, h3, h4, h5, h6, h7, -⟩ := h
  simp only [fromPayload, toPayload, List.append_assoc, List.cons_append, Reader.parse_def,
    Act.bind_apply, readLenencBytes_writeLenencBytes h1, readLenencBytes_writeLenencBytes h2,
    readLenencBytes_writeLenencBytes h3, readLenencBytes_writeLenencBytes h4,
    readLenencBytes_writeLenencBytes h5, readLenencBytes_writeLenencBytes h6,
    Act.discard_apply, readLenencInt_writeLenencInt (show 0x0c < 2 ^ 64 by decide),
    readLeU16_writeLeU16, readLeU32_writeLeU32, readU8_cons, seek_apply, List.drop_succ_cons,
    List.drop_zero]
  split_ifs with hc
  · -- `COM_FIELD_LIST`: the default values close the payload
    have hx := readExact_append (rfl : col.defaultValues.length = _) []
    rw [List.append_nil] at hx
    simp only [writeLenencBytes, Act.bind_apply, readLenencInt_writeLenencInt h7, hx]
    rfl
  · have hd := hwf.defaults_empty hc
    cases col
    subst hd
    rfl

/-- A `COM_FIELD_LIST` definition with its default values. -/
theorem Column.fromPayload_reads_definition_fieldList :
    let col : Column := ⟨[100, 101, 102], [], [116], [116], [97], [97], [48], 11, 33, 0, 3, 0⟩
    col.WellFormed comFieldList ∧
      Column.fromPayload comFieldList (col.toPayload comFieldList) = .ok col := by
  intro col
  have hwf : col.WellFormed comFieldList := ⟨by decide, fun h => absurd rfl h⟩
  exact ⟨hwf, Column.fromPayload_reads_definition hwf⟩

/-- `Stmt`: the statement header of a `COM_STMT_PREPARE` response, with the definitions `prepare`
reads after it. -/
structure Stmt where
  params : Option (List Column)
  columns : Option (List Column)
  statementId : UInt32
  numColumns : UInt16
  numParams : UInt16
  warningCount : UInt16
  deriving DecidableEq, Repr

/-- `Stmt::from_payload`. The warning count is read straight after `num_params`, over the
reserved byte that the wire format puts in between. -/
def Stmt.fromPayload (pld : List UInt8) : Except IoError Stmt := Reader.parse pld do
  seek 1
  let statementId ← readLeU32
  let numColumns ← readLeU16
  let numParams ← readLeU16
  let warningCount ← readLeU16
  pure ⟨none, none, statementId, numColumns, numParams, warningCount⟩

end MysqlSimple
