import MysqlSimple.Conn.QueryResult

/-!
# Commands: `query`, `prepare`, `execute` (`conn.rs:1036-1228`)

Each command restarts the sequence ids, writes one command packet and reads its response. The
reading half of `query`, `execute` and `prepare` is its own definition (`queryResponse`,
`executeResponse`, `prepareResponse`), so that a statement about the response can start from the
connection as the command left it.

`LOAD DATA LOCAL INFILE` reads a file of the client. The file system is a parameter, `fs`: what
`File::open` gives for a path, and what each successive `File::read` returns.
-/

namespace MysqlSimple

/-- `MyConn::write_command_data`: a command restarts the sequence ids. -/
def writeCommandData (cmd : UInt8) (buf : List UInt8) : ConnM Unit := do
  modify fun c => { c with seqId := 0, lastCommand := cmd }
  writePacket (cmd :: buf)

/-- `MyConn::write_command`: `write_command_data` without data. -/
def writeCommand (cmd : UInt8) : ConnM Unit := writeCommandData cmd []

/-! ## Column definitions and result sets -/

/-- The `while { i += 1; i < count }` loops that read `count` column definitions, each decoded
for `last_command`. -/
def readColumns : Nat → ConnM (List Column)
  | 0 => pure []
  | n + 1 => do
    let pld ← readPacket
    let column ← tryIo (Column.fromPayload (← get).lastCommand pld)
    let columns ← readColumns n
    return column :: columns

/-- The `_ =>` arm that `query` and `execute` share: the column count, the column definitions
and the EOF packet after them, read and dropped; the result set then stands at its first row. -/
def readResultSet (pld : List UInt8) (isBin : Bool) : ConnM (Option QueryResult) := do
  let columnCount ← tryIo (Reader.parse pld readLenencInt)
  let columns ← readColumns columnCount
  let _ ← readPacket
  return some ⟨columns, false, isBin⟩

/-! ## `LOAD DATA LOCAL INFILE` -/

/-- The bytes one successful `File::read` returns: at least one, since the `std` of this code
reports a read of zero bytes, at the end of the file, as the error `EndOfFile`. -/
abbrev ReadBytes := {bytes : List UInt8 // bytes ≠ []}

/-- A file as `File::read` sees it: what each successive read gives, bytes or an error. A read
past the last entry gives `EndOfFile`. -/
abbrev FileReads := List (Except IoError ReadBytes)

/-- `File::open` of a path. -/
abbrev FileSystem := List UInt8 → Except IoError FileReads

/-- The `loop` of `send_local_infile`: the bytes of each read go out as one packet, until a read
gives `EndOfFile`. A read fills at most the `max_allowed_packet`-byte buffer it is given. -/
def uploadFile (bufLen : Nat) : FileReads → ConnM Unit
  | [] => pure ()
  | .ok bytes :: rest => do
    writePacket (bytes.1.take bufLen)
    uploadFile bufLen rest
  | .error e :: _ => if e = .EndOfFile then pure () else throw (.err (.MyIoError e))

/-- `MyConn::send_local_infile`: the file, the empty packet that ends it, and the server's
reply, which is decoded only when its first byte is `0x00`. -/
def sendLocalInfile (fs : FileSystem) (fileName : List UInt8) : ConnM Unit := do
  let file ← tryIo (fs fileName)
  uploadFile (← get).maxAllowedPacket file
  writePacket []
  let pld ← readPacket
  if (← firstByte pld) = 0 then
    receiveOk pld

/-! ## `query` -/

/-- The part of `MyConn::query` after the command: the first response packet decides. -/
def queryResponse (fs : FileSystem) : ConnM (Option QueryResult) := do
  let pld ← readPacket
  let b ← firstByte pld
  if b = 0x00 then
    receiveOk pld
    return none
  else if b = 0xfb then
    let fileName ← tryIo (Reader.parse pld do seek 1; readToEnd)
    sendLocalInfile fs fileName
    return none
  else if b = 0xff then
    let err ← tryIo (ErrPacket.fromPayload pld)
    throw (.err (.MySqlError err))
  else readResultSet pld false

/-- `MyConn::query`. -/
def query (fs : FileSystem) (query : List UInt8) : ConnM (Option QueryResult) := do
  writeCommandData comQuery query
  queryResponse fs

/-! ## `prepare` -/

/-- The part of `MyConn::prepare` after the command. -/
def prepareResponse : ConnM Stmt := do
  let pld ← readPacket
  if (← firstByte pld) = 0xff then
    let err ← tryIo (ErrPacket.fromPayload pld)
    throw (.err (.MySqlError err))
  let stmt ← tryIo (Stmt.fromPayload pld)
  let stmt ← if stmt.numParams > 0 then do
      let params ← readColumns stmt.numParams.toNat
      let _ ← readPacket
      pure { stmt with params := some params }
    else pure stmt
  if stmt.numColumns > 0 then
    let columns ← readColumns stmt.numColumns.toNat
    let _ ← readPacket
    return { stmt with columns := some columns }
  return stmt

/-- `MyConn::prepare`. -/
def prepare (query : List UInt8) : ConnM Stmt := do
  writeCommandData comStmtPrepare query
  prepareResponse

/-! ## `execute` -/

/-- The `COM_STMT_SEND_LONG_DATA` packets of one parameter: the statement id, the parameter
index, a chunk. -/
def sendLongChunks (stmt : Stmt) (id : UInt16) : List (List UInt8) → ConnM Unit
  | [] => pure ()
  | chunk :: rest => do
    writeCommandData comStmtSendLongData (writeLeU32 stmt.statementId ++ writeLeU16 id ++ chunk)
    sendLongChunks stmt id rest

/-- `MyConn::send_long_data`: each `Bytes` parameter named in `ids` goes out in chunks of
`max_allowed_packet - 7` bytes; a parameter of another kind is passed over ("quite strange so
do nothing"). `chunks` asserts a non-zero size. -/
def sendLongData (stmt : Stmt) (params : List Value) : List UInt16 → ConnM Unit
  | [] => pure ()
  | id :: ids => do
    match params[id.toNat]? with
    | none => panic "index out of bounds"
    | some (.Bytes x) =>
      let size := uintSub (← get).maxAllowedPacket 7
      if size = 0 then panic "assertion failed: size != 0"
      sendLongChunks stmt id (chunks size x)
    | some _ => pure ()
    sendLongData stmt params ids

/-- The two type bytes of one parameter in `execute`'s loop. A NULL takes the type of its
definition, `stmt.params.get_ref().get(i)`, which panics past the end. -/
def paramType (stmtParams : List Column) (i : Nat) : Value → ConnM (List UInt8)
  | .NULL =>
    match stmtParams[i]? with
    | some col => pure [col.columnType, 0]
    | none => panic "index out of bounds"
  | .Bytes _ => pure [mysqlTypeVarString, 0]
  | .Int _ => pure [mysqlTypeLonglong, 0]
  | .UInt _ => pure [mysqlTypeLonglong, 128]
  | .Float _ => pure [mysqlTypeDouble, 0]
  | .Date .. => pure [mysqlTypeDate, 0]
  | .Time .. => pure [mysqlTypeTime, 0]

/-- The `while { i += 1; i < params.len() }` loop of `execute`, from index `i`. -/
def paramTypes (stmtParams : List Column) : Nat → List Value → ConnM (List UInt8)
  | _, [] => pure []
  | i, v :: vs => do
    let t ← paramType stmtParams i v
    let ts ← paramTypes stmtParams (i + 1) vs
    return t ++ ts

/-- The `if stmt.num_params > 0` block of `execute`: the long data goes out first; the block is
the NULL bitmap, the new-params-bound flag `1`, the type bytes and the inline values. -/
def executeParams (stmt : Stmt) (params : List Value) : ConnM (List UInt8) := do
  let stmtParams ← getRef stmt.params
  let (bitmap, values, largeIds) ←
    tryIoFault (Value.toBinPayload stmtParams params (← get).maxAllowedPacket)
  if let some ids := largeIds then sendLongData stmt params ids
  let types ← paramTypes stmtParams 0 params
  return bitmap ++ [1] ++ types ++ values

/-- The part of `MyConn::execute` up to and including the `COM_STMT_EXECUTE` packet. -/
def executeSend (stmt : Stmt) (params : List Value) : ConnM Unit := do
  if stmt.numParams ≠ UInt16.ofNat params.length then
    throw (.err (.MyStrError ("Statement takes " ++ toString stmt.numParams ++
      " parameters but " ++ toString params.length ++ " was supplied")))
  let header := writeLeU32 stmt.statementId ++ [0] ++ writeLeU32 1
  let body ← if stmt.numParams > 0 then executeParams stmt params else pure []
  writeCommandData comStmtExecute (header ++ body)

/-- The part of `MyConn::execute` after the command: the first response packet decides. -/
def executeResponse : ConnM (Option QueryResult) := do
  let pld ← readPacket
  let b ← firstByte pld
  if b = 0x00 then
    receiveOk pld
    return none
  else if b = 0xff then
    let err ← tryIo (ErrPacket.fromPayload pld)
    throw (.err (.MySqlError err))
  else readResultSet pld true

/-- `MyConn::execute`. -/
def execute (stmt : Stmt) (params : List Value) : ConnM (Option QueryResult) := do
  executeSend stmt params
  executeResponse


/-! ## What a command writes -/

theorem writeCommandData_spec {cmd : UInt8} {buf : List UInt8} {c : MyConn}
    (h : ¬((cmd :: buf).length > c.maxAllowedPacket ∧ c.maxAllowedPacket < maxPayloadLen)) :
    writeCommandData cmd buf c = (.ok (), { c with
      outbound := c.outbound ++ frames (packetChunks (cmd :: buf)) 0
      seqId := 0 + UInt8.ofNat ((cmd :: buf).length / maxPayloadLen + 1)
      lastCommand := cmd }) := by
  simp only [writeCommandData, Act.bind_apply, Act.modify_apply]
  exact writePacket_spec h

theorem writeCommandData_too_large {cmd : UInt8} {buf : List UInt8} {c : MyConn}
    (h : (cmd :: buf).length > c.maxAllowedPacket ∧ c.maxAllowedPacket < maxPayloadLen) :
    writeCommandData cmd buf c =
      (.error (.err (.MyStrError "Packet too large")),
        { c with seqId := 0, lastCommand := cmd }) := by
  simp only [writeCommandData, Act.bind_apply, Act.modify_apply]
  exact writePacket_too_large h

/-- A parameter that is not `Bytes` gets nothing from `send_long_data`. -/
theorem sendLongData_skip {stmt : Stmt} {params : List Value} {id : UInt16} {ids : List UInt16}
    {v : Value} (hv : params[id.toNat]? = some v) (hnb : ∀ x, v ≠ .Bytes x) :
    sendLongData stmt params (id :: ids) = sendLongData stmt params ids := by
  funext c
  cases v <;> first | exact absurd rfl (hnb _) | simp [sendLongData, hv]

/-- `execute`'s parameter block, once the long data is out. -/
theorem executeParams_spec {stmt : Stmt} {params : List Value} {c c' : MyConn}
    {defs : List Column} {bitmap values types : List UInt8} {largeIds : Option (List UInt16)}
    (hp : stmt.params = some defs)
    (hbin : Value.toBinPayload defs params c.maxAllowedPacket = .ok (bitmap, values, largeIds))
    (hlong : (match largeIds with
      | some ids => sendLongData stmt params ids
      | none => pure ()) c = (.ok (), c'))
    (ht : paramTypes defs 0 params c' = (.ok types, c')) :
    executeParams stmt params c = (.ok (bitmap ++ [1] ++ types ++ values), c') := by
  rcases largeIds with _ | ids <;>
  simp_all [executeParams, getRef, tryIoFault, Except.mapError]

/-- With the parameter count right, `execute` sends its parameter block behind the statement id,
the flags byte `0` and the iteration count `1`. -/
theorem executeSend_spec {stmt : Stmt} {params : List Value} {c c' : MyConn} {body : List UInt8}
    (hn : stmt.numParams = UInt16.ofNat params.length) (hpos : stmt.numParams > 0)
    (hparams : executeParams stmt params c = (.ok body, c')) :
    executeSend stmt params c = writeCommandData comStmtExecute
      (writeLeU32 stmt.statementId ++ [0] ++ writeLeU32 1 ++ body) c' := by
  rw [hn] at hpos
  simp [executeSend, hn, hpos, hparams]

/-- What a sending half of `execute` that returned did: the parameter count was right, the block
(none without parameters) was built, and the packet went out behind the statement id, the flags
byte `0` and the iteration count `1`. -/
theorem executeSend_ok {stmt : Stmt} {params : List Value} {c c' : MyConn}
    (h : executeSend stmt params c = (.ok (), c')) :
    stmt.numParams = UInt16.ofNat params.length ∧ ∃ body c₁,
      (if stmt.numParams > 0 then executeParams stmt params else pure []) c = (.ok body, c₁) ∧
      writeCommandData comStmtExecute (writeLeU32 stmt.statementId ++ [0] ++ writeLeU32 1 ++ body)
        c₁ = (.ok (), c') := by
  unfold executeSend at h
  split at h
  · cases h
  rw [Act.pure_bind_apply] at h
  refine ⟨not_not.mp ‹_›, ?_⟩
  dsimp only at h
  split_ifs at h ⊢ with hpos
  · exact Act.bind_eq_ok h
  · exact ⟨[], c, rfl, h⟩

/-- A parameter that `to_bin_payload` sends to `large_ids` but is not `Bytes` is lost:
`send_long_data` passes over it and the inline block leaves it out. With
`max_allowed_packet = 1024` and two parameters, a 1000-byte string (1003 bytes encoded) fills
the budget of 1007 bytes so that the integer after it no longer fits: the only packet `execute`
writes is `COM_STMT_EXECUTE`, whose values are the string's alone. -/
theorem execute_drops_long_int (c : MyConn) (stmt : Stmt) (col col' : Column) (x : List UInt8)
    (hM : c.maxAllowedPacket = 1024) (hp : stmt.params = some [col, col'])
    (hn : stmt.numParams = 2) (hx : x.length = 1000) :
    ∃ c', executeSend stmt [.Bytes x, .Int 5] c = (.ok (), c') ∧
      c'.outbound = c.outbound ++ frames (packetChunks (comStmtExecute ::
        (writeLeU32 stmt.statementId ++ [0] ++ writeLeU32 1 ++
          ([0] ++ [1] ++ ([mysqlTypeVarString, 0] ++ ([mysqlTypeLonglong, 0] ++ [])) ++
            Value.toBin (.Bytes x))))) 0 := by
  have hl : (writeLenencBytes x).length = 1003 := by
    have h : (writeLenencInt 1000).length = 3 := by decide
    simp only [writeLenencBytes, List.length_append, hx, h]
  have hbin : Value.toBinPayload [col, col'] [.Bytes x, .Int 5] c.maxAllowedPacket =
      .ok ([0], writeLenencBytes x, some [1]) := by
    rw [hM]
    simp only [Value.toBinPayload, toBinPayloadLoop, Value.toBin, hl, List.length_cons,
      List.length_nil, leBytes_length]
    rw [if_pos (by decide), if_neg (by decide)]
    rfl
  have hlong : sendLongData stmt [.Bytes x, .Int 5] [1] c = (.ok (), c) := by
    rw [sendLongData_skip (v := .Int 5) rfl (fun _ => Value.noConfusion)]; rfl
  have ht : paramTypes [col, col'] 0 [.Bytes x, .Int 5] c =
      (.ok ([mysqlTypeVarString, 0] ++ ([mysqlTypeLonglong, 0] ++ [])), c) := rfl
  refine ⟨_, (executeSend_spec (by rw [hn]; rfl) (by rw [hn]; decide)
    (executeParams_spec hp hbin hlong ht)).trans (writeCommandData_spec ?_), rfl⟩
  simp only [List.length_cons, List.length_append, writeLeU32_length, hl, hM, List.length_nil]
  decide

theorem execute_drops_long_int_1000 :
    let c := { MyConn.init MyOpts.default [] with maxAllowedPacket := 1024 }
    let col : Column := ⟨[], [], [], [], [], [], [], 0, 33, 0, mysqlTypeVarString, 0⟩
    let stmt : Stmt := ⟨some [col, col], none, 1, 0, 2, 0⟩
    let x := List.replicate 1000 (0x61 : UInt8)
    c.maxAllowedPacket = 1024 ∧ stmt.params = some [col, col] ∧ stmt.numParams = 2 ∧
      x.length = 1000 ∧
      ∃ c', executeSend stmt [.Bytes x, .Int 5] c = (.ok (), c') ∧
        c'.outbound = c.outbound ++ frames (packetChunks (comStmtExecute ::
          (writeLeU32 stmt.statementId ++ [0] ++ writeLeU32 1 ++
            ([0] ++ [1] ++ ([mysqlTypeVarString, 0] ++ ([mysqlTypeLonglong, 0] ++ [])) ++
              Value.toBin (.Bytes x))))) 0 := by
  intro c col stmt x
  exact ⟨rfl, rfl, rfl, List.length_replicate _ _,
    execute_drops_long_int c stmt col col x rfl rfl rfl (List.length_replicate _ _)⟩

theorem writeLenencBytes_length_1011 {x : List UInt8} (hx : x.length = 1011) :
    (writeLenencBytes x).length = 1014 := by
  have h : (writeLenencInt 1011).length = 3 := by decide
  simp only [writeLenencBytes, List.length_append, hx, h]

/-- `to_bin_payload` budgets `max_allowed_packet - bitmap_len - 8n` bytes for the inline values,
but the `COM_STMT_EXECUTE` packet adds `11 + bitmap_len + 2n` bytes around them. With one
parameter and `max_allowed_packet = 1024`, a 1011-byte string is inlined (its 1014 encoded bytes
are under the budget of 1015) and the packet is 1028 bytes long: `write_packet` refuses it. -/
theorem execute_sends_oversized (c : MyConn) (stmt : Stmt) (col : Column) (x : List UInt8)
    (hM : c.maxAllowedPacket = 1024) (hp : stmt.params = some [col]) (hn : stmt.numParams = 1)
    (hx : x.length = 1011) :
    executeSend stmt [.Bytes x] c = (.error (.err (.MyStrError "Packet too large")),
      { c with seqId := 0, lastCommand := comStmtExecute }) := by
  have hl := writeLenencBytes_length_1011 hx
  have hbin : Value.toBinPayload [col] [.Bytes x] c.maxAllowedPacket =
      .ok ([0], writeLenencBytes x, none) := by
    rw [hM]
    simp only [Value.toBinPayload, toBinPayloadLoop, Value.toBin, hl, List.length_singleton]
    rw [if_pos (by decide)]
    rfl
  have ht : paramTypes [col] 0 [.Bytes x] c = (.ok ([mysqlTypeVarString, 0] ++ []), c) := rfl
  rw [executeSend_spec (by rw [hn]; rfl) (by rw [hn]; decide) (executeParams_spec hp hbin rfl ht),
    writeCommandData_too_large]
  simp only [List.length_cons, List.length_append, writeLeU32_length, hl, hM, List.length_nil]
  decide

theorem execute_sends_oversized_1011 :
    let c := { MyConn.init MyOpts.default [] with maxAllowedPacket := 1024 }
    let col : Column := ⟨[], [], [], [], [], [], [], 0, 33, 0, mysqlTypeVarString, 0⟩
    let stmt : Stmt := ⟨some [col], none, 1, 0, 1, 0⟩
    let x := List.replicate 1011 (0x61 : UInt8)
    c.maxAllowedPacket = 1024 ∧ stmt.params = some [col] ∧ stmt.numParams = 1 ∧ x.length = 1011 ∧
      executeSend stmt [.Bytes x] c = (.error (.err (.MyStrError "Packet too large")),
        { c with seqId := 0, lastCommand := comStmtExecute }) := by
  intro c col stmt x
  exact ⟨rfl, rfl, rfl, List.length_replicate _ _,
    execute_sends_oversized c stmt col x rfl rfl rfl (List.length_replicate _ _)⟩

/-! ## What `query` reads -/

/-- A zero-length packet has no first byte: `*pld.get(0)` panics. -/
theorem queryResponse_empty {fs : FileSystem} {c c' : MyConn} (hr : readPacket c = (.ok [], c')) :
    queryResponse fs c = (.error (.panic "index out of bounds"), c') := by
  simp [queryResponse, hr, firstByte, panic]

/-- A `LOCAL INFILE` request hands the file name to `send_local_infile`, and then `Ok(None)`. -/
theorem queryResponse_of_infile {fs : FileSystem} {c c' : MyConn} {name : List UInt8}
    (hr : readPacket c = (.ok (0xfb :: name), c')) :
    queryResponse fs c = (sendLocalInfile fs name >>= fun _ => pure none) c' := by
  simp [queryResponse, hr, firstByte, tryIo, Except.mapError]

/-- A `LOCAL INFILE` request leads to `Ok(None)` whenever `send_local_infile` returns. -/
theorem queryResponse_infile {fs : FileSystem} {c c' c'' : MyConn} {name : List UInt8}
    (hr : readPacket c = (.ok (0xfb :: name), c'))
    (hs : sendLocalInfile fs name c' = (.ok (), c'')) :
    queryResponse fs c = (.ok none, c'') := by
  rw [queryResponse_of_infile hr, Act.bind_of_ok hs]; rfl

/-- A `LOCAL INFILE` request leads to the error `send_local_infile` fails with. -/
theorem queryResponse_infile_error {fs : FileSystem} {c c' c'' : MyConn} {name : List UInt8}
    {f : Fault MyError} (hr : readPacket c = (.ok (0xfb :: name), c'))
    (hs : sendLocalInfile fs name c' = (.error f, c'')) :
    queryResponse fs c = (.error f, c'') := by
  rw [queryResponse_of_infile hr, Act.bind_of_error hs]

/-- After the upload, a reply whose first byte is not `0x00`, an ERR packet included, is read and
dropped: `send_local_infile` returns `Ok(())`. -/
theorem sendLocalInfile_drops_reply {fs : FileSystem} {name : List UInt8} {reads : FileReads}
    {c c₁ c₂ c₃ : MyConn} {b : UInt8} {reply : List UInt8} (hfs : fs name = .ok reads)
    (hup : uploadFile c.maxAllowedPacket reads c = (.ok (), c₁))
    (hw : writePacket [] c₁ = (.ok (), c₂)) (hr : readPacket c₂ = (.ok (b :: reply), c₃))
    (hb : b ≠ 0) : sendLocalInfile fs name c = (.ok (), c₃) := by
  simp [sendLocalInfile, tryIo, Except.mapError, hfs, hup, hw, hr, firstByte, hb]

theorem frames_empty_packet (s : UInt8) : frames (packetChunks []) s = [0, 0, 0, s] := by
  rw [packetChunks_of_lt (by decide)]; rfl

/-- An empty first response packet makes `query` panic. -/
theorem query_panics_on_empty_packet (fs : FileSystem) :
    (query fs (ascii "SELECT 1") (MyConn.init MyOpts.default [0, 0, 0, 1])).1 =
      .error (.panic "index out of bounds") := by
  have hw := @writeCommandData_spec comQuery (ascii "SELECT 1")
    (MyConn.init MyOpts.default [0, 0, 0, 1]) (by decide)
  rw [query, Act.bind_of_ok hw, queryResponse_empty (readPacket_frames [] [] _ ?_)]
  show ([0, 0, 0, 1] : List UInt8) = frames (packetChunks []) 1 ++ []
  rw [frames_empty_packet]; rfl

/-- The server answers a `LOAD DATA LOCAL INFILE` with a request for `data.csv`, the client sends
the (empty) file and the empty packet that ends it, and the server refuses with an ERR packet:
`query` returns `Ok(None)`. -/
theorem query_ignores_infile_error (e : ErrPacket) :
    let fs : FileSystem := fun _ => .ok []
    let c := MyConn.init MyOpts.default (frames (packetChunks (0xfb :: ascii "data.csv")) 1 ++
      frames (packetChunks e.toPayload) 3)
    (query fs (ascii "LOAD DATA") c).1 = .ok none := by
  intro fs c
  have accepts : ∀ {n : Nat} {d : MyConn}, d.maxAllowedPacket = maxPayloadLen →
      ¬(n > d.maxAllowedPacket ∧ d.maxAllowedPacket < maxPayloadLen) :=
    fun h h' => lt_irrefl _ (h ▸ h'.2)
  have hw := @writeCommandData_spec comQuery (ascii "LOAD DATA") c (accepts rfl)
  have hreq := readPacket_frames (0xfb :: ascii "data.csv") (frames (packetChunks e.toPayload) 3)
    { c with
      outbound := c.outbound ++ frames (packetChunks (comQuery :: ascii "LOAD DATA")) 0
      seqId := 0 + UInt8.ofNat ((comQuery :: ascii "LOAD DATA").length / maxPayloadLen + 1)
      lastCommand := comQuery } rfl
  rw [query, Act.bind_of_ok hw, queryResponse_infile hreq (sendLocalInfile_drops_reply (by rfl)
    (by rfl) (writePacket_spec (accepts rfl)) (readPacket_frames e.toPayload [] _ ?_) (by decide))]
  rw [List.append_nil]; rfl

end MysqlSimple
