import MysqlSimple.Conn.Stream
import MysqlSimple.Conn.Writes

/-!
# Well-formed responses, and what each command reads of them

The server answers `COM_QUERY`, `COM_STMT_EXECUTE` and `COM_STMT_PREPARE` with a few shapes of
packets. Each shape is described here by what it stands for (`Response`, `PrepareResponse`),
beside the packets a server sends for it. The theorems say that `query` and `execute`, followed
by `next` until it gives `None` as `drop` does (`readAll`), and `prepare`, read exactly the
packets of a well-formed response, whatever follows them on the stream; what each returns; and
what the response leaves in the connection: the OK packet it carries is handled, the EOF that
ends its result set sets the status flags, and nothing else changes (`MyConn.afterResponse`).

The law needs the file of a `LOCAL INFILE` request to open and read to its end. When it does not
(`FileFails`), `query` returns the I/O error without sending the empty packet that ends the
upload or reading the server's reply: the reply is left for the next command to read.
-/

namespace MysqlSimple

/-! ## Responses -/

/-- The server's OK or ERR packet. -/
inductive Reply
  | ok (p : OkPacket)
  | err (e : ErrPacket)

/-- How a result set ends: an EOF packet or, in the text protocol, an ERR packet. -/
inductive SetEnd
  | eof (p : EOFPacket)
  | err (e : ErrPacket)

/-- A result set: each column definition as its payload and the column it decodes to, the EOF
after them, each row as its payload and the values it stands for, and the packet that ends the
set. -/
structure ResultSet where
  columns : List (List UInt8 × Column)
  columnsEof : EOFPacket
  rows : List (List UInt8 × List Value)
  last : SetEnd

/-- A response to `COM_QUERY` or `COM_STMT_EXECUTE`. A `LOCAL INFILE` request names a file;
`reads` is what the client's successive reads of it give, and `reply` is the server's answer to
the upload. -/
inductive Response
  | reply (r : Reply)
  | infile (fileName : List UInt8) (reads : List ReadBytes) (reply : Reply)
  | resultSet (rs : ResultSet)

/-! ## The packets of a response -/

/-- The payload of a reply. -/
def Reply.payload : Reply → List UInt8
  | .ok p => p.toPayload
  | .err e => e.toPayload

/-- The payload of the packet that ends a result set. -/
def SetEnd.payload : SetEnd → List UInt8
  | .eof p => p.toPayload
  | .err e => e.toPayload

/-- The packets of a result set: the column count, the definitions, an EOF, the rows, and the
packet that ends the set. -/
def ResultSet.packets (rs : ResultSet) : List (List UInt8) :=
  writeLenencInt rs.columns.length ::
    (rs.columns.map Prod.fst ++
      rs.columnsEof.toPayload :: (rs.rows.map Prod.fst ++ [rs.last.payload]))

/-- The sequence id after the client uploaded `reads`, each cut to its `bufLen`-byte buffer, and
the empty packet that ends the file. -/
def uploadSeq (bufLen : Nat) (reads : List ReadBytes) (s : UInt8) : UInt8 :=
  nextSeq [] (endSeq (reads.map fun bytes => bytes.1.take bufLen) s)

/-- The bytes a server sends for a response, from sequence id `s`. The reply to a `LOCAL INFILE`
upload is numbered on from the client's packets. -/
def Response.stream (bufLen : Nat) : Response → UInt8 → List UInt8
  | .reply r, s => packetStream [r.payload] s
  | .infile fileName reads r, s =>
    packetStream [0xfb :: fileName] s ++
      packetStream [r.payload] (uploadSeq bufLen reads (nextSeq (0xfb :: fileName) s))
  | .resultSet rs, s => packetStream rs.packets s

/-! ## Well-formed responses -/

/-- An ERR reply carries five bytes of SQL state. -/
def Reply.WellFormed : Reply → Prop
  | .ok _ => True
  | .err e => e.WellFormed

/-- A row as a server sends it: in the text protocol its length-encoded cells, one at least; in
the binary protocol the `0x00` header and values that decode for the columns. -/
def WireRow (columns : List Column) : Bool → List UInt8 × List Value → Prop
  | false, row => ∃ cells, cells ≠ [] ∧ CellsFit cells ∧ row = (textRow cells, cells.map cellValue)
  | true, row =>
    ∃ rest, row.1 = 0 :: rest ∧ Value.fromBinPayload readBinValue row.1 columns = .ok row.2

/-- A result set ends with an EOF packet, or in the text protocol with a well-formed ERR. -/
def SetEnd.WellFormed (isBin : Bool) : SetEnd → Prop
  | .eof _ => True
  | .err e => isBin = false ∧ e.WellFormed

/-- A result set as a server sends it after the command `cmd`: at least one column, definitions
that decode, and rows of the protocol `isBin`. -/
structure ResultSet.WellFormed (rs : ResultSet) (cmd : UInt8) (isBin : Bool) : Prop where
  columns_pos : 0 < rs.columns.length
  columns_lt : rs.columns.length < 2 ^ 64
  columns_decode : ColumnsDecode cmd rs.columns
  rows : ∀ row ∈ rs.rows, WireRow (rs.columns.map Prod.snd) isBin row
  last : rs.last.WellFormed isBin

/-- A well-formed response to the command `cmd`, with rows in the text or the binary protocol.
Only the text protocol's `COM_QUERY` is answered with a `LOCAL INFILE` request. -/
def Response.WellFormed (cmd : UInt8) (isBin : Bool) : Response → Prop
  | .reply r => r.WellFormed
  | .infile .. => isBin = false
  | .resultSet rs => rs.WellFormed cmd isBin

/-- The file of a `LOCAL INFILE` request opens, and its reads give `reads`. -/
def Response.FileReady (fs : FileSystem) : Response → Prop
  | .infile fileName reads _ => fs fileName = .ok (reads.map .ok)
  | _ => True

/-- The file `fileName` does not open, failing with `e`, or a read of it fails with `e` before the
end of the file. -/
def FileFails (fs : FileSystem) (fileName : List UInt8) (e : IoError) : Prop :=
  fs fileName = .error e ∨
    e ≠ .EndOfFile ∧
      ∃ (reads : List ReadBytes) (more : FileReads), fs fileName = .ok (reads.map .ok ++ .error e :: more)

/-! ## What a response yields -/

/-- What a command returns for a reply. -/
def Reply.outcome {α : Type} : Reply → Except (Fault MyError) (Option α)
  | .ok _ => .ok none
  | .err e => .error (.err (.MySqlError e))

/-- The item `next` yields for the packet that ends a result set. -/
def SetEnd.item : SetEnd → Option (MyResult (List Value))
  | .eof _ => none
  | .err e => some (errItem e)

/-- The items `next` yields over a result set: one row per row packet, in order, then the error
that ends the set, if any. -/
def ResultSet.items (rs : ResultSet) : List (MyResult (List Value)) :=
  rs.rows.map (fun row => .ok row.2) ++ rs.last.item.toList

/-- What a command and the `drop` of its result set give: `None` for an OK packet and for a
`LOCAL INFILE` request whatever the reply to the upload, the error of an ERR packet, and the
items of a result set with the set spent (`eof`). -/
def Response.outcome (isBin : Bool) :
    Response → Except (Fault MyError) (Option (List (MyResult (List Value)) × QueryResult))
  | .reply r => r.outcome
  | .infile .. => .ok none
  | .resultSet rs => .ok (some (rs.items, ⟨rs.columns.map Prod.snd, true, isBin⟩))

/-- The status flags after a reply, from `s`: an OK packet sets them. -/
def Reply.status (s : UInt16) : Reply → UInt16
  | .ok p => p.statusFlags
  | .err _ => s

/-- The status flags after the end of a result set, from `s`: an EOF packet sets them. -/
def SetEnd.status (s : UInt16) : SetEnd → UInt16
  | .eof p => p.statusFlags
  | .err _ => s

/-- The status flags after a response, from `s`: those of its OK packet or of the EOF that ends
its result set. -/
def Response.status (s : UInt16) : Response → UInt16
  | .reply r => r.status s
  | .infile _ _ r => r.status s
  | .resultSet rs => rs.last.status s

/-- The OK packet a reply is, if it is one. -/
def Reply.okPacket : Reply → Option OkPacket
  | .ok p => some p
  | .err _ => none

/-- The OK packet a response makes the client decode, if any: its reply, or the reply to its
upload. -/
def Response.okPacket : Response → Option OkPacket
  | .reply r | .infile _ _ r => r.okPacket
  | .resultSet _ => none

/-- The result set a command returns is spent: `next` gives `None` at once and `drop` returns,
both reading nothing. -/
theorem outcome_spent {isBin : Bool} {resp : Response} {items : List (MyResult (List Value))}
    {r : QueryResult} (h : resp.outcome isBin = .ok (some (items, r))) (d : MyConn) :
    r.next d = (.ok (none, r), d) ∧ r.drop d = (.ok (), d) := by
  cases resp with
  | reply rp => cases rp <;> cases h
  | infile => cases h
  | resultSet rs => cases h; exact ⟨next_of_eof rfl d, drop_of_eof rfl d⟩

/-! ## A command, then `drop` -/

/-- A command, then `next` until it gives `None`, as the `Drop` of the result set it opened does:
the command's result, with the items `next` gave and the spent result set. -/
def readAll (op : ConnM (Option QueryResult)) :
    ConnM (Option (List (MyResult (List Value)) × QueryResult)) := fun c =>
  match op c with
  | (.ok none, c') => (.ok none, c')
  | (.ok (some r), c') =>
    match r.drain c' with
    | (.ok d, c'') => (.ok (some d), c'')
    | (.error e, c'') => (.error e, c'')
  | (.error e, c') => (.error e, c')

theorem readAll_eq {op op' : ConnM (Option QueryResult)} {c c' : MyConn} (h : op c = op' c') :
    readAll op c = readAll op' c' := by
  simp only [readAll, h]

theorem readAll_of_some {op : ConnM (Option QueryResult)} {c c' c'' : MyConn} {r r' : QueryResult}
    {items : List (MyResult (List Value))} (h : op c = (.ok (some r), c'))
    (hd : r.drain c' = (.ok (items, r'), c'')) :
    readAll op c = (.ok (some (items, r')), c'') := by
  simp only [readAll, h, hd]

theorem readAll_of_none {op : ConnM (Option QueryResult)} {c c' : MyConn}
    (h : op c = (.ok none, c')) : readAll op c = (.ok none, c') := by
  simp only [readAll, h]

theorem readAll_of_error {op : ConnM (Option QueryResult)} {c c' : MyConn} {f : Fault MyError}
    (h : op c = (.error f, c')) : readAll op c = (.error f, c') := by
  simp only [readAll, h]

/-- A reply opens no result set: `readAll` is the command's own result. -/
theorem readAll_reply {op : ConnM (Option QueryResult)} {c c' : MyConn} {r : Reply}
    (h : op c = (r.outcome, c')) : readAll op c = (r.outcome, c') := by
  cases r <;> simp only [readAll, h, Reply.outcome]

/-! ## Replies -/

/-- The connection after it decoded and handled the OK packet `p`. -/
def MyConn.withOk (c : MyConn) (p : OkPacket) : MyConn :=
  { c with affectedRows := p.affectedRows, lastInsertId := p.lastInsertId,
           statusFlags := p.statusFlags, oks := p :: c.oks }

/-- The connection after a reply: an OK packet is decoded and handled, an ERR is not. -/
def MyConn.afterReply (c : MyConn) : Reply → MyConn
  | .ok p => c.withOk p
  | .err _ => c

@[simp] theorem afterReply_inbound (c : MyConn) (r : Reply) :
    (c.afterReply r).inbound = c.inbound := by
  cases r <;> rfl

@[simp] theorem afterReply_statusFlags (c : MyConn) (r : Reply) :
    (c.afterReply r).statusFlags = r.status c.statusFlags := by
  cases r <;> rfl

@[simp] theorem afterReply_maxAllowedPacket (c : MyConn) (r : Reply) :
    (c.afterReply r).maxAllowedPacket = c.maxAllowedPacket := by
  cases r <;> rfl

@[simp] theorem afterReply_affectedRows (c : MyConn) (r : Reply) :
    (c.afterReply r).affectedRows = (r.okPacket.map OkPacket.affectedRows).getD c.affectedRows := by
  cases r <;> rfl

@[simp] theorem afterReply_lastInsertId (c : MyConn) (r : Reply) :
    (c.afterReply r).lastInsertId = (r.okPacket.map OkPacket.lastInsertId).getD c.lastInsertId := by
  cases r <;> rfl

theorem receiveOk_toPayload (p : OkPacket) (c : MyConn) :
    receiveOk p.toPayload c = (.ok (), c.withOk p) := by
  simp only [receiveOk, Act.bind_apply, decodeOk, OkPacket.fromPayload_toPayload, handleOk,
    Act.modify_apply]
  rfl

theorem firstByte_of_eq {pld t : List UInt8} {b : UInt8} (h : pld = b :: t) :
    firstByte pld = pure b := by
  rw [h]; rfl

theorem queryResponse_reply {fs : FileSystem} {r : Reply} (hr : r.WellFormed) {rest : List UInt8}
    {c : MyConn} (h : Aligned [r.payload] rest c) :
    queryResponse fs c = (r.outcome, (c.took [r.payload] [] rest).afterReply r) := by
  rw [queryResponse, Act.bind_of_ok (readPacket_aligned h)]
  cases r with
  | ok p =>
    rw [Reply.payload, firstByte_of_eq (show p.toPayload = 0x00 :: _ from rfl), Act.pure_bind_apply,
      if_pos rfl, Act.bind_of_ok (receiveOk_toPayload p _)]
    rfl
  | err e =>
    -- past the OK and `LOCAL INFILE` branches to the ERR one
    rw [Reply.payload, firstByte_of_eq (show e.toPayload = 0xff :: _ from rfl), Act.pure_bind_apply,
      if_neg (by decide), if_neg (by decide), if_pos rfl, tryIo, ErrPacket.fromPayload_toPayload hr]
    rfl

theorem executeResponse_reply {r : Reply} (hr : r.WellFormed) {rest : List UInt8} {c : MyConn}
    (h : Aligned [r.payload] rest c) :
    executeResponse c = (r.outcome, (c.took [r.payload] [] rest).afterReply r) := by
  rw [executeResponse, Act.bind_of_ok (readPacket_aligned h)]
  cases r with
  | ok p =>
    rw [Reply.payload, firstByte_of_eq (show p.toPayload = 0x00 :: _ from rfl), Act.pure_bind_apply,
      if_pos rfl, Act.bind_of_ok (receiveOk_toPayload p _)]
    rfl
  | err e =>
    rw [Reply.payload, firstByte_of_eq (show e.toPayload = 0xff :: _ from rfl), Act.pure_bind_apply,
      if_neg (by decide), if_pos rfl, tryIo, ErrPacket.fromPayload_toPayload hr]
    rfl

/-! ## `LOCAL INFILE` -/

/-- The upload goes through the reads that succeed one packet each, cut to the buffer, and then
goes on with the rest of the file. -/
theorem uploadFile_append (reads : List ReadBytes) (more : FileReads) (c : MyConn) :
    ∃ out, uploadFile c.maxAllowedPacket (reads.map .ok ++ more) c =
      uploadFile c.maxAllowedPacket more { c with
        outbound := out
        seqId := endSeq (reads.map fun bytes => bytes.1.take c.maxAllowedPacket) c.seqId } := by
  induction reads generalizing c with
  | nil => exact ⟨c.outbound, rfl⟩
  | cons bytes reads ih =>
    have hfit : ¬((bytes.1.take c.maxAllowedPacket).length > c.maxAllowedPacket ∧
        c.maxAllowedPacket < maxPayloadLen) := fun h => by
      have := List.length_take_le c.maxAllowedPacket bytes.1; omega
    obtain ⟨out, hup⟩ := ih { c with
      outbound := c.outbound ++ frames (packetChunks (bytes.1.take c.maxAllowedPacket)) c.seqId
      seqId := nextSeq (bytes.1.take c.maxAllowedPacket) c.seqId }
    refine ⟨out, ?_⟩
    rw [List.map_cons, List.cons_append, uploadFile, Act.bind_of_ok (writePacket_spec hfit)]
    exact hup

/-- The upload of a file whose reads all succeed. -/
theorem uploadFile_spec (reads : List ReadBytes) (c : MyConn) :
    ∃ out, uploadFile c.maxAllowedPacket (reads.map .ok) c =
      (.ok (), { c with
        outbound := out
        seqId := endSeq (reads.map fun bytes => bytes.1.take c.maxAllowedPacket) c.seqId }) := by
  obtain ⟨out, h⟩ := uploadFile_append reads [] c
  rw [List.append_nil] at h
  exact ⟨out, h⟩

/-- A file that does not open or fails a read ends `send_local_infile` with the I/O error, before
it writes the empty packet that ends the upload or reads anything. -/
theorem sendLocalInfile_fails {fs : FileSystem} {fileName : List UInt8} {e : IoError}
    (hfs : FileFails fs fileName e) (c : MyConn) :
    ∃ c', sendLocalInfile fs fileName c = (.error (.err (.MyIoError e)), c') ∧
      c'.inbound = c.inbound := by
  rcases hfs with hfs | ⟨he, reads, more, hfs⟩
  · exact ⟨c, by simp [sendLocalInfile, tryIo, hfs, Except.mapError], rfl⟩
  · obtain ⟨out, hup⟩ := uploadFile_append reads (.error e :: more) c
    simp only [sendLocalInfile, tryIo, hfs, Except.mapError, Except.map, Act.bind_apply,
      Act.ofExcept_apply, Act.get_apply, hup]
    simp [uploadFile, he]

/-- After the upload and the empty packet that ends it, the server's reply is read: an OK packet
is handled, anything else dropped. -/
theorem sendLocalInfile_reply {fs : FileSystem} {fileName : List UInt8} {reads : List ReadBytes}
    (hfs : fs fileName = .ok (reads.map .ok)) {r : Reply} {rest : List UInt8} {c : MyConn}
    (h : c.inbound =
      packetStream [r.payload] (uploadSeq c.maxAllowedPacket reads c.seqId) ++ rest) :
    ∃ out s, sendLocalInfile fs fileName c =
      (.ok (), { c with inbound := rest, outbound := out, seqId := s }.afterReply r) := by
  obtain ⟨out, hup⟩ := uploadFile_spec reads c
  set c₁ : MyConn := { c with
    outbound := out
    seqId := endSeq (reads.map fun bytes => bytes.1.take c.maxAllowedPacket) c.seqId }
  have hw := @writePacket_spec [] c₁ (by simp)
  have hread := @readPacket_aligned r.payload [] rest { c₁ with
    outbound := c₁.outbound ++ frames (packetChunks []) c₁.seqId
    seqId := c₁.seqId + UInt8.ofNat (([] : List UInt8).length / maxPayloadLen + 1) } h
  simp only [sendLocalInfile, tryIo, hfs, Except.mapError, Except.map, Act.bind_apply,
    Act.ofExcept_apply, Act.get_apply, hup, hw, hread]
  cases r with
  | ok p =>
    simp only [Reply.payload, firstByte_of_eq (show p.toPayload = 0x00 :: _ from rfl),
      Act.bind_apply, Act.pure_apply, if_pos, receiveOk_toPayload]
    exact ⟨_, _, rfl⟩
  | err e =>
    simp only [Reply.payload, firstByte_of_eq (show e.toPayload = 0xff :: _ from rfl),
      Act.bind_apply, Act.pure_apply]
    exact ⟨_, _, rfl⟩

theorem queryResponse_infile_reply {fs : FileSystem} {fileName : List UInt8}
    {reads : List ReadBytes} (hfs : fs fileName = .ok (reads.map .ok)) {r : Reply}
    {rest : List UInt8} {c : MyConn}
    (h : c.inbound = packetStream [0xfb :: fileName] c.seqId ++ (packetStream [r.payload]
      (uploadSeq c.maxAllowedPacket reads (nextSeq (0xfb :: fileName) c.seqId)) ++ rest)) :
    ∃ out s, queryResponse fs c =
      (.ok none, { c with inbound := rest, outbound := out, seqId := s }.afterReply r) := by
  obtain ⟨out, s, hs⟩ := @sendLocalInfile_reply fs fileName reads hfs r rest
    (c.took [0xfb :: fileName] [] (packetStream [r.payload]
      (uploadSeq c.maxAllowedPacket reads (nextSeq (0xfb :: fileName) c.seqId)) ++ rest)) rfl
  exact ⟨out, s, queryResponse_infile (readPacket_aligned h) hs⟩

/-! ## Result sets -/

/-- The connection after the packet that ends a result set: an EOF packet sets the status
flags. -/
def MyConn.afterEnd (c : MyConn) : SetEnd → MyConn
  | .eof p => { c with statusFlags := p.statusFlags }
  | .err _ => c

@[simp] theorem afterEnd_inbound (c : MyConn) (e : SetEnd) :
    (c.afterEnd e).inbound = c.inbound := by
  cases e <;> rfl

@[simp] theorem afterEnd_statusFlags (c : MyConn) (e : SetEnd) :
    (c.afterEnd e).statusFlags = e.status c.statusFlags := by
  cases e <;> rfl

theorem afterEnd_eq (c : MyConn) (e : SetEnd) :
    c.afterEnd e = { c with statusFlags := e.status c.statusFlags } := by
  cases e <;> rfl

/-- The connection after the packets of a response have acted on it: the OK packet it carries is
handled, the EOF that ends its result set sets the status flags, and nothing else acts. -/
def MyConn.afterResponse (c : MyConn) : Response → MyConn
  | .reply r | .infile _ _ r => c.afterReply r
  | .resultSet rs => c.afterEnd rs.last

/-- A response leaves the input, `max_allowed_packet`, and unless it carries an OK packet the
affected-row count and the last insert id as they were. -/
theorem afterResponse_fields (c : MyConn) (resp : Response) :
    (c.afterResponse resp).inbound = c.inbound ∧
      (c.afterResponse resp).maxAllowedPacket = c.maxAllowedPacket ∧
      (c.afterResponse resp).affectedRows =
        (resp.okPacket.map OkPacket.affectedRows).getD c.affectedRows ∧
      (c.afterResponse resp).lastInsertId =
        (resp.okPacket.map OkPacket.lastInsertId).getD c.lastInsertId := by
  cases resp <;> simp [MyConn.afterResponse, Response.okPacket, afterEnd_eq]

theorem WireRow.rowPacket {r : QueryResult} {row : List UInt8 × List Value}
    (h : WireRow r.columns r.isBin row) : r.RowPacket row.1 row.2 := by
  cases hb : r.isBin <;> rw [hb] at h
  · obtain ⟨cells, hne, hfit, hrow⟩ := h
    rw [hrow]
    exact rowPacket_text hb hne hfit
  · obtain ⟨rest, h0, hv⟩ := h
    rw [h0] at hv ⊢
    exact rowPacket_bin hb hv

theorem nextOfPayload_setEnd {r : QueryResult} {e : SetEnd} (he : e.WellFormed r.isBin)
    (c : MyConn) :
    r.nextOfPayload e.payload c = (.ok (e.item, { r with eof := true }), c.afterEnd e) := by
  cases e with
  | eof p => exact nextOfPayload_eof r p c
  | err e => exact nextOfPayload_err he.1 he.2 c

/-- A result set from its column count on, and `drop`: every packet of it is read, and the items
are its rows and the error that ends it, if any. -/
theorem readAll_readResultSet {rs : ResultSet} {isBin : Bool} {rest : List UInt8} {c : MyConn}
    (hwf : rs.WellFormed c.lastCommand isBin) (h : Aligned rs.packets.tail rest c) :
    readAll (readResultSet (writeLenencInt rs.columns.length) isBin) c =
      (.ok (some (rs.items, ⟨rs.columns.map Prod.snd, true, isBin⟩)),
        (c.took rs.packets.tail [] rest).afterEnd rs.last) := by
  have hcount : Reader.parse (writeLenencInt rs.columns.length) readLenencInt =
      .ok rs.columns.length := by
    have := readLenencInt_writeLenencInt hwf.columns_lt []
    rw [List.append_nil] at this
    simp only [Reader.parse_def, this]
  have hset : readResultSet _ isBin c = _ :=
    readResultSet_aligned hcount hwf.columns_decode h
  let r : QueryResult := ⟨rs.columns.map Prod.snd, false, isBin⟩
  have hd := drain_rows (r := r) (c := c.took (rs.columns.map Prod.fst ++ [rs.columnsEof.toPayload])
    (rs.rows.map Prod.fst ++ [rs.last.payload]) rest) rfl
    (fun row hrow => (hwf.rows row hrow).rowPacket) (nextOfPayload_setEnd hwf.last)
    (took_aligned _ _ _ _)
  rw [took_took_nil] at hd
  rw [readAll_of_some hset hd]
  simp only [ResultSet.packets, List.tail_cons, List.append_assoc, List.singleton_append]
  rfl

/-- The first byte of a column count is none of the markers `0x00`, `0xFB` and `0xFF`. -/
theorem writeLenencInt_count_head {n : Nat} (hn : 0 < n) :
    ∃ b t, writeLenencInt n = b :: t ∧ b ≠ 0x00 ∧ b ≠ 0xfb ∧ b ≠ 0xff := by
  obtain ⟨b, t, hw, hfb, hff, -⟩ := writeLenencInt_head n
  refine ⟨b, t, hw, ?_, hfb, hff⟩
  rintro rfl
  unfold writeLenencInt at hw
  split_ifs at hw with h1
  · have := congrArg UInt8.toNat (List.head_eq_of_cons_eq hw)
    simp only [UInt8.toNat_ofNat'] at this
    exact absurd this (by simp; omega)
  all_goals exact absurd (List.head_eq_of_cons_eq hw) (by decide)

theorem queryResponse_count {fs : FileSystem} {c c' : MyConn} {b : UInt8} {t : List UInt8}
    (hr : readPacket c = (.ok (b :: t), c')) (h0 : b ≠ 0x00) (hfb : b ≠ 0xfb) (hff : b ≠ 0xff) :
    queryResponse fs c = readResultSet (b :: t) false c' := by
  simp [queryResponse, hr, firstByte, h0, hfb, hff]

theorem executeResponse_count {c c' : MyConn} {b : UInt8} {t : List UInt8}
    (hr : readPacket c = (.ok (b :: t), c')) (h0 : b ≠ 0x00) (hff : b ≠ 0xff) :
    executeResponse c = readResultSet (b :: t) true c' := by
  simp [executeResponse, hr, firstByte, h0, hff]

/-! ## What `query` and `execute` read -/

/-- The command packet of `query` or `prepare` leaves the input as it was, the sequence id after
the packet, and the command as the last one. -/
theorem writeCommandData_sent {cmd : UInt8} {buf : List UInt8} {c : MyConn}
    (hfit : ¬((cmd :: buf).length > c.maxAllowedPacket ∧ c.maxAllowedPacket < maxPayloadLen)) :
    ∃ c₁, writeCommandData cmd buf c = (.ok (), c₁) ∧ c₁.inbound = c.inbound ∧
      c₁.seqId = nextSeq (cmd :: buf) 0 ∧ c₁.lastCommand = cmd ∧
      c₁.maxAllowedPacket = c.maxAllowedPacket ∧ c₁.statusFlags = c.statusFlags :=
  ⟨_, writeCommandData_spec hfit, rfl, rfl, rfl, rfl, rfl⟩

theorem query_of_sent {fs : FileSystem} {sql : List UInt8} {c c₁ : MyConn}
    (h : writeCommandData comQuery sql c = (.ok (), c₁)) : query fs sql c = queryResponse fs c₁ :=
  Act.bind_of_ok h

theorem execute_of_sent {stmt : Stmt} {params : List Value} {c c₁ : MyConn}
    (h : executeSend stmt params c = (.ok (), c₁)) : execute stmt params c = executeResponse c₁ :=
  Act.bind_of_ok h

/-- `query`, and `drop` of the result set it opens, read exactly the packets of a well-formed
response, whatever follows them, and the response acts on the connection as it says. -/
theorem query_reads_response {fs : FileSystem} {sql : List UInt8} {resp : Response}
    {rest : List UInt8} {c : MyConn}
    (hfit : ¬((comQuery :: sql).length > c.maxAllowedPacket ∧ c.maxAllowedPacket < maxPayloadLen))
    (hwf : resp.WellFormed comQuery false) (hfile : resp.FileReady fs)
    (hin : c.inbound = resp.stream c.maxAllowedPacket (nextSeq (comQuery :: sql) 0) ++ rest) :
    ∃ out s, readAll (query fs sql) c = (resp.outcome false,
      { c with inbound := rest, outbound := out, seqId := s, lastCommand := comQuery }.afterResponse
        resp) := by
  set c₁ : MyConn := { c with
    outbound := c.outbound ++ frames (packetChunks (comQuery :: sql)) 0
    seqId := nextSeq (comQuery :: sql) 0
    lastCommand := comQuery }
  have hin₁ : c₁.inbound = resp.stream c₁.maxAllowedPacket c₁.seqId ++ rest := hin
  rw [readAll_eq (query_of_sent (writeCommandData_spec hfit : _ = (.ok (), c₁)))]
  cases resp with
  | reply r => exact ⟨_, _, readAll_reply (queryResponse_reply hwf hin₁)⟩
  | infile fileName reads r =>
    rw [Response.stream, List.append_assoc] at hin₁
    obtain ⟨out, s, hq⟩ := queryResponse_infile_reply hfile hin₁
    exact ⟨out, s, readAll_of_none hq⟩
  | resultSet rs =>
    obtain ⟨b, t, hw, h0, hfb, hff⟩ := writeLenencInt_count_head hwf.columns_pos
    have hr := readPacket_aligned (show Aligned (_ :: rs.packets.tail) rest c₁ from hin₁)
    rw [hw] at hr
    rw [readAll_eq (queryResponse_count hr h0 hfb hff), ← hw]
    exact ⟨_, _, readAll_readResultSet hwf (took_aligned _ _ _ _)⟩

/-- When the file of a `LOCAL INFILE` request does not open or a read of it fails, `query`
returns the I/O error having read the request alone: the server's reply to the upload, and all
that follows it, is left on the stream. -/
theorem query_leaves_infile_reply {fs : FileSystem} {sql fileName : List UInt8}
    {reads : List ReadBytes} {r : Reply} {e : IoError} {rest : List UInt8} {c : MyConn}
    (hfit : ¬((comQuery :: sql).length > c.maxAllowedPacket ∧ c.maxAllowedPacket < maxPayloadLen))
    (hfail : FileFails fs fileName e)
    (hin : c.inbound = (Response.infile fileName reads r).stream c.maxAllowedPacket
      (nextSeq (comQuery :: sql) 0) ++ rest) :
    ∃ c', readAll (query fs sql) c = (.error (.err (.MyIoError e)), c') ∧
      c'.inbound = packetStream [r.payload] (uploadSeq c.maxAllowedPacket reads
        (nextSeq (0xfb :: fileName) (nextSeq (comQuery :: sql) 0))) ++ rest := by
  set c₁ : MyConn := { c with
    outbound := c.outbound ++ frames (packetChunks (comQuery :: sql)) 0
    seqId := nextSeq (comQuery :: sql) 0
    lastCommand := comQuery }
  have hin₁ : Aligned [0xfb :: fileName] (packetStream [r.payload] (uploadSeq c.maxAllowedPacket
      reads (nextSeq (0xfb :: fileName) c₁.seqId)) ++ rest) c₁ := by
    rw [Response.stream, List.append_assoc] at hin; exact hin
  obtain ⟨c', hs, hin'⟩ := sendLocalInfile_fails hfail _
  exact ⟨c', readAll_of_error ((query_of_sent (writeCommandData_spec hfit : _ = (.ok (), c₁))).trans
    (queryResponse_infile_error (readPacket_aligned hin₁) hs)), hin'⟩

/-- The failing case on a fresh connection: an `UPDATE` whose server asks for the file `a`,
which does not open, and then sends its OK packet. -/
theorem query_leaves_infile_reply_unopened :
    let r : Reply := .ok ⟨0, 0, 2, 0, []⟩
    let fs : FileSystem := fun _ => .error .OtherIoError
    let c := MyConn.init MyOpts.default ((Response.infile [0x61] [] r).stream maxPayloadLen
      (nextSeq (comQuery :: [0x55]) 0) ++ [])
    ¬((comQuery :: [0x55]).length > c.maxAllowedPacket ∧ c.maxAllowedPacket < maxPayloadLen) ∧
      FileFails fs [0x61] .OtherIoError ∧
      ∃ c', readAll (query fs [0x55]) c = (.error (.err (.MyIoError .OtherIoError)), c') ∧
        c'.inbound = packetStream [r.payload] (uploadSeq c.maxAllowedPacket []
          (nextSeq [0xfb, 0x61] (nextSeq (comQuery :: [0x55]) 0))) ++ [] := by
  intro r fs c
  have hfit : ¬((comQuery :: [0x55]).length > c.maxAllowedPacket ∧
      c.maxAllowedPacket < maxPayloadLen) := fun h => absurd h.2 (lt_irrefl _)
  exact ⟨hfit, .inl rfl, query_leaves_infile_reply hfit (.inl rfl) rfl⟩

/-- `execute`, and `drop` of the result set it opens, read exactly the packets of a well-formed
response, numbered on from the packets it sent, whatever follows them, and the response acts on
the connection as it says. -/
theorem execute_reads_response {stmt : Stmt} {params : List Value} {resp : Response}
    {rest : List UInt8} {c c₁ : MyConn} (hsend : executeSend stmt params c = (.ok (), c₁))
    (hwf : resp.WellFormed comStmtExecute true)
    (hin : c.inbound = resp.stream c.maxAllowedPacket c₁.seqId ++ rest) :
    ∃ out s, readAll (execute stmt params) c = (resp.outcome true,
      { c with inbound := rest, outbound := out, seqId := s,
               lastCommand := comStmtExecute }.afterResponse resp) := by
  rw [readAll_eq (execute_of_sent hsend)]
  obtain ⟨out, s, rfl⟩ := executeSend_state hsend
  cases resp with
  | reply r => exact ⟨_, _, readAll_reply (executeResponse_reply hwf hin)⟩
  | infile => cases hwf
  | resultSet rs =>
    obtain ⟨b, t, hw, h0, -, hff⟩ := writeLenencInt_count_head hwf.columns_pos
    have hr := readPacket_aligned (show Aligned (_ :: rs.packets.tail) rest
      { c with outbound := out, seqId := s, lastCommand := comStmtExecute } from hin)
    rw [hw] at hr
    rw [readAll_eq (executeResponse_count hr h0 hff), ← hw]
    exact ⟨_, _, readAll_readResultSet hwf (took_aligned _ _ _ _)⟩

/-! ## `prepare` -/

/-- A `COM_STMT_PREPARE` response with a statement: the header, then the parameter definitions
with an EOF after them if there are any, then the column definitions with an EOF after them if
there are any. -/
structure PrepareOk where
  statementId : UInt32
  warnings : UInt16
  params : List (List UInt8 × Column)
  paramsEof : EOFPacket
  columns : List (List UInt8 × Column)
  columnsEof : EOFPacket

/-- A response to `COM_STMT_PREPARE`. -/
inductive PrepareResponse
  | err (e : ErrPacket)
  | ok (p : PrepareOk)

/-- A block of definitions and the EOF after it; nothing at all for no definition. -/
def defsPackets (defs : List (List UInt8 × Column)) (eof : EOFPacket) : List (List UInt8) :=
  if defs = [] then [] else defs.map Prod.fst ++ [eof.toPayload]

/-- The statement header: the status `0x00`, the statement id, the column and parameter counts,
a reserved byte and the warning count. -/
def PrepareOk.header (p : PrepareOk) : List UInt8 :=
  0x00 :: (writeLeU32 p.statementId ++ writeLeU16 (UInt16.ofNat p.columns.length) ++
    writeLeU16 (UInt16.ofNat p.params.length) ++ 0x00 :: writeLeU16 p.warnings)

/-- The packets of a response to `COM_STMT_PREPARE`. -/
def PrepareResponse.packets : PrepareResponse → List (List UInt8)
  | .err e => [e.toPayload]
  | .ok p => p.header :: (defsPackets p.params p.paramsEof ++ defsPackets p.columns p.columnsEof)

/-- The counts fit the header's two bytes and the definitions decode. -/
structure PrepareOk.WellFormed (p : PrepareOk) : Prop where
  params_lt : p.params.length < 2 ^ 16
  columns_lt : p.columns.length < 2 ^ 16
  params_decode : ColumnsDecode comStmtPrepare p.params
  columns_decode : ColumnsDecode comStmtPrepare p.columns

/-- A well-formed response to `COM_STMT_PREPARE`. -/
def PrepareResponse.WellFormed : PrepareResponse → Prop
  | .err e => e.WellFormed
  | .ok p => p.WellFormed

/-- The definitions a statement keeps: `None` when the server sent none. -/
def defsOpt (defs : List (List UInt8 × Column)) : Option (List Column) :=
  if defs = [] then none else some (defs.map Prod.snd)

/-- What `prepare` returns for a response: the error of an ERR packet, or a statement with the
server's id, counts and definitions. -/
def PrepareResponse.Yields : PrepareResponse → Except (Fault MyError) Stmt → Prop
  | .err e, r => r = .error (.err (.MySqlError e))
  | .ok p, r => ∃ stmt, r = .ok stmt ∧ stmt.statementId = p.statementId ∧
      stmt.numParams.toNat = p.params.length ∧ stmt.numColumns.toNat = p.columns.length ∧
      stmt.params = defsOpt p.params ∧ stmt.columns = defsOpt p.columns

theorem Stmt.fromPayload_header (p : PrepareOk) : ∃ w, Stmt.fromPayload p.header =
    .ok ⟨none, none, p.statementId, UInt16.ofNat p.columns.length,
      UInt16.ofNat p.params.length, w⟩ := by
  simp only [Stmt.fromPayload, PrepareOk.header, List.append_assoc, List.cons_append,
    Reader.parse_def, Act.bind_apply, seek_apply, List.drop_succ_cons, List.drop_zero,
    readLeU32_writeLeU32, readLeU16_writeLeU16]
  simp [writeLeU16, leBytes, readLeU16, readLeUintN]

/-- `Stmt::from_payload` reads the warning count straight after `num_params`, over the reserved
byte: of a server's warning count `w` it keeps only the low byte, times 256. The statement id and
the counts come out right, the warning count wrong unless it is zero. -/
theorem Stmt.fromPayload_misreads_warnings (p : PrepareOk) :
    Stmt.fromPayload p.header = .ok ⟨none, none, p.statementId, UInt16.ofNat p.columns.length,
      UInt16.ofNat p.params.length, UInt16.ofNat (p.warnings.toNat % 256 * 256)⟩ ∧
    (UInt16.ofNat (p.warnings.toNat % 256 * 256) = p.warnings ↔ p.warnings = 0) := by
  have hw : p.warnings.toNat < 65536 := p.warnings.toNat_lt_size
  have hlt : p.warnings.toNat % 256 * 256 < UInt16.size := by rw [UInt16.size]; omega
  refine ⟨?_, fun h => UInt16.toNat.inj ?_, fun h => by rw [h]; rfl⟩
  · simp only [Stmt.fromPayload, PrepareOk.header, List.append_assoc, List.cons_append,
      Reader.parse_def, Act.bind_apply, seek_apply, List.drop_succ_cons, List.drop_zero,
      readLeU32_writeLeU32, readLeU16_writeLeU16]
    simp [writeLeU16, leBytes, readLeU16, readLeUintN, Nat.mul_comm]
  · have := congrArg UInt16.toNat h
    rw [UInt16.toNat_ofNat_of_lt hlt] at this
    rw [UInt16.toNat_zero]
    omega

/-- A count of up to `0xFFFF` fits the header's two bytes. -/
theorem UInt16.ofNat_pos_iff {n : Nat} (h : n < UInt16.size) : UInt16.ofNat n > 0 ↔ 0 < n := by
  rw [gt_iff_lt, UInt16.lt_def, BitVec.lt_def]
  show 0 < (UInt16.ofNat n).toNat ↔ 0 < n
  rw [UInt16.toNat_ofNat_of_lt h]

/-- A non-empty block of definitions and its EOF, read as `prepare` reads them: the definitions,
then the EOF. -/
theorem readDefs_aligned {defs : List (List UInt8 × Column)} {eof : EOFPacket}
    {more : List (List UInt8)} {rest : List UInt8} {d : MyConn} (hne : defs ≠ [])
    (h : Aligned (defsPackets defs eof ++ more) rest d) (hd : ColumnsDecode d.lastCommand defs) :
    readColumns defs.length d =
      (.ok (defs.map Prod.snd), d.took (defs.map Prod.fst) (eof.toPayload :: more) rest) ∧
    readPacket (d.took (defs.map Prod.fst) (eof.toPayload :: more) rest) =
      (.ok eof.toPayload, d.took (defsPackets defs eof) more rest) := by
  rw [defsPackets, if_neg hne] at h ⊢
  rw [List.append_assoc] at h
  exact ⟨readColumns_aligned hd h, (readPacket_aligned (took_aligned _ _ _ _)).trans
    (congrArg _ (took_took d _ [eof.toPayload] more rest))⟩

theorem defsPackets_nil (eof : EOFPacket) : defsPackets [] eof = [] := rfl

/-- A block of definitions as `prepare` reads it: with a positive count, the definitions and
their EOF, and nothing otherwise. -/
theorem readDefs_ite {α : Type} {defs : List (List UInt8 × Column)} {eof : EOFPacket}
    {more : List (List UInt8)} {rest : List UInt8} {d : MyConn}
    (h : Aligned (defsPackets defs eof ++ more) rest d) (hd : ColumnsDecode d.lastCommand defs)
    (f : List Column → ConnM α) (g : ConnM α) :
    (if 0 < defs.length then readColumns defs.length >>= fun cs => readPacket >>= fun _ => f cs
      else g) d =
      (if defs = [] then g else f (defs.map Prod.snd))
        (d.took (defsPackets defs eof) more rest) := by
  rcases defs with _ | ⟨x, xs⟩
  · rw [defsPackets_nil, List.nil_append] at h
    rw [defsPackets_nil, took_nil h]; rfl
  · obtain ⟨e1, e2⟩ := readDefs_aligned (List.cons_ne_nil x xs) h hd
    rw [if_pos (show 0 < (x :: xs).length from Nat.succ_pos _), Act.bind_of_ok e1,
      Act.bind_of_ok e2, if_neg (List.cons_ne_nil x xs)]

theorem prepare_reads_response {sql : List UInt8} {resp : PrepareResponse} {rest : List UInt8}
    {c : MyConn}
    (hfit : ¬((comStmtPrepare :: sql).length > c.maxAllowedPacket ∧
      c.maxAllowedPacket < maxPayloadLen))
    (hwf : resp.WellFormed)
    (hin : c.inbound = packetStream resp.packets (nextSeq (comStmtPrepare :: sql) 0) ++ rest) :
    resp.Yields (prepare sql c).1 ∧ (prepare sql c).2.inbound = rest ∧
      (prepare sql c).2.statusFlags = c.statusFlags := by
  obtain ⟨c₁, hw, hin₁, hseq₁, hcmd₁, -, hst₁⟩ := writeCommandData_sent hfit
  rw [← hin₁, ← hseq₁] at hin
  rw [prepare, Act.bind_of_ok hw, ← hst₁]
  have h0ff : (0x00 : UInt8) ≠ 0xff := by decide
  cases resp with
  | err e =>
    have hr := readPacket_aligned (show Aligned [e.toPayload] rest c₁ from hin)
    have hres : prepareResponse c₁ =
        (.error (.err (.MySqlError e)), c₁.took [e.toPayload] [] rest) := by
      simp only [prepareResponse, Act.bind_apply, hr, Act.pure_apply, tryIo, Except.mapError,
        firstByte_of_eq (show e.toPayload = 0xff :: _ from rfl),
        ErrPacket.fromPayload_toPayload hwf,
        Act.ofExcept_apply, Act.throw_apply, if_pos]
    rw [hres]
    exact ⟨rfl, rfl, rfl⟩
  | ok p =>
    replace hwf : p.WellFormed := hwf
    obtain ⟨w, hs⟩ := Stmt.fromPayload_header p
    have hr := readPacket_aligned (show Aligned (p.header :: _) rest c₁ from hin)
    have hP := hwf.params_decode
    have hC := hwf.columns_decode
    rw [← hcmd₁] at hP hC
    simp only [prepareResponse, Act.bind_apply, hr, Act.pure_apply, tryIo, Except.mapError,
      firstByte_of_eq (show p.header = 0x00 :: _ from rfl), hs, h0ff,
      UInt16.toNat_ofNat_of_lt hwf.params_lt, UInt16.ofNat_pos_iff hwf.params_lt,
      Act.ofExcept_apply, if_false]
    -- the parameter block, then in either branch the column block
    have hal : Aligned (defsPackets p.columns p.columnsEof ++ []) rest
        ((c₁.took [p.header] (defsPackets p.params p.paramsEof ++
          defsPackets p.columns p.columnsEof) rest).took (defsPackets p.params p.paramsEof)
          (defsPackets p.columns p.columnsEof) rest) := by
      rw [List.append_nil]; exact took_aligned _ _ _ _
    rw [readDefs_ite (took_aligned _ _ _ _) hP, Act.ite_apply]
    simp only [Act.pure_bind_apply, UInt16.toNat_ofNat_of_lt hwf.columns_lt,
      UInt16.ofNat_pos_iff hwf.columns_lt, readDefs_ite hal hC]
    by_cases hp : p.params = [] <;> by_cases hc : p.columns = [] <;>
      simp [hp, hc, PrepareResponse.Yields, defsOpt, UInt16.toNat_ofNat_of_lt hwf.params_lt,
        UInt16.toNat_ofNat_of_lt hwf.columns_lt]

/-! ## Every command reads exactly its response -/

/-- `query` and `execute`, each followed by `next` until `None` as `drop` does, and `prepare` read
exactly the packets of any well-formed response and nothing after them, when the file of a
`LOCAL INFILE` request opens and reads to its end: the rows come out one item per row packet in
order, the spent result set then gives `None` and drops without reading, the response acts on
the connection as it says (status flags from the OK packet or the EOF that ends the set), and
`prepare` returns the server's definitions. -/
theorem commands_read_exactly_their_response :
    (∀ (fs : FileSystem) (sql : List UInt8) (resp : Response) (rest : List UInt8) (c : MyConn),
      ¬((comQuery :: sql).length > c.maxAllowedPacket ∧ c.maxAllowedPacket < maxPayloadLen) →
      resp.WellFormed comQuery false → resp.FileReady fs →
      c.inbound = resp.stream c.maxAllowedPacket (nextSeq (comQuery :: sql) 0) ++ rest →
      ∃ out s, readAll (query fs sql) c = (resp.outcome false,
        { c with inbound := rest, outbound := out, seqId := s,
                 lastCommand := comQuery }.afterResponse resp)) ∧
    (∀ (stmt : Stmt) (params : List Value) (resp : Response) (rest : List UInt8) (c c₁ : MyConn),
      executeSend stmt params c = (.ok (), c₁) → resp.WellFormed comStmtExecute true →
      c.inbound = resp.stream c.maxAllowedPacket c₁.seqId ++ rest →
      ∃ out s, readAll (execute stmt params) c = (resp.outcome true,
        { c with inbound := rest, outbound := out, seqId := s,
                 lastCommand := comStmtExecute }.afterResponse resp)) ∧
    (∀ (sql : List UInt8) (resp : PrepareResponse) (rest : List UInt8) (c : MyConn),
      ¬((comStmtPrepare :: sql).length > c.maxAllowedPacket ∧
        c.maxAllowedPacket < maxPayloadLen) →
      resp.WellFormed →
      c.inbound = packetStream resp.packets (nextSeq (comStmtPrepare :: sql) 0) ++ rest →
      resp.Yields (prepare sql c).1 ∧ (prepare sql c).2.inbound = rest ∧
        (prepare sql c).2.statusFlags = c.statusFlags) ∧
    (∀ (isBin : Bool) (resp : Response) (items : List (MyResult (List Value))) (r : QueryResult)
      (d : MyConn), resp.outcome isBin = .ok (some (items, r)) →
        r.next d = (.ok (none, r), d) ∧ r.drop d = (.ok (), d)) :=
  ⟨fun _ _ _ _ _ => query_reads_response, fun _ _ _ _ _ _ => execute_reads_response,
    fun _ _ _ _ => prepare_reads_response, fun _ _ _ _ _ h => outcome_spent h _⟩

/-- An `UPDATE` answered by an OK packet for two rows, on a fresh connection. -/
theorem commands_read_exactly_their_response_update :
    let p : OkPacket := ⟨2, 0, 2, 0, []⟩
    let c := MyConn.init MyOpts.default
      ((Response.reply (.ok p)).stream maxPayloadLen (nextSeq (comQuery :: [0x55]) 0) ++ [])
    ∃ out s, readAll (query (fun _ => .ok []) [0x55]) c = ((Response.reply (.ok p)).outcome false,
      { c with inbound := [], outbound := out, seqId := s,
               lastCommand := comQuery }.afterResponse (.reply (.ok p))) := by
  intro p c
  exact commands_read_exactly_their_response.1 (fun _ => .ok []) [0x55] (.reply (.ok p)) [] c
    (by decide) trivial trivial rfl

end MysqlSimple
