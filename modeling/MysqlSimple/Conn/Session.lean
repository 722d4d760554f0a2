import MysqlSimple.Conn.Connect
import MysqlSimple.Conn.Ledger
import MysqlSimple.Conn.Response
import MysqlSimple.Packets.Handshake
import Mathlib.Tactic.IntervalCases

/-!
# A whole `connect` against a server that follows the protocol (`conn.rs:977-1004`, `1229-1258`)

`connect` runs `do_handshake` (the greeting, the client's answer, the server's OK), then
`get_system_var("max_allowed_packet")`: a `COM_QUERY` whose result set it reads to the end, keeping
the first value of the first row, which `uint::parse_bytes` turns into the packet limit.

The server's side is modelled from the protocol, not from this code: it numbers its packets on
from the client's, and writes a system variable as its decimal text (`decimal`). The steps are
one lemma each: `doHandshake_ok` for the handshake, `getSystemVar_resultSet` for the query, and
`parseUint_decimal` for the number. `connect_learns_max_allowed_packet` puts them together: the
client ends connected, with the server's packet limit, flags and connection id, having read
exactly what the server sent.

Whatever the servers do, `MyConn::new` never hands out a connection that is not connected or whose
packet limit is `0` (`new_returns_connected`): `connect` sets both last, and nothing after it
touches them along any run of calls (`new_stays_connected`). And whatever the state, a run of
calls writes only whole packets (`runOps_writes_whole_packets`): `write_packet` is the one
writer, and it writes every frame of its payload or nothing.
-/

namespace MysqlSimple

/-! ## The server's decimal text -/

/-- The decimal text of `n`, most significant digit first, as a server writes an unsigned system
variable in a text row. -/
def decimal (n : Nat) : List UInt8 :=
  if n < 10 then [UInt8.ofNat (0x30 + n)] else decimal (n / 10) ++ [UInt8.ofNat (0x30 + n % 10)]
termination_by n
decreasing_by omega

/-- The byte of a decimal digit passes the digit test of `parse_bytes`, which reads it back. -/
theorem digitByte {d : Nat} (h : d < 10) :
    (0x30 ≤ UInt8.ofNat (0x30 + d) ∧ UInt8.ofNat (0x30 + d) ≤ 0x39) ∧
      (UInt8.ofNat (0x30 + d)).toNat - 0x30 = d := by
  interval_cases d <;> decide

theorem decimal_ne_nil (n : Nat) : decimal n ≠ [] := by
  rw [decimal]; split <;> simp

theorem decimal_digits (n : Nat) : ∀ b ∈ decimal n, 0x30 ≤ b ∧ b ≤ 0x39 := by
  induction n using decimal.induct with
  | case1 n h =>
    rw [decimal, if_pos h]
    rintro b (_ | ⟨_, ⟨⟩⟩)
    exact (digitByte h).1
  | case2 n h ih =>
    rw [decimal, if_neg h]
    rintro b hb
    rcases List.mem_append.mp hb with hb | (_ | ⟨_, ⟨⟩⟩)
    · exact ih b hb
    · exact (digitByte (Nat.mod_lt n (by omega))).1

theorem decimal_value (n : Nat) :
    (decimal n).foldl (fun acc b => 10 * acc + (b.toNat - 0x30)) 0 = n := by
  induction n using decimal.induct with
  | case1 n h => rw [decimal, if_pos h, List.foldl_cons, List.foldl_nil, (digitByte h).2]; omega
  | case2 n h ih =>
    rw [decimal, if_neg h, List.foldl_append, ih, List.foldl_cons, List.foldl_nil,
      (digitByte (Nat.mod_lt n (by omega))).2]
    omega

/-- `parse_bytes` reads back the decimal text of every value of `uint`. -/
theorem parseUint_decimal {n : Nat} (h : n < 2 ^ 64) : parseUint (decimal n) = some n := by
  have hall : (decimal n).all (fun b => 0x30 ≤ b ∧ b ≤ 0x39) := by
    simpa using decimal_digits n
  rw [parseUint, if_pos ⟨decimal_ne_nil n, hall⟩]
  simp only [decimal_value, if_pos h]

example : decimal 1024 = [0x31, 0x30, 0x32, 0x34] := by simp [decimal]

/-! ## `get_system_var` -/

section SystemVar

variable {fs : FileSystem} {sql : List UInt8} {rs : ResultSet} {rest : List UInt8} {c : MyConn}

theorem readLenencInt_count (rs : ResultSet) (h : rs.columns.length < 2 ^ 64) :
    Reader.parse (writeLenencInt rs.columns.length) readLenencInt = .ok rs.columns.length := by
  have := readLenencInt_writeLenencInt h []
  rw [List.append_nil] at this
  simp only [Reader.parse_def, this]

/-- `query` answered by a result set returns it open at its first row, after reading the column
count, the definitions and the EOF after them. -/
theorem query_resultSet
    (hfit : ¬((comQuery :: sql).length > c.maxAllowedPacket ∧ c.maxAllowedPacket < maxPayloadLen))
    (hwf : rs.WellFormed comQuery false)
    (hin : c.inbound = packetStream rs.packets (nextSeq (comQuery :: sql) 0) ++ rest) :
    let c₁ : MyConn := { c with
      outbound := c.outbound ++ frames (packetChunks (comQuery :: sql)) 0
      seqId := nextSeq (comQuery :: sql) 0
      lastCommand := comQuery }
    query fs sql c = (.ok (some ⟨rs.columns.map Prod.snd, false, false⟩),
      c₁.took (writeLenencInt rs.columns.length ::
        (rs.columns.map Prod.fst ++ [rs.columnsEof.toPayload]))
        (rs.rows.map Prod.fst ++ [rs.last.payload]) rest) := by
  intro c₁
  obtain ⟨b, t, hw, h0, hfb, hff⟩ := writeLenencInt_count_head hwf.columns_pos
  have hal : Aligned (writeLenencInt rs.columns.length :: rs.packets.tail) rest c₁ := hin
  have hr := readPacket_aligned hal
  rw [hw] at hr
  have hq : query fs sql c = queryResponse fs c₁ := query_of_sent (writeCommandData_spec hfit)
  rw [hq, queryResponse_count hr h0 hfb hff, ← hw,
    readResultSet_aligned (c := c₁.took [_] rs.packets.tail rest)
      (readLenencInt_count rs hwf.columns_lt) hwf.columns_decode (took_aligned _ _ _ _)]
  have htail : rs.packets.tail = (rs.columns.map Prod.fst ++ [rs.columnsEof.toPayload]) ++
      (rs.rows.map Prod.fst ++ [rs.last.payload]) := by simp [ResultSet.packets]
  rw [htail, took_took]
  rfl

/-- `get_system_var` answered by a result set returns the first value of its first row, and
leaves the connection as after reading the whole set: the rows after the first are drained, and
the packet that ends the set acts on the connection. -/
theorem getSystemVar_resultSet {name : List UInt8} {row : List UInt8 × List Value}
    {rows : List (List UInt8 × List Value)}
    (hfit : ¬((comQuery :: (ascii "SELECT @@" ++ name ++ ascii ";")).length > c.maxAllowedPacket ∧
      c.maxAllowedPacket < maxPayloadLen))
    (hwf : rs.WellFormed comQuery false) (hrows : rs.rows = row :: rows)
    (hin : c.inbound =
      packetStream rs.packets (nextSeq (comQuery :: (ascii "SELECT @@" ++ name ++ ascii ";")) 0) ++
        rest) :
    let c₁ : MyConn := { c with
      outbound := c.outbound ++
        frames (packetChunks (comQuery :: (ascii "SELECT @@" ++ name ++ ascii ";"))) 0
      seqId := nextSeq (comQuery :: (ascii "SELECT @@" ++ name ++ ascii ";")) 0
      lastCommand := comQuery }
    getSystemVar fs name c = (.ok row.2.head?, (c₁.took rs.packets [] rest).afterEnd rs.last) := by
  intro c₁
  let r : QueryResult := ⟨rs.columns.map Prod.snd, false, false⟩
  have hrow : ∀ x ∈ rs.rows, r.RowPacket x.1 x.2 := fun x hx => (hwf.rows x hx).rowPacket
  rw [hrows] at hrow
  have hq := @query_resultSet fs _ rs rest c hfit hwf hin
  simp only [hrows, List.map_cons, List.cons_append] at hq
  simp only [getSystemVar, catchErr, Act.bind_apply, hq]
  -- the first row, then `drop` drains the others and the packet that ends the set
  rw [next_of_read_ok rfl (readPacket_aligned (took_aligned _ _ _ _)), hrow row (.head _)]
  simp only [QueryResult.drop, Act.bind_apply]
  rw [drain_rows (r := r) rfl (fun x hx => hrow x (.tail _ hx)) (nextOfPayload_setEnd hwf.last)
    (took_aligned _ _ _ _), took_took_nil, List.singleton_append, took_took_nil]
  simp only [ResultSet.packets, hrows, List.map_cons, List.cons_append, List.singleton_append,
    pure, Act.pure_apply, List.append_assoc (rs.columns.map Prod.fst)]
  rfl

end SystemVar

/-! ## The handshake -/

section Handshake

variable (scramble : List UInt8 → List UInt8 → Option (List UInt8))

/-- With a scramble, and names short enough, `do_handshake_response` writes its answer in one
frame: nothing moves but the output and the sequence id, which goes up by one. -/
theorem doHandshakeResponse_one_frame {hp : HandshakePacket} {buf : List UInt8} {c : MyConn}
    (hbuf : scramble hp.authPluginData c.opts.getPass = some buf)
    (hmax : c.maxAllowedPacket = maxPayloadLen)
    (hlen : c.opts.getUser.length + buf.length + c.opts.getDbName.length < maxPayloadLen - 40) :
    ∃ o, doHandshakeResponse scramble hp c =
      (.ok (), { c with outbound := o, seqId := c.seqId + 1 }) := by
  simp only [doHandshakeResponse, Act.bind_apply, Act.get_apply, hbuf, Act.pure_apply]
  rw [writePacket_spec (by simp [hmax]), Nat.div_eq_of_lt]
  · exact ⟨_, rfl⟩
  · split <;> simp [maxPayloadLen_eq] at hlen ⊢ <;> omega

/-- A greeting of protocol 10 with `CLIENT_PROTOCOL_41`, then an OK numbered after the client's
answer: `do_handshake` takes the server's flags and connection id, reads the OK, and stops after
it. -/
theorem doHandshake_ok {h : HandshakeV10} {buf : List UInt8} {ok : OkPacket} {rest : List UInt8}
    {c : MyConn} (hwf : h.WellFormed) (hv : h.protocolVersion = 10)
    (h41 : h.capabilityFlags &&& clientProtocol41 ≠ 0) (hgl : h.payload.length < maxPayloadLen)
    (hscr : scramble h.parsed.authPluginData c.opts.getPass = some buf)
    (hlen : c.opts.getUser.length + buf.length + c.opts.getDbName.length < maxPayloadLen - 40)
    (hmax : c.maxAllowedPacket = maxPayloadLen)
    (hin : c.inbound =
      packetStream [h.payload] c.seqId ++ packetStream [ok.toPayload] (c.seqId + 2) ++ rest) :
    ∃ c', doHandshake scramble c = (.ok (), c') ∧ c'.inbound = rest ∧
      c'.maxAllowedPacket = c.maxAllowedPacket ∧ c'.connected = c.connected ∧
      c'.capabilityFlags = h.capabilityFlags ∧ c'.connectionId = h.connectionId ∧
      c'.statusFlags = ok.statusFlags ∧ c'.affectedRows = ok.affectedRows ∧
      c'.lastInsertId = ok.lastInsertId := by
  have hp : HandshakePacket.fromPayload h.payload = .ok h.parsed := by
    cases hs : h.tail
    exacts [fromPayload_short hwf hs, fromPayload_long hwf hs]
  simp only [packetStream, List.append_nil, List.append_assoc] at hin
  have hr1 := readPacket_frames _ _ c hin
  rw [Nat.div_eq_of_lt hgl] at hr1
  -- the connection after the greeting, as `handle_handshake` leaves it
  let c₁ : MyConn := { c with
    inbound := frames (packetChunks ok.toPayload) (c.seqId + 2) ++ rest
    seqId := c.seqId + UInt8.ofNat (0 + 1)
    capabilityFlags := h.capabilityFlags
    statusFlags := h.parsed.statusFlags
    connectionId := h.parsed.connectionId
    characterSet := h.parsed.characterSet }
  obtain ⟨o, hw⟩ := @doHandshakeResponse_one_frame scramble h.parsed buf c₁ hscr hmax hlen
  have hr2 := readPacket_frames ok.toPayload rest { c₁ with outbound := o, seqId := c₁.seqId + 1 }
    (by simp only [c₁, add_assoc]; rfl)
  simp only [doHandshake, Act.bind_apply, hr1, tryIoFault, hp, Except.mapError,
    Act.ofExcept_apply, HandshakeV10.parsed_protocolVersion, hv,
    HandshakeV10.parsed_capabilityFlags, h41, ne_eq, not_true_eq_false, not_false_eq_true,
    if_false, handleHandshake, Act.modify_apply]
  rw [hw]
  simp only [hr2, firstByte_of_eq (show ok.toPayload = 0 :: _ from rfl), Act.pure_apply, if_true,
    receiveOk_toPayload]
  exact ⟨_, rfl, rfl, rfl, rfl, rfl, HandshakeV10.parsed_connectionId h, rfl, rfl, rfl⟩

end Handshake

/-! ## `connect` -/

section Connect

variable (fs : FileSystem) (scramble : List UInt8 → List UInt8 → Option (List UInt8))

theorem nextSeq_maxAllowedPacket :
    nextSeq (comQuery :: (ascii "SELECT @@" ++ ascii "max_allowed_packet" ++ ascii ";")) 0 = 1 := by
  decide

/-- `connect` on a record not yet connected, after a handshake that returned and a
`@@max_allowed_packet` that came back as the decimal text of a `uint` other than `0`. -/
theorem connect_of_parts {c c₁ c₂ : MyConn} {n : Nat} (hc : c.connected = false)
    (hh : doHandshake scramble c = (.ok (), c₁))
    (hg : getSystemVar fs (ascii "max_allowed_packet") c₁ = (.ok (some (.Bytes (decimal n))), c₂))
    (hn : 0 < n) (hn64 : n < 2 ^ 64) :
    connect fs scramble c = (.ok (), { c₂ with maxAllowedPacket := n, connected := true }) := by
  simp only [connect, Act.bind_apply, Act.get_apply, Act.ite_apply, hc, Bool.false_eq_true,
    if_false, Act.pure_bind_apply, hh, hg, Value.unwrapBytesOr, parseUint_decimal hn64,
    Option.getD_some, Nat.pos_iff_ne_zero.mp hn, Act.modify_apply]

/-- Against a server that greets with protocol 10 and `CLIENT_PROTOCOL_41`, accepts the client's
answer with an OK, and answers `SELECT @@max_allowed_packet;` with a result set whose first value
is the decimal text of `n`, `connect` succeeds: the connection is marked connected with
`max_allowed_packet = n`, the server's flags and connection id, and the status flags of the end
of the result set, and it has read exactly the server's packets. -/
theorem connect_learns_max_allowed_packet {opts : MyOpts} {h : HandshakeV10} {buf : List UInt8}
    {ok : OkPacket} {rs : ResultSet} {row : List UInt8 × List Value}
    {rows : List (List UInt8 × List Value)} {n : Nat} (rest : List UInt8)
    (hwf : h.WellFormed) (hv : h.protocolVersion = 10)
    (h41 : h.capabilityFlags &&& clientProtocol41 ≠ 0) (hgl : h.payload.length < maxPayloadLen)
    (hscr : scramble h.parsed.authPluginData opts.getPass = some buf)
    (hlen : opts.getUser.length + buf.length + opts.getDbName.length < maxPayloadLen - 40)
    (hrs : rs.WellFormed comQuery false) (hrows : rs.rows = row :: rows)
    (hval : row.2.head? = some (.Bytes (decimal n))) (hn : 0 < n) (hn64 : n < 2 ^ 64) :
    ∃ c', connect fs scramble (MyConn.init opts (packetStream [h.payload] 0 ++
        packetStream [ok.toPayload] 2 ++ packetStream rs.packets 1 ++ rest)) = (.ok (), c') ∧
      c'.connected = true ∧ c'.maxAllowedPacket = n ∧ c'.inbound = rest ∧
      c'.capabilityFlags = h.capabilityFlags ∧ c'.connectionId = h.connectionId ∧
      c'.statusFlags = rs.last.status ok.statusFlags := by
  obtain ⟨c₁, hh, hin₁, hmax₁, -, hcap₁, hid₁, hst₁, -⟩ :=
    @doHandshake_ok scramble h buf ok (packetStream rs.packets 1 ++ rest)
      (MyConn.init opts (packetStream [h.payload] 0 ++
        packetStream [ok.toPayload] 2 ++ packetStream rs.packets 1 ++ rest)) hwf hv h41 hgl hscr
      hlen rfl (List.append_assoc _ _ _)
  have hg := @getSystemVar_resultSet fs rs rest c₁ (ascii "max_allowed_packet") row rows
    (by rw [hmax₁]; exact fun h => absurd h.2 (lt_irrefl _)) hrs hrows
    (by rw [hin₁, nextSeq_maxAllowedPacket])
  rw [hval] at hg
  refine ⟨_, connect_of_parts fs scramble rfl hh hg hn hn64, rfl, rfl, ?_⟩
  simp [afterEnd_eq, MyConn.took, packetStream, hcap₁, hid₁, hst₁]

/-! ## A server that follows the protocol -/

/-- A short greeting with `CLIENT_PROTOCOL_41` only. -/
def sampleGreeting : HandshakeV10 := ⟨10, [0x35], 1, [1, 2, 3, 4, 5, 6, 7, 8], 0, 0x0200, none⟩

/-- A `BIGINT` column named `m`. -/
def sampleColumn : Column := ⟨[], [], [], [], [0x6d], [], [], 20, 63, 0, 8, 0⟩

/-- The answer to `SELECT @@max_allowed_packet;`: one row holding `1024`. -/
def sampleResultSet : ResultSet :=
  ⟨[(sampleColumn.toPayload comQuery, sampleColumn)], ⟨0, 2⟩,
    [(textRow [some (decimal 1024)], [.Bytes (decimal 1024)])], .eof ⟨0, 2⟩⟩

/-- The OK that accepts the client's answer. -/
def sampleOk : OkPacket := ⟨0, 0, 2, 0, []⟩

/-- A scramble of 20 bytes, whatever the password. -/
def sampleScramble : List UInt8 → List UInt8 → Option (List UInt8) :=
  fun _ _ => some (List.replicate 20 1)

/-- What the server sends over a whole `connect`. -/
def sampleStream : List UInt8 :=
  packetStream [sampleGreeting.payload] 0 ++ packetStream [sampleOk.toPayload] 2 ++
    packetStream sampleResultSet.packets 1

theorem sampleGreeting_wellFormed : sampleGreeting.WellFormed :=
  ⟨by decide, rfl, fun _ ht => (nomatch ht), fun _ ht => (nomatch ht)⟩

theorem sampleResultSet_wellFormed : sampleResultSet.WellFormed comQuery false := by
  have hcol : Column.fromPayload comQuery (sampleColumn.toPayload comQuery) = .ok sampleColumn := by
    decide
  have hfit : CellsFit [some (decimal 1024)] := fun x hx => by
    simp only [List.mem_singleton, Option.some.injEq] at hx
    subst hx; simp [decimal]
  refine ⟨by decide, by decide, fun x hx => ?_, fun x hx => ?_, trivial⟩
  · simp only [sampleResultSet, List.mem_singleton] at hx; subst hx; exact hcol
  · simp only [sampleResultSet, List.mem_singleton] at hx; subst hx
    exact ⟨_, List.cons_ne_nil _ _, hfit, rfl⟩

/-- The sample server, on a new record with the default options. -/
theorem connect_learns_max_allowed_packet_1024 :
    sampleGreeting.WellFormed ∧ sampleGreeting.capabilityFlags &&& clientProtocol41 ≠ 0 ∧
      sampleGreeting.payload.length < maxPayloadLen ∧
      sampleResultSet.WellFormed comQuery false ∧
      ∃ c', connect (fun _ => .ok []) sampleScramble (MyConn.init MyOpts.default
          (packetStream [sampleGreeting.payload] 0 ++ packetStream [sampleOk.toPayload] 2 ++
            packetStream sampleResultSet.packets 1 ++ [])) = (.ok (), c') ∧
        c'.connected = true ∧ c'.maxAllowedPacket = 1024 ∧ c'.inbound = [] ∧
        c'.capabilityFlags = sampleGreeting.capabilityFlags ∧
        c'.connectionId = sampleGreeting.connectionId ∧
        c'.statusFlags = sampleResultSet.last.status sampleOk.statusFlags := by
  have h41 : sampleGreeting.capabilityFlags &&& clientProtocol41 ≠ 0 := by decide
  have hgl : sampleGreeting.payload.length < maxPayloadLen := by decide
  exact ⟨sampleGreeting_wellFormed, h41, hgl, sampleResultSet_wellFormed,
    connect_learns_max_allowed_packet _ sampleScramble [] sampleGreeting_wellFormed rfl h41 hgl
      rfl (by decide) sampleResultSet_wellFormed rfl rfl (by decide) (by decide)⟩

/-! ## What `MyConn::new` hands out -/

/-- Connected, with a packet limit that `parse_bytes` can give and that is not `0`. -/
def MyConn.Live (c : MyConn) : Prop :=
  c.connected = true ∧ 0 < c.maxAllowedPacket ∧ c.maxAllowedPacket < 2 ^ 64

theorem live_readStable : ReadStable MyConn.Live := fun _ _ _ _ h => h

theorem live_writeStable : WriteStable MyConn.Live := fun _ _ _ _ h => h

theorem receiveOk_keeps_live (pld : List UInt8) : Act.Preserves MyConn.Live (receiveOk pld) :=
  receiveOk_preserves (fun _ _ h => h) pld

theorem parseUint_lt {buf : List UInt8} {v : Nat} (h : parseUint buf = some v) : v < 2 ^ 64 := by
  simp only [parseUint] at h
  split_ifs at h with h1 h2
  exact Option.some.inj h ▸ h2

/-- `connect` on a record not yet connected, whenever it returns, has marked it connected with a
packet limit that `parse_bytes` gave and that is not `0`. -/
theorem connect_makes_live {c c' : MyConn} (hc : c.connected = false)
    (h : connect fs scramble c = (.ok (), c')) : c'.Live := by
  simp only [connect, Act.bind_apply, Act.get_apply, Act.ite_apply, hc, Bool.false_eq_true,
    if_false, Act.pure_bind_apply] at h
  -- the handshake and the query returned, and the limit passed the test against `0`
  split at h
  · split at h
    · split at h
      · simp at h
      · rename_i hv
        cases h
        rcases hp : parseUint _ with _ | v
        · simp [hp] at hv
        · simp only [hp, Option.getD_some] at hv ⊢
          exact ⟨rfl, Nat.pos_of_ne_zero hv, parseUint_lt hp⟩
    · cases h
  · cases h

/-- With a UNIX socket in the options, `MyConn::new` returns what `connect` returns over it. -/
theorem new_of_unix {net : Network} {opts : MyOpts} {path inbound : List UInt8} {conn : MyConn}
    (hu : opts.unixAddr = some path) (hn : net.unix path = some inbound)
    (hc : connect fs scramble (MyConn.init opts inbound) = (.ok (), conn)) :
    MyConn.new fs scramble net opts = .ok conn := by
  simp only [MyConn.new, hu, MyConn.newUnix, hn, hc]

/-- Whatever the network, the options and the servers do, a connection that `MyConn::new` returns
is connected, with a `max_allowed_packet` that is not `0` and fits a `uint`: over TCP, over the
UNIX socket, and after moving from one to the other. -/
theorem new_returns_connected {net : Network} {opts : MyOpts} {conn : MyConn}
    (h : MyConn.new fs scramble net opts = .ok conn) :
    conn.connected = true ∧ 0 < conn.maxAllowedPacket ∧ conn.maxAllowedPacket < 2 ^ 64 :=
  new_of_connect fs scramble net live_readStable live_writeStable.writesKeep receiveOk_keeps_live
    (fun _ _ _ h => connect_makes_live fs scramble rfl h) h

/-- `MyConn::new` over a UNIX socket to the sample server returns. -/
theorem new_sample_returns :
    ∃ conn, MyConn.new (fun _ => .ok []) sampleScramble ⟨fun _ => none, fun _ => some sampleStream⟩
      { MyOpts.default with unixAddr := some [0x73] } = .ok conn := by
  obtain ⟨c₁, hh, hin₁, hmax₁, -⟩ := @doHandshake_ok sampleScramble sampleGreeting
    (List.replicate 20 1) sampleOk (packetStream sampleResultSet.packets 1)
    (MyConn.init { MyOpts.default with unixAddr := some [0x73] } sampleStream)
    sampleGreeting_wellFormed rfl (by decide) (by decide) rfl (by decide) rfl rfl
  have hg := @getSystemVar_resultSet (fun _ => .ok []) sampleResultSet [] c₁
    (ascii "max_allowed_packet") _ [] (by rw [hmax₁]; exact fun h => absurd h.2 (lt_irrefl _))
    sampleResultSet_wellFormed rfl (by rw [hin₁, nextSeq_maxAllowedPacket, List.append_nil])
  exact ⟨_, new_of_unix (fun _ => .ok []) sampleScramble rfl rfl
    (connect_of_parts (fun _ => .ok []) sampleScramble rfl hh hg (by decide) (by decide))⟩

/-- The sample server behind a UNIX socket. -/
theorem new_returns_connected_sample :
    let opts : MyOpts := { MyOpts.default with unixAddr := some [0x73] }
    ∃ conn, MyConn.new (fun _ => .ok []) sampleScramble ⟨fun _ => none, fun _ => some sampleStream⟩
        opts = .ok conn ∧
      (conn.connected = true ∧ 0 < conn.maxAllowedPacket ∧ conn.maxAllowedPacket < 2 ^ 64) := by
  obtain ⟨conn, hnew⟩ := new_sample_returns
  exact ⟨_, hnew, new_returns_connected _ _ hnew⟩

/-- `connect` on a connected record returns at once and changes nothing. -/
theorem connect_of_connected {c : MyConn} (h : c.connected = true) :
    connect fs scramble c = (.ok (), c) := by
  simp [connect, h]

/-- A connection that `MyConn::new` returned stays connected along every run of calls, with
the `max_allowed_packet` it learned, whatever the servers send and however each call ends: no
method disconnects it or resets the limit, and `connect` on it does nothing. -/
theorem new_stays_connected {net : Network} {opts : MyOpts} {conn : MyConn}
    (h : MyConn.new fs scramble net opts = .ok conn) (ops : List Op) :
    (runOps fs scramble ops conn).connected = true ∧
      (runOps fs scramble ops conn).maxAllowedPacket = conn.maxAllowedPacket := by
  let P : MyConn → Prop := fun d => d.connected = true ∧ d.maxAllowedPacket = conn.maxAllowedPacket
  have hO : ∀ pld, Act.Preserves P (receiveOk pld) := receiveOk_preserves fun _ _ h => h
  have hC : Act.Preserves P (connect fs scramble) :=
    ⟨fun c h => by rw [connect_of_connected fs scramble h.1]; exact h⟩
  have hlive : conn.Live := new_of_connect fs scramble net live_readStable
    live_writeStable.writesKeep receiveOk_keeps_live
    (fun _ _ _ h => connect_makes_live fs scramble rfl h) h
  exact runOps_preserves fs scramble (P := P) (fun _ _ _ _ h => h)
    (WriteStable.writesKeep fun _ _ _ _ h => h) hO hC ops ⟨hlive.1, rfl⟩

/-- The sample server, then `connect` again and a query that finds the stream at its end. -/
theorem new_stays_connected_sample :
    let opts : MyOpts := { MyOpts.default with unixAddr := some [0x73] }
    ∃ conn, MyConn.new (fun _ => .ok []) sampleScramble ⟨fun _ => none, fun _ => some sampleStream⟩
        opts = .ok conn ∧
      ((runOps (fun _ => .ok []) sampleScramble [.connect, .query [0x55]] conn).connected = true ∧
        (runOps (fun _ => .ok []) sampleScramble [.connect, .query [0x55]] conn).maxAllowedPacket =
          conn.maxAllowedPacket) := by
  obtain ⟨conn, hnew⟩ := new_sample_returns
  exact ⟨_, hnew, new_stays_connected _ _ hnew _⟩

end Connect

/-! ## What the client writes -/

section Output

variable (fs : FileSystem) (scramble : List UInt8 → List UInt8 → Option (List UInt8))

/-- `write_packet` writes the whole frames of its payload or, refusing it, nothing. -/
theorem writePacket_appends_packet (o : List UInt8) (data : List UInt8) :
    Act.Preserves (fun c : MyConn => ∃ ps, c.outbound = o ++ packetFrames ps) (writePacket data) :=
  ⟨fun c ⟨ps, h⟩ => by
    by_cases hbig : data.length > c.maxAllowedPacket ∧ c.maxAllowedPacket < maxPayloadLen
    · rw [writePacket_too_large hbig]; exact ⟨ps, h⟩
    · rw [writePacket_spec hbig]
      exact ⟨ps ++ [(data, c.seqId)], by
        rw [h, packetFrames_append, packetFrames, packetFrames, List.append_nil,
          List.append_assoc]⟩⟩

/-- Whatever the state of the connection and whatever the servers send, a run of calls only
appends whole packets to the output, each in its frames of at most `MAX_PAYLOAD_LEN` bytes, also
when a call fails or panics: no method stops inside a packet. -/
theorem runOps_writes_whole_packets (ops : List Op) (c : MyConn) :
    ∃ ps, (runOps fs scramble ops c).outbound = c.outbound ++ packetFrames ps := by
  let P : MyConn → Prop := fun d => ∃ ps, d.outbound = c.outbound ++ packetFrames ps
  have hW : WritesKeep P := ⟨writePacket_appends_packet c.outbound, fun _ _ _ h => h⟩
  have hO : ∀ pld, Act.Preserves P (receiveOk pld) := receiveOk_preserves fun _ _ h => h
  exact runOps_preserves fs scramble (fun _ _ _ _ h => h) hW hO
    (connect_preserves fs scramble (fun _ _ _ _ h => h) hW hO
      ⟨fun _ _ _ _ _ h => h, fun _ _ h => h⟩)
    ops ⟨[], (List.append_nil _).symm⟩

end Output

end MysqlSimple
