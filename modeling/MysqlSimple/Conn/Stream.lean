import MysqlSimple.Conn.Command
import MysqlSimple.Value.TextRow

/-!
# Reading a response packet by packet

A server response is a list of packets, numbered on from the sequence id the client's command
left. `Aligned ps rest c` says that the unread input of `c` is exactly those packets, then
`rest`; every reading method of the connection keeps that shape, one packet further on. This
module gives the step lemmas, one per kind of packet `QueryResult::next` can meet, and from
them what `drop` reads of a whole result set (`drain_rows`). Whatever the stream holds, well
formed or not, `drop` passes over rows and then at most one error (`drain_rows_then_error`):
the `eof` flag that `next` sets on every item but a row keeps an error from repeating.
-/

namespace MysqlSimple

/-! ## Packets in sequence -/

/-- The sequence id after a packet sent from `s`: one per frame. -/
def nextSeq (p : List UInt8) (s : UInt8) : UInt8 :=
  s + UInt8.ofNat (p.length / maxPayloadLen + 1)

/-- Packets sent one after another from sequence id `s`, each in its frames. -/
def packetStream : List (List UInt8) → UInt8 → List UInt8
  | [], _ => []
  | p :: ps, s => frames (packetChunks p) s ++ packetStream ps (nextSeq p s)

/-- The unread input is the packets `ps`, numbered from the connection's sequence id, then
`rest`. -/
def Aligned (ps : List (List UInt8)) (rest : List UInt8) (c : MyConn) : Prop :=
  c.inbound = packetStream ps c.seqId ++ rest

/-- The sequence id after the packets `ps` sent from `s`. -/
def endSeq (ps : List (List UInt8)) (s : UInt8) : UInt8 :=
  ps.foldl (fun s p => nextSeq p s) s

theorem packetStream_append (ps qs : List (List UInt8)) (s : UInt8) :
    packetStream (ps ++ qs) s = packetStream ps s ++ packetStream qs (endSeq ps s) := by
  induction ps generalizing s with
  | nil => rfl
  | cons p ps ih =>
    rw [List.cons_append, packetStream, packetStream, ih, List.append_assoc]; rfl

/-- The connection after it read the packets `ps` of an aligned stream, with `more` and `rest`
still to come. Nothing but the unread input and the sequence id has moved. -/
def MyConn.took (c : MyConn) (ps more : List (List UInt8)) (rest : List UInt8) : MyConn :=
  { c with inbound := packetStream more (endSeq ps c.seqId) ++ rest, seqId := endSeq ps c.seqId }

@[simp] theorem took_inbound_nil (c : MyConn) (ps : List (List UInt8)) (rest : List UInt8) :
    (c.took ps [] rest).inbound = rest := rfl

@[simp] theorem took_statusFlags (c : MyConn) (ps more : List (List UInt8)) (rest : List UInt8) :
    (c.took ps more rest).statusFlags = c.statusFlags := rfl

@[simp] theorem took_lastCommand (c : MyConn) (ps more : List (List UInt8)) (rest : List UInt8) :
    (c.took ps more rest).lastCommand = c.lastCommand := rfl

theorem took_aligned (c : MyConn) (ps more : List (List UInt8)) (rest : List UInt8) :
    Aligned more rest (c.took ps more rest) := rfl

theorem took_nil {more : List (List UInt8)} {rest : List UInt8} {c : MyConn}
    (h : Aligned more rest c) : c.took [] more rest = c := by
  show { c with inbound := packetStream more c.seqId ++ rest, seqId := c.seqId } = c
  rw [← h]

theorem took_took (c : MyConn) (ps qs more : List (List UInt8)) (rest : List UInt8) :
    (c.took ps (qs ++ more) rest).took qs more rest = c.took (ps ++ qs) more rest := by
  simp only [MyConn.took, endSeq, List.foldl_append]

theorem took_took_nil (c : MyConn) (ps qs : List (List UInt8)) (rest : List UInt8) :
    (c.took ps qs rest).took qs [] rest = c.took (ps ++ qs) [] rest := by
  simpa using took_took c ps qs [] rest

theorem readPacket_aligned {p : List UInt8} {ps : List (List UInt8)} {rest : List UInt8}
    {c : MyConn} (h : Aligned (p :: ps) rest c) :
    readPacket c = (.ok p, c.took [p] ps rest) := by
  rw [readPacket_frames p (packetStream ps (nextSeq p c.seqId) ++ rest) c
    (by rw [h, packetStream, List.append_assoc])]
  rfl

/-! ## Column definitions -/

/-- Each payload decodes, for the command `cmd`, to the column it is paired with. -/
def ColumnsDecode (cmd : UInt8) (cols : List (List UInt8 × Column)) : Prop :=
  ∀ col ∈ cols, Column.fromPayload cmd col.1 = .ok col.2

theorem readColumns_aligned {cols : List (List UInt8 × Column)} {more : List (List UInt8)}
    {rest : List UInt8} {c : MyConn} (hcols : ColumnsDecode c.lastCommand cols)
    (h : Aligned (cols.map Prod.fst ++ more) rest c) :
    readColumns cols.length c =
      (.ok (cols.map Prod.snd), c.took (cols.map Prod.fst) more rest) := by
  induction cols generalizing c with
  | nil =>
    simp only [List.map_nil, List.nil_append] at h ⊢
    rw [took_nil h]; rfl
  | cons col cols ih =>
    have hr := ih (c := c.took [col.1] (cols.map Prod.fst ++ more) rest)
      (fun x hx => hcols x (.tail _ hx)) (took_aligned _ _ _ _)
    rw [took_took] at hr
    simp only [List.map_cons, List.cons_append] at h
    simp only [List.length_cons, readColumns, Act.bind_apply, readPacket_aligned h, Act.get_apply,
      tryIo, Act.ofExcept_apply, Except.mapError]
    simp only [took_lastCommand, hcols col (.head _),
      Except.map, hr, Act.pure_apply, List.map_cons, List.singleton_append]

/-- The result-set header arm of `query` and `execute`: the column count, that many definitions,
and the EOF after them. -/
theorem readResultSet_aligned {pld : List UInt8} {isBin : Bool} {cols : List (List UInt8 × Column)}
    {eofPld : List UInt8} {more : List (List UInt8)} {rest : List UInt8} {c : MyConn}
    (hcount : Reader.parse pld readLenencInt = .ok cols.length)
    (hcols : ColumnsDecode c.lastCommand cols)
    (h : Aligned (cols.map Prod.fst ++ eofPld :: more) rest c) :
    readResultSet pld isBin c =
      (.ok (some ⟨cols.map Prod.snd, false, isBin⟩),
        c.took (cols.map Prod.fst ++ [eofPld]) more rest) := by
  have hr := readColumns_aligned hcols h
  simp only [readResultSet, tryIo, hcount, Except.mapError, Act.bind_apply, Act.ofExcept_apply, hr,
    readPacket_aligned (took_aligned _ _ _ _), Act.pure_apply]
  exact congrArg (Prod.mk _) (took_took c _ [eofPld] more rest)

/-! ## One packet of a result set -/

/-- `pld` is a row of `r` standing for `vs`: `next` yields it and leaves the connection as it
was. -/
def QueryResult.RowPacket (r : QueryResult) (pld : List UInt8) (vs : List Value) : Prop :=
  ∀ c, r.nextOfPayload pld c = (.ok (some (.ok vs), r), c)

/-- The item an ERR packet ends a text result set with. An ERR payload of `0xFE` bytes or more
fails the length test of `next` and is read as a row, whose first cell `0xFF` is no
length-encoded integer. -/
def errItem (e : ErrPacket) : MyResult (List Value) :=
  if e.toPayload.length < 0xfe then .error (.MySqlError e) else .error (.MyIoError .InvalidInput)

theorem rowPacket_text {r : QueryResult} {cells : List (Option (List UInt8))}
    (hb : r.isBin = false) (hne : cells ≠ []) (hfit : CellsFit cells) :
    r.RowPacket (textRow cells) (cells.map cellValue) := fun c => by
  obtain ⟨b, rest, hrow, hnt⟩ := textRow_not_terminator hne
  have hv := fromPayload_textRow hfit
  rw [hrow] at hv ⊢
  simp only [List.length_cons] at hnt
  simp [QueryResult.nextOfPayload, firstByte, hb, hnt, hv]

/-- A text row of one cell or more decodes back to its cells, and `next` on an open text result
set reads exactly its packet and yields it as a row. -/
theorem text_rows_decode_to_cells {r : QueryResult} {cells : List (Option (List UInt8))}
    (hb : r.isBin = false) (he : r.eof = false) (hne : cells ≠ []) (hfit : CellsFit cells)
    {rest : List UInt8} {c : MyConn} (h : Aligned [textRow cells] rest c) :
    Value.fromPayload (textRow cells) = .ok (cells.map cellValue) ∧
      r.next c = (.ok (some (.ok (cells.map cellValue)), r), c.took [textRow cells] [] rest) :=
  ⟨fromPayload_textRow hfit,
    (next_of_read_ok he (readPacket_aligned h)).trans (rowPacket_text hb hne hfit _)⟩

/-- A row of the string `a` and a `NULL`, on a fresh connection. -/
theorem text_rows_decode_to_cells_a_null :
    let r : QueryResult := ⟨[], false, false⟩
    let cells : List (Option (List UInt8)) := [some [0x61], none]
    let c := MyConn.init MyOpts.default (packetStream [textRow cells] 0 ++ [])
    r.isBin = false ∧ r.eof = false ∧ cells ≠ [] ∧ CellsFit cells ∧
      Aligned [textRow cells] [] c ∧
      (Value.fromPayload (textRow cells) = .ok (cells.map cellValue) ∧
        r.next c = (.ok (some (.ok (cells.map cellValue)), r), c.took [textRow cells] [] [])) := by
  intro r cells c
  have hfit : CellsFit cells := fun x hx => by
    simp only [cells, List.mem_cons, Option.some.injEq, reduceCtorEq, List.mem_nil_iff,
      or_false] at hx
    subst hx; decide
  exact ⟨rfl, rfl, List.cons_ne_nil _ _, hfit, rfl,
    text_rows_decode_to_cells rfl rfl (List.cons_ne_nil _ _) hfit rfl⟩

/-- A row of no cells is the empty payload: on any open result set `next` reads it and panics at
its first byte (`*pld.get(0)`), in the text branch as in the binary one. -/
theorem next_panics_on_empty_row {r : QueryResult} (he : r.eof = false) {rest : List UInt8}
    {c : MyConn} (h : Aligned [textRow []] rest c) :
    r.next c = (.error (.panic "index out of bounds"), c.took [textRow []] [] rest) :=
  (next_of_read_ok he (readPacket_aligned h)).trans rfl

/-- The empty row on a fresh connection, in an open text result set. -/
theorem next_panics_on_empty_row_fresh :
    let r : QueryResult := ⟨[], false, false⟩
    let c := MyConn.init MyOpts.default (packetStream [textRow []] 0 ++ [])
    textRow [] = [] ∧ r.eof = false ∧ Aligned [textRow []] [] c ∧
      r.next c = (.error (.panic "index out of bounds"), c.took [textRow []] [] []) := by
  intro r c
  exact ⟨rfl, rfl, rfl, next_panics_on_empty_row rfl rfl⟩

theorem rowPacket_bin {r : QueryResult} {rest : List UInt8} {vs : List Value}
    (hb : r.isBin = true) (hv : Value.fromBinPayload readBinValue (0 :: rest) r.columns = .ok vs) :
    r.RowPacket (0 :: rest) vs := fun c => by
  simp [QueryResult.nextOfPayload, firstByte, hb, hv]

theorem nextOfPayload_eof (r : QueryResult) (q : EOFPacket) (c : MyConn) :
    r.nextOfPayload q.toPayload c =
      (.ok (none, { r with eof := true }), { c with statusFlags := q.statusFlags }) := by
  have h0 : q.toPayload = 0xfe :: (writeLeU16 q.warnings ++ writeLeU16 q.statusFlags) := rfl
  have hd := EOFPacket.fromPayload_toPayload q
  rw [h0] at hd ⊢
  cases hb : r.isBin <;> simp [QueryResult.nextOfPayload, firstByte, hb, handleEof, hd]

theorem fromPayload_ff (rest : List UInt8) :
    Value.fromPayload (0xff :: rest) = .error .InvalidInput := by
  have hr : readLenencBytes (0xff :: rest) = (.error .InvalidInput, rest) := by
    simp [readLenencBytes, readLenencInt]
  rw [Value.fromPayload, if_neg (by decide)]
  split <;> rename_i heq <;> rw [hr] at heq <;> simp_all

theorem nextOfPayload_err {r : QueryResult} (hb : r.isBin = false) {e : ErrPacket}
    (he : e.WellFormed) (c : MyConn) :
    r.nextOfPayload e.toPayload c = (.ok (some (errItem e), { r with eof := true }), c) := by
  obtain ⟨T, hT⟩ : ∃ T, e.toPayload = 0xff :: T := ⟨_, rfl⟩
  have hd := ErrPacket.fromPayload_toPayload he
  unfold errItem
  rw [hT] at hd ⊢
  by_cases hl : T.length + 1 < 0xfe
  · simp [QueryResult.nextOfPayload, firstByte, hb, hd, hl]
  · simp [QueryResult.nextOfPayload, firstByte, hb, hl, fromPayload_ff]

/-! ## A whole result set -/

/-- A closed result set gives nothing more and reads nothing. -/
theorem drain_of_eof {r : QueryResult} (h : r.eof = true) (c : MyConn) :
    r.drain c = (.ok ([], r), c) :=
  drain_of_none (next_of_eof h c)

theorem drop_of_eof {r : QueryResult} (h : r.eof = true) (c : MyConn) :
    r.drop c = (.ok (), c) := by
  simp only [QueryResult.drop, Act.bind_apply, drain_of_eof h]; rfl

/-- `drop` of a result set standing at its rows: one `Ok` item per row packet, in order, then the
item of the packet that ends the set, if any; the input is read exactly to the end of the set,
and only the packet that ends it acts on the connection (`f`). -/
theorem drain_rows {r : QueryResult} (hr : r.eof = false) {rows : List (List UInt8 × List Value)}
    (hrows : ∀ row ∈ rows, r.RowPacket row.1 row.2) {last : List UInt8}
    {item : Option (MyResult (List Value))} {f : MyConn → MyConn}
    (hend : ∀ c, r.nextOfPayload last c = (.ok (item, { r with eof := true }), f c))
    {rest : List UInt8} {c : MyConn} (h : Aligned (rows.map Prod.fst ++ [last]) rest c) :
    r.drain c = (.ok (rows.map (fun row => .ok row.2) ++ item.toList, { r with eof := true }),
      f (c.took (rows.map Prod.fst ++ [last]) [] rest)) := by
  induction rows generalizing c with
  | nil =>
    have hn := (next_of_read_ok hr (readPacket_aligned h)).trans (hend _)
    cases item with
    | none => exact drain_of_none hn
    | some x => exact drain_of_some hn (drain_of_eof rfl _)
  | cons row rows ih =>
    have hn := (next_of_read_ok hr (readPacket_aligned h)).trans (hrows row (.head _) _)
    have hd := ih (c := c.took [row.1] (rows.map Prod.fst ++ [last]) rest)
      (fun x hx => hrows x (.tail _ hx)) (took_aligned _ _ _ _)
    rw [took_took_nil] at hd
    exact drain_of_some hn hd

/-- Whatever the server sends, a `drop` that returns has run the set down to its end: the items
it passed over are rows, then at most one error, which is the last; the set is left closed, with
its columns and protocol as they were, so that a later `next` gives `None` without reading. -/
theorem drain_rows_then_error {r r'' : QueryResult} {c c'' : MyConn}
    {items : List (MyResult (List Value))} (h : r.drain c = (.ok (items, r''), c'')) :
    (∃ (rows : List (List Value)) (err : Option MyError),
      items = rows.map .ok ++ (err.map .error).toList) ∧ r'' = { r with eof := true } := by
  induction r, c using QueryResult.drain.induct generalizing items r'' c'' with
  | case1 r c item r' c' hn items' r₁ c₁ hd ih =>
    rw [drain_of_some hn hd, Prod.mk.injEq, Except.ok.injEq, Prod.mk.injEq] at h
    obtain ⟨⟨rfl, rfl⟩, rfl⟩ := h
    rcases next_ok_cases hn with ⟨row, hrow, rfl⟩ | ⟨hnot, rfl⟩
    · -- a row: the rest of the run is the rest of the set
      obtain ⟨⟨rows, err, rfl⟩, rfl⟩ := ih hd
      cases hrow
      exact ⟨⟨row :: rows, err, rfl⟩, rfl⟩
    · -- the set closed on an error item: nothing follows it
      rw [drain_of_eof rfl c', Prod.mk.injEq, Except.ok.injEq, Prod.mk.injEq] at hd
      obtain ⟨⟨rfl, rfl⟩, -⟩ := hd
      cases item with
      | ok row => exact absurd rfl (hnot row)
      | error e => exact ⟨⟨[], some e, rfl⟩, rfl⟩
  | case2 r c item r' c' hn e c₁ hd => rw [drain_error_of_some hn hd] at h; cases h
  | case3 r c r' c' hn =>
    rw [drain_of_none hn, Prod.mk.injEq, Except.ok.injEq, Prod.mk.injEq] at h
    obtain ⟨⟨rfl, rfl⟩, rfl⟩ := h
    rcases next_ok_cases hn with ⟨row, hrow, -⟩ | ⟨-, rfl⟩
    · cases hrow
    · exact ⟨⟨[], none, rfl⟩, rfl⟩
  | case4 r c e c' hn => rw [drain_of_error hn] at h; cases h

/-- A text result set of one row that the server ends with an ERR packet. -/
theorem drain_rows_then_error_row_err :
    let r : QueryResult := ⟨[], false, false⟩
    let e : ErrPacket := ⟨[0x34, 0x32, 0x30, 0x30, 0x30], [0x78], 1064⟩
    let cells : List (Option (List UInt8)) := [some [0x61]]
    let c := MyConn.init MyOpts.default (packetStream ([textRow cells] ++ [e.toPayload]) 0 ++ [])
    let items : List (MyResult (List Value)) := [.ok (cells.map cellValue), .error (.MySqlError e)]
    r.drain c = (.ok (items, { r with eof := true }),
        c.took ([textRow cells] ++ [e.toPayload]) [] []) ∧
      (∃ (rows : List (List Value)) (err : Option MyError),
        items = rows.map .ok ++ (err.map .error).toList) ∧
      ({ r with eof := true } : QueryResult) = { r with eof := true } := by
  intro r e cells c items
  have hfit : CellsFit cells := fun x hx => by
    simp only [cells, List.mem_singleton, Option.some.injEq] at hx
    subst hx; decide
  have hd : r.drain c = _ := @drain_rows r rfl [(textRow cells, cells.map cellValue)]
    (fun row hrow => by
      rw [List.mem_singleton] at hrow
      subst hrow; exact rowPacket_text rfl (List.cons_ne_nil _ _) hfit)
    _ _ _ (fun d => @nextOfPayload_err r rfl e rfl d) [] c rfl
  exact ⟨hd, drain_rows_then_error hd⟩

end MysqlSimple
