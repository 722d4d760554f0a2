import MysqlSimple.Conn.Framer

/-!
# Result sets: `QueryResult::next` and its `Drop` (`conn.rs:1275-1351`)

A `QueryResult` borrows the connection; here the connection is the receiver of its methods and
the record keeps the rest: the column definitions, the `eof` flag, and whether rows are in the
binary protocol. `next` reads one packet and turns it into a row, an error, or the end of the
set; `drop` calls `next` until it gives `None`, so that the next command finds the stream at
its own response.
-/

namespace MysqlSimple

/-- `QueryResult`, without the borrowed connection. -/
structure QueryResult where
  columns : List Column
  eof : Bool
  isBin : Bool
  deriving DecidableEq, Repr

/-- The part of `QueryResult::next` after `read_packet` returned `pld`. In the text branch the
inner `else if *pld.get(0) == 0xff` is always taken, the outer test having seen `0xFE` or
`0xFF`. -/
def QueryResult.nextOfPayload (r : QueryResult) (pld : List UInt8) :
    ConnM (Option (MyResult (List Value)) × QueryResult) := do
  let b ← firstByte pld
  if r.isBin then
    if b = 0xfe ∧ pld.length < 0xfe then
      match EOFPacket.fromPayload pld with
      | .ok p =>
        handleEof p
        return (none, { r with eof := true })
      | .error e => return (some (.error (.MyIoError e)), { r with eof := true })
    match Value.fromBinPayload readBinValue pld r.columns with
    | .ok p => return (some (.ok p), r)
    | .error (.err e) => return (some (.error (.MyIoError e)), { r with eof := true })
    | .error (.panic m) => panic m
  else
    if (b = 0xfe ∨ b = 0xff) ∧ pld.length < 0xfe then
      if b = 0xfe then
        match EOFPacket.fromPayload pld with
        | .ok p =>
          handleEof p
          return (none, { r with eof := true })
        | .error e => return (some (.error (.MyIoError e)), { r with eof := true })
      else
        match ErrPacket.fromPayload pld with
        | .ok p => return (some (.error (.MySqlError p)), { r with eof := true })
        | .error e => return (some (.error (.MyIoError e)), { r with eof := true })
    match Value.fromPayload pld with
    | .ok p => return (some (.ok p), r)
    | .error e => return (some (.error (.MyIoError e)), { r with eof := true })

/-- `QueryResult::next`: `None` once `eof` is set; a failed `read_packet` is the last item. -/
def QueryResult.next (r : QueryResult) : ConnM (Option (MyResult (List Value)) × QueryResult) := do
  if r.eof then return (none, r)
  match ← catchErr readPacket with
  | .error err => return (some (.error err), { r with eof := true })
  | .ok pld => r.nextOfPayload pld


theorem nextOfPayload_inbound (r : QueryResult) (pld : List UInt8) (i : List UInt8) :
    Act.Preserves (fun c : MyConn => c.inbound = i) (r.nextOfPayload pld) := by
  unfold QueryResult.nextOfPayload firstByte handleEof panic
  dsimp only
  repeat' first
    | intro _ | with_reducible apply Act.Preserves.bind
    | with_reducible exact Act.preserves_pure _ | with_reducible exact Act.preserves_throw _
    | with_reducible apply Act.Preserves.ite | exact Act.preserves_modify fun _ h => h | split

/-- What `drop` runs down: twice the unread input, and one more while the set is open. -/
def QueryResult.pending (r : QueryResult) (c : MyConn) : Nat :=
  2 * c.inbound.length + if r.eof then 0 else 1

theorem next_of_eof {r : QueryResult} (h : r.eof = true) (c : MyConn) :
    r.next c = (.ok (none, r), c) := by
  simp [QueryResult.next, h]

theorem next_of_read_error {r : QueryResult} {c c' : MyConn} {e : MyError} (h : r.eof = false)
    (hr : readPacket c = (.error (.err e), c')) :
    r.next c = (.ok (some (.error e), { r with eof := true }), c') := by
  simp [QueryResult.next, h, catchErr, hr]

theorem next_of_read_ok {r : QueryResult} {c c' : MyConn} {pld : List UInt8} (h : r.eof = false)
    (hr : readPacket c = (.ok pld, c')) : r.next c = r.nextOfPayload pld c' := by
  simp [QueryResult.next, h, catchErr, hr]

/-- Each item `next` yields brings `drop` closer to its end. -/
theorem next_some_decreases {r r' : QueryResult} {c c' : MyConn}
    {item : MyResult (List Value)} (h : r.next c = (.ok (some item, r'), c')) :
    r'.pending c' < r.pending c := by
  cases he : r.eof
  · have hs : (readPacket c).2.inbound.length ≤ c.inbound.length := readPacketLoop_shrinks [] c
    rcases hr : readPacket c with ⟨(e | m) | pld, c1⟩
    · rw [next_of_read_error he hr] at h
      cases h
      rw [hr] at hs
      simp only [QueryResult.pending, if_true, he, Bool.false_eq_true, if_false] at hs ⊢; omega
    · simp [QueryResult.next, he, catchErr, hr] at h
    · rw [next_of_read_ok he hr] at h
      have hin := (nextOfPayload_inbound r pld c1.inbound).run c1 rfl
      rw [h] at hin
      have hlt := readPacketLoop_ok_shrinks hr
      simp only [QueryResult.pending, he, Bool.false_eq_true, if_false] at hin ⊢
      rw [hin]; split <;> omega
  · rw [next_of_eof he] at h; cases h

/-- The loop of `Drop for QueryResult`, `for _ in *self {}`: `next` until it gives `None`. The
items it passes over are returned, for the statements about them. -/
def QueryResult.drain (r : QueryResult) (c : MyConn) :
    Except (Fault MyError) (List (MyResult (List Value)) × QueryResult) × MyConn :=
  match _hnext : r.next c with
  | (.ok (some item, r'), c') =>
    match r'.drain c' with
    | (.ok (items, r''), c'') => (.ok (item :: items, r''), c'')
    | (.error e, c'') => (.error e, c'')
  | (.ok (none, r'), c') => (.ok ([], r'), c')
  | (.error e, c') => (.error e, c')
termination_by r.pending c
decreasing_by exact next_some_decreases _hnext

/-- `Drop for QueryResult`. -/
def QueryResult.drop (r : QueryResult) : ConnM Unit := do
  let _ ← r.drain
  pure ()

theorem drain_of_none {r r' : QueryResult} {c c' : MyConn} (h : r.next c = (.ok (none, r'), c')) :
    r.drain c = (.ok ([], r'), c') := by
  rw [QueryResult.drain]; split <;> simp_all

theorem drain_of_some {r r' r'' : QueryResult} {c c' c'' : MyConn} {item : MyResult (List Value)}
    {items : List (MyResult (List Value))} (h : r.next c = (.ok (some item, r'), c'))
    (hd : r'.drain c' = (.ok (items, r''), c'')) :
    r.drain c = (.ok (item :: items, r''), c'') := by
  rw [QueryResult.drain]; split <;> simp_all

theorem drain_error_of_some {r r' : QueryResult} {c c' c'' : MyConn} {item : MyResult (List Value)}
    {e : Fault MyError} (h : r.next c = (.ok (some item, r'), c'))
    (hd : r'.drain c' = (.error e, c'')) : r.drain c = (.error e, c'') := by
  rw [QueryResult.drain]; split <;> simp_all

theorem drain_of_error {r : QueryResult} {c c' : MyConn} {e : Fault MyError}
    (h : r.next c = (.error e, c')) : r.drain c = (.error e, c') := by
  rw [QueryResult.drain]; split <;> simp_all

/-- Everything a returned `nextOfPayload` did to the record: after a row it is unchanged, after
anything else it is closed. -/
theorem nextOfPayload_ok_cases {r r' : QueryResult} {pld : List UInt8} {c c' : MyConn}
    {x : Option (MyResult (List Value))} (h : r.nextOfPayload pld c = (.ok (x, r'), c')) :
    (∃ row, x = some (.ok row) ∧ r' = r) ∨
      ((∀ row, x ≠ some (.ok row)) ∧ r' = { r with eof := true }) := by
  rcases pld with _ | ⟨b, rest⟩
  · cases h
  simp only [QueryResult.nextOfPayload, firstByte, Act.bind_apply, Act.pure_apply] at h
  split_ifs at h <;> revert h
  · -- binary protocol, EOF packet
    cases EOFPacket.fromPayload (b :: rest) <;> simp [handleEof] <;> rintro rfl rfl - <;> simp
  · -- binary protocol, row
    rcases Value.fromBinPayload readBinValue (b :: rest) r.columns with (_ | _) | _ <;>
      simp [panic] <;> rintro rfl rfl - <;> simp
  · -- text protocol, EOF packet
    cases EOFPacket.fromPayload (b :: rest) <;> simp [handleEof] <;> rintro rfl rfl - <;> simp
  · -- text protocol, error packet
    cases ErrPacket.fromPayload (b :: rest) <;> simp <;> rintro rfl rfl - <;> simp
  · -- text protocol, row
    cases Value.fromPayload (b :: rest) <;> simp <;> rintro rfl rfl - <;> simp

/-- Everything a returned `next` did to the record: a row leaves it as it was, and `None` or an
error item leaves it closed, on every stream. -/
theorem next_ok_cases {r r' : QueryResult} {c c' : MyConn} {x : Option (MyResult (List Value))}
    (h : r.next c = (.ok (x, r'), c')) :
    (∃ row, x = some (.ok row) ∧ r' = r) ∨
      ((∀ row, x ≠ some (.ok row)) ∧ r' = { r with eof := true }) := by
  cases he : r.eof
  · rcases hr : readPacket c with ⟨(e | m) | pld, c1⟩
    · rw [next_of_read_error he hr] at h
      cases h
      exact .inr ⟨by simp, rfl⟩
    · simp [QueryResult.next, he, catchErr, hr] at h
    · rw [next_of_read_ok he hr] at h; exact nextOfPayload_ok_cases h
  · rw [next_of_eof he] at h
    cases h
    exact .inr ⟨by simp, by cases r; simp_all⟩

end MysqlSimple
