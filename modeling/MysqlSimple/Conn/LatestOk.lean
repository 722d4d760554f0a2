import MysqlSimple.Conn.Session

/-!
# The latest OK packet on the stream (`conn.rs:969-973`, `1096-1102`, `1128-1163`)

`Conn.Ledger` shows that along every run of calls `affected_rows` and `last_insert_id` are those
of the newest OK packet the connection decoded. Here the OK packets are those the server sent:
every path that reads one records it (the reply to `query`, the reply to its upload, the reply
to `execute`, the end of the handshake), and over a session of queries, each answered by a
well-formed response, the two fields are those of the latest OK packet among the responses.
-/

namespace MysqlSimple

/-- The OK packet of the latest response that carries one. -/
def latestOk : List Response → Option OkPacket
  | [] => none
  | resp :: resps => (latestOk resps).or resp.okPacket

/-- A field of the latest OK packet, failing that of the first response's, failing that `d`. -/
theorem latestOk_cons_getD {α : Type} (resp : Response) (resps : List Response)
    (f : OkPacket → α) (d : α) :
    ((latestOk (resp :: resps)).map f).getD d =
      ((latestOk resps).map f).getD ((resp.okPacket.map f).getD d) := by
  rw [latestOk]
  cases latestOk resps <;> rfl

/-- A program that sends queries one after another, each result set dropped before the next
query: the connection after them. -/
def runQueries (fs : FileSystem) : List (List UInt8) → MyConn → MyConn
  | [], c => c
  | sql :: sqls, c => runQueries fs sqls (readAll (query fs sql) c).2

/-- What a server sends over such a session: each response, numbered on from its query. -/
def sessionStream (bufLen : Nat) : List (List UInt8 × Response) → List UInt8
  | [] => []
  | (sql, resp) :: xs => resp.stream bufLen (nextSeq (comQuery :: sql) 0) ++ sessionStream bufLen xs

/-- `query`, with `drop`, reads its response, keeps `max_allowed_packet`, and records the OK
packet the response carries. -/
theorem query_records_ok {fs : FileSystem} {sql : List UInt8} {resp : Response}
    {rest : List UInt8} {c : MyConn}
    (hfit : ¬((comQuery :: sql).length > c.maxAllowedPacket ∧ c.maxAllowedPacket < maxPayloadLen))
    (hwf : resp.WellFormed comQuery false) (hfile : resp.FileReady fs)
    (hin : c.inbound = resp.stream c.maxAllowedPacket (nextSeq (comQuery :: sql) 0) ++ rest) :
    ∃ c', readAll (query fs sql) c = (resp.outcome false, c') ∧ c'.inbound = rest ∧
      c'.maxAllowedPacket = c.maxAllowedPacket ∧
      c'.affectedRows = (resp.okPacket.map OkPacket.affectedRows).getD c.affectedRows ∧
      c'.lastInsertId = (resp.okPacket.map OkPacket.lastInsertId).getD c.lastInsertId :=
  let ⟨_, _, h⟩ := query_reads_response hfit hwf hfile hin
  ⟨_, h, afterResponse_fields _ resp⟩

/-- Over a session of queries each answered by a well-formed response, the stream is read to the
end of the last response, and `affected_rows` and `last_insert_id` are those of the latest OK
packet the server sent, or what they were before the session. -/
theorem runQueries_latestOk {fs : FileSystem} {xs : List (List UInt8 × Response)}
    {rest : List UInt8} {c : MyConn}
    (hfit : ∀ x ∈ xs,
      ¬((comQuery :: x.1).length > c.maxAllowedPacket ∧ c.maxAllowedPacket < maxPayloadLen))
    (hwf : ∀ x ∈ xs, x.2.WellFormed comQuery false) (hfile : ∀ x ∈ xs, x.2.FileReady fs)
    (hin : c.inbound = sessionStream c.maxAllowedPacket xs ++ rest) :
    (runQueries fs (xs.map Prod.fst) c).inbound = rest ∧
      (runQueries fs (xs.map Prod.fst) c).affectedRows =
        ((latestOk (xs.map Prod.snd)).map OkPacket.affectedRows).getD c.affectedRows ∧
      (runQueries fs (xs.map Prod.fst) c).lastInsertId =
        ((latestOk (xs.map Prod.snd)).map OkPacket.lastInsertId).getD c.lastInsertId := by
  induction xs generalizing c with
  | nil => exact ⟨hin, rfl, rfl⟩
  | cons x xs ih =>
    obtain ⟨sql, resp⟩ := x
    rw [sessionStream, List.append_assoc] at hin
    obtain ⟨c₁, hq, hin₁, hmax₁, har₁, hli₁⟩ :=
      query_records_ok (hfit _ (.head _)) (hwf _ (.head _)) (hfile _ (.head _)) hin
    -- the rest of the session, from the connection the first query leaves
    have hrest := @ih c₁ (fun y hy => hmax₁ ▸ hfit y (.tail _ hy))
      (fun y hy => hwf y (.tail _ hy)) (fun y hy => hfile y (.tail _ hy)) (hmax₁ ▸ hin₁)
    simp only [List.map_cons, runQueries, hq, latestOk_cons_getD, ← har₁, ← hli₁]
    exact hrest

end MysqlSimple
