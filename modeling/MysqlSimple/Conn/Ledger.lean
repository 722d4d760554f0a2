import MysqlSimple.Conn.Connect
import MysqlSimple.Conn.Writes

/-!
# `affected_rows` and `last_insert_id` follow the latest OK packet

`MyConn` keeps `affected_rows` and `last_insert_id` from the OK packets it reads (`handle_ok`).
The ghost field `oks` lists every OK packet the connection decoded, newest first, and
`MyConn.Ledger` says that the two fields are those of its head, or `0` before any.

Reading a packet, a column definition or a row moves only the input, the sequence id and the
status flags (`ReadStable`); writing moves only the output, the sequence id and the last command
(`WriteStable`). Neither touches the ledger, and the one place that does, `receiveOk`, decodes
and handles the packet together. So every method keeps `Ledger`, whatever the server sends and
however the method ends, and so does every run of calls on a connection.

The command lemmas and the run lemma `runOps_preserves` are stated for any invariant that is
read-stable, survives each packet written (`WritesKeep`) and `receiveOk`, and, for `connect`,
ignores what the handshake records (`SessionStable`); `new_of_connect` reduces what
`MyConn::new` returns to what `connect` returns from a new record. `Conn.Session` uses them for
two more invariants: the connection stays connected, and the output is whole packets.
`Conn.LatestOk` ties the ledger to the OK packets a server sends.
-/

namespace MysqlSimple

/-- `affected_rows` and `last_insert_id` are those of the newest OK packet decoded, `0` before
any. -/
def MyConn.Ledger (c : MyConn) : Prop :=
  c.affectedRows = (c.oks.head?.map OkPacket.affectedRows).getD 0 ∧
  c.lastInsertId = (c.oks.head?.map OkPacket.lastInsertId).getD 0

instance : DecidablePred MyConn.Ledger := fun _ => inferInstanceAs (Decidable (_ ∧ _))

theorem ledger_init (opts : MyOpts) (inbound : List UInt8) : (MyConn.init opts inbound).Ledger :=
  ⟨rfl, rfl⟩

/-- `P` ignores the input, the sequence id and the status flags. -/
def ReadStable (P : MyConn → Prop) : Prop :=
  ∀ c i s f, P c → P { c with inbound := i, seqId := s, statusFlags := f }

theorem ledger_readStable : ReadStable MyConn.Ledger := fun _ _ _ _ h => h

/-- `P` ignores what the handshake and `connect` record of the session: the server's
capabilities, status flags, connection id and character set, then the packet limit and the
connected flag. -/
structure SessionStable (P : MyConn → Prop) : Prop where
  handshake : ∀ c cap st id cs, P c → P { c with
    capabilityFlags := cap, statusFlags := st, connectionId := id, characterSet := cs }
  connected : ∀ c m, P c → P { c with maxAllowedPacket := m, connected := true }

theorem ledger_writeStable : WriteStable MyConn.Ledger := fun _ _ _ _ h => h

/-! ## Reading a packet, a result set -/

section Reading

variable {P : MyConn → Prop}

theorem readPacketStep_preserves (hP : ReadStable P) (output : List UInt8) :
    Act.Preserves P (readPacketStep output) := by
  have hread : ∀ {α : Type} (r : Reader α), Act.Preserves P (readIo r) :=
    fun r => readIo_preserves (fun c i h => hP c i c.seqId c.statusFlags h) r
  unfold readPacketStep readPayload
  dsimp only
  repeat' first
    | intro _ | with_reducible apply Act.Preserves.bind | with_reducible exact Act.preserves_pure _
    | with_reducible exact Act.preserves_throw _ | with_reducible exact Act.preserves_get
    | with_reducible exact hread _ | with_reducible exact (hread _).map _
    | with_reducible apply Act.Preserves.ite
    | exact Act.preserves_modify fun c h => hP c c.inbound _ c.statusFlags h

theorem readPacketLoop_preserves (hP : ReadStable P) (output : List UInt8) :
    Act.Preserves P (readPacketLoop output) := ⟨fun c h => by
  have hstep : ∀ o d, P d → P (readPacketStep o d).2 :=
    fun o d => (readPacketStep_preserves hP o).run d
  induction output, c using readPacketLoop.induct with
  | case1 o c o' c' hs ih =>
    rw [readPacketLoop_of_inl hs]
    exact ih (by simpa [hs] using hstep o c h)
  | case2 o c o' c' hs => rw [readPacketLoop_of_inr hs]; simpa [hs] using hstep o c h
  | case3 o c e c' hs => rw [readPacketLoop_of_error hs]; simpa [hs] using hstep o c h⟩

theorem readPacket_preserves (hP : ReadStable P) : Act.Preserves P readPacket :=
  readPacketLoop_preserves hP []

theorem readColumns_preserves (hP : ReadStable P) (n : Nat) :
    Act.Preserves P (readColumns n) := by
  induction n with
  | zero => exact Act.preserves_pure _
  | succ n ih =>
    exact (readPacket_preserves hP).bind fun _ => Act.preserves_get.bind fun _ =>
      (tryIo_preserves _).bind fun _ => ih.bind fun _ => Act.preserves_pure _

theorem readResultSet_preserves (hP : ReadStable P) (pld : List UInt8) (isBin : Bool) :
    Act.Preserves P (readResultSet pld isBin) :=
  (tryIo_preserves _).bind fun _ => (readColumns_preserves hP _).bind fun _ =>
    (readPacket_preserves hP).bind fun _ => Act.preserves_pure _

theorem nextOfPayload_preserves (hP : ReadStable P) (r : QueryResult) (pld : List UInt8) :
    Act.Preserves P (r.nextOfPayload pld) := by
  unfold QueryResult.nextOfPayload handleEof
  dsimp only
  repeat' first
    | intro _ | with_reducible apply Act.Preserves.bind | with_reducible exact Act.preserves_pure _
    | with_reducible exact panic_preserves _ | with_reducible exact firstByte_preserves _
    | with_reducible apply Act.Preserves.ite
    | exact Act.preserves_modify fun c h => hP c c.inbound c.seqId _ h | split

theorem next_preserves (hP : ReadStable P) (r : QueryResult) : Act.Preserves P r.next := by
  unfold QueryResult.next
  refine Act.Preserves.ite (Act.preserves_pure _) ?_
  refine (catchErr_preserves (readPacket_preserves hP)).bind fun x => ?_
  split
  · exact Act.preserves_pure _
  · exact nextOfPayload_preserves hP r _

theorem drain_snd_of_some {r r' : QueryResult} {c c' : MyConn} {item : MyResult (List Value)}
    (h : r.next c = (.ok (some item, r'), c')) : (r.drain c).2 = (r'.drain c').2 := by
  rw [QueryResult.drain]
  split <;> simp_all
  split <;> simp_all

/-- `drop` of a result set keeps every invariant that `next` keeps, item after item. -/
theorem drain_preserves (hP : ReadStable P) (r : QueryResult) (c : MyConn) (h : P c) :
    P (r.drain c).2 := by
  have hnext : ∀ (r : QueryResult) d, P d → P (r.next d).2 :=
    fun r d => (next_preserves hP r).run d
  induction r, c using QueryResult.drain.induct with
  | case1 r c item r' c' hn _ _ _ _ ih =>
    rw [drain_snd_of_some hn]; exact ih (by simpa [hn] using hnext r c h)
  | case2 r c item r' c' hn _ _ _ ih =>
    rw [drain_snd_of_some hn]; exact ih (by simpa [hn] using hnext r c h)
  | case3 r c r' c' hn => rw [drain_of_none hn]; simpa [hn] using hnext r c h
  | case4 r c e c' hn => rw [drain_of_error hn]; simpa [hn] using hnext r c h

theorem drop_preserves (hP : ReadStable P) (r : QueryResult) : Act.Preserves P r.drop :=
  ⟨fun c h => by
    have := drain_preserves hP r c h
    simp only [QueryResult.drop, Act.bind_apply]
    split <;> simp_all⟩

end Reading

/-! ## The one writer of the ledger -/

/-- `receiveOk` records the packet it decodes and handles it in the same step; a packet that
does not decode leaves the connection as it was. -/
theorem receiveOk_keeps_ledger (pld : List UInt8) : Act.Preserves MyConn.Ledger (receiveOk pld) :=
  ⟨fun c h => by
    unfold receiveOk decodeOk handleOk
    cases hd : OkPacket.fromPayload pld with
    | error => simpa [hd] using h
    | ok op => simp [hd, MyConn.Ledger]⟩

/-- `receiveOk` keeps every invariant that ignores what it records: the decoded packet, the
affected rows, the last insert id and the status flags. -/
theorem receiveOk_preserves {P : MyConn → Prop}
    (hP : ∀ c (op : OkPacket), P c → P { c with
      oks := op :: c.oks
      affectedRows := op.affectedRows
      lastInsertId := op.lastInsertId
      statusFlags := op.statusFlags })
    (pld : List UInt8) : Act.Preserves P (receiveOk pld) :=
  ⟨fun c h => by
    unfold receiveOk decodeOk handleOk
    cases OkPacket.fromPayload pld
    · exact h
    · exact hP c _ h⟩

/-! ## Commands

Every command keeps each invariant that ignores what reads and writes move and that survives the
OK packets it decodes; the ledger is one. -/

section Commands

variable {P : MyConn → Prop} (fs : FileSystem)

theorem uploadFile_preserves (hW : WritesKeep P) (bufLen : Nat) (file : FileReads) :
    Act.Preserves P (uploadFile bufLen file) := by
  induction file with
  | nil => exact Act.preserves_pure _
  | cons read file ih =>
    cases read with
    | error e => exact Act.Preserves.ite (Act.preserves_pure _) (Act.preserves_throw _)
    | ok bytes => exact (hW.write _).bind fun _ => ih

theorem sendLocalInfile_preserves (hR : ReadStable P) (hW : WritesKeep P)
    (hO : ∀ pld, Act.Preserves P (receiveOk pld)) (fileName : List UInt8) :
    Act.Preserves P (sendLocalInfile fs fileName) := by
  unfold sendLocalInfile
  repeat' first
    | intro _ | with_reducible apply Act.Preserves.bind | with_reducible exact Act.preserves_pure _
    | with_reducible exact Act.preserves_get | with_reducible exact tryIo_preserves _
    | with_reducible exact firstByte_preserves _ | with_reducible exact hO _
    | with_reducible exact uploadFile_preserves hW _ _
    | with_reducible exact readPacket_preserves hR
    | with_reducible exact hW.write _
    | with_reducible apply Act.Preserves.ite

theorem query_preserves (hR : ReadStable P) (hW : WritesKeep P)
    (hO : ∀ pld, Act.Preserves P (receiveOk pld)) (sql : List UInt8) :
    Act.Preserves P (query fs sql) := by
  unfold query queryResponse
  repeat' first
    | intro _ | with_reducible apply Act.Preserves.bind | with_reducible exact Act.preserves_pure _
    | with_reducible exact Act.preserves_throw _ | with_reducible exact tryIo_preserves _
    | with_reducible exact firstByte_preserves _ | with_reducible exact hO _
    | with_reducible exact sendLocalInfile_preserves fs hR hW hO _
    | with_reducible exact readPacket_preserves hR
    | with_reducible exact readResultSet_preserves hR _ _
    | with_reducible exact writeCommandData_preserves hW _ _
    | with_reducible apply Act.Preserves.ite

theorem prepare_preserves (hR : ReadStable P) (hW : WritesKeep P) (sql : List UInt8) :
    Act.Preserves P (prepare sql) := by
  unfold prepare prepareResponse
  dsimp only
  repeat' first
    | intro _ | with_reducible apply Act.Preserves.bind | with_reducible exact Act.preserves_pure _
    | with_reducible exact Act.preserves_throw _ | with_reducible exact tryIo_preserves _
    | with_reducible exact firstByte_preserves _
    | with_reducible exact readPacket_preserves hR
    | with_reducible exact readColumns_preserves hR _
    | with_reducible exact writeCommandData_preserves hW _ _
    | with_reducible apply Act.Preserves.ite

theorem execute_preserves (hR : ReadStable P) (hW : WritesKeep P)
    (hO : ∀ pld, Act.Preserves P (receiveOk pld)) (stmt : Stmt) (params : List Value) :
    Act.Preserves P (execute stmt params) := by
  unfold execute executeResponse
  repeat' first
    | intro _ | with_reducible apply Act.Preserves.bind | with_reducible exact Act.preserves_pure _
    | with_reducible exact Act.preserves_throw _ | with_reducible exact tryIo_preserves _
    | with_reducible exact firstByte_preserves _ | with_reducible exact hO _
    | with_reducible exact readPacket_preserves hR
    | with_reducible exact readResultSet_preserves hR _ _
    | with_reducible exact executeSend_preserves hW _ _
    | with_reducible apply Act.Preserves.ite

theorem getSystemVar_preserves (hR : ReadStable P) (hW : WritesKeep P)
    (hO : ∀ pld, Act.Preserves P (receiveOk pld)) (name : List UInt8) :
    Act.Preserves P (getSystemVar fs name) := by
  unfold getSystemVar
  refine (catchErr_preserves (query_preserves fs hR hW hO _)).bind fun x => ?_
  split
  · exact (next_preserves hR _).bind fun _ =>
      (drop_preserves hR _).bind fun _ => Act.preserves_pure _
  · exact Act.preserves_pure _

end Commands

/-! ## Connecting -/

section Connecting

variable (fs : FileSystem) (scramble : List UInt8 → List UInt8 → Option (List UInt8))

variable {P : MyConn → Prop}

theorem doHandshakeResponse_preserves (hW : WritesKeep P) (hp : HandshakePacket) :
    Act.Preserves P (doHandshakeResponse scramble hp) := by
  unfold doHandshakeResponse
  dsimp only
  refine Act.preserves_get.bind fun _ => ?_
  split
  · exact (Act.preserves_pure _).bind fun _ => hW.write _
  · exact (panic_preserves _).bind fun _ => hW.write _

theorem doHandshake_preserves (hR : ReadStable P) (hW : WritesKeep P)
    (hO : ∀ pld, Act.Preserves P (receiveOk pld)) (hS : SessionStable P) :
    Act.Preserves P (doHandshake scramble) := by
  unfold doHandshake handleHandshake
  dsimp only
  repeat' first
    | intro _ | with_reducible apply Act.Preserves.bind | with_reducible exact Act.preserves_pure _
    | with_reducible exact Act.preserves_throw _ | with_reducible exact tryIo_preserves _
    | with_reducible exact tryIoFault_preserves _ | with_reducible exact firstByte_preserves _
    | with_reducible exact hO _
    | with_reducible exact readPacket_preserves hR
    | with_reducible exact doHandshakeResponse_preserves scramble hW _
    | with_reducible apply Act.Preserves.ite
    | exact Act.preserves_modify fun c h => hS.handshake c _ _ _ _ h

theorem connect_preserves (hR : ReadStable P) (hW : WritesKeep P)
    (hO : ∀ pld, Act.Preserves P (receiveOk pld)) (hS : SessionStable P) :
    Act.Preserves P (connect fs scramble) := by
  have hg := getSystemVar_preserves fs hR hW hO
  unfold connect
  dsimp only
  repeat' first
    | intro _ | with_reducible apply Act.Preserves.bind | with_reducible exact Act.preserves_pure _
    | with_reducible exact Act.preserves_throw _ | with_reducible exact Act.preserves_get
    | with_reducible exact doHandshake_preserves scramble hR hW hO hS | with_reducible exact hg _
    | with_reducible apply Act.Preserves.ite
    | exact Act.preserves_modify fun c h => hS.connected c _ h

theorem connect_keeps_ledger : Act.Preserves MyConn.Ledger (connect fs scramble) :=
  connect_preserves fs scramble ledger_readStable ledger_writeStable.writesKeep
    receiveOk_keeps_ledger ⟨fun _ _ _ _ _ h => h, fun _ _ h => h⟩

variable (net : Network)

theorem newUnix_of_connect
    (hconnect : ∀ opts inbound c', connect fs scramble (MyConn.init opts inbound) = (.ok (), c') →
      P c')
    {opts : MyOpts} {path : List UInt8} {conn : MyConn}
    (h : MyConn.newUnix fs scramble net opts path = .ok conn) : P conn := by
  unfold MyConn.newUnix at h
  split at h
  · split at h
    · cases h
      exact hconnect _ _ _ ‹_›
    · cases h
  · cases h

/-- A connection that `MyConn::new` returns is one that `connect` returned from a new record,
possibly after the `SELECT @@socket;`, or one over the UNIX socket: it has every property that
`connect` gives a new record and that every command keeps. -/
theorem new_of_connect (hR : ReadStable P) (hW : WritesKeep P)
    (hO : ∀ pld, Act.Preserves P (receiveOk pld))
    (hconnect : ∀ opts inbound c', connect fs scramble (MyConn.init opts inbound) = (.ok (), c') →
      P c')
    {opts : MyOpts} {conn : MyConn} (h : MyConn.new fs scramble net opts = .ok conn) : P conn := by
  unfold MyConn.new at h
  repeat' first
    | with_reducible exact newUnix_of_connect fs scramble net hconnect h | split at h
  all_goals cases h
  all_goals first
    | with_reducible exact newUnix_of_connect fs scramble net hconnect ‹_›
    | with_reducible exact hconnect _ _ _ ‹_›
    | with_reducible exact
        (getSystemVar_preserves fs hR hW hO _).of_eq (hconnect _ _ _ ‹_›) ‹_›

/-- A connection that `MyConn::new` returns keeps the ledger: a new record, the handshake, the
`SELECT`s, and possibly a new connection over the UNIX socket. -/
theorem new_ledger {opts : MyOpts} {conn : MyConn}
    (h : MyConn.new fs scramble net opts = .ok conn) : conn.Ledger :=
  new_of_connect fs scramble net ledger_readStable ledger_writeStable.writesKeep
    receiveOk_keeps_ledger
    (fun _ _ _ h => (connect_keeps_ledger fs scramble).of_eq (ledger_init _ _) h) h

end Connecting

/-! ## Runs of calls -/

/-- A call a program makes on a connection: a method of `MyStream`, or `next` or `drop` of a
result set it holds. -/
inductive Op
  | connect
  | query (sql : List UInt8)
  | prepare (sql : List UInt8)
  | execute (stmt : Stmt) (params : List Value)
  | getSystemVar (name : List UInt8)
  | next (r : QueryResult)
  | drop (r : QueryResult)

section Runs

variable (fs : FileSystem) (scramble : List UInt8 → List UInt8 → Option (List UInt8))

/-- The connection after a call, whether the call returned, failed or panicked. -/
def Op.run : Op → MyConn → MyConn
  | .connect, c => (MysqlSimple.connect fs scramble c).2
  | .query sql, c => (MysqlSimple.query fs sql c).2
  | .prepare sql, c => (MysqlSimple.prepare sql c).2
  | .execute stmt params, c => (MysqlSimple.execute stmt params c).2
  | .getSystemVar name, c => (MysqlSimple.getSystemVar fs name c).2
  | .next r, c => (r.next c).2
  | .drop r, c => (r.drop c).2

/-- The connection after a run of calls. -/
def runOps (ops : List Op) (c : MyConn) : MyConn :=
  ops.foldl (fun c op => op.run fs scramble c) c

/-- Every call keeps an invariant that reading, writing and `receiveOk` keep, once `connect`
does. -/
theorem Op.run_preserves {P : MyConn → Prop} (hR : ReadStable P) (hW : WritesKeep P)
    (hO : ∀ pld, Act.Preserves P (receiveOk pld))
    (hC : Act.Preserves P (MysqlSimple.connect fs scramble))
    (op : Op) {c : MyConn} (h : P c) : P (op.run fs scramble c) := by
  cases op with
  | connect => exact hC.run c h
  | query sql => exact (query_preserves fs hR hW hO sql).run c h
  | prepare sql => exact (prepare_preserves hR hW sql).run c h
  | execute stmt params => exact (execute_preserves hR hW hO stmt params).run c h
  | getSystemVar name => exact (getSystemVar_preserves fs hR hW hO name).run c h
  | next r => exact (next_preserves hR r).run c h
  | drop r => exact (drop_preserves hR r).run c h

theorem runOps_preserves {P : MyConn → Prop} (hR : ReadStable P) (hW : WritesKeep P)
    (hO : ∀ pld, Act.Preserves P (receiveOk pld)) (hC : Act.Preserves P (connect fs scramble))
    (ops : List Op) {c : MyConn} (h : P c) : P (runOps fs scramble ops c) := by
  induction ops generalizing c with
  | nil => exact h
  | cons op ops ih => exact ih (Op.run_preserves fs scramble hR hW hO hC op h)

theorem runOps_keeps_ledger (ops : List Op) {c : MyConn} (h : c.Ledger) :
    (runOps fs scramble ops c).Ledger :=
  runOps_preserves fs scramble ledger_readStable ledger_writeStable.writesKeep
    receiveOk_keeps_ledger (connect_keeps_ledger fs scramble) ops h

end Runs

end MysqlSimple
