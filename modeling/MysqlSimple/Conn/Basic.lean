import MysqlSimple.Value.ReadBinValue

/-!
# The connection record (`conn.rs:679-836`)

`MyConn` with every field the modelled methods read or write. The transport `stream: ~Stream`
becomes two byte lists: `inbound`, what the server has sent and the connection has not read yet,
and `outbound`, what the connection has written. Reading past the end of `inbound` is the
transport's `EndOfFile`; writing never fails.

A method on `&mut MyConn` is a `ConnM`: an `Act` on the record whose failures are `Fault`s — the
`MyError` it returns, or a panic. Beside the record's own fields there is one ghost field, `oks`:
every OK packet the connection decoded, newest first. It is written only by `decodeOk`, the
model of `try_io!(OkPacket::from_payload(..))`, and read only by the statements about
`affected_rows`.
-/

namespace MysqlSimple

/-- `MyError` of `error.rs` (not among the sources): the three variants `conn.rs` builds. -/
inductive MyError
  | MyIoError (e : IoError)
  | MySqlError (e : ErrPacket)
  | MyStrError (msg : String)
  deriving DecidableEq, Repr

/-- `MyResult<T>`. -/
abbrev MyResult (α : Type) := Except MyError α

/-! ## Options -/

/-- `std::io::net::ip::IpAddr`. -/
inductive IpAddr
  | Ipv4Addr (a b c d : UInt8)
  | Ipv6Addr (a b c d e f g h : UInt16)
  deriving DecidableEq, Repr

/-- `SocketAddr`. -/
structure SocketAddr where
  ip : IpAddr
  port : UInt16
  deriving DecidableEq, Repr

/-- `MyOpts`; strings and paths are their bytes. -/
structure MyOpts where
  tcpAddr : Option SocketAddr
  unixAddr : Option (List UInt8)
  user : Option (List UInt8)
  pass : Option (List UInt8)
  dbName : Option (List UInt8)
  preferSocket : Bool
  deriving DecidableEq, Repr

/-- `MyOpts::default()`: TCP to `127.0.0.1:3306`, preferring the local socket. -/
def MyOpts.default : MyOpts :=
  ⟨some ⟨.Ipv4Addr 127 0 0 1, 3306⟩, none, none, none, none, true⟩

/-- `MyOpts::get_user`. -/
def MyOpts.getUser (o : MyOpts) : List UInt8 := o.user.getD []
/-- `MyOpts::get_pass`. -/
def MyOpts.getPass (o : MyOpts) : List UInt8 := o.pass.getD []
/-- `MyOpts::get_db_name`. -/
def MyOpts.getDbName (o : MyOpts) : List UInt8 := o.dbName.getD []

/-! ## The connection -/

/-- `MyConn`, with the stream as its unread input and its output, and the ghost `oks`. -/
structure MyConn where
  opts : MyOpts
  inbound : List UInt8
  outbound : List UInt8
  affectedRows : UInt64
  lastInsertId : UInt64
  maxAllowedPacket : Nat
  capabilityFlags : UInt32
  connectionId : UInt32
  statusFlags : UInt16
  seqId : UInt8
  characterSet : UInt8
  lastCommand : UInt8
  connected : Bool
  oks : List OkPacket
  deriving DecidableEq, Repr

/-- The record `MyConn::new` builds around a fresh stream, before `connect`. -/
def MyConn.init (opts : MyOpts) (inbound : List UInt8) : MyConn where
  opts := opts
  inbound := inbound
  outbound := []
  seqId := 0
  capabilityFlags := 0
  statusFlags := 0
  connectionId := 0
  characterSet := 0
  affectedRows := 0
  lastInsertId := 0
  lastCommand := 0
  maxAllowedPacket := maxPayloadLen
  connected := false
  oks := []

@[simp] theorem init_connected (opts : MyOpts) (inbound : List UInt8) :
    (MyConn.init opts inbound).connected = false := rfl

/-- A method of `MyConn`: its result, or the error or panic it ends with, and the connection. -/
abbrev ConnM := Act MyConn (Fault MyError)

/-- A panic. -/
def panic {α : Type} (msg : String) : ConnM α := throw (.panic msg)

/-- `try_io!(self.read_..())`: a read from the stream; an `IoError` becomes `MyIoError`. -/
def readIo {α : Type} (r : Reader α) : ConnM α := fun c =>
  match r c.inbound with
  | (.ok a, s) => (.ok a, { c with inbound := s })
  | (.error e, s) => (.error (.err (.MyIoError e)), { c with inbound := s })

/-- A read from the stream changes nothing but the unread input. -/
@[simp] theorem readIo_snd {α : Type} (r : Reader α) (c : MyConn) :
    (readIo r c).2 = { c with inbound := (r c.inbound).2 } := by
  unfold readIo; split <;> simp_all

/-- A read from the stream that returned is the reader returning on the unread input. -/
theorem readIo_ok_inv {α : Type} {r : Reader α} {c c' : MyConn} {a : α}
    (h : readIo r c = (.ok a, c')) :
    r c.inbound = (.ok a, c'.inbound) ∧ c' = { c with inbound := c'.inbound } := by
  unfold readIo at h
  split at h <;> cases h
  exact ⟨‹_›, rfl⟩

/-- `try_io!(self.write(bytes))`. -/
def writeIo (bytes : List UInt8) : ConnM Unit :=
  modify fun c => { c with outbound := c.outbound ++ bytes }

/-- `try_io!` on the result of a parser. -/
def tryIo {α : Type} (r : Except IoError α) : ConnM α :=
  Act.ofExcept (r.mapError fun e => .err (.MyIoError e))

/-- `try_io!` on the result of a parser that may also panic. -/
def tryIoFault {α : Type} (r : Except (Fault IoError) α) : ConnM α :=
  Act.ofExcept <| r.mapError fun
    | .err e => .err (.MyIoError e)
    | .panic m => .panic m

/-- Run a method and keep its `Err` as a value; a panic still unwinds. -/
def catchErr {α : Type} (x : ConnM α) : ConnM (MyResult α) := fun c =>
  match x c with
  | (.ok a, c') => (.ok (.ok a), c')
  | (.error (.err e), c') => (.ok (.error e), c')
  | (.error (.panic m), c') => (.error (.panic m), c')

/-- `*pld.get(0)`: the first byte of a payload; `Vec::get` panics on an empty one. -/
def firstByte (pld : List UInt8) : ConnM UInt8 :=
  match pld with
  | [] => panic "index out of bounds"
  | b :: _ => pure b

/-- `try_io!(OkPacket::from_payload(pld))`, recording the decoded packet in `oks`. -/
def decodeOk (pld : List UInt8) : ConnM OkPacket := fun c =>
  match OkPacket.fromPayload pld with
  | .ok op => (.ok op, { c with oks := op :: c.oks })
  | .error e => (.error (.err (.MyIoError e)), c)

/-- `MyConn::handle_ok`. -/
def handleOk (op : OkPacket) : ConnM Unit := modify fun c =>
  { c with affectedRows := op.affectedRows, lastInsertId := op.lastInsertId,
           statusFlags := op.statusFlags }

/-- `MyConn::handle_eof`. -/
def handleEof (eof : EOFPacket) : ConnM Unit := modify fun c =>
  { c with statusFlags := eof.statusFlags }

/-- `self.handle_ok(&try_io!(OkPacket::from_payload(pld)))`, as each site that reads an OK
packet does it. -/
def receiveOk (pld : List UInt8) : ConnM Unit := do
  let ok ← decodeOk pld
  handleOk ok

/-- `Option::get_ref`, which panics on `None`. -/
def getRef {α : Type} : Option α → ConnM α
  | some a => pure a
  | none => panic "called `Option::get_ref()` on a `None` value"

/-- `MyConn::handle_handshake`. -/
def handleHandshake (hp : HandshakePacket) : ConnM Unit := modify fun c =>
  { c with capabilityFlags := hp.capabilityFlags, statusFlags := hp.statusFlags,
           connectionId := hp.connectionId, characterSet := hp.characterSet }

/-! ## Invariants of the primitives

Each primitive keeps every invariant that does not look at what it writes, so that the invariant
of a method follows the shape of its body (`Act.Preserves`). -/

section Preserves

variable {P : MyConn → Prop}

theorem panic_preserves {α : Type} (msg : String) : Act.Preserves P (panic msg : ConnM α) :=
  Act.preserves_throw _

theorem firstByte_preserves (pld : List UInt8) : Act.Preserves P (firstByte pld) := by
  cases pld
  · exact panic_preserves _
  · exact Act.preserves_pure _

theorem tryIo_preserves {α : Type} (r : Except IoError α) : Act.Preserves P (tryIo r) :=
  Act.preserves_ofExcept _

theorem tryIoFault_preserves {α : Type} (r : Except (Fault IoError) α) :
    Act.Preserves P (tryIoFault r) :=
  Act.preserves_ofExcept _

theorem getRef_preserves {α : Type} (o : Option α) : Act.Preserves P (getRef o) := by
  cases o
  · exact panic_preserves _
  · exact Act.preserves_pure _

theorem catchErr_preserves {α : Type} {x : ConnM α} (hx : Act.Preserves P x) :
    Act.Preserves P (catchErr x) := ⟨fun c h => by
  have := hx.run c h
  unfold catchErr
  split <;> simp_all⟩

/-- A read keeps every invariant that ignores the unread input. -/
theorem readIo_preserves {α : Type} (hP : ∀ c i, P c → P { c with inbound := i }) (r : Reader α) :
    Act.Preserves P (readIo r) := ⟨fun c h => by rw [readIo_snd]; exact hP _ _ h⟩

end Preserves

end MysqlSimple
