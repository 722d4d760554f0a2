import MysqlSimple.Conn.Command

/-!
# Connecting: the handshake, `connect` and `MyConn::new` (`conn.rs:751-820`, `977-1035`,
`1229-1273`)

`new` opens the transport, runs the handshake, learns `max_allowed_packet` with
`SELECT @@max_allowed_packet;`, and, for a loopback TCP address with `prefer_socket`, asks for
`@@socket` and moves to that UNIX socket when it can.

Three parts of the program are outside `conn.rs` and are parameters here: `scramble` of
`scramble.rs` (`unwrap`ped by the caller, so `none` panics), the file system that a
`LOCAL INFILE` request may reach during the `SELECT`s, and the network: for each endpoint that
accepts a connection, the bytes the server there sends.
-/

namespace MysqlSimple

/-- The network as `MyConn::new` meets it: for each endpoint that accepts a connection, the
bytes the server there sends. -/
structure Network where
  tcp : SocketAddr → Option (List UInt8)
  unix : List UInt8 → Option (List UInt8)

/-- `Value::unwrap_bytes_or`. -/
def Value.unwrapBytesOr (v : Value) (y : List UInt8) : List UInt8 :=
  match v with
  | .Bytes x => x
  | _ => y

/-- `uint::parse_bytes(buf, 10)` of the standard library: the value of a non-empty run of
decimal digits, `None` for anything else or for a value past `uint`. -/
def parseUint (buf : List UInt8) : Option Nat :=
  if buf ≠ [] ∧ buf.all (fun b => 0x30 ≤ b ∧ b ≤ 0x39) then
    let v := buf.foldl (fun acc b => 10 * acc + (b.toNat - 0x30)) 0
    if v < 2 ^ 64 then some v else none
  else none

section Connect

variable (fs : FileSystem) (scramble : List UInt8 → List UInt8 → Option (List UInt8))

/-- `MyConn::get_system_var`: the first value of the first row of `SELECT @@name;`. Leaving the
`for` drops the result set, which reads the rest of it. -/
def getSystemVar (name : List UInt8) : ConnM (Option Value) := do
  match ← catchErr (query fs (ascii "SELECT @@" ++ name ++ ascii ";")) with
  | .ok (some r) =>
    let (item, r) ← r.next
    let value := match item with
      | some (.ok row) => row.head?
      | _ => none
    r.drop
    return value
  | _ => return none

/-- `MyConn::do_handshake_response`: the capability flags, the maximum packet size `0`, the
character set, 23 zero bytes, the user name, the scramble behind its length `20`, and the
database name when there is one. -/
def doHandshakeResponse (hp : HandshakePacket) : ConnM Unit := do
  let c ← get
  let clientFlags := clientProtocol41 ||| clientSecureConnection ||| clientLongPassword |||
    clientTransactions ||| clientLocalFiles ||| (c.capabilityFlags &&& clientLongFlag)
  let scrambleBuf ← match scramble hp.authPluginData c.opts.getPass with
    | some buf => pure buf
    | none => panic "called `Option::unwrap()` on a `None` value"
  let dbName := c.opts.getDbName
  let clientFlags := if dbName.length > 0 then clientFlags ||| clientConnectWithDb else clientFlags
  writePacket (writeLeU32 clientFlags ++ writeLeU32 0 ++ [utf8GeneralCi] ++ List.replicate 23 0 ++
    c.opts.getUser ++ [0] ++ [20] ++ scrambleBuf ++
    if dbName.length > 0 then dbName ++ [0] else [])

/-- `MyConn::do_handshake`: the server's greeting, the client's response, and the server's OK or
ERR. -/
def doHandshake : ConnM Unit := do
  let pld ← readPacket
  let handshake ← tryIoFault (HandshakePacket.fromPayload pld)
  if handshake.protocolVersion ≠ 10 then
    throw (.err (.MyStrError
      ("Unsupported protocol version " ++ toString handshake.protocolVersion)))
  if handshake.capabilityFlags &&& clientProtocol41 = 0 then
    throw (.err (.MyStrError "Server must set CLIENT_PROTOCOL_41 flag"))
  handleHandshake handshake
  doHandshakeResponse scramble handshake
  let pld ← readPacket
  let b ← firstByte pld
  if b = 0 then receiveOk pld
  else if b = 0xff then
    let err ← tryIo (ErrPacket.fromPayload pld)
    throw (.err (.MySqlError err))
  else throw (.err (.MyStrError "Unexpected packet"))

/-- `MyConn::connect`. -/
def connect : ConnM Unit := do
  if (← get).connected then return
  doHandshake scramble
  let v ← getSystemVar fs (ascii "max_allowed_packet")
  let maxAllowedPacket := (parseUint ((v.getD .NULL).unwrapBytesOr [])).getD 0
  if maxAllowedPacket = 0 then
    throw (.err (.MyStrError "Can\x27t get max_allowed_packet value"))
  modify fun c => { c with maxAllowedPacket := maxAllowedPacket, connected := true }

variable (net : Network)

/-- The `unix_addr` branch of `MyConn::new`: a connection over the socket at `path`. -/
def MyConn.newUnix (opts : MyOpts) (path : List UInt8) : Except (Fault MyError) MyConn :=
  match net.unix path with
  | some inbound =>
    match connect fs scramble (MyConn.init opts inbound) with
    | (.ok (), conn) => .ok conn
    | (.error e, _) => .error e
  | none => .error (.err (.MyStrError ("Could not connect to address: " ++ reprStr opts.unixAddr)))

/-- Whether an address is `127.0.0.1` or `::1`. -/
def IpAddr.isLoopback : IpAddr → Bool
  | .Ipv4Addr 127 0 0 1 => true
  | .Ipv6Addr 0 0 0 0 0 0 0 1 => true
  | _ => false

/-- `MyConn::new`. After a TCP connection to a loopback address with `prefer_socket`, a non-NULL
`@@socket` must be a string (`unwrap_bytes`); a failed move to that socket keeps the TCP
connection. The inner `MyConn::new` takes the `unix_addr` branch, which is `newUnix`. -/
def MyConn.new (opts : MyOpts) : Except (Fault MyError) MyConn :=
  match opts.unixAddr, opts.tcpAddr with
  | some path, _ => MyConn.newUnix fs scramble net opts path
  | none, some addr =>
    match net.tcp addr with
    | some inbound =>
      match connect fs scramble (MyConn.init opts inbound) with
      | (.error e, _) => .error e
      | (.ok (), conn) =>
        if conn.opts.preferSocket ∧ addr.ip.isLoopback then
          match getSystemVar fs (ascii "socket") conn with
          | (.error e, _) => .error e
          | (.ok none, conn) => .ok conn
          | (.ok (some (.Bytes path)), conn) =>
            match MyConn.newUnix fs scramble net { conn.opts with unixAddr := some path } path with
            | .ok conn' => .ok conn'
            | .error (.err _) => .ok conn
            | .error (.panic m) => .error (.panic m)
          | (.ok (some _), _) =>
            .error (.panic "Called `Value::unwrap_bytes()` on non `Bytes` value")
        else .ok conn
    | none =>
      .error (.err (.MyStrError ("Could not connect to address: " ++ reprStr opts.tcpAddr)))
  | none, none => .error (.err (.MyStrError "Could not connect. Address not specified"))

end Connect

end MysqlSimple
