import MysqlSimple.Conn.Connect
import MysqlSimple.Conn.Ledger

/-!
# Logging in: what the client sends, and to whom (`conn.rs:977-1035`)

`do_handshake` reads the server's greeting and answers it with `do_handshake_response`: the
client's capability flags, the maximum packet size `0`, the character set, 23 zero bytes, the
user name, the scramble of the password and the database name.

The server's reading of that answer (`Protocol::HandshakeResponse41`) is modelled from the
protocol, not from this code: `readHandshakeResponse`. Against it,
`doHandshakeResponse_round_trip` says that the server reads back the user name, the scramble and
the database name, the last exactly when one is set. `doHandshake_writes_only_after_v10` says
that nothing at all is written unless the greeting was a protocol-10 greeting with
`CLIENT_PROTOCOL_41`.
-/

namespace MysqlSimple

variable (scramble : List UInt8 → List UInt8 → Option (List UInt8))

/-! ## Whom the client answers -/

/-- Whatever the server sends, `do_handshake` either writes nothing, or it read a greeting that
decodes, with protocol version 10 and `CLIENT_PROTOCOL_41`: the user name and the scramble never
go to a server it does not support. -/
theorem doHandshake_writes_only_after_v10 (c : MyConn) :
    (doHandshake scramble c).2.outbound = c.outbound ∨
      ∃ pld c₁ hp, readPacket c = (.ok pld, c₁) ∧ HandshakePacket.fromPayload pld = .ok hp ∧
        hp.protocolVersion = 10 ∧ hp.capabilityFlags &&& clientProtocol41 ≠ 0 := by
  have hread := (readPacket_preserves (P := fun d => d.outbound = c.outbound)
    (fun _ _ _ _ h => h)).run c rfl
  rcases hr : readPacket c with ⟨e | pld, c₁⟩
  · left
    rw [hr] at hread
    simp only [doHandshake, Act.bind_apply, hr]
    exact hread
  · rw [hr] at hread
    rcases hd : HandshakePacket.fromPayload pld with e | hp
    · left
      simp only [doHandshake, Act.bind_apply, hr, hd, tryIoFault, Except.mapError,
        Act.ofExcept_apply]
      exact hread
    by_cases hv : hp.protocolVersion = 10
    · by_cases hf : hp.capabilityFlags &&& clientProtocol41 = 0
      · left
        simp only [doHandshake, Act.bind_apply, hr, hd, tryIoFault, Except.mapError,
          Act.ofExcept_apply, hv, hf, ne_eq, not_true_eq_false, if_false, if_true,
          Act.throw_apply]
        exact hread
      · exact .inr ⟨pld, c₁, hp, rfl, hd, hv, hf⟩
    · left
      simp only [doHandshake, Act.bind_apply, hr, hd, tryIoFault, Except.mapError,
        Act.ofExcept_apply, hv, ne_eq, not_false_eq_true, if_true, Act.throw_apply]
      exact hread

/-! ## What the server reads -/

/-- A NUL-terminated string: the bytes before the first `0`, which is consumed with them. -/
def readNulStr : Reader (List UInt8) := fun
  | [] => (.error .EndOfFile, [])
  | b :: r =>
    if b = 0 then (.ok [], r) else
      match readNulStr r with
      | (.ok s, r') => (.ok (b :: s), r')
      | (.error e, r') => (.error e, r')

theorem readNulStr_append {x : List UInt8} (hx : 0 ∉ x) (rest : List UInt8) :
    readNulStr (x ++ 0 :: rest) = (.ok x, rest) := by
  induction x with
  | nil => rfl
  | cons b x ih =>
    rw [List.mem_cons, not_or] at hx
    rw [List.cons_append, readNulStr, if_neg (Ne.symm hx.1), ih hx.2]

/-- `Protocol::HandshakeResponse41`, the fields a server reads. -/
structure HandshakeResponse where
  capabilityFlags : UInt32
  maxPacketSize : UInt32
  characterSet : UInt8
  user : List UInt8
  authResponse : List UInt8
  database : Option (List UInt8)
  deriving DecidableEq, Repr

/-- A server's reading of the answer to its greeting, for a client without `CLIENT_PLUGIN_AUTH`:
flags, maximum packet size, character set, 23 reserved bytes, the NUL-terminated user name, the
auth response (behind a length byte under `CLIENT_SECURE_CONNECTION`, NUL-terminated otherwise),
and the NUL-terminated database name under `CLIENT_CONNECT_WITH_DB`. -/
def readHandshakeResponse : Reader HandshakeResponse := do
  let capabilityFlags ← readLeU32
  let maxPacketSize ← readLeU32
  let characterSet ← readU8
  let _ ← readExact 23
  let user ← readNulStr
  let authResponse ← if capabilityFlags &&& clientSecureConnection ≠ 0 then do
      let len ← readU8
      readExact len.toNat
    else readNulStr
  let database ← if capabilityFlags &&& clientConnectWithDb ≠ 0 then some <$> readNulStr
    else pure none
  return ⟨capabilityFlags, maxPacketSize, characterSet, user, authResponse, database⟩

/-! ## What the client sends -/

/-- The answer as the client lays it out reads back field by field, given a flag word that
announces the length-prefixed auth response and announces a database exactly when there is one. -/
theorem readHandshakeResponse_payload {flags : UInt32} {user buf db : List UInt8}
    (hsec : flags &&& clientSecureConnection ≠ 0)
    (hwith : flags &&& clientConnectWithDb ≠ 0 ↔ db.length > 0)
    (huser : 0 ∉ user) (hdb : 0 ∉ db) (hbuf : buf.length = 20) :
    Reader.parse (writeLeU32 flags ++ writeLeU32 0 ++ [utf8GeneralCi] ++ List.replicate 23 0 ++
      user ++ [0] ++ [20] ++ buf ++ (if db.length > 0 then db ++ [0] else []))
      readHandshakeResponse =
      .ok ⟨flags, 0, utf8GeneralCi, user, buf, if db.length > 0 then some db else none⟩ := by
  simp only [List.append_assoc, List.cons_append, List.singleton_append, List.nil_append]
  have h20 : (20 : UInt8).toNat = buf.length := by rw [hbuf]; rfl
  simp only [Reader.parse, readHandshakeResponse, Act.bind_apply, readLeU32_writeLeU32,
    readU8_cons, readExact_append (List.length_replicate 23 0), readNulStr_append huser,
    if_pos hsec, h20, readExact_append rfl]
  by_cases hd : db.length > 0
  · simp only [if_pos hd, if_pos (hwith.mpr hd), Act.bind_apply, Act.map_apply,
      readNulStr_append hdb]
    rfl
  · simp only [if_neg hd, if_neg (mt hwith.mp hd)]
    rfl

/-- The server's `CLIENT_LONG_FLAG` bit, which is all the client copies of the server's flags. -/
theorem UInt32.and_clientLongFlag (x : UInt32) :
    x &&& clientLongFlag = 0 ∨ x &&& clientLongFlag = clientLongFlag := by
  have key : (x &&& clientLongFlag).toNat = if x.toNat.testBit 2 then 2 ^ 2 else 0 := by
    rw [UInt32.and_toNat, show clientLongFlag.toNat = 2 ^ 2 from rfl]
    apply Nat.eq_of_testBit_eq
    intro i
    rw [Nat.testBit_and, Nat.testBit_two_pow]
    split
    · rw [Nat.testBit_two_pow]; by_cases hi : 2 = i <;> simp_all
    · rw [Nat.zero_testBit]; by_cases hi : 2 = i <;> simp_all
  split at key
  · exact .inr (UInt32.toNat.inj key)
  · exact .inl (UInt32.toNat.inj key)

/-- Whatever the user name, password and database, when the scramble is 20 bytes and neither
name holds a NUL byte, the server reads the answer `do_handshake_response` writes as the user
name, the scramble, and the database name exactly when one is set, with the maximum packet size
`0` and `utf8_general_ci`. -/
theorem doHandshakeResponse_round_trip {hp : HandshakePacket} {c c' : MyConn}
    (huser : 0 ∉ c.opts.getUser) (hdb : 0 ∉ c.opts.getDbName)
    (hscr : ∀ buf, scramble hp.authPluginData c.opts.getPass = some buf → buf.length = 20)
    (h : doHandshakeResponse scramble hp c = (.ok (), c')) :
    ∃ buf pld r, scramble hp.authPluginData c.opts.getPass = some buf ∧
      c'.outbound = c.outbound ++ frames (packetChunks pld) c.seqId ∧
      Reader.parse pld readHandshakeResponse = .ok r ∧
      r.user = c.opts.getUser ∧ r.authResponse = buf ∧
      r.database = (if c.opts.getDbName = [] then none else some c.opts.getDbName) ∧
      r.maxPacketSize = 0 ∧ r.characterSet = utf8GeneralCi := by
  obtain ⟨buf, hbuf⟩ : ∃ buf, scramble hp.authPluginData c.opts.getPass = some buf := by
    rcases hs : scramble hp.authPluginData c.opts.getPass with _ | buf
    · simp [doHandshakeResponse, hs, panic] at h
    · exact ⟨buf, rfl⟩
  simp only [doHandshakeResponse, Act.bind_apply, Act.get_apply, hbuf, Act.pure_apply] at h
  have ho := congrArg MyConn.outbound (writePacket_ok h)
  have hflags := UInt32.and_clientLongFlag c.capabilityFlags
  refine ⟨buf, _, _, hbuf, ho, readHandshakeResponse_payload ?_ ?_ huser hdb (hscr buf hbuf),
    rfl, rfl, ?_, rfl, rfl⟩
  · split <;> rcases hflags with hl | hl <;> rw [hl] <;> decide
  · split <;> rcases hflags with hl | hl <;> rw [hl] <;> simp_all <;> decide
  · by_cases hd : c.opts.getDbName = []
    · simp [hd]
    · simp [hd, List.length_pos.mpr hd]

/-- User `root`, database `test`, a 20-byte scramble. -/
theorem doHandshakeResponse_round_trip_root :
    let c := MyConn.init { MyOpts.default with
      user := some [114, 111, 111, 116], dbName := some [116, 101, 115, 116] } []
    let hp : HandshakePacket := ⟨List.replicate 20 7, [], 1, 0xffff, 0, 10, 33⟩
    let scr : List UInt8 → List UInt8 → Option (List UInt8) := fun _ _ =>
      some (List.replicate 20 1)
    ∃ c', 0 ∉ c.opts.getUser ∧ 0 ∉ c.opts.getDbName ∧
      (∀ buf, scr hp.authPluginData c.opts.getPass = some buf → buf.length = 20) ∧
      doHandshakeResponse scr hp c = (.ok (), c') ∧
      ∃ buf pld r, scr hp.authPluginData c.opts.getPass = some buf ∧
        c'.outbound = c.outbound ++ frames (packetChunks pld) c.seqId ∧
        Reader.parse pld readHandshakeResponse = .ok r ∧
        r.user = c.opts.getUser ∧ r.authResponse = buf ∧
        r.database = (if c.opts.getDbName = [] then none else some c.opts.getDbName) ∧
        r.maxPacketSize = 0 ∧ r.characterSet = utf8GeneralCi := by
  intro c hp scr
  have huser : 0 ∉ c.opts.getUser := by decide
  have hdb : 0 ∉ c.opts.getDbName := by decide
  have hscr : ∀ buf, scr hp.authPluginData c.opts.getPass = some buf → buf.length = 20 := by
    rintro buf ⟨⟩; rfl
  obtain ⟨c', h⟩ : ∃ c', doHandshakeResponse scr hp c = (.ok (), c') := ⟨_, by
    simp only [doHandshakeResponse, Act.bind_apply, Act.get_apply, Act.pure_apply]
    exact writePacket_spec (by decide)⟩
  exact ⟨c', huser, hdb, hscr, h, doHandshakeResponse_round_trip scr huser hdb hscr h⟩

end MysqlSimple
