import MysqlSimple.Packets

/-!
# The initial handshake as a server writes it (`conn.rs:141-198`)

A protocol-v10 initial handshake carries the protocol version, the server version up to a NUL,
the connection id, eight bytes of scramble and a filler byte, and the low half of the capability
flags; the short form ends there. The long form goes on with the character set, the status
flags, the high half of the flags, the auth-data length `L` (a reserved byte without
`CLIENT_PLUGIN_AUTH`) and ten reserved bytes; then, as the flags say, the scramble's second
part, `max(13, L - 8)` bytes ending in NUL, and the NUL-terminated plugin name.

`HandshakeV10` is such a handshake, `payload` its bytes, and `parsed` the `HandshakePacket` it
stands for. `fromPayload_recovers_handshake` says that `HandshakePacket::from_payload` returns
exactly that packet, for every server version, every combination of flags and every length
byte.
-/

namespace MysqlSimple

/-- What the long form of the handshake adds after the low half of the capability flags. -/
structure HandshakeTail where
  characterSet : UInt8
  statusFlags : UInt16
  capabilityHigh : UInt16
  authDataLen : UInt8
  reserved : List UInt8
  scramble2 : List UInt8
  pluginName : List UInt8
  deriving DecidableEq, Repr

/-- A protocol-v10 initial handshake: the short form, or the long one with its tail. -/
structure HandshakeV10 where
  protocolVersion : UInt8
  serverVersion : List UInt8
  connectionId : UInt32
  scramble1 : List UInt8
  filler : UInt8
  capabilityLow : UInt16
  tail : Option HandshakeTail
  deriving DecidableEq, Repr

namespace HandshakeV10

/-- The capability flags: the low half, and the high half in the long form. -/
def capabilityFlags (h : HandshakeV10) : UInt32 :=
  match h.tail with
  | none => h.capabilityLow.toUInt32
  | some t => h.capabilityLow.toUInt32 ||| t.capabilityHigh.toUInt32 <<< 16

/-- The flags announce `CLIENT_SECURE_CONNECTION`: the scramble's second part follows. -/
def secure (h : HandshakeV10) : Bool := h.capabilityFlags &&& clientSecureConnection > 0

/-- The flags announce `CLIENT_PLUGIN_AUTH`: the length byte is `L`, the plugin name follows. -/
def pluginAuth (h : HandshakeV10) : Bool := h.capabilityFlags &&& clientPluginAuth > 0

/-- The bytes of the handshake. -/
def payload (h : HandshakeV10) : List UInt8 :=
  h.protocolVersion :: h.serverVersion ++ 0 :: writeLeU32 h.connectionId ++ h.scramble1 ++
    h.filler :: writeLeU16 h.capabilityLow ++
    match h.tail with
    | none => []
    | some t =>
      t.characterSet :: writeLeU16 t.statusFlags ++ writeLeU16 t.capabilityHigh ++
        t.authDataLen :: t.reserved ++ (if h.secure then t.scramble2 else []) ++
        (if h.pluginAuth then t.pluginName ++ [0] else [])

/-- The packet the handshake stands for: the scramble's two parts without the final NUL, the
plugin name without its NUL; in the short form no character set, status or high flags. -/
def parsed (h : HandshakeV10) : HandshakePacket :=
  match h.tail with
  | none => ⟨h.scramble1, [], h.connectionId, h.capabilityFlags, 0, h.protocolVersion, 0⟩
  | some t =>
    ⟨h.scramble1 ++ (if h.secure then t.scramble2.dropLast else []),
      if h.pluginAuth then t.pluginName else [], h.connectionId, h.capabilityFlags,
      t.statusFlags, h.protocolVersion, t.characterSet⟩

@[simp] theorem parsed_protocolVersion (h : HandshakeV10) :
    h.parsed.protocolVersion = h.protocolVersion := by
  unfold parsed; split <;> rfl

@[simp] theorem parsed_capabilityFlags (h : HandshakeV10) :
    h.parsed.capabilityFlags = h.capabilityFlags := by
  unfold parsed; split <;> rfl

@[simp] theorem parsed_connectionId (h : HandshakeV10) :
    h.parsed.connectionId = h.connectionId := by
  unfold parsed; split <;> rfl

/-- The length of the scramble's second part: `max(13, L - 8)`, with `L = 0` when the length byte
is only reserved. -/
def scramble2Len (h : HandshakeV10) (t : HandshakeTail) : Nat :=
  max 13 ((if h.pluginAuth then t.authDataLen.toNat else 0) - 8)

/-- A well-formed handshake: a server version without NUL, eight bytes of scramble, ten reserved
bytes, and a second scramble part of the announced length that ends in NUL. -/
structure WellFormed (h : HandshakeV10) : Prop where
  serverVersion : 0 ∉ h.serverVersion
  scramble1 : h.scramble1.length = 8
  reserved : ∀ t, h.tail = some t → t.reserved.length = 10
  scramble2 : ∀ t, h.tail = some t → h.secure →
    t.scramble2.length = h.scramble2Len t ∧ t.scramble2.getLast? = some 0

end HandshakeV10

/-! ## The readers `from_payload` runs -/

theorem skipServerVersion_append {sv : List UInt8} (h : 0 ∉ sv) (rest : List UInt8) :
    skipServerVersion (sv ++ 0 :: rest) = (.ok (), rest) := by
  induction sv with
  | nil => rfl
  | cons b sv ih =>
    rw [List.mem_cons, not_or] at h
    rw [List.cons_append, skipServerVersion, if_neg (Ne.symm h.1), ih h.2]

theorem popTrailingNul_append (xs : List UInt8) {ys : List UInt8} (h : ys.getLast? = some 0) :
    popTrailingNul (xs ++ ys) = .ok (xs ++ ys.dropLast) := by
  have hne : ys ≠ [] := by rintro rfl; cases h
  rw [popTrailingNul, List.getLast?_append, h]
  simp [List.dropLast_append_of_ne_nil xs hne]

theorem popTrailingNul_nul (xs : List UInt8) : popTrailingNul (xs ++ [0]) = .ok xs := by
  simpa using popTrailingNul_append xs (show [(0 : UInt8)].getLast? = some 0 from rfl)

theorem tell_apply (n : Nat) (s : List UInt8) : tell n s = (.ok (n - s.length), s) := rfl

/-- The length `from_payload` pushes for the second scramble part: `max(L - 8, 13)` on `i16`. -/
theorem scramble2_toNat (n : Nat) :
    (if (n : Int) - 8 > 13 then (n : Int) - 8 else 13).toNat = max 13 (n - 8) := by
  split_ifs <;> omega

/-! ## `from_payload` returns every field -/

theorem fromPayload_short {h : HandshakeV10} (hwf : h.WellFormed) (hs : h.tail = none) :
    HandshakePacket.fromPayload h.payload = .ok h.parsed := by
  simp only [HandshakePacket.fromPayload, HandshakeV10.payload, hs, Act.bind_apply, Act.lift,
    Act.mapError_apply, List.append_assoc, List.cons_append, List.nil_append, readU8_cons,
    skipServerVersion_append hwf.serverVersion, readLeU32_writeLeU32,
    pushExact_append hwf.scramble1, seek_apply, List.drop_succ_cons, List.drop_zero,
    readLeU16_writeLeU16, tell_apply, List.length_nil, Nat.sub_zero, if_true, Act.pure_apply,
    HandshakeV10.parsed, HandshakeV10.capabilityFlags]

theorem fromPayload_long {h : HandshakeV10} (hwf : h.WellFormed) {t : HandshakeTail}
    (hs : h.tail = some t) : HandshakePacket.fromPayload h.payload = .ok h.parsed := by
  have hr := hwf.reserved t hs
  have hf : h.capabilityFlags = h.capabilityLow.toUInt32 ||| t.capabilityHigh.toUInt32 <<< 16 := by
    simp [HandshakeV10.capabilityFlags, hs]
  have hsec := hwf.scramble2 t hs
  -- the part every handshake has, up to the low half of the flags; the payload goes on
  simp only [HandshakePacket.fromPayload, HandshakeV10.payload, hs, Act.bind_apply, Act.lift,
    Act.mapError_apply, List.append_assoc, List.cons_append, List.nil_append, readU8_cons,
    skipServerVersion_append hwf.serverVersion, readLeU32_writeLeU32,
    pushExact_append hwf.scramble1, seek_apply, List.drop_succ_cons, List.drop_zero,
    readLeU16_writeLeU16, tell_apply, Act.pure_apply, ← hf]
  rw [if_neg (by simp only [List.length_cons, List.length_append]; omega)]
  -- character set, status flags, high half of the flags, then as the flags say
  simp only [readU8_cons, readLeU16_writeLeU16, Act.bind_apply, Act.mapError_apply, ← hf]
  simp only [HandshakeV10.secure, HandshakeV10.pluginAuth, HandshakeV10.scramble2Len,
    decide_eq_true_eq] at hsec ⊢
  by_cases hp : h.capabilityFlags &&& clientPluginAuth > 0 <;>
    by_cases hc : h.capabilityFlags &&& clientSecureConnection > 0 <;>
    simp only [hp, hc, if_true, if_false, true_implies, false_implies] at hsec ⊢ <;>
    simp only [Act.bind_apply, Act.map_apply, Act.mapError_apply, Act.pure_apply,
      Act.ofExcept_apply, readU8_cons, seek_apply, List.drop_succ_cons, List.drop_zero,
      List.drop_left' hr, scramble2_toNat, readToEnd_apply, popTrailingNul_nul,
      HandshakeV10.parsed, hs, HandshakeV10.secure, HandshakeV10.pluginAuth, decide_eq_true_eq,
      hp, hc, if_true, if_false]
  · -- `CLIENT_PLUGIN_AUTH` and `CLIENT_SECURE_CONNECTION`
    rw [← hsec.1, pushExact_append rfl]
    simp only [popTrailingNul_append _ hsec.2, popTrailingNul_nul]
  · -- `CLIENT_PLUGIN_AUTH` only
    simp only [List.nil_append, popTrailingNul_nul, List.append_nil]
  · -- `CLIENT_SECURE_CONNECTION` only: the reserved byte counts as `L = 0`
    have h13 : (if (0 : Int) - 8 > 13 then (0 : Int) - 8 else 13).toNat = 13 := by decide
    simp only [Nat.zero_sub, Nat.max_zero] at hsec
    rw [h13, ← hsec.1, pushExact_append rfl]
    simp only [popTrailingNul_append _ hsec.2]
  · -- neither
    simp only [List.append_nil]

/-- `HandshakePacket::from_payload` returns exactly the fields a well-formed handshake was built
from, in the short form and in the long one with any flags. -/
theorem fromPayload_recovers_handshake {h : HandshakeV10} (hwf : h.WellFormed) :
    HandshakePacket.fromPayload h.payload = .ok h.parsed := by
  cases hs : h.tail with
  | none => exact fromPayload_short hwf hs
  | some t => exact fromPayload_long hwf hs

/-- A long handshake from server `5.6` with `CLIENT_PLUGIN_AUTH` and `CLIENT_SECURE_CONNECTION`,
`L = 21` and plugin `my`. -/
theorem fromPayload_recovers_handshake_native :
    let h : HandshakeV10 := ⟨10, [0x35, 0x2e, 0x36], 7, [1, 2, 3, 4, 5, 6, 7, 8], 0, 0xf7ff,
      some ⟨8, 2, 0x0008, 21, List.replicate 10 0,
        [9, 10, 11, 12, 13, 14, 15, 16, 17, 18, 19, 20, 0], [0x6d, 0x79]⟩⟩
    h.WellFormed ∧ HandshakePacket.fromPayload h.payload = .ok h.parsed := by
  intro h
  have hwf : h.WellFormed :=
    ⟨by decide, rfl, fun _ ht => by cases ht; rfl, fun _ ht _ => by cases ht; decide⟩
  exact ⟨hwf, fromPayload_recovers_handshake hwf⟩

end MysqlSimple
