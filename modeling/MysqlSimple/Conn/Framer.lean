import MysqlSimple.Conn.Basic

/-!
# Packet framing: `read_packet` and `write_packet` (`conn.rs:904-962`)

A payload travels in frames of at most `MAX_PAYLOAD_LEN` bytes, each behind a four-byte header:
the frame length as a 24-bit little-endian integer and a sequence id that both sides count up
modulo 256. A frame of exactly `MAX_PAYLOAD_LEN` bytes says that another frame follows, so a
payload whose length is a multiple of `MAX_PAYLOAD_LEN` (the empty one included) ends with an
empty frame.

The wire format is stated once, by `frames` over `packetChunks`. `writePacket_spec` says that
`write_packet` emits exactly that, `readPacketLoop_frames` that `read_packet` takes exactly
that back, whatever follows it on the stream, and `readPacket_ok_iff` that it returns nothing
else: every payload it returns was framed so. `read_packet` loops by well-founded recursion on
the unread input: a turn that asks for another frame has consumed its header
(`readPacketStep_inl_shrinks`).
-/

namespace MysqlSimple

/-! ## `read_packet` -/

/-- The payload half of one turn of `read_packet`'s loop, after a header gave `payloadLen`:
`.inl` when the frame was full and the loop goes on, `.inr` when the packet is complete. -/
def readPayload (output : List UInt8) (payloadLen : Nat) : ConnM (List UInt8 ⊕ List UInt8) :=
  if payloadLen ≥ maxPayloadLen then .inl <$> readIo (pushExact output maxPayloadLen)
  else if payloadLen = 0 then pure (.inr output)
  else .inr <$> readIo (pushExact output payloadLen)

/-- Under the 24-bit bound the three branches are one read of `payloadLen` bytes, which goes on
exactly when the frame is full. -/
theorem readPayload_eq {output : List UInt8} {len : Nat} (h : len ≤ maxPayloadLen) :
    readPayload output len = (fun o => if len = maxPayloadLen then .inl o else .inr o) <$>
      readIo (pushExact output len) := by
  rcases Nat.lt_or_eq_of_le h with hlt | rfl
  · simp only [readPayload, if_neg (not_le.mpr hlt), hlt.ne, if_false]
    split_ifs with hz
    · funext c; subst hz; simp [readIo, pushExact, readExact]
    · rfl
  · simp [readPayload]

/-- One turn of `read_packet`'s loop. -/
def readPacketStep (output : List UInt8) : ConnM (List UInt8 ⊕ List UInt8) := do
  let payloadLen ← readIo (readLeUintN 3)
  let seqId ← readIo readU8
  if seqId ≠ (← get).seqId then throw (.err (.MyStrError "Packet out of sync"))
  modify fun c => { c with seqId := c.seqId + 1 }
  readPayload output payloadLen

theorem readPacketStep_of_header {output s1 s2 : List UInt8} {c : MyConn} {len : Nat}
    {sq : UInt8} (h1 : readLeUintN 3 c.inbound = (.ok len, s1)) (h2 : readU8 s1 = (.ok sq, s2)) :
    readPacketStep output c =
      if sq = c.seqId then readPayload output len { c with inbound := s2, seqId := c.seqId + 1 }
      else (.error (.err (.MyStrError "Packet out of sync")), { c with inbound := s2 }) := by
  by_cases hsq : sq = c.seqId <;> simp [readPacketStep, readIo, h1, h2, hsq]

theorem readPayload_shrinks (output : List UInt8) (len : Nat) (c : MyConn) :
    (readPayload output len c).2.inbound.length ≤ c.inbound.length := by
  unfold readPayload
  split_ifs
  · simp only [Act.map_snd, readIo_snd]; exact pushExact_shrinks _ _ _
  · exact le_rfl
  · simp only [Act.map_snd, readIo_snd]; exact pushExact_shrinks _ _ _

/-- A turn of `read_packet` never gives bytes back. -/
theorem readPacketStep_shrinks (output : List UInt8) (c : MyConn) :
    (readPacketStep output c).2.inbound.length ≤ c.inbound.length := by
  have hs1 := readLeUintN_shrinks 3 c.inbound
  rcases h1 : readLeUintN 3 c.inbound with ⟨_ | len, s1⟩
  · rw [h1] at hs1; simpa [readPacketStep, readIo, h1] using hs1
  have hl := readLeUintN_ok_length h1
  have hs2 := readU8_shrinks s1
  rcases h2 : readU8 s1 with ⟨_ | sq, s2⟩
  · rw [h2] at hs2; simp [readPacketStep, readIo, h1, h2]; simp at hs2; omega
  have hl2 := readU8_ok_length h2
  rw [readPacketStep_of_header h1 h2]
  split_ifs
  · exact (readPayload_shrinks _ _ _).trans (by simp only; omega)
  · simp only; omega

/-- A turn of `read_packet` that succeeds has consumed at least its four header bytes. -/
theorem readPacketStep_ok_shrinks {output : List UInt8} {r : List UInt8 ⊕ List UInt8}
    {c c' : MyConn} (h : readPacketStep output c = (.ok r, c')) :
    c'.inbound.length < c.inbound.length := by
  rcases h1 : readLeUintN 3 c.inbound with ⟨_ | len, s1⟩
  · simp [readPacketStep, readIo, h1] at h
  rcases h2 : readU8 s1 with ⟨_ | sq, s2⟩
  · simp [readPacketStep, readIo, h1, h2] at h
  have hl := readLeUintN_ok_length h1
  have hl2 := readU8_ok_length h2
  rw [readPacketStep_of_header h1 h2] at h
  split_ifs at h
  · have := readPayload_shrinks output len { c with inbound := s2, seqId := c.seqId + 1 }
    rw [h] at this
    simp only at this; omega
  · simp at h

/-- `read_packet`'s loop, from the payload gathered so far. -/
def readPacketLoop (output : List UInt8) (c : MyConn) :
    Except (Fault MyError) (List UInt8) × MyConn :=
  match _hstep : readPacketStep output c with
  | (.ok (.inl output'), c') => readPacketLoop output' c'
  | (.ok (.inr output'), c') => (.ok output', c')
  | (.error e, c') => (.error e, c')
termination_by c.inbound.length
decreasing_by exact readPacketStep_ok_shrinks _hstep

/-- `MyConn::read_packet`. -/
def readPacket : ConnM (List UInt8) := readPacketLoop []

theorem readPacketLoop_of_inl {output o : List UInt8} {c c' : MyConn}
    (h : readPacketStep output c = (.ok (.inl o), c')) :
    readPacketLoop output c = readPacketLoop o c' := by
  rw [readPacketLoop]; split <;> simp_all

theorem readPacketLoop_of_inr {output o : List UInt8} {c c' : MyConn}
    (h : readPacketStep output c = (.ok (.inr o), c')) :
    readPacketLoop output c = (.ok o, c') := by
  rw [readPacketLoop]; split <;> simp_all

theorem readPacketLoop_of_error {output : List UInt8} {c c' : MyConn} {e : Fault MyError}
    (h : readPacketStep output c = (.error e, c')) :
    readPacketLoop output c = (.error e, c') := by
  rw [readPacketLoop]; split <;> simp_all

/-- `read_packet` never gives bytes back. -/
theorem readPacketLoop_shrinks (output : List UInt8) (c : MyConn) :
    (readPacketLoop output c).2.inbound.length ≤ c.inbound.length := by
  induction output, c using readPacketLoop.induct with
  | case1 o c o' c' h ih =>
    rw [readPacketLoop_of_inl h]; exact ih.trans (readPacketStep_ok_shrinks h).le
  | case2 o c o' c' h => rw [readPacketLoop_of_inr h]; exact (readPacketStep_ok_shrinks h).le
  | case3 o c e c' h =>
    rw [readPacketLoop_of_error h]
    have := readPacketStep_shrinks o c
    rwa [h] at this

/-- A packet that `read_packet` returns took at least one frame header off the stream. -/
theorem readPacketLoop_ok_shrinks {output p : List UInt8} {c c' : MyConn}
    (h : readPacketLoop output c = (.ok p, c')) : c'.inbound.length < c.inbound.length := by
  induction output, c using readPacketLoop.induct with
  | case1 o c o' c' h' ih =>
    rw [readPacketLoop_of_inl h'] at h; exact (ih h).trans (readPacketStep_ok_shrinks h')
  | case2 o c o' c'' h' =>
    rw [readPacketLoop_of_inr h'] at h
    cases h; exact readPacketStep_ok_shrinks h'
  | case3 o c e c'' h' => rw [readPacketLoop_of_error h'] at h; cases h

/-! ## `write_packet` -/

/-- `xs.chunks(size)`: consecutive pieces of `size` elements, the last one possibly shorter.
The slice method asserts `size != 0`; the callers that can pass `0` check it themselves. -/
def chunks {α : Type} (size : Nat) (xs : List α) : List (List α) :=
  if 0 < size ∧ 0 < xs.length then xs.take size :: chunks size (xs.drop size) else []
termination_by xs.length
decreasing_by simp only [List.length_drop]; omega

/-- The first three header bytes `write_packet` builds for a chunk of `chunkLen` bytes. -/
def chunkHeader (chunkLen : Nat) : List UInt8 :=
  if chunkLen = maxPayloadLen then [255, 255, 255]
  else [UInt8.ofNat (chunkLen &&& 255), UInt8.ofNat ((chunkLen &&& (255 <<< 8)) >>> 8),
    UInt8.ofNat ((chunkLen &&& (255 <<< 16)) >>> 16)]

/-- The `for chunk in data.chunks(MAX_PAYLOAD_LEN)` loop of `write_packet`, carrying
`last_was_max`. -/
def writeChunks : List (List UInt8) → Bool → ConnM Bool
  | [], lastWasMax => pure lastWasMax
  | chunk :: rest, _ => do
    let seqId := (← get).seqId
    modify fun c => { c with seqId := c.seqId + 1 }
    writeIo (chunkHeader chunk.length ++ seqId :: chunk)
    writeChunks rest (chunk.length = maxPayloadLen)

/-- `MyConn::write_packet`. -/
def writePacket (data : List UInt8) : ConnM Unit := do
  let c ← get
  if data.length > c.maxAllowedPacket ∧ c.maxAllowedPacket < maxPayloadLen then
    throw (.err (.MyStrError "Packet too large"))
  if data.length = 0 then
    writeIo [0, 0, 0, c.seqId]
    modify fun c => { c with seqId := c.seqId + 1 }
  else
    let lastWasMax ← writeChunks (chunks maxPayloadLen data) false
    if lastWasMax then
      writeIo [0, 0, 0, (← get).seqId]
      modify fun c => { c with seqId := c.seqId + 1 }

/-! ## The wire format -/

/-- One frame: the three-byte little-endian length, the sequence id, the bytes. -/
def frame (chunk : List UInt8) (seq : UInt8) : List UInt8 :=
  leBytes 3 chunk.length ++ seq :: chunk

/-- Frames with consecutive sequence ids from `seq`, modulo 256. -/
def frames : List (List UInt8) → UInt8 → List UInt8
  | [], _ => []
  | chunk :: rest, seq => frame chunk seq ++ frames rest (seq + 1)

/-- The frames a payload travels in: its `MAX_PAYLOAD_LEN`-byte pieces, then an empty one when
the last piece is full or the payload is empty. -/
def packetChunks (data : List UInt8) : List (List UInt8) :=
  chunks maxPayloadLen data ++ if data.length % maxPayloadLen = 0 then [[]] else []

/-- Packets one after another, each in its frames from its own sequence id: bytes that a reader
takes apart packet by packet. -/
def packetFrames : List (List UInt8 × UInt8) → List UInt8
  | [] => []
  | (p, s) :: ps => frames (packetChunks p) s ++ packetFrames ps

theorem maxPayloadLen_eq : maxPayloadLen = 16777215 := rfl

theorem frames_append (a b : List (List UInt8)) (s : UInt8) :
    frames (a ++ b) s = frames a s ++ frames b (s + UInt8.ofNat a.length) := by
  induction a generalizing s with
  | nil => simp [frames]
  | cons x a ih => simp [frames, ih, UInt8.ofNat_add', add_assoc, add_comm]

theorem packetFrames_append (ps qs : List (List UInt8 × UInt8)) :
    packetFrames (ps ++ qs) = packetFrames ps ++ packetFrames qs := by
  induction ps with
  | nil => rfl
  | cons p ps ih => rw [List.cons_append, packetFrames, packetFrames, ih, List.append_assoc]

theorem chunks_of_pos {α : Type} {size : Nat} {xs : List α} (hs : 0 < size)
    (hx : 0 < xs.length) : chunks size xs = xs.take size :: chunks size (xs.drop size) := by
  rw [chunks, if_pos ⟨hs, hx⟩]

@[simp] theorem chunks_nil {α : Type} (size : Nat) : chunks size ([] : List α) = [] := by
  rw [chunks, if_neg (by simp)]

theorem chunks_length_le {α : Type} (size : Nat) (xs : List α) :
    ∀ ch ∈ chunks size xs, ch.length ≤ size := by
  induction xs using chunks.induct size with
  | case1 xs h ih =>
    rw [chunks_of_pos h.1 h.2]
    rintro ch (_ | ⟨_, hch⟩)
    · exact List.length_take_le _ _
    · exact ih ch hch
  | case2 xs h => rw [chunks, if_neg h]; simp

/-- The pieces put back together give the list. -/
theorem chunks_flatten {α : Type} {size : Nat} (hs : 0 < size) (xs : List α) :
    (chunks size xs).flatten = xs := by
  induction xs using chunks.induct size with
  | case1 xs h ih => rw [chunks_of_pos h.1 h.2, List.flatten_cons, ih, List.take_append_drop]
  | case2 xs h =>
    rw [chunks, if_neg h, List.flatten_nil]
    exact (List.length_eq_zero.mp (by omega)).symm

theorem chunks_ne_nil {α : Type} {size : Nat} (hs : 0 < size) {xs : List α} (hx : xs ≠ []) :
    chunks size xs ≠ [] := by
  rw [chunks_of_pos hs (List.length_pos.mpr hx)]
  exact List.cons_ne_nil _ _

theorem packetChunks_of_lt {data : List UInt8} (h : data.length < maxPayloadLen) :
    packetChunks data = [data] := by
  rcases data with _ | ⟨b, data⟩
  · simp [packetChunks]
  · have hpos : 0 < (b :: data).length := by simp
    rw [packetChunks, chunks_of_pos (by decide) hpos, List.take_of_length_le h.le,
      List.drop_of_length_le h.le, chunks_nil, Nat.mod_eq_of_lt h, if_neg (by simp)]
    rfl

theorem packetChunks_of_le {data : List UInt8} (h : maxPayloadLen ≤ data.length) :
    packetChunks data = data.take maxPayloadLen :: packetChunks (data.drop maxPayloadLen) := by
  have hpos : 0 < data.length := lt_of_lt_of_le (by decide) h
  have hmod : (data.drop maxPayloadLen).length % maxPayloadLen =
      data.length % maxPayloadLen := by
    rw [List.length_drop, ← Nat.sub_add_cancel h, Nat.add_sub_cancel, Nat.add_mod_right]
  rw [packetChunks, packetChunks, chunks_of_pos (by decide) hpos, hmod, List.cons_append]

/-- A payload of `L` bytes takes `L / MAX_PAYLOAD_LEN + 1` frames. -/
theorem packetChunks_length (data : List UInt8) :
    (packetChunks data).length = data.length / maxPayloadLen + 1 := by
  obtain ⟨n, h⟩ : ∃ n, data.length = n := ⟨_, rfl⟩
  induction n using Nat.strong_induction_on generalizing data with
  | _ n ih =>
    by_cases hlt : data.length < maxPayloadLen
    · rw [packetChunks_of_lt hlt, Nat.div_eq_of_lt hlt]; rfl
    · have hle : maxPayloadLen ≤ data.length := le_of_not_lt hlt
      have hm := maxPayloadLen_eq
      rw [packetChunks_of_le hle, List.length_cons,
        ih _ (by rw [List.length_drop]; omega) _ rfl, List.length_drop, hm]
      rw [hm] at hle
      omega

/-! ## Reading the frames back -/

/-- A turn of `read_packet` on a frame with the expected sequence id takes that frame. -/
theorem readPacketStep_frame {output chunk rest : List UInt8} {c : MyConn}
    (h : chunk.length ≤ maxPayloadLen) (hc : c.inbound = frame chunk c.seqId ++ rest) :
    readPacketStep output c =
      (.ok (if chunk.length = maxPayloadLen then .inl (output ++ chunk)
        else .inr (output ++ chunk)),
        { c with inbound := rest, seqId := c.seqId + 1 }) := by
  have hm := maxPayloadLen_eq
  have h1 : readLeUintN 3 c.inbound = (.ok chunk.length, c.seqId :: (chunk ++ rest)) := by
    rw [hc, frame, List.append_assoc, List.cons_append, readLeUintN_leBytes,
      Nat.mod_eq_of_lt (by omega)]
  rw [readPacketStep_of_header h1 rfl, if_pos rfl]
  rcases Nat.lt_or_eq_of_le h with hlt | heq
  · rw [if_neg hlt.ne, readPayload, if_neg (by omega)]
    by_cases hz : chunk.length = 0
    · simp [List.length_eq_zero.mp hz]
    · simp [hz, readIo, pushExact_append rfl]
  · simp [readPayload, heq, readIo, pushExact_append heq]

/-- Everything a turn of `read_packet` that returned can have done: taken one frame of at most
`MAX_PAYLOAD_LEN` bytes, numbered with the connection's sequence id, added its bytes to the
output, gone on exactly when the frame was full, and counted the sequence id up by one. -/
theorem readPacketStep_ok_inv {output : List UInt8} {r : List UInt8 ⊕ List UInt8} {c c' : MyConn}
    (h : readPacketStep output c = (.ok r, c')) :
    ∃ chunk rest, chunk.length ≤ maxPayloadLen ∧ c.inbound = frame chunk c.seqId ++ rest ∧
      r = (if chunk.length = maxPayloadLen then .inl (output ++ chunk)
        else .inr (output ++ chunk)) ∧
      c' = { c with inbound := rest, seqId := c.seqId + 1 } := by
  have hm := maxPayloadLen_eq
  rcases h1 : readLeUintN 3 c.inbound with ⟨_ | len, s1⟩
  · simp [readPacketStep, readIo, h1] at h
  rcases h2 : readU8 s1 with ⟨_ | sq, s2⟩
  · simp [readPacketStep, readIo, h1, h2] at h
  obtain ⟨hs1, hlen⟩ := readLeUintN_ok_inv h1
  have hs2 : s1 = sq :: s2 := by cases s1 <;> simp_all [readU8]
  rw [readPacketStep_of_header h1 h2] at h
  split_ifs at h with hsq
  · -- the header checked out: the turn is one read of `len` bytes
    rw [readPayload_eq (by omega)] at h
    obtain ⟨o, ho, rfl⟩ := Act.map_eq_ok h
    obtain ⟨hp, hc'⟩ := readIo_ok_inv ho
    obtain ⟨chunk, rfl, hs, rfl⟩ := pushExact_ok_inv hp
    refine ⟨chunk, c'.inbound, by omega, ?_, rfl, hc'⟩
    rw [hs1, hs2, show s2 = chunk ++ c'.inbound from hs, frame, hsq]; rfl
  · cases h

/-- `read_packet`'s loop takes exactly the frames of one payload. -/
theorem readPacketLoop_frames (data rest output : List UInt8) (c : MyConn)
    (hc : c.inbound = frames (packetChunks data) c.seqId ++ rest) :
    readPacketLoop output c = (.ok (output ++ data), { c with
      inbound := rest
      seqId := c.seqId + UInt8.ofNat (data.length / maxPayloadLen + 1) }) := by
  obtain ⟨n, h⟩ : ∃ n, data.length = n := ⟨_, rfl⟩
  induction n using Nat.strong_induction_on generalizing data output c with
  | _ n ih =>
    have hm := maxPayloadLen_eq
    by_cases hlt : data.length < maxPayloadLen
    · rw [packetChunks_of_lt hlt, frames, frames, List.append_nil] at hc
      rw [readPacketLoop_of_inr (by rw [readPacketStep_frame hlt.le hc, if_neg hlt.ne]),
        Nat.div_eq_of_lt hlt]
      rfl
    · have hle : maxPayloadLen ≤ data.length := le_of_not_lt hlt
      have htake : (data.take maxPayloadLen).length = maxPayloadLen := by simp; omega
      have hdiv : data.length / maxPayloadLen =
          (data.drop maxPayloadLen).length / maxPayloadLen + 1 := by
        rw [List.length_drop, hm]; rw [hm] at hle; omega
      rw [packetChunks_of_le hle, frames, List.append_assoc] at hc
      rw [readPacketLoop_of_inl (by rw [readPacketStep_frame htake.le hc, if_pos htake]),
        ih _ (by rw [List.length_drop]; omega) _ _ _ rfl rfl, List.append_assoc,
        List.take_append_drop]
      simp only [hdiv, UInt8.succ_add_ofNat]

theorem readPacket_frames (data rest : List UInt8) (c : MyConn)
    (hc : c.inbound = frames (packetChunks data) c.seqId ++ rest) :
    readPacket c = (.ok data, { c with
      inbound := rest
      seqId := c.seqId + UInt8.ofNat (data.length / maxPayloadLen + 1) }) :=
  readPacketLoop_frames data rest [] c hc

/-- What `read_packet`'s loop returns is what it had, then a payload whose frames, numbered from
the connection's sequence id, are exactly what it took off the stream. -/
theorem readPacketLoop_ok_frames {output p : List UInt8} {c c' : MyConn}
    (h : readPacketLoop output c = (.ok p, c')) :
    ∃ q rest, p = output ++ q ∧ c.inbound = frames (packetChunks q) c.seqId ++ rest ∧
      c' = { c with
        inbound := rest
        seqId := c.seqId + UInt8.ofNat (q.length / maxPayloadLen + 1) } := by
  have hm := maxPayloadLen_eq
  induction output, c using readPacketLoop.induct with
  | case1 o c o' c₁ hs ih =>
    -- a full frame, then the rest of the packet
    rw [readPacketLoop_of_inl hs] at h
    obtain ⟨q, rest, rfl, hin, rfl⟩ := ih h
    obtain ⟨chunk, rest₁, hle, hc, hr, rfl⟩ := readPacketStep_ok_inv hs
    split_ifs at hr with hfull
    cases hr
    have hpc : packetChunks (chunk ++ q) = chunk :: packetChunks q := by
      rw [packetChunks_of_le (by simp; omega), List.take_left' hfull, List.drop_left' hfull]
    refine ⟨chunk ++ q, rest, List.append_assoc _ _ _, ?_, ?_⟩
    · rw [hc, hpc, frames, List.append_assoc, ← hin]
    · simp only [List.length_append, hfull, Nat.add_div_left _ (by omega : 0 < maxPayloadLen),
        ← UInt8.succ_add_ofNat]
  | case2 o c o' c₁ hs =>
    -- the last frame
    rw [readPacketLoop_of_inr hs, Prod.mk.injEq, Except.ok.injEq] at h
    obtain ⟨rfl, rfl⟩ := h
    obtain ⟨chunk, rest, hle, hc, hr, rfl⟩ := readPacketStep_ok_inv hs
    split_ifs at hr with hfull
    cases hr
    have hlt : chunk.length < maxPayloadLen := lt_of_le_of_ne hle hfull
    refine ⟨chunk, rest, rfl, ?_, ?_⟩
    · rw [packetChunks_of_lt hlt, frames, frames, List.append_nil, hc]
    · rw [Nat.div_eq_of_lt hlt]; rfl
  | case3 o c e c₁ hs => rw [readPacketLoop_of_error hs] at h; cases h

/-- `read_packet` returns `p` exactly when the stream starts with the frames of `p`, numbered
from the connection's sequence id: it accepts nothing else, and it moves only the input and the
sequence id, by one per frame. -/
theorem readPacket_ok_iff {c c' : MyConn} {p : List UInt8} :
    readPacket c = (.ok p, c') ↔ ∃ rest, c.inbound = frames (packetChunks p) c.seqId ++ rest ∧
      c' = { c with
        inbound := rest
        seqId := c.seqId + UInt8.ofNat (p.length / maxPayloadLen + 1) } := by
  constructor
  · intro h
    obtain ⟨q, rest, rfl, hin, hc'⟩ := readPacketLoop_ok_frames h
    exact ⟨rest, hin, hc'⟩
  · rintro ⟨rest, hin, rfl⟩
    exact readPacket_frames p rest c hin

/-! ## Writing the frames -/

theorem mask_shift (n k : Nat) : (n &&& (255 <<< k)) >>> k = n / 2 ^ k % 256 := by
  apply Nat.eq_of_testBit_eq; intro i
  have h255 : (255 : Nat) = 2 ^ 8 - 1 := rfl
  have h256 : (256 : Nat) = 2 ^ 8 := rfl
  rw [h256, h255, ← Nat.shiftRight_eq_div_pow, Nat.testBit_mod_two_pow]
  simp only [Nat.testBit_shiftRight, Nat.testBit_and, Nat.testBit_shiftLeft,
    Nat.testBit_two_pow_sub_one]
  by_cases hi : i < 8 <;> simp [hi, Bool.and_comm]

/-- The masked header bytes are the three-byte little-endian length. -/
theorem chunkHeader_eq {n : Nat} (h : n ≤ maxPayloadLen) : chunkHeader n = leBytes 3 n := by
  unfold chunkHeader
  split_ifs with hn
  · subst hn; rfl
  · have h255 : (255 : Nat) = 2 ^ 8 - 1 := rfl
    rw [mask_shift, mask_shift, h255, Nat.and_pow_two_sub_one_eq_mod]
    simp [leBytes, Nat.div_div_eq_div_mul]

/-- `last_was_max` after the loop is whether the payload length is a multiple of
`MAX_PAYLOAD_LEN`. -/
theorem chunks_lastFull {data : List UInt8} (hd : 0 < data.length) (b : Bool) :
    (chunks maxPayloadLen data).foldl (fun _ ch => decide (ch.length = maxPayloadLen)) b =
      decide (data.length % maxPayloadLen = 0) := by
  obtain ⟨n, h⟩ : ∃ n, data.length = n := ⟨_, rfl⟩
  induction n using Nat.strong_induction_on generalizing data b with
  | _ n ih =>
    have hm := maxPayloadLen_eq
    rw [chunks_of_pos (by decide) hd, List.foldl_cons]
    by_cases hle : data.length ≤ maxPayloadLen
    · rw [List.drop_of_length_le hle, chunks_nil, List.foldl_nil, List.take_of_length_le hle]
      rw [hm] at hle ⊢; simp only [decide_eq_decide]; omega
    · rw [ih _ (by simp; omega) (by simp; omega) _ rfl, List.length_drop]
      rw [hm] at hle ⊢; simp only [decide_eq_decide]; omega

theorem writeChunks_spec (chs : List (List UInt8))
    (hchs : ∀ ch ∈ chs, ch.length ≤ maxPayloadLen) (b : Bool) (c : MyConn) :
    writeChunks chs b c =
      (.ok (chs.foldl (fun _ ch => decide (ch.length = maxPayloadLen)) b), { c with
        outbound := c.outbound ++ frames chs c.seqId
        seqId := c.seqId + UInt8.ofNat chs.length }) := by
  induction chs generalizing b c with
  | nil => simp [writeChunks, frames]
  | cons ch chs ih =>
    rw [writeChunks]
    simp only [Act.bind_apply, Act.get_apply, Act.modify_apply, writeIo,
      ih (fun x hx => hchs x (.tail _ hx))]
    simp [frames, frame, chunkHeader_eq (hchs ch (.head _)), UInt8.succ_add_ofNat]

/-- `write_packet` refuses a payload over `max_allowed_packet` only while that is below
`MAX_PAYLOAD_LEN`, and leaves the connection as it was. -/
theorem writePacket_too_large {data : List UInt8} {c : MyConn}
    (h : data.length > c.maxAllowedPacket ∧ c.maxAllowedPacket < maxPayloadLen) :
    writePacket data c = (.error (.err (.MyStrError "Packet too large")), c) := by
  simp [writePacket, h]

/-- What `write_packet` emits: the frames of the payload, from the current sequence id. -/
theorem writePacket_spec {data : List UInt8} {c : MyConn}
    (h : ¬(data.length > c.maxAllowedPacket ∧ c.maxAllowedPacket < maxPayloadLen)) :
    writePacket data c = (.ok (), { c with
      outbound := c.outbound ++ frames (packetChunks data) c.seqId
      seqId := c.seqId + UInt8.ofNat (data.length / maxPayloadLen + 1) }) := by
  have hlen := packetChunks_length data
  simp only [writePacket, Act.bind_apply, Act.get_apply, if_neg h]
  by_cases h0 : data.length = 0
  · rw [List.length_eq_zero.mp h0]
    simp [writeIo, packetChunks, frames, frame, leBytes]
  · rw [if_neg h0, Act.bind_of_ok (writeChunks_spec _ (chunks_length_le _ _) _ _),
      chunks_lastFull (Nat.pos_of_ne_zero h0)]
    rw [packetChunks, List.length_append] at hlen
    simp only [packetChunks, frames_append]
    by_cases hm : data.length % maxPayloadLen = 0
    · simp [hm, writeIo, frames, frame, leBytes] at hlen ⊢
      rw [hlen, UInt8.ofNat_add' _ 1, add_assoc]; rfl
    · simp [hm, frames] at hlen ⊢
      rw [hlen]

/-- A `write_packet` that returned left the connection as `writePacket_spec` says. -/
theorem writePacket_ok {data : List UInt8} {c c' : MyConn}
    (hw : writePacket data c = (.ok (), c')) :
    c' = { c with
      outbound := c.outbound ++ frames (packetChunks data) c.seqId
      seqId := c.seqId + UInt8.ofNat (data.length / maxPayloadLen + 1) } := by
  have hacc : ¬(data.length > c.maxAllowedPacket ∧ c.maxAllowedPacket < maxPayloadLen) :=
    fun h => by rw [writePacket_too_large h] at hw; cases hw
  rw [writePacket_spec hacc] at hw
  exact (Prod.mk.inj hw).2.symm

/-! ## The round trip -/

/-- Whatever `write_packet` accepts, it emits as frames numbered from the writer's sequence id,
and `read_packet` started at that id reads back exactly the payload, stops where the frames end,
and ends at the same sequence id as the writer. -/
theorem writePacket_readPacket (c : MyConn) (data rest : List UInt8) (c' : MyConn)
    (hw : writePacket data c = (.ok (), c')) :
    c'.outbound = c.outbound ++ frames (packetChunks data) c.seqId ∧
    c'.seqId = c.seqId + UInt8.ofNat (data.length / maxPayloadLen + 1) ∧
    ∀ d : MyConn, d.seqId = c.seqId → d.inbound = c'.outbound.drop c.outbound.length ++ rest →
      readPacket d = (.ok data, { d with inbound := rest, seqId := c'.seqId }) := by
  have hacc : ¬(data.length > c.maxAllowedPacket ∧ c.maxAllowedPacket < maxPayloadLen) :=
    fun h => by rw [writePacket_too_large h] at hw; cases hw
  rw [writePacket_spec hacc, Prod.mk.injEq] at hw
  obtain ⟨-, rfl⟩ := hw
  refine ⟨rfl, rfl, fun d hs hd => ?_⟩
  rw [readPacket_frames data rest d (by rw [hd, hs, List.drop_left])]
  simp only [hs]

theorem writePacket_readPacket_three :
    let c := MyConn.init MyOpts.default []
    let c' := { c with outbound := frames (packetChunks [1, 2, 3]) 0, seqId := 1 }
    writePacket [1, 2, 3] c = (.ok (), c') ∧
      (c'.outbound = c.outbound ++ frames (packetChunks [1, 2, 3]) c.seqId ∧
        c'.seqId = c.seqId + UInt8.ofNat ([1, 2, 3].length / maxPayloadLen + 1) ∧
        ∀ d : MyConn, d.seqId = c.seqId → d.inbound = c'.outbound.drop c.outbound.length ++ [] →
          readPacket d = (.ok [1, 2, 3], { d with inbound := [], seqId := c'.seqId })) := by
  intro c c'
  have hw : writePacket [1, 2, 3] c = (.ok (), c') := writePacket_spec (by decide)
  exact ⟨hw, writePacket_readPacket c [1, 2, 3] [] c' hw⟩

end MysqlSimple
