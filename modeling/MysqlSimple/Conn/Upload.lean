import MysqlSimple.Conn.Response

/-!
# The `LOCAL INFILE` upload (`conn.rs:1128-1154`)

`send_local_infile` reads the file into a `max_allowed_packet`-byte buffer and writes what each
read returned as one packet, until a read gives `EndOfFile`; an empty packet then ends the
upload, and one reply packet is read. `sendLocalInfile_sends` says what goes out for every way
the reader may split the file: one packet per read, in order, then the empty one. A read never
returns zero bytes: the `File::read` of this code's `std` reports the end of the file as the error
`EndOfFile` instead (`ReadBytes`), so the empty packet that ends the upload is the only one.
-/

namespace MysqlSimple

/-- The loop of `send_local_infile` on reads that fit the buffer: one packet per read. -/
theorem uploadFile_sends {chunks : List ReadBytes} {c : MyConn}
    (hk : ∀ x ∈ chunks, x.1.length ≤ c.maxAllowedPacket) :
    uploadFile c.maxAllowedPacket (chunks.map .ok ++ [.error .EndOfFile]) c =
      (.ok (), { c with
        outbound := c.outbound ++ packetStream (chunks.map Subtype.val) c.seqId
        seqId := endSeq (chunks.map Subtype.val) c.seqId }) := by
  induction chunks generalizing c with
  | nil => simp [uploadFile, packetStream, endSeq]
  | cons x chunks ih =>
    have hx := hk x (.head _)
    have hw := @writePacket_spec x.1 c (fun h => absurd hx (by omega))
    have hup := ih (c := { c with
      outbound := c.outbound ++ frames (packetChunks x.1) c.seqId
      seqId := nextSeq x.1 c.seqId }) fun y hy => hk y (.tail _ hy)
    rw [List.map_cons, List.cons_append, uploadFile, List.take_of_length_le hx,
      Act.bind_of_ok hw]
    exact hup.trans (by
      simp only [List.map_cons, packetStream, endSeq, List.foldl_cons, List.append_assoc])

/-- Decoding and handling an OK packet moves neither the input nor the output. -/
theorem receiveOk_keeps_stream (pld i o : List UInt8) :
    Act.Preserves (fun d : MyConn => d.inbound = i ∧ d.outbound = o) (receiveOk pld) :=
  ⟨fun c h => by
    simp only [receiveOk, decodeOk, Act.bind_apply]
    cases OkPacket.fromPayload pld <;> exact h⟩

/-- What `send_local_infile` writes and reads, for a file the reader returns as `chunks` and
then `EndOfFile`: the packets `chunks`, in order, then one empty packet; and exactly the one
reply packet after them. -/
theorem sendLocalInfile_sends {fs : FileSystem} {fileName : List UInt8}
    {chunks : List ReadBytes} {reply rest : List UInt8} {c : MyConn}
    (hfs : fs fileName = .ok (chunks.map .ok ++ [.error .EndOfFile]))
    (hk : ∀ x ∈ chunks, x.1.length ≤ c.maxAllowedPacket)
    (hin : c.inbound =
      packetStream [reply] (endSeq (chunks.map Subtype.val ++ [[]]) c.seqId) ++ rest) :
    (sendLocalInfile fs fileName c).2.outbound =
        c.outbound ++ packetStream (chunks.map Subtype.val ++ [[]]) c.seqId ∧
      (sendLocalInfile fs fileName c).2.inbound = rest := by
  set c₁ : MyConn := { c with
    outbound := c.outbound ++ packetStream (chunks.map Subtype.val) c.seqId
    seqId := endSeq (chunks.map Subtype.val) c.seqId }
  have hw := @writePacket_spec [] c₁ (by simp)
  set c₂ : MyConn := { c₁ with
    outbound := c₁.outbound ++ frames (packetChunks []) c₁.seqId
    seqId := c₁.seqId + UInt8.ofNat (([] : List UInt8).length / maxPayloadLen + 1) }
  have hseq : endSeq (chunks.map Subtype.val ++ [[]]) c.seqId = c₂.seqId := by
    simp only [endSeq, List.foldl_append, List.foldl_cons, List.foldl_nil]; rfl
  have hr := @readPacket_aligned reply [] rest c₂ (by rw [hseq] at hin; exact hin)
  have htail := (show
      Act.Preserves (fun d : MyConn => d.inbound = rest ∧ d.outbound = c₂.outbound)
      (do if (← firstByte reply) = 0 then receiveOk reply) from
    (firstByte_preserves reply).bind fun _ =>
      (receiveOk_keeps_stream reply _ _).ite (Act.preserves_pure ())).run
    (c₂.took [reply] [] rest) ⟨rfl, rfl⟩
  simp only [sendLocalInfile, tryIo, hfs, Except.mapError, Except.map, Act.bind_apply,
    Act.ofExcept_apply, Act.get_apply, uploadFile_sends hk, hw, hr]
  rw [packetStream_append, packetStream, packetStream, List.append_nil]
  exact ⟨htail.2.trans (List.append_assoc _ _ _), htail.1⟩

/-- The file `abc`, read as `ab` and then `c`. -/
theorem sendLocalInfile_sends_two_reads :
    let chunks : List ReadBytes := [⟨[0x61, 0x62], by simp⟩, ⟨[0x63], by simp⟩]
    let fs : FileSystem := fun _ => .ok (chunks.map .ok ++ [.error .EndOfFile])
    let reply : List UInt8 := [0, 0, 0, 2, 0, 0, 0]
    let c := MyConn.init MyOpts.default
      (packetStream [reply] (endSeq (chunks.map Subtype.val ++ [[]]) 0) ++ [])
    fs (ascii "data.csv") = .ok (chunks.map .ok ++ [.error .EndOfFile]) ∧
      (∀ x ∈ chunks, x.1.length ≤ c.maxAllowedPacket) ∧
      c.inbound = packetStream [reply] (endSeq (chunks.map Subtype.val ++ [[]]) c.seqId) ++ [] ∧
      ((sendLocalInfile fs (ascii "data.csv") c).2.outbound =
          c.outbound ++ packetStream (chunks.map Subtype.val ++ [[]]) c.seqId ∧
        (sendLocalInfile fs (ascii "data.csv") c).2.inbound = []) := by
  intro chunks fs reply c
  have hk : ∀ x ∈ chunks, x.1.length ≤ c.maxAllowedPacket := by decide
  exact ⟨rfl, hk, rfl, sendLocalInfile_sends rfl hk rfl⟩

/-- Those packets on the wire: `ab`, `c`, and the empty frame that ends the upload. -/
example : packetStream ([[0x61, 0x62], [0x63]] ++ [[]]) 0 =
    [2, 0, 0, 0, 0x61, 0x62, 1, 0, 0, 1, 0x63, 0, 0, 0, 2] := by
  simp [packetStream, packetChunks_of_lt, maxPayloadLen_eq, frames, frame, nextSeq]
  decide

end MysqlSimple
