import MysqlSimple.Conn.Command

/-!
# What the sending half of a command changes

Writing a packet moves the output and the sequence id; a command also sets the last command.
Nothing else: every method that only writes keeps each property of the connection that does not
look at those fields, whether it returns, fails or panics. `PacketStable P` says that `P`
ignores the output and the sequence id, `WriteStable P` that it also ignores the last command;
`WritesKeep P`, all the command lemmas ask, that it survives each packet written and each
command's sequence id and last command.

So `execute` sends its packets without reading the input or touching the status flags or the
ledger of OK packets, and it leaves `COM_STMT_EXECUTE` as the last command whenever it returns
(`executeSend_state`).
-/

namespace MysqlSimple

/-- `P` ignores the output and the sequence id. -/
def PacketStable (P : MyConn → Prop) : Prop :=
  ∀ c o s, P c → P { c with outbound := o, seqId := s }

/-- `P` ignores the output, the sequence id and the last command. -/
def WriteStable (P : MyConn → Prop) : Prop :=
  ∀ c o s l, P c → P { c with outbound := o, seqId := s, lastCommand := l }

theorem WriteStable.packetStable {P : MyConn → Prop} (hP : WriteStable P) : PacketStable P :=
  fun c o s h => hP c o s c.lastCommand h

section Packets

variable {P : MyConn → Prop}

theorem writeIo_preserves (hP : PacketStable P) (bytes : List UInt8) :
    Act.Preserves P (writeIo bytes) :=
  Act.preserves_modify fun c h => hP c _ c.seqId h

theorem writeChunks_preserves (hP : PacketStable P) (chunks : List (List UInt8))
    (lastWasMax : Bool) : Act.Preserves P (writeChunks chunks lastWasMax) := by
  induction chunks generalizing lastWasMax with
  | nil => exact Act.preserves_pure _
  | cons chunk rest ih =>
    unfold writeChunks
    exact Act.preserves_get.bind fun c =>
      (Act.preserves_modify fun d h => hP d d.outbound _ h).bind fun _ =>
        (writeIo_preserves hP _).bind fun _ => ih _

theorem writePacket_preserves (hP : PacketStable P) (data : List UInt8) :
    Act.Preserves P (writePacket data) := by
  unfold writePacket
  dsimp only
  repeat' first
    | intro _ | with_reducible apply Act.Preserves.bind | with_reducible exact Act.preserves_pure _
    | with_reducible exact Act.preserves_throw _ | with_reducible exact Act.preserves_get
    | with_reducible exact writeIo_preserves hP _
    | with_reducible exact writeChunks_preserves hP _ _ | with_reducible apply Act.Preserves.ite
    | exact Act.preserves_modify fun d h => hP d d.outbound _ h

end Packets

/-- What the methods that write need of an invariant: it survives every `write_packet`, and the
new sequence id and last command that a command sets. An invariant that ignores all three
(`WriteStable`) is one; one about the output itself can be another. -/
structure WritesKeep (P : MyConn → Prop) : Prop where
  write : ∀ data, Act.Preserves P (writePacket data)
  command : ∀ c s l, P c → P { c with seqId := s, lastCommand := l }

theorem WriteStable.writesKeep {P : MyConn → Prop} (hP : WriteStable P) : WritesKeep P :=
  ⟨writePacket_preserves hP.packetStable, fun c s l h => hP c c.outbound s l h⟩

section Commands

variable {P : MyConn → Prop}

theorem writeCommandData_preserves (hP : WritesKeep P) (cmd : UInt8) (buf : List UInt8) :
    Act.Preserves P (writeCommandData cmd buf) :=
  (Act.preserves_modify fun c h => hP.command c _ _ h).bind fun _ => hP.write _

theorem sendLongChunks_preserves (hP : WritesKeep P) (stmt : Stmt) (id : UInt16)
    (chunks : List (List UInt8)) : Act.Preserves P (sendLongChunks stmt id chunks) := by
  induction chunks with
  | nil => exact Act.preserves_pure _
  | cons chunk rest ih => exact (writeCommandData_preserves hP _ _).bind fun _ => ih

theorem sendLongData_preserves (hP : WritesKeep P) (stmt : Stmt) (params : List Value)
    (ids : List UInt16) : Act.Preserves P (sendLongData stmt params ids) := by
  induction ids with
  | nil => exact Act.preserves_pure _
  | cons id ids ih =>
    have hsend := sendLongChunks_preserves hP stmt id
    unfold sendLongData
    dsimp only
    split
    · exact (panic_preserves _).bind fun _ => ih
    · exact Act.preserves_get.bind fun _ => Act.Preserves.ite
        ((panic_preserves _).bind fun _ => (hsend _).bind fun _ => ih)
        ((Act.preserves_pure _).bind fun _ => (hsend _).bind fun _ => ih)
    · exact (Act.preserves_pure _).bind fun _ => ih

theorem paramType_preserves (stmtParams : List Column) (i : Nat) (v : Value) :
    Act.Preserves P (paramType stmtParams i v) := by
  unfold paramType
  repeat' first | split | exact Act.preserves_pure _ | exact panic_preserves _

theorem paramTypes_preserves (stmtParams : List Column) (i : Nat) (vs : List Value) :
    Act.Preserves P (paramTypes stmtParams i vs) := by
  induction vs generalizing i with
  | nil => exact Act.preserves_pure _
  | cons v vs ih =>
    exact (paramType_preserves _ _ _).bind fun _ => (ih _).bind fun _ => Act.preserves_pure _

theorem executeParams_preserves (hP : WritesKeep P) (stmt : Stmt) (params : List Value) :
    Act.Preserves P (executeParams stmt params) := by
  unfold executeParams
  dsimp only
  repeat' first
    | intro _ | with_reducible apply Act.Preserves.bind | with_reducible exact Act.preserves_pure _
    | with_reducible exact Act.preserves_get | with_reducible exact getRef_preserves _
    | with_reducible exact tryIoFault_preserves _
    | with_reducible exact paramTypes_preserves _ _ _
    | with_reducible exact sendLongData_preserves hP _ _ _
    | with_reducible apply Act.Preserves.ite | split

theorem executeSend_preserves (hP : WritesKeep P) (stmt : Stmt) (params : List Value) :
    Act.Preserves P (executeSend stmt params) := by
  unfold executeSend
  dsimp only
  repeat' first
    | intro _ | with_reducible apply Act.Preserves.bind | with_reducible exact Act.preserves_pure _
    | with_reducible exact Act.preserves_throw _
    | with_reducible exact executeParams_preserves hP _ _
    | with_reducible exact writeCommandData_preserves hP _ _
    | with_reducible apply Act.Preserves.ite

end Commands

/-! ## The last command -/

theorem writeCommandData_lastCommand {cmd : UInt8} {buf : List UInt8} {c c' : MyConn}
    (h : writeCommandData cmd buf c = (.ok (), c')) : c'.lastCommand = cmd := by
  have hw := (writePacket_preserves (P := fun d => d.lastCommand = cmd) (fun _ _ _ h => h)
    (cmd :: buf)).run { c with seqId := 0, lastCommand := cmd } rfl
  simp only [writeCommandData, Act.bind_apply, Act.modify_apply] at h
  rwa [h] at hw

/-- `execute` returns from its sending half with `COM_STMT_EXECUTE` as the last command, the long
data packets before it notwithstanding. -/
theorem executeSend_lastCommand {stmt : Stmt} {params : List Value} {c c' : MyConn}
    (h : executeSend stmt params c = (.ok (), c')) : c'.lastCommand = comStmtExecute := by
  obtain ⟨-, _, _, -, hw⟩ := executeSend_ok h
  exact writeCommandData_lastCommand hw

/-- The sending half of `execute` changes nothing but the output, the sequence id and the last
command. -/
theorem executeSend_state {stmt : Stmt} {params : List Value} {c c' : MyConn}
    (h : executeSend stmt params c = (.ok (), c')) :
    ∃ out s, c' = { c with outbound := out, seqId := s, lastCommand := comStmtExecute } := by
  have hkeep := (executeSend_preserves
    (P := fun d => ∃ out s l, d = { c with outbound := out, seqId := s, lastCommand := l })
    (WriteStable.writesKeep fun _ o s l ⟨_, _, _, hd⟩ => ⟨o, s, l, by subst hd; rfl⟩)
    stmt params).run c ⟨_, _, _, rfl⟩
  simp only [h] at hkeep
  obtain ⟨out, s, l, rfl⟩ := hkeep
  obtain rfl : l = comStmtExecute := executeSend_lastCommand h
  exact ⟨out, s, rfl⟩

end MysqlSimple
