import MysqlSimple.Io.Bytes

/-!
# The `LOCAL INFILE` sink (`conn/local_infile.rs`)

A `LocalInfile` is the `io::Write` handed to a local-infile handler: a `Cursor` over a fixed
buffer of `BUFFER_SIZE` bytes and the connection. `write` flushes a full buffer first and then
copies into it what fits; `flush` hands the filled prefix to `conn.write_packet` and rewinds the
cursor, but only once `write_packet` has succeeded — on failure the `?` returns first.

The connection is seen only through `write_packet`, whose outcome is the environment's choice: a
`Call` says which outcome the `write_packet` it may trigger has. `calls` records every payload
given to `write_packet` with its outcome, which is all the connection side needs.

`run_inv` carries one invariant over any sequence of calls (`SinkInv`): the cursor stays within
the buffer, every payload is a non-empty prefix of at most `BUFFER_SIZE` bytes, and the payloads
that went through, followed by the buffered bytes, are exactly what the writes accepted.
-/

namespace MysqlSimple

/-- `LocalInfile::BUFFER_SIZE`. -/
def bufferSize : Nat := 4096

/-- `LocalInfile`: the cursor's buffer and position, and the `write_packet` calls made through
`conn` (payload, succeeded). The buffer is the borrowed `[u8; BUFFER_SIZE]`. -/
structure LocalInfile where
  buffer : List UInt8
  position : Nat
  calls : List (List UInt8 × Bool)
  buffer_length : buffer.length = bufferSize

namespace LocalInfile

/-- `LocalInfile::new(buffer, conn)` over a `[u8; BUFFER_SIZE]`: the cursor at 0. -/
def new (buffer : {b : List UInt8 // b.length = bufferSize}) : LocalInfile :=
  ⟨buffer.1, 0, [], buffer.2⟩

/-- `conn.write_packet(payload)`, whose outcome `ok` the environment picks; its error reaches the
handler as `io::ErrorKind::Other`. -/
def writePacket (ok : Bool) (payload : List UInt8) : Act LocalInfile IoError Unit := fun s =>
  let s := { s with calls := s.calls ++ [(payload, ok)] }
  if ok then (.ok (), s) else (.error .OtherIoError, s)

/-- `impl Write for Cursor<&mut [u8]>`: copy as much of `buf` as fits after the position. -/
def cursorWrite (buf : List UInt8) : Act LocalInfile IoError Nat := fun s =>
  let pos := min s.position s.buffer.length
  let amt := min buf.length (s.buffer.length - pos)
  (.ok amt, { s with
    buffer := s.buffer.take pos ++ buf.take amt ++ s.buffer.drop (pos + amt)
    position := s.position + amt
    buffer_length := by simp only [List.length_append, List.length_take, List.length_drop,
      ← s.buffer_length]; omega })

/-- `LocalInfile::flush`. -/
def flush (ok : Bool) : Act LocalInfile IoError Unit := do
  let s ← get
  let n := s.position
  if n > 0 then
    writePacket ok (s.buffer.take n)
  modify fun s => { s with position := 0 }

/-- `LocalInfile::write`. -/
def write (buf : List UInt8) (ok : Bool) : Act LocalInfile IoError Nat := do
  if (← get).position = bufferSize then
    flush ok
  cursorWrite buf

/-- A call on the sink, with the outcome of the `write_packet` it may trigger. -/
inductive Call
  | write (buf : List UInt8) (ok : Bool)
  | flush (ok : Bool)

/-- One call, and what it returned: `some k` for `write` returning `Ok(k)`. -/
def Call.run : Call → Act LocalInfile IoError (Option Nat)
  | .write buf ok => some <$> LocalInfile.write buf ok
  | .flush ok => (fun _ => none) <$> LocalInfile.flush ok

/-- The bytes a call accepted: `buf[..k]` for a write that returned `Ok(k)`. -/
def Call.accepted : Call → Except IoError (Option Nat) → List UInt8
  | .write buf _, .ok (some k) => buf.take k
  | _, _ => []

/-- The sink after a sequence of calls, and the bytes the writes accepted. -/
def run : List Call → LocalInfile → LocalInfile × List UInt8
  | [], s => (s, [])
  | c :: cs, s =>
    let (r, s') := c.run s
    let (s'', acc) := run cs s'
    (s'', c.accepted r ++ acc)

/-- The payloads of the successful `write_packet` calls, in order. -/
def sent (calls : List (List UInt8 × Bool)) : List UInt8 := (calls.filter (·.2)).flatMap (·.1)

/-! ## One call -/

theorem flush_apply (ok : Bool) (s : LocalInfile) : flush ok s =
    if 0 < s.position then
      if ok then (.ok (), { s with calls := s.calls ++ [(s.buffer.take s.position, true)],
                                   position := 0 })
      else (.error .OtherIoError,
        { s with calls := s.calls ++ [(s.buffer.take s.position, false)] })
    else (.ok (), { s with position := 0 }) := by
  unfold flush writePacket
  by_cases hp : 0 < s.position <;> cases ok <;> simp [hp]

theorem cursorWrite_fst (buf : List UInt8) (s : LocalInfile) :
    (cursorWrite buf s).1 =
      .ok (min buf.length (s.buffer.length - min s.position s.buffer.length)) :=
  rfl

/-- The sink's invariant, with `acc` the bytes the writes so far accepted. -/
structure SinkInv (s : LocalInfile) (acc : List UInt8) : Prop where
  position_le : s.position ≤ bufferSize
  calls_ok : ∀ c ∈ s.calls, c.1 ≠ [] ∧ c.1.length ≤ bufferSize
  sent_eq : sent s.calls ++ s.buffer.take s.position = acc

@[simp] theorem sent_append (calls : List (List UInt8 × Bool)) (p : List UInt8) (ok : Bool) :
    sent (calls ++ [(p, ok)]) = sent calls ++ if ok then p else [] := by
  cases ok <;> simp [sent, List.filter_append]

/-- Appending one call whose payload is a non-empty prefix of at most `BUFFER_SIZE` bytes keeps
every payload so. -/
theorem calls_ok_append {calls : List (List UInt8 × Bool)}
    (h : ∀ c ∈ calls, c.1 ≠ [] ∧ c.1.length ≤ bufferSize) {p : List UInt8}
    (hp : p ≠ [] ∧ p.length ≤ bufferSize) (ok : Bool) :
    ∀ c ∈ calls ++ [(p, ok)], c.1 ≠ [] ∧ c.1.length ≤ bufferSize := by
  intro c hc
  rcases List.mem_append.mp hc with hc | hc
  · exact h c hc
  · simp only [List.mem_singleton] at hc
    exact hc ▸ hp

theorem flush_inv {s : LocalInfile} {acc : List UInt8} (h : SinkInv s acc) (ok : Bool) :
    SinkInv (flush ok s).2 acc := by
  have hb := s.buffer_length
  obtain ⟨hpos, hcalls, hsent⟩ := h
  rw [flush_apply]
  by_cases hp : 0 < s.position
  · have hnew : s.buffer.take s.position ≠ [] ∧ (s.buffer.take s.position).length ≤ bufferSize := by
      constructor
      · intro h0
        have := congrArg List.length h0
        simp only [List.length_take, List.length_nil] at this
        omega
      · simp only [List.length_take]; omega
    cases ok <;> simp only [hp, if_true, Bool.false_eq_true, if_false]
    · exact ⟨hpos, calls_ok_append hcalls hnew _, by simpa using hsent⟩
    · exact ⟨by simp, calls_ok_append hcalls hnew _, by simpa using hsent⟩
  · simp only [hp, if_false]
    have : s.position = 0 := by omega
    exact ⟨by simp, hcalls, by simpa [this] using hsent⟩

theorem cursorWrite_inv {s : LocalInfile} {acc : List UInt8} (h : SinkInv s acc)
    (buf : List UInt8) :
    SinkInv (cursorWrite buf s).2
      (acc ++ buf.take (min buf.length (bufferSize - s.position))) := by
  have hb := s.buffer_length
  obtain ⟨hpos, hcalls, hsent⟩ := h
  have hmin : min s.position bufferSize = s.position := by omega
  refine ⟨?_, hcalls, ?_⟩
  · simp only [cursorWrite, hb, hmin]; omega
  · simp only [cursorWrite, hb, hmin, ← hsent, List.append_assoc]
    congr 1
    rw [← List.append_assoc, List.take_left']
    simp only [List.length_append, List.length_take]
    omega

theorem write_apply (buf : List UInt8) (ok : Bool) (s : LocalInfile) :
    write buf ok s =
      if s.position = bufferSize then
        match flush ok s with
        | (.ok _, s') => cursorWrite buf s'
        | (.error e, s') => (.error e, s')
      else cursorWrite buf s := by
  unfold write
  by_cases h : s.position = bufferSize <;> simp only [h, Act.bind_apply, Act.get_apply, if_true,
    if_false, Act.pure_apply]
  split <;> simp_all

/-- A write returns at most what it was given, and at least one byte of a non-empty buffer. -/
theorem write_count {s : LocalInfile} {acc : List UInt8} (h : SinkInv s acc) {buf : List UInt8}
    {ok : Bool} {k : Nat} (hk : (write buf ok s).1 = .ok k) :
    k ≤ buf.length ∧ (buf ≠ [] → 1 ≤ k) := by
  have hb := s.buffer_length
  have hpos := h.position_le
  have hbs : bufferSize = 4096 := rfl
  have hne : buf ≠ [] → 0 < buf.length := fun h => List.length_pos.mpr h
  rw [write_apply] at hk
  split_ifs at hk with hfull
  · rw [flush_apply] at hk
    cases ok <;> simp only [show 0 < s.position by omega, if_true,
      Bool.false_eq_true, if_false, reduceCtorEq] at hk
    simp only [cursorWrite_fst, Except.ok.injEq, hb] at hk
    subst hk
    exact ⟨by omega, fun hb' => by have := hne hb'; omega⟩
  · simp only [cursorWrite_fst, Except.ok.injEq, hb] at hk
    subst hk
    exact ⟨by omega, fun hb' => by have := hne hb'; omega⟩

/-- `cursorWrite_inv`, with the accepted bytes read off the result. -/
theorem cursorWrite_inv' {s : LocalInfile} {acc : List UInt8} (h : SinkInv s acc)
    (buf : List UInt8) :
    SinkInv (cursorWrite buf s).2
      (acc ++ Call.accepted (.write buf true) (some <$> (cursorWrite buf s).1)) := by
  have hb := s.buffer_length
  have hpos := h.position_le
  have hmin : min s.position bufferSize = s.position := by omega
  simpa [cursorWrite_fst, Call.accepted, hmin, hb] using cursorWrite_inv h buf

theorem write_inv {s : LocalInfile} {acc : List UInt8} (h : SinkInv s acc) (buf : List UInt8)
    (ok : Bool) :
    SinkInv (write buf ok s).2
      (acc ++ Call.accepted (.write buf ok) (some <$> (write buf ok s).1)) := by
  rw [write_apply]
  split_ifs with hfull
  · have hf := flush_inv h ok
    split <;> rename_i s' heq <;> rw [heq] at hf
    · simpa [Call.accepted] using cursorWrite_inv' hf buf
    · simpa [Call.accepted] using hf
  · simpa [Call.accepted] using cursorWrite_inv' h buf

theorem Call.run_inv {s : LocalInfile} {acc : List UInt8} (h : SinkInv s acc) (c : Call) :
    SinkInv (c.run s).2 (acc ++ c.accepted (c.run s).1) := by
  cases c with
  | write buf ok =>
    simp only [Call.run, Act.map_apply]
    have := write_inv h buf ok
    split <;> rename_i heq <;> simp only [heq] at this <;> simpa using this
  | flush ok =>
    simp only [Call.run, Act.map_apply]
    split <;> rename_i heq <;> simpa [Call.accepted, heq] using flush_inv h ok

/-- The invariant over any sequence of calls. -/
theorem run_inv (cs : List Call) {s : LocalInfile} {acc : List UInt8} (h : SinkInv s acc) :
    SinkInv (run cs s).1 (acc ++ (run cs s).2) := by
  induction cs generalizing s acc with
  | nil => simpa [run] using h
  | cons c cs ih => simpa [run] using ih (Call.run_inv h c)

/-- The `LOCAL INFILE` sink loses, duplicates and truncates nothing. After any sequence of `write`
and `flush` calls on a fresh sink, whatever `write_packet` did: the cursor is within the buffer;
every payload handed to `write_packet` is non-empty and at most `BUFFER_SIZE` bytes, so the sink
never sends the empty packet that ends an upload; a write of a non-empty buffer that returns
`Ok(k)` has `1 ≤ k ≤ len(buf)`; and the payloads that went through, followed by the buffered
bytes, are the accepted prefixes `buf[..k]` of all writes, in order. -/
theorem sink_exact (buffer : {b : List UInt8 // b.length = bufferSize}) (cs : List Call) :
    let s := (run cs (new buffer)).1
    s.position ≤ bufferSize ∧
      (∀ c ∈ s.calls, c.1 ≠ [] ∧ c.1.length ≤ bufferSize) ∧
      (∀ buf ok k, (write buf ok s).1 = .ok k → buf ≠ [] → 1 ≤ k ∧ k ≤ buf.length) ∧
      sent s.calls ++ s.buffer.take s.position = (run cs (new buffer)).2 := by
  intro s
  have h := @run_inv cs (new buffer) [] ⟨by simp [new], by simp [new], by simp [new, sent]⟩
  rw [List.nil_append] at h
  exact ⟨h.position_le, h.calls_ok,
    fun _ _ _ hk hne => ⟨(write_count h hk).2 hne, (write_count h hk).1⟩, h.sent_eq⟩

end LocalInfile

end MysqlSimple
