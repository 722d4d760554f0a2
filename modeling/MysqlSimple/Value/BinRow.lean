import MysqlSimple.Value.ReadBinValue
import Mathlib.Tactic.IntervalCases

/-!
# Binary rows honour the NULL bitmap

A binary row is `0x00`, a NULL bitmap `B` of `(n + 9) / 8` bytes whose bit `i + 2` marks column
`i` as NULL, and then the values of the other columns. `fromBinPayload_reads` shows, for any
reader of binary values, that a successful `from_bin_payload` returns one value per column: `NULL`
exactly where the bitmap bit is set, and elsewhere the results of `read_bin_value` on the rest of
the payload, one after the other, with each column's type and `UNSIGNED` flag. The mask test of
the source, `bitmap[b] & (1 << p) == 0`, is `testBit` (`bitClear_eq`), and the row loop is
followed column by column (`readBinRow_reads`).

With the spec's `read_bin_value`, which never produces `NULL`, the NULL positions of the row are
then exactly the set bits (`fromBinPayload_honours_bitmap`).
-/

namespace MysqlSimple

/-- Bit `(i + 2) % 8` of byte `(i + 2) / 8` of the bitmap `B`: column `i` is NULL. -/
def nullBit (B : List UInt8) (i : Nat) : Bool :=
  (B.getD ((i + 2) / 8) 0).toNat.testBit ((i + 2) % 8)

theorem and_two_pow_eq_zero (x p : Nat) : x &&& 2 ^ p = 0 ↔ x.testBit p = false := by
  constructor
  · intro h
    simpa [Nat.testBit_and, Nat.testBit_two_pow] using congrArg (fun n => n.testBit p) h
  · intro h
    apply Nat.eq_of_testBit_eq
    intro i
    simp only [Nat.testBit_and, Nat.testBit_two_pow, Nat.zero_testBit]
    by_cases hi : p = i
    · subst hi; simp [h]
    · simp [hi]

theorem UInt8.one_shiftLeft_toNat {p : Nat} (hp : p < 8) :
    ((1 : UInt8) <<< UInt8.ofNat p).toNat = 2 ^ p := by
  interval_cases p <;> rfl

theorem UInt8.beq_zero_eq (a : UInt8) : (a == 0) = decide (a.toNat = 0) := by
  rw [Bool.eq_iff_iff, beq_iff_eq, decide_eq_true_iff]
  exact ⟨fun h => h ▸ rfl, fun h => UInt8.toNat.inj h⟩

/-- The source's mask test reads one bit. -/
theorem bitClear_eq (bitmap : List UInt8) (b : Nat) {p : Nat} (hp : p < 8) :
    bitClear bitmap b p = !(bitmap.getD b 0).toNat.testBit p := by
  rw [bitClear, UInt8.beq_zero_eq, UInt8.and_toNat, UInt8.one_shiftLeft_toNat hp]
  by_cases h : (bitmap.getD b 0).toNat.testBit p <;> simp [h, and_two_pow_eq_zero]

/-! ## The spec's `read_bin_value` never produces `NULL` -/

/-- A reader of values that never returns `NULL`. -/
def Reader.NeverNull (x : Reader Value) : Prop := ∀ s, (x s).1 ≠ .ok .NULL

theorem Reader.NeverNull.bind {α : Type} {x : Reader α} {f : α → Reader Value}
    (hf : ∀ a, (f a).NeverNull) : (x >>= f).NeverNull := fun s => by
  simp only [Act.bind_apply]
  split
  · exact hf _ _
  · simp

theorem Reader.NeverNull.map {α : Type} {x : Reader α} {f : α → Value} (hf : ∀ a, f a ≠ .NULL) :
    (f <$> x).NeverNull := fun s => by
  simp only [Act.map_apply]
  split <;> simp [hf]

theorem Reader.neverNull_throw (e : IoError) : (throw e : Reader Value).NeverNull := fun s => by
  simp

theorem Reader.neverNull_pure {v : Value} (hv : v ≠ .NULL) : (pure v : Reader Value).NeverNull :=
  fun _ h => hv (by cases h; rfl)

theorem Reader.NeverNull.ite {c : Prop} [Decidable c] {x y : Reader Value} (hx : x.NeverNull)
    (hy : y.NeverNull) : (if c then x else y).NeverNull := by
  split <;> assumption

theorem readIntN_neverNull (n : Nat) (u : Bool) : (readIntN n u).NeverNull :=
  Reader.NeverNull.bind fun _ _ => by simp

/-- The date reader: each branch either throws or returns a `Date`, through the readers'
binds. -/
theorem readBinDate_neverNull (len : UInt8) : (readBinDate len).NeverNull := by
  unfold readBinDate
  repeat' first
    | with_reducible exact Reader.neverNull_throw _
    | with_reducible exact Reader.neverNull_pure Value.noConfusion
    | with_reducible apply Reader.NeverNull.ite
    | with_reducible apply Reader.NeverNull.bind
    | intro _

theorem readBinTime_neverNull (len : UInt8) : (readBinTime len).NeverNull := by
  unfold readBinTime
  repeat' first
    | with_reducible exact Reader.neverNull_throw _
    | with_reducible exact Reader.neverNull_pure Value.noConfusion
    | with_reducible apply Reader.NeverNull.ite
    | with_reducible apply Reader.NeverNull.bind
    | intro _

/-- One branch per column type, each closed by the reader it runs. -/
theorem readBinValue_neverNull (t : UInt8) (u : Bool) : (readBinValue t u).NeverNull := by
  unfold readBinValue
  repeat' first
    | with_reducible exact readIntN_neverNull _ _
    | with_reducible exact Reader.NeverNull.bind readBinDate_neverNull
    | with_reducible exact Reader.NeverNull.bind readBinTime_neverNull
    | with_reducible exact Reader.neverNull_throw _
    | with_reducible exact Reader.NeverNull.map (by simp)
    | with_reducible apply Reader.NeverNull.ite

section Reads

variable (rd : UInt8 → Bool → Reader Value)

/-- `BinRowReads rd cols nulls s vs`: reading the columns `cols` in order from `s`, with `nulls`
marking the NULL columns, gives `vs` — `NULL` for a marked column, and for any other the result
of `rd` on the column's type and `UNSIGNED` flag at the position the previous reads left. -/
inductive BinRowReads : List Column → List Bool → List UInt8 → List Value → Prop
  | nil (s : List UInt8) : BinRowReads [] [] s []
  | null {c : Column} {cols : List Column} {nulls : List Bool} {s : List UInt8} {vs : List Value} :
      BinRowReads cols nulls s vs → BinRowReads (c :: cols) (true :: nulls) s (.NULL :: vs)
  | read {c : Column} {cols : List Column} {nulls : List Bool} {s s' : List UInt8} {v : Value}
      {vs : List Value} :
      rd c.columnType (c.flags &&& unsignedFlag != 0) s = (.ok v, s') →
      BinRowReads cols nulls s' vs → BinRowReads (c :: cols) (false :: nulls) s (v :: vs)

variable {rd}

theorem BinRowReads.length_eq {cols : List Column} {nulls : List Bool} {s : List UInt8}
    {vs : List Value} (h : BinRowReads rd cols nulls s vs) :
    vs.length = cols.length ∧ nulls.length = cols.length := by
  induction h <;> simp_all

/-- When `rd` never produces `NULL`, the NULL values of a row are exactly its marked columns. -/
theorem BinRowReads.null_iff (hnn : ∀ t u s, (rd t u s).1 ≠ .ok .NULL) {cols : List Column}
    {nulls : List Bool} {s : List UInt8} {vs : List Value} (h : BinRowReads rd cols nulls s vs)
    (i : Nat) (hi : i < vs.length) (hn : i < nulls.length) :
    vs[i] = .NULL ↔ nulls[i] = true := by
  induction h generalizing i with
  | nil => simp at hi
  | null _ ih =>
    cases i with
    | zero => simp
    | succ i => simpa using ih i (by simpa using hi) (by simpa using hn)
  | read hread _ ih =>
    cases i with
    | zero =>
      simp only [List.getElem_cons_zero, Bool.false_eq_true, iff_false]
      exact fun hv => hnn _ _ _ (by rw [hread, hv])
    | succ i => simpa using ih i (by simpa using hi) (by simpa using hn)

/-- The row loop of `from_bin_payload`, from column `i` on, performs the reads `BinRowReads`
describes, with the bitmap bits of columns `i, i + 1, …`. -/
theorem readBinRow_reads (B : List UInt8) (i : Nat) (cols : List Column) (s s' : List UInt8)
    (vs : List Value) (h : readBinRow rd B i cols s = (.ok vs, s')) :
    BinRowReads rd cols ((List.range' i cols.length).map (nullBit B)) s vs := by
  induction cols generalizing i s vs with
  | nil =>
    cases h
    exact .nil _
  | cons c cols ih =>
    have hbit := bitClear_eq B ((i + bitOffset) / 8) (p := (i + bitOffset) % 8) (by omega)
    rw [readBinRow] at h
    rw [List.length_cons, List.range'_succ, List.map_cons]
    by_cases hc : nullBit B i = true
    · -- a NULL column: nothing is read
      rw [if_neg (by rw [hbit]; simpa [nullBit, bitOffset] using hc), Act.pure_bind_apply] at h
      obtain ⟨vs', s₂, hvs, h⟩ := Act.bind_eq_ok h
      cases h
      rw [hc]
      exact .null (ih _ _ _ hvs)
    · rw [if_pos (by rw [hbit]; simpa [nullBit, bitOffset] using hc)] at h
      obtain ⟨v, s₁, hv, h⟩ := Act.bind_eq_ok h
      obtain ⟨vs', s₂, hvs, h⟩ := Act.bind_eq_ok h
      cases h
      rw [Bool.not_eq_true] at hc
      rw [hc]
      exact .read hv (ih _ _ _ hvs)

/-- A successful `from_bin_payload` on `0x00 ++ B ++ rest`, with `B` as long as the bitmap, reads
the columns of `rest` exactly as `BinRowReads` says, with the bits of `B`. -/
theorem fromBinPayload_reads (columns : List Column) (B rest : List UInt8)
    (hB : B.length = (columns.length + 9) / 8) {vs : List Value}
    (h : Value.fromBinPayload rd (0 :: B ++ rest) columns = .ok vs) :
    BinRowReads rd columns ((List.range columns.length).map (nullBit B)) rest vs := by
  have hlen : (columns.length + 7 + bitOffset) / 8 = B.length := by rw [hB]; rfl
  have hdrop : (0 :: (B ++ rest)).drop (1 + B.length) = rest := by
    rw [Nat.add_comm, List.drop_succ_cons, List.drop_left]
  simp only [Value.fromBinPayload, hlen, hdrop, List.cons_append, List.drop_succ_cons,
    List.drop_zero, List.take_left, List.length_cons, List.length_append] at h
  rw [if_neg (by omega)] at h
  split at h <;> rename_i hrow <;> simp only [Except.ok.injEq, reduceCtorEq] at h
  rw [List.range_eq_range', ← h]
  exact readBinRow_reads B 0 columns rest _ _ hrow

end Reads

/-- Binary rows honour the NULL bitmap: for any columns and any payload `0x00 ++ B ++ rest` with
`|B| = (n + 9) / 8`, a successful `from_bin_payload` returns one value per column, value `i` is
`NULL` exactly when bit `(i + 2) % 8` of byte `(i + 2) / 8` of `B` is set, and the other values
are the successive `read_bin_value` results on `rest`. -/
theorem fromBinPayload_honours_bitmap (columns : List Column) (B rest : List UInt8)
    (hB : B.length = (columns.length + 9) / 8) (vs : List Value)
    (h : Value.fromBinPayload readBinValue (0 :: B ++ rest) columns = .ok vs) :
    vs.length = columns.length ∧
      (∀ i (hi : i < vs.length), vs[i] = .NULL ↔ nullBit B i = true) ∧
      BinRowReads readBinValue columns ((List.range columns.length).map (nullBit B)) rest vs := by
  have hr := fromBinPayload_reads columns B rest hB h
  obtain ⟨hv, hn⟩ := hr.length_eq
  refine ⟨hv, fun i hi => ?_, hr⟩
  rw [hr.null_iff (fun t u => readBinValue_neverNull t u) i hi (by omega)]
  simp

/-- Seven `TINY` columns, the last `NULL`: its bit, bit 8, is the first of the bitmap's second
byte, and the six bytes after the bitmap are the other six values. -/
theorem fromBinPayload_honours_bitmap_tiny :
    let c : Column := ⟨[], [], [], [], [], [], [], 0, 0, 0, mysqlTypeTiny, 0⟩
    let cols := List.replicate 7 c
    let vs := [Value.Int 1, .Int 2, .Int 3, .Int 4, .Int 5, .Int 6, .NULL]
    ([0, 1] : List UInt8).length = (cols.length + 9) / 8 ∧
      Value.fromBinPayload readBinValue (0 :: [0, 1] ++ [1, 2, 3, 4, 5, 6]) cols = .ok vs ∧
      (vs.length = cols.length ∧
        (∀ i (hi : i < vs.length), vs[i] = .NULL ↔ nullBit [0, 1] i = true) ∧
        BinRowReads readBinValue cols ((List.range cols.length).map (nullBit [0, 1]))
          [1, 2, 3, 4, 5, 6] vs) := by
  intro c cols vs
  have hrow : Value.fromBinPayload readBinValue (0 :: [0, 1] ++ [1, 2, 3, 4, 5, 6]) cols =
      .ok vs := by decide
  exact ⟨by decide, hrow, fromBinPayload_honours_bitmap cols [0, 1] _ (by decide) _ hrow⟩

end MysqlSimple
