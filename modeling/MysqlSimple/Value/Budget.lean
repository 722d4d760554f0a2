import MysqlSimple.Value

/-!
# The inline budget of `to_bin_payload` (`conn.rs:635-663`)

`to_bin_payload` inlines a parameter while its encoding is shorter than what is left of
`cap = max_allowed_packet - bitmap_len - values.len() * 8`, and routes it to `send_long_data`
otherwise. Both subtractions are on `uint` and go unchecked. Inside the loop `cap - written`
never wraps: what the loop inlines stays under `cap` (`toBinPayloadLoop_written_le`). The first
subtraction does wrap once `max_allowed_packet` is below `bitmap_len + 8n`. The budget then
comes out close to `2^64`, and every parameter is inlined whatever its size
(`toBinPayload_budget_wraps`).
-/

namespace MysqlSimple

theorem UInt16.toNat_succ_le (i : UInt16) : (i + 1).toNat ≤ i.toNat + 1 := by
  simp only [UInt16.add_def, UInt16.toNat, BitVec.toNat_add]
  exact Nat.mod_le _ _

/-- One turn of the loop on a parameter other than `NULL`: it is inlined while it fits what is
left of the budget, and becomes a large id otherwise. -/
theorem toBinPayloadLoop_of_ne_null {v : Value} (hv : v ≠ .NULL) (cap : Nat) (vs : List Value)
    (i : UInt16) (written : Nat) (bitmap out : List UInt8) (largeIds : List UInt16) :
    toBinPayloadLoop cap (v :: vs) i written bitmap out largeIds =
      if v.toBin.length < uintSub cap written then
        toBinPayloadLoop cap vs (i + 1) (written + v.toBin.length) bitmap (out ++ v.toBin)
          largeIds
      else toBinPayloadLoop cap vs (i + 1) written bitmap out (largeIds ++ [i]) := by
  cases v <;> first | exact absurd rfl hv | rfl

section Loop

variable {cap : Nat} (hcap : cap < 2 ^ 64)
include hcap

/-- `cap - written` never wraps in the loop: from `written ≤ cap`, what the loop inlines keeps
`written` under `cap`, so every later subtraction is exact. -/
theorem toBinPayloadLoop_written_le {vs : List Value} {i : UInt16} {written : Nat}
    {bitmap out : List UInt8} {largeIds : List UInt16} {bitmap' out' : List UInt8}
    {largeIds' : List UInt16} (hw : written ≤ cap)
    (h : toBinPayloadLoop cap vs i written bitmap out largeIds = .ok (bitmap', out', largeIds')) :
    ∃ more, out' = out ++ more ∧ written + more.length ≤ cap := by
  induction vs generalizing i written bitmap out largeIds with
  | nil =>
    cases h
    exact ⟨[], (List.append_nil _).symm, by simpa using hw⟩
  | cons v vs ih =>
    by_cases hv : v = .NULL
    · subst hv
      rw [toBinPayloadLoop] at h
      split_ifs at h
      exact ih hw h
    · rw [toBinPayloadLoop_of_ne_null hv] at h
      split_ifs at h with hfit
      · rw [uintSub_of_le hcap hw] at hfit
        obtain ⟨more, rfl, hle⟩ := ih (by omega) h
        exact ⟨v.toBin ++ more, List.append_assoc _ _ _, by simp only [List.length_append]; omega⟩
      · exact ih hw h

/-- A loop whose parameters all fit under the budget inlines every one of them. -/
theorem toBinPayloadLoop_inlines {vs : List Value} {i : UInt16} {written : Nat}
    {bitmap out : List UInt8} (hsum : written + (vs.flatMap Value.toBin).length < cap)
    (hidx : i.toNat + vs.length ≤ 8 * bitmap.length) :
    ∃ bitmap', toBinPayloadLoop cap vs i written bitmap out [] =
      .ok (bitmap', out ++ vs.flatMap Value.toBin, []) := by
  induction vs generalizing i written bitmap out with
  | nil => exact ⟨bitmap, by simp [toBinPayloadLoop]⟩
  | cons v vs ih =>
    have hsucc := UInt16.toNat_succ_le i
    simp only [List.flatMap_cons, List.length_append, List.length_cons] at hsum hidx
    by_cases hv : v = .NULL
    · subst hv
      rw [toBinPayloadLoop, if_pos (by omega), List.flatMap_cons, Value.toBin, List.nil_append]
      exact ih (by simpa [Value.toBin] using hsum) (by rw [List.length_set]; omega)
    · have hfit : v.toBin.length < uintSub cap written := by
        rw [uintSub_of_le hcap (show written ≤ cap by omega)]; omega
      rw [toBinPayloadLoop_of_ne_null hv, if_pos hfit, List.flatMap_cons, ← List.append_assoc]
      exact ih (by omega) (by omega)

end Loop

/-- Below `bitmap_len + 8n`, the budget `max_allowed_packet - bitmap_len - 8n` wraps around to
`2^64 + max_allowed_packet - bitmap_len - 8n`, and `to_bin_payload` inlines every parameter
whatever its size: none goes to `send_long_data`. -/
theorem toBinPayload_budget_wraps {params : List Column} {values : List Value} {M : Nat}
    (hlen : values.length ≤ params.length)
    (hM : M < (params.length + 7) / 8 + values.length * 8)
    (hsize : (values.flatMap Value.toBin).length +
      ((params.length + 7) / 8 + values.length * 8) < 2 ^ 64) :
    uintSub (uintSub M ((params.length + 7) / 8)) (values.length * 8) =
        2 ^ 64 + M - ((params.length + 7) / 8 + values.length * 8) ∧
      ∃ bitmap, Value.toBinPayload params values M =
        .ok (bitmap, values.flatMap Value.toBin, none) := by
  have hcap : uintSub (uintSub M ((params.length + 7) / 8)) (values.length * 8) =
      2 ^ 64 + M - ((params.length + 7) / 8 + values.length * 8) := by
    unfold uintSub; omega
  refine ⟨hcap, ?_⟩
  obtain ⟨b, hb⟩ : ∃ b, toBinPayloadLoop (uintSub (uintSub M ((params.length + 7) / 8))
      (values.length * 8)) values 0 0 (List.replicate ((params.length + 7) / 8) 0) [] [] =
        .ok (b, [] ++ values.flatMap Value.toBin, []) :=
    toBinPayloadLoop_inlines (by rw [hcap]; omega) (by rw [hcap]; omega)
      (by simp only [UInt16.toNat_zero, List.length_replicate]; omega)
  exact ⟨b, by simp only [Value.toBinPayload, hb, List.nil_append]; rfl⟩

/-- `max_allowed_packet = 1024` and 127 parameters, 126 of them `NULL` and the last a 2000-byte
string: `1024 - 16 - 1016` wraps, and the string is inlined. -/
theorem toBinPayload_budget_wraps_127 :
    let col : Column := ⟨[], [], [], [], [], [], [], 0, 33, 0, mysqlTypeVarString, 0⟩
    let params := List.replicate 127 col
    let values := List.replicate 126 Value.NULL ++ [.Bytes (List.replicate 2000 0x61)]
    values.length ≤ params.length ∧ 1024 < (params.length + 7) / 8 + values.length * 8 ∧
      (values.flatMap Value.toBin).length +
        ((params.length + 7) / 8 + values.length * 8) < 2 ^ 64 ∧
      (uintSub (uintSub 1024 ((params.length + 7) / 8)) (values.length * 8) =
          2 ^ 64 + 1024 - ((params.length + 7) / 8 + values.length * 8) ∧
        ∃ bitmap, Value.toBinPayload params values 1024 =
          .ok (bitmap, values.flatMap Value.toBin, none)) := by
  intro col params values
  have hn : values.length = 127 ∧ params.length = 127 := by
    simp only [values, params, List.length_append, List.length_replicate, List.length_singleton,
      and_self]
  have hsum : (values.flatMap Value.toBin).length = 2003 := by
    have hnull : (List.replicate 126 Value.NULL).flatMap Value.toBin = [] :=
      List.flatMap_eq_nil_iff.mpr fun _ hx => by rw [List.eq_of_mem_replicate hx]; rfl
    simp only [values, List.flatMap_append, hnull, List.flatMap_singleton, List.nil_append,
      Value.toBin, writeLenencBytes, List.length_append, List.length_replicate]
    rfl
  have hl : values.length ≤ params.length := by omega
  have hM : 1024 < (params.length + 7) / 8 + values.length * 8 := by omega
  have hs : (values.flatMap Value.toBin).length +
      ((params.length + 7) / 8 + values.length * 8) < 2 ^ 64 := by omega
  exact ⟨hl, hM, hs, toBinPayload_budget_wraps hl hM hs⟩

end MysqlSimple
