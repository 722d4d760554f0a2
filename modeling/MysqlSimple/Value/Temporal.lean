import MysqlSimple.Value.ReadBinValue

/-!
# Dates and times as statement parameters (`conn.rs:531-595`)

`Value::to_bin` writes a `Date` or a `Time` as a length byte and that many bytes. It takes the
shortest form whose dropped fields are zero, in first-match order. `readBinDate` and
`readBinTime`, the spec's reading of such a value, give back every `Date` as it was sent, and
every `Time` too except the zero duration: the empty form has no room for its sign, so
`-00:00:00` comes back as `00:00:00`. The encoding is therefore injective on dates, and on times
up to that one sign.
-/

namespace MysqlSimple

/-- A `Time` with its sign cleared when it is the zero duration: what survives the empty form. -/
def Value.zeroTimeUnsigned : Value → Value
  | .Time neg d h m s u => .Time (neg && !decide (d = 0 ∧ h = 0 ∧ m = 0 ∧ s = 0 ∧ u = 0)) d h m s u
  | v => v

theorem zeroTimeUnsigned_of_ne {neg : Bool} {d : UInt32} {h m s : UInt8} {u : UInt32}
    (hz : ¬(d = 0 ∧ h = 0 ∧ m = 0 ∧ s = 0 ∧ u = 0)) :
    (Value.Time neg d h m s u).zeroTimeUnsigned = .Time neg d h m s u := by
  simp [Value.zeroTimeUnsigned, hz]

/-! ## Reading back what `to_bin` wrote -/

theorem readBinDate_toBin (y : UInt16) (m d h i s : UInt8) (u : UInt32) (rest : List UInt8) :
    (readU8 >>= readBinDate) ((Value.Date y m d h i s u).toBin ++ rest) =
      (.ok (.Date y m d h i s u), rest) := by
  rw [Value.toBin]
  split_ifs with h0 h4 h7
  · obtain ⟨rfl, rfl, rfl, rfl, rfl, rfl, rfl⟩ := h0; rfl
  · obtain ⟨rfl, rfl, rfl, rfl⟩ := h4
    simp [readBinDate, readLeU16_writeLeU16]
  · subst h7
    simp [readBinDate, readLeU16_writeLeU16]
  · simp [readBinDate, readLeU16_writeLeU16, readLeU32_writeLeU32]

theorem readBinTime_toBin (neg : Bool) (d : UInt32) (h m s : UInt8) (u : UInt32)
    (rest : List UInt8) :
    (readU8 >>= readBinTime) ((Value.Time neg d h m s u).toBin ++ rest) =
      (.ok (Value.Time neg d h m s u).zeroTimeUnsigned, rest) := by
  rw [Value.toBin]
  by_cases h0 : d = 0 ∧ h = 0 ∧ m = 0 ∧ s = 0 ∧ u = 0
  · obtain ⟨rfl, rfl, rfl, rfl, rfl⟩ := h0
    simp [readBinTime, Value.zeroTimeUnsigned]
  rw [if_neg h0, zeroTimeUnsigned_of_ne h0]
  by_cases h8 : u = 0
  · subst h8
    cases neg <;> simp [readBinTime, readLeU32_writeLeU32]
  · cases neg <;> simp [readBinTime, readLeU32_writeLeU32, h8]

/-! ## What the encoding keeps -/

/-- Two values a reader gives back from their encodings: when the encodings agree, so do the
values read. -/
theorem toBin_eq_of_reads {dec : Reader Value} {v w v' w' : Value}
    (hv : dec (v.toBin ++ []) = (.ok v', [])) (hw : dec (w.toBin ++ []) = (.ok w', []))
    (heq : v.toBin = w.toBin) : v' = w' := by
  rw [heq, hw] at hv
  cases hv; rfl

theorem toBin_date_injective {v w : Value} (hv : v.isDate) (hw : w.isDate)
    (heq : v.toBin = w.toBin) : v = w := by
  cases v <;> cases hv
  cases w <;> cases hw
  exact toBin_eq_of_reads (readBinDate_toBin ..) (readBinDate_toBin ..) heq

theorem toBin_time_injective {v w : Value} (hv : v.isTime) (hw : w.isTime)
    (heq : v.toBin = w.toBin) :
    v = w ∨ ∃ neg neg', v = .Time neg 0 0 0 0 0 ∧ w = .Time neg' 0 0 0 0 0 := by
  cases v <;> cases hv
  cases w <;> cases hw
  rename_i neg d h m s u neg' d' h' m' s' u'
  have hread := toBin_eq_of_reads (readBinTime_toBin ..) (readBinTime_toBin ..) heq
  simp only [Value.zeroTimeUnsigned, Value.Time.injEq] at hread
  obtain ⟨hn, rfl, rfl, rfl, rfl, rfl⟩ := hread
  by_cases hz : d = 0 ∧ h = 0 ∧ m = 0 ∧ s = 0 ∧ u = 0
  · obtain ⟨rfl, rfl, rfl, rfl, rfl⟩ := hz
    exact .inr ⟨_, _, rfl, rfl⟩
  · simp only [hz, decide_False, Bool.not_false, Bool.and_true] at hn
    exact .inl (hn ▸ rfl)

theorem toBin_date_length_byte {v : Value} (hv : v.isDate) :
    ∃ b rest, v.toBin = b :: rest ∧ rest.length = b.toNat ∧ b ∈ [0, 4, 7, 11] := by
  cases v <;> cases hv
  rw [Value.toBin]
  split_ifs <;> exact ⟨_, _, rfl, by simp [UInt8.size], by simp⟩

theorem toBin_time_length_byte {v : Value} (hv : v.isTime) :
    ∃ b rest, v.toBin = b :: rest ∧ rest.length = b.toNat ∧ b ∈ [0, 8, 12] := by
  cases v <;> cases hv
  rw [Value.toBin]
  split_ifs <;> exact ⟨_, _, rfl, by simp [UInt8.size], by simp⟩

/-- `to_bin` on dates and times: a length byte and that many bytes, and nothing lost but the sign
of a zero duration. -/
theorem temporal_toBin_lossless :
    (∀ v w : Value, v.isDate → w.isDate → v.toBin = w.toBin → v = w) ∧
    (∀ v w : Value, v.isTime → w.isTime → v.toBin = w.toBin →
      v = w ∨ ∃ neg neg', v = .Time neg 0 0 0 0 0 ∧ w = .Time neg' 0 0 0 0 0) ∧
    (∀ v : Value, v.isDate →
      ∃ b rest, v.toBin = b :: rest ∧ rest.length = b.toNat ∧ b ∈ [0, 4, 7, 11]) ∧
    (∀ v : Value, v.isTime →
      ∃ b rest, v.toBin = b :: rest ∧ rest.length = b.toNat ∧ b ∈ [0, 8, 12]) :=
  ⟨fun _ _ => toBin_date_injective, fun _ _ => toBin_time_injective,
    fun _ => toBin_date_length_byte, fun _ => toBin_time_length_byte⟩

/-- `-00:00:00` and `00:00:00` are sent alike, and are the zero durations the law allows; the
date `2014-05-05` goes out as its 4-byte form. -/
theorem temporal_toBin_lossless_2014 :
    let v := Value.Time true 0 0 0 0 0
    let w := Value.Time false 0 0 0 0 0
    let d := Value.Date 2014 5 5 0 0 0 0
    v.isTime ∧ w.isTime ∧ v.toBin = w.toBin ∧
      (v = w ∨ ∃ neg neg', v = .Time neg 0 0 0 0 0 ∧ w = .Time neg' 0 0 0 0 0) ∧
      d.isDate ∧ ∃ b rest, d.toBin = b :: rest ∧ rest.length = b.toNat ∧ b ∈ [0, 4, 7, 11] :=
  ⟨rfl, rfl, rfl, temporal_toBin_lossless.2.1 _ _ rfl rfl rfl, rfl,
    temporal_toBin_lossless.2.2.1 _ rfl⟩

/-- `-00:00:00` and `00:00:00` are sent alike, as the empty form. -/
theorem toBin_time_drops_zero_sign :
    (Value.Time true 0 0 0 0 0).toBin = (Value.Time false 0 0 0 0 0).toBin ∧
      Value.Time true 0 0 0 0 0 ≠ .Time false 0 0 0 0 0 := by
  decide

end MysqlSimple
