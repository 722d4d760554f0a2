import MysqlSimple.Value

/-!
# Text rows as the server writes them

A row of the text protocol is one cell after another: `0xFB` for `NULL`, a length-encoded
string otherwise (§4.2 of the spec). `textRow` writes one; `fromPayload_textRow` shows that
`Value::from_payload` reads it back cell for cell, and `textRow_not_terminator` that the test of
`QueryResult::next` never takes it for an EOF or an ERR packet, whatever its first cell: a
length-encoded prefix never starts with `0xFB` or `0xFF`, and one that starts with `0xFE`
announces at least `2^24` bytes.
-/

namespace MysqlSimple

/-- A text-protocol row as the server encodes it. -/
def textRow (cells : List (Option (List UInt8))) : List UInt8 :=
  cells.flatMap fun
    | none => [0xfb]
    | some x => writeLenencBytes x

/-- The value a text cell stands for. -/
def cellValue : Option (List UInt8) → Value
  | none => .NULL
  | some x => .Bytes x

/-- The cells of a row each fit a length-encoded integer. -/
def CellsFit (cells : List (Option (List UInt8))) : Prop := ∀ x, some x ∈ cells → x.length < 2 ^ 64

theorem writeLenencInt_head (n : Nat) :
    ∃ b r, writeLenencInt n = b :: r ∧ b ≠ 0xfb ∧ b ≠ 0xff ∧ (b = 0xfe → 2 ^ 24 ≤ n) := by
  unfold writeLenencInt
  split_ifs with h1 h2 h3
  · have hb := UInt8.ofNat_lt_fb h1
    refine ⟨_, _, rfl, fun he => ?_, fun he => ?_, fun he => ?_⟩ <;> rw [he] at hb <;>
      exact absurd hb (by decide)
  · exact ⟨_, _, rfl, by decide, by decide, fun h => absurd h (by decide)⟩
  · exact ⟨_, _, rfl, by decide, by decide, fun h => absurd h (by decide)⟩
  · exact ⟨_, _, rfl, by decide, by decide, fun _ => by omega⟩

@[simp] theorem textRow_nil : textRow [] = [] := rfl

@[simp] theorem textRow_cons_none (cells : List (Option (List UInt8))) :
    textRow (none :: cells) = 0xfb :: textRow cells := rfl

@[simp] theorem textRow_cons_some (x : List UInt8) (cells : List (Option (List UInt8))) :
    textRow (some x :: cells) = writeLenencBytes x ++ textRow cells := rfl

/-- `Value::from_payload` reads a text row back cell for cell. -/
theorem fromPayload_textRow {cells : List (Option (List UInt8))} (h : CellsFit cells) :
    Value.fromPayload (textRow cells) = .ok (cells.map cellValue) := by
  induction cells with
  | nil => simp [Value.fromPayload]
  | cons cell cells ih =>
    have ih := ih fun x hx => h x (.tail _ hx)
    cases cell with
    | none =>
      rw [textRow_cons_none, Value.fromPayload, if_pos rfl, ih]; rfl
    | some x =>
      obtain ⟨b, r, hw, hb, -, -⟩ := writeLenencInt_head x.length
      have hread := readLenencBytes_writeLenencBytes (h x (.head _)) (textRow cells)
      simp only [writeLenencBytes, hw, List.cons_append, List.append_assoc] at hread
      rw [textRow_cons_some, writeLenencBytes, hw, List.cons_append, List.cons_append,
        List.append_assoc, Value.fromPayload, if_neg hb]
      split <;> rename_i heq <;> rw [heq] at hread <;> simp only [Prod.mk.injEq] at hread
      · obtain ⟨h1, h2⟩ := hread
        cases h1; rw [← h2] at ih
        simp [ih, cellValue]
      · exact absurd hread.1 (by simp)

/-- A row with at least one cell is not empty, and the text branch of `QueryResult::next` does
not take it for an EOF or ERR packet. -/
theorem textRow_not_terminator {cells : List (Option (List UInt8))} (hne : cells ≠ []) :
    ∃ b rest, textRow cells = b :: rest ∧ ¬((b = 0xfe ∨ b = 0xff) ∧ (b :: rest).length < 0xfe) := by
  obtain ⟨cell, cells, rfl⟩ := List.exists_cons_of_ne_nil hne
  cases cell with
  | none => exact ⟨_, _, textRow_cons_none _, fun h => absurd h.1 (by decide)⟩
  | some x =>
    obtain ⟨b, r, hw, -, hff, hfe⟩ := writeLenencInt_head x.length
    refine ⟨b, r ++ x ++ textRow cells, by simp [writeLenencBytes, hw], ?_⟩
    rintro ⟨hb | hb, hlen⟩
    · have := hfe hb
      simp only [List.length_cons, List.length_append] at hlen; omega
    · exact hff hb

end MysqlSimple
