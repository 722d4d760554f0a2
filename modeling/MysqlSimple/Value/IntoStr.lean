import MysqlSimple.Value

/-!
# The SQL text of a byte string

`into_str` renders a `Bytes` value either as a quoted string, when the bytes are valid UTF-8, or
as a `0x` hex literal. The hex branch is exact: reading the digits back gives the bytes
(`unhex_intoStr`). The quoted branch is not: the source's `s.replace("'", "\'")` replaces a quote
by the same one-character string, since `"\'"` and `"'"` are equal Rust literals, so the body is
the bytes verbatim (`intoStr_bytes_of_utf8`). A byte string holding a quote or a backslash then
renders as text that is not a literal of that string; `sqlUnescape` is the reading of a quoted
body that MySQL applies, with `''`, `\'` and `\\`.
-/

namespace MysqlSimple

/-- The body of a single-quoted MySQL string literal, unescaped: `''` and `\'` stand for a quote,
`\\` for a backslash; a lone quote would end the literal, so a body holding one is rejected. -/
def sqlUnescape : List UInt8 → Option (List UInt8)
  | [] => some []
  | 0x27 :: 0x27 :: r => (0x27 :: ·) <$> sqlUnescape r
  | 0x27 :: _ => none
  | 0x5c :: c :: r => (c :: ·) <$> sqlUnescape r
  | [0x5c] => none
  | b :: r => (b :: ·) <$> sqlUnescape r

/-- The value of one hexadecimal digit written by `hexDigit`. -/
def hexValue (c : UInt8) : Nat :=
  if c.toNat < 0x41 then c.toNat - 0x30 else c.toNat - 0x41 + 10

/-- Read back pairs of hexadecimal digits. -/
def unhex : List UInt8 → List UInt8
  | hi :: lo :: r => UInt8.ofNat (16 * hexValue hi + hexValue lo) :: unhex r
  | _ => []

theorem hexValue_hexDigit {n : Nat} (hn : n < 16) : hexValue (hexDigit n) = n := by
  unfold hexValue hexDigit
  split_ifs <;> simp [UInt8.toNat_ofNat'] at * <;> omega

theorem unhex_hexBytes (x : List UInt8) : unhex (x.flatMap hexByte) = x := by
  induction x with
  | nil => rfl
  | cons c x ih =>
    have hc : c.toNat < 256 := c.toNat_lt_size
    simp only [List.flatMap_cons, hexByte, List.cons_append, List.nil_append, unhex, ih,
      hexValue_hexDigit (Nat.div_lt_of_lt_mul (by omega : c.toNat < 16 * 16)),
      hexValue_hexDigit (Nat.mod_lt _ (by omega : 16 > 0))]
    congr
    apply UInt8.toNat.inj
    simp only [UInt8.toNat_ofNat']
    omega

/-- The replacement `into_str` applies to a valid-UTF-8 body changes nothing. -/
theorem flatMap_replace_quote (x : List UInt8) :
    (x.flatMap fun b => if b = quote then [quote] else [b]) = x := by
  induction x with
  | nil => rfl
  | cons b x ih => by_cases h : b = quote <;> simp [h, ih]

/-- A valid-UTF-8 byte string is rendered verbatim between two quotes. -/
theorem intoStr_bytes_of_utf8 (formatF64 : UInt64 → List UInt8) {x : List UInt8}
    (hx : utf8Valid x = true) : Value.intoStr formatF64 (.Bytes x) = quote :: x ++ [quote] := by
  simp [Value.intoStr, hx, flatMap_replace_quote]

/-- Any other byte string is rendered as `0x` and two hex digits per byte, which read back. -/
theorem unhex_intoStr (formatF64 : UInt64 → List UInt8) {x : List UInt8}
    (hx : utf8Valid x = false) :
    Value.intoStr formatF64 (.Bytes x) = ascii "0x" ++ x.flatMap hexByte ∧
      unhex (x.flatMap hexByte) = x :=
  ⟨by simp [Value.intoStr, hx], unhex_hexBytes x⟩

/-- The one-byte string `'` renders as `'''`, whose body `'` is a lone quote: not a literal that
denotes `'`. -/
theorem intoStr_quote_unescaped (formatF64 : UInt64 → List UInt8) :
    Value.intoStr formatF64 (.Bytes [quote]) = [quote, quote, quote] ∧
      sqlUnescape [quote] = none :=
  ⟨intoStr_bytes_of_utf8 formatF64 (by decide), rfl⟩

end MysqlSimple
