import RowQuery.Text.Hex

/-!
Bytes read back from their digits. A byte is two hexadecimal digits, in either
case, and a text of bytes is nothing else. Whichever case the digits of a byte
are written in, they are read as the byte.
-/

namespace RowQuery.Text

def hexBytes? : List Char → Option (List UInt8)
  | [] => some []
  | [_] => none
  | high :: low :: rest => do
    let h ← hexDigit? high
    let l ← hexDigit? low
    let bytes ← hexBytes? rest
    return UInt8.ofNat (h * 16 + l) :: bytes

theorem hexDigit?_lowerHexDigit : ∀ n < 16, hexDigit? (lowerHexDigit n) = some n := by
  decide

theorem hexDigit?_upperHexDigit : ∀ n < 16, hexDigit? (upperHexDigit n) = some n := by
  decide

section Pairs

variable {digit : Nat → Char} (hdigit : ∀ n < 16, hexDigit? (digit n) = some n)
include hdigit

theorem hexBytes?_pair (b : UInt8) (rest : List Char) :
    hexBytes? (digit (b.toNat / 16) :: digit (b.toNat % 16) :: rest) =
      (hexBytes? rest).map (b :: ·) := by
  have hb : b.toNat < 256 := b.toNat_lt
  have hhigh := hdigit (b.toNat / 16) (by omega)
  have hlow := hdigit (b.toNat % 16) (by omega)
  have hbyte : UInt8.ofNat (b.toNat / 16 * 16 + b.toNat % 16) = b := by
    rw [Nat.div_add_mod', UInt8.ofNat_toNat]
  simp only [hexBytes?, hhigh, hlow, Option.bind_eq_bind, Option.bind_some, hbyte]
  cases hexBytes? rest <;> rfl

theorem hexBytes?_flatMap (bytes : List UInt8) :
    hexBytes? (bytes.flatMap fun b => [digit (b.toNat / 16), digit (b.toNat % 16)]) =
      some bytes := by
  induction bytes with
  | nil => rfl
  | cons b bytes ih =>
    rw [List.flatMap_cons, List.cons_append, List.singleton_append, hexBytes?_pair hdigit, ih,
      Option.map_some]

end Pairs

theorem hexBytes?_byteHexLower (b : UInt8) : hexBytes? (byteHexLower b) = some [b] :=
  hexBytes?_pair hexDigit?_lowerHexDigit b []

theorem hexBytes?_hexUpper (bytes : List UInt8) :
    hexBytes? (hexUpper bytes).toList = some bytes := by
  rw [hexUpper, String.toList_ofList]
  exact hexBytes?_flatMap hexDigit?_upperHexDigit bytes

theorem isAlphanum_of_mem_pair {digit : Nat → Char}
    (hdigit : ∀ n < 16, (digit n).isAlphanum = true) {b : UInt8} {c : Char}
    (hc : c ∈ [digit (b.toNat / 16), digit (b.toNat % 16)]) : c.isAlphanum = true := by
  have hb : b.toNat < 256 := b.toNat_lt
  rw [List.mem_cons, List.mem_singleton] at hc
  rcases hc with rfl | rfl
  · exact hdigit (b.toNat / 16) (by omega)
  · exact hdigit (b.toNat % 16) (by omega)

theorem isAlphanum_of_mem_byteHexLower {b : UInt8} {c : Char} (hc : c ∈ byteHexLower b) :
    c.isAlphanum = true := by
  have hdigit : ∀ n < 16, (lowerHexDigit n).isAlphanum = true := by decide
  exact isAlphanum_of_mem_pair hdigit hc

theorem isAlphanum_of_mem_hexUpper {bytes : List UInt8} {c : Char}
    (hc : c ∈ (hexUpper bytes).toList) : c.isAlphanum = true := by
  have hdigit : ∀ n < 16, (upperHexDigit n).isAlphanum = true := by decide
  rw [hexUpper, String.toList_ofList] at hc
  obtain ⟨b, -, hc⟩ := List.mem_flatMap.mp hc
  exact isAlphanum_of_mem_pair hdigit hc

end RowQuery.Text
