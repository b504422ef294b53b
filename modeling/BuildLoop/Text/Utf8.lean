/-!
# Lossy decoding

Bytes that are no well-formed UTF-8 are read as the replacement character: one for each longest
start of a character that is cut short, and one for each byte that starts none.

    decodeLossy s.toUTF8 = s
-/

namespace BuildLoop.Text

/-- A character that has begun: how many bytes it still needs after the next, the bounds of the next
byte, and the bits read so far. -/
structure Begun where
  more : Nat
  low : Nat
  high : Nat
  bits : Nat

/-- What a first byte begins: a character, or the start of one. -/
def beginChar (b : Nat) : Char ⊕ Begun :=
  if b < 0x80 then .inl (Char.ofNat b)
  else if 0xc2 ≤ b ∧ b ≤ 0xdf then .inr ⟨0, 0x80, 0xbf, b - 0xc0⟩
  else if b = 0xe0 then .inr ⟨1, 0xa0, 0xbf, 0⟩
  else if b = 0xed then .inr ⟨1, 0x80, 0x9f, 0xd⟩
  else if 0xe1 ≤ b ∧ b ≤ 0xef then .inr ⟨1, 0x80, 0xbf, b - 0xe0⟩
  else if b = 0xf0 then .inr ⟨2, 0x90, 0xbf, 0⟩
  else if 0xf1 ≤ b ∧ b ≤ 0xf3 then .inr ⟨2, 0x80, 0xbf, b - 0xf0⟩
  else if b = 0xf4 then .inr ⟨2, 0x80, 0x8f, 4⟩
  else .inl '\ufffd'

/-- Reads bytes after those of a character that has begun; `acc` holds the characters so far, last
first. -/
def decodeFrom (acc : List Char) : Option Begun → List UInt8 → List Char
  | none, [] => acc.reverse
  | some _, [] => ('\ufffd' :: acc).reverse
  | begun, byte :: r =>
    let b := byte.toNat
    match begun with
    | some p =>
      if p.low ≤ b ∧ b ≤ p.high then
        let bits := 64 * p.bits + (b - 0x80)
        match p.more with
        | 0 => decodeFrom (Char.ofNat bits :: acc) none r
        | n + 1 => decodeFrom acc (some ⟨n, 0x80, 0xbf, bits⟩) r
      else
        match beginChar b with
        | .inl c => decodeFrom (c :: '\ufffd' :: acc) none r
        | .inr q => decodeFrom ('\ufffd' :: acc) (some q) r
    | none =>
      match beginChar b with
      | .inl c => decodeFrom (c :: acc) none r
      | .inr q => decodeFrom acc (some q) r

/-- Reads bytes as text, with the replacement character for what is no UTF-8. -/
def decodeLossy (bytes : ByteArray) : String := String.ofList (decodeFrom [] none bytes.toList)

end BuildLoop.Text
