namespace ChartTrace

/-!
# UTF-8

* `utf8`: the bytes of a string.
* `readUtf8?`: the string of well-formed bytes.
* `readUtf8Lossy`: a text of any bytes.  Each longest beginning of a character that is not continued
  becomes one replacement character.
-/

/-- A sequence of bytes. -/
abbrev Bytes := List UInt8

/-- The UTF-8 bytes of a string. -/
def utf8 (s : String) : Bytes := s.toByteArray.data.toList

/-- The string whose UTF-8 bytes these are, when they are well formed. -/
def readUtf8? (bs : Bytes) : Option String := String.fromUTF8? ⟨bs.toArray⟩

/-- How many bytes continue a character that starts with `b`, and between what bounds the first of them
lies.  Later ones lie between `0x80` and `0xBF`. -/
def continuation? (b : UInt8) : Option (Nat × UInt8 × UInt8) :=
  if b < 0x80 then some (0, 0, 0)
  else if b < 0xC2 then none
  else if b < 0xE0 then some (1, 0x80, 0xBF)
  else if b = 0xE0 then some (2, 0xA0, 0xBF)
  else if b = 0xED then some (2, 0x80, 0x9F)
  else if b < 0xF0 then some (2, 0x80, 0xBF)
  else if b = 0xF0 then some (3, 0x90, 0xBF)
  else if b < 0xF4 then some (3, 0x80, 0xBF)
  else if b = 0xF4 then some (3, 0x80, 0x8F)
  else none

/-- How many of the first `n` bytes continue a character, the first of them between `lo` and `hi`. -/
def continuing : Nat → UInt8 → UInt8 → Bytes → Nat
  | n + 1, lo, hi, b :: bs =>
    if lo ≤ b ∧ b ≤ hi then continuing n 0x80 0xBF bs + 1 else 0
  | _, _, _, _ => 0

/-- The character of a leading byte and its `n` continuation bytes. -/
def assemble (b : UInt8) (n : Nat) (more : Bytes) : Char :=
  let lead := if n = 0 then b.toNat else b.toNat % Nat.pow 2 (6 - n)
  Char.ofNat (more.foldl (fun v c => v * 64 + c.toNat % 64) lead)

/-- What stands for bytes that are no character. -/
def replacementChar : Char := '�'

/-- The text of any bytes, well formed or not. -/
def readUtf8Lossy : Bytes → List Char
  | [] => []
  | b :: bs =>
    match continuation? b with
    | none => replacementChar :: readUtf8Lossy bs
    | some (n, lo, hi) =>
      let k := continuing n lo hi bs
      (if k = n then assemble b n (bs.take n) else replacementChar) :: readUtf8Lossy (bs.drop k)
termination_by bs => bs.length
decreasing_by all_goals (simp only [List.length_cons, List.length_drop]; omega)

end ChartTrace
