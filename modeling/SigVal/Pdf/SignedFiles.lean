import SigVal.Pdf.SingleValidator

/-!
# Signatures in the bytes of a file

A signature dictionary has its CMS in hexadecimal, between angle brackets. The byte range
leaves out the brackets and what is between them, so that a reader finds the CMS and the
signed bytes by the four numbers alone. It finds the same ones when the file is continued.
-/

namespace SigVal.Pdf

open SigVal.Java

/-! ## Text and numbers -/

/-- The bytes of a text, which is given in pieces. -/
def ofText (pieces : List String) : Bytes := pieces.flatMap fun piece => piece.toUTF8.data.toList

/-- The bytes of a text with a line feed after each line. -/
def ofLines (lines : List String) : Bytes :=
  lines.flatMap fun line => line.toUTF8.data.toList ++ [0x0a]

/-- The last bytes of a number, so many of them. -/
def ofNumber : Nat → Nat → Bytes
  | 0, _ => []
  | size + 1, number => UInt8.ofNat (number / 256 ^ size % 256) :: ofNumber size number

/-- The bytes of numbers of one size. -/
def ofNumbers (size : Nat) (numbers : List Nat) : Bytes := numbers.flatMap (ofNumber size)

/-! ## Hexadecimal -/

def hexDigit (c : UInt8) : Option UInt8 :=
  if 0x30 ≤ c ∧ c ≤ 0x39 then some (c - 0x30)
  else if 0x41 ≤ c ∧ c ≤ 0x46 then some (c - 0x37)
  else none

def parseHex : Bytes → Outcome Bytes
  | [] => .ok []
  | [_] => .error ⟨.io, "Invalid hex string"⟩
  | c :: d :: rest => do
      let high ← deref (hexDigit c)
      let low ← deref (hexDigit d)
      let bytes ← parseHex rest
      pure ((high * 16 + low) :: bytes)

/-- The digit of a number below 16. -/
def digitOf (n : UInt8) : UInt8 := if n < 10 then n + 0x30 else n + 0x37

def toHex (bytes : Bytes) : Bytes := bytes.flatMap fun b => [digitOf (b / 16), digitOf (b % 16)]

/-- Between angle brackets. -/
def hexString (bytes : Bytes) : Bytes := [0x3c] ++ toHex bytes ++ [0x3e]

theorem length_toHex (bytes : Bytes) : (toHex bytes).length = 2 * bytes.length := by
  unfold toHex
  rw [List.length_flatMap]
  simp [Nat.mul_comm]

theorem length_hexString (bytes : Bytes) : (hexString bytes).length = 2 * bytes.length + 2 := by
  simp [hexString, length_toHex]

/-- Both digits of a byte are read back. -/
theorem hexDigit_digitOf (b : UInt8) :
    hexDigit (digitOf (b / 16)) = some (b / 16) ∧ hexDigit (digitOf (b % 16)) = some (b % 16) ∧
      b / 16 * 16 + b % 16 = b := by
  have hall : ∀ i : Fin 256,
      hexDigit (digitOf (UInt8.ofFin i / 16)) = some (UInt8.ofFin i / 16) ∧
        hexDigit (digitOf (UInt8.ofFin i % 16)) = some (UInt8.ofFin i % 16) ∧
        UInt8.ofFin i / 16 * 16 + UInt8.ofFin i % 16 = UInt8.ofFin i := by decide +kernel
  exact hall b.toFin

theorem parseHex_toHex (bytes : Bytes) : parseHex (toHex bytes) = .ok bytes := by
  induction bytes with
  | nil => rfl
  | cons b bytes ih =>
      obtain ⟨hhigh, hlow, hbyte⟩ := hexDigit_digitOf b
      have hdigits : toHex (b :: bytes) =
          digitOf (b / 16) :: digitOf (b % 16) :: toHex bytes := rfl
      rw [hdigits, parseHex, hhigh, hlow, ih]
      show Except.ok (_ :: bytes) = _
      rw [hbyte]

/-! ## Reading by byte range -/

/-- The bytes from one position up to another. -/
def between (doc : Bytes) (start stop : Int) : Bytes := (doc.take stop.toNat).drop start.toNat

theorem between_append {doc : Bytes} {stop : Int} (h : stop ≤ doc.length) (extension : Bytes)
    (start : Int) : between (doc ++ extension) start stop = between doc start stop := by
  unfold between
  rw [List.take_append_of_le_length (by omega)]

theorem between_middle (before middle after : Bytes) :
    between (before ++ middle ++ after) before.length (before ++ middle).length = middle := by
  unfold between
  rw [Int.toNat_natCast, Int.toNat_natCast, List.take_left, List.drop_left]

/-- Four numbers whose parts start within the file. -/
def rangeOf (signature : PDSignature) (doc : Bytes) : Outcome (Int × Int × Int × Int) :=
  match signature.byteRange with
  | [b0, b1, b2, b3] =>
      if b0 ≤ doc.length ∧ toInt (b0 + b1) ≤ doc.length ∧ b2 ≤ doc.length then
        .ok (b0, toInt (b0 + b1), b2, toInt (b2 + b3))
      else .error ⟨.io, "FilterInputStream.skip() returns 0"⟩
  | _ => .error ⟨.io, "no byte range"⟩

def readContents (signature : PDSignature) (doc : Bytes) : Outcome Bytes := do
  let (_, gap, second, _) ← rangeOf signature doc
  parseHex (between doc (gap + 1) (second - 1))

def readSignedContent (signature : PDSignature) (doc : Bytes) : Outcome Bytes := do
  let (first, gap, second, last) ← rangeOf signature doc
  pure (between doc first gap ++ between doc second last)

/-! ## A signed file -/

/-- A file that ends with what a signature covers: the CMS, and the bytes in front of it and
after it, which are signed. -/
structure SignedFile where
  head : Bytes
  cms : Bytes
  tail : Bytes
  /-- As long as an array can be. -/
  size : head.length + (2 * cms.length + 2) + tail.length < 2147483648

namespace SignedFile

variable (file : SignedFile)

def bytes : Bytes := file.head ++ hexString file.cms ++ file.tail

/-- The bytes that are signed. -/
def content : Bytes := file.head ++ file.tail

def byteRange : List Int :=
  [0, file.head.length, file.head.length + (2 * file.cms.length + 2), file.tail.length]

theorem length_bytes :
    file.bytes.length = file.head.length + (2 * file.cms.length + 2) + file.tail.length := by
  simp [bytes, length_hexString, Nat.add_assoc]

/-- With lengths that are known. -/
theorem length_bytes_of {before cms after : Nat} (hhead : file.head.length = before)
    (hcms : file.cms.length = cms) (htail : file.tail.length = after) :
    file.bytes.length = before + (2 * cms + 2) + after := by
  rw [length_bytes, hhead, hcms, htail]

theorem byteRange_of {before cms after : Nat} (hhead : file.head.length = before)
    (hcms : file.cms.length = cms) (htail : file.tail.length = after) :
    file.byteRange = [(0 : Int), before, before + (2 * cms + 2), after] := by
  unfold byteRange
  rw [hhead, hcms, htail]

variable {file} {signature : PDSignature} (h : signature.byteRange = file.byteRange)
  (extension : Bytes)

include h

theorem rangeOf_bytes :
    rangeOf signature (file.bytes ++ extension) =
      .ok (0, file.head.length, (file.head ++ hexString file.cms).length, file.bytes.length) := by
  have hsize := file.size
  have hlength : (file.bytes ++ extension).length = file.head.length + (2 * file.cms.length + 2) +
      file.tail.length + extension.length := by rw [List.length_append, length_bytes]
  have hgap : toInt (0 + (file.head.length : Int)) = file.head.length := by
    unfold toInt
    rw [Int.zero_add, Int.bmod_eq_of_le (by omega) (by omega)]
  have hlast : toInt (file.head.length + (2 * file.cms.length + 2) + file.tail.length) =
      file.bytes.length := by
    unfold toInt
    rw [Int.bmod_eq_of_le (by omega) (by omega), length_bytes]
    push_cast
    rfl
  unfold rangeOf
  rw [h]
  unfold byteRange
  dsimp only
  rw [hgap, hlast, if_pos ⟨by omega, by omega, by omega⟩, List.length_append, length_hexString]
  push_cast
  rfl

/-- The CMS is read back, whatever the file is continued with. -/
theorem readContents_bytes : readContents signature (file.bytes ++ extension) = .ok file.cms := by
  unfold readContents
  rw [rangeOf_bytes h]
  show parseHex (between _ (file.head.length + 1)
    ((file.head ++ hexString file.cms).length - 1)) = _
  have hsplit : file.bytes ++ extension =
      (file.head ++ [0x3c]) ++ toHex file.cms ++ ([0x3e] ++ file.tail ++ extension) := by
    simp [bytes, hexString]
  have hstart : (file.head.length : Int) + 1 = (file.head ++ [0x3c]).length := by simp
  have hstop : ((file.head ++ hexString file.cms).length : Int) - 1 =
      (file.head ++ [0x3c] ++ toHex file.cms).length := by
    simp only [hexString, List.length_append, List.length_cons, List.length_nil]
    omega
  rw [hsplit, hstart, hstop, between_middle, parseHex_toHex]

theorem readSignedContent_bytes :
    readSignedContent signature (file.bytes ++ extension) = .ok file.content := by
  unfold readSignedContent
  rw [rangeOf_bytes h]
  show Except.ok (between _ 0 file.head.length ++
    between _ (file.head ++ hexString file.cms).length file.bytes.length) = Except.ok file.content
  have hfirst : between (file.bytes ++ extension) 0 file.head.length = file.head := by
    have hsplit : file.bytes ++ extension =
        [] ++ file.head ++ (hexString file.cms ++ file.tail ++ extension) := by simp [bytes]
    rw [hsplit]
    exact between_middle [] file.head _
  have hsecond : between (file.bytes ++ extension) (file.head ++ hexString file.cms).length
      file.bytes.length = file.tail := between_middle _ _ _
  rw [hfirst, hsecond]
  rfl

end SignedFile

end SigVal.Pdf
