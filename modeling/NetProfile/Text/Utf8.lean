/-!
UTF-8: lengths in bytes, the bytes of a text, and the text of bytes. Reading never fails: each
maximal ill-formed part reads as one replacement character.
-/

namespace NetProfile.Text

def utf8Bytes (text : String) : List UInt8 := text.toList.flatMap String.utf8EncodeChar

def byteLength (text : String) : Nat := (utf8Bytes text).length

def replacement : Char := '\ufffd'

private def within (low high : UInt8) (b : UInt8) : Bool := low ≤ b && b ≤ high

private def isTail (b : UInt8) : Bool := within 0x80 0xBF b

/-- Whether `second` may follow the lead byte `lead` of a sequence of three bytes. -/
private def fitsThree (lead second : UInt8) : Bool :=
  (lead == 0xE0 && within 0xA0 0xBF second) || (within 0xE1 0xEC lead && isTail second)
    || (lead == 0xED && within 0x80 0x9F second) || (within 0xEE 0xEF lead && isTail second)

/-- Whether `second` may follow the lead byte `lead` of a sequence of four bytes. -/
private def fitsFour (lead second : UInt8) : Bool :=
  (lead == 0xF0 && within 0x90 0xBF second) || (within 0xF1 0xF3 lead && isTail second)
    || (lead == 0xF4 && within 0x80 0x8F second)

private def tailBits (b : UInt8) : Nat := b.toNat % 0x40

/-- Ill-formed parts are cut where the first byte stands that cannot continue them. -/
def decodeLossy : List UInt8 → List Char
  | [] => []
  | a :: rest =>
    if a < 0x80 then Char.ofNat a.toNat :: decodeLossy rest
    else if within 0xC2 0xDF a then
      match rest with
      | b :: rest =>
        if isTail b then Char.ofNat (a.toNat % 0x20 * 0x40 + tailBits b) :: decodeLossy rest
        else replacement :: decodeLossy (b :: rest)
      | [] => [replacement]
    else if within 0xE0 0xEF a then
      match rest with
      | b :: rest =>
        if fitsThree a b then
          match rest with
          | c :: rest =>
            if isTail c then
              Char.ofNat (a.toNat % 0x10 * 0x1000 + tailBits b * 0x40 + tailBits c)
                :: decodeLossy rest
            else replacement :: decodeLossy (c :: rest)
          | [] => [replacement]
        else replacement :: decodeLossy (b :: rest)
      | [] => [replacement]
    else if within 0xF0 0xF4 a then
      match rest with
      | b :: rest =>
        if fitsFour a b then
          match rest with
          | c :: rest =>
            if isTail c then
              match rest with
              | d :: rest =>
                if isTail d then
                  Char.ofNat (a.toNat % 8 * 0x40000 + tailBits b * 0x1000 + tailBits c * 0x40
                    + tailBits d) :: decodeLossy rest
                else replacement :: decodeLossy (d :: rest)
              | [] => [replacement]
            else replacement :: decodeLossy (c :: rest)
          | [] => [replacement]
        else replacement :: decodeLossy (b :: rest)
      | [] => [replacement]
    else replacement :: decodeLossy rest

def ofUtf8Lossy (bytes : List UInt8) : String := String.ofList (decodeLossy bytes)

example : byteLength "aé€😀" = 10 := by decide
example : decodeLossy [0xF0, 0x9F, 0x98, 0x80] = ['😀'] := by decide
example : decodeLossy [0xE2, 0x82, 0x41, 0xFF] = [replacement, 'A', replacement] := by decide

end NetProfile.Text
