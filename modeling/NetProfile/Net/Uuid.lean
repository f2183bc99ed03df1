import NetProfile.Numeral

/-!
Universally unique identifiers: numbers of 128 bits, written as 32 hexadecimal digits, in five
groups with hyphens, and those groups also in braces or as a URN. The case of letters does not
matter, be they digits or the mark of a URN.
-/

namespace NetProfile

structure Uuid where
  number : BitVec 128
deriving DecidableEq, Repr

namespace Uuid

/-- The random identifier of some bits: six of them give way to the version, four, and the variant.
-/
def random (bits : BitVec 128) : Uuid :=
  ⟨(bits &&& ~~~0xf000c000000000000000#128) ||| 0x40008000000000000000#128⟩

/-- The digits of five groups with hyphens between them. -/
def grouped? (cs : List Char) : Option (List Char) :=
  let groups := Text.piecesOf (· == '-') cs
  if groups.map List.length = [8, 4, 4, 4, 12] then some groups.flatten else none

def unbraced? : List Char → Option (List Char)
  | '\x7b' :: rest => if rest.getLast? = some '\x7d' then some rest.dropLast else none
  | _ => none

/-- The digits of any written form in small letters. -/
def digits? (cs : List Char) : Option (List Char) :=
  if cs.length = 32 then some cs
  else match unbraced? cs, Text.dropHead? "urn:uuid:".toList cs with
    | some inner, _ => grouped? inner
    | none, some inner => grouped? inner
    | none, none => grouped? cs

def parse? (text : String) : Option Uuid :=
  ((digits? (text.toList.map Char.toLower)).bind (Numeral.value? 16)).map fun n =>
    ⟨BitVec.ofNat 128 n⟩

def toText (uuid : Uuid) : String :=
  let digits := (Numeral.hexPadded 32 uuid.number.toNat).toList
  let group := fun start length => String.ofList ((digits.drop start).take length)
  String.intercalate "-" [group 0 8, group 8 4, group 12 4, group 16 4, group 20 12]

end Uuid

/-- Whether the text is an identifier in one of its written forms. -/
def isUuid (text : String) : Bool := (Uuid.parse? text).isSome

example : (Uuid.parse? "\x7b67E55044-10B1-426F-9247-BB680E5FE0C8\x7d").map Uuid.toText
    = some "67e55044-10b1-426f-9247-bb680e5fe0c8" := by decide
example : (Uuid.random 0).toText = "00000000-0000-4000-8000-000000000000" := by decide +kernel
example : isUuid "67e5504410b1426f9247bb680e5fe0c8" = true := by decide
example : isUuid "URN:UUID:67e55044-10b1-426f-9247-bb680e5fe0c8" = true := by decide
example : isUuid "67e55044-10b1-426f-9247bb680e5fe0c8" = false := by decide

end NetProfile
