import NetProfile.Error

/-!
IPv4 and IPv6 addresses and their texts. The text of an IPv6 address leaves out the first of its
longest runs of two or more zero groups; an IPv4 address that is mapped into IPv6 is written with
its octets.
-/

namespace NetProfile

structure IPv4 where
  a : UInt8
  b : UInt8
  c : UInt8
  d : UInt8
deriving DecidableEq, Repr

structure IPv6 where
  groups : Vector UInt16 8
deriving DecidableEq, Repr

inductive Address where
  | v4 (address : IPv4)
  | v6 (address : IPv6)
deriving DecidableEq, Repr

namespace IPv4

/-- One to three digits without a needless zero in front. -/
def octet? (digits : List Char) : Option UInt8 :=
  if digits.length ≤ 3 ∧ (digits.head? = some '0' → digits.length = 1) then
    match Numeral.value? 10 digits with
    | some n => if n < 256 then some (UInt8.ofNat n) else none
    | none => none
  else none

def ofChars? (cs : List Char) : Option IPv4 :=
  match (Text.piecesOf (· == '.') cs).map octet? with
  | [some a, some b, some c, some d] => some ⟨a, b, c, d⟩
  | _ => none

def toChars (address : IPv4) : List Char :=
  Nat.toDigits 10 address.a.toNat ++ '.' :: Nat.toDigits 10 address.b.toNat
    ++ '.' :: Nat.toDigits 10 address.c.toNat ++ '.' :: Nat.toDigits 10 address.d.toNat

def toGroups (address : IPv4) : List UInt16 :=
  [address.a.toUInt16 <<< 8 ||| address.b.toUInt16, address.c.toUInt16 <<< 8 ||| address.d.toUInt16]

def ofGroups (high low : UInt16) : IPv4 :=
  ⟨(high >>> 8).toUInt8, high.toUInt8, (low >>> 8).toUInt8, low.toUInt8⟩

end IPv4

namespace IPv6

def group? (digits : List Char) : Option UInt16 :=
  if digits.length ≤ 4 then (Numeral.value? 16 digits).map UInt16.ofNat else none

/-- Groups between colons; where `dotted` is allowed, the last may be an IPv4 address. -/
def groupList? (dotted : Bool) : List (List Char) → Option (List UInt16)
  | [] => some []
  | [last] =>
    match group? last, IPv4.ofChars? last with
    | some group, _ => some [group]
    | none, some address => if dotted then some address.toGroups else none
    | none, none => none
  | piece :: pieces =>
    match group? piece, groupList? dotted pieces with
    | some group, some groups => some (group :: groups)
    | _, _ => none

def groups? (dotted : Bool) (cs : List Char) : Option (List UInt16) :=
  if cs = [] then some [] else groupList? dotted (Text.piecesOf (· == ':') cs)

/-- The parts before and after the first double colon. -/
def cutDouble : List Char → Option (List Char × List Char)
  | [] => none
  | ':' :: ':' :: rest => some ([], rest)
  | c :: rest => (cutDouble rest).map fun (before, after) => (c :: before, after)

def ofGroups? (groups : List UInt16) : Option IPv6 :=
  if size : groups.length = 8 then some ⟨⟨groups.toArray, by simpa using size⟩⟩ else none

/-- Eight groups, or fewer with a double colon for one or more groups of zeros. -/
def ofChars? (cs : List Char) : Option IPv6 :=
  match cutDouble cs with
  | none => (groups? true cs).bind ofGroups?
  | some (before, after) =>
    match groups? false before, groups? true after with
    | some front, some back =>
      if front.length + back.length < 8 then
        ofGroups? (front ++ List.replicate (8 - front.length - back.length) 0 ++ back)
      else none
    | _, _ => none

def leadingZeros : List UInt16 → Nat
  | [] => 0
  | group :: groups => if group = 0 then leadingZeros groups + 1 else 0

/-- Start and length of the first of the longest runs of zeros. -/
def longestZeros : List UInt16 → Nat × Nat
  | [] => (0, 0)
  | group :: groups =>
    let here := leadingZeros (group :: groups)
    let (start, length) := longestZeros groups
    if length ≤ here then (0, here) else (start + 1, length)

def groupChars (groups : List UInt16) : List Char :=
  [':'].intercalate (groups.map fun group => Nat.toDigits 16 group.toNat)

/-- The IPv4 address that is mapped into the last two groups. -/
def mapped? (address : IPv6) : Option IPv4 :=
  match address.groups.toList with
  | [0, 0, 0, 0, 0, 0xFFFF, high, low] => some (.ofGroups high low)
  | _ => none

def toChars (address : IPv6) : List Char :=
  match address.mapped? with
  | some inner => "::ffff:".toList ++ inner.toChars
  | none =>
    let groups := address.groups.toList
    let (start, length) := longestZeros groups
    if length < 2 then groupChars groups
    else groupChars (groups.take start) ++ ':' :: ':' :: groupChars (groups.drop (start + length))

end IPv6

namespace Address

def family : Address → Family
  | v4 _ => .v4
  | v6 _ => .v6

def ofFamily? (family : Family) (text : String) : Option Address :=
  match family with
  | .v4 => (IPv4.ofChars? text.toList).map v4
  | .v6 => (IPv6.ofChars? text.toList).map v6

def parse? (text : String) : Option Address :=
  match ofFamily? .v4 text with
  | some address => some address
  | none => ofFamily? .v6 text

def toText : Address → String
  | v4 address => String.ofList address.toChars
  | v6 address => String.ofList address.toChars

def read (family : Family) (text : String) : Except Error Address :=
  match ofFamily? family text with
  | some address => .ok address
  | none => .error (.invalid text (.notAddressOf family text))

def readServer (family : Family) (text : String) : Except Error Address :=
  match ofFamily? family text with
  | some address => .ok address
  | none => .error (.invalid text (.serverAddress family text))

theorem family_of_ofFamily? {family : Family} {text : String} {address : Address}
    (read : ofFamily? family text = some address) : address.family = family := by
  cases family <;> simp only [ofFamily?, Option.map_eq_some_iff] at read <;>
    obtain ⟨inner, -, rfl⟩ := read <;> rfl

end Address

example : (IPv6.ofChars? "1::2.3.4.5".toList).map IPv6.toChars = some "1::203:405".toList := by
  decide
example : (IPv6.ofChars? "0:0:1:0:0:0:0:0".toList).map IPv6.toChars = some "0:0:1::".toList := by
  decide
example : (IPv6.ofChars? "::FFFF:a01:203".toList).map IPv6.toChars
    = some "::ffff:10.1.2.3".toList := by decide
example : IPv4.ofChars? "10.0.0.01".toList = none := by decide

end NetProfile
