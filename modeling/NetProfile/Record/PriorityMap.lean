import NetProfile.MergePolicy

/-!
VLAN priority maps, written `from:to,from:to`. One side is an 802.1p priority, at most seven; which
one depends on the direction. For removal the right side may be the wildcard `*`.
-/

namespace NetProfile

inductive Direction where
  | ingress
  | egress
deriving DecidableEq, Repr

structure PriorityEntry where
  source : UInt32
  /-- Any priority when it is left open. -/
  target : Option UInt32
deriving DecidableEq, Repr

def Direction.limits : Direction → Nat × Nat
  | ingress => (7, 4294967295)
  | egress => (4294967295, 7)

namespace PriorityEntry

def side? (limit : Nat) (text : String) : Option UInt32 :=
  match Numeral.unsigned? 10 (Text.trimChars text.toList) with
  | some n => if n ≤ limit then some (UInt32.ofNat n) else none
  | none => none

def parse? (direction : Direction) (wildcard : Bool) (text : String) : Option PriorityEntry :=
  match Text.cutOnce ':' (Text.trim text) with
  | none => none
  | some (source, target) =>
    match side? direction.limits.1 source with
    | none => none
    | some left =>
      if wildcard && Text.trim target = "*" then some ⟨left, none⟩
      else (side? direction.limits.2 target).map fun right => ⟨left, some right⟩

def toText (entry : PriorityEntry) : String :=
  Numeral.decimalDigits entry.source.toNat ++ ":"
    ++ match entry.target with
      | some target => Numeral.decimalDigits target.toNat
      | none => "*"

/-- Whether `entry` is one of those that `pattern` stands for. -/
def fits (entry pattern : PriorityEntry) : Bool :=
  entry.source == pattern.source && (pattern.target.isNone || entry.target == pattern.target)

def sameSource (a b : PriorityEntry) : Bool := a.source == b.source

end PriorityEntry

namespace PriorityMap

def readEntry (direction : Direction) (wildcard : Bool) (item : String) :
    Except Error PriorityEntry :=
  match PriorityEntry.parse? direction wildcard item with
  | some entry => .ok entry
  | none => .error (.invalid item (.priorityMap (Text.trim item)))

/-- Blank items are passed over. -/
def parse (direction : Direction) (wildcard : Bool) (text : String) :
    Except Error (List PriorityEntry) :=
  ((Text.items Text.isComma text).filter (Text.trim · ≠ "")).mapM (readEntry direction wildcard)

/-- Each new entry takes the place of the one with the same left side. -/
def add (map added : List PriorityEntry) : List PriorityEntry :=
  added.foldl (fun map entry => putKeyed PriorityEntry.sameSource entry map) map

/-- Drops the entry at a position, or all that one of the written patterns fits. -/
def remove (direction : Direction) (map : List PriorityEntry) (text : String) :
    Except Error (List PriorityEntry) :=
  match position? map.length text with
  | some index => .ok (map.eraseIdx index)
  | none => do
    let patterns ← parse direction true text
    .ok (map.filter fun entry => !patterns.any entry.fits)

def format (map : List PriorityEntry) : String :=
  String.intercalate "," (map.map PriorityEntry.toText)

end PriorityMap

end NetProfile
