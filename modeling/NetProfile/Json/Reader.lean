import NetProfile.Json.Token

/-!
From tokens to trees, with a stack of the arrays and objects that are still open. At most
`depthLimit` of them may be open at once; a part that is nested deeper is unreadable.
-/

namespace NetProfile.Json

def depthLimit : Nat := 127

/-- An open array or object, its last part first. -/
inductive Frame where
  | array (items : List Json)
  /-- `named` is false once a name could not be read. -/
  | object (members : List (String × Json)) (name : String) (named : Bool)

inductive Next where
  | value
  | valueOrClose
  | nameOrClose
  | name
  | colon
  | commaOrClose
  | nothing
deriving DecidableEq

structure Building where
  pending : List Frame := []
  next : Next := .value
  done : Json := .null

namespace Building

/-- Puts a finished value into the innermost open frame. -/
def put (building : Building) (value : Json) : Building :=
  match building.pending with
  | [] => { pending := [], next := .nothing, done := value }
  | .array items :: outer =>
    { building with pending := .array (value :: items) :: outer, next := .commaOrClose }
  | .object members name named :: outer =>
    { building with
      pending := .object ((name, value) :: members) name named :: outer, next := .commaOrClose }

/-- What a closed frame amounts to below `outer` open ones. -/
def closed (depth : Nat) : Frame → Json
  | .array items => if depth < depthLimit then .array items.reverse else .unreadable
  | .object members _ named =>
    if depth < depthLimit && named then .object members.reverse else .unreadable

def literal? (chars : List Char) : Option Json :=
  if chars = ['t', 'r', 'u', 'e'] then some (.bool true)
  else if chars = ['f', 'a', 'l', 's', 'e'] then some (.bool false)
  else if chars = ['n', 'u', 'l', 'l'] then some .null
  else number? chars

def startValue (building : Building) : Token → Option Building
  | .openArray =>
    some { building with pending := .array [] :: building.pending, next := .valueOrClose }
  | .openObject =>
    some { building with pending := .object [] "" true :: building.pending, next := .nameOrClose }
  | .text (some value) => some (building.put (.text value))
  | .text none => some (building.put .unreadable)
  | .literal chars => (literal? chars).map building.put
  | _ => none

def close (building : Building) (token : Token) : Option Building :=
  match building.pending, token with
  | .array items :: outer, .closeArray =>
    some ({ building with pending := outer }.put (closed outer.length (.array items)))
  | .object members name named :: outer, .closeObject =>
    some ({ building with pending := outer }.put (closed outer.length (.object members name named)))
  | _, _ => none

def startMember (building : Building) (token : Token) : Option Building :=
  match building.pending, token with
  | .object members _ named :: outer, .text (some name) =>
    some { building with pending := .object members name named :: outer, next := .colon }
  | .object members _ _ :: outer, .text none =>
    some { building with pending := .object members "" false :: outer, next := .colon }
  | _, _ => none

def afterComma (building : Building) : Option Building :=
  match building.pending with
  | .array _ :: _ => some { building with next := .value }
  | .object .. :: _ => some { building with next := .name }
  | [] => none

def step (building : Building) (token : Token) : Option Building :=
  match building.next with
  | .value => building.startValue token
  | .valueOrClose =>
    if token = .closeArray then building.close token else building.startValue token
  | .nameOrClose =>
    if token = .closeObject then building.close token else building.startMember token
  | .name => building.startMember token
  | .colon => if token = .colon then some { building with next := .value } else none
  | .commaOrClose => if token = .comma then building.afterComma else building.close token
  | .nothing => none

end Building

def ofTokens? (tokens : List Token) : Option Json :=
  match tokens.foldlM Building.step {} with
  | some building => if building.next = .nothing then some building.done else none
  | none => none

def parse? (text : String) : Option Json := (tokens? text.toList).bind ofTokens?

end NetProfile.Json
