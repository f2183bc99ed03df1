import NetProfile.Dict
import NetProfile.Json

/-!
Readers of JSON trees for plain values, records and alternatives. A record is an object with known
members, in any order and with others among them, or an array of its fields in order. An alternative
is an object with a tag and a content, or an array of the two. A content that stands before its tag
is read late: then the whole of it has to be readable, and names inside it have further forms.
-/

namespace NetProfile.Json

def bool? : Json → Option Bool
  | bool value => some value
  | _ => none

def text? : Json → Option String
  | text value => some value
  | _ => none

def natural? (limit : Nat) : Json → Option Nat
  | int n => if 0 ≤ n ∧ n ≤ limit then some n.toNat else none
  | _ => none

def u8? (json : Json) : Option UInt8 := (natural? 255 json).map UInt8.ofNat

def u32? (json : Json) : Option UInt32 := (natural? 4294967295 json).map UInt32.ofNat

def integer? (low high : Int) : Json → Option Int
  | int n => if low ≤ n ∧ n ≤ high then some n else none
  | _ => none

def i32? (json : Json) : Option Int32 :=
  (integer? (-2147483648) 2147483647 json).map Int32.ofInt

def i64? (json : Json) : Option Int64 :=
  (integer? (-9223372036854775808) 9223372036854775807 json).map Int64.ofInt

def list? {α : Type} (read : Json → Option α) : Json → Option (List α)
  | array items => items.mapM read
  | _ => none

/-- Of members with one name the last one counts. -/
def dict? {α : Type} (read : Json → Option α) : Json → Option (Dict α)
  | object members =>
    (members.mapM fun (member : String × Json) =>
      (read member.2).map fun value => (member.1, value)).map Dict.ofList
  | _ => none

def nullable? {α : Type} (read : Json → Option α) : Json → Option (Option α)
  | null => some none
  | json => (read json).map some

def named (name : String) (members : List (String × Json)) : List Json :=
  members.filterMap fun (other, value) => if other = name then some value else none

/-- The only value of a member, `none` if the member is missing; a repeated member is an error. -/
def member? (name : String) (members : List (String × Json)) : Option (Option Json) :=
  match named name members with
  | [] => some none
  | [value] => some (some value)
  | _ => none

def record? (names : List String) : Json → Option (List (Option Json))
  | object members => names.mapM fun name => member? name members
  | array items => if items.length = names.length then some (items.map some) else none
  | _ => none

/-- The name of a case without content: the name alone, or before null in an object of its own. Read
late, it may also stand before an empty object. -/
def caseName? (late : Bool) : Json → Option String
  | text name => some name
  | object [(name, null)] => some name
  | object [(name, object [])] => if late then some name else none
  | _ => none

/-- Which of the tags is named as a case without content. -/
def caseTag? (tags : List String) (late : Bool) (json : Json) : Option String :=
  (json.caseName? late).filter (· ∈ tags)

/-- Which of the tags is given by its name or, read late, by its position. -/
def fieldTag? (tags : List String) (late : Bool) : Json → Option String
  | text name => if name ∈ tags then some name else none
  | int n => if late && 0 ≤ n then tags[n.toNat]? else none
  | _ => none

/-- A tag, its content and whether the content is read late. -/
structure Tagged where
  tag : String
  content : Option Json
  late : Bool

def contentFirst (tag content : String) : List (String × Json) → Bool
  | [] => false
  | (name, _) :: members =>
    if name = content then true else if name = tag then false else contentFirst tag content members

/-- An alternative. In an object the tag is named as a case, in an array it is a field. -/
def tagged? (tag content : String) (tags : List String) (late : Bool) : Json → Option Tagged
  | object members =>
    match member? tag members, member? content members with
    | some (some label), some held => do
      let found ← label.caseTag? tags late
      if contentFirst tag content members then
        if (held.getD .null).isReadable then some ⟨found, held, true⟩ else none
      else some ⟨found, held, late⟩
    | _, _ => none
  | array [label, held] => do
    let found ← label.fieldTag? tags late
    some ⟨found, some held, late⟩
  | _ => none

end NetProfile.Json
