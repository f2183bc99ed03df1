import NetProfile.Toml.Entries
import NetProfile.Toml.Number
import NetProfile.Toml.Token

/-!
From tokens to documents: tokens are put into lines, the lines are read one by one, and each adds to
what the lines before it have built. Values are read with a stack of the brackets and braces that
are still open, of which there are fewer than `depthLimit`, as there are of the parts of a dotted
name.
-/

namespace NetProfile.Toml

def depthLimit : Nat := 80

/-- The parts of a bare name, with `none` for the dots between them. -/
def barePieces (chars : List Char) : List (Option String) :=
  ((Text.piecesOf (· = '.') chars).map fun part =>
    if part = [] then [] else [some (String.ofList part)]).intersperse [none] |>.flatten

def isBareNameChar (c : Char) : Bool :=
  Text.isAsciiDigit c || Text.isAsciiLetter c || c == '-' || c == '_'

/-- The parts of a name and the dots between them, as far as a token holds them. -/
def namePieces? : Token → Option (List (Option String))
  | .literal chars =>
    if chars.all fun c => c == '.' || isBareNameChar c then some (barePieces chars) else none
  | .quoted part false => some [some part]
  | _ => none

/-- The parts of a name, which stand with single dots between them. -/
def joinParts? : List (Option String) → Option (List String)
  | [some part] => some [part]
  | some part :: none :: rest => (joinParts? rest).map (part :: ·)
  | _ => none

/-- The parts of the dotted name that the tokens make, the last one apart. -/
def dottedName? (tokens : List Token) : Option (List String × String) :=
  match (tokens.mapM namePieces?).bind fun pieces => joinParts? pieces.flatten with
  | none => none
  | some parts =>
    if parts.length < depthLimit then parts.getLast?.map fun last => (parts.dropLast, last)
    else none

def scalar? (chars : List Char) : Option Toml :=
  if chars = ['t', 'r', 'u', 'e'] then some (.bool true)
  else if chars = ['f', 'a', 'l', 's', 'e'] then some (.bool false)
  else if isMoment chars then some (.moment (String.ofList chars))
  else if isDecimal chars then some (.decimal (String.ofList chars))
  else (integer? chars).map .integer

/-- An open array, its last item first, or an open table in braces. -/
inductive Frame where
  | array (items : List Toml)
  /-- `path` and `name` are the parts of the name whose value comes next. -/
  | table (entries : Entries) (path : List String) (name : String)

inductive Next where
  | value
  | valueOrClose
  | nameOrClose
  /-- More of a name, its last token first, or the sign after it. -/
  | name (soFar : List Token)
  | commaOrClose
  | nothing
deriving DecidableEq

structure Building where
  pending : List Frame := []
  next : Next := .value
  done : Toml := .bool false

namespace Building

/-- Puts a finished value into the innermost open frame. -/
def put (building : Building) (value : Toml) : Option Building :=
  match building.pending with
  | [] => some { pending := [], next := .nothing, done := value }
  | .array items :: outer =>
    some { building with pending := .array (value :: items) :: outer, next := .commaOrClose }
  | .table entries path name :: outer =>
    (entries.enter path name value).map fun entries =>
      { building with pending := .table entries [] "" :: outer, next := .commaOrClose }

def openFrame (building : Building) (frame : Frame) (next : Next) : Option Building :=
  if building.pending.length + 1 < depthLimit then
    some { building with pending := frame :: building.pending, next }
  else none

def startValue (building : Building) : Token → Option Building
  | .openBracket _ => building.openFrame (.array []) .valueOrClose
  | .openBrace => building.openFrame (.table [] [] "") .nameOrClose
  | .quoted content _ => building.put (.text content)
  | .literal chars => (scalar? chars).bind building.put
  | _ => none

def close (building : Building) (token : Token) : Option Building :=
  match building.pending, token with
  | .array items :: outer, .closeBracket _ =>
    { building with pending := outer }.put (.array items.reverse)
  | .table entries _ _ :: outer, .closeBrace =>
    { building with pending := outer }.put (.table .inline entries)
  | _, _ => none

/-- One more token of a name, or the sign that ends it. -/
def continueName (building : Building) (soFar : List Token) (token : Token) : Option Building :=
  if token = .equals then
    match building.pending, dottedName? soFar.reverse with
    | .table entries _ _ :: outer, some (path, name) =>
      some { building with pending := .table entries path name :: outer, next := .value }
    | _, _ => none
  else some { building with next := .name (token :: soFar) }

def afterComma (building : Building) : Option Building :=
  match building.pending with
  | .array _ :: _ => some { building with next := .valueOrClose }
  | .table .. :: _ => some { building with next := .name [] }
  | [] => none

/-- Newlines count for nothing directly inside an array. -/
def skipNewline (building : Building) : Option Building :=
  match building.pending with
  | .array _ :: _ => some building
  | _ => none

def step (building : Building) (token : Token) : Option Building :=
  if token = .newline then building.skipNewline
  else match building.next, token with
    | .value, _ => building.startValue token
    | .valueOrClose, .closeBracket _ => building.close token
    | .valueOrClose, _ => building.startValue token
    | .nameOrClose, .closeBrace => building.close token
    | .nameOrClose, _ => building.continueName [] token
    | .name soFar, _ => building.continueName soFar token
    | .commaOrClose, .comma => building.afterComma
    | .commaOrClose, _ => building.close token
    | .nothing, _ => none

end Building

def value? (tokens : List Token) : Option Toml :=
  match tokens.foldlM Building.step {} with
  | some building => if building.next = .nothing then some building.done else none
  | none => none

/-- What a line says. A name has its parts before the last in `path`. -/
inductive Line where
  /-- The header of a table. -/
  | table (path : List String) (name : String)
  /-- A header that tables share. -/
  | member (path : List String) (name : String)
  | entry (path : List String) (name : String) (value : Toml)

def beforeClose? (joined : Bool) (tokens : List Token) : Option (List Token) :=
  match tokens.getLast? with
  | some (.closeBracket adjacent) =>
    if joined && !adjacent then none else some tokens.dropLast
  | _ => none

def Line.ofTokens? : List Token → Option Line
  | .openBracket _ :: .openBracket true :: rest =>
    ((beforeClose? true rest).bind (beforeClose? false)).bind fun tokens =>
      (dottedName? tokens).map fun (path, name) => .member path name
  | .openBracket _ :: rest =>
    (beforeClose? false rest).bind fun tokens =>
      (dottedName? tokens).map fun (path, name) => .table path name
  | tokens =>
    match dottedName? (tokens.takeWhile (· ≠ .equals)) with
    | none => none
    | some (path, name) =>
      (value? ((tokens.dropWhile (· ≠ .equals)).drop 1)).map fun value => .entry path name value

/-- A division of tokens into lines, the last line and its last token first. -/
structure Division where
  /-- The number of brackets that are open: between them a line goes on. -/
  depth : Nat := 0
  line : List Token := []
  lines : List (List Token) := []

def Division.step (division : Division) (token : Token) : Division :=
  match token with
  | .newline =>
    if division.depth = 0 then { lines := division.line.reverse :: division.lines }
    else { division with line := token :: division.line }
  | .openBracket _ =>
    { division with depth := division.depth + 1, line := token :: division.line }
  | .closeBracket _ =>
    { division with depth := division.depth - 1, line := token :: division.line }
  | _ => { division with line := token :: division.line }

def linesOf (tokens : List Token) : List (List Token) :=
  let division := tokens.foldl Division.step {}
  (division.line.reverse :: division.lines).reverse.filter (· ≠ [])

/-- A document as far as it has been read, and where the table of the last header is. -/
structure Draft where
  entries : Entries := []
  place : List String := []

/-- Changes the table at the end of a path of headers. -/
def Draft.change? (draft : Draft) (path : List String) (change : Entries → Option Entries) :
    Option Entries :=
  Entries.within false (fun _ inner => change inner) path .header draft.entries

def Draft.add (draft : Draft) : Line → Option Draft
  | .table path name =>
    (draft.change? path (Entries.open? name)).map fun entries =>
      { entries, place := path ++ [name] }
  | .member path name =>
    (draft.change? path (Entries.openNext? name)).map fun entries =>
      { entries, place := path ++ [name] }
  | .entry path name value =>
    (draft.change? draft.place (Entries.enter path name value)).map fun entries =>
      { draft with entries }

def parse? (document : String) : Option Entries :=
  match tokens? document.toList with
  | none => none
  | some tokens =>
    match (linesOf tokens).mapM Line.ofTokens? with
    | none => none
    | some lines => (lines.foldlM Draft.add {}).map Draft.entries

end NetProfile.Toml
