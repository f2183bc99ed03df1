import NetProfile.Json

/-!
The tokens of a JSON text, found in one pass over its characters. A text token is `none` when it
holds half of a surrogate pair.
-/

namespace NetProfile.Json

inductive Token where
  | openArray
  | closeArray
  | openObject
  | closeObject
  | comma
  | colon
  | text (value : Option String)
  /-- A word or number. -/
  | literal (chars : List Char)
deriving DecidableEq, Repr

/-- A quoted text as far as it has been read, its last character first. -/
structure Quoted where
  chars : List Char := []
  /-- The first half of a surrogate pair whose second half has to come next. -/
  lead : Option Nat := none
  paired : Bool := true
deriving DecidableEq, Repr

namespace Quoted

def isLead (n : Nat) : Bool := 0xD800 ≤ n && n < 0xDC00

def isTrail (n : Nat) : Bool := 0xDC00 ≤ n && n < 0xE000

/-- A lead that nothing completes. -/
def settle (quoted : Quoted) : Quoted :=
  if quoted.lead.isSome then { quoted with lead := none, paired := false } else quoted

def push (quoted : Quoted) (c : Char) : Quoted :=
  let quoted := quoted.settle
  { quoted with chars := c :: quoted.chars }

/-- Adds the UTF-16 unit that an escape gives by its number. -/
def pushUnit (quoted : Quoted) (unit : Nat) : Quoted :=
  match quoted.lead with
  | some lead =>
    if isTrail unit then
      { quoted with
        chars := Char.ofNat (0x10000 + (lead - 0xD800) * 0x400 + (unit - 0xDC00)) :: quoted.chars
        lead := none }
    else if isLead unit then { quoted.settle with lead := some unit }
    else quoted.settle.push (Char.ofNat unit)
  | none =>
    if isLead unit then { quoted with lead := some unit }
    else if isTrail unit then { quoted with paired := false }
    else quoted.push (Char.ofNat unit)

def finish (quoted : Quoted) : Option String :=
  let quoted := quoted.settle
  if quoted.paired then some (String.ofList quoted.chars.reverse) else none

end Quoted

inductive Place where
  | outside
  /-- Inside a word or number, its last character first. -/
  | literal (chars : List Char)
  | quoted (soFar : Quoted)
  /-- After a backslash. -/
  | escape (soFar : Quoted)
  /-- Inside the four digits of an escape by number. -/
  | unit (soFar : Quoted) (digits value : Nat)
deriving DecidableEq, Repr

/-- A pass over a text: where it stands and the tokens found, the last one first. -/
structure Pass where
  place : Place := .outside
  tokens : List Token := []
deriving DecidableEq, Repr

def isJsonBlank (c : Char) : Bool := c == ' ' || c == '\n' || c == '\t' || c == '\r'

def isLiteralChar (c : Char) : Bool :=
  Text.isAsciiDigit c || Text.isAsciiLetter c || c == '-' || c == '+' || c == '.'

def punctuation? : Char → Option Token
  | '[' => some .openArray
  | ']' => some .closeArray
  | '\x7b' => some .openObject
  | '\x7d' => some .closeObject
  | ',' => some .comma
  | ':' => some .colon
  | _ => none

def escaped? : Char → Option Char
  | '"' => some '"'
  | '\\' => some '\\'
  | '/' => some '/'
  | 'b' => some '\x08'
  | 'f' => some '\x0c'
  | 'n' => some '\n'
  | 'r' => some '\r'
  | 't' => some '\t'
  | _ => none

def stepOutside (tokens : List Token) (c : Char) : Option Pass :=
  if isJsonBlank c then some { tokens }
  else if c = '"' then some { place := .quoted {}, tokens }
  else if isLiteralChar c then some { place := .literal [c], tokens }
  else (punctuation? c).map fun token => { tokens := token :: tokens }

def Pass.step (pass : Pass) (c : Char) : Option Pass :=
  match pass.place with
  | .outside => stepOutside pass.tokens c
  | .literal chars =>
    if isLiteralChar c then some { pass with place := .literal (c :: chars) }
    else stepOutside (.literal chars.reverse :: pass.tokens) c
  | .quoted soFar =>
    if c = '"' then some { tokens := .text soFar.finish :: pass.tokens }
    else if c = '\\' then some { pass with place := .escape soFar }
    else if c.toNat < 0x20 then none
    else some { pass with place := .quoted (soFar.push c) }
  | .escape soFar =>
    if c = 'u' then some { pass with place := .unit soFar 0 0 }
    else (escaped? c).map fun d => { pass with place := .quoted (soFar.push d) }
  | .unit soFar digits value =>
    if Text.isHexDigit c then
      let value := value * 16 + (Numeral.digitValue c).getD 0
      if digits = 3 then some { pass with place := .quoted (soFar.pushUnit value) }
      else some { pass with place := .unit soFar (digits + 1) value }
    else none

def Pass.finish (pass : Pass) : Option (List Token) :=
  match pass.place with
  | .outside => some pass.tokens.reverse
  | .literal chars => some (.literal chars.reverse :: pass.tokens).reverse
  | _ => none

def tokens? (text : List Char) : Option (List Token) :=
  (text.foldlM Pass.step {}).bind Pass.finish

end NetProfile.Json
