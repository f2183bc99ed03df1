import NetProfile.Toml.Moment

/-!
The tokens of a TOML document, found in one pass over its characters. Comments and blanks are not
tokens; a newline is one, since it ends an entry.
-/

namespace NetProfile.Toml

inductive Token where
  | newline
  /-- `joined` when the character right before it is a bracket of the same kind. -/
  | openBracket (joined : Bool)
  | closeBracket (joined : Bool)
  | openBrace
  | closeBrace
  | comma
  | equals
  /-- A bare name, dots included, or a value without quotes. -/
  | literal (chars : List Char)
  /-- `multi` when three quotes enclose the text. -/
  | quoted (text : String) (multi : Bool)
deriving DecidableEq, Repr

/-- The quotes around a text. Escapes are read between double ones only. -/
structure Quotes where
  mark : Char
  multi : Bool := false
deriving DecidableEq, Repr

/-- Where a pass over a document stands. Characters of texts are kept last one first. -/
inductive Place where
  | outside
  | comment
  | literal (chars : List Char)
  /-- After a space behind a date. -/
  | afterDate (chars : List Char)
  /-- After one or two quotes. -/
  | opening (mark : Char) (count : Nat)
  /-- After three quotes, where a newline does not count. -/
  | opened (mark : Char)
  /-- Inside a text, behind `marks` quotes that may belong to its end. -/
  | quoted (quotes : Quotes) (chars : List Char) (marks : Nat)
  /-- After a backslash. -/
  | escape (quotes : Quotes) (chars : List Char)
  /-- Inside the digits of an escape by number, of which `left` are to come. -/
  | codePoint (quotes : Quotes) (chars : List Char) (left value : Nat)
  /-- Among blanks that do not count, as a backslash stands before the end of their line; `broken`
  once that end is reached. -/
  | joining (quotes : Quotes) (chars : List Char) (broken : Bool)
deriving DecidableEq, Repr

/-- A pass over a document: where it stands, the character before, and the tokens found, the last
one first. -/
structure Pass where
  place : Place := .outside
  previous : Char := '\n'
  tokens : List Token := []
deriving DecidableEq, Repr

def isLiteralChar (c : Char) : Bool :=
  Text.isAsciiDigit c || Text.isAsciiLetter c || "-_+:.".toList.elem c

/-- Characters that may stand in comments and texts. -/
def isPlain (c : Char) : Bool := c == '\t' || (0x20 ≤ c.toNat && c.toNat != 0x7F)

def punctuation? (previous : Char) : Char → Option Token
  | '\n' => some .newline
  | '[' => some (.openBracket (previous == '['))
  | ']' => some (.closeBracket (previous == ']'))
  | '\x7b' => some .openBrace
  | '\x7d' => some .closeBrace
  | ',' => some .comma
  | '=' => some .equals
  | _ => none

def escaped? : Char → Option Char
  | 'b' => some '\x08'
  | 't' => some '\t'
  | 'n' => some '\n'
  | 'f' => some '\x0c'
  | 'r' => some '\r'
  | '"' => some '"'
  | '\\' => some '\\'
  | _ => none

namespace Pass

def push (pass : Pass) (token : Token) : Pass :=
  { pass with place := .outside, tokens := token :: pass.tokens }

/-- One character outside texts, literals and comments. -/
def stepOutside (pass : Pass) (c : Char) : Option Pass :=
  if Text.isSpaceOrTab c then some { pass with place := .outside }
  else if c = '#' then some { pass with place := .comment }
  else if c = '"' ∨ c = '\x27' then some { pass with place := .opening c 1 }
  else if isLiteralChar c then some { pass with place := .literal [c] }
  else (punctuation? pass.previous c).map pass.push

def finishLiteral (pass : Pass) (chars : List Char) : Pass := pass.push (.literal chars.reverse)

/-- The end of a text whose last `marks` quotes are its own but for those that enclose it. -/
def finishQuoted (pass : Pass) (quotes : Quotes) (chars : List Char) (marks : Nat) : Pass :=
  let own := List.replicate (marks - if quotes.multi then 3 else 1) quotes.mark
  pass.push (.quoted (String.ofList (own ++ chars).reverse) quotes.multi)

def stepInside (pass : Pass) (quotes : Quotes) (chars : List Char) (c : Char) : Option Pass :=
  if c = '\\' ∧ quotes.mark = '"' then some { pass with place := .escape quotes chars }
  else if isPlain c ∨ (c = '\n' ∧ quotes.multi) then
    some { pass with place := .quoted quotes (c :: chars) 0 }
  else none

/-- One character in a text or at its end. A text in three quotes may end in two quotes of its own.
-/
def stepQuoted (pass : Pass) (quotes : Quotes) (chars : List Char) (marks : Nat) (c : Char) :
    Option Pass :=
  if c = quotes.mark then
    if !quotes.multi || marks = 4 then some (pass.finishQuoted quotes chars (marks + 1))
    else some { pass with place := .quoted quotes chars (marks + 1) }
  else if 3 ≤ marks then (pass.finishQuoted quotes chars marks).stepOutside c
  else pass.stepInside quotes (List.replicate marks quotes.mark ++ chars) c

def stepEscape (pass : Pass) (quotes : Quotes) (chars : List Char) (c : Char) : Option Pass :=
  if c = 'u' then some { pass with place := .codePoint quotes chars 4 0 }
  else if c = 'U' then some { pass with place := .codePoint quotes chars 8 0 }
  else if quotes.multi ∧ Text.isSpaceOrTab c then
    some { pass with place := .joining quotes chars false }
  else if quotes.multi ∧ c = '\n' then some { pass with place := .joining quotes chars true }
  else (escaped? c).map fun d => { pass with place := .quoted quotes (d :: chars) 0 }

/-- One digit of an escape by number, which must denote a character in the end. -/
def stepCodePoint (pass : Pass) (quotes : Quotes) (chars : List Char) (left value : Nat)
    (c : Char) : Option Pass :=
  if Text.isHexDigit c then
    let value := value * 16 + (Numeral.digitValue c).getD 0
    if 1 < left then some { pass with place := .codePoint quotes chars (left - 1) value }
    else if value.isValidChar then
      some { pass with place := .quoted quotes (Char.ofNat value :: chars) 0 }
    else none
  else none

def advance (pass : Pass) (c : Char) : Option Pass :=
  match pass.place with
  | .outside => pass.stepOutside c
  | .comment =>
    if c = '\n' then pass.stepOutside c else if isPlain c then some pass else none
  | .literal chars =>
    if isLiteralChar c then some { pass with place := .literal (c :: chars) }
    else if c = ' ' ∧ isDate chars.reverse then some { pass with place := .afterDate chars }
    else (pass.finishLiteral chars).stepOutside c
  | .afterDate chars =>
    if Text.isAsciiDigit c then some { pass with place := .literal (c :: ' ' :: chars) }
    else (pass.finishLiteral chars).stepOutside c
  | .opening mark count =>
    if c = mark then
      some { pass with place := if count = 1 then .opening mark 2 else .opened mark }
    else if count = 1 then pass.stepQuoted { mark } [] 0 c
    else (pass.finishQuoted { mark } [] 1).stepOutside c
  | .opened mark =>
    if c = '\n' then some { pass with place := .quoted { mark, multi := true } [] 0 }
    else pass.stepQuoted { mark, multi := true } [] 0 c
  | .quoted quotes chars marks => pass.stepQuoted quotes chars marks c
  | .escape quotes chars => pass.stepEscape quotes chars c
  | .codePoint quotes chars left value => pass.stepCodePoint quotes chars left value c
  | .joining quotes chars broken =>
    if Text.isSpaceOrTab c then some pass
    else if c = '\n' then some { pass with place := .joining quotes chars true }
    else if broken then pass.stepQuoted quotes chars 0 c
    else none

def step (pass : Pass) (c : Char) : Option Pass :=
  (pass.advance c).map fun after => { after with previous := c }

def finish (pass : Pass) : Option (List Token) :=
  match pass.place with
  | .outside | .comment => some pass.tokens.reverse
  | .literal chars | .afterDate chars => some (pass.finishLiteral chars).tokens.reverse
  | .opening mark 2 => some (pass.finishQuoted { mark } [] 1).tokens.reverse
  | .quoted quotes chars marks =>
    if 3 ≤ marks then some (pass.finishQuoted quotes chars marks).tokens.reverse else none
  | _ => none

end Pass

/-- Both ways to end a line as a line feed. A carriage return stands nowhere else. -/
def unifyNewlines? : List Char → Option (List Char)
  | [] => some []
  | '\r' :: '\n' :: rest => (unifyNewlines? rest).map ('\n' :: ·)
  | c :: rest => if c = '\r' then none else (unifyNewlines? rest).map (c :: ·)

/-- The document without a byte order mark before it. -/
def withoutMark : List Char → List Char
  | '\ufeff' :: rest => rest
  | cs => cs

def tokens? (document : List Char) : Option (List Token) :=
  match unifyNewlines? (withoutMark document) with
  | some cs => (cs.foldlM Pass.step {}).bind Pass.finish
  | none => none

end NetProfile.Toml
