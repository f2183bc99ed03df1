import NetProfile.MergePolicy

/-!
Queueing disciplines, written `root|parent <handle> [handle <handle>] <kind>`. A handle is a pair of
hexadecimal numbers of sixteen bits, or the word `root`.
-/

namespace NetProfile

namespace Handle

def root : UInt32 := 0xFFFFFFFF

def unset : UInt32 := 0

def half? (digits : List Char) : Option Nat :=
  match Numeral.unsigned? 16 digits with
  | some n => if n < 65536 then some n else none
  | none => none

/-- The second number may be left out. -/
def parse? (text : String) : Option UInt32 :=
  if text = "root" then some root
  else match Text.cutOnce ':' text with
    | none => none
    | some (major, minor) =>
      match half? major.toList, if minor = "" then some 0 else half? minor.toList with
      | some high, some low => some (UInt32.ofNat (high * 65536 + low))
      | _, _ => none

def parse (text : String) : Except Error UInt32 :=
  match parse? text with
  | some handle => .ok handle
  | none => .error (.invalid text (.handle text))

def format (handle : UInt32) : String :=
  if handle = root then "root"
  else
    let major := Numeral.hexDigits (handle.toNat / 65536)
    let minor := handle.toNat % 65536
    if minor = 0 then major ++ ":" else major ++ ":" ++ Numeral.hexDigits minor

end Handle

structure Qdisc where
  kind : String
  handle : UInt32
  parent : UInt32
deriving DecidableEq, Repr

namespace Qdisc

/-- The words before the kind. -/
structure Draft where
  parent : Option UInt32 := none
  handle : UInt32 := Handle.unset
deriving DecidableEq, Repr

/-- Reads words as long as they say where the discipline stands; gives the others back. -/
def readPlace (draft : Draft) : List String → Except Error (Draft × List String)
  | "root" :: rest =>
    if draft.parent.isSome then .error (.ambiguous "root" (.repeatedWord "root"))
    else readPlace { draft with parent := some Handle.root } rest
  | "parent" :: rest =>
    if draft.parent.isSome then .error (.ambiguous "parent" (.repeatedWord "parent"))
    else match rest with
      | [] => .error (.incomplete "handle" "'parent'")
      | value :: rest =>
        match Handle.parse value with
        | .ok parent => readPlace { draft with parent := some parent } rest
        | .error error => .error error
  | "handle" :: rest =>
    if draft.handle ≠ Handle.unset then .error (.ambiguous "handle" (.repeatedWord "handle"))
    else match rest with
      | [] => .error (.incomplete "handle" "'handle'")
      | value :: rest =>
        match Handle.parse value with
        | .ok handle => readPlace { draft with handle } rest
        | .error error => .error error
  | rest => .ok (draft, rest)

def placeWords : List String := ["root", "parent", "handle"]

/-- What is left after the place are the last words, and the first of them is no word of a place. -/
theorem left_of_readPlace {draft last : Draft} {words left : List String}
    (read : readPlace draft words = .ok (last, left)) :
    left <:+ words ∧ ∀ word, left.head? = some word → word ∉ placeWords := by
  fun_induction readPlace draft words with
  | case1 | case3 | case4 | case6 | case7 | case8 | case10 => cases read
  | case2 draft rest free ih =>
    exact (ih read).imp_left fun suffix => suffix.trans (List.suffix_cons _ _)
  | case5 draft free value rest parent given ih | case9 draft free value rest handle given ih =>
    exact (ih read).imp_left fun suffix =>
      suffix.trans ((List.suffix_cons _ _).trans (List.suffix_cons _ _))
  | case11 draft words noRoot noParent noHandle =>
    cases read
    refine ⟨List.suffix_refl _, fun word first => ?_⟩
    obtain ⟨rest, rfl⟩ := List.head?_eq_some_iff.1 first
    simp only [placeWords, List.mem_cons, List.not_mem_nil, or_false, not_or]
    exact ⟨fun same => noRoot rest (same ▸ rfl), fun same => noParent rest (same ▸ rfl),
      fun same => noHandle rest (same ▸ rfl)⟩

def parse (text : String) : Except Error Qdisc := do
  let (draft, rest) ← readPlace {} (Text.tokens text)
  match draft.parent with
  | none => .error (.incomplete "parent" "qdisc")
  | some parent =>
    match rest with
    | [] => .error (.incomplete "kind" "qdisc")
    | [kind] => .ok { kind, handle := draft.handle, parent }
    | _ :: extra :: _ => .error (.invalid extra (.afterKind extra))

def words (qdisc : Qdisc) : List String :=
  (if qdisc.parent = Handle.root then ["root"] else ["parent", Handle.format qdisc.parent])
    ++ (if qdisc.handle = Handle.unset then [] else ["handle", Handle.format qdisc.handle])
    ++ [qdisc.kind]

def toText (qdisc : Qdisc) : String := String.intercalate " " qdisc.words

/-- An error of one item is told as an error of the list. -/
def parseList (text : String) : Except Error (List Qdisc) :=
  match readItems Text.isComma parse text with
  | .ok qdiscs => .ok qdiscs
  | .error error => .error (.invalid text (.qdiscList error.message))

def formatList (qdiscs : List Qdisc) : String := String.intercalate ", " (qdiscs.map toText)

end Qdisc

end NetProfile
