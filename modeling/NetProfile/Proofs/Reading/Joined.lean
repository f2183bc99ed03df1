import NetProfile.Contract
import NetProfile.Proofs.MergePolicy
import NetProfile.Proofs.Text.Fields

/-!
Texts joined by a comma. Where a comma separates items, a joined text has the items of its first part
and then those of the second. So it is read as the two parts are read one after the other, and its
error is that of the first part that has one.
-/

namespace NetProfile

inductive Cause.Kind where
  | invalid
  | outOfRange
  | notANumber
  | ambiguous
  | incomplete
  | immutable
  | refused
  | unknownSetting
  | unknownProperty
  | unreadable
  | unwritable
  | malformed
  | overflow
deriving DecidableEq

def Cause.kind : Cause → Cause.Kind
  | invalid .. => .invalid
  | outOfRange .. => .outOfRange
  | notANumber _ => .notANumber
  | ambiguous .. => .ambiguous
  | incomplete .. => .incomplete
  | immutable _ => .immutable
  | refused _ => .refused
  | unknownSetting _ => .unknownSetting
  | unknownProperty .. => .unknownProperty
  | unreadable _ => .unreadable
  | unwritable _ => .unwritable
  | malformed _ => .malformed
  | overflow => .overflow

def Error.report (error : Error) : Cause.Kind × String := (error.cause.kind, error.message)

/-- The errors differ at most in the text that they point at. -/
inductive Error.Alike : Error → Error → Prop
  | refl (error : Error) : Alike error error
  | pointing (text other : String) (fault : Fault) (owner : Option String) :
    Alike { cause := .invalid text fault, owner } { cause := .invalid other fault, owner }

namespace Error.Alike

variable {error other : Error}

theorem report_eq (alike : error.Alike other) : error.report = other.report := by
  cases alike <;> rfl

theorem withProperty (alike : error.Alike other) (name : String) :
    (error.withProperty name).Alike (other.withProperty name) := by
  cases alike with
  | refl => exact .refl _
  | pointing text otherText fault owner =>
    unfold Error.withProperty
    cases owner with
    | none =>
      by_cases named : name = ""
      · simpa [named] using pointing text otherText fault none
      · simpa [named, Cause.isLocal] using pointing text otherText fault (some name)
    | some owner => simpa using pointing text otherText fault (some owner)

end Error.Alike

/-- The reading of a whole goes as those of its two parts: together they give what it gives, and the
error of the first part that fails is like its own. -/
inductive Joins {α : Type} : Except Error (List α) → Except Error (List α) → Except Error (List α) → Prop
  | both (first second : List α) : Joins (.ok first) (.ok second) (.ok (first ++ second))
  | first {error whole : Error} (alike : whole.Alike error) (second : Except Error (List α)) :
    Joins (.error error) second (.error whole)
  | second (first : List α) {error whole : Error} (alike : whole.Alike error) :
    Joins (.ok first) (.error error) (.error whole)

namespace Joins

variable {α β : Type} {first second whole : Except Error (List α)}

theorem mapM (read : α → Except Error β) (parts others : List α) :
    Joins (parts.mapM read) (others.mapM read) ((parts ++ others).mapM read) := by
  rw [List.mapM_append]
  cases parts.mapM read with
  | error error => exact .first (.refl error) _
  | ok values =>
    cases others.mapM read with
    | error error => exact .second values (.refl error)
    | ok more => exact .both values more

theorem map (joins : Joins first second whole) (change : α → β) :
    Joins (first.map (List.map change)) (second.map (List.map change)) (whole.map (List.map change)) := by
  cases joins with
  | both values more =>
    have parts := both (values.map change) (more.map change)
    rwa [← List.map_append] at parts
  | first alike second => exact .first alike _
  | second values alike => exact .second _ alike

/-- Errors may be told as errors of the texts, each with the message that it has. -/
theorem mapError (joins : Joins first second whole) (tell : String → Fault) (left right both : String) :
    Joins (first.mapError fun error => .invalid left (tell error.message))
      (second.mapError fun error => .invalid right (tell error.message))
      (whole.mapError fun error => .invalid both (tell error.message)) := by
  have told : ∀ {error other : Error} (text otherText : String), error.Alike other →
      (Error.invalid text (tell error.message)).Alike (.invalid otherText (tell other.message)) := by
    intro error other text otherText alike
    have same : error.message = other.message := congrArg Prod.snd alike.report_eq
    rw [same]
    exact .pointing text otherText _ none
  cases joins with
  | both values more => exact .both values more
  | first alike second => exact .first (told both left alike) _
  | second values alike => exact .second values (told both right alike)

end Joins

theorem joins_readItems {α : Type} {isSeparator : Char → Bool} (comma : isSeparator ',' = true)
    (read : String → Except Error α) (first second : String) :
    Joins (readItems isSeparator read first) (readItems isSeparator read second)
      (readItems isSeparator read (first ++ "," ++ second)) := by
  unfold readItems
  rw [Text.items_append ',' rfl comma]
  exact .mapM read _ _

theorem PriorityMap.joins_parse (direction : Direction) (wildcard : Bool) (first second : String) :
    Joins (parse direction wildcard first) (parse direction wildcard second)
      (parse direction wildcard (first ++ "," ++ second)) := by
  unfold parse
  rw [Text.items_append ',' rfl (by decide), List.filter_append]
  exact .mapM (readEntry direction wildcard) _ _

theorem VirtualFunction.parseList_eq (text : String) :
    parseList text = (readItems Text.isComma parse text).mapError fun error =>
      .invalid text (.functionList error.message) := by
  unfold parseList
  cases readItems Text.isComma parse text <;> rfl

theorem Qdisc.parseList_eq (text : String) :
    parseList text = (readItems Text.isComma parse text).mapError fun error =>
      .invalid text (.qdiscList error.message) := by
  unfold parseList
  cases readItems Text.isComma parse text <;> rfl

theorem ListContract.joins_parseItems {list : ListContract} (comma : ',' ∈ list.separators)
    (first second : String) :
    Joins (list.parseItems first) (list.parseItems second) (list.parseItems (first ++ "," ++ second)) := by
  unfold parseItems
  split
  · exact (PriorityMap.joins_parse _ _ first second).map _
  · simp only [VirtualFunction.parseList_eq]
    exact ((joins_readItems (by decide) _ first second).mapError .functionList _ _ _).map _
  · simp only [Qdisc.parseList_eq]
    exact ((joins_readItems (by decide) _ first second).mapError .qdiscList _ _ _).map _
  · exact joins_readItems (List.elem_eq_true_of_mem comma) _ first second

theorem OptionMap.joins_parse (spec : OptionMap) (first second : String) :
    Joins (spec.parse first) (spec.parse second) (spec.parse (first ++ "," ++ second)) :=
  joins_readItems (by decide) spec.readPair first second

end NetProfile
