import NetProfile.Error
import NetProfile.Text.Blank
import NetProfile.Text.Case
import NetProfile.Text.Fields
import NetProfile.Text.Utf8

/-!
Choosing one of the allowed words by its name or a beginning of it that no other word shares. The
case of ASCII letters does not matter, and a full name wins over a longer word that begins with it.
The words are gone through once.
-/

namespace NetProfile

def startedBy (start word : String) : Bool := Text.startsWith (Text.lower word) (Text.lower start)

/-- What the words looked at so far leave to choose from. -/
inductive Candidates where
  | nobody
  | one (word : String)
  | several (first second : String)
  /-- A word that is written out. -/
  | full (word : String)
deriving DecidableEq, Repr

namespace Candidates

def add : Candidates → String → Candidates
  | nobody, word => one word
  | one first, word => several first word
  | found, _ => found

/-- Looks at the words one by one. A word that is no longer than the input that it begins with is the
input itself, and no other is looked at after it. -/
def search (input : String) (found : Candidates) : List String → Candidates
  | [] => found
  | word :: words =>
    if startedBy input word then
      if Text.byteLength word = Text.byteLength input then full word
      else search input (found.add word) words
    else search input found words

def words : Candidates → List String
  | nobody => []
  | one word | full word => [word]
  | several first second => [first, second]

theorem mem_words_add {found : Candidates} {next word : String} (here : word ∈ (found.add next).words) :
    word ∈ found.words ∨ word = next := by
  cases found with
  | nobody => exact .inr (List.mem_singleton.1 here)
  | one first =>
    rcases List.mem_cons.1 here with same | later
    · exact .inl (List.mem_singleton.2 same)
    · exact .inr (List.mem_singleton.1 later)
  | several | full => exact .inl here

theorem mem_words_search {input word : String} {found : Candidates} {allowed : List String}
    (here : word ∈ (search input found allowed).words) : word ∈ found.words ∨ word ∈ allowed := by
  induction allowed generalizing found with
  | nil => exact .inl here
  | cons next rest ih =>
    unfold search at here
    split at here
    · split at here
      · rw [List.mem_singleton.1 here]
        exact .inr List.mem_cons_self
      · rcases ih here with known | later
        · rcases mem_words_add known with known | rfl
          · exact .inl known
          · exact .inr List.mem_cons_self
        · exact .inr (List.mem_cons_of_mem _ later)
    · exact (ih here).imp_right (List.mem_cons_of_mem _)

end Candidates

def choose (allowed : List String) (text : String) : Except Error String :=
  let input := Text.trim text
  if input = "" then .error (.invalid text (.notAmong "" allowed))
  else
    match Candidates.search input .nobody allowed with
    | .full word | .one word => .ok word
    | .several first second => .error (.ambiguous input (.manyAmong input first second))
    | .nobody => .error (.invalid input (.notAmong input allowed))

theorem choose_mem {allowed : List String} {text word : String}
    (chosen : choose allowed text = .ok word) : word ∈ allowed := by
  have named : word ∈ (Candidates.search (Text.trim text) .nobody allowed).words := by
    unfold choose at chosen
    simp only at chosen
    split at chosen
    · cases chosen
    · split at chosen
      · next found =>
        cases chosen
        simp [found, Candidates.words]
      · next found =>
        cases chosen
        simp [found, Candidates.words]
      · cases chosen
      · cases chosen
  rcases Candidates.mem_words_search named with before | here
  · cases before
  · exact here

end NetProfile
