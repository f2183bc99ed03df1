import NetProfile.MergePolicy
import NetProfile.Mode
import NetProfile.TextRule
import NetProfile.Value

/-!
Properties with a list of items. New items join the list by its policy; an item leaves it by its
position or by what it says.
-/

namespace NetProfile

inductive ItemForm where
  /-- Texts that pass a rule, or some of the words of the list, or any texts. -/
  | text (rule : Option TextRule)
  | subnet (family : Family)
  | route (family : Family)
  /-- Addresses of servers, kept as texts. -/
  | server (family : Family)
  | watcher
  | priority (direction : Direction)
  | function
  | qdisc
deriving DecidableEq, Repr

def plainSeparators : List Char := [' ', '\t', ',']

/-- The separator of lists whose items have blanks in them. -/
def commaOnly : List Char := [',']

structure ListContract where
  form : ItemForm
  separators : List Char := commaOnly
  policy : MergePolicy := .append
  /-- The only texts that there are, unless a rule says otherwise. -/
  words : List String := []
deriving DecidableEq, Repr

namespace ListContract

def parseText (list : ListContract) (rule : Option TextRule) (text : String) :
    Except Error String :=
  match rule with
  | some rule => rule.check text
  | none => if list.words = [] then .ok text else choose list.words text

def parseEntry (direction : Direction) (text : String) : Except Error PriorityEntry := do
  match ← PriorityMap.parse direction false text with
  | [entry] => .ok entry
  | _ => .error (.invalid text (.priorityMap text))

def parseItem (list : ListContract) (input : String) : Except Error Item :=
  let text := Text.trim input
  match list.form with
  | .text rule => (list.parseText rule text).map .text
  | .subnet family => (Subnet.parse family text).map .address
  | .route family => (Route.parse family text).map .route
  | .server family => (Address.readServer family text).map fun found => .text found.toText
  | .watcher => (LinkWatcher.parse text).map .watcher
  | .priority direction => (parseEntry direction text).map .priority
  | .function => (VirtualFunction.parse text).map .function
  | .qdisc => (Qdisc.parse text).map .qdisc

def parseItems (list : ListContract) (text : String) : Except Error (List Item) :=
  match list.form with
  | .priority direction => (PriorityMap.parse direction false text).map (List.map .priority)
  | .function => (VirtualFunction.parseList text).map (List.map .function)
  | .qdisc => (Qdisc.parseList text).map (List.map .qdisc)
  | _ => readItems (list.separators.elem ·) list.parseItem text

def priorities (items : List Item) : List PriorityEntry := items.filterMap Item.priority?

def functions (items : List Item) : List VirtualFunction := items.filterMap Item.function?

/-- Entries of priority maps and virtual functions take the place of the one with the same key. -/
def merge (list : ListContract) (held added : List Item) : List Item :=
  match list.form with
  | .priority _ => (PriorityMap.add (priorities held) (priorities added)).map .priority
  | .function => (VirtualFunction.add (functions held) (functions added)).map .function
  | _ => list.policy.merge held added

def add (list : ListContract) (held : List Item) (text : String) : Except Error (List Item) :=
  (list.parseItems text).map (list.merge held)

def remove (list : ListContract) (held : List Item) (text : String) : Except Error (List Item) :=
  match list.form with
  | .priority direction =>
    (PriorityMap.remove direction (priorities held) text).map (List.map .priority)
  | .function => (VirtualFunction.remove (functions held) text).map (List.map .function)
  | _ => removeOne list.parseItem held text

/-- Items that are not of the form of the list are passed over. -/
def format (list : ListContract) (mode : Mode) (items : List Item) : String :=
  match list.form with
  | .text _ | .server _ => String.intercalate "," (items.filterMap Item.text?)
  | .subnet _ => Subnet.formatList (items.filterMap Item.address?)
  | .route _ => Route.formatList mode (items.filterMap Item.route?)
  | .watcher => LinkWatcher.formatList (items.filterMap Item.watcher?)
  | .priority _ => PriorityMap.format (priorities items)
  | .function => VirtualFunction.formatList (functions items)
  | .qdisc => Qdisc.formatList (items.filterMap Item.qdisc?)

end ListContract

end NetProfile
