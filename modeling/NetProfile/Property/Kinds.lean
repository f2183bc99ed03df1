import NetProfile.Catalogue

/-!
Properties by kind. The tables of settings are written in these words.
-/

namespace NetProfile

namespace Property

def scalar (name : String) (kind : Scalar) (doc : String := "") : Property :=
  { name, contract := .scalar kind, doc }

def list (name : String) (kind : ListContract) (doc : String := "") : Property :=
  { name, contract := .list kind, doc }

def options (name : String) (kind : OptionMap) (doc : String := "") : Property :=
  { name, contract := .options kind, doc }

def special (name : String) (kind : Special) (doc : String := "") : Property :=
  { name, contract := .special kind, doc }

def free (name : String) (doc : String := "") : Property := scalar name .free doc

def choice (name : String) (words : List String) (doc : String := "") : Property :=
  scalar name (.choice words) doc

def checked (name : String) (rule : TextRule) (doc : String := "") : Property :=
  scalar name (.checked rule) doc

def bool (name : String) (doc : String := "") : Property := scalar name .bool doc

def integer (name : String) (rule : IntegerRule) (doc : String := "") : Property :=
  scalar name (.integer rule) doc

def uint32 (name : String) (doc : String := "") : Property := integer name { width := .uint32 } doc

def int32 (name : String) (doc : String := "") : Property := integer name { width := .int32 } doc

def unsigned (name : String) (least greatest : Int64) (doc : String := "") : Property :=
  integer name { width := .uint32, least := some least, greatest := some greatest } doc

def mtu (name : String) (doc : String := "") : Property := scalar name .mtu doc

def hardware (name : String) (form : HardwareAddress) (doc : String := "") : Property :=
  scalar name (.hardwareAddress form) doc

def enumeration (name : String) (spec : Enumeration) (doc : String := "") : Property :=
  scalar name (.enumeration spec none) doc

def ternary (name : String) (style : Ternary) (doc : String := "") : Property :=
  scalar name (.ternary style) doc

def octetsMessage : String :=
  "Enter bytes as a list of hexadecimal values.\n" ++
  "Two formats are accepted:\n" ++
  "(a) a string of hexadecimal digits, where each two digits represent one byte\n" ++
  "(b) space-separated list of bytes written as hexadecimal digits (with optional 0x/0X " ++
  "prefix, and optional leading 0).\n" ++
  "\n" ++
  "Examples: ab0455a6ea3a74C2\n" ++
  "          ab 4 55 0xa6 ea 3a 74 C2"

def octets (name : String) (doc : String := "") : Property :=
  { scalar name (.octets true) doc with message := some octetsMessage }

def secret (name : String) (doc : String := "") : Property :=
  { free name doc with isSecret := true }

def secrecy (name : String) (doc : String := "") : Property :=
  scalar name (.enumeration secretFlags (some secretFlagTable)) doc

def featuresMessage : String :=
  "Enter DCB flags as a number (0-7) or a list of 'enable', 'advertise' and 'willing'; " ++
  "'disable' clears them."

def features (name : String) (doc : String := "") : Property :=
  { scalar name .features doc with message := some featuresMessage }

def slots (name : String) (rule : SlotRule) (switch : String) (doc : String := "") : Property :=
  scalar name (.slots rule switch) doc

def texts (name : String) (doc : String := "") : Property :=
  list name { form := .text none, separators := plainSeparators } doc

def checkedTexts (name : String) (rule : TextRule) (doc : String := "") : Property :=
  list name { form := .text (some rule), separators := plainSeparators } doc

def choices (name : String) (words : List String) (doc : String := "") : Property :=
  list name { form := .text none, separators := plainSeparators, words } doc

end Property

/-- The parts of every type: the connection and the setting itself. -/
def ownParts (name : String) : List Part := [.mandatory "connection", .mandatory name]

/-- The parts of software links, which may also have settings of wired ones. -/
def linkParts (name : String) : List Part :=
  ownParts name ++ [.optional "802-3-ethernet", .optional "ethtool"]

end NetProfile
