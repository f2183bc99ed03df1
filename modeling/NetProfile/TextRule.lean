import NetProfile.Choice
import NetProfile.Json.Reader
import NetProfile.Net.Address
import NetProfile.Net.Names
import NetProfile.Net.Uuid
import NetProfile.Scalar.HardwareAddress

/-!
Rules for the texts of single properties. A rule refuses a text or gives the form in which it is
kept.
-/

namespace NetProfile

inductive TextRule where
  /-- A method of configuration, by a beginning of its name. -/
  | method (family : Family)
  /-- An address of one family. -/
  | gateway (family : Family)
  /-- An address of either family. -/
  | address
  /-- A user who has permission, kept as `user:name`. -/
  | permission
  /-- The interface name or the identifier of a master. -/
  | master
  | ethernetAddress
  /-- A JSON object. -/
  | teamConfig
  /-- The name of a VPN service, which may be short. -/
  | vpnService
  | nonEmpty
  | interfaceName
  | uuid
  | searchDomain
  /-- Five or six digits. -/
  | simOperator
deriving DecidableEq, Repr

namespace TextRule

def methods : Family → List String
  | .v4 => ["auto", "link-local", "manual", "shared", "disabled"]
  | .v6 => ["ignore", "auto", "dhcp", "link-local", "manual", "shared"]

/-- A beginning of `static`, of two letters or more, is another name for `manual`. -/
def readMethod (family : Family) (text : String) : Except Error String :=
  choose (methods family)
    (if 1 < text.toList.length ∧ Text.startsWith "static" text then "manual" else text)

def readGateway (family : Family) (text : String) : Except Error String :=
  (Address.readServer family text).map Address.toText

def readAddress (text : String) : Except Error String :=
  match Address.parse? (Text.trim text) with
  | some found => .ok found.toText
  | none => .error (.invalid text (.notAddress text))

def readPermission (text : String) : Except Error String :=
  let user := (Text.stripStart? "user:" text).getD text
  if user = "" ∨ Text.contains user ':' then .error (.invalid text (.notValid text))
  else .ok ("user:" ++ user)

def readMaster (text : String) : Except Error String :=
  if InterfaceName.isName text || isUuid text then .ok text
  else .error (.invalid text (.notMaster text))

/-- Of a text that is no JSON the error says so in two fixed words, not what is wrong with it and where. -/
def readTeamConfig (text : String) : Except Error String :=
  match (Json.parse? text).filter Json.isReadable with
  | some (.object _) => .ok text
  | some _ => .error (.invalid text .teamNotObject)
  | none => .error (.invalid text (.teamNotJson text "syntax error"))

def readNonEmpty (text : String) : Except Error String :=
  let trimmed := Text.trim text
  if trimmed = "" then .error (.invalid text .emptyValue) else .ok trimmed

/-- A name without a dot belongs to the services of the network manager itself. -/
def readVpnService (text : String) : Except Error String := do
  let name ← readNonEmpty text
  return if Text.contains name '.' then name else "org.freedesktop.NetworkManager." ++ name

def readUuid (text : String) : Except Error String :=
  if isUuid text then .ok text else .error (.invalid text (.notUuid text))

def readSimOperator (text : String) : Except Error String :=
  let digits := text.toList
  if (digits.length = 5 ∨ digits.length = 6) ∧ digits.all Text.isAsciiDigit then .ok text
  else .error (.invalid text .notOperator)

def check : TextRule → String → Except Error String
  | method family => readMethod family
  | gateway family => readGateway family
  | address => readAddress
  | permission => readPermission
  | master => readMaster
  | ethernetAddress => HardwareAddress.ethernet.parse
  | teamConfig => readTeamConfig
  | vpnService => readVpnService
  | nonEmpty => readNonEmpty
  | interfaceName => InterfaceName.parse
  | uuid => readUuid
  | searchDomain => SearchDomain.parse
  | simOperator => readSimOperator

end TextRule

end NetProfile
