import NetProfile.Error
import NetProfile.Text.Case
import NetProfile.Text.Fields

/-!
Options of the resolver. Some take a number after a colon, the others stand alone.
-/

namespace NetProfile

/-- A list of resolver options that may also be unset. An unset list leaves the options to the
resolver, an empty one means none. -/
inductive DnsOptions where
  | unset
  | empty
  | populated (options : List String)
deriving DecidableEq, Repr

namespace DnsOptions

def ofItems : List String → DnsOptions
  | [] => empty
  | items => populated items

def items : DnsOptions → List String
  | populated options => options
  | _ => []

theorem items_ofItems (list : List String) : (ofItems list).items = list := by
  cases list <;> rfl

def isSet : DnsOptions → Bool
  | unset => false
  | _ => true

/-- Puts the option at the end, away from where it was. -/
def add (options : DnsOptions) (option : String) : DnsOptions :=
  ofItems (options.items.filter (· ≠ option) ++ [option])

/-- Drops the option at a position, if there is one. -/
def removeAt? (options : DnsOptions) (index : Nat) : Option DnsOptions :=
  if index < options.items.length then some (ofItems (options.items.eraseIdx index)) else none

/-- Drops the option wherever it is. Unset options stay unset. -/
def removeValue (options : DnsOptions) (option : String) : DnsOptions :=
  if options.isSet then ofItems (options.items.filter (· ≠ option)) else options

def names : List String :=
  ["attempts", "debug", "edns0", "inet6", "ip6-bytestring", "ip6-dotint", "ndots",
    "no-check-names", "no-ip6-dotint", "no-reload", "no-tld-query", "rotate", "single-request",
    "single-request-reopen", "timeout", "trust-ad", "use-vc"]

def numericNames : List String := ["attempts", "ndots", "timeout"]

def isOption (text : String) : Bool :=
  match Text.cutOnce ':' text with
  | none => names.contains text && !numericNames.contains text
  | some (name, number) =>
    numericNames.contains name && number ≠ "" && number.toList.all Text.isAsciiDigit

def check (text : String) : Except Error String :=
  if isOption text then .ok text else .error (.invalid text (.notDnsOption text))

end DnsOptions

end NetProfile
