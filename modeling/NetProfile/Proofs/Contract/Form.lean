import NetProfile.Contract

/-!
How values are shown. A property has a form for the values of its own kind and, if it is a scalar,
for texts; a value of any other kind is written out with its structure.
-/

namespace NetProfile

def Scalar.form? (scalar : Scalar) (mode : Mode) (value : Value) : Option String :=
  match scalar, value with
  | .bool, .bool b => some (Truth.format b)
  | .integer rule, .int n => some (rule.format mode n)
  | .mtu, .int n => some (if n = 0 then "auto" else Numeral.decimal n.toInt)
  | .octets _, .octets held => some ((held.map Octets.format).getD "")
  | .enumeration _ (some table), .int n => some (table.format mode (flagBits n))
  | .enumeration spec none, .int n | .wepKeyType spec, .int n => some (spec.format mode n)
  | .ternary style, .int n => some (style.format n)
  | .slots rule _, .slots held => some (rule.format held)
  | .features, .int n => some (FeatureFlags.table.format mode (flagBits n))
  | _, .text held => some (held.getD "")
  | _, _ => none

/-- Properties like no other show every value, one of another kind like the absence of any. -/
def Contract.form? (contract : Contract) (mode : Mode) (value : Value) : Option String :=
  match contract, value with
  | .scalar kind, held => kind.form? mode held
  | .list kind, .list items => some (kind.format mode items)
  | .options kind, .map held => some (kind.format held)
  | .special kind, held => some (kind.format held)
  | _, _ => none

theorem Scalar.format_eq_form? (scalar : Scalar) (mode : Mode) (value : Value) :
    scalar.format mode value = (scalar.form? mode value).getD value.describe := by
  cases scalar with
  | enumeration spec table => cases table <;> cases value <;> rfl
  | text | bool | integer | mtu | hardwareAddress | octets | wepKeyType | ternary | slots | features =>
    cases value <;> rfl

theorem Contract.format_eq_form? (contract : Contract) (mode : Mode) (value : Value) :
    contract.format mode value = (contract.form? mode value).getD value.describe := by
  cases contract with
  | scalar kind => exact Scalar.format_eq_form? kind mode value
  | list | options | special => cases value <;> rfl

theorem Scalar.form?_isSome {scalar : Scalar} {value : Value} (same : value.kind = scalar.default.kind)
    (mode : Mode) : (scalar.form? mode value).isSome = true := by
  cases scalar with
  | enumeration spec table => cases table <;> cases value <;> cases same <;> rfl
  | text | bool | integer | mtu | hardwareAddress | octets | wepKeyType | ternary | slots | features =>
    cases value <;> cases same
    rfl

theorem Contract.form?_isSome {contract : Contract} {value : Value}
    (same : value.kind = contract.default.kind) (mode : Mode) :
    (contract.form? mode value).isSome = true := by
  cases contract with
  | scalar kind => exact Scalar.form?_isSome same mode
  | special => rfl
  | list | options =>
    cases value <;> cases same
    rfl

end NetProfile
