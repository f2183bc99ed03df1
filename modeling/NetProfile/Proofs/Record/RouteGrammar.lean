import Mathlib.Data.List.Forall2
import NetProfile.Proofs.Record.Route

/-!
The grammar of routes. The tokens of a route are its target, then next hops, then metrics, then
attributes, each of them as often as one likes. Of next hops, of metrics and of attributes with one
name the last counts. A text that is no route is refused at the first token that leaves the grammar.
-/

namespace NetProfile.Reading

variable {α β γ ε : Type}

theorem foldlM_of_forall₂ {step : α → β → Except ε α} {reads : β → γ → Prop}
    (state : List γ → α)
    (stepped : ∀ read token value, reads token value →
      step (state read) token = .ok (state (read ++ [value])))
    {tokens : List β} {values : List γ} (each : List.Forall₂ reads tokens values) (read : List γ) :
    tokens.foldlM step (state read) = .ok (state (read ++ values)) := by
  induction each generalizing read with
  | nil =>
    rw [List.append_nil]
    rfl
  | @cons token value tokens values first others ih =>
    have rest := ih (read ++ [value])
    rw [List.append_assoc, List.singleton_append] at rest
    rw [List.foldlM_cons, stepped read token value first]
    exact rest

end NetProfile.Reading

namespace NetProfile.Route

def IsNumber (limit : Nat) (token : String) (n : Nat) : Prop :=
  Numeral.readSigned (.fixed 10) token = some (n : Int) ∧ n ≤ limit

def IsMetric (token : String) (n : Nat) : Prop := IsNumber 4294967295 token n

def IsHop (family : Family) (token : String) (hop : Address) : Prop :=
  Address.ofFamily? family token = some hop

def IsTarget (family : Family) (token : String) (destination : Address) (length : UInt8) : Prop :=
  (Address.ofFamily? family token = some destination ∧ length.toNat = family.bits) ∨
    ∃ part digits, token = part ++ "/" ++ digits ∧ Address.ofFamily? family part = some destination ∧
      IsNumber family.bits digits length.toNat ∧ 1 ≤ length.toNat

structure Parts where
  destination : Address
  length : UInt8
  hops : List Address := []
  metrics : List Nat := []
  attributes : List (String × AttributeValue) := []

inductive Spells (family : Family) : List String → Parts → Prop
  | tokens {target : String} {hops metrics attributes : List String} {parts : Parts}
      (isTarget : IsTarget family target parts.destination parts.length)
      (areHops : List.Forall₂ (IsHop family) hops parts.hops)
      (areMetrics : List.Forall₂ IsMetric metrics parts.metrics)
      (areAttributes : List.Forall₂ (RouteAttribute.Spells family) attributes parts.attributes) :
      Spells family (target :: (hops ++ metrics ++ attributes)) parts

structure Parts.Makes (parts : Parts) (route : Route) : Prop where
  destination : route.destination = parts.destination
  length : route.length = parts.length
  nextHop : route.nextHop = parts.hops.getLast?
  metric : route.metric.toInt = (parts.metrics.getLast?.map Int.ofNat).getD (-1)
  attributes : ∀ name, route.attributes.get? name =
    ((parts.attributes.filter (·.1 = name)).getLast?).map (·.2)

/-- A token that has its place before some of the parts that are there already. -/
inductive Late (family : Family) (parts : Parts) (token : String) : Fault → Prop
  | nextHop {hop : Address} (isHop : IsHop family token hop)
      (behind : parts.metrics ≠ [] ∨ parts.attributes ≠ []) : Late family parts token (.lateNextHop token)
  | metric {n : Nat} (isMetric : IsMetric token n) (behind : parts.attributes ≠ []) :
      Late family parts token (.lateMetric token)

inductive Blames (token : String) : Error → Prop
  | token (fault : Fault) : Blames token (.invalid token fault)
  | value {name value : String} (glued : token = name ++ "=" ++ value) (fault : Fault) :
      Blames token (.invalid value fault)
  | place (fault : Fault) : Blames token (.ambiguous token fault)

namespace Parts

def route (parts : Parts) : Route where
  destination := parts.destination
  length := parts.length
  nextHop := parts.hops.getLast?
  metric := (parts.metrics.getLast?.map Int64.ofNat).getD (-1)
  attributes := .ofList parts.attributes

variable {parts : Parts}

theorem route_append_hop (hop : Address) :
    { parts with hops := parts.hops ++ [hop] }.route = { parts.route with nextHop := some hop } := by
  simp [route]

theorem route_append_metric (n : Nat) :
    { parts with metrics := parts.metrics ++ [n] }.route
      = { parts.route with metric := Int64.ofNat n } := by
  simp [route]

theorem route_append_attribute (entry : String × AttributeValue) :
    { parts with attributes := parts.attributes ++ [entry] }.route
      = { parts.route with attributes := parts.route.attributes.insert entry.1 entry.2 } := by
  simp [route, Dict.ofList_append_singleton]

theorem toInt_metric (bounded : ∀ n ∈ parts.metrics, n ≤ 4294967295) :
    parts.route.metric.toInt = (parts.metrics.getLast?.map Int.ofNat).getD (-1) := by
  unfold route
  cases last : parts.metrics.getLast? with
  | none => rfl
  | some n => exact toInt_ofNat_metric (bounded n (List.mem_of_getLast? last))

theorem makes_iff (bounded : ∀ n ∈ parts.metrics, n ≤ 4294967295) {route : Route} :
    parts.Makes route ↔ parts.route = route := by
  constructor
  · intro makes
    obtain ⟨destination, length, nextHop, metric, attributes⟩ := route
    have sameMetric : parts.route.metric = metric :=
      Int64.toInt_inj.1 ((toInt_metric bounded).trans makes.metric.symm)
    have sameAttributes : Dict.ofList parts.attributes = attributes :=
      Dict.ext_get? fun name => (Dict.get?_ofList ..).trans (makes.attributes name).symm
    rw [route, Route.mk.injEq]
    exact ⟨makes.destination.symm, makes.length.symm, makes.nextHop.symm, sameMetric, sameAttributes⟩
  · rintro rfl
    exact ⟨rfl, rfl, rfl, toInt_metric bounded, Dict.get?_ofList _⟩

theorem hasMetric_route (bounded : ∀ n ∈ parts.metrics, n ≤ 4294967295) :
    parts.route.hasMetric = !parts.metrics.isEmpty := by
  have number := toInt_metric bounded
  cases last : parts.metrics.getLast? with
  | none =>
    have unset : parts.route.metric = -1 := Int64.toInt_inj.1 (by rw [number, last]; rfl)
    simp [hasMetric, unset, List.getLast?_eq_none_iff.1 last]
  | some n =>
    have there : parts.metrics ≠ [] := List.ne_nil_of_mem (List.mem_of_getLast? last)
    have set : parts.route.metric ≠ -1 := by
      intro unset
      rw [last, unset] at number
      exact absurd number (by simp)
    simp [hasMetric, set, there]

theorem isEmpty_attributes : parts.route.attributes.isEmpty = parts.attributes.isEmpty :=
  Dict.isEmpty_ofList parts.attributes

end Parts

section Target

variable {family : Family} {token part : String} {destination : Address} {length : UInt8}

theorem slash_not_mem_of_ofFamily? (read : Address.ofFamily? family part = some destination) :
    '/' ∉ part.toList :=
  fun slash => absurd (Address.isAddressChar_of_ofFamily? read slash) (by decide)

theorem splitLength_of_alone (read : Address.ofFamily? family token = some destination)
    (whole : length.toNat = family.bits) : Subnet.splitLength family token = .ok (token, length) := by
  have cut : Text.cutOnce '/' token = none := by
    rw [Option.eq_none_iff_forall_ne_some]
    rintro ⟨before, after⟩ cut
    have glued := (Text.cutOnce_eq_some_iff.1 cut).1
    exact slash_not_mem_of_ofFamily? read (by simp [glued])
  unfold Subnet.splitLength
  rw [cut, ← whole, UInt8.ofNat_toNat]

theorem splitLength_joined {digits : String} (read : Address.ofFamily? family part = some destination)
    (number : IsNumber family.bits digits length.toNat) (positive : 1 ≤ length.toNat) :
    Subnet.splitLength family (part ++ "/" ++ digits) = .ok (part, length) := by
  have cut : Text.cutOnce '/' (part ++ "/" ++ digits) = some (part, digits) :=
    Text.cutOnce_eq_some_iff.2 ⟨by simp, slash_not_mem_of_ofFamily? read⟩
  unfold Subnet.splitLength
  simp only [cut, Numeral.natural?_eq_some_iff.2 number, if_pos positive, UInt8.ofNat_toNat]

theorem isTarget_of_splitLength (split : Subnet.splitLength family token = .ok (part, length))
    (read : Address.ofFamily? family part = some destination) :
    IsTarget family token destination length := by
  have small : family.bits < 256 := by cases family <;> decide
  have width : ∀ n ≤ family.bits, (UInt8.ofNat n).toNat = n := fun n below =>
    UInt8.toNat_ofNat_of_lt (show n < 256 by omega)
  unfold Subnet.splitLength at split
  split at split
  · cases split
    exact .inl ⟨read, width _ (Nat.le_refl _)⟩
  · next digits cut =>
    split at split
    · next n number =>
      split at split
      · next positive =>
        cases split
        have same := width n (Numeral.le_of_natural? number)
        refine .inr ⟨part, digits, ?_, read, ?_, by rwa [same]⟩
        · rw [← String.toList_inj, (Text.cutOnce_eq_some_iff.1 cut).1]
          simp
        · rw [same]
          exact Numeral.natural?_eq_some_iff.1 number
      · cases split
    · cases split

theorem isTarget_iff : IsTarget family token destination length ↔ ∃ part,
    Subnet.splitLength family token = .ok (part, length) ∧
      Address.ofFamily? family part = some destination := by
  constructor
  · rintro (⟨read, whole⟩ | ⟨part, digits, rfl, read, number, positive⟩)
    · exact ⟨token, splitLength_of_alone read whole, read⟩
    · exact ⟨part, splitLength_joined read number positive, read⟩
  · rintro ⟨part, split, read⟩
    exact isTarget_of_splitLength split read

end Target

theorem IsTarget.unique {family : Family} {token : String} {destination other : Address}
    {length size : UInt8} (isTarget : IsTarget family token destination length)
    (also : IsTarget family token other size) : destination = other ∧ length = size := by
  obtain ⟨part, split, found⟩ := isTarget_iff.1 isTarget
  obtain ⟨again, splitAgain, foundAgain⟩ := isTarget_iff.1 also
  rw [split] at splitAgain
  cases splitAgain
  rw [found] at foundAgain
  cases foundAgain
  exact ⟨rfl, rfl⟩

theorem invalid_of_splitLength {family : Family} {token : String} {error : Error}
    (failed : Subnet.splitLength family token = .error error) : ∃ fault, error = .invalid token fault := by
  unfold Subnet.splitLength at failed
  split at failed
  · cases failed
  · split at failed
    · split at failed
      · cases failed
      · cases failed
        exact ⟨_, rfl⟩
    · cases failed
      exact ⟨_, rfl⟩

section First

variable {family : Family} {text first : String} {later : List String}
  (cut : Text.tokens text = first :: later)

include cut

/-- The tokens after the target go on with a route that has nothing but its destination. -/
theorem parse_of_isTarget {destination : Address} {length : UInt8}
    (isTarget : IsTarget family first destination length) :
    parse family text = later.foldlM (addToken family) { destination, length } := by
  obtain ⟨part, split, found⟩ := isTarget_iff.1 isTarget
  unfold parse
  rw [cut]
  simp only [bind, Except.bind, split, found]

theorem parse_without_target (noTarget : ∀ destination length, ¬IsTarget family first destination length) :
    ∃ fault, parse family text = .error (.invalid first fault) := by
  simp only [isTarget_iff, not_exists, not_and] at noTarget
  unfold parse
  rw [cut]
  simp only [bind, Except.bind]
  cases split : Subnet.splitLength family first with
  | error error =>
    obtain ⟨fault, rfl⟩ := invalid_of_splitLength split
    exact ⟨fault, rfl⟩
  | ok pair =>
    obtain ⟨part, length⟩ := pair
    cases found : Address.ofFamily? family part with
    | none =>
      refine ⟨.routeAddress family part, ?_⟩
      simp only [found]
    | some destination => exact absurd found (noTarget destination length part split)

end First

/-- A text is empty, starts with something else than a target, or is read token by token. -/
theorem parse_cases (family : Family) (text : String) :
    (Text.tokens text = [] ∧ parse family text = .error (.invalid text (.emptyRoute text))) ∨
    (∃ first later fault, Text.tokens text = first :: later ∧
      (∀ destination length, ¬IsTarget family first destination length) ∧
      parse family text = .error (.invalid first fault)) ∨
    ∃ first later destination length, Text.tokens text = first :: later ∧
      IsTarget family first destination length ∧
      parse family text = later.foldlM (addToken family) { destination, length } := by
  cases cut : Text.tokens text with
  | nil =>
    refine .inl ⟨rfl, ?_⟩
    unfold parse
    rw [cut]
  | cons first later =>
    by_cases found : ∃ destination length, IsTarget family first destination length
    · obtain ⟨destination, length, isTarget⟩ := found
      exact .inr (.inr ⟨first, later, destination, length, rfl, isTarget, parse_of_isTarget cut isTarget⟩)
    · simp only [not_exists] at found
      obtain ⟨fault, failed⟩ := parse_without_target cut found
      exact .inr (.inl ⟨first, later, fault, rfl, found, failed⟩)

theorem Late.unique {family : Family} {parts : Parts} {token : String} {fault other : Fault}
    (late : Late family parts token fault) (also : Late family parts token other) : fault = other := by
  have apart : ∀ {hop n}, IsHop family token hop → ¬IsMetric token n := by
    intro hop n isHop isMetric
    rw [IsHop, Address.ofFamily?_of_readSigned family isMetric.1] at isHop
    cases isHop
  cases late with
  | nextHop isHop =>
    cases also with
    | nextHop => rfl
    | metric isMetric => exact absurd isMetric (apart isHop)
  | metric isMetric =>
    cases also with
    | nextHop isHop => exact absurd isMetric (apart isHop)
    | metric => rfl

inductive Step (family : Family) (parts : Parts) (token : String) : Except Error Route → Prop
  | hop {hop : Address} (isHop : IsHop family token hop) (noMetric : parts.metrics = [])
      (bare : parts.attributes = []) :
      Step family parts token (.ok { parts with hops := parts.hops ++ [hop] }.route)
  | metric {n : Nat} (isMetric : IsMetric token n) (bare : parts.attributes = []) :
      Step family parts token (.ok { parts with metrics := parts.metrics ++ [n] }.route)
  | attributes {entry : String × AttributeValue} (spelled : RouteAttribute.Spells family token entry) :
      Step family parts token (.ok { parts with attributes := parts.attributes ++ [entry] }.route)
  | late {fault : Fault} (late : Late family parts token fault) :
      Step family parts token (.error (.ambiguous token fault))
  | stray {part : String} {fault : Fault} (noHop : ∀ hop, ¬IsHop family token hop)
      (noMetric : ∀ n, ¬IsMetric token n)
      (noAttribute : ∀ entry, ¬RouteAttribute.Spells family token entry)
      (blamed : Blames token (.invalid part fault)) :
      Step family parts token (.error (.invalid part fault))

theorem invalid_of_parseAttribute {family : Family} {token : String} {error : Error}
    (failed : RouteAttribute.parse family token = .error error) :
    ∃ part fault, error = .invalid part fault ∧ Blames token (.invalid part fault) := by
  unfold RouteAttribute.parse at failed
  split at failed
  · cases failed
    exact ⟨_, _, rfl, .token _⟩
  · next name value cut =>
    split at failed
    · cases failed
      exact ⟨_, _, rfl, .token _⟩
    · split at failed
      · cases failed
        exact ⟨_, _, rfl, .token _⟩
      · split at failed
        · cases failed
          have glued : token = name ++ "=" ++ value := by
            rw [← String.toList_inj, (Text.cutOnce_eq_some_iff.1 cut).1]
            simp
          exact ⟨_, _, rfl, .value glued _⟩
        · split at failed
          · cases failed
          · cases failed
            exact ⟨_, _, rfl, .token _⟩

section Step

variable {family : Family} {parts : Parts} {token : String}

theorem attributes_ne_nil_iff : (!parts.route.attributes.isEmpty) = true ↔ parts.attributes ≠ [] := by
  simp [Parts.isEmpty_attributes]

theorem hasMetric_or_attributes_iff (bounded : ∀ n ∈ parts.metrics, n ≤ 4294967295) :
    (parts.route.hasMetric || !parts.route.attributes.isEmpty) = true ↔
      parts.metrics ≠ [] ∨ parts.attributes ≠ [] := by
  simp [Parts.hasMetric_route bounded, Parts.isEmpty_attributes]

theorem step_of_isHop (bounded : ∀ n ∈ parts.metrics, n ≤ 4294967295) {hop : Address}
    (isHop : IsHop family token hop) : Step family parts token (addToken family parts.route token) := by
  have found : Address.ofFamily? family token = some hop := isHop
  simp only [addToken, found]
  split
  · next behind => exact .late (.nextHop isHop ((hasMetric_or_attributes_iff bounded).1 behind))
  · next first =>
    rw [hasMetric_or_attributes_iff bounded, not_or, not_not, not_not] at first
    rw [← Parts.route_append_hop]
    exact .hop isHop first.1 first.2

theorem step_of_isMetric (noHop : Address.ofFamily? family token = none) {n : Nat}
    (isMetric : IsMetric token n) : Step family parts token (addToken family parts.route token) := by
  simp only [addToken, noHop, Numeral.natural?_eq_some_iff.2 isMetric]
  split
  · next behind => exact .late (.metric isMetric (attributes_ne_nil_iff.1 behind))
  · next first =>
    rw [attributes_ne_nil_iff, not_not] at first
    rw [← Parts.route_append_metric]
    exact .metric isMetric first

/-- What is neither a next hop nor a metric is an attribute or nothing that a route may have. -/
theorem step_of_neither (noHop : Address.ofFamily? family token = none)
    (noMetric : Numeral.natural? (.fixed 10) 4294967295 token = none) :
    Step family parts token (addToken family parts.route token) := by
  have notHop : ∀ hop, ¬IsHop family token hop := by simp [IsHop, noHop]
  have notMetric : ∀ n, ¬IsMetric token n := by
    intro n isMetric
    rw [Numeral.natural?_eq_some_iff.2 isMetric] at noMetric
    cases noMetric
  simp only [addToken, noHop, noMetric]
  split
  · cases read : RouteAttribute.parse family token with
    | error error =>
      obtain ⟨part, fault, rfl, blamed⟩ := invalid_of_parseAttribute read
      refine .stray notHop notMetric (fun entry spelled => ?_) blamed
      rw [RouteAttribute.parse_eq_ok_iff.2 spelled] at read
      cases read
    | ok entry =>
      show Step family parts token (.ok { parts.route with
        attributes := parts.route.attributes.insert entry.1 entry.2 })
      rw [← Parts.route_append_attribute]
      exact .attributes (RouteAttribute.parse_eq_ok_iff.1 read)
  · next noSign =>
    refine .stray notHop notMetric (fun entry spelled => ?_) (.token _)
    obtain ⟨listed, -, -, -, text, rfl, -⟩ := spelled
    exact noSign (by simp [Text.contains])

theorem step_addToken (bounded : ∀ n ∈ parts.metrics, n ≤ 4294967295) (token : String) :
    Step family parts token (addToken family parts.route token) := by
  cases hop : Address.ofFamily? family token with
  | some found => exact step_of_isHop bounded hop
  | none =>
    cases metric : Numeral.natural? (.fixed 10) 4294967295 token with
    | some n => exact step_of_isMetric hop (Numeral.natural?_eq_some_iff.1 metric)
    | none => exact step_of_neither hop metric

end Step

theorem Spells.isTarget {family : Family} {target : String} {later : List String} {parts : Parts}
    (spelled : Spells family (target :: later) parts) :
    IsTarget family target parts.destination parts.length := by
  cases spelled with
  | tokens isTarget => exact isTarget

theorem Spells.bounded {family : Family} {tokens : List String} {parts : Parts}
    (spelled : Spells family tokens parts) : ∀ n ∈ parts.metrics, n ≤ 4294967295 := by
  cases spelled with
  | @tokens _ _ metrics _ _ isTarget areHops areMetrics areAttributes =>
    have both : List.Forall₂ (fun n token => n ≤ 4294967295 ∧ IsMetric token n) parts.metrics metrics :=
      areMetrics.flip.imp fun n token isMetric => ⟨isMetric.2, isMetric⟩
    exact ((List.forall₂_and_left ..).1 both).1

theorem Spells.step {family : Family} {tokens : List String} {parts : Parts}
    (spelled : Spells family tokens parts) {token : String} {next : Route}
    (taken : addToken family parts.route token = .ok next) :
    ∃ more, Spells family (tokens ++ [token]) more ∧ more.route = next := by
  have step : Step family parts token (addToken family parts.route token) :=
    step_addToken spelled.bounded token
  rw [taken] at step
  cases spelled with
  | @tokens target hops metrics attributes _ isTarget areHops areMetrics areAttributes =>
    cases step with
    | @hop hop isHop noMetric bare =>
      rw [noMetric, List.forall₂_nil_right_iff] at areMetrics
      rw [bare, List.forall₂_nil_right_iff] at areAttributes
      subst areMetrics areAttributes
      have grown : Spells family (target :: (hops ++ [token] ++ [] ++ []))
          { parts with hops := parts.hops ++ [hop], metrics := [], attributes := [] } :=
        .tokens isTarget (List.rel_append areHops (.cons isHop .nil)) .nil .nil
      refine ⟨_, ?_, rfl⟩
      rw [noMetric, bare]
      simpa using grown
    | @metric n isMetric bare =>
      rw [bare, List.forall₂_nil_right_iff] at areAttributes
      subst areAttributes
      have grown : Spells family (target :: (hops ++ (metrics ++ [token]) ++ []))
          { parts with metrics := parts.metrics ++ [n], attributes := [] } :=
        .tokens isTarget areHops (List.rel_append areMetrics (.cons isMetric .nil)) .nil
      refine ⟨_, ?_, rfl⟩
      rw [bare]
      simpa using grown
    | @attributes entry spelled =>
      have grown : Spells family (target :: (hops ++ metrics ++ (attributes ++ [token])))
          { parts with attributes := parts.attributes ++ [entry] } :=
        .tokens isTarget areHops areMetrics (List.rel_append areAttributes (.cons spelled .nil))
      refine ⟨_, ?_, rfl⟩
      simpa using grown

theorem spells_of_foldlM {family : Family} {target : String} {later : List String} {destination : Address}
    {length : UInt8} {route : Route} (isTarget : IsTarget family target destination length)
    (run : later.foldlM (addToken family) { destination, length } = .ok route) :
    ∃ parts, Spells family (target :: later) parts ∧ parts.route = route := by
  -- from the last token back: what it may be depends on the parts of all tokens before it
  induction later using List.reverseRecOn generalizing route with
  | nil =>
    cases run
    have alone : Spells family (target :: ([] ++ [] ++ [])) ⟨destination, length, [], [], []⟩ :=
      .tokens isTarget .nil .nil .nil
    exact ⟨_, alone, rfl⟩
  | append_singleton earlier token ih =>
    rw [List.foldlM_append] at run
    obtain ⟨state, before, taken⟩ := Reading.bind_eq_ok run
    obtain ⟨parts, spelled, rfl⟩ := ih before
    rw [List.foldlM_cons] at taken
    obtain ⟨next, taken, last⟩ := Reading.bind_eq_ok taken
    cases last
    exact spelled.step taken

theorem foldlM_of_spells {family : Family} {target : String} {later : List String} {parts : Parts}
    (spelled : Spells family (target :: later) parts) :
    later.foldlM (addToken family) { destination := parts.destination, length := parts.length } =
      .ok parts.route := by
  cases spelled with
  | @tokens _ hops metrics attributes _ isTarget areHops areMetrics areAttributes =>
    obtain ⟨destination, length, hopsRead, metricsRead, attributesRead⟩ := parts
    have hopsTaken : hops.foldlM (addToken family) (Parts.route ⟨destination, length, [], [], []⟩)
        = .ok (Parts.route ⟨destination, length, hopsRead, [], []⟩) := by
      refine Reading.foldlM_of_forall₂ (fun read => Parts.route ⟨destination, length, read, [], []⟩)
        (fun read token hop isHop => ?_) areHops []
      rw [addToken_hop isHop rfl rfl, ← Parts.route_append_hop]
    have metricsTaken : metrics.foldlM (addToken family) (Parts.route ⟨destination, length, hopsRead, [], []⟩)
        = .ok (Parts.route ⟨destination, length, hopsRead, metricsRead, []⟩) := by
      refine Reading.foldlM_of_forall₂ (fun read => Parts.route ⟨destination, length, hopsRead, read, []⟩)
        (fun read token n isMetric => ?_) areMetrics []
      rw [addToken_metric (Numeral.natural?_eq_some_iff.2 isMetric) rfl, ← Parts.route_append_metric]
    have attributesTaken : attributes.foldlM (addToken family)
        (Parts.route ⟨destination, length, hopsRead, metricsRead, []⟩)
        = .ok (Parts.route ⟨destination, length, hopsRead, metricsRead, attributesRead⟩) := by
      refine Reading.foldlM_of_forall₂
        (fun read => Parts.route ⟨destination, length, hopsRead, metricsRead, read⟩)
        (fun read token entry spelled => ?_) areAttributes []
      rw [addToken_attribute spelled, ← Parts.route_append_attribute]
    rw [List.foldlM_append, List.foldlM_append]
    show ((hops.foldlM _ (Parts.route ⟨destination, length, [], [], []⟩) >>= _) >>= _) = _
    rw [hopsTaken]
    show metrics.foldlM _ _ >>= _ = _
    rw [metricsTaken]
    exact attributesTaken

theorem Spells.ends {family : Family} {before : List String} {parts : Parts}
    (spelled : Spells family before parts) {token : String} {error : Error}
    (refused : addToken family parts.route token = .error error) (more : Parts) :
    ¬Spells family (before ++ [token]) more := by
  intro longer
  cases before with
  | nil => cases spelled
  | cons target before =>
    rw [List.cons_append] at longer
    have ran := foldlM_of_spells spelled
    have ranOn := foldlM_of_spells longer
    obtain ⟨sameTarget, sameLength⟩ := spelled.isTarget.unique longer.isTarget
    rw [← sameTarget, ← sameLength, List.foldlM_append, ran] at ranOn
    simp only [bind, Except.bind, List.foldlM_cons, refused] at ranOn
    cases ranOn

theorem spells_of_parse {family : Family} {text : String} {route : Route}
    (read : parse family text = .ok route) :
    ∃ parts, Spells family (Text.tokens text) parts ∧ parts.route = route := by
  rcases parse_cases family text with
    ⟨-, failed⟩ | ⟨first, later, fault, -, -, failed⟩ | ⟨first, later, destination, length, cut, isTarget, run⟩
  · rw [failed] at read
    cases read
  · rw [failed] at read
    cases read
  · rw [run] at read
    rw [cut]
    exact spells_of_foldlM isTarget read

structure Parts.Unrepeated (parts : Parts) : Prop where
  hops : parts.hops.length ≤ 1
  metrics : parts.metrics.length ≤ 1
  attributes : (parts.attributes.map (·.1)).Nodup

structure Parts.Kept (parts : Parts) (route : Route) : Prop where
  hops : route.nextHop.toList = parts.hops
  metrics : (if route.hasMetric then [route.metric.toInt] else []) = parts.metrics.map Int.ofNat
  attributes : route.attributes.entries.Perm parts.attributes

theorem toList_getLast?_eq_self {α : Type} {values : List α} :
    values.getLast?.toList = values ↔ values.length ≤ 1 := by
  match values with
  | [] => simp
  | [value] => simp
  | first :: second :: rest =>
    refine iff_of_false (fun same => ?_) (by simp)
    have count := congrArg List.length same
    have short : ∀ last : Option α, last.toList.length ≤ 1 := by rintro (_ | _) <;> simp
    have atMost := short (first :: second :: rest).getLast?
    rw [count, List.length_cons, List.length_cons] at atMost
    omega

theorem Parts.metric_toList {parts : Parts} (bounded : ∀ n ∈ parts.metrics, n ≤ 4294967295) :
    (if parts.route.hasMetric then [parts.route.metric.toInt] else [])
      = (parts.metrics.map Int.ofNat).getLast?.toList := by
  rw [hasMetric_route bounded, toInt_metric bounded, List.getLast?_map]
  cases last : parts.metrics.getLast? with
  | none => simp [List.getLast?_eq_none_iff.1 last]
  | some n =>
    have there : parts.metrics ≠ [] := List.ne_nil_of_mem (List.mem_of_getLast? last)
    simp [there]

/-- Repeated parts are taken without a word, and only the last of them is kept. -/
theorem kept_iff_unrepeated {family : Family} {text : String} {route : Route}
    (read : parse family text = .ok route) :
    ∃ parts, Spells family (Text.tokens text) parts ∧ parts.Makes route ∧
      (parts.Kept route ↔ parts.Unrepeated) := by
  obtain ⟨parts, spelled, rfl⟩ := spells_of_parse read
  have bounded := spelled.bounded
  refine ⟨parts, spelled, (Parts.makes_iff bounded).2 rfl, fun kept => ?_, fun unrepeated => ?_⟩
  · refine ⟨toList_getLast?_eq_self.1 kept.hops, ?_, ?_⟩
    · have metrics := kept.metrics
      rw [Parts.metric_toList bounded, toList_getLast?_eq_self, List.length_map] at metrics
      exact metrics
    · exact (kept.attributes.map (·.1)).nodup_iff.1 (Dict.nodup_keys _)
  · refine ⟨toList_getLast?_eq_self.2 unrepeated.hops, ?_, Dict.perm_ofList unrepeated.attributes⟩
    rw [Parts.metric_toList bounded, toList_getLast?_eq_self, List.length_map]
    exact unrepeated.metrics

theorem kept_iff_unrepeated_mtu :
    let text := "10.0.0.0/8 5 mtu=1500"
    let route : Route := ⟨.v4 ⟨10, 0, 0, 0⟩, 8, none, 5, .ofList [("mtu", .u32 1500)]⟩
    parse .v4 text = .ok route ∧ ∃ parts, Spells .v4 (Text.tokens text) parts ∧ parts.Makes route ∧
      (parts.Kept route ↔ parts.Unrepeated) := by
  intro text route
  have read : parse .v4 text = .ok route := by decide +kernel
  exact ⟨read, kept_iff_unrepeated read⟩

/-- The first of two next hops is lost. -/
theorem first_hop_lost :
    let text := "10.0.0.0/8 10.0.0.1 10.0.0.2"
    let parts : Parts := ⟨.v4 ⟨10, 0, 0, 0⟩, 8, [.v4 ⟨10, 0, 0, 1⟩, .v4 ⟨10, 0, 0, 2⟩], [], []⟩
    let route : Route := {
      destination := .v4 ⟨10, 0, 0, 0⟩, length := 8, nextHop := some (.v4 ⟨10, 0, 0, 2⟩) }
    parse .v4 text = .ok route ∧ Spells .v4 (Text.tokens text) parts ∧ ¬parts.Unrepeated ∧
      ¬parts.Kept route := by
  intro text parts route
  have cut : Text.tokens text = "10.0.0.0/8" :: (["10.0.0.1", "10.0.0.2"] ++ [] ++ []) := by decide +kernel
  have spelled : Spells .v4 (Text.tokens text) parts := by
    rw [cut]
    refine .tokens (.inr ⟨"10.0.0.0", "8", rfl, by decide +kernel, ⟨by decide +kernel, by decide⟩, by decide⟩)
      (.cons ?_ (.cons ?_ .nil)) .nil .nil
    · show Address.ofFamily? .v4 "10.0.0.1" = some (.v4 ⟨10, 0, 0, 1⟩)
      decide +kernel
    · show Address.ofFamily? .v4 "10.0.0.2" = some (.v4 ⟨10, 0, 0, 2⟩)
      decide +kernel
  refine ⟨by decide +kernel, spelled, fun unrepeated => ?_, fun kept => ?_⟩
  · exact absurd unrepeated.hops (by decide)
  · exact absurd kept.hops (by decide)

end NetProfile.Route
