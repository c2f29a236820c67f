import Mathlib.Data.List.Basic
import Mathlib.Logic.Basic
import HttpRelay.Config.Loading

/-!
# The rules and their violations

What every rule asks of a configuration, said without the check that decides it, and how a rule
that is broken is reported. The violations of a configuration are the reports of the rules that
it breaks, one for each and in the order of the rules (`violations_eq`). Every value of a
configuration is read by one rule at most, so a change of a value shows in the report of that rule
alone, and a configuration is made valid by giving a good value to one reported property after
another (`violations_exact`).
-/

namespace HttpRelay.Config

namespace Property

/-- The properties of one direction. -/
def ofKind (kind : Kind) : List Property :=
  [.receiveTimeout kind, .startLineSize kind, .fieldCount kind, .fieldSize kind]

/-- All properties, in the order of their rules. -/
def all : List Property :=
  [.listenerPort, .bindHost, .maxConnections, .targetAddress, .targetPort, .connectTimeout] ++
    ofKind .request ++ ofKind .response ++ [.terminationTimeout, .metricsAddress]

theorem mem_all (property : Property) : property ∈ all := by
  cases property with
  | receiveTimeout kind | startLineSize kind | fieldCount kind | fieldSize kind =>
      cases kind <;> decide
  | _ => decide

/-- No two properties have the same place in a configuration text. -/
theorem nodup_paths : (all.map path).Nodup := by decide +kernel

end Property

/-- A text that has a character, and no blank. -/
def IsUnbroken (text : String) : Prop :=
  (∃ char ∈ text.toList, ¬Text.isBlank char) ∧ ∀ char ∈ text.toList, ¬Text.isBlank char

instance (text : String) : Decidable (IsUnbroken text) :=
  decidable_of_iff
    (text.toList.any (fun char => !Text.isBlank char) ∧
      text.toList.all fun char => !Text.isBlank char)
    (by simp only [IsUnbroken, List.any_eq_true, List.all_eq_true, Bool.not_eq_true',
      Bool.not_eq_true])

/-- What the rule of a property asks. -/
def Satisfies (config : Config) : Property → Prop
  | .listenerPort => config.listener.port ≠ 0
  | .bindHost => (Host.ofText? config.listener.bindHost.toList).isSome
  | .maxConnections => 0 < config.listener.maxConnections
  | .targetAddress => IsUnbroken config.target.address
  | .targetPort => config.target.port ≠ 0
  | .connectTimeout => 0 < config.target.connectTimeout
  | .receiveTimeout kind => 0 < (config.http.of kind).receiveTimeout
  | .startLineSize kind => 255 ≤ (config.http.of kind).startLineSize.toNat
  | .fieldCount kind => 1 ≤ (config.http.of kind).fieldCount.toNat
  | .fieldSize kind => 255 ≤ (config.http.of kind).fieldSize.toNat
  | .terminationTimeout => 0 < config.handlers.terminationTimeout
  | .metricsAddress =>
      config.observability.metricsEnabled →
        (Endpoint.ofText? config.observability.metricsAddress.toList).isSome

instance (config : Config) : DecidablePred config.Satisfies := by
  intro property
  cases property <;> unfold Satisfies <;> infer_instance

/-- How the rule of a property is reported when it is broken. -/
def breach (config : Config) : Property → Violation
  | .listenerPort => .missing .listenerPort
  | .bindHost => .invalid .bindHost config.listener.bindHost
  | .maxConnections => .zero .maxConnections
  | .targetAddress =>
      if config.target.address.toList.all Text.isBlank then .missing .targetAddress
      else .invalid .targetAddress config.target.address
  | .targetPort => .missing .targetPort
  | .connectTimeout => .zero .connectTimeout
  | .receiveTimeout kind => .zero (.receiveTimeout kind)
  | .startLineSize kind =>
      .tooSmall (.startLineSize kind) 255 (config.http.of kind).startLineSize.toNat
  | .fieldCount kind => .tooSmall (.fieldCount kind) 1 (config.http.of kind).fieldCount.toNat
  | .fieldSize kind => .tooSmall (.fieldSize kind) 255 (config.http.of kind).fieldSize.toNat
  | .terminationTimeout => .zero .terminationTimeout
  | .metricsAddress => .invalid .metricsAddress config.observability.metricsAddress

/-- A report names its own property. -/
@[simp]
theorem property_breach (config : Config) (property : Property) :
    (config.breach property).property = property := by
  cases property with
  | targetAddress =>
      simp only [breach]
      split <;> rfl
  | _ => rfl

/-- The check of the rule of a property. -/
def check (config : Config) : Property → Option Violation
  | .listenerPort => checkPort .listenerPort config.listener.port
  | .bindHost => checkBindHost config.listener.bindHost
  | .maxConnections => checkNonzero .maxConnections config.listener.maxConnections
  | .targetAddress => checkTarget config.target.address
  | .targetPort => checkPort .targetPort config.target.port
  | .connectTimeout => checkNonzero .connectTimeout config.target.connectTimeout
  | .receiveTimeout kind => checkNonzero (.receiveTimeout kind) (config.http.of kind).receiveTimeout
  | .startLineSize kind =>
      checkLeast (.startLineSize kind) leastSize (config.http.of kind).startLineSize
  | .fieldCount kind => checkLeast (.fieldCount kind) 1 (config.http.of kind).fieldCount
  | .fieldSize kind => checkLeast (.fieldSize kind) leastSize (config.http.of kind).fieldSize
  | .terminationTimeout => checkNonzero .terminationTimeout config.handlers.terminationTimeout
  | .metricsAddress => checkMetrics config.observability

theorem checks_eq (config : Config) : config.checks = Property.all.map config.check := rfl

theorem checkPort_eq (property : Property) (port : UInt16) :
    checkPort property port = if port ≠ 0 then none else some (.missing property) := by
  simp only [checkPort, ne_eq, ite_not]

theorem checkNonzero_eq (property : Property) (value : UInt64) :
    checkNonzero property value = if 0 < value then none else some (.zero property) := by
  have positive : 0 < value ↔ ¬value = 0 := UInt64.pos_iff_ne_zero
  simp only [checkNonzero, positive, ite_not]

theorem checkLeast_eq (property : Property) (least : Nat) (value : UInt64) :
    checkLeast property least value =
      if least ≤ value.toNat then none else some (.tooSmall property least value.toNat) := by
  simp only [checkLeast, ← Nat.not_lt, ite_not]

theorem checkTarget_eq (address : String) :
    checkTarget address =
      if IsUnbroken address then none
      else if address.toList.all Text.isBlank then some (.missing .targetAddress)
      else some (.invalid .targetAddress address) := by
  rw [checkTarget]
  by_cases blank : address.toList.all Text.isBlank
  · have noCharacter : ¬IsUnbroken address := by
      rintro ⟨⟨char, isIn, notBlank⟩, _⟩
      exact notBlank (List.all_eq_true.mp blank char isIn)
    rw [if_pos blank, if_neg noCharacter, if_pos blank]
  · rw [if_neg blank]
    by_cases anyBlank : address.toList.any Text.isBlank
    · have notAll : ¬IsUnbroken address := by
        rcases List.any_eq_true.mp anyBlank with ⟨char, isIn, isBlank⟩
        exact fun unbroken => unbroken.2 char isIn isBlank
      rw [if_pos anyBlank, if_neg notAll, if_neg blank]
    · have noneBlank : ∀ char ∈ address.toList, ¬Text.isBlank char :=
        fun char isIn isBlank => anyBlank (List.any_eq_true.mpr ⟨char, isIn, isBlank⟩)
      have someCharacter : ∃ char ∈ address.toList, ¬Text.isBlank char := by
        simpa only [List.all_eq_true, not_forall, exists_prop] using blank
      rw [if_neg anyBlank, if_pos ⟨someCharacter, noneBlank⟩]

theorem checkMetrics_eq (observability : Observability) :
    checkMetrics observability =
      if observability.metricsEnabled →
          (Endpoint.ofText? observability.metricsAddress.toList).isSome then none
      else some (.invalid .metricsAddress observability.metricsAddress) := by
  simp only [checkMetrics]
  cases observability.metricsEnabled <;>
    cases Endpoint.ofText? observability.metricsAddress.toList <;> rfl

/-- A check decides its rule and reports it if it is broken. -/
theorem check_eq (config : Config) (property : Property) :
    config.check property =
      if config.Satisfies property then none else some (config.breach property) := by
  cases property with
  | listenerPort => exact checkPort_eq _ _
  | targetPort => exact checkPort_eq _ _
  | maxConnections => exact checkNonzero_eq _ _
  | connectTimeout => exact checkNonzero_eq _ _
  | receiveTimeout kind => exact checkNonzero_eq _ _
  | terminationTimeout => exact checkNonzero_eq _ _
  | startLineSize kind => exact checkLeast_eq _ _ _
  | fieldCount kind => exact checkLeast_eq _ _ _
  | fieldSize kind => exact checkLeast_eq _ _ _
  | bindHost => rfl
  | targetAddress =>
      simp only [check, checkTarget_eq, Satisfies, breach, apply_ite some]
  | metricsAddress => exact checkMetrics_eq _

theorem check_of_satisfies {config : Config} {property : Property}
    (satisfied : config.Satisfies property) : config.check property = none := by
  rw [check_eq, if_pos satisfied]

theorem property_of_check {config : Config} {property : Property} {violation : Violation}
    (broken : config.check property = some violation) : violation.property = property := by
  rw [check_eq, Option.ite_none_left_eq_some, Option.some.injEq] at broken
  rw [← broken.2, property_breach]

theorem violations_eq_filterMap (config : Config) :
    config.violations = Property.all.filterMap config.check := by
  rw [violations, checks_eq, List.filterMap_map]
  rfl

/-- The violations are the reports of the broken rules. -/
theorem violations_eq (config : Config) :
    config.violations =
      (Property.all.filter fun property => ¬config.Satisfies property).map config.breach := by
  rw [violations_eq_filterMap]
  induction Property.all with
  | nil => rfl
  | cons property others ih =>
      rw [List.filterMap_cons, check_eq, ih]
      by_cases satisfied : config.Satisfies property <;> simp [satisfied]

theorem violations_eq_nil_iff (config : Config) :
    config.violations = [] ↔ ∀ property, config.Satisfies property := by
  simp [violations_eq, Property.mem_all]

/-- The reports about some properties are the reports of their rules. -/
theorem filter_violations (config : Config) (isMeant : Property → Bool) :
    (config.violations.filter fun violation => isMeant violation.property) =
      (Property.all.filter isMeant).filterMap config.check := by
  rw [violations_eq_filterMap]
  induction Property.all with
  | nil => rfl
  | cons property others ih =>
      cases broken : config.check property with
      | none => cases meant : isMeant property <;> simp [broken, meant, ih]
      | some violation =>
          have named := property_of_check broken
          cases meant : isMeant property <;> simp [broken, named, meant, ih]

/-- Configurations whose checks of some properties agree have the same reports about these. -/
theorem filter_violations_congr {config other : Config} (isMeant : Property → Bool)
    (agree : ∀ property, isMeant property = true → config.check property = other.check property) :
    (config.violations.filter fun violation => isMeant violation.property) =
      other.violations.filter fun violation => isMeant violation.property := by
  rw [filter_violations, filter_violations]
  apply List.filterMap_congr
  intro property isIn
  exact agree property (List.mem_filter.mp isIn).2

/-- The values that make up a configuration. -/
inductive Setting where
  | bindHost
  | listenerPort
  | maxConnections
  | targetAddress
  | targetPort
  | connectTimeout
  | receiveTimeout (kind : Kind)
  | startLineSize (kind : Kind)
  | fieldCount (kind : Kind)
  | fieldSize (kind : Kind)
  | logInterval
  | terminationTimeout
  | logLevel
  | metricsEnabled
  | metricsAddress
  deriving DecidableEq

/-- The property whose rule reads a value, if there is one. -/
def Setting.reader? : Setting → Option Property
  | .bindHost => some .bindHost
  | .listenerPort => some .listenerPort
  | .maxConnections => some .maxConnections
  | .targetAddress => some .targetAddress
  | .targetPort => some .targetPort
  | .connectTimeout => some .connectTimeout
  | .receiveTimeout kind => some (.receiveTimeout kind)
  | .startLineSize kind => some (.startLineSize kind)
  | .fieldCount kind => some (.fieldCount kind)
  | .fieldSize kind => some (.fieldSize kind)
  | .terminationTimeout => some .terminationTimeout
  | .metricsEnabled | .metricsAddress => some .metricsAddress
  | .logInterval | .logLevel => none

/-- Whether two configurations have the same value. -/
def AgreesOn (config other : Config) : Setting → Prop
  | .bindHost => config.listener.bindHost = other.listener.bindHost
  | .listenerPort => config.listener.port = other.listener.port
  | .maxConnections => config.listener.maxConnections = other.listener.maxConnections
  | .targetAddress => config.target.address = other.target.address
  | .targetPort => config.target.port = other.target.port
  | .connectTimeout => config.target.connectTimeout = other.target.connectTimeout
  | .receiveTimeout kind =>
      (config.http.of kind).receiveTimeout = (other.http.of kind).receiveTimeout
  | .startLineSize kind => (config.http.of kind).startLineSize = (other.http.of kind).startLineSize
  | .fieldCount kind => (config.http.of kind).fieldCount = (other.http.of kind).fieldCount
  | .fieldSize kind => (config.http.of kind).fieldSize = (other.http.of kind).fieldSize
  | .logInterval => config.handlers.logInterval = other.handlers.logInterval
  | .terminationTimeout => config.handlers.terminationTimeout = other.handlers.terminationTimeout
  | .logLevel => config.observability.logLevel = other.observability.logLevel
  | .metricsEnabled => config.observability.metricsEnabled = other.observability.metricsEnabled
  | .metricsAddress => config.observability.metricsAddress = other.observability.metricsAddress

attribute [ext] Listener Target HeaderLimits Http Handlers Observability Config

/-- Nothing else is in a configuration. -/
theorem eq_of_agreesOn {config other : Config} (agree : ∀ setting, config.AgreesOn other setting) :
    config = other := by
  have limits : ∀ kind, config.http.of kind = other.http.of kind := fun kind =>
    HeaderLimits.ext (agree (.receiveTimeout kind)) (agree (.startLineSize kind))
      (agree (.fieldCount kind)) (agree (.fieldSize kind))
  apply Config.ext
  · exact Listener.ext (agree .bindHost) (agree .listenerPort) (agree .maxConnections)
  · exact Target.ext (agree .targetAddress) (agree .targetPort) (agree .connectTimeout)
  · exact Http.ext (limits .request) (limits .response)
  · exact Handlers.ext (agree .logInterval) (agree .terminationTimeout)
  · exact Observability.ext (agree .logLevel) (agree .metricsEnabled) (agree .metricsAddress)

/-- The check of a property looks at nothing but the values that its rule reads. -/
theorem check_congr {config other : Config} {property : Property}
    (agree : ∀ setting, setting.reader? = some property → config.AgreesOn other setting) :
    config.check property = other.check property := by
  cases property with
  | listenerPort => exact congrArg (checkPort _) (agree .listenerPort rfl)
  | bindHost => exact congrArg checkBindHost (agree .bindHost rfl)
  | maxConnections => exact congrArg (checkNonzero _) (agree .maxConnections rfl)
  | targetAddress => exact congrArg checkTarget (agree .targetAddress rfl)
  | targetPort => exact congrArg (checkPort _) (agree .targetPort rfl)
  | connectTimeout => exact congrArg (checkNonzero _) (agree .connectTimeout rfl)
  | receiveTimeout kind => exact congrArg (checkNonzero _) (agree (.receiveTimeout kind) rfl)
  | startLineSize kind => exact congrArg (checkLeast _ _) (agree (.startLineSize kind) rfl)
  | fieldCount kind => exact congrArg (checkLeast _ _) (agree (.fieldCount kind) rfl)
  | fieldSize kind => exact congrArg (checkLeast _ _) (agree (.fieldSize kind) rfl)
  | terminationTimeout => exact congrArg (checkNonzero _) (agree .terminationTimeout rfl)
  | metricsAddress =>
      have enabled := agree .metricsEnabled rfl
      have address := agree .metricsAddress rfl
      simp only [AgreesOn] at enabled address
      simp only [check, checkMetrics, enabled, address]

/-- A change of one value shows in the report of the rule that reads it, and nowhere else. -/
theorem filter_violations_of_change {config other : Config} {changed : Setting}
    (agree : ∀ setting, setting ≠ changed → config.AgreesOn other setting) :
    (config.violations.filter fun violation => changed.reader? ≠ some violation.property) =
      other.violations.filter fun violation => changed.reader? ≠ some violation.property := by
  apply filter_violations_congr fun property => changed.reader? ≠ some property
  intro property meant
  apply check_congr
  intro setting reads
  apply agree
  rintro rfl
  exact (of_decide_eq_true meant) reads

/-! ## Repairs -/

/-- A change that touches only what the rule of a property reads, and makes the rule hold. -/
structure Repairs (property : Property) (before after : Config) : Prop where
  elsewhere : ∀ setting, setting.reader? ≠ some property → before.AgreesOn after setting
  satisfied : after.Satisfies property

/-- What becomes of a configuration when properties are repaired one after another. -/
inductive IsRepaired : Config → List Property → Config → Prop where
  | nothing (config : Config) : IsRepaired config [] config
  | next {before middle after : Config} {property : Property} {properties : List Property}
      (repairs : Repairs property before middle) (others : IsRepaired middle properties after) :
      IsRepaired before (property :: properties) after

theorem Repairs.violations_eq {property : Property} {before after : Config}
    (repairs : Repairs property before after) :
    after.violations = before.violations.filter fun violation => violation.property ≠ property := by
  have unreported : ∀ violation ∈ after.violations, decide (violation.property ≠ property) := by
    intro violation reported
    rw [violations_eq_filterMap, List.mem_filterMap] at reported
    rcases reported with ⟨other, _, broken⟩
    have named := property_of_check broken
    apply decide_eq_true
    rintro rfl
    rw [← named, check_of_satisfies repairs.satisfied] at broken
    cases broken
  rw [← List.filter_eq_self.mpr unreported]
  apply filter_violations_congr fun other => other ≠ property
  intro other different
  apply (check_congr _).symm
  intro setting reads
  apply repairs.elsewhere
  rw [reads, ne_eq, Option.some.injEq]
  exact of_decide_eq_true different

/-- Repairs take away the reports of the repaired properties, and no others. -/
theorem IsRepaired.violations_eq {properties : List Property} {before after : Config}
    (repaired : IsRepaired before properties after) :
    after.violations =
      before.violations.filter fun violation => violation.property ∉ properties := by
  induction repaired with
  | nothing config => simp
  | next repairs others ih =>
      rw [ih, repairs.violations_eq, List.filter_filter]
      apply List.filter_congr
      intro violation _
      simp [Bool.and_comm]

/-- The same limits but for those of one direction. -/
def Http.change (http : Http) (kind : Kind) (change : HeaderLimits → HeaderLimits) : Http :=
  match kind with
  | .request => { http with request := change http.request }
  | .response => { http with response := change http.response }

/-- A configuration with a good value under a property. -/
def repair (config : Config) : Property → Config
  | .listenerPort => { config with listener.port := 8080 }
  | .bindHost => { config with listener.bindHost := "::" }
  | .maxConnections => { config with listener.maxConnections := 1 }
  | .targetAddress => { config with target.address := "localhost" }
  | .targetPort => { config with target.port := 80 }
  | .connectTimeout => { config with target.connectTimeout := 1 }
  | .receiveTimeout kind =>
      { config with http := config.http.change kind fun limits =>
          { limits with receiveTimeout := 1 } }
  | .startLineSize kind =>
      { config with http := config.http.change kind fun limits =>
          { limits with startLineSize := 255 } }
  | .fieldCount kind =>
      { config with http := config.http.change kind fun limits => { limits with fieldCount := 1 } }
  | .fieldSize kind =>
      { config with http := config.http.change kind fun limits =>
          { limits with fieldSize := 255 } }
  | .terminationTimeout => { config with handlers.terminationTimeout := 1 }
  | .metricsAddress => { config with observability.metricsAddress := "[::1]:9090" }

theorem repairs_repair (config : Config) (property : Property) :
    Repairs property config (config.repair property) := by
  constructor
  · intro setting differs
    cases property with
    | receiveTimeout kind | startLineSize kind | fieldCount kind | fieldSize kind =>
        cases setting with
        | receiveTimeout other | startLineSize other | fieldCount other | fieldSize other =>
            cases kind <;> cases other <;> first | rfl | exact absurd rfl differs
        | _ => rfl
    | _ => cases setting <;> first | rfl | exact absurd rfl differs
  · cases property with
    | listenerPort => exact (by decide : (8080 : UInt16) ≠ 0)
    | bindHost => exact (by decide +kernel : (Host.ofText? "::".toList).isSome)
    | targetAddress => exact (by decide +kernel : IsUnbroken "localhost")
    | targetPort => exact (by decide : (80 : UInt16) ≠ 0)
    | maxConnections | connectTimeout | terminationTimeout => exact (by decide : (0 : UInt64) < 1)
    | receiveTimeout kind => cases kind <;> exact (by decide : (0 : UInt64) < 1)
    | startLineSize kind | fieldSize kind =>
        cases kind <;> exact (by decide : 255 ≤ (255 : UInt64).toNat)
    | fieldCount kind => cases kind <;> exact (by decide : 1 ≤ (1 : UInt64).toNat)
    | metricsAddress =>
        intro _
        exact (by decide +kernel : (Endpoint.ofText? "[::1]:9090".toList).isSome)

theorem exists_isRepaired (config : Config) (properties : List Property) :
    ∃ after, config.IsRepaired properties after := by
  induction properties generalizing config with
  | nil => exact ⟨config, .nothing config⟩
  | cons property properties ih =>
      rcases ih (config.repair property) with ⟨after, others⟩
      exact ⟨after, .next (repairs_repair config property) others⟩

theorem validated_eq_ok_iff {config other : Config} :
    config.validated = .ok other ↔ config.violations = [] ∧ config = other := by
  simp only [validated, List.isEmpty_iff]
  split
  · rename_i noneBroken
    simp only [noneBroken, true_and, Except.ok.injEq]
  · rename_i someBroken
    simp only [someBroken, false_and, reduceCtorEq]

/-- A configuration is valid exactly if every rule holds, and is refused with a report of every
broken rule, in the order of the rules, otherwise. A change of one value leaves the reports of all
rules alone that do not read it. Properties can be repaired one after another; each repair takes
away exactly its own report, and when all reported ones are repaired the configuration is valid. -/
theorem violations_exact (config : Config) :
    (config.validated = .ok config ↔ ∀ property, config.Satisfies property) ∧
      ((∃ property, ¬config.Satisfies property) →
        config.validated = .error (.invalid config.violations)) ∧
      config.violations =
        (Property.all.filter fun property => ¬config.Satisfies property).map config.breach ∧
      (config.violations.map fun violation => violation.property.path).Nodup ∧
      (∀ changed other, (∀ setting, setting ≠ changed → config.AgreesOn other setting) →
        (config.violations.filter fun violation => changed.reader? ≠ some violation.property) =
          other.violations.filter fun violation => changed.reader? ≠ some violation.property) ∧
      (∀ properties, ∃ after, config.IsRepaired properties after) ∧
      ∀ properties after, config.IsRepaired properties after →
        (after.violations =
            config.violations.filter fun violation => violation.property ∉ properties) ∧
          ((∀ violation ∈ config.violations, violation.property ∈ properties) →
            after.validated = .ok after) := by
  refine ⟨?_, ?_, violations_eq config, ?_, ?_, exists_isRepaired config, ?_⟩
  · rw [validated_eq_ok_iff, violations_eq_nil_iff, and_iff_left rfl]
  · rintro ⟨property, broken⟩
    have reported : config.violations ≠ [] := by
      intro none
      exact broken ((violations_eq_nil_iff config).mp none property)
    simp [validated, reported]
  · have paths : (config.violations.map fun violation => violation.property.path) =
        (Property.all.filter fun property => ¬config.Satisfies property).map Property.path := by
      rw [violations_eq, List.map_map]
      apply List.map_congr_left
      intro property _
      exact congrArg Property.path (property_breach config property)
    rw [paths]
    exact Property.nodup_paths.sublist (List.filter_sublist.map _)
  · intro changed other agree
    exact filter_violations_of_change agree
  · intro properties after repaired
    refine ⟨repaired.violations_eq, ?_⟩
    intro allRepaired
    rw [validated_eq_ok_iff, and_iff_left rfl, repaired.violations_eq, List.filter_eq_nil_iff]
    intro violation reported
    simpa using allRepaired violation reported

/-- The configuration of an empty text lacks a target. It is repaired from the end. -/
theorem violations_exact_untouched :
    let withPort := default.repair .targetPort
    let repaired := withPort.repair .targetAddress
    (∃ property, ¬default.Satisfies property) ∧
      default.validated = .error (.invalid [.missing .targetAddress, .missing .targetPort]) ∧
      (∀ setting, setting ≠ .targetPort → default.AgreesOn withPort setting) ∧
      (withPort.violations.filter fun violation =>
        Setting.targetPort.reader? ≠ some violation.property) = [.missing .targetAddress] ∧
      default.IsRepaired [.targetPort, .targetAddress] repaired ∧
      repaired.validated = .ok repaired := by
  intro withPort repaired
  have reported : default.violations = [.missing .targetAddress, .missing .targetPort] := by
    decide +kernel
  have broken : ∃ property, ¬default.Satisfies property :=
    ⟨.targetPort, by simp [Satisfies, default, Target.default]⟩
  have agree : ∀ setting, setting ≠ .targetPort → default.AgreesOn withPort setting := by
    intro setting differs
    cases setting <;> first | rfl | exact absurd rfl differs
  have isRepaired : default.IsRepaired [.targetPort, .targetAddress] repaired :=
    .next (repairs_repair _ _) (.next (repairs_repair _ _) (.nothing _))
  rcases violations_exact default with ⟨_, refused, _, _, unmoved, _, valid⟩
  refine ⟨broken, reported ▸ refused broken, agree, ?_, isRepaired, ?_⟩
  · rw [← unmoved _ _ agree, reported]
    rfl
  · apply (valid _ _ isRepaired).2
    rw [reported]
    decide

end HttpRelay.Config
