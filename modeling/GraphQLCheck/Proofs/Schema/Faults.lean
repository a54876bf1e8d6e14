import GraphQLCheck.Proofs.Schema.Built
import GraphQLCheck.Schema.Layout
import Mathlib.Data.List.Basic

/-!
# The outcome of building a schema

Where something can be wrong between the types of a schema is a list of **spots** that depends on
the types alone (`spots`): in the order of the types, for an object or an interface each field and
then its parameters, and after all fields each interface it declares, with the fields and parameters
that the interface demands; for a union its members. Whether a spot is broken is a condition on that
spot (`Spot.Broken`), and a broken spot has one error (`Spot.violation`). Nothing else is found: the
violations of a draft are the errors of its broken spots, in order (`violations_eq_map_faults`).

With no broken spot, what is left to fail are the root types (`Draft.rootFault?`), of which the
first fault in the order of queries, mutations and subscriptions is the outcome.

The spots speak of fields and parameters by the names under which they are declared. The violations
are found through the names that the things carry themselves, which are the same in a reachable
draft.
-/

namespace GraphQLCheck

/-! ### Spots -/

/-- A place among the types of a schema where something can be wrong. -/
inductive Spot where
  /-- The type of a field of `owner`. -/
  | field (owner : NamedType) (field : Field)
  /-- The type of a parameter of a field. -/
  | parameter (parameter : Parameter)
  /-- An interface that `owner` declares to implement. -/
  | interface (owner : NamedType) (ref : TypeRef)
  /-- A field of the given name that the interface `demander` demands of `owner`. -/
  | demandedField (owner : NamedType) (demander name : String)
  /-- A parameter of the given name that the interface `demander` demands of the field `own`, which
  is the one of `owner` with the name `fieldName`. -/
  | demandedParameter (owner : NamedType) (demander fieldName : String) (own : Field)
    (name : String) (demanded : Parameter)
  /-- A member of the union `owner`. -/
  | member (owner : NamedType) (ref : TypeRef)

/-- The fields that the interface of a name demands, each with its name. -/
def demandedFields (types : Dict NamedType) (interface : String) : List (String × Field) :=
  match (types.get? interface).map NamedType.shape with
  | some (.interface fields _) => fields.entries
  | _ => []

/-- A demanded field, and then its parameters if `owner` has the field. -/
def NamedType.demandSpots (owner : NamedType) (demander : String) (demanded : String × Field) :
    List Spot :=
  .demandedField owner demander demanded.1 ::
    match owner.field? demanded.1 with
    | none => []
    | some own => demanded.2.parameters.entries.map fun e ↦
      .demandedParameter owner demander demanded.1 own e.1 e.2

/-- A declared interface, and then the fields that it demands. -/
def NamedType.interfaceSpots (types : Dict NamedType) (owner : NamedType) (ref : TypeRef) :
    List Spot :=
  .interface owner ref :: (demandedFields types ref.name).flatMap (owner.demandSpots ref.name)

/-- The type of a field, and then those of its parameters. -/
def NamedType.fieldSpots (owner : NamedType) (f : Field) : List Spot :=
  .field owner f :: f.parameters.values.map .parameter

/-- The spots of a type. -/
def NamedType.spots (types : Dict NamedType) (t : NamedType) : List Spot :=
  match t.shape with
  | .interface fields interfaces | .object fields interfaces =>
    fields.values.flatMap t.fieldSpots ++ interfaces.flatMap (t.interfaceSpots types)
  | .union members => members.values.map (.member t)
  | .enum _ | .input _ | .scalar => []

/-- All spots, type by type. -/
def spots (types : Dict NamedType) : List Spot := types.values.flatMap (NamedType.spots types)

/-! ### Broken spots -/

/-- No type has the name, or the type that has it is unfit. -/
def Amiss (types : Dict NamedType) (name : String) (unfit : NamedType → Prop) : Prop :=
  types.get? name = none ∨ ∃ t ∈ types.get? name, unfit t

instance Amiss.decidable (types : Dict NamedType) (name : String) (unfit : NamedType → Prop)
    [DecidablePred unfit] : Decidable (Amiss types name unfit) :=
  inferInstanceAs (Decidable (_ ∨ ∃ t ∈ types.get? name, unfit t))

theorem amiss_none {types : Dict NamedType} {name : String} {unfit : NamedType → Prop}
    (h : types.get? name = none) : Amiss types name unfit := Or.inl h

/-- With the name of a type something is amiss if the type does not fit. -/
theorem amiss_some_iff {types : Dict NamedType} {name : String} {unfit : NamedType → Prop}
    {t : NamedType} (h : types.get? name = some t) : Amiss types name unfit ↔ unfit t := by
  simp [Amiss, h]

/-- Nothing is amiss with a name exactly when a type has it and is fit. -/
theorem not_amiss_iff {types : Dict NamedType} {name : String} {unfit : NamedType → Prop} :
    ¬ Amiss types name unfit ↔ ∃ t, types.get? name = some t ∧ ¬ unfit t := by
  rcases h : types.get? name with - | t
  · exact ⟨fun hfit ↦ absurd (amiss_none h) hfit, fun ⟨_, ht, _⟩ ↦ (nomatch ht)⟩
  · rw [amiss_some_iff h]
    exact ⟨fun hfit ↦ ⟨t, rfl, hfit⟩, fun ⟨u, hu, hfit⟩ ↦ Option.some.inj hu ▸ hfit⟩

/-- The types that can stand for what a parameter takes. -/
def inputKinds : List Kind := [.enum, .inputObject, .scalar]

/-- The types that can be members of a union. -/
def memberKinds : List Kind := [.object, .interface]

/-- Whether something is wrong at a spot. -/
def Spot.Broken (types : Dict NamedType) : Spot → Prop
  | .field _ f => Amiss types f.annotation.innermost.name fun t ↦ t.kind = .inputObject
  | .parameter p => Amiss types p.annotation.innermost.name fun t ↦ t.kind ∉ inputKinds
  | .interface _ ref => Amiss types ref.name fun t ↦ t.kind ≠ .interface
  | .demandedField owner _ name => owner.field? name = none
  | .demandedParameter _ _ _ own name demanded =>
    own.parameters.get? name = none ∨ ∃ p ∈ own.parameters.get? name,
      p.annotation.equivalent demanded.annotation = false
  | .member _ ref => Amiss types ref.name fun t ↦ t.kind ∉ memberKinds

instance Spot.decidableBroken (types : Dict NamedType) : DecidablePred (Spot.Broken types)
  | .field _ _ => Amiss.decidable types _ fun t ↦ t.kind = .inputObject
  | .parameter _ => Amiss.decidable types _ fun t ↦ t.kind ∉ inputKinds
  | .interface _ _ => Amiss.decidable types _ fun t ↦ t.kind ≠ .interface
  | .demandedField owner _ name => inferInstanceAs (Decidable (owner.field? name = none))
  | .demandedParameter _ _ _ own name demanded =>
    inferInstanceAs (Decidable (own.parameters.get? name = none ∨
      ∃ p ∈ own.parameters.get? name, p.annotation.equivalent demanded.annotation = false))
  | .member _ _ => Amiss.decidable types _ fun t ↦ t.kind ∉ memberKinds

/-- The error of a broken spot. -/
def Spot.violation (types : Dict NamedType) : Spot → Violation
  | .field owner f =>
    let name := f.annotation.innermost.name
    if types.contains name then .outputOfInputType f.location f.name name owner.name
    else .undefinedType f.annotation.location name
  | .parameter p =>
    let name := p.annotation.innermost.name
    if types.contains name then .inputOfOutputType p.location p.name name
    else .undefinedType p.annotation.location name
  | .interface owner ref =>
    if types.contains ref.name then .implementsNonInterface owner.name ref.name ref.location
    else .implementsUndefined owner.name ref.name ref.location
  | .demandedField owner demander name => .missingField owner.location name demander owner.name
  | .demandedParameter owner demander fieldName own name demanded =>
    match own.parameters.get? name with
    | none => .missingParameter own.location fieldName demander name owner.name
    | some p => .parameterMismatch p.location demanded.annotation.text fieldName demander
      p.annotation.text name owner.name
  | .member owner ref =>
    match types.get? ref.name with
    | none => .undefinedType ref.location ref.name
    | some t => .memberKind ref.location owner.name ref.name t.kind

/-- The broken spots, in order. -/
def faults (types : Dict NamedType) : List Spot :=
  (spots types).filter fun spot ↦ spot.Broken types

/-- The error of a spot, if it is broken. -/
def Spot.errors (types : Dict NamedType) (spot : Spot) : List Violation :=
  if spot.Broken types then [spot.violation types] else []

/-- The errors of the broken spots are the errors of all spots. -/
theorem map_violation_filter (types : Dict NamedType) (l : List Spot) :
    (l.filter fun spot ↦ spot.Broken types).map (Spot.violation types) =
      l.flatMap (Spot.errors types) := by
  induction l with
  | nil => rfl
  | cons spot l ih =>
    rw [List.flatMap_cons, ← ih, List.filter_cons, Spot.errors]
    by_cases h : spot.Broken types
    · rw [if_pos (decide_eq_true h), if_pos h]
      rfl
    · rw [if_neg (fun hc ↦ h (of_decide_eq_true hc)), if_neg h]
      rfl

/-! ### What is found at each spot -/

section Errors

variable {types : Dict NamedType}

theorem Spot.errors_of_broken {spot : Spot} (h : spot.Broken types) :
    spot.errors types = [spot.violation types] := if_pos h

theorem Spot.errors_of_not_broken {spot : Spot} (h : ¬ spot.Broken types) :
    spot.errors types = [] := if_neg h

/-- Four kinds of spots are broken when something is amiss with a name; these have their error when
the name is looked up in vain, and when it leads to a type that is unfit. -/
theorem Spot.errors_of_amiss {spot : Spot} {name : String} {unfit : NamedType → Prop}
    [DecidablePred unfit] (hspot : spot.Broken types ↔ Amiss types name unfit) :
    spot.errors types = match types.get? name with
      | none => [spot.violation types]
      | some t => if unfit t then [spot.violation types] else [] := by
  rcases h : types.get? name with - | t
  · exact errors_of_broken (hspot.2 (amiss_none h))
  · rw [amiss_some_iff h] at hspot
    show spot.errors types = if unfit t then [spot.violation types] else []
    by_cases hunfit : unfit t
    · rw [if_pos hunfit, errors_of_broken (hspot.2 hunfit)]
    · rw [if_neg hunfit, errors_of_not_broken (mt hspot.1 hunfit)]

/-- At the type of a field the error is the one that the check finds. -/
theorem errors_field (owner : NamedType) (f : Field) :
    (Spot.field owner f).errors types = f.outputViolations types owner.name := by
  have hbroken : (Spot.field owner f).Broken types ↔
      Amiss types f.annotation.innermost.name fun t ↦ t.kind = .inputObject := Iff.rfl
  rw [Spot.errors_of_amiss hbroken]
  simp only [Field.outputViolations, Spot.violation]
  rcases h : types.get? f.annotation.innermost.name with - | t
  · simp [Dict.not_contains_of_get? h]
  · by_cases hk : t.kind = .inputObject <;> simp [Dict.contains_of_get? h, NamedType.isOutput, hk]

/-- Whether a type can be that of a parameter is a matter of its kind. -/
theorem isInput_iff {t : NamedType} : t.isInput = true ↔ t.kind ∈ inputKinds := by
  rw [NamedType.isInput]
  cases t.kind <;> decide

/-- At a parameter the error is the one that the check finds. -/
theorem errors_parameter (p : Parameter) :
    (Spot.parameter p).errors types = p.violations types := by
  have hbroken : (Spot.parameter p).Broken types ↔
      Amiss types p.annotation.innermost.name fun t ↦ t.kind ∉ inputKinds := Iff.rfl
  rw [Spot.errors_of_amiss hbroken]
  simp only [Parameter.violations, Spot.violation]
  rcases h : types.get? p.annotation.innermost.name with - | t
  · simp [Dict.not_contains_of_get? h]
  · by_cases hk : t.kind ∈ inputKinds <;> simp [Dict.contains_of_get? h, isInput_iff, hk]

/-- At a member of a union the error is the one that the check finds. -/
theorem errors_member (hnames : types.ByName NamedType.name) (owner : NamedType) (ref : TypeRef) :
    (Spot.member owner ref).errors types = owner.memberViolations types ref := by
  have hbroken : (Spot.member owner ref).Broken types ↔
      Amiss types ref.name fun t ↦ t.kind ∉ memberKinds := Iff.rfl
  rw [Spot.errors_of_amiss hbroken]
  simp only [NamedType.memberViolations, Spot.violation]
  rcases h : types.get? ref.name with - | t
  · rfl
  · simp only [hnames.name_of_get? h]
    cases hkind : t.kind <;> simp [memberKinds]

/-- A parameter is found under its own name, so it does not matter that the check looks for the name
it carries and the spot speaks of the name it is declared under. -/
theorem errors_demandedParameter (owner : NamedType) (demander : String) {fieldName : String}
    {own : Field} (hown : own.name = fieldName) {name : String} {demanded : Parameter}
    (hdemanded : demanded.name = name) :
    (Spot.demandedParameter owner demander fieldName own name demanded).errors types =
      own.parameterViolations owner.name demander demanded := by
  subst hown hdemanded
  rw [Field.parameterViolations]
  rcases h : own.parameters.get? demanded.name with - | p
  · have hbroken : (Spot.demandedParameter owner demander own.name own demanded.name
      demanded).Broken types := Or.inl h
    rw [Spot.errors_of_broken hbroken]
    simp [Spot.violation, h]
  · have hbroken : (Spot.demandedParameter owner demander own.name own demanded.name
        demanded).Broken types ↔ p.annotation.equivalent demanded.annotation = false := by
      simp [Spot.Broken, h]
    cases he : p.annotation.equivalent demanded.annotation with
    | false =>
      rw [Spot.errors_of_broken (hbroken.2 he)]
      simp [Spot.violation, h, he]
    | true =>
      rw [Spot.errors_of_not_broken (by simp [hbroken, he])]
      simp [he]

/-- A demanded field that is there breaks nothing itself, and one that is not there has no
parameters to look at. -/
theorem errors_demandSpots {t : NamedType} {fields : Dict Field} (hfields : t.fields? = some fields)
    (hown : fields.ByName Field.name) (demander : String) {demanded : String × Field}
    (hname : demanded.2.name = demanded.1)
    (hparameters : demanded.2.parameters.ByName Parameter.name) :
    (t.demandSpots demander demanded).flatMap (Spot.errors types) =
      t.demandViolations fields demander demanded.2 := by
  obtain ⟨name, f⟩ := demanded
  have hfield : t.field? name = fields.get? name := by
    rw [NamedType.field?, hfields]
    rfl
  simp only at hname hparameters
  simp only [NamedType.demandSpots, NamedType.demandViolations, List.flatMap_cons, hfield, hname]
  rcases h : fields.get? name with - | own
  · have hbroken : (Spot.demandedField t demander name).Broken types := hfield.trans h
    rw [Spot.errors_of_broken hbroken]
    rfl
  · have hsound : ¬ (Spot.demandedField t demander name).Broken types := by
      rw [Spot.Broken, hfield, h]
      exact Option.some_ne_none own
    simp only [Spot.errors_of_not_broken hsound, List.nil_append, List.flatMap_map, Dict.values]
    exact List.flatMap_congr fun e he ↦
      errors_demandedParameter t demander (hown.name_of_get? h) (hparameters e he)

/-- At the spots of an interface that is implemented the errors are those of the check. -/
theorem errors_interfaceSpots (htypes : TypesByName types) {t : NamedType}
    {fields : Dict Field} (hfields : t.fields? = some fields) (hown : fields.ByName Field.name)
    (ref : TypeRef) :
    (t.interfaceSpots types ref).flatMap (Spot.errors types) =
      t.interfaceViolations types fields ref := by
  simp only [NamedType.interfaceSpots, NamedType.interfaceViolations, demandedFields,
    List.flatMap_cons]
  have hbroken : (Spot.interface t ref).Broken types ↔
      Amiss types ref.name fun i ↦ i.kind ≠ .interface := Iff.rfl
  rw [Spot.errors_of_amiss hbroken]
  rcases h : types.get? ref.name with - | i
  · simp [Spot.violation, Dict.not_contains_of_get? h]
  · rcases hshape : i.shape with _ | _ | ⟨demanded, _⟩ | _ | _ | _
    case interface =>
      -- nothing is wrong with the reference itself, so what is left is what the interface demands
      have hdemanded : i.fields? = some demanded := by rw [NamedType.fields?, hshape]
      obtain ⟨hnames, hparameters⟩ :=
        (htypes.shapes i (Dict.mem_values_of_get? h)).fields hdemanded
      simp only [NamedType.kind, hshape, ne_eq, not_true_eq_false, if_false, List.nil_append,
        Option.map_some, List.flatMap_assoc, Dict.values, List.flatMap_map]
      exact List.flatMap_congr fun e he ↦ errors_demandSpots hfields hown ref.name (hnames e he)
        (hparameters e.2 (List.mem_map_of_mem he))
    -- a type of another kind demands nothing, and the reference to it is the one broken spot
    all_goals simp [Spot.violation, Dict.contains_of_get? h, NamedType.kind, hshape]

/-- The spots of an object or an interface cover its fields and then its interfaces. -/
theorem errors_fieldsSpots (htypes : TypesByName types) {t : NamedType} (ht : t ∈ types.values)
    {fields : Dict Field} (hfields : t.fields? = some fields) (interfaces : List TypeRef) :
    (fields.values.flatMap t.fieldSpots ++ interfaces.flatMap (t.interfaceSpots types)).flatMap
      (Spot.errors types) = t.fieldsViolations types fields interfaces := by
  obtain ⟨hown, -⟩ := (htypes.shapes t ht).fields hfields
  rw [List.flatMap_append, List.flatMap_assoc, List.flatMap_assoc, NamedType.fieldsViolations]
  congr 1
  · refine List.flatMap_congr fun f _ ↦ ?_
    simp only [NamedType.fieldSpots, Field.violations, List.flatMap_cons, List.flatMap_map,
      errors_field, errors_parameter]
  · exact List.flatMap_congr fun ref _ ↦ errors_interfaceSpots htypes hfields hown ref

/-- At the spots of a type the errors are those of its check. -/
theorem errors_spots (htypes : TypesByName types) {t : NamedType} (ht : t ∈ types.values) :
    (t.spots types).flatMap (Spot.errors types) = t.violations types := by
  rw [NamedType.spots, NamedType.violations]
  rcases hshape : t.shape with _ | _ | ⟨fields, interfaces⟩ | ⟨fields, interfaces⟩ | _ | members
  case interface | object =>
    exact errors_fieldsSpots htypes ht (by rw [NamedType.fields?, hshape]) interfaces
  case union =>
    simp only [List.flatMap_map, errors_member htypes.names]
  all_goals rfl

/-- What is found in the types is one error for each broken spot, in the order of the spots. -/
theorem violations_eq_map_faults (htypes : TypesByName types) :
    violations types = (faults types).map (Spot.violation types) := by
  rw [faults, map_violation_filter, spots, List.flatMap_assoc, violations]
  exact List.flatMap_congr fun t ht ↦ (errors_spots htypes ht).symm

/-- The checks find nothing exactly when no spot is broken. -/
theorem violations_eq_nil_iff (htypes : TypesByName types) :
    violations types = [] ↔ ∀ spot ∈ spots types, ¬ spot.Broken types := by
  rw [violations_eq_map_faults htypes, List.map_eq_nil_iff, faults, List.filter_eq_nil_iff]
  simp only [decide_eq_true_eq]

end Errors

/-! ### Root types -/

namespace Draft

variable {d : Draft} {operation : OperationKind}

/-- What is wrong with the root type of an operation. One that is named has to be there and to be an
object; where none is named there is always a way out, except for queries, which need the object
with the conventional name. -/
def rootFault? (d : Draft) (operation : OperationKind) : Option BuildError :=
  match d.root? operation with
  | some root =>
    match d.types.get? root.type with
    | none => some (.rootUndefined operation root.location root.type)
    | some t => if t.kind = .object then none else some (.rootNotObject operation root.type t.kind)
  | none =>
    if operation = .query ∧ Amiss d.types operation.conventionalRoot fun t ↦ t.kind ≠ .object
    then some .noQueryRoot else none

/-- The fault of the roots that comes first. -/
def firstRootFault? (d : Draft) : Option BuildError :=
  [.query, .mutation, .subscription].findSome? d.rootFault?

/-- The root type of an operation is at fault exactly when resolving it fails, or gives nothing
though there has to be one. -/
theorem rootFault?_eq (d : Draft) (operation : OperationKind) : d.rootFault? operation =
    match resolveRoot d.types operation (d.root? operation) with
    | .error e => some e
    | .ok (some _) => none
    | .ok none => if operation = .query then some .noQueryRoot else none := by
  rw [rootFault?]
  rcases d.root? operation with - | root
  · rw [resolveRoot]
    rcases ht : d.types.get? operation.conventionalRoot with - | t
    · simp [amiss_none ht]
    · by_cases hkind : t.kind = .object <;> simp [amiss_some_iff ht, hkind]
  · rw [resolveRoot]
    rcases ht : d.types.get? root.type with - | t
    · simp [ht]
    · by_cases hkind : t.kind = .object <;> simp [ht, hkind]

/-- With nothing wrong between the types, building fails with the first fault of the roots. -/
theorem build_eq_error_iff_firstRootFault? (h : violations d.types = []) {e : BuildError} :
    d.build = .error e ↔ d.firstRootFault? = some e := by
  have hquery : d.rootFault? .query = _ := rootFault?_eq d .query
  have hmutation : d.rootFault? .mutation = _ := rootFault?_eq d .mutation
  have hsubscription : d.rootFault? .subscription = _ := rootFault?_eq d .subscription
  simp only [firstRootFault?, List.findSome?_cons, List.findSome?_nil, hquery, hmutation,
    hsubscription, root?, build, h]
  have hfail : ∀ error : BuildError,
      (Except.error error : Except BuildError Schema) = .error e ↔ some error = some e := by
    intro error
    rw [Except.error.injEq, Option.some.injEq]
  -- the roots in turn: the first that fails ends the building
  rcases resolveRoot d.types .query d.query? with error | (- | query)
  · exact hfail error
  · exact hfail .noQueryRoot
  rcases resolveRoot d.types .mutation d.mutation? with error | (- | mutation)
  · exact hfail error
  all_goals
    rcases resolveRoot d.types .subscription d.subscription? with error | (- | subscription)
    · exact hfail error
    all_goals exact ⟨fun h ↦ (nomatch h), fun h ↦ (nomatch h)⟩

/-- A fault of the roots is not one between the types. -/
theorem firstRootFault?_ne (d : Draft) (found : List Violation) :
    d.firstRootFault? ≠ some (.invalidTypes found) := by
  intro h
  obtain ⟨operation, -, hfault⟩ := List.exists_of_findSome?_eq_some h
  rw [rootFault?] at hfault
  split at hfault
  · split at hfault
    · exact nomatch hfault
    · split at hfault <;> exact nomatch hfault
  · split at hfault <;> exact nomatch hfault

/-- If the checks find something, that is why nothing is built. -/
theorem build_of_violations (h : violations d.types ≠ []) :
    d.build = .error (.invalidTypes (violations d.types)) := by
  have hfound : (violations d.types).isEmpty = false := List.isEmpty_eq_false_iff.2 h
  simp only [build, hfound]
  rfl

/-- **The outcome of building.** Building fails because of the types exactly when a spot is broken,
and then with one error for each broken spot, in order. With no broken spot it fails exactly when a
root type is at fault, with the first such fault; and with no fault there either there is a schema.
-/
theorem outcome_of_build (hd : d.Reachable) :
    ((∃ found, d.build = .error (.invalidTypes found)) ↔
      ∃ spot ∈ spots d.types, spot.Broken d.types) ∧
    (∀ found, d.build = .error (.invalidTypes found) →
      found = (faults d.types).map (Spot.violation d.types)) ∧
    ((∀ spot ∈ spots d.types, ¬ spot.Broken d.types) →
      ∀ e, d.build = .error e ↔ d.firstRootFault? = some e) ∧
    ((∃ s, d.build = .ok s) ↔
      (∀ spot ∈ spots d.types, ¬ spot.Broken d.types) ∧ d.firstRootFault? = none) := by
  have hsound := violations_eq_nil_iff hd.byName
  refine ⟨⟨?_, ?_⟩, ?_, ?_, ⟨?_, ?_⟩⟩
  · rintro ⟨found, hfound⟩
    by_contra hnone
    have hnil := hsound.2 fun spot hspot hbroken ↦ hnone ⟨spot, hspot, hbroken⟩
    exact firstRootFault?_ne d found ((build_eq_error_iff_firstRootFault? hnil).1 hfound)
  · rintro ⟨spot, hspot, hbroken⟩
    exact ⟨_, build_of_violations fun hnil ↦ hsound.1 hnil spot hspot hbroken⟩
  · intro found hfound
    by_cases hnil : violations d.types = []
    · exact absurd ((build_eq_error_iff_firstRootFault? hnil).1 hfound) (firstRootFault?_ne d found)
    · rw [build_of_violations hnil] at hfound
      rw [← violations_eq_map_faults hd.byName]
      exact (BuildError.invalidTypes.inj (Except.error.inj hfound)).symm
  · intro hnone e
    exact build_eq_error_iff_firstRootFault? (hsound.2 hnone)
  · rintro ⟨s, hs⟩
    have hnil := (build_eq_ok_iff.1 hs).1
    refine ⟨hsound.1 hnil, Option.eq_none_iff_forall_ne_some.2 fun e he ↦ ?_⟩
    rw [(build_eq_error_iff_firstRootFault? hnil).2 he] at hs
    exact nomatch hs
  · rintro ⟨hnone, hroots⟩
    rcases hbuild : d.build with e | s
    · have he := (build_eq_error_iff_firstRootFault? (hsound.2 hnone)).1 hbuild
      exact nomatch hroots.symm.trans he
    · exact ⟨s, rfl⟩

end Draft

/-- Types with something wrong at every kind of spot: the query type has a field of an input object,
which takes an object, and implements an enum, a missing type and an interface of whose three fields
it has two, one with a parameter of another type and one without the parameter; the interface has a
field of a missing type, and a union has a scalar for a member. -/
def brokenDeclarations : List Declaration :=
  let id : TypeExpr := .named "ID"
  let parameter (type : TypeExpr) : ParameterDecl := ⟨⟨4, 7⟩, none, "key", type, none⟩
  [.type ⟨⟨1, 1⟩, none, "Query", .object ["Unit", "Ghost", "Node"]
      [⟨⟨2, 3⟩, none, "filter", [parameter (.named "Query")], .named "Filter"⟩,
        ⟨⟨3, 3⟩, none, "id", [parameter id], id⟩, ⟨⟨4, 3⟩, none, "other", [], id⟩]⟩,
    .type ⟨⟨6, 1⟩, none, "Node", .interface []
      [⟨⟨7, 3⟩, none, "id", [parameter (.nonNull id)], id⟩, ⟨⟨8, 3⟩, none, "name", [], id⟩,
        ⟨⟨9, 3⟩, none, "other", [parameter id], .named "Nothing"⟩]⟩,
    .type ⟨⟨11, 1⟩, none, "Filter", .input [parameter (.named "Nothing")]⟩,
    .type ⟨⟨13, 1⟩, none, "Unit", .enum [⟨⟨13, 12⟩, none, "ONE"⟩]⟩,
    .type ⟨⟨15, 1⟩, none, "Any", .union ["Query", "ID", "Node"]⟩]

/-- The words for what is wrong with them, in order. -/
def brokenTags : List String :=
  ["InvalidOutputFieldWithInputType", "InvalidParameterWithOutputOnlyType",
    "ImplementsNonInterfaceType", "ImplementsUndefinedInterface",
    "InvalidInterfaceSpecifiedFieldParameterType", "MissingInterfaceSpecifiedField",
    "MissingInterfaceSpecifiedFieldParameter", "UndefinedTypeName", "InvalidUnionMemberTypeKind"]

theorem build_brokenDeclarations : ∃ d : Draft, d.Reachable ∧
    (∃ spot ∈ spots d.types, spot.Broken d.types) ∧
    ∃ found, d.build = .error (.invalidTypes found) ∧
      found = (faults d.types).map (Spot.violation d.types) ∧
      found.map Violation.tag = brokenTags := by
  have h : ∃ d found, Draft.empty.load none brokenDeclarations = .ok d ∧
      d.build = .error (.invalidTypes found) ∧ found.map Violation.tag = brokenTags :=
    ⟨_, _, rfl, rfl, by decide +kernel⟩
  obtain ⟨d, found, hd, hfound, htags⟩ := h
  have hreach : d.Reachable := .load none brokenDeclarations .empty hd
  obtain ⟨hiff, herrors, -⟩ := Draft.outcome_of_build hreach
  exact ⟨d, hreach, hiff.1 ⟨found, hfound⟩, found, hfound, herrors found hfound, htags⟩

end GraphQLCheck
