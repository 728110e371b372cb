import ListQuery.Declaration.Expansion
import ListQuery.Proofs.Declaration.Attribute

/-!
# Laws of expansions

What the walk over a declaration comes to: the tables hold the fields that are
kept, and the faults of all fields are reported. So the walk ends as the
declaration taken as a whole tells (`outcome_eq`).
-/

namespace ListQuery

-- ---------------------------------------------------------------------------
-- Steps
-- ---------------------------------------------------------------------------

namespace Expanding

variable {α β : Type}

theorem result_pure (a : α) (reported : List DeclarationError) :
    result (pure a) reported = (.ok a, reported) := rfl

theorem result_report (error : DeclarationError) (reported : List DeclarationError) :
    result (report error) reported = (.ok (), reported ++ [error]) := rfl

theorem result_bind (x : Expanding α) (f : α → Expanding β) (reported : List DeclarationError) :
    result (x >>= f) reported =
      match result x reported with
      | (.ok a, later) => result (f a) later
      | (.error halt, later) => (.error halt, later) := by
  simp only [result, ExceptT.run_bind, StateT.run_bind]
  cases h : (ExceptT.run x).run reported with
  | mk outcome later => cases outcome <;> rfl

theorem result_bind_ok {x : Expanding α} {a : α} {reported later : List DeclarationError}
    (h : result x reported = (.ok a, later)) (f : α → Expanding β) :
    result (x >>= f) reported = result (f a) later := by
  rw [result_bind, h]

theorem result_bind_error {x : Expanding α} {halt : Halt} {reported later : List DeclarationError}
    (h : result x reported = (.error halt, later)) (f : α → Expanding β) :
    result (x >>= f) reported = (.error halt, later) := by
  rw [result_bind, h]

theorem result_identifier_of_legal {name : List Char} (h : Text.isIdentifier name = true)
    (reported : List DeclarationError) :
    result (identifier name) reported = (.ok (String.ofList name), reported) := by
  rw [identifier, if_pos h]
  rfl

theorem result_identifier_of_illegal {name : List Char} (h : Text.isIdentifier name = false)
    (reported : List DeclarationError) :
    result (identifier name) reported = (.error .illegalName, reported) := by
  rw [identifier, if_neg (by simp [h])]
  rfl

theorem result_readAttributes (settings : FieldSettings) (attributes : List Attribute)
    (reported : List DeclarationError) :
    result (readAttributes settings attributes) reported =
      (.ok (settings.readAttributes attributes).1,
        reported ++ (settings.readAttributes attributes).2.map .badAttribute) := by
  induction attributes generalizing settings reported with
  | nil => simp [readAttributes, FieldSettings.readAttributes, result_pure]
  | cons first rest ih =>
    rw [readAttributes, FieldSettings.readAttributes]
    by_cases hpath : first.path = "sieve"
    · rw [if_pos hpath, if_pos hpath]
      dsimp only
      cases (settings.readForm first.form).2 with
      | none =>
        dsimp only
        rw [ih]
        rfl
      | some fault =>
        rw [result_bind_ok (result_report (.badAttribute fault) reported), ih]
        simp
    · rw [if_neg hpath, if_neg hpath]
      exact ih settings reported

end Expanding

-- ---------------------------------------------------------------------------
-- Tables
-- ---------------------------------------------------------------------------

namespace FieldTables

def ofFields (fields : List DerivedField) : FieldTables where
  variants := fields.map (·.variant)
  names := fields.map fun f => (f.variant, f.wireName)
  members := fields.map fun f => (f.variant, f.member)
  constructors := fields.map fun f => ⟨f.constructor, f.type, f.variant⟩

theorem ofFields_concat (fields : List DerivedField) (f : DerivedField) :
    ofFields (fields ++ [f]) =
      { variants := (ofFields fields).variants ++ [f.variant]
        names := (ofFields fields).names ++ [(f.variant, f.wireName)]
        members := (ofFields fields).members ++ [(f.variant, f.member)]
        constructors := (ofFields fields).constructors ++ [⟨f.constructor, f.type, f.variant⟩] } := by
  simp only [ofFields, List.map_append, List.map_cons, List.map_nil]

end FieldTables

namespace Expanding

variable (schemaName : String) (before : List DerivedField) (reported : List DeclarationError)

theorem result_addField (field : DeclaredField) :
    result (addField schemaName (.ofFields before) field) reported =
      (if field.settings.skip then .ok (.ofFields before)
        else if Text.isIdentifier field.variant then .ok (.ofFields (before ++ [field.derive schemaName]))
        else .error .illegalName,
        reported ++ field.faults.map .badAttribute) := by
  rw [addField, result_bind_ok (result_readAttributes {} field.attributes reported)]
  change result (if field.settings.skip = true then _ else _) _ = _
  by_cases hskip : field.settings.skip = true
  · rw [if_pos hskip, if_pos hskip]
    rfl
  rw [if_neg hskip, if_neg hskip]
  dsimp only
  by_cases hlegal : Text.isIdentifier field.variant = true
  · rw [result_bind_ok (result_identifier_of_legal hlegal _), if_pos hlegal, FieldTables.ofFields_concat]
    rfl
  · rw [result_bind_error (result_identifier_of_illegal (Bool.eq_false_iff.mpr hlegal) _), if_neg hlegal]
    rfl

-- ---------------------------------------------------------------------------
-- The walk over the fields
-- ---------------------------------------------------------------------------

variable (fields : List DeclaredField)

/-- The tables hold the fields that are kept, in their order; all faults are
reported, in the order of the fields. -/
theorem result_walk_of_legal
    (hlegal : ∀ field ∈ fields, field.settings.skip = false → Text.isIdentifier field.variant = true) :
    result (fields.foldlM (addField schemaName) (.ofFields before)) reported =
      (.ok (.ofFields (before ++ (fields.filter (!·.settings.skip)).map (·.derive schemaName))),
        reported ++ (fields.flatMap (·.faults)).map .badAttribute) := by
  induction fields generalizing before reported with
  | nil => simp [result_pure]
  | cons field rest ih =>
    have hrest : ∀ field ∈ rest, field.settings.skip = false → Text.isIdentifier field.variant = true :=
      fun other hother => hlegal other (List.mem_cons_of_mem _ hother)
    have hfield := result_addField schemaName before reported field
    rw [List.foldlM_cons]
    cases hskip : field.settings.skip with
    | true =>
      rw [hskip, if_pos rfl] at hfield
      rw [result_bind_ok hfield, ih _ _ hrest]
      simp [hskip]
    | false =>
      rw [hskip, if_neg Bool.false_ne_true, if_pos (hlegal field List.mem_cons_self hskip)] at hfield
      rw [result_bind_ok hfield, ih _ _ hrest]
      simp [hskip]

theorem result_walk_of_illegal
    (hillegal : ∃ field ∈ fields, field.settings.skip = false ∧ Text.isIdentifier field.variant = false) :
    ∃ later, result (fields.foldlM (addField schemaName) (.ofFields before)) reported =
      (.error .illegalName, later) := by
  induction fields generalizing before reported with
  | nil => simp at hillegal
  | cons field rest ih =>
    have hfield := result_addField schemaName before reported field
    rw [List.foldlM_cons]
    cases hskip : field.settings.skip with
    | true =>
      rw [hskip, if_pos rfl] at hfield
      rw [result_bind_ok hfield]
      exact ih _ _ (by simpa [hskip] using hillegal)
    | false =>
      rw [hskip, if_neg Bool.false_ne_true] at hfield
      cases hlegal : Text.isIdentifier field.variant with
      | true =>
        rw [hlegal, if_pos rfl] at hfield
        rw [result_bind_ok hfield]
        exact ih _ _ (by simpa [hskip, hlegal] using hillegal)
      | false =>
        rw [hlegal, if_neg Bool.false_ne_true] at hfield
        exact ⟨_, result_bind_error hfield _⟩

end Expanding

-- ---------------------------------------------------------------------------
-- Declarations
-- ---------------------------------------------------------------------------

def DerivedSchema.expansion (D : DerivedSchema) : Expansion where
  visibility := D.visibility
  enumName := D.enumName
  schemaName := D.schemaName
  moduleName := D.moduleName
  tables := .ofFields D.fields

namespace Declaration

open Expanding (result result_bind_ok result_bind_error result_identifier_of_legal result_identifier_of_illegal
  result_walk_of_legal result_walk_of_illegal)

theorem namesLegal_iff {d : Declaration} :
    d.namesLegal = true ↔
      (Text.isIdentifier d.enumName.toList = true ∧ Text.isIdentifier d.schemaName.toList = true ∧
        Text.isIdentifier d.moduleName.toList = true) ∧
      ∀ field ∈ d.fields, field.settings.skip = false → Text.isIdentifier field.variant = true := by
  simp only [namesLegal, kept, Bool.and_eq_true, List.all_cons, List.all_nil, Bool.and_true,
    List.all_eq_true, List.mem_filter, Bool.not_eq_true', and_imp]

theorem result_expandFields_of_illegal {d : Declaration} (h : d.namesLegal = false) :
    ∃ later, result d.expandFields [] = (.error .illegalName, later) := by
  unfold expandFields
  cases henum : Text.isIdentifier d.enumName.toList with
  | false => exact ⟨_, result_bind_error (result_identifier_of_illegal henum []) _⟩
  | true =>
  rw [result_bind_ok (result_identifier_of_legal henum []), String.ofList_toList]
  cases hschema : Text.isIdentifier d.schemaName.toList with
  | false => exact ⟨_, result_bind_error (result_identifier_of_illegal hschema []) _⟩
  | true =>
  rw [result_bind_ok (result_identifier_of_legal hschema []), String.ofList_toList]
  cases hmodule : Text.isIdentifier d.moduleName.toList with
  | false => exact ⟨_, result_bind_error (result_identifier_of_illegal hmodule []) _⟩
  | true =>
  rw [result_bind_ok (result_identifier_of_legal hmodule [])]
  have hfield : ∃ field ∈ d.fields, field.settings.skip = false ∧ Text.isIdentifier field.variant = false := by
    by_contra hnone
    refine absurd (namesLegal_iff.mpr ⟨⟨henum, hschema, hmodule⟩, fun field hmem hskip => ?_⟩)
      (Bool.eq_false_iff.mp h)
    exact Bool.not_eq_false _ ▸ fun hvariant => hnone ⟨field, hmem, hskip, hvariant⟩
  obtain ⟨later, hwalk⟩ := result_walk_of_illegal d.schemaName [] [] d.fields hfield
  exact ⟨later, result_bind_error hwalk _⟩

theorem result_expandFields_of_legal {d : Declaration} (h : d.namesLegal = true) :
    result d.expandFields [] =
      (if d.kept = [] then .error (.refused .noFields) else .ok d.derived.expansion,
        (d.fields.flatMap (·.faults)).map .badAttribute) := by
  obtain ⟨⟨henum, hschema, hmodule⟩, hfields⟩ := namesLegal_iff.mp h
  have hwalk : result (d.fields.foldlM (Expanding.addField d.schemaName) {}) [] =
      (.ok (.ofFields d.derived.fields), (d.fields.flatMap (·.faults)).map .badAttribute) :=
    result_walk_of_legal d.schemaName [] [] d.fields hfields
  unfold expandFields
  rw [result_bind_ok (result_identifier_of_legal henum []), result_bind_ok (result_identifier_of_legal hschema []),
    result_bind_ok (result_identifier_of_legal hmodule [])]
  simp only [String.ofList_toList]
  rw [result_bind_ok hwalk]
  have hvariants : (FieldTables.ofFields d.derived.fields).variants = [] ↔ d.kept = [] := by
    simp [FieldTables.ofFields, derived]
  simp only [hvariants]
  split_ifs <;> rfl

/-- The walk over a declaration ends as the declaration as a whole tells. -/
theorem outcome_eq (d : Declaration) :
    d.outcome =
      if d.isGeneric then .errors [.generic]
      else
        match d.kind with
        | .enumeration | .union => .errors [.notStruct]
        | .tupleStruct | .unitStruct => .errors [.unnamedFields]
        | .namedStruct =>
          if d.namesLegal = false then .illegalName
          else if d.fieldErrors = [] then .written d.derived.expansion
          else .errors d.fieldErrors := by
  unfold outcome expand
  by_cases hgeneric : d.isGeneric = true
  · rw [if_pos hgeneric, if_pos hgeneric]
    rfl
  rw [if_neg hgeneric, if_neg hgeneric]
  cases d.kind with
  | enumeration => rfl
  | union => rfl
  | tupleStruct => rfl
  | unitStruct => rfl
  | namedStruct =>
    dsimp only
    cases hlegal : d.namesLegal with
    | false =>
      obtain ⟨later, hresult⟩ := result_expandFields_of_illegal hlegal
      rw [hresult, if_pos rfl]
    | true =>
      rw [result_expandFields_of_legal hlegal]
      simp only [Bool.true_eq_false, if_false, fieldErrors]
      by_cases hkept : d.kept = []
      · simp only [if_pos hkept, List.append_ne_nil_of_right_ne_nil _ (List.cons_ne_nil _ _), if_false]
      · simp only [if_neg hkept, List.append_nil]
        cases d.fields.flatMap (·.faults) <;> rfl

theorem outcome_eq_written_iff {d : Declaration} {e : Expansion} :
    d.outcome = .written e ↔
      d.isGeneric = false ∧ d.kind = .namedStruct ∧ d.namesLegal = true ∧ d.fieldErrors = [] ∧
        e = d.derived.expansion := by
  rw [outcome_eq]
  constructor
  · intro h
    cases hgeneric : d.isGeneric with
    | true => simp [hgeneric] at h
    | false =>
      cases hkind : d.kind with
      | namedStruct =>
        simp only [hgeneric, hkind, Bool.false_eq_true, if_false] at h
        split_ifs at h with hlegal herrors
        exact ⟨rfl, rfl, Bool.not_eq_false _ ▸ hlegal, herrors, (Outcome.written.inj h).symm⟩
      | _ => simp [hgeneric, hkind] at h
  · rintro ⟨hgeneric, hkind, hlegal, herrors, rfl⟩
    simp [hgeneric, hkind, hlegal, herrors]

/-- A schema that is written is the one that is derived, unless a name in it is
a reserved word. -/
theorem derive_eq (d : Declaration) :
    d.derive =
      match d.outcome with
      | .written _ => if d.hasReservedName then .reservedName else .schema d.derived
      | .errors errors => .errors errors
      | .illegalName => .illegalName := by
  rw [outcome_eq, derive]
  by_cases hgeneric : d.isGeneric = true
  · rw [if_pos hgeneric, if_pos hgeneric]
  rw [if_neg hgeneric, if_neg hgeneric]
  cases d.kind with
  | enumeration => rfl
  | union => rfl
  | tupleStruct => rfl
  | unitStruct => rfl
  | namedStruct =>
    dsimp only
    cases d.namesLegal with
    | false => rfl
    | true =>
      by_cases herrors : d.fieldErrors = [] <;> simp [herrors]

end Declaration

end ListQuery
