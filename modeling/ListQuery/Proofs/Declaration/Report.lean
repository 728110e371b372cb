import ListQuery.Proofs.Declaration.Expansion

/-!
# Reports

What is reported of a declaration, said of its fields and their attributes
alone. All faults are reported, and a schema is written only where there are
none.
-/

namespace ListQuery

instance (field : DeclaredField) : Decidable field.Skipped :=
  decidable_of_iff _ field.skip_settings

namespace Declaration

/-- Whether a name that the expansion makes up is no identifier. A field that is
left out needs no variant. -/
def HasIllegalName (d : Declaration) : Prop :=
  (∃ name ∈ [d.enumName, d.schemaName, d.moduleName], Text.isIdentifier name.toList = false) ∨
    ∃ field ∈ d.fields, ¬field.Skipped ∧ Text.isIdentifier field.variant = false

/-- The malformed attributes in the order of the declaration, those of fields
left out too, and then the want of fields. -/
def report (d : Declaration) : List DeclarationError :=
  ((d.fields.flatMap (·.attributes)).filterMap Attribute.fault?).map .badAttribute ++
    if ∀ field ∈ d.fields, field.Skipped then [.noFields] else []

/-- What is to come of a declaration. The first rule whose condition holds
counts, and each says so. -/
inductive Reports (d : Declaration) : Outcome → Prop where
  | generic : d.isGeneric = true → Reports d (.errors [.generic])
  | notStruct : d.isGeneric = false → d.kind = .enumeration ∨ d.kind = .union → Reports d (.errors [.notStruct])
  | unnamedFields : d.isGeneric = false → d.kind = .tupleStruct ∨ d.kind = .unitStruct →
      Reports d (.errors [.unnamedFields])
  | illegalName : d.isGeneric = false → d.kind = .namedStruct → d.HasIllegalName → Reports d .illegalName
  | errors : d.isGeneric = false → d.kind = .namedStruct → ¬d.HasIllegalName → d.report ≠ [] →
      Reports d (.errors d.report)
  | written : d.isGeneric = false → d.kind = .namedStruct → ¬d.HasIllegalName → d.report = [] →
      Reports d (.written d.derived.expansion)

-- ---------------------------------------------------------------------------
-- The same by the settings of the fields
-- ---------------------------------------------------------------------------

theorem hasIllegalName_iff {d : Declaration} : d.HasIllegalName ↔ d.namesLegal = false := by
  rw [← Bool.not_eq_true, namesLegal_iff, HasIllegalName]
  simp only [← DeclaredField.skip_settings]
  grind

theorem report_eq (d : Declaration) : d.report = d.fieldErrors := by
  have hkept : d.kept = [] ↔ ∀ field ∈ d.fields, field.Skipped := by
    simp only [kept, List.filter_eq_nil_iff, Bool.not_eq_true', Bool.not_eq_false, DeclaredField.skip_settings]
  simp only [report, fieldErrors, hkept, List.filterMap_flatMap, ← DeclaredField.faults_eq]

theorem reports_outcome (d : Declaration) : d.Reports d.outcome := by
  rw [outcome_eq]
  cases hgeneric : d.isGeneric with
  | true => exact .generic hgeneric
  | false =>
    rw [if_neg Bool.false_ne_true]
    cases hkind : d.kind with
    | enumeration => exact .notStruct hgeneric (.inl hkind)
    | union => exact .notStruct hgeneric (.inr hkind)
    | tupleStruct => exact .unnamedFields hgeneric (.inl hkind)
    | unitStruct => exact .unnamedFields hgeneric (.inr hkind)
    | namedStruct =>
      dsimp only
      rw [← report_eq]
      split_ifs with hillegal hnone
      · exact .illegalName hgeneric hkind (hasIllegalName_iff.mpr hillegal)
      · exact .written hgeneric hkind (mt hasIllegalName_iff.mp hillegal) hnone
      · exact .errors hgeneric hkind (mt hasIllegalName_iff.mp hillegal) hnone

theorem Reports.unique {d : Declaration} {o o' : Outcome} (h : d.Reports o) (h' : d.Reports o') : o = o' := by
  cases h <;> cases h' <;> grind

-- ---------------------------------------------------------------------------
-- Every declaration
-- ---------------------------------------------------------------------------

theorem messages_report (d : Declaration) :
    d.report.map (·.message) =
      ((d.fields.flatMap (·.attributes)).filterMap Attribute.fault?).map
          ("Failed to parse #[sieve] attribute: " ++ ·.message) ++
        if ∀ field ∈ d.fields, field.Skipped then
          ["SieveSchema needs at least one field that is not skipped"]
        else [] := by
  rw [report, List.map_append, List.map_map]
  split_ifs <;> rfl

/-- What comes of a declaration is what is to come of it. A schema that is
written can be read back unless a name in it is a reserved word. -/
theorem all_faults_are_reported (d : Declaration) :
    (∀ o, d.outcome = o ↔ d.Reports o) ∧
      d.report.map (·.message) =
        ((d.fields.flatMap (·.attributes)).filterMap Attribute.fault?).map
            ("Failed to parse #[sieve] attribute: " ++ ·.message) ++
          (if ∀ field ∈ d.fields, field.Skipped then
            ["SieveSchema needs at least one field that is not skipped"]
          else []) ∧
      (∀ field : DeclaredField, field.settings.skip = true ↔
        ∃ a ∈ field.attributes, a.path = "sieve" ∧ ∃ items, a.form = .listed items ∧
          ∃ before value after, items = before ++ ⟨"skip", value⟩ :: after ∧ ∀ item ∈ before, item.fault? = none) ∧
      d.derive =
        match d.outcome with
        | .written _ => if d.hasReservedName then .reservedName else .schema d.derived
        | .errors errors => .errors errors
        | .illegalName => .illegalName := by
  refine ⟨fun o => ?_, d.messages_report, fun field => ?_, d.derive_eq⟩
  · constructor
    · rintro rfl
      exact d.reports_outcome
    · exact d.reports_outcome.unique
  · exact field.skip_settings.trans (exists_congr fun a => and_congr_right fun _ => a.skips_items_iff)

def draft : Declaration where
  kind := .namedStruct
  name := "Draft"
  visibility := "pub"
  parameters := ""
  fields := [⟨"title", "String", [⟨"sieve", .listed [⟨"skip", some (.bool true)⟩]⟩]⟩]

theorem field_of_draft_is_left_out_by_malformed_item :
    draft.isGeneric = false ∧ draft.kind = .namedStruct ∧ ¬draft.HasIllegalName ∧
      (∀ field ∈ draft.fields, ∀ a ∈ field.attributes,
        ∀ item ∈ a.items.takeWhile (·.fault?.isNone), item.key ≠ "skip") ∧
      draft.outcome = .errors [.badAttribute .trailing, .noFields] := by
  have hlegal : ¬draft.HasIllegalName := fun h => absurd (hasIllegalName_iff.mp h) (by decide +kernel)
  exact ⟨by decide +kernel, rfl, hlegal, by decide +kernel, by decide +kernel⟩

end Declaration

end ListQuery
