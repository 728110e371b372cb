import ListQuery.Proofs.Declaration.Derived
import ListQuery.Proofs.Declaration.Expansion
import Mathlib.Data.List.Forall2
import Mathlib.Data.List.TakeWhile

/-!
# Fields and their variants

In an accepted declaration the fields without `skip` and the variants of the
schema stand for each other, in their order: what is looked up by a variant, or
called by an identifier, belongs to the field in the same place.
-/

namespace ListQuery

-- ---------------------------------------------------------------------------
-- Fields without a fault
-- ---------------------------------------------------------------------------

namespace AttributeItem

variable {items : List AttributeItem} (h : items.findSome? fault? = none)
include h

theorem skips_iff_mem : Skips items ↔ ⟨"skip", none⟩ ∈ items := by
  rw [List.findSome?_eq_none_iff] at h
  constructor
  · rintro ⟨before, value, after, rfl, -⟩
    have hfault := h ⟨"skip", value⟩ (by simp)
    cases value with
    | none => simp
    | some value => cases hfault
  · intro hmem
    obtain ⟨before, after, rfl⟩ := List.append_of_mem hmem
    exact ⟨before, none, after, rfl, fun item hitem => h item (List.mem_append_left _ hitem)⟩

theorem names_eq_filterMap : names items = items.filterMap name? := by
  rw [List.findSome?_eq_none_iff] at h
  have hall : items.takeWhile (·.fault?.isNone) = items :=
    List.takeWhile_eq_self_iff.mpr fun item hitem => by rw [h item hitem]; rfl
  rw [names, hall]

end AttributeItem

namespace DeclaredField

def items (field : DeclaredField) : List AttributeItem :=
  field.attributes.flatMap (·.items)

theorem fault_items {a : Attribute} (h : a.fault? = none) : a.items.findSome? AttributeItem.fault? = none := by
  unfold Attribute.fault? at h
  unfold Attribute.items
  split_ifs at h ⊢ with hpath
  · cases hform : a.form with
    | bare => rfl
    | assigned value => rfl
    | listed items => rw [hform] at h; exact h
  · rfl

variable {field : DeclaredField} (h : field.faults = [])
include h

theorem fault_of_mem {a : Attribute} (ha : a ∈ field.attributes) : a.fault? = none := by
  rw [faults_eq, List.filterMap_eq_nil_iff] at h
  exact h a ha

theorem skip_settings_iff_mem : field.settings.skip = true ↔ ⟨"skip", none⟩ ∈ field.items := by
  rw [skip_settings, Skipped, items, List.mem_flatMap]
  refine exists_congr fun a => and_congr_right fun ha => ?_
  exact AttributeItem.skips_iff_mem (fault_items (fault_of_mem h ha))

theorem name_settings_eq : field.settings.name = (field.items.filterMap AttributeItem.name?).getLast? := by
  rw [name_settings, givenNames, items, List.filterMap_flatMap]
  refine congrArg _ (List.flatMap_congr fun a ha => ?_)
  exact AttributeItem.names_eq_filterMap (fault_items (fault_of_mem h ha))

end DeclaredField

-- ---------------------------------------------------------------------------
-- Tables
-- ---------------------------------------------------------------------------

namespace FieldTables

theorem lookup_getD_ofFields (value : DerivedField → String) (fields : List DerivedField) (variant : String) :
    ((fields.map fun f => (f.variant, value f)).lookup variant).getD "" =
      (fields.find? (·.variant == variant)).elim "" value := by
  induction fields with
  | nil => rfl
  | cons f rest ih =>
    rw [List.map_cons, List.lookup_cons, List.find?_cons, BEq.comm]
    cases f.variant == variant with
    | true => rfl
    | false => exact ih

end FieldTables

namespace DerivedSchema

theorem toSchema_expansion (D : DerivedSchema) : D.expansion.toSchema = D.toSchema := by
  have hname : D.expansion.toSchema.name = D.toSchema.name :=
    funext (FieldTables.lookup_getD_ofFields (·.wireName) D.fields)
  have hmember : D.expansion.toSchema.member = D.toSchema.member :=
    funext (FieldTables.lookup_getD_ofFields (·.member) D.fields)
  calc D.expansion.toSchema
      = ⟨D.toSchema.fields, D.expansion.toSchema.name, D.expansion.toSchema.member⟩ := rfl
    _ = D.toSchema := by rw [hname, hmember]

/-- Two constructors of one name refer to one variant, as both have it from that name. -/
theorem construct?_expansion {d : Declaration} {field : DeclaredField} (h : field ∈ d.kept) :
    d.derived.expansion.construct? field.ident = some (String.ofList field.variant) := by
  have hvariant : (d.kept.find? (·.ident == field.ident)).map (fun f => String.ofList f.variant) =
      some (String.ofList field.variant) := by
    have hsome : (d.kept.find? (·.ident == field.ident)).isSome :=
      List.find?_isSome.mpr ⟨field, h, beq_self_eq_true _⟩
    obtain ⟨found, hfound⟩ := Option.isSome_iff_exists.mp hsome
    have hident : found.ident = field.ident := by simpa using List.find?_some hfound
    rw [hfound, Option.map_some, DeclaredField.variant, DeclaredField.plain, hident]
    rfl
  simp only [Expansion.construct?, expansion, FieldTables.ofFields, Declaration.derived, List.map_map, List.find?_map,
    Option.map_map]
  exact hvariant

end DerivedSchema

-- ---------------------------------------------------------------------------
-- Written schemas
-- ---------------------------------------------------------------------------

/-- What a schema answers for a field, asked by its variant and called by its
identifier. -/
structure Expansion.StandsFor (e : Expansion) (field : DeclaredField) (variant : String) : Prop where
  /-- The last name that the attributes give, or else the identifier in camel case. -/
  name : e.toSchema.name variant =
    (field.items.filterMap AttributeItem.name?).getLast?.getD (String.ofList (Text.lowerCamel field.plain))
  member : e.toSchema.member variant = String.ofList field.plain
  construct : e.construct? field.ident = some variant

namespace Declaration

theorem standsFor_of_kept {d : Declaration} (hdistinct : (d.derived.fields.map (·.variant)).Nodup)
    {field : DeclaredField} (hkept : field ∈ d.kept) (hfaults : field.faults = []) :
    d.derived.expansion.StandsFor field (field.derive d.schemaName).variant := by
  have hmem : field.derive d.schemaName ∈ d.derived.fields := List.mem_map_of_mem hkept
  constructor
  · rw [DerivedSchema.toSchema_expansion, DerivedSchema.name_of_mem hdistinct hmem,
      ← DeclaredField.name_settings_eq hfaults]
    rfl
  · rw [DerivedSchema.toSchema_expansion, DerivedSchema.member_of_mem hdistinct hmem]
    rfl
  · exact DerivedSchema.construct?_expansion hkept

theorem faults_eq_nil_of_fieldErrors {d : Declaration} (herrors : d.fieldErrors = []) :
    ∀ field ∈ d.fields, field.faults = [] := by
  have hnone : (d.fields.flatMap (·.faults)).map DeclarationError.badAttribute = [] :=
    (List.append_eq_nil_iff.mp herrors).1
  exact List.flatMap_eq_nil_iff.mp (List.map_eq_nil_iff.mp hnone)

theorem kept_eq_filter {d : Declaration} (hfaults : ∀ field ∈ d.fields, field.faults = []) :
    d.kept = d.fields.filter fun field => ⟨"skip", none⟩ ∉ field.items := by
  refine List.filter_congr fun field hfield => ?_
  rw [Bool.eq_iff_iff, Bool.not_eq_true', decide_eq_true_iff,
    ← DeclaredField.skip_settings_iff_mem (hfaults field hfield), Bool.not_eq_true]

/-- The variants of a schema that is written stand for the fields without
`skip`, in the order of the declaration. -/
theorem written_schema_is_aligned {d : Declaration} {e : Expansion} (hwritten : d.outcome = .written e)
    (hdistinct : e.tables.variants.Nodup) :
    (d.derive = .reservedName ∨ ∃ D, d.derive = .schema D ∧ D.toSchema = e.toSchema) ∧
      List.Forall₂ e.StandsFor (d.fields.filter fun field => ⟨"skip", none⟩ ∉ field.items) e.toSchema.fields := by
  obtain ⟨-, -, -, herrors, rfl⟩ := outcome_eq_written_iff.mp hwritten
  have hfaults := faults_eq_nil_of_fieldErrors herrors
  constructor
  · rw [derive_eq, hwritten]
    cases d.hasReservedName with
    | true => exact .inl rfl
    | false => exact .inr ⟨d.derived, rfl, (DerivedSchema.toSchema_expansion d.derived).symm⟩
  · rw [← kept_eq_filter hfaults]
    have hfields : d.derived.expansion.toSchema.fields =
        d.kept.map fun field => (field.derive d.schemaName).variant := List.map_map
    rw [hfields, List.forall₂_map_right_iff, List.forall₂_same]
    intro field hkept
    exact standsFor_of_kept hdistinct hkept (hfaults field (List.mem_of_mem_filter hkept))

def article : Declaration where
  kind := .namedStruct
  name := "Article"
  visibility := "pub"
  parameters := ""
  fields := [
    ⟨"secret", "String",
      [⟨"sieve", .listed [⟨"name", some (.string "token")⟩]⟩, ⟨"sieve", .listed [⟨"skip", none⟩]⟩]⟩,
    ⟨"r#type", "String",
      [⟨"sieve", .listed [⟨"name", some (.string "sort")⟩]⟩, ⟨"serde", .listed [⟨"skip", none⟩]⟩,
        ⟨"sieve", .listed [⟨"name", some (.string "kind")⟩]⟩]⟩,
    ⟨"created_at", "DateTime<Utc>", []⟩]

theorem written_schema_of_article_is_aligned :
    article.outcome = .written article.derived.expansion ∧
      article.derived.expansion.tables.variants.Nodup ∧
      article.derived.expansion.toSchema.fields = ["Type", "CreatedAt"] ∧
      article.derived.expansion.toSchema.name "Type" = "kind" ∧
      article.derived.expansion.toSchema.member "Type" = "type" ∧
      article.derived.expansion.construct? "r#type" = some "Type" ∧
      article.derived.expansion.toSchema.name "CreatedAt" = "createdAt" := by
  have hwritten : article.outcome = .written article.derived.expansion := by decide +kernel
  have hdistinct : article.derived.expansion.tables.variants.Nodup := by decide +kernel
  have hfields : article.derived.expansion.toSchema.fields = ["Type", "CreatedAt"] := by decide +kernel
  have hunskipped : (article.fields.filter fun field => ⟨"skip", none⟩ ∉ field.items) = article.fields.tail := by
    decide +kernel
  obtain ⟨-, haligned⟩ := written_schema_is_aligned hwritten hdistinct
  rw [hunskipped, hfields] at haligned
  obtain ⟨htype, hrest⟩ := List.forall₂_cons.mp haligned
  obtain ⟨hcreated, -⟩ := List.forall₂_cons.mp hrest
  exact ⟨hwritten, hdistinct, hfields, htype.name.trans (by decide +kernel),
    htype.member.trans (by decide +kernel), htype.construct, hcreated.name.trans (by decide +kernel)⟩

end Declaration

end ListQuery
