import ListQuery.Proofs.Declaration.Alignment
import ListQuery.Proofs.FieldClause
import ListQuery.Proofs.Query.Basic
import ListQuery.Proofs.Text.Words
import ListQuery.Query.Step

/-!
# Spelling of derived fields

A derived field to which no attribute gives a name has its identifier twice, in
camel case that begins small for a name and in camel case that begins with a
capital for its variant. Where names are spelled with a capital, the two come
to the same, and clauses and sort tokens show the variant.
-/

namespace ListQuery

-- ---------------------------------------------------------------------------
-- Texts of a field
-- ---------------------------------------------------------------------------

namespace Query

variable {F : Type}

/-- In all that is added to the query, taken away from it or asked of it, the
field has that name. -/
structure Spells (S : Schema F) (q : Query) (f : F) (name : String) : Prop where
  filter : ∀ (op : Operator) (v : Value),
    q.apply S (.filter ⟨f, op, v⟩) = { q with filters := q.filters ++ [name ++ op.symbol ++ v.format] }
  replaceFilter : ∀ (op : Operator) (v : Value),
    q.apply S (.replaceFilter ⟨f, op, v⟩) =
      { q with filters := (q.removeByName name).filters ++ [name ++ op.symbol ++ v.format] }
  removeFilters : q.apply S (.removeFilters f) = q.removeByName name
  sortBy : q.apply S (.sortBy f) = { q with sorts := q.sorts ++ [name] }
  sortByDescending : q.apply S (.sortByDescending f) = { q with sorts := q.sorts ++ ["-" ++ name] }
  hasFilterFor : q.hasFilterFor S f = q.hasFilter name
  hasSortFor : q.hasSortFor S f = q.hasSort name

/-- An empty name would make an empty token, which is none. -/
theorem spells_of_wireName {S : Schema F} {q : Query} {f : F} {name : String} (hname : q.wireName S f = name)
    (hne : name ≠ "") : q.Spells S f name := by
  subst hname
  have hminus : "-" ++ q.wireName S f ≠ "" := by
    intro h
    have hchars := congrArg String.toList h
    simp at hchars
  constructor
  case filter =>
    intro op v
    exact pushFilter_of_ne_empty q (FieldClause.text_ne_empty S q.options.fieldCase ⟨f, op, v⟩)
  case replaceFilter =>
    intro op v
    exact pushFilter_of_ne_empty _ (FieldClause.text_ne_empty S q.options.fieldCase ⟨f, op, v⟩)
  case removeFilters => rfl
  case sortBy => exact pushSort_of_ne_empty q hne
  case sortByDescending => exact pushSort_of_ne_empty q hminus
  case hasFilterFor => rfl
  case hasSortFor => rfl

end Query

-- ---------------------------------------------------------------------------
-- Names that are not given
-- ---------------------------------------------------------------------------

namespace FieldCase

theorem pascal_apply_lowerCamel {cs : List Char} (h : Text.Ascii cs) :
    pascal.apply (String.ofList (Text.lowerCamel cs)) = String.ofList (Text.upperCamel cs) := by
  rw [apply, String.toList_ofList, Text.capitalizeFirst_lowerCamel_of_ascii h]

end FieldCase

namespace Declaration

theorem variant_ne_empty {d : Declaration} (hlegal : d.namesLegal = true) {field : DeclaredField}
    (hkept : field ∈ d.kept) : String.ofList field.variant ≠ "" := by
  obtain ⟨hmem, hskip⟩ := List.mem_filter.mp hkept
  have hident : Text.isIdentifier field.variant = true :=
    (namesLegal_iff.mp hlegal).2 field hmem (by simpa using hskip)
  intro hempty
  rw [String.ofList_eq_empty_iff.mp hempty] at hident
  cases hident

/-- The camel case that begins small, spelled with a capital, is the camel case
that begins with one. So a field that no attribute names has the name of its
variant in every query, unless names are spelled as they are declared. -/
theorem unnamed_field_is_spelled_as_its_variant {id : String} (hid : Text.Ascii id.toList) :
    FieldCase.pascal.apply (String.ofList (Text.lowerCamel id.toList)) = String.ofList (Text.upperCamel id.toList) ∧
      ∀ (d : Declaration) (e : Expansion) (field : DeclaredField),
        d.outcome = .written e → e.tables.variants.Nodup →
        field ∈ d.fields → ⟨"skip", none⟩ ∉ field.items → field.items.filterMap AttributeItem.name? = [] →
        field.plain = id.toList →
          let variant := String.ofList (Text.upperCamel id.toList)
          variant ∈ e.toSchema.fields ∧ e.construct? field.ident = some variant ∧
            ∀ q : Query, q.options.fieldCase = .pascal → q.Spells e.toSchema variant variant := by
  have hspelling := FieldCase.pascal_apply_lowerCamel hid
  refine ⟨hspelling, ?_⟩
  intro d e field hwritten hdistinct hmem hunskipped hunnamed hplain variant
  obtain ⟨-, -, hlegal, herrors, rfl⟩ := outcome_eq_written_iff.mp hwritten
  have hfaults := faults_eq_nil_of_fieldErrors herrors
  have hkept : field ∈ d.kept := by
    rw [kept_eq_filter hfaults]
    exact List.mem_filter.mpr ⟨hmem, decide_eq_true hunskipped⟩
  have hvariant : (field.derive d.schemaName).variant = variant :=
    congrArg (String.ofList <| Text.upperCamel ·) hplain
  have hstands := standsFor_of_kept hdistinct hkept (hfaults field hmem)
  rw [hvariant] at hstands
  refine ⟨hvariant ▸ List.mem_map_of_mem (List.mem_map_of_mem hkept), hstands.construct, ?_⟩
  intro q hcase
  have hname : d.derived.expansion.toSchema.name variant = String.ofList (Text.lowerCamel id.toList) := by
    rw [hstands.name, hunnamed, hplain]
    rfl
  have hwire : q.wireName d.derived.expansion.toSchema variant = variant := by
    rw [Query.wireName, Schema.wireName, hcase, hname, hspelling]
  have hne : variant ≠ "" := hvariant ▸ variant_ne_empty hlegal hkept
  exact Query.spells_of_wireName hwire hne

def connection : Declaration where
  kind := .namedStruct
  name := "Connection"
  visibility := "pub"
  parameters := ""
  fields := [
    ⟨"id", "u64", [⟨"sieve", .listed [⟨"name", some (.string "key")⟩]⟩]⟩,
    ⟨"_HTTP2Server__idOf", "String", [⟨"serde", .listed [⟨"name", some (.string "server")⟩]⟩]⟩]

theorem unnamed_field_of_connection_is_spelled_as_its_variant :
    Text.Ascii "_HTTP2Server__idOf".toList ∧
      connection.outcome = .written connection.derived.expansion ∧
      connection.derived.expansion.tables.variants.Nodup ∧
      connection.derived.expansion.toSchema.name "Http2ServerIdOf" = "http2ServerIdOf" ∧
      connection.derived.expansion.construct? "_HTTP2Server__idOf" = some "Http2ServerIdOf" ∧
      (Query.withOptions {}).Spells connection.derived.expansion.toSchema "Http2ServerIdOf" "Http2ServerIdOf" := by
  have hid : Text.Ascii "_HTTP2Server__idOf".toList :=
    (Text.compact_of_isAsciiIdentifier (by decide)).ascii
  have hwritten : connection.outcome = .written connection.derived.expansion := by decide +kernel
  have hdistinct : connection.derived.expansion.tables.variants.Nodup := by decide +kernel
  have hvariant : String.ofList (Text.upperCamel "_HTTP2Server__idOf".toList) = "Http2ServerIdOf" := by decide +kernel
  obtain ⟨-, hspelled⟩ := unnamed_field_is_spelled_as_its_variant hid
  obtain ⟨-, hconstruct, hspells⟩ := hspelled connection _ connection.fields[1] hwritten hdistinct
    (by decide +kernel) (by decide +kernel) (by decide +kernel) (by decide +kernel)
  rw [hvariant] at hconstruct hspells
  exact ⟨hid, hwritten, hdistinct, by decide +kernel, hconstruct, hspells (Query.withOptions {}) rfl⟩

end Declaration

end ListQuery
