import ListQuery.Proofs.Accessor
import ListQuery.Proofs.Declaration.Derived

/-!
# Members of a declaration

Which field an accessor finds in the schema of a declaration. A field answers
to its member and to its wire name, whatever the case of the letters, and the
first field that answers is the one that is found.
-/

namespace ListQuery

namespace DeclaredField

def answersTo (field : DeclaredField) (name : List Char) : Bool :=
  sameName field.wireName.toList name || sameName field.plain name

theorem answersTo_plain (field : DeclaredField) : field.answersTo field.plain = true := by
  simp only [answersTo, sameName_self, Bool.or_true]

end DeclaredField

namespace Declaration

variable {d : Declaration} {before after : List DeclaredField} {field : DeclaredField}

-- ---------------------------------------------------------------------------
-- The first field that answers
-- ---------------------------------------------------------------------------

theorem find?_answersTo_plain (hkept : d.kept = before ++ field :: after) :
    d.kept.find? (·.answersTo field.plain) = some ((before.find? (·.answersTo field.plain)).getD field) := by
  have hown : (field :: after).find? (·.answersTo field.plain) = some field :=
    List.find?_cons_of_pos field.answersTo_plain
  rw [hkept, List.find?_append, hown]
  cases before.find? (·.answersTo field.plain) <;> rfl

section
variable {D : DerivedSchema} (hderive : d.derive = .schema D)
  (hdistinct : (D.fields.map (·.variant)).Nodup)
include hderive hdistinct

theorem resolve_eq_ok {expression : String} {member : List Char}
    (hread : Accessor.member? expression.toList = some member)
    (hfirst : d.kept.find? (·.answersTo member) = some field) :
    D.toSchema.resolve expression = .ok (String.ofList field.variant) := by
  obtain ⟨-, -, -, -, -, rfl⟩ := derive_eq_schema_iff.mp hderive
  have hanswers : (fun f : DerivedField => sameName f.wireName.toList member || sameName f.member.toList member) ∘
      (DeclaredField.derive · d.schemaName) = (DeclaredField.answersTo · member) := by
    funext field
    simp only [Function.comp_apply, DeclaredField.derive, DeclaredField.answersTo, String.toList_ofList]
  refine Schema.resolve_eq_ok_iff.mpr ⟨member, hread, ?_⟩
  rw [DerivedSchema.find?_toSchema hdistinct fun name ident =>
    sameName name.toList member || sameName ident.toList member]
  rw [derived, List.find?_map, hanswers, hfirst]
  rfl

theorem variant_ne_of_mem_before (hkept : d.kept = before ++ field :: after) {earlier : DeclaredField}
    (h : earlier ∈ before) : earlier.variant ≠ field.variant := by
  obtain ⟨-, -, -, -, -, rfl⟩ := derive_eq_schema_iff.mp hderive
  rw [derived, hkept, List.map_map] at hdistinct
  intro hvariant
  exact key_ne_of_mem_before hdistinct h (congrArg String.ofList hvariant)

end

/-- However a member is spelled, the accessor finds the first field that
answers to it. That is the field of the member unless one before it answers. -/
theorem member_resolves_to_first_field_that_answers {D : DerivedSchema} (hderive : d.derive = .schema D)
    (hdistinct : (D.fields.map (·.variant)).Nodup) (hkept : d.kept = before ++ field :: after)
    (hmember : Text.isAsciiIdentifier field.plain = true)
    {receiver : String} (hreceiver : Text.isAsciiIdentifier receiver.toList = true) :
    ∀ expression ∈ Accessor.spellings receiver (String.ofList field.plain),
      D.toSchema.resolve expression =
          .ok (String.ofList ((before.find? (·.answersTo field.plain)).getD field).variant) ∧
        (D.toSchema.resolve expression = .ok (String.ofList field.variant) ↔
          ∀ earlier ∈ before, earlier.answersTo field.plain = false) := by
  intro expression hspelling
  have hread : Accessor.member? expression.toList = some field.plain := by
    have hname : Text.isAsciiIdentifier (String.ofList field.plain).toList = true := by
      rwa [String.toList_ofList]
    rw [Accessor.member?_of_mem_spellings hreceiver hname hspelling, String.toList_ofList]
  have hresolve : D.toSchema.resolve expression =
      .ok (String.ofList ((before.find? (·.answersTo field.plain)).getD field).variant) :=
    resolve_eq_ok hderive hdistinct hread (find?_answersTo_plain hkept)
  refine ⟨hresolve, ?_⟩
  rw [hresolve]
  cases hfirst : before.find? (·.answersTo field.plain) with
  | none => simpa using hfirst
  | some earlier =>
    have hmem := List.mem_of_find?_eq_some hfirst
    have hanswers := List.find?_some hfirst
    have hne := variant_ne_of_mem_before hderive hdistinct hkept hmem
    constructor
    · intro heq
      exact absurd (String.ofList_injective (Except.ok.inj heq)) hne
    · intro hnone
      rw [hnone earlier hmem] at hanswers
      cases hanswers

-- ---------------------------------------------------------------------------
-- A member behind a wire name
-- ---------------------------------------------------------------------------

def post : Declaration where
  kind := .namedStruct
  name := "Post"
  visibility := "pub"
  parameters := ""
  fields := [⟨"created_at", "String", []⟩, ⟨"r#type", "String", []⟩, ⟨"createdat", "bool", []⟩]

theorem member_resolves_to_own_field_of_post :
    post.derive = .schema post.derived ∧
      (post.derived.fields.map (·.variant)).Nodup ∧
      post.kept = [⟨"created_at", "String", []⟩] ++ ⟨"r#type", "String", []⟩ :: [⟨"createdat", "bool", []⟩] ∧
      Text.isAsciiIdentifier "type".toList = true ∧
      Text.isAsciiIdentifier "p".toList = true ∧
      ∀ expression ∈ ["type", "p.type", "|p| p.type", "p => p.type"],
        post.derived.toSchema.resolve expression = .ok "Type" := by
  have hderive : post.derive = .schema post.derived := by decide +kernel
  have hdistinct : (post.derived.fields.map (·.variant)).Nodup := by decide +kernel
  have hkept : post.kept =
      [⟨"created_at", "String", []⟩] ++ ⟨"r#type", "String", []⟩ :: [⟨"createdat", "bool", []⟩] := by
    decide +kernel
  have hmember : Text.isAsciiIdentifier "type".toList = true := by decide
  have hreceiver : Text.isAsciiIdentifier "p".toList = true := by decide
  refine ⟨hderive, hdistinct, hkept, hmember, hreceiver, fun expression hspelling => ?_⟩
  have hresolve := member_resolves_to_first_field_that_answers hderive hdistinct hkept hmember hreceiver
    expression hspelling
  exact hresolve.2.mpr (by decide +kernel)

theorem member_resolves_to_earlier_field_of_post :
    post.derive = .schema post.derived ∧
      (post.derived.fields.map (·.variant)).Nodup ∧
      (∀ field ∈ post.fields, field.settings.name = none) ∧
      ∃ field ∈ post.kept, field.plain = "createdat".toList ∧
        Text.isAsciiIdentifier field.plain = true ∧
        field.variant = "Createdat".toList ∧
        ∀ expression ∈ Accessor.spellings "p" "createdat",
          post.derived.toSchema.resolve expression = .ok "CreatedAt" := by
  decide +kernel

end Declaration

end ListQuery
