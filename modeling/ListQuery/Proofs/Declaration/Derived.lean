import ListQuery.Declaration.Derived
import Mathlib.Data.List.Find

/-!
# Laws of derived schemas

What a declaration must be like for a schema to come of it, and how the fields
of the schema are found: by their variants, which are then distinct.
-/

namespace ListQuery

-- ---------------------------------------------------------------------------
-- Declarations
-- ---------------------------------------------------------------------------

namespace Declaration

theorem derive_eq_schema_iff {d : Declaration} {D : DerivedSchema} :
    d.derive = .schema D ↔
      d.isGeneric = false ∧ d.kind = .namedStruct ∧ d.namesLegal = true ∧ d.fieldErrors = [] ∧
        d.hasReservedName = false ∧ D = d.derived := by
  constructor
  · intro h
    cases hgeneric : d.isGeneric with
    | true => simp [derive, hgeneric] at h
    | false =>
      cases hkind : d.kind with
      | namedStruct =>
        simp only [derive, hgeneric, hkind, Bool.false_eq_true, if_false] at h
        split_ifs at h with hlegal herrors hreserved
        obtain rfl := Derivation.schema.inj h
        exact ⟨rfl, rfl, by simpa using hlegal, not_not.mp herrors, by simpa using hreserved, rfl⟩
      | _ => simp [derive, hgeneric, hkind] at h
  · rintro ⟨hgeneric, hkind, hlegal, herrors, hreserved, rfl⟩
    simp [derive, hgeneric, hkind, hlegal, herrors, hreserved]

end Declaration

-- ---------------------------------------------------------------------------
-- Fields of a schema
-- ---------------------------------------------------------------------------

theorem key_ne_of_mem_before {α β : Type} {key : α → β} {before after : List α} {a : α}
    (hdistinct : ((before ++ a :: after).map key).Nodup) {earlier : α} (h : earlier ∈ before) :
    key earlier ≠ key a := by
  rw [List.map_append, List.map_cons, List.nodup_append] at hdistinct
  obtain ⟨-, -, hapart⟩ := hdistinct
  exact hapart _ (List.mem_map_of_mem h) _ List.mem_cons_self

namespace DerivedSchema

variable {D : DerivedSchema} (hdistinct : (D.fields.map (·.variant)).Nodup)
include hdistinct

theorem field?_of_mem {f : DerivedField} (h : f ∈ D.fields) : D.field? f.variant = some f := by
  obtain ⟨before, after, hfields⟩ := List.append_of_mem h
  refine List.find?_eq_some_iff_append.mpr ⟨beq_self_eq_true _, before, after, hfields, ?_⟩
  intro earlier hearlier
  rw [hfields] at hdistinct
  simpa using key_ne_of_mem_before hdistinct hearlier

theorem name_of_mem {f : DerivedField} (h : f ∈ D.fields) : D.toSchema.name f.variant = f.wireName := by
  simp only [toSchema, field?_of_mem hdistinct h, Option.elim_some]

theorem member_of_mem {f : DerivedField} (h : f ∈ D.fields) : D.toSchema.member f.variant = f.member := by
  simp only [toSchema, field?_of_mem hdistinct h, Option.elim_some]

theorem find?_toSchema (p : String → String → Bool) :
    (D.toSchema.fields.find? fun v => p (D.toSchema.name v) (D.toSchema.member v)) =
      (D.fields.find? fun f => p f.wireName f.member).map (·.variant) := by
  have hfields : D.toSchema.fields = D.fields.map (·.variant) := rfl
  rw [hfields, List.find?_map]
  refine congrArg _ (List.find?_congr fun f hf => ?_)
  simp only [Function.comp_apply, name_of_mem hdistinct hf, member_of_mem hdistinct hf]

end DerivedSchema

end ListQuery
