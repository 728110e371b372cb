import ListQuery.Declaration.Attribute
import Mathlib.Data.List.Basic

/-!
# Laws of field attributes

What the attributes of a field come to, by their items. The first malformed
item of an attribute is its fault, the names in front of it count, and so does
a `skip` with no malformed item in front of it.
-/

namespace ListQuery

-- ---------------------------------------------------------------------------
-- One item
-- ---------------------------------------------------------------------------

namespace AttributeItem

/-- What is wrong with an item. A value behind `skip` is wrong, too. -/
def fault? : AttributeItem → Option AttributeFault
  | ⟨"name", some (.string _)⟩ => none
  | ⟨"name", some _⟩ => some .notString
  | ⟨"name", none⟩ => some .noValue
  | ⟨"skip", none⟩ => none
  | ⟨"skip", some _⟩ => some .trailing
  | _ => some .unknownItem

def name? : AttributeItem → Option String
  | ⟨"name", some (.string name)⟩ => some name
  | _ => none

theorem name?_of_fault {item : AttributeItem} {fault : AttributeFault} (h : item.fault? = some fault) :
    item.name? = none := by
  unfold name?
  split
  · cases h
  · rfl

/-- Whether a `skip` stands among the items with no malformed item in front of
it. It may be malformed itself. -/
def Skips (items : List AttributeItem) : Prop :=
  ∃ before value after, items = before ++ ⟨"skip", value⟩ :: after ∧ ∀ item ∈ before, item.fault? = none

def names (items : List AttributeItem) : List String :=
  (items.takeWhile (·.fault?.isNone)).filterMap name?

theorem not_skips_nil : ¬Skips [] := by
  rintro ⟨before, value, after, h, -⟩
  simp at h

theorem skips_skip_cons (value : Option Literal) (items : List AttributeItem) : Skips (⟨"skip", value⟩ :: items) :=
  ⟨[], value, items, rfl, by simp⟩

theorem skips_cons_iff {item : AttributeItem} (hkey : item.key ≠ "skip") (items : List AttributeItem) :
    Skips (item :: items) ↔ item.fault? = none ∧ Skips items := by
  constructor
  · rintro ⟨before, value, after, h, hbefore⟩
    cases before with
    | nil =>
      obtain ⟨rfl, -⟩ := List.cons.inj h
      exact absurd rfl hkey
    | cons first before =>
      obtain ⟨rfl, rfl⟩ := List.cons.inj h
      exact ⟨hbefore _ List.mem_cons_self, before, value, after, rfl,
        fun other hother => hbefore other (List.mem_cons_of_mem _ hother)⟩
  · rintro ⟨hitem, before, value, after, rfl, hbefore⟩
    refine ⟨item :: before, value, after, rfl, ?_⟩
    intro other hother
    rcases List.mem_cons.mp hother with rfl | hother
    · exact hitem
    · exact hbefore other hother

end AttributeItem

-- ---------------------------------------------------------------------------
-- The items of one attribute
-- ---------------------------------------------------------------------------

namespace FieldSettings

open AttributeItem (Skips fault? name? names)

def take (settings : FieldSettings) (item : AttributeItem) : FieldSettings :=
  { name := (name? item).or settings.name, skip := settings.skip || item.key == "skip" }

theorem readItems_cons (settings : FieldSettings) (item : AttributeItem) (rest : List AttributeItem) :
    settings.readItems (item :: rest) =
      match fault? item with
      | none => (settings.take item).readItems rest
      | some fault => (settings.take item, some fault) := by
  obtain ⟨key, value⟩ := item
  by_cases hname : key = "name"
  · subst hname
    rcases value with _ | (_ | _ | _) <;> simp [readItems, fault?, take, name?]
  by_cases hskip : key = "skip"
  · subst hskip
    cases value <;> simp [readItems, fault?, take, name?]
  · have hkey : (key == "skip") = false := beq_eq_false_iff_ne.mpr hskip
    simp [readItems, fault?, take, name?, hname, hskip, hkey]

theorem fault_readItems (settings : FieldSettings) (items : List AttributeItem) :
    (settings.readItems items).2 = items.findSome? fault? := by
  induction items generalizing settings with
  | nil => rfl
  | cons item rest ih =>
    rw [readItems_cons, List.findSome?_cons]
    cases fault? item with
    | none => exact ih _
    | some fault => rfl

theorem skip_readItems (settings : FieldSettings) (items : List AttributeItem) :
    (settings.readItems items).1.skip = true ↔ settings.skip = true ∨ Skips items := by
  induction items generalizing settings with
  | nil => simp [readItems, AttributeItem.not_skips_nil]
  | cons item rest ih =>
    rw [readItems_cons]
    by_cases hkey : item.key = "skip"
    · obtain ⟨key, value⟩ := item
      obtain rfl : key = "skip" := hkey
      have hskips : Skips (⟨"skip", value⟩ :: rest) := AttributeItem.skips_skip_cons value rest
      cases fault? ⟨"skip", value⟩ <;> simp [ih, take, hskips]
    · rw [AttributeItem.skips_cons_iff hkey]
      cases fault? item <;> simp [ih, take, hkey]

theorem name_readItems (settings : FieldSettings) (items : List AttributeItem) :
    (settings.readItems items).1.name = (names items).getLast?.or settings.name := by
  induction items generalizing settings with
  | nil => rfl
  | cons item rest ih =>
    rw [readItems_cons, names, List.takeWhile_cons]
    cases hfault : fault? item with
    | none =>
      cases hname : name? item with
      | none => simp [ih, take, names, hname]
      | some name => simp [ih, take, names, hname, List.getLast?_cons]
    | some fault => simp [take, AttributeItem.name?_of_fault hfault]

end FieldSettings

-- ---------------------------------------------------------------------------
-- The attributes of a field
-- ---------------------------------------------------------------------------

namespace AttributeForm

def items : AttributeForm → List AttributeItem
  | listed items => items
  | bare | assigned _ => []

def fault? : AttributeForm → Option AttributeFault
  | bare => some .noArguments
  | assigned _ => some .noParentheses
  | listed items => items.findSome? AttributeItem.fault?

end AttributeForm

namespace Attribute

def items (a : Attribute) : List AttributeItem :=
  if a.path = "sieve" then a.form.items else []

def fault? (a : Attribute) : Option AttributeFault :=
  if a.path = "sieve" then a.form.fault? else none

theorem skips_items_iff (a : Attribute) :
    AttributeItem.Skips a.items ↔
      a.path = "sieve" ∧ ∃ items, a.form = .listed items ∧ AttributeItem.Skips items := by
  unfold items
  split_ifs with hpath
  · cases a.form <;> simp [AttributeForm.items, AttributeItem.not_skips_nil, hpath]
  · simp [AttributeItem.not_skips_nil, hpath]

end Attribute

namespace FieldSettings

theorem readForm_eq (settings : FieldSettings) (form : AttributeForm) :
    settings.readForm form = ((settings.readItems form.items).1, form.fault?) := by
  cases form with
  | bare => rfl
  | assigned value => rfl
  | listed items => exact Prod.ext rfl (fault_readItems settings items)

theorem readAttributes_cons (settings : FieldSettings) (first : Attribute) (rest : List Attribute) :
    settings.readAttributes (first :: rest) =
      (((settings.readItems first.items).1.readAttributes rest).1,
        first.fault?.toList ++ ((settings.readItems first.items).1.readAttributes rest).2) := by
  rw [readAttributes, Attribute.items, Attribute.fault?]
  by_cases hpath : first.path = "sieve"
  · simp only [if_pos hpath, readForm_eq]
  · simp only [if_neg hpath]
    rfl

theorem faults_readAttributes (settings : FieldSettings) (attributes : List Attribute) :
    (settings.readAttributes attributes).2 = attributes.filterMap Attribute.fault? := by
  induction attributes generalizing settings with
  | nil => rfl
  | cons first rest ih =>
    rw [readAttributes_cons, ih, List.filterMap_cons]
    cases first.fault? <;> rfl

theorem skip_readAttributes (settings : FieldSettings) (attributes : List Attribute) :
    (settings.readAttributes attributes).1.skip = true ↔
      settings.skip = true ∨ ∃ a ∈ attributes, AttributeItem.Skips a.items := by
  induction attributes generalizing settings with
  | nil => simp [readAttributes]
  | cons first rest ih =>
    rw [readAttributes_cons, ih, skip_readItems, or_assoc]
    simp only [List.mem_cons, exists_eq_or_imp]

theorem name_readAttributes (settings : FieldSettings) (attributes : List Attribute) :
    (settings.readAttributes attributes).1.name =
      (attributes.flatMap fun a => AttributeItem.names a.items).getLast?.or settings.name := by
  induction attributes generalizing settings with
  | nil => rfl
  | cons first rest ih =>
    rw [readAttributes_cons, ih, name_readItems, List.flatMap_cons, List.getLast?_append, Option.or_assoc]

end FieldSettings

namespace DeclaredField

def Skipped (field : DeclaredField) : Prop :=
  ∃ a ∈ field.attributes, AttributeItem.Skips a.items

def givenNames (field : DeclaredField) : List String :=
  field.attributes.flatMap fun a => AttributeItem.names a.items

theorem skip_settings (field : DeclaredField) : field.settings.skip = true ↔ field.Skipped := by
  simp [settings, FieldSettings.skip_readAttributes, Skipped]

theorem name_settings (field : DeclaredField) : field.settings.name = field.givenNames.getLast? := by
  simp [settings, FieldSettings.name_readAttributes, givenNames]

theorem faults_eq (field : DeclaredField) : field.faults = field.attributes.filterMap Attribute.fault? :=
  FieldSettings.faults_readAttributes {} field.attributes

end DeclaredField

end ListQuery
