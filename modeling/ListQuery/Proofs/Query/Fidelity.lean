import ListQuery.Proofs.Decomposition
import ListQuery.Proofs.FieldClause
import ListQuery.Proofs.Query.Basic
import ListQuery.Proofs.Query.RoundTrip
import ListQuery.Proofs.Value
import ListQuery.Query.Step

/-!
# Clauses that survive the query string

A clause on a declared field that is added to a query arrives with its query
string in name, operator and value. Of the values all kinds but texts do, and
a text does unless a comma cuts it, a blank is trimmed off its end, or the
operator takes in its first character. Sort tokens always arrive.
-/

namespace ListQuery

open Text (Compact compact_of_isAsciiIdentifier isAsciiIdentifier isBlank)

-- ---------------------------------------------------------------------------
-- Values behind an operator
-- ---------------------------------------------------------------------------

/-- Whether a value comes through a list of clauses behind the operator. -/
def Value.Survives (op : Operator) : Value → Prop
  | .text s =>
    ',' ∉ s.toList ∧ (∀ c ∈ s.toList.getLast?, isBlank c = false) ∧
      ((op = .greaterThan ∨ op = .lessThan) → s.toList.head? ≠ some '=')
  | _ => True

theorem Value.survives_iff {op : Operator} {v : Value} :
    v.Survives op ↔
      (',' ∉ v.chars ∧ ∀ c ∈ v.chars.getLast?, isBlank c = false) ∧ ¬ op.TakesIn v.chars := by
  by_cases htext : ∃ s, v = .text s
  · obtain ⟨s, rfl⟩ := htext
    simp only [Survives, Operator.TakesIn, chars, not_and, and_assoc]
  · have hcompact := v.compact_chars fun s hs => htext ⟨s, hs⟩
    have hsurvives : v.Survives op := by
      cases v with
      | text s => exact absurd ⟨s, rfl⟩ htext
      | _ => trivial
    have hvalue : ¬ op.TakesIn v.chars := fun htaken => hcompact.head?_ne_equals htaken.2
    exact iff_of_true hsurvives ⟨⟨hcompact.comma_not_mem, hcompact.trimmed.last⟩, hvalue⟩

instance (op : Operator) (v : Value) : Decidable (v.Survives op) :=
  -- There is at most one character to look at; all characters are never tried.
  have : Decidable (∀ c ∈ v.chars.getLast?, isBlank c = false) := Option.decidableForallMem _
  decidable_of_iff _ Value.survives_iff.symm

-- ---------------------------------------------------------------------------
-- Tokens made of names
-- ---------------------------------------------------------------------------

section
variable {name : String} (hname : isAsciiIdentifier name.toList = true)
include hname

theorem isBlank_head_of_isAsciiIdentifier (more : List Char) :
    ∀ c ∈ (name.toList ++ more).head?, isBlank c = false := by
  obtain ⟨c, rest, hchars, -⟩ := Text.isAsciiIdentifier_eq_true_iff.mp hname
  have htrimmed := (compact_of_isAsciiIdentifier hname).trimmed
  rw [hchars] at htrimmed ⊢
  exact htrimmed.head

theorem Clause.isToken_compose_iff (op : Operator) (value : String) :
    TokenList.IsToken (compose name op.symbol value) ↔
      ',' ∉ value.toList ∧ ∀ c ∈ value.toList.getLast?, isBlank c = false := by
  have hchars := toList_compose name op value
  have hop : ',' ∉ op.chars ∧ ∃ mark, op.chars.getLast? = some mark ∧ isBlank mark = false := by
    cases op <;> exact ⟨by decide, _, rfl, by decide⟩
  obtain ⟨hop, mark, hmark, hblank⟩ := hop
  have hlast : (compose name op.symbol value).toList.getLast? = some (value.toList.getLast?.getD mark) := by
    rw [hchars, List.getLast?_append, List.getLast?_append, hmark]
    cases value.toList.getLast? <;> rfl
  constructor
  · intro h
    refine ⟨fun hcomma => h.comma ?_, fun c hc => h.trimmed.last c ?_⟩
    · rw [hchars]
      exact List.mem_append_right _ (List.mem_append_right _ hcomma)
    · rw [hlast, Option.mem_def.mp hc]
      rfl
  · rintro ⟨hcomma, hvalue⟩
    refine { comma := ?_, trimmed := ⟨?_, ?_⟩, nonempty := compose_ne_empty name op value }
    · simp [hchars, (compact_of_isAsciiIdentifier hname).comma_not_mem, hop, hcomma]
    · rw [hchars]
      exact isBlank_head_of_isAsciiIdentifier hname _
    · rw [hlast]
      rintro c ⟨⟩
      cases hend : value.toList.getLast? with
      | none => exact hblank
      | some c => exact hvalue c hend

theorem SortKey.parse_compose (descending : Bool) :
    parse (compose name descending) = ⟨name, descending, compose name descending⟩ := by
  cases descending with
  | true => simp [compose, parse]
  | false =>
    have hhyphen : ∀ field, name.toList ≠ '-' :: field := by
      intro field hfield
      obtain ⟨c, rest, hchars, hc, -⟩ := Text.isAsciiIdentifier_eq_true_iff.mp hname
      obtain ⟨rfl, -⟩ := List.cons.inj (hchars.symm.trans hfield)
      exact absurd hc (by decide)
    simp only [compose, Bool.false_eq_true, if_false]
    unfold parse
    split
    · next field hfield => exact absurd hfield (hhyphen field)
    · rfl

theorem SortKey.isToken_compose (descending : Bool) : TokenList.IsToken (compose name descending) := by
  have hcompact : Compact (compose name descending).toList := by
    have hhyphen : Compact "-".toList := by decide
    unfold compose
    split
    · rw [String.toList_append, Text.compact_append]
      exact ⟨hhyphen, compact_of_isAsciiIdentifier hname⟩
    · exact compact_of_isAsciiIdentifier hname
  refine { comma := hcompact.comma_not_mem, trimmed := hcompact.trimmed, nonempty := fun hempty => ?_ }
  have hparse := parse_compose hname descending
  rw [hempty] at hparse
  obtain rfl : "" = name := congrArg fieldName hparse
  cases hname

end

-- ---------------------------------------------------------------------------
-- The last token of a query
-- ---------------------------------------------------------------------------

namespace Query

theorem getLast?_map_flatMap_split_iff {α : Type} {view : String → α} {text : α → String}
    (hview : ∀ token, text (view token) = token) {tokens : List String} {token : String} {a : α}
    (ha : text a = token) :
    (((tokens ++ [token]).flatMap TokenList.split).map view).getLast? = some a ↔
      TokenList.IsToken token ∧ view token = a := by
  rw [List.getLast?_map, Option.map_eq_some_iff]
  constructor
  · rintro ⟨last, hlast, rfl⟩
    rw [hview] at ha
    subst ha
    exact ⟨TokenList.getLast?_flatMap_split_iff.mp hlast, rfl⟩
  · rintro ⟨htoken, hseen⟩
    exact ⟨token, TokenList.getLast?_flatMap_split_iff.mpr htoken, hseen⟩

theorem getLast?_clauses_parse_iff (q : Query) (o : Options) (clause : Clause) (hne : clause.text ≠ "") :
    (parse (q.pushFilter clause.text).toQueryString o).clauses.getLast? = some clause ↔
      TokenList.IsToken clause.text ∧ Clause.parse clause.text = clause := by
  rw [clauses, parse_toQueryString, filters_pushFilter, if_neg hne]
  exact getLast?_map_flatMap_split_iff Clause.text_parse rfl

theorem getLast?_sortKeys_parse_iff (q : Query) (o : Options) (key : SortKey) (hne : key.text ≠ "") :
    (parse (q.pushSort key.text).toQueryString o).sortKeys.getLast? = some key ↔
      TokenList.IsToken key.text ∧ SortKey.parse key.text = key := by
  rw [sortKeys, parse_toQueryString, sorts_pushSort, if_neg hne]
  exact getLast?_map_flatMap_split_iff SortKey.text_parse rfl

variable {F : Type}

/-- The last clause of a query arrives as its field, its operator and its value
just if the value survives there, and the last sort token as its field and its
direction. -/
theorem filter_and_sort_survive (S : Schema F) (q : Query) (o : Options) {f : F}
    (hname : isAsciiIdentifier (q.wireName S f).toList = true)
    (hlast : (q.wireName S f).toList.getLast? ≠ some '_') :
    (∀ (op : Operator) (v : Value),
      (parse (q.apply S (.filter ⟨f, op, v⟩)).toQueryString o).clauses.getLast? =
          some ⟨q.wireName S f, some op, v.format, Clause.compose (q.wireName S f) op.symbol v.format⟩ ↔
        v.Survives op) ∧
      (parse (q.apply S (.sortBy f)).toQueryString o).sortKeys.getLast? =
        some ⟨q.wireName S f, false, q.wireName S f⟩ ∧
      (parse (q.apply S (.sortByDescending f)).toQueryString o).sortKeys.getLast? =
        some ⟨q.wireName S f, true, "-" ++ q.wireName S f⟩ := by
  have hsort : ∀ descending,
      (parse (q.pushSort (SortKey.compose (q.wireName S f) descending)).toQueryString o).sortKeys.getLast? =
        some ⟨q.wireName S f, descending, SortKey.compose (q.wireName S f) descending⟩ := by
    intro descending
    have htoken := SortKey.isToken_compose hname descending
    have hparse := SortKey.parse_compose hname descending
    exact (getLast?_sortKeys_parse_iff q o ⟨_, descending, _⟩ htoken.nonempty).mpr ⟨htoken, hparse⟩
  refine ⟨fun op v => ?_, hsort false, hsort true⟩
  have hfree : ¬ Clause.RunsInto (q.wireName S f) op := fun hinto => hlast hinto.2.2
  have hne := Clause.compose_ne_empty (q.wireName S f) op v.format
  have hchars : v.format.toList = v.chars := String.toList_ofList
  have hsent := getLast?_clauses_parse_iff q o
    ⟨q.wireName S f, some op, v.format, Clause.compose (q.wireName S f) op.symbol v.format⟩ hne
  refine hsent.trans ?_
  dsimp only
  rw [Clause.parse_compose_iff hname, Clause.isToken_compose_iff hname, Value.survives_iff, hchars]
  simp only [hfree, not_false_eq_true, true_and]

theorem filter_and_sort_survive_behind_damaged_texts :
    let S := Schema.ofFields [⟨"created_at", "created_at"⟩]
    let q : Query := { filters := ["a==1,Created_at>", " %41&", ""], sorts := [",-"] }
    isAsciiIdentifier (q.wireName S 0).toList = true ∧ (q.wireName S 0).toList.getLast? ≠ some '_' ∧
      (parse (q.apply S (.filter ⟨0, .lessThan, .decimal ⟨-12, 30⟩⟩)).toQueryString {}).clauses.getLast? =
        some ⟨"Created_at", some .lessThan, "-1.2E-29", "Created_at<-1.2E-29"⟩ ∧
      (parse (q.apply S (.filter ⟨0, .equals, .text "=&%3D ?_=ß"⟩)).toQueryString {}).clauses.getLast? =
        some ⟨"Created_at", some .equals, "=&%3D ?_=ß", "Created_at===&%3D ?_=ß"⟩ ∧
      (parse (q.apply S (.sortByDescending 0)).toQueryString {}).sortKeys.getLast? =
        some ⟨"Created_at", true, "-Created_at"⟩ := by
  intro S q
  have hname : isAsciiIdentifier (q.wireName S 0).toList = true := by decide +kernel
  have hlast : (q.wireName S 0).toList.getLast? ≠ some '_' := by decide +kernel
  obtain ⟨hfilter, -, hsort⟩ := filter_and_sort_survive S q {} hname hlast
  have hdecimal := (hfilter .lessThan (.decimal ⟨-12, 30⟩)).mpr trivial
  have htext := (hfilter .equals (.text "=&%3D ?_=ß")).mpr (by decide +kernel)
  refine ⟨hname, hlast, hdecimal.trans ?_, htext.trans ?_, hsort.trans ?_⟩ <;> decide +kernel

end Query

end ListQuery
