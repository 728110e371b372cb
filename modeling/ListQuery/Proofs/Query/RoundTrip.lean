import ListQuery.Proofs.Query.Basic
import ListQuery.Proofs.Query.Reading
import ListQuery.Query.Wire

/-!
# Query strings that are read back

Whatever texts a query holds, its query string is read as the tokens of these
texts and as its page and page size. The query itself comes back just if each
text is a token.
-/

namespace ListQuery.Query

def shownParts (q : Query) : Record :=
  { filters := presentText q.filterText
    sorts := presentText q.sortText
    page := q.page
    pageSize := q.pageSize }

theorem ofText_eq_present (key text : String) :
    Parameter.ofText key text = Parameter.present key .text (presentText text) := by
  unfold Parameter.ofText presentText
  split <;> rfl

theorem toParameters_eq (q : Query) : q.toParameters = q.shownParts.parameters := by
  simp only [toParameters, Record.parameters, shownParts, ofText_eq_present,
    Parameter.ofNumber_eq_present]

theorem tokensOf_presentText_join (texts : List String) :
    tokensOf (presentText (TokenList.join texts)) = texts.flatMap TokenList.split := by
  rw [← TokenList.split_join]
  unfold presentText
  split
  · next h => rw [h]; rfl
  · rfl

theorem parse_toQueryString (q : Query) (o : Options) :
    parse q.toQueryString o =
      { filters := q.filters.flatMap TokenList.split
        sorts := q.sorts.flatMap TokenList.split
        page := q.page
        pageSize := q.pageSize
        options := o } := by
  rw [toQueryString, toParameters_eq, parse_parameters]
  simp only [ofRecord, shownParts, filterText, sortText, tokensOf_presentText_join]

theorem same_parse_toQueryString_iff (q : Query) (o : Options) :
    (parse q.toQueryString o).same q = true ↔ q.Normal := by
  rw [parse_toQueryString, same_iff, normal_iff]
  simp only [TokenList.flatMap_split_eq_self_iff, and_true]

/-- The round trip of any query through its query string, whatever options it
is read with. -/
theorem wire_round_trip (q : Query) (o : Options) :
    parse q.toQueryString o =
        { filters := q.filters.flatMap TokenList.split
          sorts := q.sorts.flatMap TokenList.split
          page := q.page
          pageSize := q.pageSize
          options := o } ∧
      ((parse q.toQueryString o).same q = true ↔
        ∀ text ∈ q.filters ++ q.sorts, TokenList.IsToken text) :=
  ⟨parse_toQueryString q o, same_parse_toQueryString_iff q o⟩

end ListQuery.Query
