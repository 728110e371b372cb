import ListQuery.Proofs.TokenList
import ListQuery.Query.Basic

/-!
# Laws of queries

What pushing and removing change of a query, and the texts that it holds
afterwards. An empty text is never pushed.
-/

namespace ListQuery.Query

theorem same_iff {q r : Query} :
    q.same r = true ↔
      q.filters = r.filters ∧ q.sorts = r.sorts ∧ q.page = r.page ∧ q.pageSize = r.pageSize := by
  simp [same, and_assoc]

-- ---------------------------------------------------------------------------
-- Pushing and removing
-- ---------------------------------------------------------------------------

theorem pushFilter_of_ne_empty (q : Query) {clause : String} (h : clause ≠ "") :
    q.pushFilter clause = { q with filters := q.filters ++ [clause] } :=
  if_neg h

theorem pushSort_of_ne_empty (q : Query) {token : String} (h : token ≠ "") :
    q.pushSort token = { q with sorts := q.sorts ++ [token] } :=
  if_neg h

theorem filters_pushFilter (q : Query) (clause : String) :
    (q.pushFilter clause).filters = q.filters ++ if clause = "" then [] else [clause] := by
  unfold pushFilter
  split <;> simp

@[simp] theorem sorts_pushFilter (q : Query) (clause : String) :
    (q.pushFilter clause).sorts = q.sorts := by
  unfold pushFilter
  split <;> rfl

@[simp] theorem options_pushFilter (q : Query) (clause : String) :
    (q.pushFilter clause).options = q.options := by
  unfold pushFilter
  split <;> rfl

theorem sorts_pushSort (q : Query) (token : String) :
    (q.pushSort token).sorts = q.sorts ++ if token = "" then [] else [token] := by
  unfold pushSort
  split <;> simp

@[simp] theorem filters_pushSort (q : Query) (token : String) :
    (q.pushSort token).filters = q.filters := by
  unfold pushSort
  split <;> rfl

@[simp] theorem options_pushSort (q : Query) (token : String) :
    (q.pushSort token).options = q.options := by
  unfold pushSort
  split <;> rfl

theorem filters_removeByName (q : Query) (name : String) :
    (q.removeByName name).filters = q.filters.filter fun clause => Clause.fieldOf clause != name := rfl

@[simp] theorem sorts_removeByName (q : Query) (name : String) :
    (q.removeByName name).sorts = q.sorts := rfl

theorem options_removeByName (q : Query) (name : String) :
    (q.removeByName name).options = q.options := rfl

def clausesOn (q : Query) (name : String) : List String :=
  q.filters.filter fun clause => Clause.fieldOf clause == name

theorem length_removeByName (q : Query) (name : String) :
    (q.removeByName name).filters.length + (q.clausesOn name).length = q.filters.length := by
  rw [filters_removeByName, clausesOn, Nat.add_comm]
  exact (List.length_eq_length_filter_add fun clause => Clause.fieldOf clause == name).symm

theorem removalEvents_eq (q : Query) (name : String) :
    q.removalEvents name = if q.clausesOn name = [] then [] else [.removed name (q.clausesOn name).length] := by
  have hlength := length_removeByName q name
  have hremoved : q.filters.length - (q.removeByName name).filters.length = (q.clausesOn name).length := by
    omega
  simp only [removalEvents, hremoved, List.length_pos_iff, ne_eq, ite_not]

theorem removalEvents_congr {q r : Query} (h : q.filters = r.filters) (name : String) :
    q.removalEvents name = r.removalEvents name := by
  rw [removalEvents_eq, removalEvents_eq, clausesOn, clausesOn, h]

-- ---------------------------------------------------------------------------
-- Texts
-- ---------------------------------------------------------------------------

def texts (q : Query) : List String :=
  q.filters ++ q.sorts

theorem mem_texts {q : Query} {text : String} :
    text ∈ q.texts ↔ text ∈ q.filters ∨ text ∈ q.sorts :=
  List.mem_append

theorem mem_texts_pushFilter {q : Query} {clause text : String}
    (h : text ∈ (q.pushFilter clause).texts) : text ∈ q.texts ∨ (clause = text ∧ text ≠ "") := by
  rw [mem_texts, filters_pushFilter, sorts_pushFilter, List.mem_append] at h
  rcases h with (h | h) | h
  · exact .inl (mem_texts.mpr (.inl h))
  · split at h
    · cases h
    · next hne =>
      obtain rfl := List.mem_singleton.mp h
      exact .inr ⟨rfl, hne⟩
  · exact .inl (mem_texts.mpr (.inr h))

theorem mem_texts_pushSort {q : Query} {token text : String}
    (h : text ∈ (q.pushSort token).texts) : text ∈ q.texts ∨ (token = text ∧ text ≠ "") := by
  rw [mem_texts, filters_pushSort, sorts_pushSort, List.mem_append] at h
  rcases h with h | h | h
  · exact .inl (mem_texts.mpr (.inl h))
  · exact .inl (mem_texts.mpr (.inr h))
  · split at h
    · cases h
    · next hne =>
      obtain rfl := List.mem_singleton.mp h
      exact .inr ⟨rfl, hne⟩

theorem mem_texts_removeByName {q : Query} {name text : String}
    (h : text ∈ (q.removeByName name).texts) : text ∈ q.texts := by
  rw [mem_texts, filters_removeByName, sorts_removeByName] at h
  exact mem_texts.mpr (h.imp_left fun hf => (List.mem_filter.mp hf).1)

def Filled (q : Query) : Prop :=
  ∀ text ∈ q.texts, text ≠ ""

theorem filled_iff {q : Query} :
    q.Filled ↔ (∀ text ∈ q.filters, text ≠ "") ∧ ∀ text ∈ q.sorts, text ≠ "" := by
  simp only [Filled, mem_texts, or_imp, forall_and]

/-- Every stored text is a token of its own. -/
def Normal (q : Query) : Prop :=
  ∀ text ∈ q.texts, TokenList.IsToken text

theorem normal_iff {q : Query} :
    q.Normal ↔ (∀ text ∈ q.filters, TokenList.IsToken text) ∧
      ∀ text ∈ q.sorts, TokenList.IsToken text := by
  simp only [Normal, mem_texts, or_imp, forall_and]

theorem Normal.filled {q : Query} (h : q.Normal) : q.Filled :=
  fun text htext => (h text htext).nonempty

end ListQuery.Query
