import ListQuery.Proofs.Query.RoundTrip
import ListQuery.Proofs.Query.Step

/-!
# Normal form

Every query that is read holds tokens only, however damaged the text that it
is read from, and steps that push plain texts keep it so. Queries of tokens
only are read back from their query strings as themselves.
-/

namespace ListQuery

-- ---------------------------------------------------------------------------
-- What is read
-- ---------------------------------------------------------------------------

def Assignment.texts : Assignment → List String
  | filters tokens | sorts tokens => tokens
  | page _ | pageSize _ => []

theorem Segment.isToken_of_read {segment : List Char} {assignment : Assignment}
    (h : read segment = .ok assignment) : ∀ text ∈ assignment.texts, TokenList.IsToken text := by
  intro text htext
  cases read_eq_ok_iff.mp h with
  | filters | sorts => exact TokenList.isToken_of_mem_split htext
  | page | pageSize => cases htext

namespace Query

theorem normal_withOptions (o : Options) : (withOptions o).Normal := by
  intro text htext
  cases htext

theorem normal_set {q : Query} {assignment : Assignment} (hq : q.Normal)
    (h : ∀ text ∈ assignment.texts, TokenList.IsToken text) : (q.set assignment).Normal := by
  obtain ⟨hfilters, hsorts⟩ := normal_iff.mp hq
  cases assignment with
  | filters tokens => exact normal_iff.mpr ⟨h, hsorts⟩
  | sorts tokens => exact normal_iff.mpr ⟨hfilters, h⟩
  | page n => exact hq
  | pageSize n => exact hq

theorem normal_readSegments {q : Query} (hq : q.Normal) (log : List Event)
    (segments : List (List Char)) : (readSegments (q, log) segments).1.Normal := by
  induction segments generalizing q log with
  | nil => exact hq
  | cons segment segments ih =>
    cases hread : Segment.read segment with
    | ok assignment =>
      rw [readSegments_cons_ok hread]
      exact ih (normal_set hq (Segment.isToken_of_read hread)) log
    | error event =>
      rw [readSegments_cons_error hread]
      exact ih hq (log ++ [event])

theorem normal_parse (raw : String) (o : Options) : (parse raw o).Normal :=
  normal_readSegments (normal_withOptions o) [] _

theorem normal_ofRecord (r : Record) (o : Options) : (ofRecord r o).Normal := by
  have htokens : ∀ (list : Option String), ∀ text ∈ tokensOf list, TokenList.IsToken text := by
    intro list text htext
    cases list with
    | none => cases htext
    | some list => exact TokenList.isToken_of_mem_split htext
  exact normal_iff.mpr ⟨htokens r.filters, htokens r.sorts⟩

end Query

theorem Start.normal_query (start : Start) : start.query.Normal := by
  cases start with
  | fresh options => exact Query.normal_withOptions options
  | queryString raw options => exact Query.normal_parse raw options
  | record r options => exact Query.normal_ofRecord r options

-- ---------------------------------------------------------------------------
-- Runs
-- ---------------------------------------------------------------------------

namespace Query

variable {F : Type}

theorem normal_apply {S : Schema F} {q : Query} {step : Step F} (hq : q.Normal)
    (h : ∀ text ∈ step.pushed S q.options.fieldCase, TokenList.Plain text) :
    (q.apply S step).Normal := by
  intro text htext
  rcases mem_texts_apply htext with hold | ⟨hpushed, hne⟩
  · exact hq text hold
  · exact { toPlain := h text hpushed, nonempty := hne }

theorem normal_run {S : Schema F} {q : Query} {steps : List (Step F)} (hq : q.Normal)
    (h : ∀ step ∈ steps, ∀ text ∈ step.pushed S q.options.fieldCase, TokenList.Plain text) :
    (q.run S steps).1.Normal := by
  refine run_induction hq fun step hstep r hr hnormal => normal_apply hnormal ?_
  rw [hr]
  exact h step hstep

theorem toQueryString_eq_of_same {q r : Query} (h : q.same r = true) :
    q.toQueryString = r.toQueryString := by
  obtain ⟨hfilters, hsorts, hpage, hpageSize⟩ := same_iff.mp h
  simp only [toQueryString, toParameters, filterText, sortText, hfilters, hsorts, hpage, hpageSize]

theorem same_parse_of_normal {q : Query} (hq : q.Normal) (o : Options) :
    (parse q.toQueryString o).same q = true :=
  (same_parse_toQueryString_iff q o).mpr hq

theorem parse_toQueryString_of_normal {q : Query} (hq : q.Normal) : parse q.toQueryString q.options = q := by
  obtain ⟨hfilters, hsorts⟩ := normal_iff.mp hq
  rw [parse_toQueryString, TokenList.flatMap_split_of_isToken hfilters,
    TokenList.flatMap_split_of_isToken hsorts]

/-- A run from any start that pushes plain texts ends in a query that is read
back from its query string, and is written the same again. In particular,
reading and writing any text at all gives a normal form of it. -/
theorem run_reaches_normal_form (S : Schema F) :
    (∀ (start : Start) (steps : List (Step F)) (o : Options),
      (∀ step ∈ steps, ∀ text ∈ step.pushed S start.query.options.fieldCase, TokenList.Plain text) →
      let q := (start.query.run S steps).1
      (parse q.toQueryString o).same q = true ∧
        (parse q.toQueryString o).toQueryString = q.toQueryString) ∧
    ∀ (raw : String) (o : Options),
      let rendered := (parse raw o).toQueryString
      parse rendered o = parse raw o ∧ (parse rendered o).toQueryString = rendered := by
  constructor
  · intro start steps o h q
    have hq : q.Normal := normal_run start.normal_query h
    have hsame := same_parse_of_normal hq o
    exact ⟨hsame, toQueryString_eq_of_same hsame⟩
  · intro raw o rendered
    have hrendered : parse rendered o = parse raw o := by
      have hoptions : (parse raw o).options = o := options_parse raw o
      have hback := parse_toQueryString_of_normal (normal_parse raw o)
      rwa [hoptions] at hback
    exact ⟨hrendered, congrArg toQueryString hrendered⟩

theorem run_from_damaged_text_reaches_normal_form :
    let S := Schema.ofFields [⟨"title", "title"⟩, ⟨"createdAt", "created_at"⟩]
    let start := Start.queryString "  ?junk&FILTERS=%20Title%40%3Dx%20%2C%2C%09Age%3E1&sorts=%2C-&page=x " {}
    let steps : List (Step (Fin 2)) :=
      [.replaceFilter ⟨0, .contains, .text "r&d?=100%"⟩, .filterByName "" "" .null,
        .filter ⟨1, .lessThan, .instant ⟨0, 5000000⟩⟩, .removeFiltersByName "Age", .sortByDescending 1,
        .pageSize 25]
    (∀ step ∈ steps, ∀ text ∈ step.pushed S start.query.options.fieldCase, TokenList.Plain text) ∧
      let q := (start.query.run S steps).1
      q.filters = ["Title@=r&d?=100%", "CreatedAt<1970-01-01T00:00:00.005Z"] ∧
        (parse q.toQueryString {}).same q = true ∧
        (parse q.toQueryString {}).toQueryString = q.toQueryString := by
  intro S start steps
  have hplain : ∀ step ∈ steps, ∀ text ∈ step.pushed S start.query.options.fieldCase, TokenList.Plain text := by
    decide +kernel
  exact ⟨hplain, by decide +kernel, (run_reaches_normal_form S).1 start steps {} hplain⟩

end Query

end ListQuery
