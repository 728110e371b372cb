import ListQuery.Proofs.Parameter
import ListQuery.Query.Reading

/-!
# Laws of segments

A query string is split into its parameters as they were coded, and each of
the four parameters of a query is read as what it sets. What a segment sets, or
what is reported of it, does not depend on what was read before
(`readSegment_eq`).
-/

namespace ListQuery.Segment

open Text.Percent (isUnreservedChar)

-- ---------------------------------------------------------------------------
-- What a segment sets
-- ---------------------------------------------------------------------------

def readNumber (key value : List Char) : Except Event UInt32 :=
  match Unsigned.read (Text.trim value) with
  | .ok n => .ok n
  | .error fault => .error (.badNumber (String.ofList key) (String.ofList value) fault)

def assign (key value : List Char) : Except Event Assignment :=
  let name := String.ofList (Text.lower key)
  if name = "filters" then .ok (.filters (TokenList.split (String.ofList value)))
  else if name = "sorts" then .ok (.sorts (TokenList.split (String.ofList value)))
  else if name = "page" then (readNumber key value).map .page
  else if name = "pagesize" then (readNumber key value).map .pageSize
  else .error (.unknownKey name)

/-- What a segment sets, or why it is ignored. -/
def read (segment : List Char) : Except Event Assignment :=
  match Text.cut '=' segment with
  | none => .error (.valueless (String.ofList segment))
  | some (key, coded) =>
    match Text.Percent.decode coded with
    | .error fault => .error (.undecodable (String.ofList segment) fault)
    | .ok value => assign key value

theorem loggedNumber_eq (key value : List Char) (log : List Event) :
    loggedNumber key value log =
      match readNumber key value with
      | .ok n => (some n, log)
      | .error event => (none, log ++ [event]) := by
  unfold loggedNumber readNumber
  cases Unsigned.read (Text.trim value) <;> rfl

theorem readSegment_eq (q : Query) (log : List Event) (segment : List Char) :
    Query.readSegment (q, log) segment =
      match read segment with
      | .ok assignment => (q.set assignment, log)
      | .error event => (q, log ++ [event]) := by
  unfold Query.readSegment read
  cases Text.cut '=' segment with
  | none => rfl
  | some parts =>
    obtain ⟨key, coded⟩ := parts
    dsimp only
    cases Text.Percent.decode coded with
    | error fault => rfl
    | ok value =>
      simp only [assign, loggedNumber_eq]
      split_ifs
      · rfl
      · rfl
      · cases readNumber key value <;> rfl
      · cases readNumber key value <;> rfl
      · rfl

-- ---------------------------------------------------------------------------
-- Which segment sets what
-- ---------------------------------------------------------------------------

/-- The segment is a key, a `=` and the coded text of the value. -/
def Pair (segment key value : List Char) : Prop :=
  ∃ coded, segment = key ++ '=' :: coded ∧ '=' ∉ key ∧ Text.Percent.decode coded = .ok value

/-- What the segment sets, with one rule for each part. -/
inductive Sets (segment : List Char) : Assignment → Prop
  | filters {key value : List Char} (hpair : Pair segment key value)
    (hkey : String.ofList (Text.lower key) = "filters") :
    Sets segment (.filters (TokenList.split (String.ofList value)))
  | sorts {key value : List Char} (hpair : Pair segment key value)
    (hkey : String.ofList (Text.lower key) = "sorts") :
    Sets segment (.sorts (TokenList.split (String.ofList value)))
  | page {key value : List Char} {n : UInt32} (hpair : Pair segment key value)
    (hkey : String.ofList (Text.lower key) = "page") (hnumber : Unsigned.read (Text.trim value) = .ok n) :
    Sets segment (.page n)
  | pageSize {key value : List Char} {n : UInt32} (hpair : Pair segment key value)
    (hkey : String.ofList (Text.lower key) = "pagesize") (hnumber : Unsigned.read (Text.trim value) = .ok n) :
    Sets segment (.pageSize n)

/-- Why the segment is ignored, with one rule for each reason. -/
inductive Reports (segment : List Char) : Event → Prop
  | valueless (hfree : '=' ∉ segment) : Reports segment (.valueless (String.ofList segment))
  | undecodable {key coded : List Char} {fault : Text.Utf8.Fault} (hsegment : segment = key ++ '=' :: coded)
    (hfree : '=' ∉ key) (hfault : Text.Percent.decode coded = .error fault) :
    Reports segment (.undecodable (String.ofList segment) fault)
  | badNumber {key value : List Char} {fault : Unsigned.Fault} (hpair : Pair segment key value)
    (hkey : String.ofList (Text.lower key) ∈ ["page", "pagesize"])
    (hfault : Unsigned.read (Text.trim value) = .error fault) :
    Reports segment (.badNumber (String.ofList key) (String.ofList value) fault)
  | unknownKey {key value : List Char} (hpair : Pair segment key value)
    (hkey : String.ofList (Text.lower key) ∉ ["filters", "sorts", "page", "pagesize"]) :
    Reports segment (.unknownKey (String.ofList (Text.lower key)))

variable {segment key value : List Char}

theorem Pair.read_eq (h : Pair segment key value) : read segment = assign key value := by
  obtain ⟨coded, rfl, hfree, hvalue⟩ := h
  simp only [read, Text.cut_append hfree, hvalue]

theorem Sets.read_eq {assignment : Assignment} (h : Sets segment assignment) :
    read segment = .ok assignment := by
  cases h with
  | filters hpair hkey => simp [hpair.read_eq, assign, hkey]
  | sorts hpair hkey => simp [hpair.read_eq, assign, hkey]
  | page hpair hkey hnumber => simp [hpair.read_eq, assign, hkey, readNumber, hnumber, Except.map]
  | pageSize hpair hkey hnumber => simp [hpair.read_eq, assign, hkey, readNumber, hnumber, Except.map]

theorem Reports.read_eq {event : Event} (h : Reports segment event) : read segment = .error event := by
  cases h with
  | valueless hfree => simp [read, Text.cut_of_not_mem hfree]
  | undecodable hsegment hfree hfault => simp [read, hsegment, Text.cut_append hfree, hfault]
  | badNumber hpair hkey hfault =>
    rcases List.mem_pair.mp hkey with hkey | hkey <;>
      simp [hpair.read_eq, assign, hkey, readNumber, hfault, Except.map]
  | unknownKey hpair hkey =>
    simp only [List.mem_cons, List.not_mem_nil, or_false, not_or] at hkey
    simp [hpair.read_eq, assign, hkey]

/-- No segment is beyond the rules: each exit of the reader is one of them. -/
theorem sets_or_reports (segment : List Char) :
    (∃ assignment, Sets segment assignment) ∨ ∃ event, Reports segment event := by
  cases hcut : Text.cut '=' segment with
  | none => exact .inr ⟨_, .valueless (Text.cut_eq_none_iff.mp hcut)⟩
  | some parts =>
    obtain ⟨key, coded⟩ := parts
    obtain ⟨rfl, hfree⟩ := Text.cut_eq_some hcut
    cases hvalue : Text.Percent.decode coded with
    | error fault => exact .inr ⟨_, .undecodable rfl hfree hvalue⟩
    | ok value =>
      have hpair : Pair (key ++ '=' :: coded) key value := ⟨coded, rfl, hfree, hvalue⟩
      by_cases hfilters : String.ofList (Text.lower key) = "filters"
      · exact .inl ⟨_, .filters hpair hfilters⟩
      by_cases hsorts : String.ofList (Text.lower key) = "sorts"
      · exact .inl ⟨_, .sorts hpair hsorts⟩
      cases hnumber : Unsigned.read (Text.trim value) with
      | ok n =>
        by_cases hpage : String.ofList (Text.lower key) = "page"
        · exact .inl ⟨_, .page hpair hpage hnumber⟩
        by_cases hpageSize : String.ofList (Text.lower key) = "pagesize"
        · exact .inl ⟨_, .pageSize hpair hpageSize hnumber⟩
        · exact .inr ⟨_, .unknownKey hpair (by simp [hfilters, hsorts, hpage, hpageSize])⟩
      | error fault =>
        by_cases hkey : String.ofList (Text.lower key) ∈ ["page", "pagesize"]
        · exact .inr ⟨_, .badNumber hpair hkey hnumber⟩
        · exact .inr ⟨_, .unknownKey hpair (by simpa [hfilters, hsorts] using hkey)⟩

theorem read_eq_ok_iff {assignment : Assignment} : read segment = .ok assignment ↔ Sets segment assignment := by
  refine ⟨fun h => ?_, Sets.read_eq⟩
  rcases sets_or_reports segment with ⟨found, hsets⟩ | ⟨event, hreports⟩
  · rwa [← Except.ok.inj (hsets.read_eq.symm.trans h)]
  · cases hreports.read_eq.symm.trans h

theorem read_eq_error_iff {event : Event} : read segment = .error event ↔ Reports segment event := by
  refine ⟨fun h => ?_, Reports.read_eq⟩
  rcases sets_or_reports segment with ⟨assignment, hsets⟩ | ⟨found, hreports⟩
  · cases hsets.read_eq.symm.trans h
  · rwa [← Except.error.inj (hreports.read_eq.symm.trans h)]

-- ---------------------------------------------------------------------------
-- The segments of a query string
-- ---------------------------------------------------------------------------

theorem dropMark_eq_self {cs : List Char} (h : cs.head? ≠ some '?') : dropMark cs = cs := by
  unfold dropMark
  split
  · exact absurd rfl h
  · rfl

theorem exists_split_eq_iff {segments : List (List Char)} :
    (∃ raw : String, split raw.toList = segments) ↔ ∀ segment ∈ segments, segment ≠ [] ∧ '&' ∉ segment := by
  constructor
  · rintro ⟨raw, rfl⟩ segment hsegment
    obtain ⟨hpiece, hne⟩ := List.mem_filter.mp hsegment
    exact ⟨of_decide_eq_true hne, Text.not_mem_of_mem_pieces hpiece⟩
  · intro h
    -- Between `?` and `&` the segments stay as they are, whatever blanks they have.
    refine ⟨String.ofList ('?' :: (Text.joinWith '&' segments ++ ['&'])), ?_⟩
    have htrimmed : Text.Trimmed ('?' :: (Text.joinWith '&' segments ++ ['&'])) :=
      Text.trimmed_cons_append (by decide) (by decide) (by decide) _
    have hfilter : segments.filter (· ≠ []) = segments :=
      List.filter_eq_self.mpr fun segment hsegment => decide_eq_true (h segment hsegment).1
    rw [String.toList_ofList, split, Text.trim_eq_self_iff.mpr htrimmed, dropMark, Text.pieces_append,
      List.filter_append]
    by_cases hne : segments = []
    · subst hne
      rfl
    · rw [Text.pieces_joinWith_of_not_mem hne fun segment hsegment => (h segment hsegment).2, hfilter]
      exact List.append_nil segments

theorem split_queryString {ps : List Parameter}
    (hkeys : ∀ p ∈ ps, ∀ c ∈ p.key.toList, isUnreservedChar c = true) :
    split (Parameter.queryString ps).toList = ps.map Parameter.coded := by
  by_cases hne : ps = []
  · subst hne
    rfl
  have hchars := fun c => Parameter.isCodedChar_of_mem_queryString (c := c) hkeys
  have htrim : Text.Trimmed (Parameter.queryString ps).toList := by
    apply Text.trimmed_of_forall
    intro c hc
    rcases hchars c hc with rfl | rfl | hcoded
    · decide
    · decide
    · exact Text.Percent.isBlank_of_isCodedChar hcoded
  have hmark : (Parameter.queryString ps).toList.head? ≠ some '?' := by
    intro hc
    rcases hchars '?' (List.mem_of_mem_head? hc) with h | h | h <;> exact absurd h (by decide)
  have hkey : ∀ p ∈ ps, '&' ∉ p.key.toList := by
    intro p hp hc
    exact absurd (hkeys p hp '&' hc) (by decide)
  rw [split, Text.trim_eq_self_iff.mpr htrim, dropMark_eq_self hmark,
    Parameter.pieces_queryString hne hkey, List.filter_eq_self]
  intro segment hsegment
  obtain ⟨p, -, rfl⟩ := List.mem_map.mp hsegment
  simpa using p.coded_ne_nil

theorem pair_coded (key : String) (value : ParameterValue) (h : '=' ∉ key.toList) :
    Pair (Parameter.coded ⟨key, value⟩) key.toList value.toText.toList :=
  ⟨value.coded, rfl, h, value.decode_coded⟩

theorem read_repr (n : UInt32) : Unsigned.read (Text.trim n.toNat.repr.toList) = .ok n := by
  have hdigits : n.toNat.repr.toList = natChars n.toNat := Nat.toList_repr
  have htrim : Text.Trimmed (natChars n.toNat) := by
    apply Text.trimmed_of_forall
    intro c hc
    have hu := Text.Percent.isUnreservedChar_of_isDigit (Unsigned.isDigit_of_mem_natChars hc)
    exact Text.Percent.isBlank_of_isCodedChar (Text.Percent.isCodedChar_of_isUnreservedChar hu)
  rw [hdigits, Text.trim_eq_self_iff.mpr htrim, Unsigned.read_natChars]

inductive Gives : Parameter → Assignment → Prop
  | filters (list : String) : Gives ⟨Parameter.filtersKey, .text list⟩ (.filters (TokenList.split list))
  | sorts (list : String) : Gives ⟨Parameter.sortsKey, .text list⟩ (.sorts (TokenList.split list))
  | page (n : UInt32) : Gives ⟨Parameter.pageKey, .number n⟩ (.page n)
  | pageSize (n : UInt32) : Gives ⟨Parameter.pageSizeKey, .number n⟩ (.pageSize n)

theorem Gives.sets {p : Parameter} {assignment : Assignment} (h : Gives p assignment) :
    Sets p.coded assignment := by
  cases h with
  | filters list =>
    have hpair := pair_coded Parameter.filtersKey (.text list) (by decide)
    simpa only [ParameterValue.toText, String.ofList_toList] using Sets.filters hpair (by decide)
  | sorts list =>
    have hpair := pair_coded Parameter.sortsKey (.text list) (by decide)
    simpa only [ParameterValue.toText, String.ofList_toList] using Sets.sorts hpair (by decide)
  | page n => exact .page (pair_coded Parameter.pageKey (.number n) (by decide)) (by decide) (read_repr n)
  | pageSize n =>
    exact .pageSize (pair_coded Parameter.pageSizeKey (.number n) (by decide)) (by decide) (read_repr n)

end ListQuery.Segment
