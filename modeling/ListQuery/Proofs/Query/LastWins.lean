import ListQuery.Proofs.Query.Account
import Mathlib.Data.List.Induction

/-!
# The last segment of a key wins

Each part of a query that is read stands in the last segment that has its key
and can be read; for a number, the last that has one as its value. Segments with
different keys may change places, and segments that set nothing may come and go.
-/

namespace ListQuery

-- ---------------------------------------------------------------------------
-- What a segment says
-- ---------------------------------------------------------------------------

namespace Segment

def key? (segment : List Char) : Option String :=
  (Text.cut '=' segment).map fun (key, _) => String.ofList (Text.lower key)

/-- Key and decoded value of a segment that can be read: one that has a `=` and
behind the first of them is coded as a text. -/
def setting? (segment : List Char) : Option (String × String) :=
  (Text.cut '=' segment).bind fun (key, coded) =>
    (Text.Percent.decode coded).toOption.map fun value =>
      (String.ofList (Text.lower key), String.ofList value)

def valuesOf (key : String) (segments : List (List Char)) : List String :=
  ((segments.filterMap setting?).filter (·.1 = key)).map (·.2)

def number? (value : String) : Option UInt32 :=
  (Unsigned.read (Text.trim value.toList)).toOption

def Apart (a b : List Char) : Prop :=
  ∀ key, key? a = some key → key? b ≠ some key

inductive Idle (segment : List Char) : Prop
  | valueless (h : '=' ∉ segment)
  | undecodable {key coded : List Char} {fault : Text.Utf8.Fault}
    (hcut : Text.cut '=' segment = some (key, coded)) (h : Text.Percent.decode coded = .error fault)
  | unknownKey {key value : String} (hread : setting? segment = some (key, value))
    (h : key ∉ ["filters", "sorts", "page", "pagesize"])
  | badNumber {key value : String} (hread : setting? segment = some (key, value))
    (hkey : key ∈ ["page", "pagesize"]) (h : number? value = none)

section
variable {segment key value : List Char} (h : Pair segment key value)
include h

theorem Pair.key?_eq : key? segment = some (String.ofList (Text.lower key)) := by
  obtain ⟨coded, rfl, hfree, -⟩ := h
  rw [key?, Text.cut_append hfree]
  rfl

theorem Pair.setting?_eq : setting? segment = some (String.ofList (Text.lower key), String.ofList value) := by
  obtain ⟨coded, rfl, hfree, hvalue⟩ := h
  simp [setting?, Text.cut_append hfree, hvalue, Except.toOption]

end

theorem pair_of_setting? {segment : List Char} {name text : String} (h : setting? segment = some (name, text)) :
    ∃ key value, Pair segment key value ∧ String.ofList (Text.lower key) = name ∧ String.ofList value = text := by
  obtain ⟨⟨key, coded⟩, hcut, hmap⟩ := Option.bind_eq_some_iff.mp h
  obtain ⟨hsegment, hfree⟩ := Text.cut_eq_some hcut
  dsimp only at hmap
  cases hvalue : Text.Percent.decode coded with
  | error fault =>
    rw [hvalue] at hmap
    cases hmap
  | ok value =>
    rw [hvalue] at hmap
    obtain ⟨hname, htext⟩ := Prod.mk.inj (Option.some.inj hmap)
    exact ⟨key, value, ⟨coded, hsegment, hfree, hvalue⟩, hname, htext⟩

theorem Reports.idle {segment : List Char} {event : Event} (h : Reports segment event) : Idle segment := by
  cases h with
  | valueless hfree => exact .valueless hfree
  | undecodable hsegment hfree hfault => exact .undecodable (hsegment ▸ Text.cut_append hfree _) hfault
  | badNumber hpair hkey hfault =>
    refine .badNumber hpair.setting?_eq hkey ?_
    rw [number?, String.toList_ofList, hfault]
    rfl
  | unknownKey hpair hkey => exact .unknownKey hpair.setting?_eq hkey

theorem Idle.reported {segment : List Char} (h : Idle segment) : Reported segment := by
  cases h with
  | valueless hfree => exact ⟨_, .valueless hfree⟩
  | undecodable hcut hfault =>
    obtain ⟨hsegment, hfree⟩ := Text.cut_eq_some hcut
    exact ⟨_, .undecodable hsegment hfree hfault⟩
  | unknownKey hread hkey =>
    obtain ⟨key, value, hpair, rfl, rfl⟩ := pair_of_setting? hread
    exact ⟨_, .unknownKey hpair hkey⟩
  | badNumber hread hkey hnumber =>
    obtain ⟨key, value, hpair, rfl, rfl⟩ := pair_of_setting? hread
    rw [number?, String.toList_ofList] at hnumber
    cases hvalue : Unsigned.read (Text.trim value) with
    | ok n => rw [hvalue] at hnumber; cases hnumber
    | error fault => exact ⟨_, .badNumber hpair hkey hvalue⟩

/-- There is no other way for a segment to set nothing. -/
theorem assignment?_eq_none_iff {segment : List Char} : assignment? segment = none ↔ Idle segment := by
  rw [← Option.not_isSome_iff_eq_none, ← not_reported_iff, not_not]
  exact ⟨fun ⟨_, h⟩ => h.idle, Idle.reported⟩

theorem key?_of_assignment? {segment : List Char} {assignment : Assignment}
    (h : assignment? segment = some assignment) : key? segment = some assignment.part.key := by
  cases assignment?_eq_some_iff.mp h with
  | filters hpair hkey | sorts hpair hkey | page hpair hkey | pageSize hpair hkey =>
    rw [hpair.key?_eq, hkey]
    rfl

theorem valuesOf_concat (key : String) (segments : List (List Char)) (segment : List Char) :
    valuesOf key (segments ++ [segment]) = valuesOf key segments ++ valuesOf key [segment] := by
  simp [valuesOf]

theorem valuesOf_singleton_of_none {segment : List Char} (h : setting? segment = none) (key : String) :
    valuesOf key [segment] = [] := by
  simp [valuesOf, h]

theorem valuesOf_singleton {segment : List Char} {name value : String} (h : setting? segment = some (name, value))
    (key : String) : valuesOf key [segment] = if name = key then [value] else [] := by
  by_cases hkey : name = key <;> simp [valuesOf, h, hkey]

end Segment

-- ---------------------------------------------------------------------------
-- The query that the segments make up
-- ---------------------------------------------------------------------------

namespace Query

open Segment (assignment? key? number? setting? valuesOf)

/-- Each part as the last segment of its key has it. A list is what that segment
says even if it is empty; a number is passed over if it cannot be read. -/
def lastOfEach (segments : List (List Char)) (o : Options) : Query where
  filters := tokensOf (valuesOf "filters" segments).getLast?
  sorts := tokensOf (valuesOf "sorts" segments).getLast?
  page := ((valuesOf "page" segments).filterMap number?).getLast?
  pageSize := ((valuesOf "pagesize" segments).filterMap number?).getLast?
  options := o

theorem lastOfEach_concat (segments : List (List Char)) (segment : List Char) (o : Options) :
    lastOfEach (segments ++ [segment]) o =
      (assignment? segment).elim (lastOfEach segments o) (lastOfEach segments o).set := by
  rcases Segment.sets_or_reports segment with ⟨assignment, h⟩ | ⟨event, h⟩
  · rw [Segment.assignment?_eq_some_iff.mpr h]
    cases h with
    | filters hpair hkey | sorts hpair hkey =>
      simp [lastOfEach, Segment.valuesOf_concat, Segment.valuesOf_singleton hpair.setting?_eq, hkey, set, tokensOf]
    | page hpair hkey hnumber | pageSize hpair hkey hnumber =>
      simp [lastOfEach, Segment.valuesOf_concat, Segment.valuesOf_singleton hpair.setting?_eq, hkey, set, number?,
        hnumber, Except.toOption]
  · rw [h.assignment?_eq_none]
    cases h with
    | valueless hfree =>
      have hread : setting? segment = none := by simp [setting?, Text.cut_of_not_mem hfree]
      simp [lastOfEach, Segment.valuesOf_concat, Segment.valuesOf_singleton_of_none hread]
    | undecodable hsegment hfree hfault =>
      have hread : setting? segment = none := by
        simp [setting?, hsegment, Text.cut_append hfree, hfault, Except.toOption]
      simp [lastOfEach, Segment.valuesOf_concat, Segment.valuesOf_singleton_of_none hread]
    | badNumber hpair hkey hfault =>
      rcases List.mem_pair.mp hkey with hkey | hkey <;>
        simp [lastOfEach, Segment.valuesOf_concat, Segment.valuesOf_singleton hpair.setting?_eq, hkey, number?,
          hfault, Except.toOption]
    | unknownKey hpair hkey =>
      simp only [List.mem_cons, List.not_mem_nil, or_false, not_or] at hkey
      simp [lastOfEach, Segment.valuesOf_concat, Segment.valuesOf_singleton hpair.setting?_eq, hkey]

theorem foldl_set_eq_lastOfEach (segments : List (List Char)) (o : Options) :
    (segments.filterMap assignment?).foldl set (withOptions o) = lastOfEach segments o := by
  induction segments using List.reverseRecOn with
  | nil => rfl
  | append_singleton segments segment ih =>
    rw [lastOfEach_concat, List.filterMap_append, List.foldl_append, ih]
    cases h : assignment? segment <;> simp [h]

theorem parse_eq_lastOfEach (raw : String) (o : Options) :
    parse raw o = lastOfEach (Segment.split raw.toList) o := by
  rw [parse, parseLogged, readSegments_eq]
  exact foldl_set_eq_lastOfEach _ o

-- ---------------------------------------------------------------------------
-- Segments that change places, come and go
-- ---------------------------------------------------------------------------

theorem set_comm (q : Query) {x y : Assignment} (h : x.part ≠ y.part) : (q.set x).set y = (q.set y).set x := by
  cases x <;> cases y <;> first | rfl | exact absurd rfl h

theorem lastOfEach_swap {a b : List Char} (h : Segment.Apart a b) (before after : List (List Char)) (o : Options) :
    lastOfEach (before ++ b :: a :: after) o = lastOfEach (before ++ a :: b :: after) o := by
  simp only [← foldl_set_eq_lastOfEach, List.filterMap_append, List.foldl_append, List.filterMap_cons]
  cases ha : assignment? a with
  | none => rfl
  | some x =>
    cases hb : assignment? b with
    | none => rfl
    | some y =>
      have hparts : y.part ≠ x.part := by
        intro heq
        apply h x.part.key (Segment.key?_of_assignment? ha)
        rw [Segment.key?_of_assignment? hb, heq]
      rw [List.foldl_cons, List.foldl_cons, List.foldl_cons, List.foldl_cons, set_comm _ hparts]

theorem lastOfEach_of_idle {segment : List Char} (h : Segment.Idle segment) (before after : List (List Char))
    (o : Options) : lastOfEach (before ++ segment :: after) o = lastOfEach (before ++ after) o := by
  simp only [← foldl_set_eq_lastOfEach, List.filterMap_append,
    List.filterMap_cons_none (Segment.assignment?_eq_none_iff.mpr h)]

/-- What the segments are read as, in any text that has just these segments;
and there is one. The blanks at the ends of a text are of no segment, so a
segment with blanks is not moved there without a `?` or a `&` beside it. -/
structure ReadsAs (segments : List (List Char)) (o : Options) (q : Query) : Prop where
  exists_text : ∃ raw : String, Segment.split raw.toList = segments
  parse_eq : ∀ raw : String, Segment.split raw.toList = segments → parse raw o = q

theorem readsAs_lastOfEach {segments : List (List Char)}
    (h : ∀ segment ∈ segments, segment ≠ [] ∧ '&' ∉ segment) (o : Options) :
    ReadsAs segments o (lastOfEach segments o) where
  exists_text := Segment.exists_split_eq_iff.mpr h
  parse_eq := by
    rintro raw rfl
    exact parse_eq_lastOfEach raw o

/-- A query string is read as its segments have it, each part as the last of
its key. The query stays the same if neighbours without a common key change
places, and if segments that set nothing are left out or put in. -/
theorem last_segment_of_each_key_wins (raw : String) (o : Options) :
    let segments := Segment.split raw.toList
    parse raw o = lastOfEach segments o ∧
      (∀ before a b after, segments = before ++ a :: b :: after → Segment.Apart a b →
        ReadsAs (before ++ b :: a :: after) o (parse raw o)) ∧
      (∀ before segment after, segments = before ++ segment :: after → Segment.Idle segment →
        ReadsAs (before ++ after) o (parse raw o)) ∧
      ∀ before segment after, segments = before ++ after → segment ≠ [] → '&' ∉ segment →
        Segment.Idle segment → ReadsAs (before ++ segment :: after) o (parse raw o) := by
  intro segments
  have hparse : parse raw o = lastOfEach segments o := parse_eq_lastOfEach raw o
  have hsegments : ∀ segment ∈ segments, segment ≠ [] ∧ '&' ∉ segment :=
    Segment.exists_split_eq_iff.mp ⟨raw, rfl⟩
  clear_value segments
  refine ⟨hparse, ?_, ?_, ?_⟩
  · rintro before a b after rfl hapart
    rw [hparse, ← lastOfEach_swap hapart]
    refine readsAs_lastOfEach (fun segment hsegment => hsegments segment ?_) o
    exact ((List.Perm.swap a b after).append_left before).mem_iff.mp hsegment
  · rintro before segment after rfl hidle
    rw [hparse, lastOfEach_of_idle hidle]
    refine readsAs_lastOfEach (fun other hother => hsegments other ?_) o
    exact ((List.sublist_cons_self segment after).append_left before).subset hother
  · rintro before segment after rfl hne hfree hidle
    rw [hparse, ← lastOfEach_of_idle hidle]
    refine readsAs_lastOfEach (fun other hother => ?_) o
    rcases List.mem_cons.mp (List.perm_middle.mem_iff.mp hother) with rfl | hold
    · exact ⟨hne, hfree⟩
    · exact hsegments other hold

/-- The second list of filters counts, though it has no token, but not the second
page, which is no number. -/
theorem last_segment_of_each_key_wins_among_damaged_ones :
    let raw := " ?page=2&Filters=a&PAGE=x&filters=,"
    let q : Query := { page := some 2 }
    let page := "page=2".toList
    let tokens := "Filters=a".toList
    let wordPage := "PAGE=x".toList
    let comma := "filters=,".toList
    let half := "sorts=%ff".toList
    Segment.split raw.toList = [page, tokens, wordPage, comma] ∧ parse raw {} = q ∧
      (Segment.Apart page tokens ∧ ReadsAs [tokens, page, wordPage, comma] {} q) ∧
      (Segment.Idle wordPage ∧ ReadsAs [page, tokens, comma] {} q) ∧
      Segment.Idle half ∧ ReadsAs [page, tokens, half, wordPage, comma] {} q := by
  intro raw q page tokens wordPage comma half
  have hsegments : Segment.split raw.toList = [page, tokens, wordPage, comma] := by decide +kernel
  have hparse : parse raw {} = q := by decide +kernel
  have hapart : Segment.Apart page tokens := by
    intro key hpage htokens
    have hkeys : key? page = key? tokens := hpage.trans htokens.symm
    exact absurd hkeys (by decide +kernel)
  have hword : Segment.Idle wordPage := Segment.assignment?_eq_none_iff.mp (by decide +kernel)
  have hhalf : Segment.Idle half := Segment.assignment?_eq_none_iff.mp (by decide +kernel)
  obtain ⟨-, hswap, hleave, hput⟩ := last_segment_of_each_key_wins raw {}
  rw [hsegments, hparse] at hswap hleave hput
  exact ⟨hsegments, hparse, ⟨hapart, hswap [] page tokens [wordPage, comma] rfl hapart⟩,
    ⟨hword, hleave [page, tokens] wordPage [comma] rfl hword⟩,
    hhalf, hput [page, tokens] half [wordPage, comma] rfl (by decide) (by decide) hhalf⟩

end Query

end ListQuery
