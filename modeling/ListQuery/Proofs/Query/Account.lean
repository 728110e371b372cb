import ListQuery.Proofs.Query.Part
import ListQuery.Proofs.Query.Reading
import Mathlib.Data.List.Forall2

/-!
# What becomes of every segment

A segment of a query string sets one part of the query, or it is reported and
changes nothing, whatever was read before it. So the log accounts for all that
has no effect, and without the reported segments the same query is read.
-/

namespace ListQuery

namespace Segment

-- ---------------------------------------------------------------------------
-- The segments of a text
-- ---------------------------------------------------------------------------

structure Divided (text : List Char) (pieces : List (List Char)) : Prop where
  joined : text = Text.joinWith '&' pieces
  ne_nil : pieces ≠ []
  free : ∀ piece ∈ pieces, '&' ∉ piece

/-- The segments of a text are its pieces that are not empty. The blanks around
the text are of no piece, nor is the `?` that may stand behind those in front. -/
inductive IsSplit : List Char → List (List Char) → Prop
  | marked {front text back : List Char} {pieces : List (List Char)} (hfront : Text.Blanks front)
    (hback : Text.Blanks back) (htrimmed : Text.Trimmed ('?' :: text)) (hpieces : Divided text pieces) :
    IsSplit (front ++ ('?' :: text ++ back)) (pieces.filter (· ≠ []))
  | bare {front text back : List Char} {pieces : List (List Char)} (hfront : Text.Blanks front)
    (hback : Text.Blanks back) (htrimmed : Text.Trimmed text) (hmark : text.head? ≠ some '?')
    (hpieces : Divided text pieces) :
    IsSplit (front ++ (text ++ back)) (pieces.filter (· ≠ []))

theorem Divided.pieces_eq {text : List Char} {pieces : List (List Char)} (h : Divided text pieces) :
    Text.pieces '&' text = pieces := by
  rw [h.joined, Text.pieces_joinWith_of_not_mem h.ne_nil h.free]

theorem divided_pieces (text : List Char) : Divided text (Text.pieces '&' text) where
  joined := (Text.joinWith_pieces '&' text).symm
  ne_nil := Text.pieces_ne_nil '&' text
  free _ := Text.not_mem_of_mem_pieces

/-- There is one list of segments, and the reader finds it. -/
theorem isSplit_iff {raw : List Char} {segments : List (List Char)} :
    IsSplit raw segments ↔ segments = split raw := by
  constructor
  · intro h
    cases h with
    | marked hfront hback htrimmed hpieces =>
      rw [split, Text.trim_surrounded hfront hback, Text.trim_eq_self_iff.mpr htrimmed, dropMark, hpieces.pieces_eq]
    | bare hfront hback htrimmed hmark hpieces =>
      rw [split, Text.trim_surrounded hfront hback, Text.trim_eq_self_iff.mpr htrimmed, dropMark_eq_self hmark,
        hpieces.pieces_eq]
  · rintro rfl
    obtain ⟨front, back, hfront, hback, hraw⟩ := Text.exists_eq_surrounded_trim raw
    have htrimmed := Text.trimmed_trim raw
    by_cases hmark : (Text.trim raw).head? = some '?'
    · have htext := List.eq_cons_of_mem_head? hmark
      rw [htext] at htrimmed
      have h := IsSplit.marked hfront hback htrimmed (divided_pieces (Text.trim raw).tail)
      rw [← htext, ← hraw] at h
      rwa [split, htext, dropMark]
    · have h := IsSplit.bare hfront hback htrimmed hmark (divided_pieces (Text.trim raw))
      rw [← hraw] at h
      rwa [split, dropMark_eq_self hmark]

-- ---------------------------------------------------------------------------
-- One segment
-- ---------------------------------------------------------------------------

variable {segment : List Char} {assignment : Assignment} {event : Event}

/-- The segment sets one part of any query, leaves the rest as it is and
reports nothing. -/
structure Taken (segment : List Char) (assignment : Assignment) : Prop where
  sets : ∀ other, Sets segment other ↔ other = assignment
  silent : ∀ event, ¬Reports segment event
  effect : ∀ (q : Query) (log : List Event), ∃ r : Query,
    Query.readSegment (q, log) segment = (r, log) ∧ r.options = q.options ∧
      ∀ part, r.content part = if part = assignment.part then some assignment else q.content part

/-- The segment changes no query and reports one event. -/
structure PassedOver (segment : List Char) (event : Event) : Prop where
  reports : ∀ other, Reports segment other ↔ other = event
  idle : ∀ assignment, ¬Sets segment assignment
  effect : ∀ (q : Query) (log : List Event), Query.readSegment (q, log) segment = (q, log ++ [event])

theorem taken_of_sets (h : Sets segment assignment) : Taken segment assignment where
  sets other := by
    rw [← read_eq_ok_iff, h.read_eq, Except.ok.injEq, eq_comm]
  silent event hreports := by
    cases h.read_eq.symm.trans hreports.read_eq
  effect q log := by
    refine ⟨q.set assignment, ?_, Query.options_set q assignment, Query.content_set q assignment⟩
    rw [readSegment_eq, h.read_eq]

theorem passedOver_of_reports (h : Reports segment event) : PassedOver segment event where
  reports other := by
    rw [← read_eq_error_iff, h.read_eq, Except.error.injEq, eq_comm]
  idle assignment hsets := by
    cases h.read_eq.symm.trans hsets.read_eq
  effect q log := by
    rw [readSegment_eq, h.read_eq]

theorem taken_or_passedOver (segment : List Char) :
    (∃ assignment, Taken segment assignment) ∨ ∃ event, PassedOver segment event :=
  (sets_or_reports segment).imp (Exists.imp fun _ => taken_of_sets) (Exists.imp fun _ => passedOver_of_reports)

def assignment? (segment : List Char) : Option Assignment :=
  (read segment).toOption

def event? (segment : List Char) : Option Event :=
  match read segment with
  | .ok _ => none
  | .error event => some event

theorem assignment?_eq_some_iff : assignment? segment = some assignment ↔ Sets segment assignment := by
  rw [← read_eq_ok_iff, assignment?]
  cases read segment <;> simp [Except.toOption]

theorem event?_eq_some_iff : event? segment = some event ↔ Reports segment event := by
  rw [← read_eq_error_iff, event?]
  cases read segment <;> simp

theorem Sets.event?_eq_none (h : Sets segment assignment) : event? segment = none := by
  rw [event?, h.read_eq]

theorem Reports.assignment?_eq_none (h : Reports segment event) : assignment? segment = none := by
  rw [assignment?, h.read_eq]
  rfl

def Reported (segment : List Char) : Prop :=
  ∃ event, Reports segment event

theorem reported_iff : Reported segment ↔ (event? segment).isSome = true := by
  simp only [Reported, Option.isSome_iff_exists, event?_eq_some_iff]

theorem not_reported_iff : ¬Reported segment ↔ (assignment? segment).isSome = true := by
  rw [reported_iff]
  rcases sets_or_reports segment with ⟨assignment, h⟩ | ⟨event, h⟩
  · simp [assignment?_eq_some_iff.mpr h, h.event?_eq_none]
  · simp [event?_eq_some_iff.mpr h, h.assignment?_eq_none]

instance : DecidablePred Reported :=
  fun _ => decidable_of_iff _ reported_iff.symm

end Segment

namespace Query

open Segment (assignment? event? Reported)

-- ---------------------------------------------------------------------------
-- All segments
-- ---------------------------------------------------------------------------

/-- Reading sets what the segments set, one after another, and reports their
events in their order. -/
theorem readSegments_eq (q : Query) (log : List Event) (segments : List (List Char)) :
    readSegments (q, log) segments =
      ((segments.filterMap assignment?).foldl set q, log ++ segments.filterMap event?) := by
  induction segments generalizing q log with
  | nil => simp [readSegments]
  | cons segment segments ih =>
    rcases Segment.sets_or_reports segment with ⟨assignment, h⟩ | ⟨event, h⟩
    · have hset := Segment.assignment?_eq_some_iff.mpr h
      rw [readSegments_cons_ok h.read_eq, ih, List.filterMap_cons_some hset,
        List.filterMap_cons_none h.event?_eq_none, List.foldl_cons]
    · have hevent := Segment.event?_eq_some_iff.mpr h
      rw [readSegments_cons_error h.read_eq, ih, List.filterMap_cons_none h.assignment?_eq_none,
        List.filterMap_cons_some hevent, List.append_assoc, List.singleton_append]

theorem forall₂_filterMap {α β : Type} {R : α → β → Prop} {f : α → Option β} {p : α → Bool}
    (hR : ∀ a b, f a = some b → R a b) (hp : ∀ a, p a = true ↔ (f a).isSome = true) (xs : List α) :
    List.Forall₂ R (xs.filter p) (xs.filterMap f) := by
  induction xs with
  | nil => exact .nil
  | cons x xs ih =>
    cases hx : f x with
    | none => rwa [List.filter_cons_of_neg (by simp [hp, hx]), List.filterMap_cons_none hx]
    | some b =>
      rw [List.filter_cons_of_pos (by simp [hp, hx]), List.filterMap_cons_some hx]
      exact .cons (hR x b hx) ih

theorem forall₂_sets (segments : List (List Char)) :
    List.Forall₂ Segment.Sets (segments.filter fun segment => ¬Reported segment)
      (segments.filterMap assignment?) :=
  forall₂_filterMap (fun _ _ => Segment.assignment?_eq_some_iff.mp)
    (fun _ => decide_eq_true_iff.trans Segment.not_reported_iff) segments

theorem forall₂_reports (segments : List (List Char)) :
    List.Forall₂ Segment.Reports (segments.filter fun segment => Reported segment)
      (segments.filterMap event?) :=
  forall₂_filterMap (fun _ _ => Segment.event?_eq_some_iff.mp)
    (fun _ => decide_eq_true_iff.trans Segment.reported_iff) segments

theorem length_eq_assignments_add_events (segments : List (List Char)) :
    segments.length = (segments.filterMap assignment?).length + (segments.filterMap event?).length := by
  rw [← (forall₂_sets segments).length_eq, ← (forall₂_reports segments).length_eq, Nat.add_comm,
    List.length_eq_length_filter_add fun segment => decide (Reported segment)]
  simp

theorem readSegments_filter_unreported (q : Query) (log : List Event) (segments : List (List Char)) :
    readSegments (q, log) (segments.filter fun segment => ¬Reported segment) =
      ((readSegments (q, []) segments).1, log) := by
  have hset : (segments.filter fun segment => ¬Reported segment).filterMap assignment? =
      segments.filterMap assignment? := by
    rw [List.filterMap_filter]
    refine List.filterMap_congr fun segment _ => ?_
    by_cases hreported : Reported segment
    · obtain ⟨event, h⟩ := hreported
      rw [h.assignment?_eq_none, ite_self]
    · exact if_pos (decide_eq_true hreported)
  have hevent : (segments.filter fun segment => ¬Reported segment).filterMap event? = [] := by
    refine List.filterMap_eq_nil_iff.mpr fun segment hsegment => ?_
    have hunreported := of_decide_eq_true (List.mem_filter.mp hsegment).2
    rwa [Segment.reported_iff, Option.not_isSome_iff_eq_none] at hunreported
  rw [readSegments_eq, readSegments_eq, hset, hevent, List.append_nil]

/-- Each segment of a query string sets one part or is reported, never both.
The query is what the segments set, the log is what they report, and to leave
the reported ones out makes no difference but for the log. -/
theorem every_segment_is_accounted_for (raw : String) (o : Options) :
    ∃ (segments : List (List Char)) (assignments : List Assignment) (events : List Event),
      (∀ other, Segment.IsSplit raw.toList other ↔ other = segments) ∧
      (∀ segment ∈ segments,
        (∃ assignment, Segment.Taken segment assignment) ∨ ∃ event, Segment.PassedOver segment event) ∧
      List.Forall₂ Segment.Sets (segments.filter fun segment => ¬Reported segment) assignments ∧
      List.Forall₂ Segment.Reports (segments.filter fun segment => Reported segment) events ∧
      parseLogged raw o = (assignments.foldl set (withOptions o), events) ∧
      segments.length = assignments.length + events.length ∧
      (segments.filter fun segment => ¬Reported segment).foldl readSegment (withOptions o, []) =
        (parse raw o, []) := by
  let segments := Segment.split raw.toList
  refine ⟨segments, segments.filterMap assignment?, segments.filterMap event?, fun _ => Segment.isSplit_iff,
    fun segment _ => Segment.taken_or_passedOver segment, forall₂_sets segments, forall₂_reports segments, ?_,
    length_eq_assignments_add_events segments, ?_⟩
  · exact readSegments_eq (withOptions o) [] segments
  · exact readSegments_filter_unreported (withOptions o) [] segments

end Query

end ListQuery
