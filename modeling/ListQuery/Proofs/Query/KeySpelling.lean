import ListQuery.Accessor
import ListQuery.Proofs.Query.LastWins
import ListQuery.Proofs.Text.Casing

/-!
# Spellings of the keys

A key names a part of a query just if it is the name up to the case of ASCII
letters, though all small letters of Unicode are looked up for it. No letter
from elsewhere passes for one of a name.
-/

namespace ListQuery

open Text (Ascii)

namespace Part

theorem ascii_key (part : Part) : Ascii part.key.toList := by
  have hname : Text.isAsciiIdentifier part.key.toList = true := by
    cases part <;> decide
  exact (Text.compact_of_isAsciiIdentifier hname).ascii

theorem k_not_mem_key (part : Part) : 'k' ∉ part.key.toList := by
  cases part <;> decide

theorem sameName_key_iff (part : Part) (key : List Char) :
    sameName key part.key.toList = true ↔ key.map Char.toLower = part.key.toList := by
  have hsmall : part.key.toList.map Char.toLower = part.key.toList := by
    cases part <;> decide
  rw [sameName, beq_iff_eq, hsmall]

theorem lower_eq_key_iff (part : Part) (key : List Char) :
    String.ofList (Text.lower key) = part.key ↔ sameName key part.key.toList = true := by
  rw [sameName_key_iff, ← Text.lower_eq_iff part.ascii_key part.k_not_mem_key, ← String.toList_inj,
    String.toList_ofList]

theorem ascii_of_sameName {part : Part} {key : List Char} (h : sameName key part.key.toList = true) :
    Ascii key := by
  rw [sameName_key_iff] at h
  exact Text.ascii_of_map_toLower (h ▸ part.ascii_key)

end Part

namespace Segment

def hasAsciiKey (segment : List Char) : Bool :=
  (Text.cut '=' segment).any fun (key, _) => key.all (·.toNat < 128)

theorem hasAsciiKey_of_assignment? {segment : List Char} {assignment : Assignment}
    (h : assignment? segment = some assignment) : hasAsciiKey segment = true := by
  obtain ⟨⟨key, coded⟩, hcut, hkey⟩ := Option.map_eq_some_iff.mp (key?_of_assignment? h)
  have hascii : Ascii key := Part.ascii_of_sameName ((Part.lower_eq_key_iff _ _).mp hkey)
  simp only [hasAsciiKey, hcut, Option.any_some, List.all_eq_true, decide_eq_true_eq]
  exact hascii

end Segment

namespace Query

open Segment (assignment? hasAsciiKey)

theorem readSegments_filter_hasAsciiKey (q : Query) (log : List Event) (segments : List (List Char)) :
    (readSegments (q, log) (segments.filter hasAsciiKey)).1 = (readSegments (q, log) segments).1 := by
  have hset : (segments.filter hasAsciiKey).filterMap assignment? = segments.filterMap assignment? := by
    rw [List.filterMap_filter]
    refine List.filterMap_congr fun segment _ => ?_
    cases h : assignment? segment with
    | none => exact ite_self none
    | some assignment => exact if_pos (Segment.hasAsciiKey_of_assignment? h)
  rw [readSegments_eq, readSegments_eq, hset]

/-- The small letters of a key are the name of a part just if the key is that
name, up to the case of ASCII letters. So a query string is read as if the
segments with any other character in their keys were not there. -/
theorem only_ascii_spellings_name_a_part :
    (∀ (part : Part) (key : List Char),
      String.ofList (Text.lower key) = part.key ↔ sameName key part.key.toList = true) ∧
    ∀ (raw : String) (o : Options),
      parse raw o = (readSegments (withOptions o, []) ((Segment.split raw.toList).filter hasAsciiKey)).1 :=
  ⟨Part.lower_eq_key_iff, fun _ _ => (readSegments_filter_hasAsciiKey _ _ _).symm⟩

/-- The long s of `ſorts` and the dotted capital of `fİlters` are of no name. -/
example :
    parse "?page=1&fİlters=a&ſorts=b&paGe=2&Ｐage=3&SORTS=c" =
      { sorts := ["c"], page := some 2 } := by
  decide +kernel

end Query

end ListQuery
