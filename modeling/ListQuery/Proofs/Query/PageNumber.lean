import ListQuery.Proofs.Query.RoundTrip

/-!
# Page numbers

A page and a page size are set by the decimal digits of a number, and by
nothing else. Any other text leaves the query as it is, and the fault that is
reported tells what the text is like.
-/

namespace ListQuery

inductive NumberPart where
  | page
  | pageSize
  deriving DecidableEq

namespace NumberPart

def key : NumberPart → String
  | page => "page"
  | pageSize => "pagesize"

def assignment : NumberPart → UInt32 → Assignment
  | page => .page
  | pageSize => .pageSize

theorem set_assignment_inj (part : NumberPart) (q : Query) {m n : UInt32} :
    q.set (part.assignment m) = q.set (part.assignment n) ↔ m = n := by
  cases part <;> simp [assignment, Query.set]

theorem read_segment (part : NumberPart) {key coded value : List Char} (hfree : '=' ∉ key)
    (hkey : String.ofList (Text.lower key) = part.key) (hvalue : Text.Percent.decode coded = .ok value) :
    Segment.read (key ++ '=' :: coded) = (Segment.readNumber key value).map part.assignment := by
  have hpair : Segment.Pair (key ++ '=' :: coded) key value := ⟨coded, rfl, hfree, hvalue⟩
  rw [hpair.read_eq, Segment.assign, hkey]
  cases part <;> rfl

end NumberPart

theorem Segment.readNumber_eq_ok_iff {key value : List Char} {n : UInt32} :
    readNumber key value = .ok n ↔ Unsigned.Numeral (Text.trim value) n.toNat := by
  rw [← Unsigned.read_eq_ok_iff, readNumber]
  cases Unsigned.read (Text.trim value) <;> simp

theorem Segment.readNumber_eq_error (key : List Char) {value : List Char}
    (h : ∀ n : UInt32, ¬Unsigned.Numeral (Text.trim value) n.toNat) :
    ∃ fault : Unsigned.Fault, fault.Explains (Text.trim value) ∧
      readNumber key value = .error (.badNumber (String.ofList key) (String.ofList value) fault) := by
  cases hread : Unsigned.read (Text.trim value) with
  | ok n => exact absurd (Unsigned.read_eq_ok_iff.mp hread) (h n)
  | error fault =>
    refine ⟨fault, Unsigned.explains_of_read hread, ?_⟩
    rw [readNumber, hread]

namespace Query

/-- A page or a page size is set exactly by a number in decimal digits, with
one `+` in front or none and blanks around. Where the value is no such text, the
query stays as it is, and the message tells what the text is like. A number that
a query string shows is read back. -/
theorem page_numbers_are_read_exactly (part : NumberPart) {key coded value : List Char} (hfree : '=' ∉ key)
    (hkey : String.ofList (Text.lower key) = part.key) (hvalue : Text.Percent.decode coded = .ok value) :
    let segment := key ++ '=' :: coded
    let text := Text.trim value
    (∀ (q : Query) (log : List Event) (n : UInt32),
      readSegments (q, log) [segment] = (q.set (part.assignment n), log) ↔ Unsigned.Numeral text n.toNat) ∧
    ((∀ n : UInt32, ¬Unsigned.Numeral text n.toNat) → ∃ fault : Unsigned.Fault, fault.Explains text ∧
      ∀ (q : Query) (log : List Event), readSegments (q, log) [segment] =
        (q, log ++ [.badNumber (String.ofList key) (String.ofList value) fault])) ∧
    ∀ (q : Query) (o : Options),
      (parse q.toQueryString o).page = q.page ∧ (parse q.toQueryString o).pageSize = q.pageSize := by
  intro segment text
  have hread : Segment.read segment = (Segment.readNumber key value).map part.assignment :=
    part.read_segment hfree hkey hvalue
  have hset {n : UInt32} (h : Unsigned.Numeral text n.toNat) (q : Query) (log : List Event) :
      readSegments (q, log) [segment] = (q.set (part.assignment n), log) := by
    rw [Segment.readNumber_eq_ok_iff.mpr h] at hread
    exact readSegments_cons_ok hread q log []
  have hreport (h : ∀ n : UInt32, ¬Unsigned.Numeral text n.toNat) :
      ∃ fault : Unsigned.Fault, fault.Explains text ∧
        ∀ (q : Query) (log : List Event), readSegments (q, log) [segment] =
          (q, log ++ [.badNumber (String.ofList key) (String.ofList value) fault]) := by
    obtain ⟨fault, hexplains, herror⟩ := Segment.readNumber_eq_error key h
    rw [herror] at hread
    exact ⟨fault, hexplains, fun q log => readSegments_cons_error hread q log []⟩
  refine ⟨fun q log n => ⟨fun h => ?_, fun h => hset h q log⟩, hreport, fun q o => ?_⟩
  · by_cases hnumeral : ∃ m : UInt32, Unsigned.Numeral text m.toNat
    · obtain ⟨m, hm⟩ := hnumeral
      rw [hset hm q log, Prod.mk.injEq] at h
      rwa [← (part.set_assignment_inj q).mp h.1]
    · -- What is reported makes the log longer.
      obtain ⟨fault, -, hlog⟩ := hreport (not_exists.mp hnumeral)
      rw [hlog q log, Prod.mk.injEq] at h
      exact absurd h.2 (by simp)
  · rw [parse_toQueryString]
    exact ⟨rfl, rfl⟩

theorem page_numbers_are_read_exactly_around_signs_and_junk :
    let zeros := "%20+0042%c2%a0".toList
    let long := "42949672960x".toList
    ('=' ∉ "PageSize".toList ∧ String.ofList (Text.lower "PageSize".toList) = NumberPart.pageSize.key ∧
      Text.Percent.decode zeros = .ok " +0042\u00a0".toList ∧
      readSegments ({}, []) ["PageSize".toList ++ '=' :: zeros] = ({ pageSize := some 42 }, [])) ∧
    '=' ∉ "page".toList ∧ String.ofList (Text.lower "page".toList) = NumberPart.page.key ∧
      Text.Percent.decode long = .ok long ∧ (∀ n : UInt32, ¬Unsigned.Numeral (Text.trim long) n.toNat) ∧
      ∃ fault : Unsigned.Fault, fault.message = "number too large to fit in target type" ∧
        readSegments ({}, []) ["page".toList ++ '=' :: long] =
          ({}, [.badNumber "page" "42949672960x" fault]) := by
  intro zeros long
  have hzeros : Text.Percent.decode zeros = .ok " +0042\u00a0".toList := by decide +kernel
  have hlong : Text.Percent.decode long = .ok long := by decide +kernel
  have hsize : '=' ∉ "PageSize".toList := by decide
  have hpage : '=' ∉ "page".toList := by decide
  obtain ⟨hset, -, -⟩ := page_numbers_are_read_exactly .pageSize hsize (by decide) hzeros
  obtain ⟨-, hreport, -⟩ := page_numbers_are_read_exactly .page hpage (by decide) hlong
  have hjunk : ∀ n : UInt32, ¬Unsigned.Numeral (Text.trim long) n.toNat := by
    intro n h
    exact absurd (h.digits 'x' (by decide +kernel)) (by decide)
  obtain ⟨fault, hexplains, hlog⟩ := hreport hjunk
  refine ⟨⟨hsize, by decide, hzeros, (hset {} [] 42).mpr ?_⟩, hpage, by decide, hlong, hjunk, fault,
    hexplains.tooLarge.mpr (by decide +kernel), hlog {} []⟩
  exact ⟨by decide +kernel, List.all_eq_true.mp (by decide +kernel), by decide +kernel⟩

end Query

end ListQuery
