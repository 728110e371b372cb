import ListQuery.Accessor
import ListQuery.Proofs.Text.Compact
import ListQuery.Proofs.Text.Pieces

/-!
# Laws of accessors

The plain spellings of an accessor, without any blanks to spare, are all read
as the member that they name.
-/

namespace ListQuery

open Text (Compact Trimmed compact_of_isAsciiIdentifier isAsciiIdentifier)

namespace Accessor

-- ---------------------------------------------------------------------------
-- Identifiers
-- ---------------------------------------------------------------------------

section
variable {name : List Char} (h : isAsciiIdentifier name = true)
include h

theorem identifier?_of_isAsciiIdentifier : identifier? name = some name := by
  have htrim : Text.trim name = name := Text.trim_eq_self_iff.mpr (compact_of_isAsciiIdentifier h).trimmed
  rw [identifier?, htrim, if_pos h]

theorem not_mem_of_isAsciiIdentifier {c : Char} (hc : Text.isAsciiContinue c = false) : c ∉ name := by
  obtain ⟨first, rest, rfl, hfirst, hrest⟩ := Text.isAsciiIdentifier_eq_true_iff.mp h
  intro hmem
  rcases List.mem_cons.mp hmem with rfl | hmem
  · rw [Text.isAsciiContinue_of_isAsciiStart hfirst] at hc
    cases hc
  · rw [hrest c hmem] at hc
    cases hc

end

-- ---------------------------------------------------------------------------
-- Reads
-- ---------------------------------------------------------------------------

section
variable {receiver member : List Char} (hmember : isAsciiIdentifier member = true)
include hmember

theorem readMember_of_isAsciiIdentifier : readMember member = some member := by
  rw [readMember, Text.cut_of_not_mem (not_mem_of_isAsciiIdentifier hmember (by decide))]
  exact if_pos hmember

theorem readMember_append (hreceiver : isAsciiIdentifier receiver = true) :
    readMember (receiver ++ '.' :: member) = some member := by
  rw [readMember, Text.cut_append (not_mem_of_isAsciiIdentifier hreceiver (by decide))]
  simp only [identifier?_of_isAsciiIdentifier hreceiver, identifier?_of_isAsciiIdentifier hmember]
  rfl

theorem compact_read (hreceiver : isAsciiIdentifier receiver = true) :
    Compact (receiver ++ '.' :: member) :=
  Text.compact_append.mpr ⟨compact_of_isAsciiIdentifier hreceiver,
    Text.compact_cons.mpr ⟨by decide, compact_of_isAsciiIdentifier hmember⟩⟩

end

-- ---------------------------------------------------------------------------
-- Whole accessors
-- ---------------------------------------------------------------------------

def spellings (receiver member : String) : List String :=
  let read := receiver ++ "." ++ member
  [member, read, "|" ++ receiver ++ "| " ++ read, receiver ++ " => " ++ read]

section
variable {parameter read member : List Char} (hcompact : Compact read)
include hcompact

theorem trim_read : Text.trim (' ' :: read) = read := by
  rw [Text.trim_cons_of_isBlank (by decide)]
  exact Text.trim_eq_self_iff.mpr hcompact.trimmed

theorem openClosure_bars (hparameter : isAsciiIdentifier parameter = true) :
    openClosure ('|' :: (parameter ++ '|' :: ' ' :: read)) = some read := by
  have hbar : '|' ∉ parameter := not_mem_of_isAsciiIdentifier hparameter (by decide)
  rw [openClosure, Text.cut_append hbar]
  simp only [Option.bind_eq_bind, Option.bind_some, identifier?_of_isAsciiIdentifier hparameter,
    trim_read hcompact]
  rfl

theorem openClosure_arrow (hparameter : isAsciiIdentifier parameter = true) :
    openClosure (parameter ++ ' ' :: '=' :: '>' :: ' ' :: read) = some read := by
  have harrow : '=' ∉ parameter ++ [' '] := by
    simp [not_mem_of_isAsciiIdentifier hparameter (c := '=') (by decide)]
  have hcut : Text.cutWord ['=', '>'] (parameter ++ ' ' :: '=' :: '>' :: ' ' :: read) =
      some (parameter ++ [' '], ' ' :: read) := by
    rw [List.append_cons]
    exact Text.cutWord_append harrow ['>'] (' ' :: read)
  have hidentifier : identifier? (parameter ++ [' ']) = some parameter := by
    rw [identifier?, Text.trim_append_of_isBlank (by decide)]
    exact identifier?_of_isAsciiIdentifier hparameter
  unfold openClosure
  split
  · next rest hbar =>
    -- An identifier begins with no bar.
    obtain ⟨first, others, rfl, hfirst, -⟩ := Text.isAsciiIdentifier_eq_true_iff.mp hparameter
    obtain ⟨rfl, -⟩ := List.cons.inj hbar
    exact absurd hfirst (by decide)
  · rw [hcut]
    simp only [Option.bind_eq_bind, Option.bind_some, hidentifier, trim_read hcompact]
    rfl

variable (hread : readMember read = some member)
include hread

theorem ne_nil_of_readMember : read ≠ [] := by
  rintro rfl
  cases hread

theorem member?_of_openClosure {expression : List Char} (htrimmed : Trimmed expression)
    (hopen : openClosure expression = some read) : member? expression = some member := by
  have hblank : ' ' ∉ read := fun hc => absurd (hcompact _ hc) (by decide)
  have hcast : dropCast read = some read := by
    rw [dropCast, Text.cutWord_of_not_mem hblank]
  simp only [member?, Text.trim_eq_self_iff.mpr htrimmed, hopen, hcast, hread, Option.bind_eq_bind,
    Option.bind_some]

theorem member?_of_read : member? read = some member := by
  refine member?_of_openClosure hcompact hread hcompact.trimmed ?_
  have harrow : '=' ∉ read := fun hc => absurd (hcompact _ hc) (by decide)
  unfold openClosure
  split
  · exact absurd (hcompact '|' List.mem_cons_self) (by decide)
  · rw [Text.cutWord_of_not_mem harrow]

theorem member?_bars (hparameter : isAsciiIdentifier parameter = true) :
    member? ('|' :: (parameter ++ '|' :: ' ' :: read)) = some member := by
  refine member?_of_openClosure hcompact hread ?_ (openClosure_bars hcompact hparameter)
  simpa using Text.trimmed_cons_append (c := '|') (by decide) hcompact.trimmed
    (ne_nil_of_readMember hcompact hread) (parameter ++ ['|', ' '])

theorem member?_arrow (hparameter : isAsciiIdentifier parameter = true) :
    member? (parameter ++ ' ' :: '=' :: '>' :: ' ' :: read) = some member := by
  refine member?_of_openClosure hcompact hread ?_ (openClosure_arrow hcompact hparameter)
  have htrimmed := (compact_of_isAsciiIdentifier hparameter).trimmed
  obtain ⟨first, rest, rfl, -, -⟩ := Text.isAsciiIdentifier_eq_true_iff.mp hparameter
  simpa using Text.trimmed_cons_append (c := first) (htrimmed.head first rfl) hcompact.trimmed
    (ne_nil_of_readMember hcompact hread) (rest ++ [' ', '=', '>', ' '])

end

theorem member?_of_mem_spellings {receiver member expression : String}
    (hreceiver : isAsciiIdentifier receiver.toList = true)
    (hmember : isAsciiIdentifier member.toList = true) (h : expression ∈ spellings receiver member) :
    member? expression.toList = some member.toList := by
  have hcompact := compact_read hmember hreceiver
  have hread := readMember_append hmember hreceiver
  simp only [spellings, List.mem_cons, List.not_mem_nil, or_false] at h
  rcases h with rfl | rfl | rfl | rfl
  · exact member?_of_read (compact_of_isAsciiIdentifier hmember) (readMember_of_isAsciiIdentifier hmember)
  · simpa using member?_of_read hcompact hread
  · simpa using member?_bars hcompact hread hreceiver
  · simpa using member?_arrow hcompact hread hreceiver

end Accessor

-- ---------------------------------------------------------------------------
-- Declared fields
-- ---------------------------------------------------------------------------

theorem sameName_self (name : List Char) : sameName name name = true :=
  beq_self_eq_true _

theorem Schema.resolve_eq_ok_iff {F : Type} {S : Schema F} {expression : String} {f : F} :
    S.resolve expression = .ok f ↔
      ∃ member, Accessor.member? expression.toList = some member ∧
        S.fields.find? (fun g => sameName (S.name g).toList member || sameName (S.member g).toList member) =
          some f := by
  rw [resolve, ← Option.bind_eq_some_iff, ← Option.bind_eq_bind]
  split
  · next g hg => rw [hg, Except.ok.injEq, Option.some.injEq]
  · next hnone => rw [hnone]; exact ⟨nofun, nofun⟩

end ListQuery
