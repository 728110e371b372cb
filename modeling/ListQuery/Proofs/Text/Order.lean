import ListQuery.Proofs.Text.Compact
import ListQuery.Text.PercentLaws
import Mathlib.Data.List.Basic

/-!
# The order of texts

Texts are compared at the first place where they differ. For ASCII texts it
makes no difference whether that is done by characters or by octets.
-/

namespace ListQuery.Text

theorem append_lt_append_iff {α : Type} [LT α] {front front' : List α} (h : front.length = front'.length)
    (back back' : List α) : front ++ back < front' ++ back' ↔ front < front' ∨ front = front' ∧ back < back' := by
  induction front generalizing front' with
  | nil =>
    obtain rfl := List.eq_nil_of_length_eq_zero h.symm
    simp
  | cons x front ih =>
    cases front' with
    | nil => cases h
    | cons y front' =>
      simp only [List.cons_append, List.cons_lt_cons_iff, ih (Nat.succ.inj h), List.cons.injEq]
      tauto

def Ascii (cs : List Char) : Prop :=
  ∀ c ∈ cs, c.toNat < 128

theorem Compact.ascii {cs : List Char} (h : Compact cs) : Ascii cs := by
  intro c hc
  have hcompact := h c hc
  simp only [isCompactChar, Bool.or_eq_true, beq_iff_eq] at hcompact
  rcases hcompact with ((((halphanum | rfl) | rfl) | rfl) | rfl) | rfl
  · have := visible_of_isAlphanum halphanum
    omega
  all_goals decide

theorem utf8EncodeChar_of_lt {c : Char} (h : c.toNat < 128) :
    String.utf8EncodeChar c = [UInt8.ofNat c.toNat] := by
  have hc := Percent.utf8EncodeChar_ofNat h
  rwa [Char.ofNat_toNat] at hc

theorem encode_lt_encode_iff {cs ds : List Char} (hcs : Ascii cs) (hds : Ascii ds) :
    Utf8.encode cs < Utf8.encode ds ↔ cs < ds := by
  induction cs generalizing ds with
  | nil =>
    cases ds with
    | nil => simp [Utf8.encode]
    | cons d ds => simp [Utf8.encode, utf8EncodeChar_of_lt (hds d List.mem_cons_self)]
  | cons c cs ih =>
    cases ds with
    | nil => simp [Utf8.encode]
    | cons d ds =>
      have hc := hcs c List.mem_cons_self
      have hd := hds d List.mem_cons_self
      have hlater := ih (fun e he => hcs e (List.mem_cons_of_mem _ he))
        fun e he => hds e (List.mem_cons_of_mem _ he)
      have hlt : UInt8.ofNat c.toNat < UInt8.ofNat d.toNat ↔ c < d := by
        rw [UInt8.lt_iff_toNat_lt, Utf8.toNat_octet (by omega), Utf8.toNat_octet (by omega)]
        rfl
      have heq : UInt8.ofNat c.toNat = UInt8.ofNat d.toNat ↔ c = d := by
        rw [← UInt8.toNat_inj, Utf8.toNat_octet (by omega), Utf8.toNat_octet (by omega), Char.toNat_inj]
      simp only [Utf8.encode, List.flatMap_cons, utf8EncodeChar_of_lt hc, utf8EncodeChar_of_lt hd,
        List.singleton_append, List.cons_lt_cons_iff] at hlater ⊢
      rw [hlt, heq, hlater]

end ListQuery.Text
