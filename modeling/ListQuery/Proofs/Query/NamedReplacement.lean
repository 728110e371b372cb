import ListQuery.Proofs.Clause
import ListQuery.Proofs.Query.Step

/-!
# Replacing by name

A replacement by name takes any text for the name, for the symbol and for the
value, so the clause that it adds may count for another name than the one it
replaces. It is absorbed by the next replacement on its name just if it does
not.
-/

namespace ListQuery

variable {F : Type}

structure Comparison where
  symbol : String
  value : Value

namespace Comparison

def text (c : Comparison) (name : String) : String :=
  Clause.compose name c.symbol c.value.format

/-- The clause counts for the name that it is written with. The empty text is
no clause and counts for none. -/
def KeepsName (c : Comparison) (name : String) : Prop :=
  c.text name = "" ∨ Clause.fieldOf (c.text name) = name

def added (c : Comparison) (name : String) : List String :=
  if c.text name = "" then [] else [c.text name]

def replacement (c : Comparison) (name : String) : Step F :=
  .replaceFilterByName name c.symbol c.value

theorem added_filter_eq_nil_iff {c : Comparison} {name : String} :
    (c.added name).filter (Clause.fieldOf · != name) = [] ↔ c.KeepsName name := by
  unfold added KeepsName
  split <;> simp [*]

theorem added_filter_of_ne {c : Comparison} {name other : String} (hne : name ≠ other)
    (hfield : Clause.fieldOf (c.text name) = name) :
    (c.added name).filter (Clause.fieldOf · != other) = c.added name := by
  refine List.filter_eq_self.mpr fun clause hclause => ?_
  unfold added at hclause
  split at hclause
  · cases hclause
  · obtain rfl := List.mem_singleton.mp hclause
    simpa [hfield] using hne

end Comparison

namespace Query

-- ---------------------------------------------------------------------------
-- One replacement and two
-- ---------------------------------------------------------------------------

theorem apply_replacement (S : Schema F) (q : Query) (c : Comparison) (name : String) :
    q.apply S (c.replacement name) =
      { q with filters := q.filters.filter (Clause.fieldOf · != name) ++ c.added name } := by
  rw [Comparison.replacement, apply, pushFilter, removeByName, Comparison.added, Comparison.text]
  split
  · rw [List.append_nil]
  · rfl

/-- Of two replacements on a name the second alone counts, just if it takes the
clause of the first away. -/
theorem replacement_absorbed_iff (S : Schema F) (q : Query) (first second : Comparison) (name : String) :
    (q.apply S (first.replacement name)).apply S (second.replacement name) =
        q.apply S (second.replacement name) ↔
      first.KeepsName name := by
  rw [← Comparison.added_filter_eq_nil_iff]
  simp only [apply_replacement, mk.injEq, and_true, List.filter_append, List.filter_filter, Bool.and_self,
    List.append_assoc]
  rw [List.append_right_inj, List.append_left_eq_self]

theorem apply_replacement_replacement (S : Schema F) (q : Query) {c d : Comparison} {a b : String}
    (hne : a ≠ b) (hc : Clause.fieldOf (c.text a) = a) :
    (q.apply S (c.replacement a)).apply S (d.replacement b) =
      { q with filters := q.filters.filter (fun clause => Clause.fieldOf clause != b && Clause.fieldOf clause != a) ++
          (c.added a ++ d.added b) } := by
  simp only [apply_replacement, List.filter_append, List.filter_filter,
    Comparison.added_filter_of_ne hne hc, List.append_assoc]

-- ---------------------------------------------------------------------------
-- Many replacements
-- ---------------------------------------------------------------------------

/-- Of many replacements on a name the last alone counts, if each clause before
it can be taken away. -/
theorem run_replacements (S : Schema F) (q : Query) {name : String} {earlier : List Comparison}
    (h : ∀ c ∈ earlier, c.KeepsName name) (last : Comparison) :
    (q.run S ((earlier ++ [last]).map (·.replacement name))).1 = q.apply S (last.replacement name) := by
  induction earlier generalizing q with
  | nil => rfl
  | cons c earlier ih =>
    have hlater := ih (q.apply S (c.replacement name)) fun d hd => h d (List.mem_cons_of_mem _ hd)
    have habsorbed := (replacement_absorbed_iff S q c last name).mpr (h c List.mem_cons_self)
    exact hlater.trans habsorbed

/-- Repeating a replacement by name makes no difference just if its clause is
empty or counts for the name. Of replacements on one name the last is left
behind the clauses on other names, if the clauses of those before it are empty
or count for the name. Replacements on two names commute up to the order of
their clauses. All of them change nothing but the filters. -/
theorem named_replacements_absorb_and_commute (S : Schema F) (q : Query) :
    (∀ (c : Comparison) (name : String),
      (q.apply S (c.replacement name)).apply S (c.replacement name) = q.apply S (c.replacement name) ↔
        c.text name = "" ∨ Clause.fieldOf (c.text name) = name) ∧
    (∀ (name : String) (earlier : List Comparison) (last : Comparison),
      (∀ c ∈ earlier, c.text name ≠ "" → Clause.fieldOf (c.text name) = name) →
        (q.run S ((earlier ++ [last]).map (·.replacement name))).1 =
          { q with filters := q.filters.filter (Clause.fieldOf · != name) ++ last.added name }) ∧
    ∀ (a b : String) (c d : Comparison), a ≠ b →
      Clause.fieldOf (c.text a) = a → Clause.fieldOf (d.text b) = b →
        let kept := q.filters.filter fun clause => Clause.fieldOf clause != a && Clause.fieldOf clause != b
        (q.run S [c.replacement a, d.replacement b]).1 = { q with filters := kept ++ (c.added a ++ d.added b) } ∧
          (q.run S [d.replacement b, c.replacement a]).1 =
            { q with filters := kept ++ (d.added b ++ c.added a) } := by
  refine ⟨fun c name => replacement_absorbed_iff S q c c name, ?_, ?_⟩
  · intro name earlier last hkeeps
    have hearlier : ∀ c ∈ earlier, c.KeepsName name := fun c hc => or_iff_not_imp_left.mpr (hkeeps c hc)
    rw [run_replacements S q hearlier, apply_replacement]
  · intro a b c d hne hc hd kept
    have hkept : kept = q.filters.filter fun clause => Clause.fieldOf clause != b && Clause.fieldOf clause != a :=
      List.filter_congr fun clause _ => Bool.and_comm _ _
    refine ⟨?_, apply_replacement_replacement S q hne.symm hd⟩
    rw [hkept]
    exact apply_replacement_replacement S q hne hc

/-- The clause `a==b` by the name `a=` counts for `a`, so replacing it adds
another. -/
theorem named_replacements_absorb_and_commute_around_misread_clause :
    let q : Query := { filters := ["b>1", "a", "Title@=x", "a!=0"], sorts := ["-a"], page := some 2 }
    let misread : Comparison := ⟨"=", .text "b"⟩
    let search (text : String) : Comparison := ⟨"@=", .text text⟩
    (∀ c ∈ [search "r", search "ru", ⟨"", .null⟩],
        c.text "a" ≠ "" → Clause.fieldOf (c.text "a") = "a") ∧
      Clause.fieldOf ((search "r").text "a") = "a" ∧ Clause.fieldOf ((search "1").text "b") = "b" ∧
      let S := Schema.untyped
      (q.apply S (misread.replacement "a=")).apply S (misread.replacement "a=") ≠
          q.apply S (misread.replacement "a=") ∧
        (q.run S ([search "r", search "ru", ⟨"", .null⟩, search "rust"].map (·.replacement "a"))).1 =
          { q with filters := ["b>1", "Title@=x", "a@=rust"] } ∧
        (q.run S [(search "r").replacement "a", (search "1").replacement "b"]).1 =
          { q with filters := ["Title@=x", "a@=r", "b@=1"] } ∧
        (q.run S [(search "1").replacement "b", (search "r").replacement "a"]).1 =
          { q with filters := ["Title@=x", "b@=1", "a@=r"] } := by
  intro q misread search
  have hkeeps : ∀ c ∈ [search "r", search "ru", ⟨"", .null⟩],
      c.text "a" ≠ "" → Clause.fieldOf (c.text "a") = "a" := by decide
  have ha : Clause.fieldOf ((search "r").text "a") = "a" := by decide
  have hb : Clause.fieldOf ((search "1").text "b") = "b" := by decide
  obtain ⟨htwice, hmany, htwo⟩ := named_replacements_absorb_and_commute Schema.untyped q
  refine ⟨hkeeps, ha, hb, ?_⟩
  intro S
  refine ⟨?_, hmany "a" _ (search "rust") hkeeps, htwo "a" "b" _ _ (by decide) ha hb⟩
  rw [Ne, htwice]
  decide

end Query

end ListQuery
