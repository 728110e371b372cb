import ListQuery.Text.Span

/-!
# Cutting text at separators

Pieces of a text between separators, and the lists of tokens: clauses and sort
tokens travel as one text, with commas between them.
-/

namespace ListQuery.Text

def cut (sep : Char) : List Char → Option (List Char × List Char)
  | [] => none
  | c :: rest =>
    if c = sep then some ([], rest)
    else (cut sep rest).map fun (before, after) => (c :: before, after)

def cutWord (sep : List Char) : List Char → Option (List Char × List Char)
  | [] => if sep = [] then some ([], []) else none
  | c :: rest =>
    match sep.isPrefixOf? (c :: rest) with
    | some after => some ([], after)
    | none => (cutWord sep rest).map fun (before, after) => (c :: before, after)

/-- The pieces between the separators; a text without separator is one piece. -/
def pieces (sep : Char) : List Char → List (List Char)
  | [] => [[]]
  | c :: rest =>
    if c = sep then [] :: pieces sep rest
    else
      match pieces sep rest with
      | [] => [[c]]
      | piece :: others => (c :: piece) :: others

def joinWith (sep : Char) : List (List Char) → List Char
  | [] => []
  | [piece] => piece
  | piece :: next :: others => piece ++ sep :: joinWith sep (next :: others)

theorem pieces_ne_nil (sep : Char) (cs : List Char) : pieces sep cs ≠ [] := by
  cases cs with
  | nil => simp [pieces]
  | cons c rest =>
    unfold pieces
    split
    · simp
    · split <;> simp

theorem joinWith_pieces (sep : Char) (cs : List Char) : joinWith sep (pieces sep cs) = cs := by
  induction cs with
  | nil => rfl
  | cons c rest ih =>
    unfold pieces
    split
    · next h =>
      subst h
      cases hp : pieces c rest with
      | nil => exact absurd hp (pieces_ne_nil c rest)
      | cons piece others => rw [hp] at ih; simp [joinWith, ih]
    · split
      · next hp => exact absurd hp (pieces_ne_nil sep rest)
      · next piece others hp =>
        rw [hp] at ih
        cases others with
        | nil => simpa [joinWith] using ih
        | cons next others => simpa [joinWith] using ih

theorem cut_eq_some {sep : Char} {cs before after : List Char}
    (h : cut sep cs = some (before, after)) : cs = before ++ sep :: after ∧ sep ∉ before := by
  induction cs generalizing before with
  | nil => simp [cut] at h
  | cons c rest ih =>
    unfold cut at h
    split at h
    · next hc => cases h; simp [hc]
    · next hc =>
      obtain ⟨⟨b, a⟩, hb, he⟩ := Option.map_eq_some_iff.mp h
      cases he
      obtain ⟨h₁, h₂⟩ := ih hb
      simp [h₁, h₂, Ne.symm hc]

end ListQuery.Text

namespace ListQuery.TokenList

/-- The tokens between the commas, without the blanks around them; a token
of blanks alone counts for nothing. -/
def split (list : String) : List String :=
  (((Text.pieces ',' list.toList).map Text.trim).filter (· ≠ [])).map String.ofList

def join (tokens : List String) : String :=
  String.ofList (Text.joinWith ',' (tokens.map String.toList))

theorem join_nil : join [] = "" := rfl

end ListQuery.TokenList
