import ListQuery.Text.Alphanumeric
import ListQuery.Text.Casing
import ListQuery.Text.Cut

/-!
# Words of a name

A name is split into words where its letters change case and wherever
something stands that is no letter and no digit. The words then make up the
name in another convention.
-/

namespace ListQuery.Text

/-- What the letters of a word have been so far; digits leave it as it is. -/
inductive WordMode where
  | start
  | small
  | capital
  deriving DecidableEq, Repr

def WordMode.next (mode : WordMode) (c : Char) : WordMode :=
  if isLowercase c then .small else if isUppercase c then .capital else mode

/-- The words of a text of letters and digits; `word` holds what was read of
the present word, in reverse. A word ends after a small letter before a
capital, and before the last capital of a row that a small letter follows. -/
def splitChunk (mode : WordMode) (word : List Char) : List Char → List (List Char)
  | [] => if word = [] then [] else [word.reverse]
  | [c] => [(c :: word).reverse]
  | c :: next :: rest =>
    if mode.next c = .small ∧ isUppercase next then
      (c :: word).reverse :: splitChunk .start [] (next :: rest)
    else if mode = .capital ∧ isUppercase c ∧ isLowercase next then
      word.reverse :: splitChunk .start [c] (next :: rest)
    else splitChunk (mode.next c) (c :: word) (next :: rest)

def chunks (cs : List Char) : List (List Char) :=
  (pieces ' ' (cs.map fun c => if isAlphanumeric c then c else ' ')).filter (· ≠ [])

def words (cs : List Char) : List (List Char) :=
  (chunks cs).flatMap (splitChunk .start [])

/-- The word in small letters; a sigma at its end takes the final form. -/
def lowerWord : List Char → List Char
  | [] => []
  | ['Σ'] => ['ς']
  | c :: rest => lowerChar c ++ lowerWord rest

def capitalizeWord : List Char → List Char
  | [] => []
  | c :: rest => upperChar c ++ lowerWord rest

def upperCamel (cs : List Char) : List Char :=
  (words cs).flatMap capitalizeWord

def lowerCamel (cs : List Char) : List Char :=
  match words cs with
  | [] => []
  | first :: others => lowerWord first ++ others.flatMap capitalizeWord

def snake (cs : List Char) : List Char :=
  joinWith '_' ((words cs).map lowerWord)

end ListQuery.Text
