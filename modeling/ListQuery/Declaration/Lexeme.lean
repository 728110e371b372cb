import ListQuery.Text.Span
import ListQuery.Text.Quoted

/-!
# Lexemes

The pieces of source text: words, lifetimes, quoted literals and marks, the
notes that document what follows them, and the gaps of blanks and comments
in between. The lexemes of a text, put together, are the text
(`flatMap_text_scan`).
-/

namespace ListQuery

inductive LexemeKind where
  | gap
  | note
  /-- An identifier, a reserved word or a number. -/
  | word
  | lifetime
  /-- A string or a character. -/
  | quoted
  | mark
  deriving DecidableEq, Repr

structure Lexeme where
  kind : LexemeKind
  text : List Char
  deriving DecidableEq, Repr

/-- The words that name neither a module nor a variant. -/
def reservedWords : List String :=
  ["abstract", "as", "async", "await", "become", "box", "break", "const", "continue", "crate",
    "do", "dyn", "else", "enum", "extern", "false", "final", "fn", "for", "if", "impl", "in", "let",
    "loop", "macro", "match", "mod", "move", "mut", "override", "priv", "pub", "ref", "return",
    "Self", "self", "static", "struct", "super", "trait", "true", "type", "typeof", "unsafe",
    "unsized", "use", "virtual", "where", "while", "yield"]

namespace Lexeme

/-- Blanks, and the two marks that set the direction of writing. -/
def isGap (c : Char) : Bool :=
  Text.isBlank c || c == '\u200e' || c == '\u200f'

/-- Letters, digits and `_`; beyond ASCII all that is no gap. -/
def inWord (c : Char) : Bool :=
  c.isAlphanum || c == '_' || (128 ≤ c.toNat && !isGap c)

def lineSize : List Char → Nat
  | [] => 0
  | '\n' :: _ => 0
  | '\r' :: '\n' :: _ => 0
  | _ :: rest => lineSize rest + 1

/-- The characters up to the end of a comment in which `depth` others are open. -/
def commentSize (depth : Nat) : List Char → Nat
  | [] => 0
  | '/' :: '*' :: rest => commentSize (depth + 1) rest + 2
  | '*' :: '/' :: rest =>
    match depth with
    | 0 => 2
    | outer + 1 => commentSize outer rest + 2
  | _ :: rest => commentSize depth rest + 1

def quotedSize (closing : Char) : List Char → Nat
  | [] => 0
  | '\\' :: _ :: rest => quotedSize closing rest + 2
  | c :: rest => if c = closing then 1 else quotedSize closing rest + 1

def rawSize (hashes : List Char) : List Char → Nat
  | [] => 0
  | c :: rest =>
    if c = '"' && hashes.isPrefixOf rest then hashes.length + 1 else rawSize hashes rest + 1

def rawSize? (cs : List Char) : Option Nat :=
  let hashes := cs.takeWhile (· == '#')
  match cs.drop hashes.length with
  | '"' :: body => some (hashes.length + 1 + rawSize hashes body)
  | _ => none

def wordSize (cs : List Char) : Nat :=
  (cs.takeWhile inWord).length

def isNoteLine : List Char → Bool
  | '/' :: '/' :: _ => false
  | '/' :: _ | '!' :: _ => true
  | _ => false

def isNoteBlock : List Char → Bool
  | '*' :: '*' :: _ | '*' :: '/' :: _ => false
  | '*' :: _ | '!' :: _ => true
  | _ => false

/-- The kind of the lexeme that begins with `c`, and how many of the following
characters belong to it. -/
def opening (c : Char) (rest : List Char) : LexemeKind × Nat :=
  match c, rest with
  | '/', '/' :: after => (if isNoteLine after then .note else .gap, lineSize after + 1)
  | '/', '*' :: after => (if isNoteBlock after then .note else .gap, commentSize 0 after + 1)
  | '"', after => (.quoted, quotedSize '"' after)
  | '\'', '\\' :: after => (.quoted, quotedSize '\'' ('\\' :: after))
  | '\'', _ :: '\'' :: _ => (.quoted, 2)
  | '\'', 'r' :: '#' :: after => (.lifetime, wordSize after + 2)
  | '\'', after => (.lifetime, wordSize after)
  | '-', '>' :: _ | '=', '>' :: _ | ':', ':' :: _ => (.mark, 1)
  | 'r', after =>
    match rawSize? after, after with
    | some size, _ => (.quoted, size)
    | none, '#' :: name => (.word, wordSize name + 1)
    | none, name => (.word, wordSize name)
  | 'b', 'r' :: after | 'c', 'r' :: after =>
    match rawSize? after with
    | some size => (.quoted, size + 1)
    | none => (.word, wordSize after + 1)
  | _, after =>
    if isGap c then (.gap, 0)
    else if inWord c then (.word, wordSize after)
    else (.mark, 0)

/-- The lexemes of a text whose first `taken` characters belong to the one before. -/
def scan (taken : Nat) : List Char → List Lexeme
  | [] => []
  | c :: rest =>
    match taken with
    | left + 1 => scan left rest
    | 0 => ⟨(opening c rest).1, c :: rest.take (opening c rest).2⟩ :: scan (opening c rest).2 rest

theorem flatMap_text_scan (taken : Nat) (cs : List Char) :
    (scan taken cs).flatMap (·.text) = cs.drop taken := by
  induction cs generalizing taken with
  | nil => simp [scan]
  | cons c rest ih =>
    cases taken with
    | zero => simp [scan, ih, List.take_append_drop]
    | succ left => simpa [scan] using ih left

def noteText : List Char → List Char
  | '/' :: '*' :: _ :: body => body.dropLast.dropLast
  | cs => cs.drop 3

/-- A lexeme in a list of lexemes without gaps. A note is written as an attribute. -/
def written (x : Lexeme) : List Char :=
  match x.kind, x.text with
  | .gap, _ => []
  | .note, text =>
    let mark := if text[2]? = some '!' then ['#', '!'] else ['#']
    mark ++ "[doc=".toList ++ (Text.quote (String.ofList (noteText text))).toList ++ [']']
  | _, text => text

end Lexeme

def lexemes (text : String) : List Lexeme :=
  (Lexeme.scan 0 text.toList).filter (·.kind ≠ .gap)

def bareName (text : String) : String :=
  String.ofList ((lexemes text).flatMap (·.text))

end ListQuery
