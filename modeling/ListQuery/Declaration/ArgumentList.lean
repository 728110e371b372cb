import ListQuery.Declaration.Lexeme

/-!
# Argument lists of types

The arguments of a type, between `<` and `>`, are written with the lifetimes
first, in whatever order they come. What the brackets of a macro call or of an
attribute hold stays as it is.
-/

namespace ListQuery

inductive LayerShape where
  | plain
  /-- Behind `<`, which may yet turn out to compare two values. -/
  | arguments
  | verbatim
  deriving DecidableEq, Repr

/-- A bracket whose partner has not come yet, and what stands behind it: the
items that a comma ends, and the item under way. The last comes first. -/
structure Layer where
  shape : LayerShape
  opening : List Lexeme
  ended : List (List Lexeme)
  current : List Lexeme
  deriving Repr

/-- The open brackets around a place in the text, the innermost on top. -/
structure Layers where
  top : Layer
  below : List Layer
  deriving Repr

def Lexeme.comma : Lexeme := ⟨.mark, [',']⟩

/-- Whether an argument is a lifetime; with a `+` it is the first of several bounds. -/
def isLifetimeArgument : List Lexeme → Bool
  | ⟨.lifetime, _⟩ :: ⟨.mark, ['+']⟩ :: _ => false
  | ⟨.lifetime, _⟩ :: _ => true
  | _ => false

/-- Arguments with their commas, the lifetimes first. The last argument may
lack a comma; where it moves ahead of others, one is put behind it. -/
def lifetimesFirst (arguments : List (List Lexeme)) : List Lexeme :=
  let (lifetimes, others) := arguments.partition isLifetimeArgument
  let first := lifetimes.flatten
  let between :=
    if first = [] || others = [] || first.getLast? = some .comma then [] else [Lexeme.comma]
  first ++ between ++ others.flatten

namespace Layer

def outermost : Layer := ⟨.plain, [], [], []⟩

def append (layer : Layer) (xs : List Lexeme) : Layer :=
  { layer with current := xs.reverse ++ layer.current }

def endItem (layer : Layer) (comma : Lexeme) : Layer :=
  { layer with ended := (comma :: layer.current).reverse :: layer.ended, current := [] }

def items (layer : Layer) : List (List Lexeme) :=
  layer.ended.reverse ++ if layer.current = [] then [] else [layer.current.reverse]

def asWritten (layer : Layer) : List Lexeme :=
  layer.opening ++ layer.items.flatten

def callsMacro (layer : Layer) : Bool :=
  match layer.current with
  | ⟨.mark, ['#']⟩ :: _ | ⟨.mark, ['!']⟩ :: ⟨.mark, ['#']⟩ :: _ => true
  | ⟨.mark, ['!']⟩ :: ⟨.word, name⟩ :: _ => !reservedWords.contains (String.ofList name)
  | _ => false

/-- Without a `::` at the end, which says nothing in front of a round bracket. -/
def dropPathMark (layer : Layer) : Layer :=
  match layer.shape, layer.current with
  | .verbatim, _ => layer
  | _, ⟨.mark, [':', ':']⟩ :: rest => { layer with current := rest }
  | _, _ => layer

end Layer

namespace Layers

def append (layers : Layers) (xs : List Lexeme) : Layers :=
  { layers with top := layers.top.append xs }

def push (layers : Layers) (layer : Layer) : Layers :=
  ⟨layer, layers.top :: layers.below⟩

def settle (top : Layer) : List Layer → Layers
  | [] => ⟨top, []⟩
  | next :: below =>
    if top.shape = .arguments then settle (next.append top.asWritten) below
    else ⟨top, next :: below⟩

def openBracket (layers : Layers) (bracket : Lexeme) : Layers :=
  let top := if bracket.text = ['('] then layers.top.dropPathMark else layers.top
  let shape := if top.shape = .verbatim || top.callsMacro then .verbatim else .plain
  { layers with top := top }.push ⟨shape, [bracket], [], []⟩

def closeBracket (layers : Layers) (bracket : Lexeme) : Layers :=
  match settle layers.top layers.below with
  | ⟨top, []⟩ => ⟨top.append [bracket], []⟩
  | ⟨top, next :: below⟩ => ⟨next.append (top.asWritten ++ [bracket]), below⟩

def openArguments (layers : Layers) (mark : Lexeme) : Layers :=
  if layers.top.shape = .verbatim then layers.append [mark]
  else layers.push ⟨.arguments, [mark], [], []⟩

def closeArguments (layers : Layers) (mark : Lexeme) : Layers :=
  match layers.top.shape, layers.below with
  | .arguments, next :: below =>
    ⟨next.append (layers.top.opening ++ lifetimesFirst layers.top.items ++ [mark]), below⟩
  | _, _ => layers.append [mark]

def add (layers : Layers) (x : Lexeme) : Layers :=
  match x.kind, x.text with
  | .mark, ['('] | .mark, ['['] | .mark, ['\x7b'] => layers.openBracket x
  | .mark, [')'] | .mark, [']'] | .mark, ['\x7d'] => layers.closeBracket x
  | .mark, ['<'] => layers.openArguments x
  | .mark, ['>'] => layers.closeArguments x
  | .mark, [','] => { layers with top := layers.top.endItem x }
  | _, _ => layers.append [x]

def asWritten (layers : Layers) : List Lexeme :=
  (layers.below.foldl (fun top next => next.append top.asWritten) layers.top).asWritten

end Layers

def arrangeArguments (xs : List Lexeme) : List Lexeme :=
  (xs.foldl Layers.add ⟨.outermost, []⟩).asWritten

end ListQuery
