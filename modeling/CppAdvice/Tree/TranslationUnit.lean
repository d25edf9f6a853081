import CppAdvice.Document.Basic
import CppAdvice.Text.Position

/-!
# Translation units

A document laid out for looking things up. Nodes are numbered in preorder from zero, so the nodes
below a node are the numbers after it up to the end of its subtree. Each node knows its parent and
its children. Names are in their canonical spelling.

Numbers of nodes have no bound here. Where they are kept in 32 bits the two agree as long as a unit
has fewer than 2^32 nodes; with more of them the numbers there start again from zero.
-/

namespace CppAdvice

namespace Tree

/-- A node in the numbered form of a tree. -/
structure Entry where
  facts : Facts
  parent : Option Nat
  children : List Nat
  /-- The first number after the subtree of the node. -/
  subtreeEnd : Nat
deriving Repr

namespace Node

/-- Makes a node the last child so far of its parent. -/
def addChild (entries : Array Entry) (parent : Option Nat) (id : Nat) : Array Entry :=
  match parent with
  | some p => entries.modify p fun entry => { entry with children := entry.children ++ [id] }
  | none => entries

/-- Lays out waiting nodes, each with the number of its parent, behind the entries that there
are. The children of a node go before everything that waited behind it. Where subtrees end is
left open. -/
def layOut : (waiting : List (Node × Option Nat)) → Array Entry → Array Entry
  | [], entries => entries
  | (mk facts children, parent) :: waiting, entries =>
    let id := entries.size
    let entries :=
      entries.push { facts := facts.normalize, parent, children := [], subtreeEnd := 0 }
    layOut (children.map (·, some id) ++ waiting) (addChild entries parent id)
termination_by waiting => sizeAll (waiting.map (·.1))
decreasing_by
  simp [sizeAll_append, sizeAll, size, Function.comp_def]

/-- Where the subtree of a node ends: where that of its last child does, or else right after the
node. -/
def endOf (entries : Array Entry) (id : Nat) : Nat :=
  match entries[id]?.bind (·.children.getLast?) with
  | some last => entries[last]?.elim 0 (·.subtreeEnd)
  | none => id + 1

/-- Finds out where the subtrees of the first `count` nodes end, from the last node to the first. -/
def closeAll : (count : Nat) → Array Entry → Array Entry
  | 0, entries => entries
  | id + 1, entries =>
    let subtreeEnd := endOf entries id
    closeAll id (entries.modify id fun entry => { entry with subtreeEnd })

/-- The numbered form of a tree. -/
def flatten (root : Node) : Array Entry :=
  let entries := layOut [(root, none)] #[]
  closeAll entries.size entries

end Node

end Tree

open CppAdvice.Tree

/-- A translation unit in numbered form. -/
structure TranslationUnit where
  file : String
  source : List Char
  language : Language.Flags
  entries : Array Entry
  /-- The classes, by the canonical spelling of their names. -/
  records : List ClassRecord

namespace TranslationUnit

/-- The unit that a document describes; `fallback` is its language if the document does not say. -/
def ofDocument (d : Document) (fallback : Language.Flags) : TranslationUnit where
  file := d.file
  source := d.source.toList
  language := d.language.getD fallback
  entries := d.root.flatten
  records := d.records.map fun r => { r with name := Name.normalize r.name }

variable (u : TranslationUnit)

/-- The number of nodes. -/
def size : Nat :=
  u.entries.size

/-- The entry of a node. -/
def entry? (id : Nat) : Option Entry :=
  u.entries[id]?

/-- What a node is. -/
def kind (id : Nat) : Kind :=
  (u.entry? id).elim .unknown (·.facts.kind)

/-- The tag of a node. -/
def tag (id : Nat) : Tag :=
  (u.kind id).tag

/-- The type of a node. -/
def type? (id : Nat) : Option TypeRef :=
  (u.entry? id).bind (·.facts.ty)

/-- The parent of a node. -/
def parent? (id : Nat) : Option Nat :=
  (u.entry? id).bind (·.parent)

/-- The children of a node. -/
def children (id : Nat) : List Nat :=
  (u.entry? id).elim [] (·.children)

/-- The first number after the subtree of a node. -/
def subtreeEnd (id : Nat) : Nat :=
  (u.entry? id).elim 0 (·.subtreeEnd)

/-- All nodes in preorder. -/
def preorder : List Nat :=
  List.range u.size

/-- The nodes above a node, nearest first. A parent has a smaller number than its children. -/
def ancestors (id : Nat) : List Nat :=
  match u.parent? id with
  | some parent => if parent < id then parent :: ancestors parent else []
  | none => []
termination_by id

/-- The nodes below a node, in preorder. -/
def descendants (id : Nat) : List Nat :=
  List.range' (id + 1) (u.subtreeEnd id - (id + 1))

/-- Whether a node is below another. -/
def isBelow (id ancestor : Nat) : Bool :=
  ancestor < id && id < u.subtreeEnd ancestor

/-- The expression that was written, below the wrappers that a compiler puts around it. A child has
a greater number than its parent. -/
def skipImplicit (id : Nat) : Nat :=
  if (u.tag id).isImplicitWrapper then
    match (u.children id).head? with
    | some child => if id < child ∧ child < u.size then skipImplicit child else id
    | none => id
  else id
termination_by u.size - id

/-- The arguments of a call: the children, without the object of a member call. -/
def arguments (id : Nat) : List Nat :=
  match u.tag id with
  | .memberCallExpr => (u.children id).drop 1
  | _ => u.children id

/-- Whether a node declares a variable or a parameter with the given name. -/
def declaresVariable (name : String) (id : Nat) : Bool :=
  (u.kind id).variableName? = some name

/-- The last declaration of a variable before `before` among the children of a scope. -/
def declarationIn? (name : String) (before scope : Nat) : Option Nat :=
  (((u.children scope).takeWhile (· < before)).filter (u.declaresVariable name)).getLast?

/-- The variable or parameter that a reference names: the last declaration before it in the nearest
scope that has one. -/
def declaration? (id : Nat) : Option Nat :=
  match u.kind id with
  | .declRefExpr name => (u.ancestors id).findSome? (u.declarationIn? name id)
  | _ => none

/-- The range of a node that was written in the main file and lies within it. -/
def mainFileRange? (id : Nat) : Option SourceRange :=
  (u.entry? id).bind fun entry =>
    match entry.facts.file with
    | some _ => none
    | none =>
      entry.facts.range.filter fun r =>
        r.first ≤ r.last && Text.hasBytes r.last.toNat u.source

/-- The source text of a node. -/
def text? (id : Nat) : Option (List Char) :=
  (u.mainFileRange? id).bind fun r => Text.slice? u.source r.first.toNat r.last.toNat

/-- The position of an offset in the source text. -/
def position (offset : Nat) : Text.Position :=
  .ofOffset u.source offset

/-- The methods that a class declares: those of the last record with its name. -/
def methods? (className : String) : Option (List String) :=
  ((u.records.filter (·.name = className)).getLast?).map (·.methods)

/-- Whether a class declares a method. -/
def declares (className method : String) : Bool :=
  (u.methods? className).any (·.contains method)

end TranslationUnit

end CppAdvice
