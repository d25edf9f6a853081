import CppAdvice.Document.Parts
import CppAdvice.Json.Parser

/-!
# Loading documents

A document is read from the front. The range, file, type and children of a node are read where they
stand; all its other members are kept until the node closes, since only its kind says what they
mean.
-/

namespace CppAdvice.Document

open CppAdvice.Tree

/-- What is known of a node while its members are read. -/
structure NodeDraft where
  range : Option (Option SourceRange) := none
  file : Option (Option String) := none
  ty : Option (Option TypeRef) := none
  children : Option (List Node) := none
  /-- The other members, latest first. -/
  kept : List (Json.Key × Json) := []

namespace NodeDraft

/-- Reads a value for a part of the node that has not been given before. -/
def readOnce {α : Type} (name : String) (known : Option α) (read : Json → Reading α) (v : Json) :
    Reading α :=
  if known.isSome then misshapen (.duplicateField name) else read v

/-- Reads a member other than the children. -/
def readMember (d : NodeDraft) (depth : Nat) (name : String) (v : Json) : Reading NodeDraft :=
  if name = "range" then do
    let r ← readOnce name d.range (readOption (rangeRecord.read ⟨0, 0⟩ depth)) v
    return { d with range := some r }
  else if name = "file" then do
    let s ← readOnce name d.file (readOption readString) v
    return { d with file := some s }
  else if name = "ty" then do
    let ty ← readOnce name d.ty (readOption (readType depth)) v
    return { d with ty := some ty }
  else if v.readable (depthLimit - depth) then
    return { d with kept := (.name name, v) :: d.kept }
  else .error .malformed

/-- Makes the node once its members have been read. -/
def close (d : NodeDraft) : Reading Node := do
  let members := d.kept.reverse
  let tag ← readTag members none
  let kind ← readKind members tag
  let facts : Facts :=
    { kind, range := d.range.getD none, file := d.file.getD none, ty := d.ty.getD none }
  return .mk facts (d.children.getD [])

end NodeDraft

mutual

/-- Reads a node; `depth` arrays and objects are open around it. -/
def readNode (depth : Nat) : Json → Reading Node
  | .object members =>
    if depth < depthLimit then do
      let d ← readNodeMembers (depth + 1) members {}
      d.close
    else .error .malformed
  | v => wrongType (.record "AstNode") v

/-- Reads the members of a node one after another. -/
def readNodeMembers (depth : Nat) : List (Json.Key × Json) → NodeDraft → Reading NodeDraft
  | [], d => .ok d
  | (.name name, v) :: members, d =>
    if name = "children" then
      if d.children.isSome then misshapen (.duplicateField name)
      else match v with
        | .array items =>
          if depth < depthLimit then do
            let children ← readNodes (depth + 1) items
            readNodeMembers depth members { d with children := some children }
          else .error .malformed
        | v => wrongType .sequence v
    else do
      let d ← d.readMember depth name v
      readNodeMembers depth members d
  | _ :: _, _ => .error .malformed

/-- Reads the children of a node. -/
def readNodes (depth : Nat) : List Json → Reading (List Node)
  | [] => .ok []
  | v :: items => do
    let node ← readNode depth v
    let nodes ← readNodes depth items
    return node :: nodes

end

/-- A document, of which only the root has to be there. -/
def documentRecord : Record Document where
  name := "AstDocument"
  fields :=
    [.optional "file" readString fun s d => { d with file := s },
      .optional "source" readString fun s d => { d with source := s },
      .optional "language" (readOption (flagsRecord.read {} 1)) fun f d => { d with language := f },
      .optional "records" (readList (fun depth =>
        (classRecord (depth + 1)).read { name := "" } depth) 1)
        fun rs d => { d with records := rs },
      .needed "root" (readNode 1) fun root d => { d with root := root }]

/-- The document that a value describes; `alone` says that nothing stands after the value. -/
def ofJson (v : Json) (alone : Bool := true) : Reading Document := do
  let d ← documentRecord.read { root := .mk { kind := .translationUnitDecl } [] } 0 v
  if !alone then .error .malformed
  else if d.root.facts.kind = .translationUnitDecl then return d
  else .error (.wrongRoot d.root.facts.kind.tag.name)

/-- The document that a text describes. -/
def load (text : String) : Reading Document :=
  let (v, alone) := Json.parse text
  ofJson v alone

end CppAdvice.Document
