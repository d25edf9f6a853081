import CppAdvice.Document.Write
import CppAdvice.Proofs.JsonText
import CppAdvice.Proofs.Reading

/-!
# Written documents are loaded again

Writing a document and loading its text gives the document back, as long as its tree is at most 63
nodes high; a higher tree opens more arrays and objects than a text may have open, and the text is
refused (`load_toJson`). Every part of a document is read back from what is written for it; the
trees are compared level by level, two open arrays or objects to each (`readNode_writeNode`). A
loaded tree is never higher (`levels_of_readNode`).
-/

namespace CppAdvice

namespace Tree.Node

mutual

/-- The number of nodes on the longest way down. -/
def levels : Node → Nat
  | mk _ children => levelsAll children + 1

/-- The number of levels of the deepest of several trees. -/
def levelsAll : List Node → Nat
  | [] => 0
  | node :: nodes => max node.levels (levelsAll nodes)

end

end Tree.Node

namespace Document

open CppAdvice.Tree

/-- The members of an object, each under its name. -/
def keyed (members : List (String × Json)) : List (Json.Key × Json) :=
  members.map fun (k, v) => (.name k, v)

/-! ## Choices -/

/-- An optional value is read back if values are, and none of them is written as null. -/
lemma readOption_writeOption {α : Type} {read : Json → Reading α} {write : α → Json}
    (h : ∀ a, read (write a) = .ok a) (hnull : ∀ a, write a ≠ .null) (a : Option α) :
    readOption read (writeOption write a) = .ok a := by
  cases a with
  | none => rfl
  | some a => rw [writeOption, readOption.eq_2 _ _ (hnull a), h]; rfl

/-- A kind of reference is read back. -/
lemma read_reference (depth : Nat) (r : Reference) :
    references.read depth (writeChoice references r) = .ok r := by
  cases r <;> rfl

/-- A kind of reference is read back from what was kept of a node. -/
lemma readKept_reference (r : Reference) :
    references.readKept (writeChoice references r) = .ok r := by
  cases r <;> rfl

/-- A role is read back. -/
lemma readKept_role (r : FunctionRole) : roles.readKept (writeChoice roles r) = .ok r := by
  cases r <;> rfl

/-- A special member is read back. -/
lemma readKept_special (s : SpecialMember) :
    specials.readKept (writeChoice specials s) = .ok s := by
  cases s <;> rfl

/-- An optional text is read back. -/
lemma readOption_string (s : Option String) :
    readOption readString (writeOption Json.ofString s) = .ok s := by
  cases s <;> rfl

/-! ## Parts of a document -/

/-- A range is read back where there is room for it. -/
lemma read_range {depth : Nat} (h : depth < depthLimit) (r : SourceRange) :
    rangeRecord.read ⟨0, 0⟩ depth (writeRange r) = .ok r := by
  rw [writeRange, Json.ofMembers, Record.read, if_pos h]
  rfl

/-- Language flags are read back where there is room for them. -/
lemma read_flags {depth : Nat} (h : depth < depthLimit) (flags : Language.Flags) :
    flagsRecord.read {} depth (writeFlags flags) = .ok flags := by
  rw [writeFlags, Json.ofMembers, Record.read, if_pos h]
  rfl

/-- The members that a type is written with are read back, if references are. -/
lemma readObject_type {readReference : Json → Reading Reference}
    (h : ∀ r, readReference (writeChoice references r) = .ok r) (ty : TypeRef) :
    ∃ members, writeType ty = .object members ∧
      (typeRecord readReference).readObject {} members = .ok ty := by
  refine ⟨_, rfl, ?_⟩
  rw [Record.readObject]
  simp only [List.map_cons, List.map_nil]
  rw [Record.readMembers_field rfl (by decide) rfl,
    Record.readMembers_field rfl (by decide) (Field.read_optional (readOption_string ty.decl) _ _),
    Record.readMembers_field rfl (by decide) rfl,
    Record.readMembers_field rfl (by decide) (Field.read_optional (h ty.reference) _ _),
    Record.readMembers_field rfl (by decide) rfl, Record.readMembers_field rfl (by decide) rfl,
    Record.readMembers_field rfl (by decide) rfl]
  rfl

/-- A type is read back where there is room for it. -/
lemma readType_writeType {depth : Nat} (h : depth < depthLimit) (ty : TypeRef) :
    readType depth (writeType ty) = .ok ty := by
  obtain ⟨members, hwrite, hread⟩ := readObject_type (read_reference (depth + 1)) ty
  rw [readType, hwrite, Record.read, if_pos h, hread]

/-- A type is read back from what was kept of a node. -/
lemma readKeptType_writeType (ty : TypeRef) : readKeptType (writeType ty) = .ok ty := by
  obtain ⟨members, hwrite, hread⟩ := readObject_type readKept_reference ty
  rw [readKeptType, hwrite, Record.readKept, hread]

/-- An optional type is read back. -/
lemma readOption_type (ty : Option TypeRef) :
    readOption readKeptType (writeOption writeType ty) = .ok ty :=
  readOption_writeOption readKeptType_writeType (fun _ => nofun) ty

/-! ## Kinds -/

/-- The tag of a kind is found in the members that the kind is written with. -/
lemma readTag_writeKind (kind : Kind) : readTag (keyed (writeKind kind)) none = .ok kind.tag := by
  cases kind <;> rfl

/-- A function is read back from the members of its kind. -/
lemma readObject_function (f : Function) :
    functionRecord.readObject { name := "" } (keyed (writeKind (.functionDecl f))) = .ok f := by
  rw [Record.readObject, writeKind, kindMembers, keyed]
  simp only [List.map_cons, List.map_nil]
  -- The kind is no field of the record; all that follows is, in order.
  rw [Record.readMembers_other rfl rfl, Record.readMembers_field rfl (by decide) rfl,
    Record.readMembers_field rfl (by decide) (Field.read_optional (readOption_type f.returns) _ _),
    Record.readMembers_field rfl (by decide) (Field.read_optional (readKept_role f.role) _ _),
    Record.readMembers_field rfl (by decide) (Field.read_optional (readKept_special f.special) _ _),
    Record.readMembers_field rfl (by decide) rfl, Record.readMembers_field rfl (by decide) rfl,
    Record.readMembers_field rfl (by decide) rfl, Record.readMembers_field rfl (by decide) rfl]
  rfl

/-- A kind is read back from its members, given its tag. -/
lemma readKind_writeKind (kind : Kind) : readKind (keyed (writeKind kind)) kind.tag = .ok kind := by
  cases kind with
  | functionDecl f => rw [Kind.tag, readKind, readObject_function]; rfl
  | varDecl name storage => cases storage <;> rfl
  | callExpr callee => cases callee <;> rfl
  | memberCallExpr call =>
    obtain ⟨method, className, isVirtual⟩ := call
    cases className <;> rfl
  | operatorCallExpr op => cases op <;> rfl
  | binaryOperator op => cases op <;> rfl
  | rewrittenBinaryOperator op => cases op <;> rfl
  | constructExpr c => cases c <;> rfl
  | _ => rfl

/-- The members that stand for a kind are kept until the node closes. -/
lemma name_of_mem_writeKind {kind : Kind} {m : String × Json} (h : m ∈ writeKind kind) :
    m.1 ≠ "range" ∧ m.1 ≠ "file" ∧ m.1 ≠ "ty" ∧ m.1 ≠ "children" := by
  have hnames : ∀ k ∈ (writeKind kind).map (·.1), k ≠ "range" ∧ k ≠ "file" ∧ k ≠ "ty" ∧
      k ≠ "children" := by
    cases kind <;> simp [writeKind, kindMembers]
  exact hnames m.1 (List.mem_map_of_mem h)

section

variable {α : Type} (room : Nat)

/-- A text takes no room. -/
@[simp]
lemma readable_ofString (s : String) : (Json.ofString s).readable room = true := rfl

/-- A number takes no room. -/
@[simp]
lemma readable_writeNatural (n : UInt64) : (writeNatural n).readable room = true := rfl

/-- A choice takes no room. -/
@[simp]
lemma readable_writeChoice [DecidableEq α] (c : Choice α) (a : α) :
    (writeChoice c a).readable room = true := rfl

/-- An optional value takes no more room than values do. -/
lemma readable_writeOption {write : α → Json} (h : ∀ a, (write a).readable room = true)
    (a : Option α) : (writeOption write a).readable room = true := by
  cases a with
  | none => rfl
  | some a => exact h a

/-- An optional text takes no room. -/
@[simp]
lemma readable_text (s : Option String) : (writeOption Json.ofString s).readable room = true :=
  readable_writeOption room (fun _ => rfl) s

end

/-- A type takes one level. -/
lemma readable_writeType {room : Nat} (h : 0 < room) (ty : TypeRef) :
    (writeType ty).readable room = true := by
  simp [writeType, Json.ofMembers, Json.readable, Json.readableMembers, h]

/-- What is written for a kind opens at most one object at a time. -/
lemma readable_of_mem_writeKind {kind : Kind} {m : String × Json} (h : m ∈ writeKind kind)
    {room : Nat} (hroom : 0 < room) : m.2.readable room = true := by
  have hvalues : ∀ v ∈ (writeKind kind).map (·.2), v.readable room = true := by
    cases kind <;>
      simp [writeKind, kindMembers, readable_writeOption room (readable_writeType hroom),
        Json.readable]
  exact hvalues m.2 (List.mem_map_of_mem h)

/-! ## Nodes -/

/-- Members with other names than those of a node are kept as they come. -/
lemma readNodeMembers_kept {depth : Nat} {members : List (String × Json)}
    (hnames : ∀ m ∈ members, m.1 ≠ "range" ∧ m.1 ≠ "file" ∧ m.1 ≠ "ty" ∧ m.1 ≠ "children")
    (hreadable : ∀ m ∈ members, m.2.readable (depthLimit - depth) = true)
    (rest : List (Json.Key × Json)) (d : NodeDraft) :
    readNodeMembers depth (keyed members ++ rest) d =
      readNodeMembers depth rest { d with kept := (keyed members).reverse ++ d.kept } := by
  induction members generalizing d with
  | nil => rfl
  | cons m members ih =>
    obtain ⟨hrange, hfile, hty, hchildren⟩ := hnames m List.mem_cons_self
    have hread :
        d.readMember depth m.1 m.2 = .ok { d with kept := (.name m.1, m.2) :: d.kept } := by
      rw [NodeDraft.readMember, if_neg hrange, if_neg hfile, if_neg hty,
        if_pos (hreadable m List.mem_cons_self)]
      rfl
    rw [keyed, List.map_cons, List.cons_append, readNodeMembers_of_ne hchildren, hread,
      List.reverse_cons, List.append_assoc]
    exact ih (fun m hm => hnames m (List.mem_cons_of_mem _ hm)) (fun m hm =>
      hreadable m (List.mem_cons_of_mem _ hm)) _

/-- A part of a node that is only written when there is one. -/
lemma readNodeMembers_part {α : Type} {depth : Nat} {name : String} (hname : name ≠ "children")
    {write : α → Json} {part : Option α} {d d' : NodeDraft} (hnone : part = none → d = d')
    (hsome : ∀ a, part = some a → d.readMember depth name (write a) = .ok d')
    (rest : List (Json.Key × Json)) :
    readNodeMembers depth (keyed (part.map fun a => (name, write a)).toList ++ rest) d =
      readNodeMembers depth rest d' := by
  cases part with
  | none => rw [hnone rfl]; rfl
  | some a =>
    rw [Option.map_some, Option.toList_some, keyed, List.map_singleton, List.singleton_append,
      readNodeMembers_of_ne hname, hsome a rfl]
    rfl

/-- All that is known of a node, apart from its children, is read from what is written for it. -/
lemma readNodeMembers_writeFacts {depth : Nat} (h : depth < depthLimit) (facts : Facts)
    (rest : List (Json.Key × Json)) :
    readNodeMembers depth (keyed (writeFacts facts) ++ rest) {} =
      readNodeMembers depth rest
        { range := facts.range.map some
          file := facts.file.map some
          ty := facts.ty.map some
          kept := (keyed (writeKind facts.kind)).reverse } := by
  obtain ⟨kind, range, file, ty⟩ := facts
  have hkept := @readNodeMembers_kept depth (writeKind kind) (fun _ => name_of_mem_writeKind)
    (fun m hm => readable_of_mem_writeKind hm (by omega))
  let withRange : NodeDraft := { range := range.map some, kept := (keyed (writeKind kind)).reverse }
  let withFile : NodeDraft := { withRange with file := file.map some }
  rw [writeFacts, keyed, List.map_append, List.map_append, List.map_append, List.append_assoc,
    List.append_assoc, List.append_assoc, ← keyed, ← keyed, ← keyed, ← keyed, hkept]
  rw [@readNodeMembers_part _ depth _ (by decide) _ _ _ withRange ?range_none ?range_some,
    @readNodeMembers_part _ depth _ (by decide) _ _ _ withFile ?file_none ?file_some,
    readNodeMembers_part (by decide) ?ty_none ?ty_some]
  case range_none => rintro rfl; simp [withRange]
  case file_none => rintro rfl; rfl
  case ty_none => rintro rfl; rfl
  case range_some =>
    rintro r rfl
    have hread : readOption (rangeRecord.read ⟨0, 0⟩ depth) (writeRange r) = .ok (some r) :=
      readOption_writeOption (read_range h) (fun _ hnull => by cases hnull) (some r)
    simp [NodeDraft.readMember, NodeDraft.readOnce, hread, withRange]
  case file_some =>
    rintro s rfl
    simp [NodeDraft.readMember, NodeDraft.readOnce, withRange, withFile]
    rfl
  case ty_some =>
    rintro ty rfl
    have hread : readOption (readType depth) (writeType ty) = .ok (some ty) :=
      readOption_writeOption (readType_writeType h) (fun _ hnull => by cases hnull) (some ty)
    simp [NodeDraft.readMember, NodeDraft.readOnce, hread, withFile, withRange]

/-- The draft that the facts of a node are collected in is closed to the node. -/
lemma close_writeFacts (facts : Facts) (children : Option (List Node)) :
    NodeDraft.close
      { range := facts.range.map some
        file := facts.file.map some
        ty := facts.ty.map some
        children
        kept := (keyed (writeKind facts.kind)).reverse } = .ok (.mk facts (children.getD [])) := by
  have hpart : ∀ {α : Type} (part : Option α), (part.map some).getD none = part := by
    intro α part
    cases part <;> rfl
  simp only [NodeDraft.close, List.reverse_reverse, readTag_writeKind, readKind_writeKind,
    hpart, ok_bind]
  rfl

mutual

/-- A written tree is read back if there is room for all its levels, each of which opens two arrays
or objects, and refused otherwise. -/
theorem readNode_writeNode : ∀ (node : Node) {depth : Nat}, depth % 2 = 1 → depth ≤ depthLimit →
    readNode depth (writeNode node) =
      if depth + 2 * node.levels ≤ depthLimit then .ok node else .error .malformed
  | .mk facts [], depth, hodd, hdepth => by
    have hlimit : depthLimit = 127 := rfl
    rw [writeNode, Json.ofMembers, ← keyed, readNode, Node.levels, Node.levelsAll]
    by_cases hroom : depth < depthLimit
    · have hfacts := @readNodeMembers_writeFacts (depth + 1) (by omega) facts []
      rw [List.append_nil, readNodeMembers] at hfacts
      rw [if_pos hroom, if_pos (by omega), hfacts, ok_bind]
      exact close_writeFacts facts none
    · rw [if_neg hroom, if_neg (by omega)]
  | .mk facts (child :: children), depth, hodd, hdepth => by
    have hlimit : depthLimit = 127 := rfl
    rw [writeNode, Json.ofMembers, ← keyed, readNode, Node.levels]
    by_cases hroom : depth < depthLimit
    · have hfacts := @readNodeMembers_writeFacts (depth + 1) (by omega) facts
        [(.name "children", .array (writeNodes (child :: children)))]
      have hchildren :=
        @readNodes_writeNodes (child :: children) (depth + 1 + 1) (by omega) (by omega)
      rw [readNodeMembers_children (by omega) rfl, hchildren] at hfacts
      rw [if_pos hroom, keyed, List.map_append, ← keyed, List.map_singleton, hfacts]
      by_cases hdeep : depth + 1 + 1 + 2 * Node.levelsAll (child :: children) ≤ depthLimit
      · rw [if_pos hdeep, if_pos (by omega), ok_bind, readNodeMembers]
        exact close_writeFacts facts (some (child :: children))
      · rw [if_neg hdeep, if_neg (by omega)]
        rfl
    · rw [if_neg hroom, if_neg (by omega)]

/-- Trees side by side are read back if the deepest of them fits. -/
theorem readNodes_writeNodes : ∀ (nodes : List Node) {depth : Nat}, depth % 2 = 1 →
    depth ≤ depthLimit →
    readNodes depth (writeNodes nodes) =
      if depth + 2 * Node.levelsAll nodes ≤ depthLimit then .ok nodes else .error .malformed
  | [], depth, _, hdepth => by
    rw [writeNodes, readNodes, Node.levelsAll, if_pos (by omega)]
  | node :: nodes, depth, hodd, hdepth => by
    rw [writeNodes, readNodes, readNode_writeNode node hodd hdepth,
      readNodes_writeNodes nodes hodd hdepth, Node.levelsAll]
    by_cases hnode : depth + 2 * node.levels ≤ depthLimit
    · by_cases hnodes : depth + 2 * Node.levelsAll nodes ≤ depthLimit
      · rw [if_pos hnode, if_pos hnodes, if_pos (by omega)]
        rfl
      · rw [if_pos hnode, if_neg hnodes, if_neg (by omega)]
        rfl
    · rw [if_neg hnode, error_bind, if_neg (by omega)]

end

/-! ## Documents -/

/-- Values one after another are read back if each is. -/
lemma mapM_map {α : Type} {read : Json → Reading α} {write : α → Json}
    (h : ∀ a, read (write a) = .ok a) (as : List α) : (as.map write).mapM read = .ok as := by
  induction as with
  | nil => rfl
  | cons a as ih =>
    rw [List.map_cons, List.mapM_cons, h, ih]
    rfl

/-- The record of a class is read back where there is room for its list. -/
lemma read_class {depth : Nat} (h : depth + 1 < depthLimit) (r : ClassRecord) :
    (classRecord (depth + 1)).read { name := "" } depth (writeClass r) = .ok r := by
  have hmethods :
      readList (fun _ => readString) (depth + 1) (.array (r.methods.map Json.ofString)) =
      .ok r.methods := by
    rw [readList, if_pos h]
    exact @mapM_map _ readString _ (fun _ => rfl) r.methods
  rw [writeClass, Json.ofMembers, Record.read, if_pos (by omega), Record.readObject]
  simp only [List.map_cons, List.map_nil]
  rw [Record.readMembers_field rfl (by decide) rfl,
    Record.readMembers_field rfl (by decide) (Field.read_optional hmethods _ _)]
  rfl

/-- What is read from a written document, before its root is looked at. -/
lemma read_document (start d : Document) :
    documentRecord.read start 0 (toJson d) =
      if d.root.levels ≤ 63 then .ok d else .error .malformed := by
  have hflags : readOption (flagsRecord.read {} 1) (writeOption writeFlags d.language) =
      .ok d.language :=
    readOption_writeOption (read_flags (by decide)) (fun _ => nofun) d.language
  have hrecords : readList (fun depth => (classRecord (depth + 1)).read { name := "" } depth) 1
      (.array (d.records.map writeClass)) = .ok d.records := by
    rw [readList, if_pos (by decide)]
    exact mapM_map (read_class (by decide)) d.records
  have hroot := @readNode_writeNode d.root 1 rfl (by decide)
  have hlimit : depthLimit = 127 := rfl
  rw [toJson, Json.ofMembers, Record.read, if_pos (by decide), Record.readObject]
  simp only [List.map_cons, List.map_nil]
  rw [Record.readMembers_field rfl (by decide) rfl, Record.readMembers_field rfl (by decide) rfl,
    Record.readMembers_field rfl (by decide) (Field.read_optional hflags _ _),
    Record.readMembers_field rfl (by decide) (Field.read_optional hrecords _ _)]
  by_cases hlevels : d.root.levels ≤ 63
  · rw [if_pos (by omega)] at hroot
    rw [if_pos hlevels, Record.readMembers_field rfl (by decide) (Field.read_needed hroot _ _)]
    rfl
  · rw [if_neg (by omega)] at hroot
    rw [if_neg hlevels,
      Record.readMembers_fault rfl (by decide) (Field.read_needed_fault hroot _ _)]
    rfl

/-! ## Loaded trees -/

/-- A member of a node does not touch its children, other than the member that holds them. -/
lemma children_of_readMember {d d' : NodeDraft} {depth : Nat} {name : String} {v : Json}
    (h : d.readMember depth name v = .ok d') : d'.children = d.children := by
  rw [NodeDraft.readMember] at h
  split_ifs at h
  · obtain ⟨r, -, ⟨⟩⟩ := bind_eq_ok.1 h
    rfl
  · obtain ⟨s, -, ⟨⟩⟩ := bind_eq_ok.1 h
    rfl
  · obtain ⟨ty, -, ⟨⟩⟩ := bind_eq_ok.1 h
    rfl
  · cases h
    rfl

/-- A node has the children that were read for it. -/
lemma children_of_close {d : NodeDraft} {node : Node} (h : d.close = .ok node) :
    ∃ facts, node = .mk facts (d.children.getD []) := by
  obtain ⟨tag, -, h⟩ := bind_eq_ok.1 h
  obtain ⟨kind, -, ⟨⟩⟩ := bind_eq_ok.1 h
  exact ⟨_, rfl⟩

mutual

/-- No tree is read that opens more arrays and objects than may be open. -/
theorem levels_of_readNode : ∀ (v : Json) {depth : Nat} {node : Node},
    readNode depth v = .ok node → depth + 2 * node.levels ≤ depthLimit + 1
  | .object members, depth, node, h => by
    obtain ⟨_, ⟨⟩, hdepth, d, hmembers, hclose⟩ := readNode_eq_ok.1 h
    obtain ⟨facts, rfl⟩ := children_of_close hclose
    have hlevels := levels_of_readNodeMembers members hmembers (by simp [Node.levelsAll]; omega)
    rw [Node.levels]
    omega
  | .null, _, _, h | .bool _, _, _, h | .number _, _, _, h | .string _, _, _, h | .array _, _, _, h
  | .broken, _, _, h => by
    obtain ⟨_, ⟨⟩, _⟩ := readNode_eq_ok.1 h

/-- The members of a node leave no more levels below it than there is room for. -/
theorem levels_of_readNodeMembers :
    ∀ (members : List (Json.Key × Json)) {depth : Nat} {d d' : NodeDraft},
    readNodeMembers depth members d = .ok d' →
    depth + 2 * Node.levelsAll (d.children.getD []) ≤ depthLimit →
    depth + 2 * Node.levelsAll (d'.children.getD []) ≤ depthLimit
  | [], _, _, _, h, hd => by cases h; exact hd
  | (.name name, v) :: members, depth, d, d', h, hd => by
    by_cases hname : name = "children"
    · subst hname
      obtain ⟨items, rfl, hdepth, -, children, hitems, h⟩ := readNodeMembers_children_ok h
      have hlevels := levels_of_readNodes items hitems (by omega)
      exact levels_of_readNodeMembers members h (by rw [Option.getD_some]; omega)
    · rw [readNodeMembers_of_ne hname] at h
      obtain ⟨d₁, hmember, h⟩ := bind_eq_ok.1 h
      exact levels_of_readNodeMembers members h (children_of_readMember hmember ▸ hd)
  | (.garbled, _) :: _, _, _, _, h, _ | (.missing, _) :: _, _, _, _, h, _ => by cases h

/-- Trees side by side have no more levels than there is room for. -/
theorem levels_of_readNodes : ∀ (items : List Json) {depth : Nat} {nodes : List Node},
    readNodes depth items = .ok nodes → depth ≤ depthLimit →
      depth + 2 * Node.levelsAll nodes ≤ depthLimit + 1
  | [], _, _, h, hdepth => by
    cases h
    rw [Node.levelsAll]
    omega
  | v :: items, depth, nodes, h, hdepth => by
    rw [readNodes] at h
    obtain ⟨node, hnode, h⟩ := bind_eq_ok.1 h
    obtain ⟨rest, hrest, ⟨⟩⟩ := bind_eq_ok.1 h
    have hfirst := levels_of_readNode v hnode
    have hothers := levels_of_readNodes items hrest hdepth
    rw [Node.levelsAll]
    omega

end

/-- A document that was read has at most 63 levels, and the root of a unit. -/
lemma levels_of_ofJson {v : Json} {alone : Bool} {d : Document} (h : ofJson v alone = .ok d) :
    d.root.levels ≤ 63 ∧ d.root.facts.kind = .translationUnitDecl := by
  obtain ⟨d', hread, h⟩ := bind_eq_ok.1 h
  split_ifs at h with halone hkind
  cases h
  refine ⟨?_, hkind⟩
  have hlimit : depthLimit = 127 := rfl
  refine @Record.holds_of_read _ documentRecord _ _ (fun d => d.root.levels ≤ 63) ?_ _ ?_ _ hread
  · have hother : ∀ {α : Type} {name : String} {read : Json → Reading α} {set : α →
        Document → Document}, (∀ a d, (set a d).root = d.root) → ∀ {v d d'}, d.root.levels ≤ 63 →
        (Field.optional name read set).read v d = .ok d' → d'.root.levels ≤ 63 := by
      intro α name read set hset v d d' hd hread
      obtain ⟨a, -, rfl⟩ := map_eq_ok.1 hread
      rwa [hset]
    simp only [documentRecord, List.forall_mem_cons, List.not_mem_nil, false_implies,
      implies_true, and_true]
    refine ⟨hother ?_, hother ?_, hother ?_, hother ?_, ?_⟩
    iterate 4 exact fun _ _ => rfl
    intro v d d' _ hread
    obtain ⟨root, hroot, rfl⟩ := map_eq_ok.1 hread
    have hlevels := levels_of_readNode v hroot
    simp only
    omega
  · decide

/-! ## Texts -/

/-- Items are plain if each of them is. -/
lemma arePlain_eq_all (items : List Json) : Json.arePlain items = items.all Json.isPlain := by
  induction items with
  | nil => rfl
  | cons v items ih => rw [Json.arePlain, ih, List.all_cons]

/-- Members are plain if each value is. -/
lemma arePlainMembers_keyed (members : List (String × Json)) :
    Json.arePlainMembers (keyed members) = members.all (·.2.isPlain) := by
  induction members with
  | nil => rfl
  | cons m members ih => rw [keyed, List.map_cons, Json.arePlainMembers, ← keyed, ih, List.all_cons]

/-- An object is plain if the values of its members are. -/
lemma isPlain_ofMembers (members : List (String × Json)) :
    (Json.ofMembers members).isPlain = members.all (·.2.isPlain) :=
  arePlainMembers_keyed members

section

variable {α : Type}

/-- A text is plain. -/
@[simp]
lemma isPlain_ofString (s : String) : (Json.ofString s).isPlain = true := rfl

/-- A number is plain. -/
@[simp]
lemma isPlain_writeNatural (n : UInt64) : (writeNatural n).isPlain = true := rfl

/-- A choice is plain. -/
@[simp]
lemma isPlain_writeChoice [DecidableEq α] (c : Choice α) (a : α) :
    (writeChoice c a).isPlain = true := rfl

/-- An optional value is plain if values are. -/
lemma isPlain_writeOption {write : α → Json} (h : ∀ a, (write a).isPlain = true) (a : Option α) :
    (writeOption write a).isPlain = true := by
  cases a with
  | none => rfl
  | some a => exact h a

/-- An optional text is plain. -/
@[simp]
lemma isPlain_text (s : Option String) : (writeOption Json.ofString s).isPlain = true :=
  isPlain_writeOption isPlain_ofString s

end

/-- A type is written plainly. -/
lemma isPlain_writeType (ty : TypeRef) : (writeType ty).isPlain = true := by
  simp [writeType, isPlain_ofMembers, Json.isPlain]

/-- What a kind is written with is plain. -/
lemma isPlain_of_mem_writeKind {kind : Kind} {m : String × Json} (h : m ∈ writeKind kind) :
    m.2.isPlain = true := by
  have hvalues : ∀ v ∈ (writeKind kind).map (·.2), v.isPlain = true := by
    cases kind <;> simp [writeKind, kindMembers, isPlain_writeOption, isPlain_writeType,
      Json.isPlain]
  exact hvalues m.2 (List.mem_map_of_mem h)

/-- What the facts of a node are written with is plain. -/
lemma isPlain_of_mem_writeFacts {facts : Facts} {m : String × Json} (h : m ∈ writeFacts facts) :
    m.2.isPlain = true := by
  obtain ⟨kind, range, file, ty⟩ := facts
  simp only [writeFacts, List.mem_append, Option.mem_toList, Option.map_eq_some_iff] at h
  obtain ((hkind | ⟨r, -, rfl⟩) | ⟨s, -, rfl⟩) | ⟨ty, -, rfl⟩ := h
  · exact isPlain_of_mem_writeKind hkind
  · rfl
  · rfl
  · exact isPlain_writeType ty

mutual

/-- A tree is written plainly. -/
theorem isPlain_writeNode : ∀ node : Node, (writeNode node).isPlain = true
  | .mk facts [] => by
    rw [writeNode, isPlain_ofMembers, List.all_eq_true]
    exact fun m => isPlain_of_mem_writeFacts
  | .mk facts (child :: children) => by
    rw [writeNode, isPlain_ofMembers, List.all_append,
      List.all_eq_true.2 fun m => isPlain_of_mem_writeFacts, List.all_cons, Json.isPlain,
      arePlain_writeNodes (child :: children)]
    rfl

/-- Trees side by side are written plainly. -/
theorem arePlain_writeNodes : ∀ nodes : List Node, Json.arePlain (writeNodes nodes) = true
  | [] => rfl
  | node :: nodes => by
    rw [writeNodes, Json.arePlain, isPlain_writeNode node, arePlain_writeNodes nodes]
    rfl

end

/-- The record of a class is written plainly. -/
lemma isPlain_writeClass (r : ClassRecord) : (writeClass r).isPlain = true := by
  simp [writeClass, isPlain_ofMembers, Json.isPlain, arePlain_eq_all]

/-- A document is written plainly. -/
lemma isPlain_toJson (d : Document) : (toJson d).isPlain = true := by
  have hflags : ∀ flags, (writeFlags flags).isPlain = true := fun _ => rfl
  simp [toJson, isPlain_ofMembers, isPlain_writeOption, hflags, isPlain_writeNode,
    isPlain_writeClass, Json.isPlain, arePlain_eq_all]

/-- A document that is written and loaded is the same again, unless it has too many levels or
another root. -/
lemma load_render (d : Document) : load (toJson d).render =
    if d.root.levels ≤ 63 then
      if d.root.facts.kind = .translationUnitDecl then .ok d
        else .error (.wrongRoot d.root.facts.kind.tag.name)
    else .error .malformed := by
  rw [load, Json.parse_render (isPlain_toJson d)]
  simp only [ofJson, read_document]
  by_cases hlevels : d.root.levels ≤ 63
  · rw [if_pos hlevels, if_pos hlevels, ok_bind]
    rfl
  · rw [if_neg hlevels, if_neg hlevels, error_bind]

/-- Loading undoes writing, for every document whose tree is at most 63 nodes high, and so for every
document that was loaded; a document with a higher tree is written to a text that is not well
formed. -/
theorem load_toJson (d : Document) :
    (d.root.facts.kind = .translationUnitDecl → d.root.levels ≤ 63 →
      load (toJson d).render = .ok d) ∧
      (∀ text, load text = .ok d → load (toJson d).render = .ok d) ∧
      (64 ≤ d.root.levels → load (toJson d).render = .error .malformed) := by
  refine ⟨fun hkind hlevels => ?_, fun text hload => ?_, fun hlevels => ?_⟩
  · rw [load_render, if_pos hlevels, if_pos hkind]
  · obtain ⟨hlevels, hkind⟩ := levels_of_ofJson hload
    rw [load_render, if_pos hlevels, if_pos hkind]
  · rw [load_render, if_neg (by omega)]

/-- Putting a node into others adds a level for each of them. -/
lemma levels_iterate (facts : Facts) (n : Nat) (node : Node) :
    (Nat.iterate (fun node => .mk facts [node]) n node).levels = node.levels + n := by
  induction n generalizing node with
  | zero => rfl
  | succ n ih =>
    rw [Nat.iterate, ih, Node.levels, Node.levelsAll, Node.levelsAll]
    omega

/-- A document with something in every part, and one with 64 levels. -/
theorem load_toJson_levels :
    (let wide : Document :=
      { file := "a\"b\\.cpp"
        source := "\x01\n\té"
        language := some { cplusplus20 := true }
        records := [{ name := "A", methods := ["size"] }]
        root := .mk { kind := .translationUnitDecl }
          [.mk { kind := .unknown, range := some ⟨0, 18446744073709551615⟩,
                 ty := some { decl := some "T" } } [],
            .mk { kind := .binaryOperator .other }
              [.mk { kind := .integerLiteral 18446744073709551615 } []]] };
      wide.root.levels = 3 ∧ load (toJson wide).render = .ok wide) ∧
    (let high : Document :=
      { root := Nat.iterate (fun node => .mk { kind := .translationUnitDecl } [node]) 63
          (.mk { kind := .lambdaExpr } []) };
      high.root.levels = 64 ∧ load (toJson high).render = .error .malformed) := by
  refine ⟨⟨by decide, (load_toJson _).1 rfl (by decide)⟩, ?_⟩
  have hlevels :=
    levels_iterate { kind := .translationUnitDecl } 63 (.mk { kind := .lambdaExpr } [])
  exact ⟨hlevels, (load_toJson _).2.2 hlevels.ge⟩

end Document

end CppAdvice
