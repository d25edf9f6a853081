import CppAdvice.Proofs.Rearrangement.Record

/-!
# Nodes in any order

The members of a node are parts of it, read where they stand, or kept until it closes. Reordered,
they lead to the same parts and to the same kept members in another order, from which the same kind
is read (`readNode_perm`). A member that is added or changed may then be looked at as if it stood
last.
-/

namespace CppAdvice.Document

open CppAdvice.Tree

/-! ## Kinds -/

/-- A kind either has no facts of its own, or they are a record whose fields are named by its
tag. -/
lemma readKind_cases (tag : Tag) :
    (∃ kind, ∀ members, readKind members tag = .ok kind) ∨
      ∃ (σ : Type) (r : Record σ) (start : σ) (make : σ → Kind), r.Lawful .node ∧
        r.fields.map (·.name) = tag.ownFields ∧
        ∀ members, readKind members tag = make <$> r.readObject start members := by
  cases tag with
  | functionDecl => exact .inr ⟨_, _, _, _, lawful_function, rfl, fun _ => rfl⟩
  | varDecl => exact .inr ⟨_, _, _, _, lawful_variable, rfl, fun _ => rfl⟩
  | memberCallExpr => exact .inr ⟨_, _, _, _, lawful_memberCall, rfl, fun _ => rfl⟩
  | namespaceDecl | recordDecl | fieldDecl | typeAliasDecl | declRefExpr | unaryOperator =>
    exact .inr ⟨_, _, _, _, lawful_soleField (follows_needed follows_string _), rfl, fun _ => rfl⟩
  | parmVarDecl =>
    exact .inr ⟨_, _, _, _, lawful_soleField (follows_optional follows_string _), rfl, fun _ => rfl⟩
  | callExpr =>
    exact .inr ⟨_, _, _, _, lawful_soleField (follows_optional (follows_option follows_string) _),
      rfl, fun _ => rfl⟩
  | operatorCallExpr | binaryOperator | rewrittenBinaryOperator =>
    exact .inr ⟨_, _, _, _,
      lawful_soleField (follows_needed (follows_of_rigid rigid_of_readKept) _), rfl, fun _ => rfl⟩
  | constructExpr =>
    exact .inr ⟨_, _, _, _,
      lawful_soleField (follows_optional (follows_of_rigid rigid_of_readKept) _), rfl, fun _ => rfl⟩
  | integerLiteral =>
    exact .inr ⟨_, _, _, _, lawful_soleField (follows_needed (follows_natural _) _), rfl,
      fun _ => rfl⟩
  | _ => exact .inl ⟨_, fun _ => rfl⟩

section

variable {members members' : List (Json.Key × Json)} {tag : Tag} {kind : Kind}

/-- The kept members may change places without a change to the kind. -/
lemma readKind_perm (hperm : members.Perm members') (h : readKind members tag = .ok kind) :
    readKind members' tag = .ok kind := by
  obtain ⟨kind', hkind⟩ | ⟨σ, r, start, make, hr, -, hread⟩ := readKind_cases tag
  · rwa [hkind] at h ⊢
  · rw [hread, map_eq_ok] at h ⊢
    obtain ⟨s, hs, rfl⟩ := h
    exact ⟨s, Record.readObject_perm hr.apart hperm hs, rfl⟩

/-- A kept member that is no field of the kind may be put in. -/
lemma readKind_insert {k : String} {v : Json} (hk : k ∉ tag.ownFields) (hv : v.whole = true)
    (h : readKind members tag = .ok kind) : readKind ((.name k, v) :: members) tag = .ok kind := by
  obtain ⟨kind', hkind⟩ | ⟨σ, r, start, make, hr, hnames, hread⟩ := readKind_cases tag
  · rwa [hkind] at h ⊢
  · rw [hread, map_eq_ok] at h ⊢
    obtain ⟨s, hs, rfl⟩ := h
    exact ⟨s, @Record.readObject_insert _ r hr.apart [] members _ _ (hnames ▸ hk) hv _ _ hs, rfl⟩

/-- The value of a kept member may be changed at its place without a change to the kind. -/
lemma readKind_member {key : Json.Key} {v v' : Json}
    (hstep : Rearrangement (Place.node.member key) v v') (hsame : (Place.node.member key).Says v v')
    (h : readKind ((key, v) :: members) tag = .ok kind) :
    readKind ((key, v') :: members) tag = .ok kind := by
  obtain ⟨kind', hkind⟩ | ⟨σ, r, start, make, hr, -, hread⟩ := readKind_cases tag
  · rwa [hkind] at h ⊢
  · rw [hread, map_eq_ok] at h ⊢
    obtain ⟨s, hs, rfl⟩ := h
    refine ⟨s, @Record.readObject_member _ r hr.apart [] members _ _ _ hstep.whole ?_ _ _ hs, rfl⟩
    rintro field hfield rfl s s' hread'
    exact hr.follows field hfield s hstep hsame hread'

/-- The tag that a value names, by its name or by its number. -/
def tagOf? : Json → Option Tag
  | .string (some s) => some (.ofName s)
  | .number (.natural n) => some (.ofNumber n.toNat)
  | _ => none

/-- The members that say the kind. -/
def kindsIn (members : List (Json.Key × Json)) : List (Json.Key × Json) :=
  members.filter (·.1 = .name "kind")

/-- A member that says the kind is among those that do. -/
lemma kindsIn_cons_kind (v : Json) (members : List (Json.Key × Json)) :
    kindsIn ((.name "kind", v) :: members) = (.name "kind", v) :: kindsIn members :=
  rfl

/-- Other members are not among those that say the kind. -/
lemma kindsIn_cons_ne {m : Json.Key × Json} (h : m.1 ≠ .name "kind")
    (members : List (Json.Key × Json)) :
    kindsIn (m :: members) = kindsIn members :=
  List.filter_cons_of_neg (by simpa using h)

/-- The members that say the kind, of two lists of members. -/
lemma kindsIn_append (members members' : List (Json.Key × Json)) :
    kindsIn (members ++ members') = kindsIn members ++ kindsIn members' :=
  List.filter_append ..

/-- The tag is read from the members that say the kind alone. -/
lemma readTag_cons_ne {m : Json.Key × Json} (h : m.1 ≠ .name "kind")
    (members : List (Json.Key × Json)) (found : Option Tag) :
    readTag (m :: members) found = readTag members found := by
  rw [readTag.eq_def]
  simp only [if_neg h]

/-- Once there is a tag, no second member may say the kind. -/
lemma readTag_some {found : Tag} : readTag members (some found) = .ok tag ↔ kindsIn members = [] ∧
    found = tag := by
  induction members with
  | nil => simp [readTag, kindsIn]
  | cons m members ih =>
    obtain ⟨key, v⟩ := m
    by_cases hkey : key = .name "kind"
    · subst hkey
      rw [readTag.eq_def]
      simp [kindsIn_cons_kind, misshapen]
    · rw [readTag_cons_ne hkey, kindsIn_cons_ne hkey, ih]

/-- The tag is read if exactly one member says the kind, and names a tag. -/
lemma readTag_none :
    readTag members none = .ok tag ↔ ∃ v, kindsIn members = [(.name "kind", v)] ∧
      tagOf? v = some tag := by
  induction members with
  | nil => simp [readTag, kindsIn, misshapen]
  | cons m members ih =>
    obtain ⟨key, v⟩ := m
    by_cases hkey : key = .name "kind"
    · subst hkey
      have honly : (∃ w, (Json.Key.name "kind", v) :: kindsIn members = [(.name "kind", w)] ∧
          tagOf? w = some tag) ↔
          kindsIn members = [] ∧ tagOf? v = some tag := by
        simp [and_assoc]
      rw [readTag.eq_def, kindsIn_cons_kind, honly, tagOf?.eq_def]
      simp only [if_true, Option.isSome_none, Bool.false_eq_true, if_false]
      split
      · rw [readTag_some, Option.some_inj]
      · rw [readTag_some, Option.some_inj]
      · simp [wrongType_ne_ok]
    · rw [readTag_cons_ne hkey, kindsIn_cons_ne hkey, ih]

/-- A change to the value of a member leaves the tag as it is. -/
lemma readTag_member {place : Place} {key : Json.Key} {v v' : Json}
    (hstep : Rearrangement place v v') (h : readTag ((key, v) :: members) none = .ok tag) :
    readTag ((key, v') :: members) none = .ok tag := by
  by_cases hkey : key = .name "kind"
  · -- The kind is a name or a number, in which there is nothing to rearrange.
    subst hkey
    obtain ⟨w, hkinds, htag⟩ := readTag_none.1 h
    rw [kindsIn_cons_kind, List.cons.injEq, Prod.mk.injEq] at hkinds
    obtain ⟨⟨-, rfl⟩, -⟩ := hkinds
    cases hstep <;> cases htag
  · rwa [readTag_cons_ne hkey] at h ⊢

/-- Members may change places without a change to the tag. -/
lemma readTag_perm (hperm : members.Perm members') (h : readTag members none = .ok tag) :
    readTag members' none = .ok tag := by
  obtain ⟨v, hkinds, htag⟩ := readTag_none.1 h
  refine readTag_none.2 ⟨v, ?_, htag⟩
  exact List.perm_singleton.1 (hkinds ▸ hperm.symm.filter _)

end

/-! ## Nodes -/

/-- The same parts have been read, and the same members kept. -/
def SameDraft (d d' : NodeDraft) : Prop :=
  ∃ kept, d.kept.Perm kept ∧ d' = { d with kept }

/-- Having read and kept the same is an equivalence. -/
lemma equivalence_sameDraft : Equivalence SameDraft where
  refl d := ⟨d.kept, .refl _, rfl⟩
  symm := by
    rintro d _ ⟨kept, hperm, rfl⟩
    exact ⟨d.kept, hperm.symm, rfl⟩
  trans := by
    rintro d _ _ ⟨kept, hperm, rfl⟩ ⟨kept', hperm', rfl⟩
    exact ⟨kept', hperm.trans hperm', rfl⟩

namespace NodeDraft

variable {depth : Nat}

/-- Where the same has been read and kept, a member does the same. -/
lemma takes_congr {d d' t : NodeDraft} {m : Json.Key × Json} (hd : SameDraft d d')
    (h : Takes depth d m t) :
    ∃ t', Takes depth d' m t' ∧ SameDraft t t' := by
  obtain ⟨kept, hperm, rfl⟩ := hd
  cases h with
  | @part part v a hnone hread =>
    refine ⟨_, .part (by rwa [NodePart.get_kept]) hread, kept, ?_, NodePart.set_kept _ _ _ _⟩
    rwa [NodePart.kept_set]
  | kept hname hv => exact ⟨_, .kept hname hv, _, hperm.cons _, rfl⟩

/-- Two neighbours among the members of a node may change places. -/
lemma takes_swap {s t u : NodeDraft} {a b : Json.Key × Json} (ha : Takes depth s a t)
    (hb : Takes depth t b u) :
    ∃ t' u', Takes depth s b t' ∧ Takes depth t' a u' ∧ SameDraft u u' := by
  cases ha with
  | @part part v x hnone hread =>
    cases hb with
    | @part other w y hnone' hread' =>
      have hne : other ≠ part := by
        rintro rfl
        rw [NodePart.get_set_self] at hnone'
        cases hnone'
      rw [NodePart.get_set_of_ne hne] at hnone'
      refine ⟨_, _, .part hnone' hread', .part ?_ hread, _, .refl _, ?_⟩
      · rwa [NodePart.get_set_of_ne hne.symm]
      · rw [NodePart.set_comm hne]
    | kept hname hv =>
      refine ⟨_, _, .kept hname hv, .part ?_ hread, _, .refl _, ?_⟩
      · rwa [NodePart.get_kept]
      · rw [NodePart.set_kept, NodePart.kept_set]
  | kept hname hv =>
    cases hb with
    | @part other w y hnone' hread' =>
      rw [NodePart.get_kept] at hnone'
      refine ⟨_, _, .part hnone' hread', .kept hname hv, _, .refl _, ?_⟩
      cases other <;> rfl
    | kept hname' hv' => exact ⟨_, _, .kept hname' hv', .kept hname hv, _, .swap _ _ _, rfl⟩

/-- A draft is closed to the node that its kept members say the kind of, with the parts that were
read. -/
lemma close_eq_ok {d : NodeDraft} {node : Node} :
    d.close = .ok node ↔
      ∃ tag kind, readTag d.kept.reverse none = .ok tag ∧ readKind d.kept.reverse tag = .ok kind ∧
        Node.mk { kind, range := d.range.getD none, file := d.file.getD none, ty := d.ty.getD none }
          (d.children.getD []) = node := by
  rw [close, bind_eq_ok]
  constructor
  · rintro ⟨tag, htag, h⟩
    obtain ⟨kind, hkind, h⟩ := bind_eq_ok.1 h
    cases h
    exact ⟨tag, kind, htag, hkind, rfl⟩
  · rintro ⟨tag, kind, htag, hkind, rfl⟩
    exact ⟨tag, htag, bind_eq_ok.2 ⟨kind, hkind, rfl⟩⟩

/-- A node only depends on its kept members as far as they say its kind. -/
lemma close_of_kept {d : NodeDraft} {node : Node} {kept : List (Json.Key × Json)}
    (hkept : ∀ {tag kind}, readTag d.kept.reverse none = .ok tag →
      readKind d.kept.reverse tag = .ok kind →
      readTag kept.reverse none = .ok tag ∧ readKind kept.reverse tag = .ok kind)
    (h : d.close = .ok node) : close { d with kept } = .ok node := by
  obtain ⟨tag, kind, htag, hkind, rfl⟩ := close_eq_ok.1 h
  obtain ⟨htag', hkind'⟩ := hkept htag hkind
  exact close_eq_ok.2 ⟨tag, kind, htag', hkind', rfl⟩

/-- Drafts with the same parts and kept members are closed to the same node. -/
lemma close_perm {d d' : NodeDraft} {node : Node} (hd : SameDraft d d') (h : d.close = .ok node) :
    d'.close = .ok node := by
  obtain ⟨kept, hperm, rfl⟩ := hd
  have hreverse : d.kept.reverse.Perm kept.reverse :=
    (List.reverse_perm _).trans (hperm.trans (List.reverse_perm _).symm)
  exact close_of_kept (fun htag hkind =>
    ⟨readTag_perm hreverse htag, readKind_perm hreverse hkind⟩) h

/-- The kept members are those that say the kind, among others. -/
lemma kindsIn_kept {members : List (Json.Key × Json)} {d d' : NodeDraft}
    (h : Reads (Takes depth) members d d') :
    kindsIn d'.kept.reverse = kindsIn d.kept.reverse ++ kindsIn members := by
  induction members generalizing d with
  | nil =>
    cases h
    exact (List.append_nil _).symm
  | cons m members ih =>
    obtain ⟨u, htakes, h⟩ := h
    rw [ih h]
    cases htakes with
    | @part part v a hnone hread =>
      have hkey : Json.Key.name part.name ≠ .name "kind" := by cases part <;> decide
      rw [NodePart.kept_set, kindsIn_cons_ne hkey]
    | kept hname hv =>
      rw [List.reverse_cons, kindsIn_append, List.append_assoc, ← kindsIn_append,
        List.singleton_append]

end NodeDraft

section

variable {depth : Nat} {node : Node}

/-- The members of a node may change places. -/
lemma readNode_perm {members members' : List (Json.Key × Json)} (hperm : members.Perm members')
    (h : readNode depth (.object members) = .ok node) :
    readNode depth (.object members') = .ok node := by
  obtain ⟨_, ⟨⟩, hdepth, d, hmembers, hclose⟩ := readNode_eq_ok.1 h
  obtain ⟨d', hmembers', hd⟩ :=
    @Reads.perm _ _ (NodeDraft.Takes (depth + 1)) SameDraft equivalence_sameDraft
    NodeDraft.takes_congr NodeDraft.takes_swap _ _ hperm _ _ (readNodeMembers_eq_ok.1 hmembers)
  exact readNode_eq_ok.2
    ⟨_, rfl, hdepth, d', readNodeMembers_eq_ok.2 hmembers', NodeDraft.close_perm hd hclose⟩

/-- Reading a part of a node notices no changes at its place. -/
lemma follows_part (part : NodePart) :
    Follows (part.read depth) (Place.node.member (.name part.name)) := by
  cases part with
  | range => exact follows_option (follows_read id _ depth)
  | file => exact follows_option follows_string
  | ty => exact follows_option (follows_type depth)
  | children => exact follows_list follows_node depth

/-- A member may stand last, where nothing that is read later depends on it. -/
lemma perm_concat {α : Type} (before after : List α) (a : α) :
    (before ++ a :: after).Perm (before ++ after ++ [a]) :=
  List.perm_middle.trans (List.perm_append_singleton a _).symm

/-- A node is read from some members and a last one, which is dealt with on its own. -/
lemma readNode_concat {members : List (Json.Key × Json)} {m : Json.Key × Json} :
    readNode depth (.object (members ++ [m])) = .ok node ↔ depth < depthLimit ∧
      ∃ u d, Reads (NodeDraft.Takes (depth + 1)) members {} u ∧ NodeDraft.Takes (depth + 1) u m d ∧
        d.close = .ok node := by
  rw [readNode_eq_ok]
  constructor
  · rintro ⟨_, ⟨⟩, hdepth, d, hmembers, hclose⟩
    obtain ⟨u, hreads, d', htakes, rfl⟩ := Reads.append.1 (readNodeMembers_eq_ok.1 hmembers)
    exact ⟨hdepth, u, d', hreads, htakes, hclose⟩
  · rintro ⟨hdepth, u, d, hreads, htakes, hclose⟩
    exact ⟨_, rfl, hdepth, d, readNodeMembers_eq_ok.2 (Reads.append.2 ⟨u, hreads, d, htakes, rfl⟩),
      hclose⟩

/-- A scalar member that is ignored may be put anywhere into a node. -/
lemma readNode_insert {before after : List (Json.Key × Json)} {k : String} {v : Json}
    (hk : Place.node.Ignores (before ++ after) k) (hv : IsScalar v)
    (h : readNode depth (.object (before ++ after)) = .ok node) :
    readNode depth (.object (before ++ (.name k, v) :: after)) = .ok node := by
  refine readNode_perm (perm_concat before after _).symm ?_
  obtain ⟨_, ⟨⟩, hdepth, d, hmembers, hclose⟩ := readNode_eq_ok.1 h
  rw [readNodeMembers_eq_ok] at hmembers
  obtain ⟨hfields, hown⟩ := hk
  have hpart : ∀ part : NodePart, k ≠ part.name := by
    rintro part rfl
    cases part <;> simp [Place.fields, NodePart.name] at hfields
  have hkind : Json.Key.name k ≠ .name "kind" := by
    rintro ⟨⟩
    simp [Place.fields] at hfields
  refine readNode_concat.2 ⟨hdepth, d, _, hmembers, .kept hpart (hv.readable _), ?_⟩
  refine NodeDraft.close_of_kept (fun {tag kind} htag hread => ?_) hclose
  have hperm : ((.name k, v) :: d.kept.reverse).Perm ((.name k, v) :: d.kept).reverse := by
    rw [List.reverse_cons]
    exact (List.perm_append_singleton _ _).symm
  -- What the kept members say of the kind is what all members say of it.
  have htag' : readTag (before ++ after) none = .ok tag := by
    rw [readTag_none, NodeDraft.kindsIn_kept hmembers] at htag
    exact readTag_none.2 htag
  exact ⟨readTag_perm hperm ((readTag_cons_ne hkind _ _).trans htag),
    readKind_perm hperm (readKind_insert (hown tag htag') hv.whole hread)⟩

/-- The value of a member of a node may be changed at its place. -/
lemma readNode_member {before after : List (Json.Key × Json)} {key : Json.Key} {v v' : Json}
    (hstep : Rearrangement (Place.node.member key) v v') (hsame : (Place.node.member key).Says v v')
    (h : readNode depth (.object (before ++ (key, v) :: after)) = .ok node) :
    readNode depth (.object (before ++ (key, v') :: after)) = .ok node := by
  refine readNode_perm (perm_concat before after _).symm ?_
  obtain ⟨hdepth, u, d, hmembers, htakes, hclose⟩ :=
    readNode_concat.1 (readNode_perm (perm_concat before after _) h)
  cases htakes with
  | @part part _ a hnone hread =>
    exact readNode_concat.2
      ⟨hdepth, u, _, hmembers, .part hnone (follows_part part hstep hsame hread), hclose⟩
  | @kept k _ hname hv =>
    refine readNode_concat.2 ⟨hdepth, u, _, hmembers, .kept hname (hstep.readable hv), ?_⟩
    refine @NodeDraft.close_of_kept { u with kept := (.name k, v) :: u.kept } node
      ((.name k, v') :: u.kept) (fun {tag kind} htag hread => ?_) hclose
    have hperm : ∀ w : Json,
        ((.name k, w) :: u.kept).reverse.Perm ((.name k, w) :: u.kept.reverse) := fun w => by
      rw [List.reverse_cons]
      exact List.perm_append_singleton _ _
    exact ⟨readTag_perm (hperm v').symm (readTag_member hstep (readTag_perm (hperm v) htag)),
      readKind_perm (hperm v').symm (readKind_member hstep hsame (readKind_perm (hperm v) hread))⟩

end

end CppAdvice.Document
