import CppAdvice.Proofs.Subtrees

/-!
# Which comparison a value flows into

The walk from a lookup to its comparison goes through one node after another and stops at the first
operator. Here it is told without the walk: the value of a node is passed up along a chain of nodes,
none of them an operator and each of a tag that passes values on (`PassesUp`), and the parent of the
last one decides (`Decides`). One step of the walk is one link of the chain or the decision
(`isCompared_step`), so the walk finds a chain exactly where there is one (`isCompared_iff`). That
more tags and more relations never lose a comparison, and that operators cannot be made to pass
values on, is read off the chains.
-/

namespace CppAdvice.Sentinel

open CppAdvice.Tree TranslationUnit

/-- A node hands its value to its parent, which is no operator and passes it on. -/
structure PassesUp (u : TranslationUnit) (transparent : List Tag) (side p : Nat) : Prop where
  parent : u.parent? side = some p
  operator : (u.kind p).operator? = none
  tag : u.tag p ∈ transparent

/-- An operator states a relation of a lookup to a marker; the flag tells whether the lookup is on
the left. -/
inductive Relation.Stated : Opcode → Bool → Relation → Prop where
  | equal {onLeft} : Stated .eq onLeft .equal
  | notEqual {onLeft} : Stated .ne onLeft .notEqual
  | greater : Stated .gt true .greater
  | less : Stated .lt false .greater

/-- An operator with the marker as one of its first two children, and the given child as the other,
states one of the relations. -/
inductive Compares (u : TranslationUnit) (comparison : Comparison) (op : Opcode)
    (side p : Nat) : Prop where
  | left {other rest} {r : Relation} :
    u.children p = side :: other :: rest →
    comparison.marker.holdsAt u (u.skipImplicit other) = true →
    r ∈ comparison.relations →
    r.Stated op true →
    Compares u comparison op side p
  | right {other rest} {r : Relation} :
    u.children p = other :: side :: rest →
    comparison.marker.holdsAt u (u.skipImplicit other) = true →
    r ∈ comparison.relations →
    r.Stated op false →
    Compares u comparison op side p

/-- An operator accepts the value of the given child: a rewritten one always does, another one if it
compares the value with the marker. -/
inductive Decides (u : TranslationUnit) (comparison : Comparison) (side p : Nat) : Prop where
  | rewritten {op} :
    u.kind p = .rewrittenBinaryOperator op →
    Decides u comparison side p
  | compares {op} :
    u.kind p = .binaryOperator op ∨ u.kind p = .operatorCallExpr op →
    Compares u comparison op side p →
    Decides u comparison side p

/-- The value of a node is passed up a chain of nodes, and the parent of the last one accepts it. -/
def FlowsInto (u : TranslationUnit) (transparent : List Tag) (comparison : Comparison)
    (n : Nat) : Prop :=
  ∃ side p, Relation.ReflTransGen (PassesUp u transparent) n side ∧ u.parent? side = some p ∧
    Decides u comparison side p

/-- The tags of operators. -/
def operatorTags : List Tag :=
  [.binaryOperator, .rewrittenBinaryOperator, .operatorCallExpr]

/-- The computed test is for what an operator states. -/
lemma Relation.accepts_iff {r : Relation} {op : Opcode} {onLeft : Bool} :
    r.accepts op onLeft = true ↔ r.Stated op onLeft := by
  constructor
  · intro h
    cases r with
    | equal =>
      obtain rfl := of_decide_eq_true h
      exact .equal
    | notEqual =>
      obtain rfl := of_decide_eq_true h
      exact .notEqual
    | greater =>
      cases onLeft with
      | true =>
        obtain rfl := of_decide_eq_true h
        exact .greater
      | false =>
        obtain rfl := of_decide_eq_true h
        exact .less
  · intro h
    cases h with
    | equal => rfl
    | notEqual => rfl
    | greater => rfl
    | less => rfl

section

variable {u : TranslationUnit} {transparent : List Tag} {comparison : Comparison} {side p n : Nat}
  {op : Opcode}

/-- One of several relations is accepted if an operator states it. -/
lemma any_accepts_iff {relations : List Relation} {onLeft : Bool} :
    (relations.any (·.accepts op onLeft)) = true ↔ ∃ r ∈ relations, r.Stated op onLeft := by
  simp only [List.any_eq_true, Relation.accepts_iff]

/-- The children of a node are different, so a child is on one side only. -/
lemma comparesAt_iff (hu : u.Linked) :
    comparesAt u comparison p side op = true ↔ Compares u comparison op side p := by
  have hsorted := hu.sorted p
  rw [comparesAt]
  constructor
  · intro h
    split at h
    case h_1 lhs rhs rest hchildren =>
      split_ifs at h with hleft hright
      · obtain ⟨hmarker, hrelations⟩ := Bool.and_eq_true_iff.1 h
        obtain ⟨r, hr, hstated⟩ := any_accepts_iff.1 hrelations
        exact .left (hleft ▸ hchildren) hmarker hr hstated
      · obtain ⟨hmarker, hrelations⟩ := Bool.and_eq_true_iff.1 h
        obtain ⟨r, hr, hstated⟩ := any_accepts_iff.1 hrelations
        exact .right (hright ▸ hchildren) hmarker hr hstated
    case h_2 => cases h
  · intro h
    cases h with
    | left hchildren hmarker hr hstated =>
      simp only [hchildren, if_true]
      exact Bool.and_eq_true_iff.2 ⟨hmarker, any_accepts_iff.2 ⟨_, hr, hstated⟩⟩
    | @right other rest r hchildren hmarker hr hstated =>
      rw [hchildren] at hsorted
      have hne : other ≠ side := Nat.ne_of_lt (List.rel_of_pairwise_cons hsorted List.mem_cons_self)
      simp only [hchildren, hne, if_false, if_true]
      exact Bool.and_eq_true_iff.2 ⟨hmarker, any_accepts_iff.2 ⟨_, hr, hstated⟩⟩

/-- What decides is an operator. -/
lemma Decides.operator?_ne_none (h : Decides u comparison side p) :
    (u.kind p).operator? ≠ none := by
  cases h with
  | rewritten hkind => simp [hkind, Kind.operator?]
  | compares hkind _ =>
    rcases hkind with hkind | hkind
    · simp [hkind, Kind.operator?]
    · simp [hkind, Kind.operator?]

/-- An operator that is not rewritten accepts what it compares. -/
lemma decides_iff_compares
    (hkind : u.kind p = .binaryOperator op ∨ u.kind p = .operatorCallExpr op) :
    Decides u comparison side p ↔ Compares u comparison op side p := by
  constructor
  · intro h
    cases h with
    | rewritten hrewritten => simp [hrewritten] at hkind
    | @compares op' hkind' h =>
      obtain rfl : op' = op := by
        rcases hkind with hkind | hkind
        · simpa [hkind, eq_comm] using hkind'
        · simpa [hkind, eq_comm] using hkind'
      exact h
  · exact .compares hkind

/-- One step of the walk: the parent decides or passes the value on. -/
lemma walk_step (hu : u.Linked) {above : List Nat} :
    walk u transparent comparison side (p :: above) = true ↔
      Decides u comparison side p ∨
        ((u.kind p).operator? = none ∧ u.tag p ∈ transparent) ∧
          walk u transparent comparison p above = true := by
  rw [walk]
  split
  case h_1 op hkind => simp [Decides.rewritten hkind]
  case h_2 op hkind =>
    simp [comparesAt_iff hu, decides_iff_compares (.inl hkind), hkind, Kind.operator?]
  case h_3 op hkind =>
    simp [comparesAt_iff hu, decides_iff_compares (.inr hkind), hkind, Kind.operator?]
  case h_4 hrewritten hbinary hcall =>
    have hoperator : (u.kind p).operator? = none := by
      cases hkind : u.kind p with
      | rewrittenBinaryOperator op => exact absurd hkind (hrewritten op)
      | binaryOperator op => exact absurd hkind (hbinary op)
      | operatorCallExpr op => exact absurd hkind (hcall op)
      | _ => rfl
    have hdecides : ¬ Decides u comparison side p := fun h => h.operator?_ne_none hoperator
    simp [hoperator, hdecides, TranslationUnit.tag]

/-- The walk from a node looks at its parent first. -/
lemma isCompared_step (hu : u.Linked) :
    isCompared u transparent comparison n = true ↔
      ∃ p, u.parent? n = some p ∧ (Decides u comparison n p ∨
        PassesUp u transparent n p ∧ isCompared u transparent comparison p = true) := by
  cases hp : u.parent? n with
  | none =>
    rw [isCompared, ancestors, hp]
    simp [walk]
  | some p =>
    rw [isCompared, hu.ancestors_eq hp, walk_step hu]
    constructor
    · rintro (h | ⟨⟨hoperator, htag⟩, h⟩)
      · exact ⟨p, rfl, .inl h⟩
      · exact ⟨p, rfl, .inr ⟨⟨hp, hoperator, htag⟩, h⟩⟩
    · rintro ⟨p', hp', h⟩
      cases hp'
      rcases h with h | ⟨hpasses, h⟩
      · exact .inl h
      · exact .inr ⟨⟨hpasses.operator, hpasses.tag⟩, h⟩

/-- The walk accepts a node exactly when its value flows into a comparison. -/
lemma isCompared_iff (hu : u.Linked) :
    isCompared u transparent comparison n = true ↔ FlowsInto u transparent comparison n := by
  constructor
  · -- Parents have smaller numbers, so the walk ends.
    intro h
    induction n using Nat.strong_induction_on with
    | _ n ih =>
      obtain ⟨p, hp, h | ⟨hpasses, h⟩⟩ := (isCompared_step hu).1 h
      · exact ⟨n, p, .refl, hp, h⟩
      · obtain ⟨side, q, hchain, hq, hdecides⟩ := ih p (hu.parent hp).1 h
        exact ⟨side, q, .head hpasses hchain, hq, hdecides⟩
  · rintro ⟨side, p, hchain, hp, hdecides⟩
    induction hchain using Relation.ReflTransGen.head_induction_on with
    | refl => exact (isCompared_step hu).2 ⟨p, hp, .inl hdecides⟩
    | @head a c hpasses _ ih => exact (isCompared_step hu).2 ⟨c, hpasses.parent, .inr ⟨hpasses, ih⟩⟩

/-- A child of an operator is compared with one other child only. -/
lemma Compares.marker (hu : u.Linked) {other : Comparison} {op' : Opcode}
    (h : Compares u comparison op side p) (h' : Compares u other op' side p) :
    ∃ id, comparison.marker.holdsAt u id = true ∧ other.marker.holdsAt u id = true := by
  have hsorted := hu.sorted p
  have hne : ∀ rest, u.children p ≠ side :: side :: rest := by
    intro rest hchildren
    rw [hchildren] at hsorted
    exact Nat.lt_irrefl _ (List.rel_of_pairwise_cons hsorted List.mem_cons_self)
  cases h with
  | left hchildren hmarker =>
    cases h' with
    | left hchildren' hmarker' =>
      obtain ⟨rfl, -⟩ := List.cons.inj (List.cons.inj (hchildren.symm.trans hchildren')).2
      exact ⟨_, hmarker, hmarker'⟩
    | right hchildren' hmarker' =>
      obtain ⟨rfl, -⟩ := List.cons.inj (List.cons.inj (hchildren.symm.trans hchildren')).2
      exact absurd hchildren (hne _)
  | right hchildren hmarker =>
    cases h' with
    | left hchildren' hmarker' =>
      obtain ⟨rfl, -⟩ := List.cons.inj (List.cons.inj (hchildren'.symm.trans hchildren)).2
      exact absurd hchildren' (hne _)
    | right hchildren' hmarker' =>
      obtain ⟨rfl, -⟩ := List.cons.inj (hchildren.symm.trans hchildren')
      exact ⟨_, hmarker, hmarker'⟩

/-- What marks the end of a range is no position. -/
lemma Marker.npos_of_endIterator (h : Marker.holdsAt u n .endIterator = true) :
    Marker.holdsAt u n .npos = false := by
  cases hkind : u.kind n with
  | memberCallExpr call => simp [Marker.holdsAt, hkind]
  | _ => simp [Marker.holdsAt, hkind] at h

/-- A value that is accepted for the sake of two markers, which no node is both, flows into a
rewritten operator. -/
lemma rewritten_of_flowsInto (hu : u.Linked) {other : Comparison}
    (hapart : ∀ id, comparison.marker.holdsAt u id = true → other.marker.holdsAt u id = false)
    (h : FlowsInto u transparent comparison n) (h' : isCompared u transparent other n = true) :
    ∃ side p op, Relation.ReflTransGen (PassesUp u transparent) n side ∧ u.parent? side = some p ∧
      u.kind p = .rewrittenBinaryOperator op := by
  obtain ⟨side, p, hchain, hp, hdecides⟩ := h
  suffices hkind : ∃ op, u.kind p = .rewrittenBinaryOperator op by
    obtain ⟨op, hkind⟩ := hkind
    exact ⟨side, p, op, hchain, hp, hkind⟩
  -- Both walks take the same way, and end at the same operator.
  induction hchain using Relation.ReflTransGen.head_induction_on with
  | refl =>
    obtain ⟨p', hp', h'⟩ := (isCompared_step hu).1 h'
    obtain rfl : p' = p := Option.some.inj (hp'.symm.trans hp)
    rcases h' with h' | ⟨hpasses, _⟩
    · cases hdecides with
      | rewritten hkind => exact ⟨_, hkind⟩
      | compares hkind hcompares =>
        obtain ⟨id, hmarker, hmarker'⟩ := hcompares.marker hu ((decides_iff_compares hkind).1 h')
        exact absurd hmarker' (Bool.eq_false_iff.1 (hapart id hmarker))
    · exact absurd hpasses.operator hdecides.operator?_ne_none
  | @head a c hpasses _ ih =>
    obtain ⟨p', hp', h'⟩ := (isCompared_step hu).1 h'
    obtain rfl : p' = c := Option.some.inj (hp'.symm.trans hpasses.parent)
    rcases h' with h' | ⟨_, h'⟩
    · exact absurd hpasses.operator h'.operator?_ne_none
    · exact ih h'

/-- More relations lose no comparison. -/
lemma Compares.mono {relations : List Relation} (h : comparison.relations ⊆ relations)
    (hcompares : Compares u comparison op side p) :
    Compares u { comparison with relations } op side p := by
  cases hcompares with
  | left hchildren hmarker hr hstated => exact .left hchildren hmarker (h hr) hstated
  | right hchildren hmarker hr hstated => exact .right hchildren hmarker (h hr) hstated

/-- More relations lose no decision. -/
lemma Decides.mono {relations : List Relation} (h : comparison.relations ⊆ relations)
    (hdecides : Decides u comparison side p) : Decides u { comparison with relations } side p := by
  cases hdecides with
  | rewritten hkind => exact .rewritten hkind
  | compares hkind hcompares => exact .compares hkind (hcompares.mono h)

/-- With more tags and more relations, there are the same chains and more. -/
lemma FlowsInto.mono {transparent' : List Tag} {relations : List Relation}
    (htags : transparent ⊆ transparent') (hrelations : comparison.relations ⊆ relations)
    (h : FlowsInto u transparent comparison n) :
    FlowsInto u transparent' { comparison with relations } n := by
  obtain ⟨side, p, hchain, hp, hdecides⟩ := h
  have hpasses : ∀ a b, PassesUp u transparent a b → PassesUp u transparent' a b :=
    fun a b h => ⟨h.parent, h.operator, htags h.tag⟩
  exact ⟨side, p, hchain.lift id hpasses, hp, hdecides.mono hrelations⟩

/-- What is no operator has no operator's tag. -/
lemma notMem_operatorTags (h : (u.kind p).operator? = none) : u.tag p ∉ operatorTags := by
  rw [TranslationUnit.tag]
  cases hkind : u.kind p with
  | rewrittenBinaryOperator op => simp [hkind, Kind.operator?] at h
  | binaryOperator op => simp [hkind, Kind.operator?] at h
  | operatorCallExpr op => simp [hkind, Kind.operator?] at h
  | _ => simp [operatorTags, Kind.tag]

/-- No operator is on a chain, whatever tags pass values on. -/
lemma passesUp_operatorTags {a b : Nat} :
    PassesUp u (operatorTags ++ transparent) a b ↔ PassesUp u transparent a b := by
  constructor
  · rintro ⟨hparent, hoperator, htag⟩
    rcases List.mem_append.1 htag with htag | htag
    · exact absurd htag (notMem_operatorTags hoperator)
    · exact ⟨hparent, hoperator, htag⟩
  · rintro ⟨hparent, hoperator, htag⟩
    exact ⟨hparent, hoperator, List.mem_append_right _ htag⟩

/-- It makes no difference whether operators are passed, since they are looked at before. -/
lemma flowsInto_operatorTags :
    FlowsInto u (operatorTags ++ transparent) comparison n ↔
      FlowsInto u transparent comparison n := by
  have hpasses : PassesUp u (operatorTags ++ transparent) = PassesUp u transparent := by
    funext a b
    exact propext passesUp_operatorTags
  rw [FlowsInto, hpasses, FlowsInto]

end

/-- The walk decides what it is for: it accepts a node exactly when the value of the node is passed
up a chain of nodes to one that an operator accepts. With more tags that pass values on and more
relations it accepts no less, and tags of operators change nothing. -/
theorem isCompared_ofDocument (d : Document) (fallback : Language.Flags) (transparent : List Tag)
    (comparison : Comparison) (n : Nat) :
    let u := ofDocument d fallback
    (isCompared u transparent comparison n = true ↔ FlowsInto u transparent comparison n) ∧
      (∀ transparent' relations, transparent ⊆ transparent' → comparison.relations ⊆ relations →
        isCompared u transparent comparison n = true →
        isCompared u transparent' { comparison with relations } n = true) ∧
      isCompared u (operatorTags ++ transparent) comparison n =
        isCompared u transparent comparison n := by
  intro u
  have hu : u.Linked := linked_ofDocument d fallback
  refine ⟨isCompared_iff hu, ?_, ?_⟩
  · intro transparent' relations htags hrelations h
    rw [isCompared_iff hu] at h ⊢
    exact h.mono htags hrelations
  · rw [Bool.eq_iff_iff, isCompared_iff hu, isCompared_iff hu, flowsInto_operatorTags]

/-- Zero on the left of a count in parentheses: that zero is less is found through the parentheses,
and still is when casts pass values on and equality is looked for as well. -/
theorem isCompared_ofDocument_mirrored :
    let d : Document :=
      { root := .mk { kind := .translationUnitDecl }
          [.mk { kind := .binaryOperator .lt }
            [.mk { kind := .implicitCastExpr } [.mk { kind := .integerLiteral 0 } []],
              .mk { kind := .parenExpr }
                [.mk { kind := .memberCallExpr { method := "count" } } []]]] }
    let u := ofDocument d (.ofTier .cpp20)
    let comparison : Comparison := ⟨.zero, [.greater]⟩
    ([Tag.parenExpr] ⊆ [.implicitCastExpr, .parenExpr] ∧
      comparison.relations ⊆ [.equal, .greater]) ∧
      FlowsInto u [.parenExpr] comparison 5 ∧
      isCompared u [.implicitCastExpr, .parenExpr] ⟨.zero, [.equal, .greater]⟩ 5 = true := by
  intro d u comparison
  have hcompared : isCompared u [.parenExpr] comparison 5 = true := by decide +kernel
  have htags : [Tag.parenExpr] ⊆ [.implicitCastExpr, .parenExpr] := by decide
  have hrelations : comparison.relations ⊆ [.equal, .greater] := by decide
  have hwalk := isCompared_ofDocument d (.ofTier .cpp20) [.parenExpr] comparison 5
  exact ⟨⟨htags, hrelations⟩, hwalk.1.1 hcompared, hwalk.2.1 _ _ htags hrelations hcompared⟩

end CppAdvice.Sentinel
