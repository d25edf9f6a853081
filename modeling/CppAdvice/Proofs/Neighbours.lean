import CppAdvice.Proofs.Hits
import CppAdvice.Proofs.Layout
import Mathlib.Data.List.Find
import Mathlib.Tactic.SplitIfs

/-!
# Top-level declarations on their own

A unit whose root has some of the top-level declarations of another is `Part` of it: its nodes are
found there under numbers that are all greater by the same, and the root is shared. From a node
below the root, the ways up and sideways lead at most to the root and to its children. The root is
no function, no loop and no comparison, the declarations before the part declare no variables, and a
parameter is not followed by what comes after the part. So the part looks the same in the larger
unit (`Part.simulation`), and the outcome of a run adds up over the top-level declarations
(`analyzeInto_append`).
-/

namespace CppAdvice

open CppAdvice.Tree CppAdvice.Matcher

namespace TranslationUnit

variable {u : TranslationUnit}

/-- What is above a node comes before it. -/
lemma lt_of_mem_ancestors {a i : Nat} (h : a ∈ u.ancestors i) : a < i := by
  rw [ancestors] at h
  cases hp : u.parent? i with
  | none =>
    rw [hp] at h
    cases h
  | some p =>
    simp only [hp] at h
    split_ifs at h with hlt
    · cases h with
      | head => exact hlt
      | tail _ h => exact Nat.lt_trans (lt_of_mem_ancestors h) hlt
    · cases h
termination_by i

/-- What is below a node comes after it, and is in the unit. -/
lemma lt_of_mem_descendants (hu : u.Linked) {i j : Nat} (h : j ∈ u.descendants i) :
    i < j ∧ j < u.size := by
  have hend := hu.subtreeEnd i
  obtain ⟨hij, hj⟩ := List.mem_range'_1.1 h
  omega

/-- What was written as an expression does not come before it. -/
lemma skipImplicit_bounds (hu : u.Linked) {i : Nat} (hi : i < u.size) :
    i ≤ u.skipImplicit i ∧ u.skipImplicit i < u.size := by
  rw [skipImplicit]
  split_ifs
  · cases hc : (u.children i).head? with
    | none => exact ⟨Nat.le_refl i, hi⟩
    | some c =>
      have hlt := hu.child (List.mem_of_head? hc)
      have hskip := skipImplicit_bounds hu hlt.2
      simp only [hlt, and_self, if_true]
      omega
  · exact ⟨Nat.le_refl i, hi⟩
termination_by u.size - i

end TranslationUnit

/-- The number in a larger unit of a node whose own unit is a part that starts `d` numbers later.
The root is shared. -/
def place (d i : Nat) : Nat :=
  if i = 0 then 0 else i + d

/-- The root is shared. -/
lemma place_zero (d : Nat) : place d 0 = 0 :=
  if_pos rfl

/-- A node below the root moves on by the number of nodes before the part. -/
lemma place_of_pos {d i : Nat} (h : 0 < i) : place d i = i + d :=
  if_neg (Nat.ne_of_gt h)

/-- Moving nodes on keeps their order. -/
lemma place_lt_place {d i j : Nat} : place d i < place d j ↔ i < j := by
  rw [place, place]
  split_ifs <;> omega

/-- Moving nodes on keeps them apart. -/
lemma place_inj {d i j : Nat} : place d i = place d j ↔ i = j := by
  rw [place, place]
  split_ifs <;> omega

/-- A run of numbers moves on as a whole. -/
lemma map_place_range' {d first : Nat} (h : 0 < first) (count : Nat) :
    (List.range' first count).map (place d) = List.range' (first + d) count := by
  have hmap : (List.range' first count).map (place d) = (List.range' first count).map (d + ·) := by
    apply List.map_congr_left
    intro i hi
    rw [place_of_pos (Nat.lt_of_lt_of_le h (List.mem_range'_1.1 hi).1), Nat.add_comm]
  rw [hmap, List.map_add_range', Nat.add_comm]

/-- One unit is a part of another, in which `before` and `after` are the other children of the
root. -/
structure Part (u v : TranslationUnit) (before after : List Nat) (d : Nat) : Prop where
  file : v.file = u.file
  source : v.source = u.source
  records : v.records = u.records
  language : v.language = u.language
  linked : u.Linked
  linked_whole : v.Linked
  size : u.size + d ≤ v.size
  entry : ∀ {i}, 0 < i → i < u.size →
    v.entry? (place d i) = (u.entry? i).map (·.renumber (place d) (place d))
  kind_root : v.kind 0 = u.kind 0
  tag_root : u.tag 0 = .translationUnitDecl
  parent_root : v.parent? 0 = none ∧ u.parent? 0 = none
  children_root : v.children 0 = before ++ (u.children 0).map (place d) ++ after
  le_of_before : ∀ {c}, c ∈ before → c ≤ d
  variableName : ∀ {c}, c ∈ before → (v.kind c).variableName? = none
  le_of_after : ∀ {c}, c ∈ after → u.size + d ≤ c
  last : after = [] ∨ ∀ c ∈ u.children 0, u.tag c ≠ .parmVarDecl

namespace Part

variable {u v : TranslationUnit} {before after : List Nat} {d : Nat}

/-- A node of the part has the same kind in the whole. -/
lemma kind (h : Part u v before after d) {i : Nat} (hi : i < u.size) :
    v.kind (place d i) = u.kind i := by
  rcases Nat.eq_zero_or_pos i with rfl | h0
  · rw [place_zero, h.kind_root]
  · rw [TranslationUnit.kind, TranslationUnit.kind, h.entry h0 hi]
    cases u.entry? i <;> rfl

/-- A node of the part has the same tag in the whole. -/
lemma tag (h : Part u v before after d) {i : Nat} (hi : i < u.size) :
    v.tag (place d i) = u.tag i := by
  rw [TranslationUnit.tag, h.kind hi, TranslationUnit.tag]

/-- A node of the part has the same type in the whole. -/
lemma type (h : Part u v before after d) {i : Nat} (h0 : 0 < i) (hi : i < u.size) :
    v.type? (place d i) = u.type? i := by
  rw [TranslationUnit.type?, TranslationUnit.type?, h.entry h0 hi]
  cases u.entry? i <;> rfl

/-- A node of the part has the same place in the file. -/
lemma range (h : Part u v before after d) {i : Nat} (h0 : 0 < i) (hi : i < u.size) :
    v.mainFileRange? (place d i) = u.mainFileRange? i := by
  rw [TranslationUnit.mainFileRange?, TranslationUnit.mainFileRange?, h.entry h0 hi, h.source]
  cases u.entry? i <;> rfl

/-- The parent of a node is the same in the whole, under its new number. -/
lemma parent (h : Part u v before after d) {i : Nat} (hi : i < u.size) :
    v.parent? (place d i) = (u.parent? i).map (place d) := by
  rcases Nat.eq_zero_or_pos i with rfl | h0
  · rw [place_zero, h.parent_root.1, h.parent_root.2, Option.map_none]
  · rw [TranslationUnit.parent?, TranslationUnit.parent?, h.entry h0 hi]
    cases u.entry? i <;> rfl

/-- The children of a node below the root are the same in the whole. -/
lemma children (h : Part u v before after d) {i : Nat} (h0 : 0 < i) (hi : i < u.size) :
    v.children (place d i) = (u.children i).map (place d) := by
  rw [TranslationUnit.children, TranslationUnit.children, h.entry h0 hi]
  cases u.entry? i <;> rfl

/-- The children of a node, among those that the root has in the larger unit. -/
lemma children_among (h : Part u v before after d) {i : Nat} (hi : i < u.size) :
    ∃ elder younger, v.children (place d i) = elder ++ (u.children i).map (place d) ++ younger ∧
      (∀ c ∈ elder, c ∈ before) ∧ (∀ c ∈ younger, c ∈ after) ∧
      (younger = [] ∨ ∀ c ∈ u.children i, u.tag c ≠ .parmVarDecl) := by
  rcases Nat.eq_zero_or_pos i with rfl | h0
  · exact ⟨before, after, by rw [place_zero, h.children_root], fun _ hc => hc,
      fun _ hc => hc, h.last⟩
  · exact ⟨[], [], by rw [h.children h0 hi, List.nil_append, List.append_nil], nofun,
      nofun, .inl rfl⟩

/-! ### What is below -/

/-- Wrappers of a node below the root lead to the same node in the whole. -/
lemma skipImplicit (h : Part u v before after d) {i : Nat} (h0 : 0 < i) (hi : i < u.size) :
    v.skipImplicit (place d i) = place d (u.skipImplicit i) := by
  rw [TranslationUnit.skipImplicit, TranslationUnit.skipImplicit, h.tag hi, h.children h0 hi,
    List.head?_map]
  cases hc : (u.children i).head? with
  | none => split_ifs <;> rfl
  | some c =>
    have hlt := h.linked.child (List.mem_of_head? hc)
    have hpos : 0 < c := Nat.lt_trans h0 hlt.1
    have hsize := h.size
    have hplace : place d c < v.size := by
      rw [place_of_pos hpos]
      omega
    simp only [Option.map_some, place_lt_place, hplace, hlt, and_self, if_true]
    split_ifs
    · exact h.skipImplicit hpos hlt.2
    · rfl
termination_by u.size - i

/-- What was written as the children of a node below the root is the same in the whole. -/
lemma written_children (h : Part u v before after d) {i : Nat} (h0 : 0 < i) (hi : i < u.size) :
    (v.children (place d i)).map v.skipImplicit =
      ((u.children i).map u.skipImplicit).map (place d) := by
  rw [h.children h0 hi, List.map_map, List.map_map]
  apply List.map_congr_left
  intro c hc
  obtain ⟨hic, hc⟩ := h.linked.child hc
  exact h.skipImplicit (Nat.lt_trans h0 hic) hc

/-- What is below a node below the root is the same in the whole. -/
lemma descendants (h : Part u v before after d) {i : Nat} (h0 : 0 < i) (hi : i < u.size) :
    v.descendants (place d i) = (u.descendants i).map (place d) := by
  have hend : v.subtreeEnd (place d i) = place d (u.subtreeEnd i) := by
    rw [TranslationUnit.subtreeEnd, TranslationUnit.subtreeEnd, h.entry h0 hi]
    cases u.entry? i <;> rfl
  have hcount : place d (u.subtreeEnd i) - (i + d + 1) = u.subtreeEnd i - (i + 1) := by
    rw [place]
    split_ifs <;> omega
  rw [TranslationUnit.descendants, TranslationUnit.descendants, hend, place_of_pos h0, hcount,
    map_place_range' (Nat.succ_pos i), Nat.add_right_comm]

/-- What was written below a node below the root is the same in the whole. -/
lemma below (h : Part u v before after d) {i : Nat} (h0 : 0 < i) (hi : i < u.size) :
    (v.descendants (place d i)).filter v.isWritten =
      ((u.descendants i).filter u.isWritten).map (place d) := by
  rw [h.descendants h0 hi, List.filter_map]
  congr 1
  apply List.filter_congr
  intro j hj
  rw [Function.comp_apply, TranslationUnit.isWritten, h.tag (u.lt_of_mem_descendants h.linked hj).2,
    TranslationUnit.isWritten]

/-! ### What is above -/

/-- The nodes above a node are the same, up to the root. -/
lemma ancestors (h : Part u v before after d) {i : Nat} (hi : i < u.size) :
    v.ancestors (place d i) = (u.ancestors i).map (place d) := by
  rw [TranslationUnit.ancestors, h.parent hi, TranslationUnit.ancestors]
  cases u.parent? i with
  | none => rfl
  | some p =>
    simp only [Option.map_some, place_lt_place]
    split_ifs with hlt
    · rw [List.map_cons, h.ancestors (Nat.lt_trans hlt hi)]
    · rfl
termination_by i

/-- What is above a node of the unit is in the unit. -/
lemma lt_size_of_mem_ancestors {a i : Nat} (hi : i < u.size) (ha : a ∈ u.ancestors i) :
    a < u.size :=
  Nat.lt_trans (TranslationUnit.lt_of_mem_ancestors ha) hi

/-- The function around a node is the same in the whole: the root is none. -/
lemma function (h : Part u v before after d) {i : Nat} (hi : i < u.size) :
    v.enclosingFunction? (place d i) = (u.enclosingFunction? i).map (place d) := by
  rw [TranslationUnit.enclosingFunction?, TranslationUnit.enclosingFunction?, h.ancestors hi,
    List.find?_map]
  congr 1
  apply List.find?_congr
  intro a ha
  rw [Function.comp_apply, h.tag (lt_size_of_mem_ancestors hi ha)]

/-- The root is no function. -/
lemma inside_function (h : Part u v before after d) {i j : Nat} (hi : i < u.size)
    (hj : u.enclosingFunction? i = some j) : 0 < j ∧ j < u.size := by
  have htag := List.find?_some hj
  rw [decide_eq_true_iff] at htag
  refine ⟨Nat.pos_of_ne_zero ?_, lt_size_of_mem_ancestors hi (List.mem_of_find?_eq_some hj)⟩
  rintro rfl
  rw [h.tag_root] at htag
  cases htag

/-- A node is inside of a loop in the whole if it is in the part: the root is none. -/
lemma loop (h : Part u v before after d) {i : Nat} (hi : i < u.size) :
    Condition.isInsideLoop v (place d i) = Condition.isInsideLoop u i := by
  have htags : ((u.ancestors i).map (place d)).map v.tag = (u.ancestors i).map u.tag := by
    rw [List.map_map]
    apply List.map_congr_left
    intro a ha
    exact h.tag (lt_size_of_mem_ancestors hi ha)
  rw [Condition.isInsideLoop, h.ancestors hi, htags, Condition.isInsideLoop]

/-! ### Comparisons -/

/-- A marker is recognized in the whole where it is in the part. -/
lemma holdsAt (h : Part u v before after d) (marker : Sentinel.Marker) {i : Nat} (hi : i < u.size) :
    marker.holdsAt v (place d i) = marker.holdsAt u i := by
  unfold Sentinel.Marker.holdsAt
  rw [h.kind hi]

/-- A comparison below the root has the same sides in the whole. -/
lemma comparesAt (h : Part u v before after d) (comparison : Sentinel.Comparison) {node : Nat}
    (h0 : 0 < node) (hnode : node < u.size) (side : Nat) (op : Opcode) :
    Sentinel.comparesAt v comparison (place d node) (place d side) op =
      Sentinel.comparesAt u comparison node side op := by
  have hmarker : ∀ c ∈ u.children node, comparison.marker.holdsAt v (v.skipImplicit (place d c)) =
      comparison.marker.holdsAt u (u.skipImplicit c) := by
    intro c hc
    obtain ⟨hlt, hc⟩ := h.linked.child hc
    rw [h.skipImplicit (Nat.lt_trans h0 hlt) hc, h.holdsAt _ (u.skipImplicit_bounds h.linked hc).2]
  rw [Sentinel.comparesAt, Sentinel.comparesAt, h.children h0 hnode]
  match u.children node, hmarker with
  | [], _ | [_], _ => rfl
  | lhs :: rhs :: _, hmarker =>
    simp only [List.map_cons, place_inj, hmarker lhs List.mem_cons_self,
      hmarker rhs (List.mem_cons_of_mem _ List.mem_cons_self)]

/-- A value flows up the same way. -/
lemma walk (h : Part u v before after d) (comparison : Sentinel.Comparison) (side : Nat)
    {above : List Nat} (habove : ∀ a ∈ above, a < u.size) :
    Sentinel.walk v Sentinel.defaultTransparent comparison (place d side) (above.map (place d)) =
      Sentinel.walk u Sentinel.defaultTransparent comparison side above := by
  induction above generalizing side with
  | nil => rfl
  | cons a above ih =>
    rw [List.forall_mem_cons] at habove
    rw [List.map_cons, Sentinel.walk, Sentinel.walk, h.kind habove.1, ih a habove.2]
    rcases Nat.eq_zero_or_pos a with rfl | h0
    -- The root passes no value on, nor does it compare.
    · have htag := h.tag_root
      rw [TranslationUnit.tag] at htag
      split
      case h_1 hkind => rfl
      case h_2 hkind => rw [hkind] at htag; cases htag
      case h_3 hkind => rw [hkind] at htag; cases htag
      case h_4 => rfl
    · simp only [h.comparesAt comparison h0 habove.1]

/-- A value flows into a comparison in the whole if it does in the part. -/
lemma compared (h : Part u v before after d) (comparison : Sentinel.Comparison) {i : Nat}
    (hi : i < u.size) :
    Sentinel.isCompared v Sentinel.defaultTransparent comparison (place d i) =
      Sentinel.isCompared u Sentinel.defaultTransparent comparison i := by
  rw [Sentinel.isCompared, h.ancestors hi, h.walk comparison i fun _ => lt_size_of_mem_ancestors hi,
    Sentinel.isCompared]

/-! ### Declarations -/

/-- A node of the part declares the same variable in the whole. -/
lemma declaresVariable (h : Part u v before after d) (name : String) {i : Nat} (hi : i < u.size) :
    v.declaresVariable name (place d i) = u.declaresVariable name i := by
  rw [TranslationUnit.declaresVariable, h.kind hi, TranslationUnit.declaresVariable]

/-- The declarations in a scope before a node of the part are those in the part. -/
lemma declarationIn (h : Part u v before after d) (name : String) {i scope : Nat} (h0 : 0 < i)
    (hi : i < u.size) (hscope : scope < u.size) :
    v.declarationIn? name (place d i) (place d scope) =
      (u.declarationIn? name i scope).map (place d) := by
  obtain ⟨elder, younger, hchildren, helder, hyounger, _⟩ := h.children_among hscope
  rw [TranslationUnit.declarationIn?, takeWhile_lt_eq_filter (h.linked_whole.sorted _),
    List.filter_filter, TranslationUnit.declarationIn?, takeWhile_lt_eq_filter (h.linked.sorted _),
    List.filter_filter, hchildren]
  have helder' :
      elder.filter (fun c => v.declaresVariable name c && decide (c < place d i)) = [] := by
    rw [List.filter_eq_nil_iff]
    intro c hc
    rw [TranslationUnit.declaresVariable, h.variableName (helder c hc)]
    exact Bool.false_ne_true
  have hyounger' :
      younger.filter (fun c => v.declaresVariable name c && decide (c < place d i)) = [] := by
    rw [List.filter_eq_nil_iff]
    intro c hc
    have hle := h.le_of_after (hyounger c hc)
    rw [place_of_pos h0, Bool.and_eq_true, decide_eq_true_iff]
    omega
  rw [List.filter_append, List.filter_append, helder', hyounger', List.nil_append, List.append_nil,
    List.filter_map, List.getLast?_map]
  congr 2
  apply List.filter_congr
  intro c hc
  rw [Function.comp_apply, h.declaresVariable name (h.linked.child hc).2,
    decide_eq_decide.2 place_lt_place]

/-- A name below the root means the same declaration in the whole. -/
lemma declaration (h : Part u v before after d) {i : Nat} (h0 : 0 < i) (hi : i < u.size) :
    v.declaration? (place d i) = (u.declaration? i).map (place d) := by
  rw [TranslationUnit.declaration?, TranslationUnit.declaration?, h.kind hi]
  split
  · rw [h.ancestors hi, ← List.head?_filterMap, ← List.head?_filterMap, List.filterMap_map,
      ← List.head?_map, List.map_filterMap]
    congr 1
    apply List.filterMap_congr
    intro a ha
    exact h.declarationIn _ h0 hi (lt_size_of_mem_ancestors hi ha)
  · rfl

/-- A declaration that a name means is a node below the root. -/
lemma inside_declaration (h : Part u v before after d) {i j : Nat}
    (hj : u.declaration? i = some j) :
    0 < j ∧ j < u.size := by
  rw [TranslationUnit.declaration?] at hj
  split at hj
  · obtain ⟨scope, _, hscope⟩ := List.exists_of_findSome?_eq_some hj
    have hmem := (List.mem_filter.1 (List.mem_of_getLast? hscope)).1
    obtain ⟨hlt, hj⟩ := h.linked.child ((List.takeWhile_sublist _).subset hmem)
    exact ⟨Nat.zero_lt_of_lt hlt, hj⟩
  · cases hj

/-- A parameter is followed by a size if it is in the part. -/
lemma sibling (h : Part u v before after d) {i : Nat} (h0 : 0 < i) (hi : i < u.size)
    (htag : u.tag i = .parmVarDecl) :
    Checks.followedBySize v (place d i) = Checks.followedBySize u i := by
  rw [Checks.followedBySize, Checks.followedBySize, h.parent hi]
  cases hp : u.parent? i with
  | none => rfl
  | some p =>
    obtain ⟨hlt, hmem⟩ := h.linked.parent hp
    obtain ⟨elder, younger, hchildren, helder, _, hlast⟩ := h.children_among (Nat.lt_trans hlt hi)
    obtain rfl : younger = [] := by
      rcases hlast with hlast | hnone
      · exact hlast
      · exact absurd htag (hnone i hmem)
    have hskip : ∀ c ∈ elder, decide (c ≠ place d i) = true := by
      intro c hc
      have hle := h.le_of_before (helder c hc)
      rw [place_of_pos h0, decide_eq_true_iff]
      omega
    have hsearch : (fun c => decide (c ≠ place d i)) ∘ place d = fun c => decide (c ≠ i) := by
      funext c
      rw [Function.comp_apply, decide_eq_decide, Ne, place_inj]
    simp only [Option.map_some, hchildren, List.append_nil, List.dropWhile_append_of_pos hskip,
      List.dropWhile_map, hsearch]
    have hinside : ∀ c ∈ (u.children p).dropWhile (fun c => decide (c ≠ i)), 0 < c ∧
        c < u.size := by
      intro c hc
      obtain ⟨hpc, hc⟩ := h.linked.child ((List.dropWhile_sublist _).subset hc)
      exact ⟨Nat.zero_lt_of_lt hpc, hc⟩
    match (u.children p).dropWhile fun c => decide (c ≠ i), hinside with
    | [], _ | [_], _ => rfl
    | _ :: next :: _, hinside =>
      obtain ⟨h0, hnext⟩ := hinside next (List.mem_cons_of_mem _ List.mem_cons_self)
      simp only [List.map_cons, h.tag hnext, h.type h0 hnext]

/-- Below its root, a part looks the same in the larger unit. -/
lemma simulation (h : Part u v before after d) :
    Simulation u v (place d) fun i => 0 < i ∧ i < u.size where
  file := h.file
  source := h.source
  records := h.records
  lt_iff := fun _ _ => place_lt_place
  kind := fun hi => h.kind hi.2
  type := fun hi => h.type hi.1 hi.2
  range := fun hi => h.range hi.1 hi.2
  children := fun hi => h.written_children hi.1 hi.2
  inside_children := by
    intro i c _ hc
    obtain ⟨hlt, hc⟩ := h.linked.child hc
    obtain ⟨hle, hskip⟩ := u.skipImplicit_bounds h.linked hc
    exact ⟨Nat.lt_of_lt_of_le (Nat.zero_lt_of_lt hlt) hle, hskip⟩
  below := fun hi => h.below hi.1 hi.2
  inside_below := by
    intro i j _ hj
    obtain ⟨hlt, hj⟩ := u.lt_of_mem_descendants h.linked hj
    exact ⟨Nat.zero_lt_of_lt hlt, hj⟩
  function := fun hi => h.function hi.2
  inside_function := fun hi hj => h.inside_function hi.2 hj
  loop := fun hi => h.loop hi.2
  compared := fun comparison hi => h.compared comparison hi.2
  declaration := fun hi => h.declaration hi.1 hi.2
  inside_declaration := fun _ hj => h.inside_declaration hj
  sibling := fun hi htag => h.sibling hi.1 hi.2 htag

/-- The numbers from one on are the nodes below the root. -/
lemma inside_range' (i : Nat) (hi : i ∈ List.range' 1 (u.size - 1)) : 0 < i ∧ i < u.size := by
  rw [List.mem_range'_1] at hi
  omega

/-- The matches below the root of a part are matches in the larger unit. -/
lemma hitsOn_below (h : Part u v before after d) {checks : List Check}
    (hchecks : RegularChecks checks) :
    hitsOn checks v (List.range' (1 + d) (u.size - 1)) =
      (hitsOn checks u (List.range' 1 (u.size - 1))).map (·.rename (place d)) := by
  rw [← map_place_range' Nat.one_pos, h.simulation.hitsOn_map hchecks inside_range']

/-- The matches below the root lead to the same findings in the whole. -/
lemma findings_below (h : Part u v before after d) {checks : List Check}
    (hchecks : RegularChecks checks) (tier : Language.Tier) :
    (hitsOn checks v (List.range' (1 + d) (u.size - 1))).filterMap (·.finding? v tier) =
      (hitsOn checks u (List.range' 1 (u.size - 1))).filterMap (·.finding? u tier) := by
  rw [← map_place_range' Nat.one_pos, h.simulation.findings_eq hchecks inside_range']

end Part

/-! ### Units of documents -/

open Tree.Node

section

variable (d : Document) (facts : Facts) (fallback : Language.Flags)

/-- The entry of the root of a unit with the given top-level declarations. -/
lemma entry?_root (nodes : List Node) :
    TranslationUnit.entry? (.ofDocument { d with root := .mk facts nodes } fallback) 0 =
      some ((mk facts nodes).entry none 0) := by
  rw [TranslationUnit.entry?_ofDocument, getElem?_entries_zero]

/-- The entries below the root are those of the top-level declarations. -/
lemma entry?_succ (nodes : List Node) (i : Nat) :
    TranslationUnit.entry? (.ofDocument { d with root := .mk facts nodes } fallback) (i + 1) =
      (entriesAll (some 0) 1 nodes)[i]? := by
  rw [TranslationUnit.entry?_ofDocument, entries, List.getElem?_cons_succ]

/-- The kind of a top-level declaration is found at its number. -/
lemma kind_topLevel (elder : List Node) (x : Node) (younger : List Node) :
    (TranslationUnit.ofDocument { d with root := .mk facts (elder ++ x :: younger) } fallback).kind
      (1 + sizeAll elder) = x.facts.kind.normalize := by
  have hx : Numbered (.mk facts (elder ++ x :: younger)) (some 0) (0 + 1 + sizeAll elder) x :=
    .child .root
  rw [TranslationUnit.kind, TranslationUnit.entry?_ofDocument, ← Nat.zero_add 1,
    hx.getElem?_entries]
  rfl

/-- Some neighbours among the top-level declarations of a document make up a part. -/
lemma part_ofDocument (elder nodes younger : List Node) (hfacts : facts.kind = .translationUnitDecl)
    (helder : ∀ x ∈ elder, x.facts.kind.tag ≠ .varDecl ∧ x.facts.kind.tag ≠ .parmVarDecl)
    (hlast : younger = [] ∨ ∀ x ∈ nodes, x.facts.kind.tag ≠ .parmVarDecl) :
    Part (.ofDocument { d with root := .mk facts nodes } fallback)
      (.ofDocument { d with root := .mk facts (elder ++ nodes ++ younger) } fallback)
      (ids 1 elder) (ids (1 + sizeAll elder + sizeAll nodes) younger) (sizeAll elder) := by
  have hmoves :
      ∀ {stop}, MovesBy (place (sizeAll elder)) (place (sizeAll elder)) (sizeAll elder) 1 stop :=
    ⟨fun h _ => place_of_pos h, fun h _ => place_of_pos h⟩
  constructor
  case file | source | records | language => rfl
  case linked | linked_whole => exact TranslationUnit.linked_ofDocument _ _
  case size =>
    simp only [TranslationUnit.size_ofDocument, Node.size, sizeAll_append]
    omega
  case entry =>
    intro i h0 hi
    obtain ⟨j, rfl⟩ : ∃ j, i = j + 1 := ⟨i - 1, by omega⟩
    simp only [TranslationUnit.size_ofDocument, Node.size] at hi
    have hentries :
        (entriesAll (some 0) 1 nodes).map
          (·.renumber (place (sizeAll elder)) (place (sizeAll elder))) =
        entriesAll (some 0) (1 + sizeAll elder) nodes := map_renumber_entriesAll hmoves
    rw [place_of_pos h0, Nat.add_right_comm, entry?_succ, entry?_succ,
      ← List.getElem?_map, hentries, entriesAll_append, entriesAll_append,
      List.getElem?_append_left
        (by rw [List.length_append, length_entriesAll, length_entriesAll]; omega),
      List.getElem?_append_right (by rw [length_entriesAll]; omega), length_entriesAll,
      Nat.add_sub_cancel]
  case kind_root =>
    rw [TranslationUnit.kind, TranslationUnit.kind, entry?_root, entry?_root]
    rfl
  case tag_root =>
    rw [TranslationUnit.tag, TranslationUnit.kind, entry?_root]
    exact (Kind.tag_normalize facts.kind).trans (congrArg Kind.tag hfacts)
  case parent_root =>
    rw [TranslationUnit.parent?, TranslationUnit.parent?, entry?_root, entry?_root]
    exact ⟨rfl, rfl⟩
  case children_root =>
    have hids : (ids 1 nodes).map (place (sizeAll elder)) = ids (1 + sizeAll elder) nodes :=
      hmoves.map_ids
    have hsplit : ids 1 (elder ++ nodes ++ younger) = ids 1 elder ++
        (ids 1 nodes).map (place (sizeAll elder)) ++
        ids (1 + sizeAll elder + sizeAll nodes) younger := by
      rw [ids_append, ids_append, hids, sizeAll_append, Nat.add_assoc]
    rw [TranslationUnit.children, TranslationUnit.children, entry?_root, entry?_root]
    exact hsplit
  case le_of_before =>
    intro c hc
    have hlt := lt_of_mem_ids hc
    omega
  case variableName =>
    intro c hc
    obtain ⟨eldest, x, others, rfl, rfl⟩ := exists_of_mem_ids hc
    obtain ⟨hvar, hparm⟩ := helder x (List.mem_append_right _ List.mem_cons_self)
    rw [List.append_assoc, List.append_assoc, List.cons_append, kind_topLevel]
    exact Facts.variableName?_normalize hvar hparm
  case le_of_after =>
    intro c hc
    have hle := le_of_mem_ids hc
    simp only [TranslationUnit.size_ofDocument, Node.size]
    omega
  case last =>
    rcases hlast with rfl | hnodes
    · exact .inl rfl
    · refine .inr fun c hc => ?_
      rw [TranslationUnit.children, entry?_root] at hc
      obtain ⟨eldest, x, others, heq, rfl⟩ := exists_of_mem_ids hc
      obtain rfl : nodes = eldest ++ x :: others := heq
      rw [TranslationUnit.tag, Nat.zero_add, kind_topLevel, Kind.tag_normalize]
      exact hnodes x (List.mem_append_right _ List.mem_cons_self)

end

/-! ### Runs -/

/-- No check matches the root of a unit. -/
lemma hitsAt_root {options : Options} {check : Check} (hcheck : check ∈ allChecks options)
    {u : TranslationUnit} (htag : u.tag 0 = .translationUnitDecl) : check.hitsAt u 0 = [] := by
  have hadmits : ((allChecks options).all fun check => check.rules.all fun rule =>
      !rule.matcher.admits .translationUnitDecl) = true := rfl
  rw [Check.hitsAt, List.filterMap_eq_nil_iff]
  intro rule hrule
  have hrule := List.all_eq_true.1 (List.all_eq_true.1 hadmits check hcheck) rule hrule
  rw [match?_eq_outcome]
  cases houtcome : rule.matcher.outcome u 0 with
  | none => rfl
  | some b =>
    have hadmitted := admits_of_outcome houtcome
    rw [htag] at hadmitted
    rw [hadmitted] at hrule
    cases hrule

/-- The root has no matches, so all of them are below it. -/
lemma hits_eq_hitsOn_below {options : Options} {checks : List Check}
    (hchecks : ∀ check ∈ checks, check ∈ allChecks options) {u : TranslationUnit}
    (hsize : 0 < u.size) (htag : u.tag 0 = .translationUnitDecl) :
    hits checks u = hitsOn checks u (List.range' 1 (u.size - 1)) := by
  have hpreorder : u.preorder = 0 :: List.range' 1 (u.size - 1) := by
    obtain ⟨n, hn⟩ : ∃ n, u.size = n + 1 := ⟨u.size - 1, by omega⟩
    rw [TranslationUnit.preorder, hn, List.range_eq_range', List.range'_succ, Nat.add_sub_cancel]
  have hroot : checks.flatMap (·.hitsAt u 0) = [] := by
    rw [List.flatMap_eq_nil_iff]
    exact fun check hcheck => hitsAt_root (hchecks check hcheck) htag
  rw [hits, hpreorder, List.flatMap_cons, hroot, List.nil_append, hitsOn]

section

variable {u w v : TranslationUnit} {before after before' after' : List Nat} {d : Nat}

/-- The matches in a unit of two parts are those below the shared root in one part and then in the
other. -/
lemma hits_parts {options : Options} {checks : List Check}
    (hchecks : ∀ check ∈ checks, check ∈ allChecks options) (htag : v.tag 0 = .translationUnitDecl)
    (hu : 0 < u.size) (hw : 0 < w.size) (hsize : v.size = u.size + w.size - 1) :
    hits checks v = hitsOn checks v (List.range' (1 + 0) (u.size - 1)) ++
      hitsOn checks v (List.range' (1 + (u.size - 1)) (w.size - 1)) := by
  have hcount : v.size - 1 = u.size - 1 + (w.size - 1) := by omega
  rw [hits_eq_hitsOn_below hchecks (by omega) htag, hcount, ← List.range'_append_1, hitsOn,
    hitsOn, hitsOn, List.flatMap_append]

/-- The outcome of a run over a unit of two parts is made up of those over the parts, whatever the
sinks hold. -/
lemma analyzeInto_parts (hu : Part u v before after 0) (hw : Part w v before' after' d)
    (hd : u.size = d + 1) (hwpos : 0 < w.size) (hsize : v.size = u.size + w.size - 1)
    (options : Options) (settings : Settings) (fallback : Language.Flags) :
    let e : Engine := ⟨.default options, settings, fallback⟩
    (∀ sink, (e.analyzeInto v sink).2 = (e.analyzeInto w (e.analyzeInto u sink).2).2) ∧
    ∀ sink sink₁ sink₂,
      let both := (e.analyzeInto v sink).1
      let first := (e.analyzeInto u sink₁).1
      let second := (e.analyzeInto w sink₂).1
      both.hits = first.hits + second.hits ∧ both.emitted = first.emitted + second.emitted ∧
        both.suppressed = first.suppressed + second.suppressed := by
  intro e
  obtain rfl : d = u.size - 1 := by omega
  have hupos : 0 < u.size := by omega
  have htag : v.tag 0 = .translationUnitDecl := by
    rw [TranslationUnit.tag, hu.kind_root]
    exact hu.tag_root
  have hchecks : ∀ check ∈ e.registry.eligible v.language, check ∈ allChecks options :=
    fun check hcheck => (List.mem_filter.1 hcheck).1
  have hregular : RegularChecks (e.registry.eligible v.language) :=
    (regular_allChecks options).filter _
  have hsplit := hits_parts hchecks htag hupos hwpos hsize
  have hhits := hits_eq_hitsOn_below hchecks hupos hu.tag_root
  have hhits' := hits_eq_hitsOn_below hchecks hwpos hw.tag_root
  have hlength : (hits (e.registry.eligible v.language) v).length =
      (hits (e.registry.eligible v.language) u).length +
        (hits (e.registry.eligible v.language) w).length := by
    rw [hsplit, hu.hitsOn_below hregular, hw.hitsOn_below hregular, List.length_append,
      List.length_map, List.length_map, hhits, hhits']
  have hfindings :
      (hits (e.registry.eligible v.language) v).filterMap (·.finding? v v.language.tier) =
        (hits (e.registry.eligible v.language) u).filterMap (·.finding? u v.language.tier) ++
          (hits (e.registry.eligible v.language) w).filterMap (·.finding? w v.language.tier) := by
    rw [hsplit, List.filterMap_append, hu.findings_below hregular, hw.findings_below hregular,
      hhits, hhits']
  simp only [Engine.analyzeInto_eq, Engine.passed, Engine.silenced, Engine.candidates,
    ← hu.language, ← hw.language, ← hu.source, ← hw.source, hfindings, hlength, List.filter_append,
    List.map_append, List.length_append, Array.append_assoc, List.append_toArray, and_self,
    implies_true]

end

/-- Top-level declarations are judged on their own: if none of the first ones is a variable or a
parameter, a run of all checks over all of them, whatever the options and levels, finds what a run
over the first ones finds and then what a run over the others finds. Into a sink, it hands on what
the two hand on one after the other; and whatever the sinks hold, its counts are those of the two
together. -/
theorem analyzeInto_append (options : Options) (settings : Settings) (fallback : Language.Flags)
    (d : Document) (facts : Facts) (xs ys : List Node) (hfacts : facts.kind = .translationUnitDecl)
    (hxs : ∀ x ∈ xs, x.facts.kind.tag ≠ .varDecl ∧ x.facts.kind.tag ≠ .parmVarDecl) :
    let e : Engine := ⟨.default options, settings, fallback⟩
    let unit := fun nodes => e.unit { d with root := .mk facts nodes }
    e.analyze (unit (xs ++ ys)) = e.analyze (unit xs) ++ e.analyze (unit ys) ∧
    (∀ sink, (e.analyzeInto (unit (xs ++ ys)) sink).2 =
      (e.analyzeInto (unit ys) (e.analyzeInto (unit xs) sink).2).2) ∧
    ∀ sink sink₁ sink₂,
      let both := (e.analyzeInto (unit (xs ++ ys)) sink).1
      let first := (e.analyzeInto (unit xs) sink₁).1
      let second := (e.analyzeInto (unit ys) sink₂).1
      both.hits = first.hits + second.hits ∧ both.emitted = first.emitted + second.emitted ∧
        both.suppressed = first.suppressed + second.suppressed := by
  intro e unit
  have hleft :=
    part_ofDocument d facts fallback [] xs ys hfacts nofun (.inr fun x hx => (hxs x hx).2)
  have hright := part_ofDocument d facts fallback xs ys [] hfacts hxs (.inl rfl)
  rw [List.append_nil] at hright
  have hsize : ∀ nodes, (unit nodes).size = sizeAll nodes + 1 :=
    fun nodes => TranslationUnit.size_ofDocument _ _
  have hpos : 0 < (unit ys).size := by
    rw [hsize]
    omega
  have hwhole : (unit (xs ++ ys)).size = (unit xs).size + (unit ys).size - 1 := by
    rw [hsize, hsize, hsize, sizeAll_append]
    omega
  obtain ⟨hsinks, hcounts⟩ :=
    analyzeInto_parts hleft hright (hsize xs) hpos hwhole options settings fallback
  refine ⟨?_, hsinks, hcounts⟩
  calc e.analyze (unit (xs ++ ys))
      = (e.analyzeInto (unit (xs ++ ys)) #[]).2.toList := rfl
    _ = (e.analyzeInto (unit ys) (e.analyzeInto (unit xs) #[]).2).2.toList :=
        congrArg Array.toList (hsinks #[])
    _ = e.analyze (unit xs) ++ e.analyze (unit ys) := e.toList_analyzeInto (unit ys) _

/-- A function and then a variable and two uses of streams, one of them silenced: every count has
something to add up. -/
theorem analyzeInto_append_streams :
    let d : Document :=
      { source := "std::endl;\nstd::cout; // NOLINT\nstd::cerr"
        root := .mk { kind := .translationUnitDecl } [] }
    let facts : Facts := { kind := .translationUnitDecl }
    let xs : List Node :=
      [.mk { kind := .functionDecl { name := "f" } }
        [.mk { kind := .declRefExpr "std::endl", range := some ⟨0, 9⟩ } []]]
    let ys : List Node :=
      [.mk { kind := .varDecl "x" .static } [],
        .mk { kind := .declRefExpr "std::cout", range := some ⟨11, 20⟩ } [],
        .mk { kind := .declRefExpr "std::cerr", range := some ⟨32, 41⟩ } []]
    let e : Engine := ⟨.default {}, {}, .ofTier .cpp17⟩
    let unit := fun nodes => e.unit { d with root := .mk facts nodes }
    let counts := fun nodes sink =>
      let summary := (e.analyzeInto (unit nodes) sink).1
      (summary.hits, summary.emitted, summary.suppressed)
    (facts.kind = .translationUnitDecl ∧
      ∀ x ∈ xs, x.facts.kind.tag ≠ .varDecl ∧ x.facts.kind.tag ≠ .parmVarDecl) ∧
    e.analyze (unit (xs ++ ys)) = e.analyze (unit xs) ++ e.analyze (unit ys) ∧
    counts xs #[] = (1, 1, 0) ∧ counts ys #[] = (2, 1, 1) ∧
    ∀ sink, counts (xs ++ ys) sink = (3, 2, 1) ∧
      (e.analyzeInto (unit (xs ++ ys)) sink).2 =
        (e.analyzeInto (unit ys) (e.analyzeInto (unit xs) sink).2).2 := by
  intro d facts xs ys e unit counts
  have hxs : ∀ x ∈ xs, x.facts.kind.tag ≠ .varDecl ∧ x.facts.kind.tag ≠ .parmVarDecl := by decide
  have hfirst : counts xs #[] = (1, 1, 0) := by decide +kernel
  have hsecond : counts ys #[] = (2, 1, 1) := by decide +kernel
  obtain ⟨hfindings, hsinks, hcounts⟩ :=
    analyzeInto_append {} {} (.ofTier .cpp17) d facts xs ys rfl hxs
  refine ⟨⟨rfl, hxs⟩, hfindings, hfirst, hsecond, fun sink => ⟨?_, hsinks sink⟩⟩
  obtain ⟨hhits, hemitted, hsuppressed⟩ := hcounts sink #[] #[]
  simp only [counts, Prod.mk.injEq] at hfirst hsecond ⊢
  rw [hhits, hemitted, hsuppressed, hfirst.1, hfirst.2.1, hfirst.2.2, hsecond.1, hsecond.2.1,
    hsecond.2.2]
  exact ⟨rfl, rfl, rfl⟩

end CppAdvice
