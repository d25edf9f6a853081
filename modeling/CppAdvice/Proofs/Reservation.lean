import CppAdvice.Proofs.Labels
import CppAdvice.Proofs.Reports
import CppAdvice.Proofs.Scopes

/-!
# Room that is reserved for another variable

Growing an array in a loop is no matter for advice if room was reserved for it earlier in the
function. Which array a call is about is told by the name of its object, and a name can stand for
several variables. A call is therefore passed over exactly if room was reserved for some variable of
the same name (`preferReserve_silent_iff`), and this is wrong if none of those is the variable that
grows. In a function that declares no variable of the name before the call, all references of the
name see the same declarations (`TranslationUnit.Rooted.visible_iff_of_undeclared`), and nothing
goes wrong there.
-/

namespace CppAdvice

open CppAdvice.Tree CppAdvice.Matcher

namespace TranslationUnit

/-- The object of a member call, as it was written. -/
def object? (u : TranslationUnit) (call : Nat) : Option Nat :=
  (u.children call).head?.map u.skipImplicit

/-- The call `n` in the function `f`, which comes before the node `c`, reserves room for the object
`s`. -/
structure Reserves (u : TranslationUnit) (f c n s : Nat) : Prop where
  method : Describe.method? u n = some "reserve"
  within : n ∈ u.descendants f
  before : n < c
  object : u.object? n = some s

variable {u : TranslationUnit} {name : String} {c f n r s v w : Nat}

/-- What declares a variable is a variable or a parameter. -/
lemma tag_of_declaresVariable (h : u.declaresVariable name w = true) :
    u.tag w = .varDecl ∨ u.tag w = .parmVarDecl := by
  rw [tag]
  rcases declaresVariable_iff.1 h with ⟨storage, hkind⟩ | hkind
  · exact .inl (by rw [hkind]; rfl)
  · exact .inr (by rw [hkind]; rfl)

/-- The function around a node is above it. -/
lemma mem_ancestors_of_enclosingFunction? (h : u.enclosingFunction? c = some f) :
    f ∈ u.ancestors c ∧ u.tag f = .functionDecl := by
  rw [enclosingFunction?] at h
  exact ⟨List.mem_of_find?_eq_some h, by simpa using List.find?_some h⟩

/-- The object of a call is a variable if it is a reference to it. -/
lemma objectVariable?_eq_some :
    Describe.objectVariable? u c = some name ↔ ∃ s, u.object? c = some s ∧
      u.kind s = .declRefExpr name := by
  rw [Describe.objectVariable?, object?]
  cases (u.children c).head? with
  | none => simp
  | some child =>
    simp only [Option.bind_some, Option.map_some, Option.some.injEq, exists_eq_left',
      Describe.target?]
    cases u.kind (u.skipImplicit child) with
    | declRefExpr target => simp
    | _ => simp

/-- Room is reserved for a variable by its name. -/
lemma reservedEarlier_iff (hr : u.object? c = some r) (hname : u.kind r = .declRefExpr name)
    (hf : u.enclosingFunction? c = some f) :
    Checks.reservedEarlier u c = true ↔ ∃ n s, u.Reserves f c n s ∧
      u.kind s = .declRefExpr name := by
  rw [enclosingFunction?] at hf
  rw [Checks.reservedEarlier, objectVariable?_eq_some.2 ⟨r, hr, hname⟩, hf]
  simp only [takeWhile_lt_eq_filter (u.pairwise_descendants f), List.any_eq_true, List.mem_filter,
    Bool.and_eq_true, decide_eq_true_iff, objectVariable?_eq_some]
  constructor
  · rintro ⟨n, ⟨hwithin, hbefore⟩, hmethod, s, hs, hkind⟩
    exact ⟨n, s, ⟨hmethod, hwithin, hbefore, hs⟩, hkind⟩
  · rintro ⟨n, s, ⟨hmethod, hwithin, hbefore, hs⟩, hkind⟩
    exact ⟨n, ⟨hwithin, hbefore⟩, hmethod, s, hs, hkind⟩

namespace Rooted

/-- What a reference names has its name. -/
lemma variableName?_of_declaration? (hu : u.Rooted) (hr : u.kind r = .declRefExpr name)
    (h : u.declaration? r = some v) : (u.kind v).variableName? = some name := by
  obtain ⟨⟨scope, -, hv⟩, -⟩ := (hu.declaration?_eq_some_iff hr).1 h
  exact of_decide_eq_true (declaresVariable_iff.2 hv.declares)

/-- References to the same variable have the same name. -/
lemma kind_of_declaration?_eq (hu : u.Rooted) (hr : u.kind r = .declRefExpr name)
    (hv : u.declaration? r = some v) (hs : u.declaration? s = some v) :
    u.kind s = .declRefExpr name := by
  cases hkind : u.kind s with
  | declRefExpr other =>
    have hother := hu.variableName?_of_declaration? hkind hs
    rw [hu.variableName?_of_declaration? hr hv] at hother
    rw [Option.some.inj hother]
  | _ => simp [declaration?, hkind] at hs

/-- From below a function in which the name is not declared so far, the declarations around the
function can be seen. -/
lemma visible_iff_of_undeclared (hu : u.Rooted) (hf : f ∈ u.ancestors r)
    (hfunction : u.tag f = .functionDecl)
    (hundeclared : ∀ w ∈ u.descendants f, w < r → u.declaresVariable name w = false) :
    u.Visible name r w ↔ ∃ scope ∈ u.ancestors f, u.DeclaredIn name f scope w := by
  constructor
  · rintro ⟨scope, hscope, hw⟩
    have hdeclares := declaresVariable_iff.2 hw.declares
    have hout : w ∉ u.descendants f := by
      intro hbelow
      rw [hundeclared w hbelow hw.before] at hdeclares
      cases hdeclares
    -- A declaration after the function would be below it, and the function declares no variable
    -- itself.
    have hwf : w < f := by
      rcases Nat.lt_trichotomy w f with hlt | rfl | hlt
      · exact hlt
      · have htag := tag_of_declaresVariable hdeclares
        simp [hfunction] at htag
      · exact absurd (hu.mem_descendants_of_le hf hlt (Nat.le_of_lt hw.before)) hout
    have hscopew := (hu.parent hw.parent).1
    have hbelow :=
      hu.mem_descendants_of_le hscope (Nat.lt_trans hscopew hwf)
        (Nat.le_of_lt (lt_of_mem_ancestors hf))
    exact ⟨scope, hu.mem_descendants_iff.1 hbelow, hw.declares, hw.parent, hwf⟩
  · rintro ⟨scope, hscope, hw⟩
    exact ⟨scope, hu.ancestors_trans hf hscope, hw.declares, hw.parent,
      Nat.lt_trans hw.before (lt_of_mem_ancestors hf)⟩

/-- References below a function in which their name is not declared so far name the same
variable. -/
lemma declaration?_eq_of_undeclared (hu : u.Rooted) (hr : u.kind r = .declRefExpr name)
    (hs : u.kind s = .declRefExpr name) (hfr : f ∈ u.ancestors r) (hfs : f ∈ u.ancestors s)
    (hfunction : u.tag f = .functionDecl) (hsr : s ≤ r)
    (hundeclared : ∀ w ∈ u.descendants f, w < r → u.declaresVariable name w = false) :
    u.declaration? s = u.declaration? r := by
  have hvisible : ∀ v, u.Visible name s v ↔ u.Visible name r v := by
    intro v
    rw [hu.visible_iff_of_undeclared hfr hfunction hundeclared,
      hu.visible_iff_of_undeclared hfs hfunction fun w hw hlt =>
        hundeclared w hw (Nat.lt_of_lt_of_le hlt hsr)]
  ext v
  rw [hu.declaration?_eq_some_iff hr, hu.declaration?_eq_some_iff hs]
  simp only [hvisible]

/-- The object of a call is below it, and only wrappers are between the two. -/
lemma object?_spec (hu : u.Rooted) (h : u.object? c = some s) :
    s ∈ u.descendants c ∧ ∀ j, c < j → j < s → (u.tag j).isImplicitWrapper = true := by
  obtain ⟨child, hchild, rfl⟩ := Option.map_eq_some_iff.1 h
  exact hu.skipImplicit_head? hchild

/-- A reference that room is reserved for comes before the call that comes later. -/
lemma lt_of_reserves (hu : u.Rooted) (h : u.Reserves f c n s) (hs : u.kind s = .declRefExpr name)
    (hc : u.tag c = .memberCallExpr) : s < c := by
  obtain ⟨-, hwrappers⟩ := hu.object?_spec h.object
  rcases Nat.lt_trichotomy s c with hlt | rfl | hlt
  · exact hlt
  · rw [tag, hs] at hc
    cases hc
  · have hwrapper := hwrappers c h.before hlt
    rw [hc] at hwrapper
    cases hwrapper

/-- A name that is not declared before a call is not declared before its object. -/
lemma undeclared_of_object? (hu : u.Rooted) (hr : u.object? c = some r)
    (hc : u.tag c = .memberCallExpr)
    (hundeclared : ∀ w ∈ u.descendants f, w < c → u.declaresVariable name w = false) :
    ∀ w ∈ u.descendants f, w < r → u.declaresVariable name w = false := by
  intro w hw hwr
  obtain ⟨-, hwrappers⟩ := hu.object?_spec hr
  by_contra hdeclares
  rw [Bool.not_eq_false] at hdeclares
  have htag := tag_of_declaresVariable hdeclares
  rcases Nat.lt_trichotomy w c with hlt | rfl | hlt
  · rw [hundeclared w hw hlt] at hdeclares
    cases hdeclares
  · simp [hc] at htag
  · have hwrapper := hwrappers w hlt hwr
    rcases htag with htag | htag
    · simp [htag, Tag.isImplicitWrapper] at hwrapper
    · simp [htag, Tag.isImplicitWrapper] at hwrapper

end Rooted

end TranslationUnit

namespace Checks

variable {e : Engine} {u : TranslationUnit} {hit : Hit}

/-- A call that lets an array grow is passed over if room is thought to be reserved. -/
lemma verdict_of_matched (h : e.Matched u preferReserve hit) :
    u.tag hit.node = .memberCallExpr ∧
      (hit.rule.verdict u hit.bindings = none ↔ reservedEarlier u hit.node = true) := by
  obtain ⟨-, -, -, hrule, hmatch⟩ := Engine.matched_iff.1 h
  generalize hit.rule = rule at hrule hmatch ⊢
  cases List.mem_singleton.1 hrule
  have hmatches : Matches _ u hit.node := Option.isSome_of_eq_some hmatch
  rw [match?_eq_outcome] at hmatch
  constructor
  · simp only [Rule.provided, matches_bind, matches_and, matches_memberCall] at hmatches
    obtain ⟨⟨⟨call, hkind, -⟩, -⟩, -⟩ := hmatches
    rw [TranslationUnit.tag, hkind]
    rfl
  · simp only [Rule.provided, (Rule.get?_site hmatch).1, Option.bind_some]
    cases reservedEarlier u hit.node with
    | false => simp
    | true => simp

end Checks

/-- A call that lets the variable `v` grow is passed over exactly if room was reserved earlier in
the function for a variable of the same name. This is right exactly if, whenever room was reserved
for such a variable, it was also reserved for `v`, and so always in a function that has declared no
variable of the name before the call. -/
theorem preferReserve_silent_iff (e : Engine) (d : Document) (hit : Hit) (name : String)
    (r v f : Nat) :
    let u := e.unit d
    e.Matched u Checks.preferReserve hit → u.object? hit.node = some r →
      u.kind r = .declRefExpr name →
    u.declaration? r = some v → u.enclosingFunction? hit.node = some f →
    let silent := hit.rule.verdict u hit.bindings = none
    let sameName := ∃ n s, u.Reserves f hit.node n s ∧ u.kind s = .declRefExpr name
    let sameVariable := ∃ n s, u.Reserves f hit.node n s ∧ u.declaration? s = some v
    (silent ↔ sameName) ∧
      ((silent ↔ sameVariable) ↔ (sameName → sameVariable)) ∧
      ((∀ w ∈ u.descendants f, w < hit.node → u.declaresVariable name w = false) →
        (silent ↔ sameVariable)) := by
  intro u hmatched hobject hname hdeclaration hfunction silent sameName sameVariable
  have hu : u.Rooted := TranslationUnit.rooted_ofDocument d e.fallback
  obtain ⟨hcall, hverdict⟩ := Checks.verdict_of_matched hmatched
  have hsilent : silent ↔ sameName :=
    hverdict.trans (TranslationUnit.reservedEarlier_iff hobject hname hfunction)
  have hname_of_variable : sameVariable → sameName := by
    rintro ⟨n, s, hreserves, hs⟩
    exact ⟨n, s, hreserves, hu.kind_of_declaration?_eq hname hdeclaration hs⟩
  have hexact : (silent ↔ sameVariable) ↔ (sameName → sameVariable) := by
    rw [hsilent]
    exact ⟨fun h => h.1, fun h => ⟨h, hname_of_variable⟩⟩
  refine ⟨hsilent, hexact, ?_⟩
  intro hundeclared
  rw [hexact]
  rintro ⟨n, s, hreserves, hs⟩
  refine ⟨n, s, hreserves, ?_⟩
  rw [← hdeclaration]
  -- Both objects are below the function, and the earlier one sees no more than the later one does.
  obtain ⟨hfc, htag⟩ := TranslationUnit.mem_ancestors_of_enclosingFunction? hfunction
  have hcr := (hu.object?_spec hobject).1
  have hns := (hu.object?_spec hreserves.object).1
  have hfr : f ∈ u.ancestors r := hu.ancestors_trans (hu.mem_descendants_iff.1 hcr) hfc
  have hfs : f ∈ u.ancestors s :=
    hu.mem_descendants_iff.1 (hu.descendants_trans hreserves.within hns)
  have hsr : s ≤ r := by
    have hsc := hu.lt_of_reserves hreserves hs hcall
    have hlt := (TranslationUnit.lt_of_mem_descendants hu.toLinked hcr).1
    omega
  exact hu.declaration?_eq_of_undeclared hname hs hfr hfs htag hsr
    (hu.undeclared_of_object? hobject hcall hundeclared)

/-- Room is reserved for an array outside of all functions, in a block of the function that lets it
grow; an array of the same name in another function does not matter. -/
theorem preferReserve_silent_iff_global :
    let e : Engine := { registry := .default {}, fallback := .ofTier .cpp20 }
    let array : TypeRef := { decl := some "std::vector" }
    let v : Node :=
      .mk { kind := .declRefExpr "v", ty := some { array with reference := .lvalue } } []
    let d : Document :=
      { root := .mk { kind := .translationUnitDecl }
          [.mk { kind := .varDecl "v" .static, ty := some array } [],
            .mk { kind := .functionDecl { name := "g" } }
              [.mk { kind := .parmVarDecl "v", ty := some array } []],
            .mk { kind := .functionDecl { name := "f" } }
              [.mk { kind := .compoundStmt }
                [.mk { kind := .memberCallExpr { method := "reserve" } } [v]],
                .mk { kind := .forStmt }
                  [.mk { kind := .memberCallExpr { method := "push_back" } }
                    [.mk { kind := .implicitCastExpr } [v]]]]] }
    let u := e.unit d
    ∃ hit, hit.node = 9 ∧
      (e.Matched u Checks.preferReserve hit ∧ u.object? hit.node = some 11 ∧
        u.kind 11 = .declRefExpr "v" ∧
        u.declaration? 11 = some 1 ∧ u.enclosingFunction? hit.node = some 4) ∧
      (∀ w ∈ u.descendants 4, w < hit.node → u.declaresVariable "v" w = false) ∧
      (hit.rule.verdict u hit.bindings = none ↔
        ∃ n s, u.Reserves 4 hit.node n s ∧ u.declaration? s = some 1) := by
  intro e array v d u
  let hit : Hit :=
    { node := 9
      check := Checks.preferReserve
      rule := Checks.preferReserve.rules.head (List.cons_ne_nil _ _)
      bindings := ⟨[(Rule.site, 9)]⟩ }
  have hruns : Checks.preferReserve ∈ e.registry.eligible u.language :=
    List.mem_filter.2 ⟨List.mem_of_getElem? (i := 8) rfl, by decide +kernel⟩
  have hmatched : e.Matched u Checks.preferReserve hit :=
    Engine.matched_iff.2
      ⟨hruns, by decide +kernel, rfl, List.head_mem (List.cons_ne_nil _ _), by decide +kernel⟩
  have hobject : u.object? hit.node = some 11 := by decide +kernel
  have hname : u.kind 11 = .declRefExpr "v" := by decide +kernel
  have hdeclaration : u.declaration? 11 = some 1 := by decide +kernel
  have hfunction : u.enclosingFunction? hit.node = some 4 := by decide +kernel
  have hundeclared : ∀ w ∈ u.descendants 4, w < hit.node → u.declaresVariable "v" w = false := by
    decide +kernel
  exact ⟨hit, rfl, ⟨hmatched, hobject, hname, hdeclaration, hfunction⟩, hundeclared,
    (preferReserve_silent_iff e d hit "v" 11 1 4 hmatched hobject hname hdeclaration hfunction).2.2
      hundeclared⟩

/-- Room is reserved in a block of its own, for an array that has the name of the one that grows
after it. -/
theorem preferReserve_silent_shadowed :
    let e : Engine := { registry := .default {}, fallback := .ofTier .cpp20 }
    let array : TypeRef := { decl := some "std::vector" }
    let v : Node :=
      .mk { kind := .declRefExpr "v", ty := some { array with reference := .lvalue } } []
    let d : Document :=
      { file := "a.cpp"
        source :=
          "void f() { { std::vector<int> v; v.reserve(8); } std::vector<int> v; for (;;) v.push_back(1); }\n"
        root := .mk { kind := .translationUnitDecl }
          [.mk { kind := .functionDecl { name := "f", isDefinition := true } }
            [.mk { kind := .compoundStmt }
              [.mk { kind := .compoundStmt }
                  [.mk { kind := .varDecl "v" .automatic, range := some ⟨13, 31⟩,
                         ty := some array } [],
                    .mk { kind := .memberCallExpr { method := "reserve",
                                                    className := some "std::vector" },
                          range := some ⟨33, 45⟩ }
                      [v, .mk { kind := .integerLiteral 8 } []]],
                .mk { kind := .varDecl "v" .automatic, range := some ⟨49, 67⟩,
                      ty := some array } [],
                .mk { kind := .forStmt }
                  [.mk { kind := .memberCallExpr { method := "push_back",
                                                   className := some "std::vector" },
                         range := some ⟨78, 92⟩ }
                    [v, .mk { kind := .integerLiteral 1 } []]]]]] }
    let u := e.unit d
    ∃ hit, e.Matched u Checks.preferReserve hit ∧ u.object? hit.node = some 11 ∧
      u.declaration? 11 = some 8 ∧
      u.enclosingFunction? hit.node = some 1 ∧ hit.rule.verdict u hit.bindings = none ∧
      ¬ ∃ n s, u.Reserves 1 hit.node n s ∧ u.declaration? s = some 8 := by
  intro e array v d u
  let hit : Hit :=
    { node := 10
      check := Checks.preferReserve
      rule := Checks.preferReserve.rules.head (List.cons_ne_nil _ _)
      bindings := ⟨[(Rule.site, 10)]⟩ }
  have hruns : Checks.preferReserve ∈ e.registry.eligible u.language :=
    List.mem_filter.2 ⟨List.mem_of_getElem? (i := 8) rfl, by decide +kernel⟩
  have hmatched : e.Matched u Checks.preferReserve hit :=
    Engine.matched_iff.2
      ⟨hruns, by decide +kernel, rfl, List.head_mem (List.cons_ne_nil _ _), by decide +kernel⟩
  have hother : ∀ n ∈ u.descendants 1, ∀ s ∈ u.object? n, u.declaration? s = some 8 →
      Describe.method? u n ≠ some "reserve" := by
    decide +kernel
  refine ⟨hit, hmatched, by decide +kernel, by decide +kernel, by decide +kernel,
    by decide +kernel, ?_⟩
  rintro ⟨n, s, hreserves, hs⟩
  exact hother n hreserves.within s hreserves.object hs hreserves.method

end CppAdvice
