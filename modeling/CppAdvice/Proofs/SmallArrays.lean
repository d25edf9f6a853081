import CppAdvice.Proofs.Names
import CppAdvice.Proofs.Reservation
import CppAdvice.Proofs.Searches
import CppAdvice.Proofs.Substitution

/-!
# Small arrays, and the bound on their size

Local arrays are spoken about if a literal in the program keeps them small, where the largest size
that counts as small is an option. A call is spoken about exactly if it reserves room for an array
with local storage, and a variable exactly if it is such an array, built with a size. The bound
decides which of the literals count and nothing else (`Checks.Bounded`), so a smaller bound takes
findings away and leaves the others as they are, in their order. Both are said by the messages, from
which the literal can be read (`Checks.sizeText_inj`).
-/

namespace CppAdvice

open CppAdvice.Tree CppAdvice.Matcher

/-! ### Numbers in messages -/

namespace Template

variable {arg : String} {s : List Char}

/-- The placeholder of the first argument is filled in. -/
lemma renderChars_placeholder :
    renderChars [arg] ('\x7b' :: '0' :: '\x7d' :: s) = arg.toList ++ renderChars [arg] s :=
  renderChars_of_placeholder? rfl

/-- A template that has its argument in two places. -/
lemma render_twice {a b c : String} (ha : '\x7b' ∉ a.toList) (hb : '\x7b' ∉ b.toList)
    (hc : '\x7b' ∉ c.toList) :
    render (a ++ "{0}" ++ b ++ "{0}" ++ c) [arg] = a ++ arg ++ b ++ arg ++ c := by
  apply String.toList_inj.1
  have hzero : "{0}".toList = ['\x7b', '0', '\x7d'] := rfl
  simp only [render, String.toList_ofList, String.toList_append, hzero, List.append_assoc,
    List.cons_append, List.nil_append, renderChars_append ha, renderChars_append hb,
    renderChars_self hc, renderChars_placeholder]

end Template

/-- A number is read off up to the first character that is no digit. -/
lemma toString_append_inj {m n : Nat} {d : Char} {s t : List Char} (hd : d.isDigit = false)
    (h : (toString m).toList ++ d :: s = (toString n).toList ++ d :: t) : m = n := by
  have hdigits : ∀ (k : Nat) (u : List Char),
      ((toString k).toList ++ d :: u).takeWhile Char.isDigit = Nat.toDigits 10 k := by
    intro k u
    have hall : ∀ c ∈ Nat.toDigits 10 k, c.isDigit = true :=
      fun c hc => Nat.isDigit_of_mem_toDigits (by decide) (by decide) hc
    rw [Nat.toString_eq_repr, Nat.toList_repr, List.takeWhile_append_of_pos hall,
      List.takeWhile_cons_of_neg (by rw [hd]; exact Bool.false_ne_true), List.append_nil]
  have heq := congrArg (List.takeWhile Char.isDigit) h
  rw [hdigits, hdigits] at heq
  have hvalue := congrArg (fun digits => Nat.ofDigitChars 10 digits 0) heq
  simpa using hvalue

namespace Checks

/-- What is said about an array for which room is reserved, or that is built with a size. -/
def sizeTemplate (reserved : Bool) : String :=
  if reserved then
    "std::vector with reserve({0}) in local scope; consider std::inplace_vector<{0}> (C++26) to avoid heap allocation"
  else
    "local std::vector({0}) with small fixed size; consider std::inplace_vector<T, {0}> (C++26) for zero-allocation storage"

/-- What is said about an array of the given size. -/
def sizeText (reserved : Bool) (size : Nat) : String :=
  if reserved then
    "std::vector with reserve(" ++ toString size ++
      ") in local scope; consider std::inplace_vector<" ++
      toString size ++ "> (C++26) to avoid heap allocation"
  else
    "local std::vector(" ++ toString size ++
      ") with small fixed size; consider std::inplace_vector<T, " ++
      toString size ++ "> (C++26) for zero-allocation storage"

/-- The text of a size is its template with the size filled in. -/
lemma render_sizeTemplate (reserved : Bool) (size : Nat) :
    Template.render (sizeTemplate reserved) [toString size] = sizeText reserved size := by
  cases reserved with
  | true =>
    have htemplate : sizeTemplate true = "std::vector with reserve(" ++ "{0}" ++
        ") in local scope; consider std::inplace_vector<" ++ "{0}" ++
        "> (C++26) to avoid heap allocation" := by
      decide +kernel
    rw [htemplate, Template.render_twice (by decide) (by decide) (by decide)]
    rfl
  | false =>
    have htemplate : sizeTemplate false = "local std::vector(" ++ "{0}" ++
        ") with small fixed size; consider std::inplace_vector<T, " ++ "{0}" ++
        "> (C++26) for zero-allocation storage" := by
      decide +kernel
    rw [htemplate, Template.render_twice (by decide) (by decide) (by decide)]
    rfl

/-- A message tells which of the two shapes it is about, and the size. -/
lemma sizeText_inj {p q : Bool} {m n : Nat} (h : sizeText p m = sizeText q n) : p = q ∧ m = n := by
  have hlist := congrArg String.toList h
  cases p <;> cases q
  all_goals
    simp only [sizeText, if_true, Bool.false_eq_true, if_false, String.toList_append,
      List.append_assoc] at hlist
  · exact ⟨rfl, toString_append_inj (d := ')') (by decide) (List.append_cancel_left hlist)⟩
  · have hhead : some 'l' = some 's' := congrArg List.head? hlist
    exact absurd hhead (by decide)
  · have hhead : some 's' = some 'l' := congrArg List.head? hlist
    exact absurd hhead (by decide)
  · exact ⟨rfl, toString_append_inj (d := ')') (by decide) (List.append_cancel_left hlist)⟩

end Checks

/-! ### Reports of what a rule says -/

/-- The message of some advice. -/
def Advice.message (a : Advice) (u : TranslationUnit) (tier : Language.Tier) : String :=
  (a.steps.foldl (Step.apply u tier) {}).message

namespace Engine

variable {e e' : Engine} {u : TranslationUnit} {tier : Language.Tier} {hit hit' : Hit} {f : Finding}

/-- A report has the message of the advice. -/
lemma exists_verdict_of_reported? (h : e.reported? u tier hit = some f) :
    ∃ a, hit.rule.verdict u hit.bindings = some a ∧ f.message = a.message u tier := by
  obtain ⟨found, hfound, rfl⟩ := Option.map_eq_some_iff.1 h
  obtain ⟨a, ha, hcompose⟩ := Option.bind_eq_some_iff.1 (Option.filter_eq_some_iff.1 hfound).1
  obtain ⟨range, -, rfl⟩ := Option.map_eq_some_iff.1 hcompose
  exact ⟨a, ha, rfl⟩

/-- Advice is reported if it is on a node in the main file, its check may report, and no comment
silences it. -/
lemma exists_reported? {a : Advice} {range : SourceRange}
    (hverdict : hit.rule.verdict u hit.bindings = some a)
    (hrange : u.mainFileRange? a.anchor = some range)
    (hheard : (Suppression.Coverage.ofSource u.source).covers (u.position range.first.toNat).row
      hit.check.descriptor = false)
    (hlevel : e.settings.levelFor hit.check.descriptor.id ≠ .allow) :
    ∃ f, e.reported? u tier hit = some f ∧ f.message = a.message u tier := by
  have hreported : (e.reported? u tier hit).isSome = true := by
    rw [reported?, Hit.finding?, hverdict, Option.bind_some, compose, hrange]
    simp [Option.filter_some, hheard, hlevel]
  obtain ⟨f, hf⟩ := Option.isSome_iff_exists.1 hreported
  obtain ⟨a', ha', hmessage⟩ := exists_verdict_of_reported? hf
  cases hverdict.symm.trans ha'
  exact ⟨f, hf, hmessage⟩

/-- The same advice is reported in the same way. -/
lemma reported?_eq_of_verdict (hsettings : e.settings = e'.settings)
    (hcheck : hit.check.descriptor = hit'.check.descriptor)
    (hverdict : hit.rule.verdict u hit.bindings = hit'.rule.verdict u hit'.bindings) :
    e.reported? u tier hit = e'.reported? u tier hit' := by
  rw [reported?, reported?, Hit.finding?, Hit.finding?, hverdict, hcheck, hsettings]

/-- A match of the check at the node is reported with the given message. The findings of a run are
what is reported of its matches (`analyze_eq`). -/
def ReportsAt (e : Engine) (u : TranslationUnit) (check : Check) (node : Nat)
    (text : String) : Prop :=
  ∃ hit f, e.Matched u check hit ∧ hit.node = node ∧ e.reported? u u.language.tier hit = some f ∧
    f.message = text

end Engine

/-! ### Rules with a bound -/

namespace Checks

/-- The value of the labelled literal. -/
def literal? (u : TranslationUnit) (b : Bindings) : Option Nat :=
  (b.get? sizeLabel).bind fun id =>
    match u.kind id with
    | .integerLiteral value => some value.toNat
    | _ => none

/-- Rules that differ in a bound on the labelled literal, and in nothing else. They say the
literal. -/
structure Bounded (rule : Nat → Rule) (words : Nat → String) : Prop where
  matcher : ∀ m n, (rule m).matcher = (rule n).matcher
  small : ∀ {m u b a}, (rule m).verdict u b = some a →
    ∃ v ≤ m, literal? u b = some v ∧ ∀ tier, a.message u tier = words v
  same : ∀ {m n u b v}, literal? u b = some v → v ≤ m → v ≤ n →
    (rule m).verdict u b = (rule n).verdict u b

section

variable {e e' : Engine} {u : TranslationUnit} {tier : Language.Tier} {m n : Nat} {p : Finding →
  Bool}

/-- A smaller bound takes reports away by their words. -/
lemma Bounded.reported? {rule : Nat → Rule} {words : Nat → String} (h : Bounded rule words)
    (hsettings : e.settings = e'.settings) (hmn : m ≤ n)
    (hp : ∀ f v, f.message = words v → (p f = true ↔ v ≤ m)) {check check' : Check}
    (hcheck : check.descriptor = check'.descriptor) (node : Nat) (b : Bindings) :
    e.reported? u tier ⟨node, check, rule m, b⟩ =
      (e'.reported? u tier ⟨node, check', rule n, b⟩).filter p := by
  -- Both bounds admit a literal up to the smaller one, and then both rules say the same.
  have hsame : ∀ v, literal? u b = some v → v ≤ m →
      e.reported? u tier ⟨node, check, rule m, b⟩ = e'.reported? u tier ⟨node, check', rule n, b⟩ :=
    fun v hv hm =>
      Engine.reported?_eq_of_verdict hsettings hcheck (h.same hv hm (Nat.le_trans hm hmn))
  ext f
  rw [Option.filter_eq_some_iff]
  constructor
  · intro hf
    obtain ⟨a, ha, hmessage⟩ := Engine.exists_verdict_of_reported? hf
    obtain ⟨v, hm, hv, hwords⟩ := h.small ha
    exact ⟨hsame v hv hm ▸ hf, (hp f v (hmessage.trans (hwords tier))).2 hm⟩
  · rintro ⟨hf, hpf⟩
    obtain ⟨a, ha, hmessage⟩ := Engine.exists_verdict_of_reported? hf
    obtain ⟨v, -, hv, hwords⟩ := h.small ha
    exact (hsame v hv ((hp f v (hmessage.trans (hwords tier))).1 hpf)).trans hf

/-- A smaller bound takes reports away at every node, if all rules of the check have the bound. -/
lemma filterMap_hits_of_bounded (rules : List (Nat → Rule)) {check check' : Check}
    (hrules : check.rules = rules.map (· m)) (hrules' : check'.rules = rules.map (· n))
    (hcheck : check.descriptor = check'.descriptor) (hsettings : e.settings = e'.settings)
    (hmn : m ≤ n) (hbounded : ∀ rule ∈ rules, ∃ words, Bounded rule words ∧
      ∀ f v, f.message = words v → (p f = true ↔ v ≤ m)) :
    (hits [check] u).filterMap (e.reported? u tier) =
      ((hits [check'] u).filterMap (e'.reported? u tier)).filter p := by
  simp only [hits, Check.hitsAt, List.flatMap_singleton, List.filterMap_flatMap,
    List.filter_flatMap, hrules, hrules', List.filterMap_map, List.filterMap_filterMap,
    List.filter_filterMap]
  apply List.flatMap_congr
  intro node _
  apply List.filterMap_congr
  intro rule hrule
  obtain ⟨words, hrule, hp⟩ := hbounded rule hrule
  rw [Function.comp_apply, Function.comp_apply, hrule.matcher m n]
  cases (rule n).matcher.match? u node with
  | none => rfl
  | some b => exact hrule.reported? hsettings hmn hp hcheck node b

end

end Checks

/-- What is reported of one check is what its own matches lead to. -/
lemma Engine.filter_analyze {e : Engine} {u : TranslationUnit} {check : Check}
    (h : (e.registry.eligible u.language).filter (·.descriptor = check.descriptor) = [check]) :
    (e.analyze u).filter (·.check = check.descriptor) =
      (hits [check] u).filterMap (e.reported? u u.language.tier) := by
  rw [analyze_eq, ← h, hits_filter, List.filter_filterMap, List.filterMap_filter]
  apply List.filterMap_congr
  intro hit _
  exact filter_reported? e u u.language.tier hit fun d => decide (d = check.descriptor)

/-! ### Small arrays -/

namespace TranslationUnit

/-- A node has the type `std::vector`, and not through a reference or a pointer. -/
def HoldsArray (u : TranslationUnit) (id : Nat) : Prop :=
  ∃ ty, u.type? id = some ty ∧ ty.isValue = true ∧ ty.decl = some "std::vector"

/-- A reference has the type `std::vector`, maybe through a reference, but not through a pointer. -/
structure NamesArray (u : TranslationUnit) (r : Nat) (name : String) : Prop where
  reference : u.kind r = .declRefExpr name
  type : ∃ ty, u.type? r = some ty ∧ ty.isPointer = false ∧ ty.decl = some "std::vector"

/-- An array with local storage: an automatic variable, or a parameter. -/
structure LocalArray (u : TranslationUnit) (w : Nat) : Prop where
  storage : (∃ name, u.kind w = .varDecl name .automatic) ∨ ∃ name, u.kind w = .parmVarDecl name
  type : u.HoldsArray w

/-- The first argument of a call is the literal. -/
def PassesFirst (u : TranslationUnit) (c : Nat) (v : UInt64) : Prop :=
  ∃ a, (u.arguments c)[0]? = some a ∧ u.kind (u.skipImplicit a) = .integerLiteral v

/-- A call reserves room for `v` elements in an array with local storage. -/
structure ReservesLocal (u : TranslationUnit) (c : Nat) (v : UInt64) : Prop where
  call : ∃ call, u.kind c = .memberCallExpr call ∧ Describe.lastSegment call.method = "reserve"
  object : ∃ r name, u.object? c = some r ∧ u.NamesArray r name ∧
    ∃ w, IsGreatest {w | u.Visible name r w} w ∧ u.LocalArray w
  size : u.PassesFirst c v

/-- An automatic variable in a function is an array that is built with the size `v`. -/
structure SizesLocal (u : TranslationUnit) (c : Nat) (v : UInt64) : Prop where
  storage : ∃ name, u.kind c = .varDecl name .automatic
  type : u.HoldsArray c
  function : (u.enclosingFunction? c).isSome = true
  size : ∃ i, (u.children c).head? = some i ∧ u.tag (u.skipImplicit i) = .constructExpr ∧
    u.PassesFirst (u.skipImplicit i) v

end TranslationUnit

/-- The object of a member call is reached from the call. -/
lemma mem_targets_object {u : TranslationUnit} {id r : Nat} :
    r ∈ Route.object.targets u id ↔ u.tag id = .memberCallExpr ∧ u.object? id = some r := by
  rw [Route.targets, Route.firstChild, TranslationUnit.object?]
  split
  case isTrue h => simp [h]
  case isFalse h => simp [h]

/-- An argument is reached from a call, past its wrappers. -/
lemma mem_targets_argument {u : TranslationUnit} {id index x : Nat} :
    x ∈ (Route.argument index).targets u id ↔
      (u.tag id).isCallLike = true ∧ ∃ a, (u.arguments id)[index]? = some a ∧
        u.skipImplicit a = x := by
  rw [Route.targets]
  split
  case isTrue h => simp [h]
  case isFalse h => simp [h]

/-- The value that a variable starts with is reached from the variable, past its wrappers. -/
lemma mem_targets_initializer {u : TranslationUnit} {id x : Nat} :
    x ∈ Route.initializer.targets u id ↔
      u.tag id = .varDecl ∧ ∃ i, (u.children id).head? = some i ∧ u.skipImplicit i = x := by
  rw [Route.targets, Route.firstChild]
  split
  case isTrue h => simp [h]
  case isFalse h => simp [h]

/-- Being in a function is matched by there being one around the node. -/
lemma matches_enclosingFunction {u : TranslationUnit} {id : Nat} :
    (Matcher.enclosingFunction (.ofTag .functionDecl)).Matches u id ↔
      (u.enclosingFunction? id).isSome = true := by
  rw [Matcher.enclosingFunction, matches_reach, Route.targets, ← TranslationUnit.enclosingFunction?]
  simp only [matches_ofTag, Option.mem_toList, Option.isSome_iff_exists]
  constructor
  · rintro ⟨f, hf, -⟩
    exact ⟨f, hf⟩
  · rintro ⟨f, hf⟩
    exact ⟨f, hf, (TranslationUnit.mem_ancestors_of_enclosingFunction? hf).2⟩

namespace Checks

variable {u : TranslationUnit} {c id max : Nat} {b : Bindings} {v : UInt64}

/-- The pattern for arrays covers one name. -/
lemma stdVector_covers {name : String} : stdVector.covers name = true ↔ name = "std::vector" := by
  rw [stdVector, Pattern.Name.covers,
    show "::std::vector".toList = ':' :: ':' :: "std::vector".toList from rfl,
    Pattern.nameMatches_qualified, String.toList_inj]

/-- A type is that of an array if its declaration has the one name. -/
lemma declCovered_stdVector {ty : TypeRef} :
    Pattern.declCovered stdVector ty = true ↔ ty.decl = some "std::vector" := by
  simp only [Pattern.declCovered, Option.any_eq_true, stdVector_covers, exists_eq_right]

/-- An integer literal is matched as such. -/
lemma matches_anyInteger :
    Matcher.anyInteger.Matches u id ↔ ∃ v, u.kind id = .integerLiteral v := by
  rw [Matcher.anyInteger, matches_and, matches_ofTag, matches_test, Condition.holds,
    TranslationUnit.tag]
  cases u.kind id with
  | integerLiteral n => simp [Kind.tag]
  | _ => simp [Kind.tag]

/-- A reference to an array is matched as such. -/
lemma matches_declRef :
    ((Matcher.ofTag .declRefExpr).and (.typed (.classType stdVector))).Matches u id ↔
      ∃ name, u.NamesArray id name := by
  have htype : (Matcher.typed (.classType stdVector)).Matches u id ↔
      ∃ ty, u.type? id = some ty ∧ ty.isPointer = false ∧ ty.decl = some "std::vector" := by
    simp only [Matcher.typed, matches_test, Condition.holds, Option.any_eq_true,
      Pattern.TypePattern.covers, Bool.and_eq_true, Bool.not_eq_true', declCovered_stdVector]
  rw [matches_and, matches_ofTag, htype, TranslationUnit.tag]
  constructor
  · rintro ⟨htag, hty⟩
    cases hkind : u.kind id with
    | declRefExpr name => exact ⟨name, hkind, hty⟩
    | _ => simp [hkind, Kind.tag] at htag
  · rintro ⟨name, hkind, hty⟩
    rw [hkind]
    exact ⟨rfl, hty⟩

/-- A reference names an array with local storage if the last declaration that can be seen from it
does. -/
lemma refersToLocal_iff (hu : u.Rooted) {r : Nat} {name : String}
    (hr : u.kind r = .declRefExpr name) :
    refersToLocal u r = true ↔ ∃ w, IsGreatest {w | u.Visible name r w} w ∧ u.LocalArray w := by
  simp only [← hu.declaration?_eq_some_iff hr]
  rw [refersToLocal]
  cases u.declaration? r with
  | none => simp
  | some w =>
    have hdecl : ∀ ty : TypeRef, ty.decl.getD "" = "std::vector" ↔
        ty.decl = some "std::vector" := by
      intro ty
      cases ty.decl with
      | none => simp
      | some name => simp
    have htype :
        ((u.type? w).any fun ty => ty.isValue && stdVector.covers (ty.decl.getD "")) = true ↔
        u.HoldsArray w := by
      simp only [Option.any_eq_true, Bool.and_eq_true, stdVector_covers, hdecl,
        TranslationUnit.HoldsArray]
    simp only [Bool.and_eq_true, htype, Option.some.injEq, exists_eq_left']
    constructor
    · rintro ⟨hty, hstorage⟩
      cases hkind : u.kind w with
      | varDecl name storage =>
        simp only [hkind, decide_eq_true_iff] at hstorage
        subst hstorage
        exact ⟨.inl ⟨name, hkind⟩, hty⟩
      | parmVarDecl name => exact ⟨.inr ⟨name, hkind⟩, hty⟩
      | _ => simp [hkind] at hstorage
    · rintro ⟨⟨name, hkind⟩ | ⟨name, hkind⟩, hty⟩
      · simp [hty, hkind]
      · simp [hty, hkind]

/-- The rule on arrays for which room is reserved, or the one on arrays that are built with a
size. -/
def sizeRule (reserved : Bool) (max : Nat) : Rule :=
  if reserved then (preferInplaceVector max).rules.head (List.cons_ne_nil _ _)
  else (preferInplaceVector max).rules.getLast (List.cons_ne_nil _ _)

/-- What both rules say. -/
def sizeAdvice (reserved : Bool) (site size : Nat) : Advice :=
  ⟨site,
    [.message (sizeTemplate reserved) [toString size],
      .note (if reserved then
          "std::inplace_vector stores all elements inline (on the stack), eliminating allocator overhead entirely"
        else "for pre-C++26 code, boost::static_vector or absl::InlinedVector provide similar stack-based storage")]⟩

/-- The matcher of the rule on reserved sizes. -/
lemma matcher_reserveRule : (sizeRule true max).matcher =
    .bind Rule.site
      (((Matcher.memberCall ["reserve"]).and
        (.object
          (.bind vectorLabel
            ((Matcher.ofTag .declRefExpr).and (.typed (.classType stdVector)))))).and
        (.argument 0 (.bind sizeLabel .anyInteger))) :=
  rfl

/-- The advice of the rule on reserved sizes, which is about a local array alone. -/
lemma verdict_reserveRule : (sizeRule true max).verdict u b =
    (b.get? Rule.site).bind fun call => (smallSize? max u b).bind fun size =>
      (b.get? vectorLabel).bind fun vector =>
      if refersToLocal u vector then some (sizeAdvice true call size) else none :=
  rfl

/-- The matcher of the rule on initial sizes. -/
lemma matcher_sizedRule : (sizeRule false max).matcher =
    .bind Rule.site
      (((((Matcher.ofTag .varDecl).and (.typed (.named stdVector))).and
        (.test .localStorage)).and (.enclosingFunction (.ofTag .functionDecl))).and
        (.initializer
          ((Matcher.ofTag .constructExpr).and (.argument 0 (.bind sizeLabel .anyInteger))))) :=
  rfl

/-- The advice of the rule on initial sizes. -/
lemma verdict_sizedRule : (sizeRule false max).verdict u b =
    (b.get? Rule.site).bind fun decl => (smallSize? max u b).bind fun size =>
      some (sizeAdvice false decl size) :=
  rfl

/-- Advice on sizes is about the node and the size that the labels say. -/
lemma exists_of_verdict {reserved : Bool} {a : Advice}
    (h : (sizeRule reserved max).verdict u b = some a) :
    ∃ site size, b.get? Rule.site = some site ∧ smallSize? max u b = some size ∧
      a = sizeAdvice reserved site size := by
  cases reserved with
  | true =>
    rw [verdict_reserveRule] at h
    obtain ⟨call, hcall, h⟩ := Option.bind_eq_some_iff.1 h
    obtain ⟨size, hsize, h⟩ := Option.bind_eq_some_iff.1 h
    obtain ⟨vector, -, h⟩ := Option.bind_eq_some_iff.1 h
    split at h
    · exact ⟨call, size, hcall, hsize, (Option.some.inj h).symm⟩
    · cases h
  | false =>
    rw [verdict_sizedRule] at h
    obtain ⟨decl, hdecl, h⟩ := Option.bind_eq_some_iff.1 h
    obtain ⟨size, hsize, h⟩ := Option.bind_eq_some_iff.1 h
    exact ⟨decl, size, hdecl, hsize, (Option.some.inj h).symm⟩

/-- A small size is a literal that the bound lets pass. -/
lemma smallSize?_eq : smallSize? max u b = (literal? u b).filter (· ≤ max) := by
  rw [smallSize?, literal?]
  cases b.get? sizeLabel with
  | none => rfl
  | some id =>
    cases hkind : u.kind id with
    | integerLiteral value => simp [hkind, Option.filter_some]
    | _ => simp [hkind]

/-- A size counts as small if it is at most the bound. -/
lemma smallSize?_eq_some {size : Nat} : smallSize? max u b = some size ↔ literal? u b = some size ∧
    size ≤ max := by
  rw [smallSize?_eq, Option.filter_eq_some_iff, decide_eq_true_iff]

/-- Both rules are about arrays up to the bound, whatever the bound is. -/
lemma bounded_sizeRule (reserved : Bool) : Bounded (sizeRule reserved) (sizeText reserved) where
  matcher m n := by cases reserved <;> rfl
  small := by
    intro m u b a h
    obtain ⟨site, size, -, hsize, rfl⟩ := exists_of_verdict h
    obtain ⟨hliteral, hle⟩ := smallSize?_eq_some.1 hsize
    exact ⟨size, hle, hliteral, fun _ => render_sizeTemplate reserved size⟩
  same := by
    intro m n u b v hv hm hn
    have hm := smallSize?_eq_some.2 ⟨hv, hm⟩
    have hn := smallSize?_eq_some.2 ⟨hv, hn⟩
    cases reserved with
    | true => rw [verdict_reserveRule, verdict_reserveRule, hm, hn]
    | false => rw [verdict_sizedRule, verdict_sizedRule, hm, hn]

/-- The literal is the number at the node with the label. -/
lemma literal?_eq_some (h : b.get? sizeLabel = some id) :
    literal? u b = some v.toNat ↔ u.kind id = .integerLiteral v := by
  rw [literal?, h, Option.bind_some]
  cases u.kind id with
  | integerLiteral value => simp [UInt64.toNat_inj]
  | _ => simp

/-- A call is matched if its first argument is an integer literal. -/
lemma matches_firstInteger :
    (Matcher.argument 0 (.bind sizeLabel .anyInteger)).Matches u id ↔
      (u.tag id).isCallLike = true ∧ ∃ v, u.PassesFirst id v := by
  simp only [matches_argument, matches_bind, matches_anyInteger, TranslationUnit.PassesFirst]
  refine and_congr_right fun _ => ⟨?_, ?_⟩
  · rintro ⟨a, ha, v, hv⟩
    exact ⟨v, a, ha, hv⟩
  · rintro ⟨v, a, ha, hv⟩
    exact ⟨a, ha, v, hv⟩

/-- The only label on a first argument that is a literal is on the literal. -/
lemma label_of_firstInteger
    (h : (Matcher.argument 0 (.bind sizeLabel .anyInteger)).outcome u id = some b) :
    (∃ a, (u.arguments id)[0]? = some a ∧ b.get? sizeLabel = some (u.skipImplicit a)) ∧
      b.get? vectorLabel = none := by
  have hempty : ∀ {c : Condition} {id d}, (Matcher.test c).outcome u id = some d → d = {} := by
    intro c id d hd
    rw [outcome] at hd
    split at hd
    · exact (Option.some.inj hd).symm
    · cases hd
  rw [Matcher.argument, outcome] at h
  obtain ⟨x, hx, h⟩ := List.exists_of_findSome?_eq_some h
  rw [outcome] at h
  obtain ⟨d, hd, rfl⟩ := Option.map_eq_some_iff.1 h
  obtain ⟨-, a, ha, rfl⟩ := mem_targets_argument.1 hx
  rw [Matcher.anyInteger] at hd
  obtain ⟨tag, literal, htag, hliteral, rfl⟩ := outcome_and_eq_some.1 hd
  -- Conditions put no labels, so there is only the one of the argument.
  rw [hempty htag, hempty hliteral]
  refine ⟨⟨a, ha, ?_⟩, ?_⟩
  · rw [Bindings.get?_insert, if_pos rfl]
  · rw [Bindings.get?_insert, if_neg (by decide)]
    rfl

/-- The labels are on the call, its object and its first argument. -/
lemma label_of_reserveRule (h : (sizeRule true max).matcher.outcome u c = some b) :
    b.get? Rule.site = some c ∧ (∃ r, u.object? c = some r ∧ b.get? vectorLabel = some r) ∧
      ∃ a, (u.arguments c)[0]? = some a ∧ b.get? sizeLabel = some (u.skipImplicit a) := by
  rw [matcher_reserveRule] at h
  refine ⟨(Rule.get?_site h).1, ?_⟩
  rw [outcome] at h
  obtain ⟨b', hb', rfl⟩ := Option.map_eq_some_iff.1 h
  obtain ⟨call, size, hcall, hsize, rfl⟩ := outcome_and_eq_some.1 hb'
  obtain ⟨method, vector, -, hvector, rfl⟩ := outcome_and_eq_some.1 hcall
  obtain ⟨⟨a, ha, hsize⟩, hnone⟩ := label_of_firstInteger hsize
  obtain ⟨r, hr, hvector⟩ := find?_of_outcome_reach hvector
  obtain ⟨-, hobject⟩ := mem_targets_object.1 (List.mem_of_find?_eq_some hr)
  -- The labels of the argument are on top, and must not hide the one of the object.
  refine ⟨⟨r, hobject, ?_⟩, a, ha, ?_⟩
  · rw [Bindings.get?_insert, if_neg (by decide), Bindings.get?_overlay, hnone, Option.none_or,
      Bindings.get?_overlay, hvector, Option.some_or]
  · rw [Bindings.get?_insert, if_neg (by decide), Bindings.get?_overlay, hsize, Option.some_or]

/-- What the rule on reserved sizes matches. -/
lemma matches_reserveRule : (sizeRule true max).matcher.Matches u c ↔
    (∃ call, u.kind c = .memberCallExpr call ∧ Describe.lastSegment call.method = "reserve") ∧
      (∃ r name, u.object? c = some r ∧ u.NamesArray r name) ∧ ∃ v, u.PassesFirst c v := by
  rw [matcher_reserveRule, matches_bind, matches_and, matches_and,
    matches_memberCall_singleton (by decide), matches_firstInteger, Matcher.object, matches_reach]
  simp only [mem_targets_object, matches_bind, matches_declRef, TranslationUnit.tag]
  constructor
  · rintro ⟨⟨hcall, r, ⟨-, hobject⟩, name, hr⟩, -, hsize⟩
    exact ⟨hcall, ⟨r, name, hobject, hr⟩, hsize⟩
  · rintro ⟨⟨call, hkind, hmethod⟩, ⟨r, name, hobject, hr⟩, hsize⟩
    have htag : (u.kind c).tag = .memberCallExpr := by rw [hkind]; rfl
    exact ⟨⟨⟨call, hkind, hmethod⟩, r, ⟨htag, hobject⟩, name, hr⟩, by rw [htag]; rfl, hsize⟩

/-- A call is spoken about, with a literal, exactly if it reserves that much room for an array with
local storage. -/
lemma speaks_reserveRule (hu : u.Rooted) :
    (∃ b a, (sizeRule true max).matcher.match? u c = some b ∧
      (sizeRule true max).verdict u b = some a ∧
      literal? u b = some v.toNat) ↔ u.ReservesLocal c v ∧ v.toNat ≤ max := by
  simp only [match?_eq_outcome]
  constructor
  · rintro ⟨b, a, hb, hverdict, hliteral⟩
    obtain ⟨hcall, ⟨r, name, hobject, hr⟩, -⟩ := matches_reserveRule.1 (matches_iff.2 ⟨b, hb⟩)
    obtain ⟨hsite, ⟨r', hobject', hvector⟩, x, hx, hsize⟩ := label_of_reserveRule hb
    cases hobject.symm.trans hobject'
    rw [verdict_reserveRule, hsite, hvector, Option.bind_some] at hverdict
    obtain ⟨size, hsmall, hverdict⟩ := Option.bind_eq_some_iff.1 hverdict
    obtain ⟨hliteral', hle⟩ := smallSize?_eq_some.1 hsmall
    cases hliteral.symm.trans hliteral'
    rw [Option.bind_some] at hverdict
    split at hverdict
    case isTrue hlocal =>
      exact ⟨⟨hcall, ⟨r, name, hobject, hr, (refersToLocal_iff hu hr.reference).1 hlocal⟩,
        x, hx, (literal?_eq_some hsize).1 hliteral⟩, hle⟩
    case isFalse => cases hverdict
  · rintro ⟨⟨hcall, ⟨r, name, hobject, hr, hlocal⟩, x, hx, hv⟩, hle⟩
    obtain ⟨b, hb⟩ :=
      matches_iff.1 (matches_reserveRule.2 ⟨hcall, ⟨r, name, hobject, hr⟩, v, x, hx, hv⟩)
    obtain ⟨hsite, ⟨r', hobject', hvector⟩, x', hx', hsize⟩ := label_of_reserveRule hb
    cases hobject.symm.trans hobject'
    cases hx.symm.trans hx'
    have hliteral := (literal?_eq_some hsize).2 hv
    have hverdict : ∃ a, (sizeRule true max).verdict u b = some a := by
      rw [verdict_reserveRule, hsite, hvector, Option.bind_some,
        smallSize?_eq_some.2 ⟨hliteral, hle⟩, Option.bind_some, Option.bind_some,
        if_pos ((refersToLocal_iff hu hr.reference).2 hlocal)]
      exact ⟨_, rfl⟩
    obtain ⟨a, ha⟩ := hverdict
    exact ⟨b, a, hb, ha, hliteral⟩

/-- A local variable that holds an array is matched as such. -/
lemma matches_localArray :
    (((Matcher.ofTag .varDecl).and (.typed (.named stdVector))).and (.test .localStorage)).Matches u
      c ↔
      (∃ name, u.kind c = .varDecl name .automatic) ∧ u.HoldsArray c := by
  have htype : (Matcher.typed (.named stdVector)).Matches u c ↔ u.HoldsArray c := by
    simp only [Matcher.typed, matches_test, Condition.holds, Option.any_eq_true,
      Pattern.TypePattern.covers, Bool.and_eq_true, declCovered_stdVector,
      TranslationUnit.HoldsArray]
  rw [matches_and, matches_and, matches_ofTag, htype, matches_test, Condition.holds,
    TranslationUnit.tag]
  cases u.kind c with
  | varDecl name storage => simp [Kind.tag, and_comm]
  | _ => simp [Kind.tag]

/-- What the rule on initial sizes matches. -/
lemma matches_sizedRule : (sizeRule false max).matcher.Matches u c ↔
    ((∃ name, u.kind c = .varDecl name .automatic) ∧ u.HoldsArray c) ∧
      (u.enclosingFunction? c).isSome = true ∧
      ∃ i, (u.children c).head? = some i ∧ u.tag (u.skipImplicit i) = .constructExpr ∧
        ∃ v, u.PassesFirst (u.skipImplicit i) v := by
  rw [matcher_sizedRule, matches_bind, matches_and, matches_and, matches_localArray,
    matches_enclosingFunction, Matcher.initializer, matches_reach, and_assoc]
  refine and_congr_right fun hlocal => and_congr_right fun _ => ?_
  simp only [mem_targets_initializer, matches_and, matches_ofTag, matches_firstInteger]
  constructor
  · rintro ⟨x, ⟨-, i, hi, rfl⟩, htag, -, hsize⟩
    exact ⟨i, hi, htag, hsize⟩
  · rintro ⟨i, hi, htag, hsize⟩
    obtain ⟨⟨name, hkind⟩, -⟩ := hlocal
    have hdecl : u.tag c = .varDecl := by rw [TranslationUnit.tag, hkind]; rfl
    exact ⟨u.skipImplicit i, ⟨hdecl, i, hi, rfl⟩, htag, by rw [htag]; rfl, hsize⟩

/-- The labels are on the variable and on the size that its array is built with. -/
lemma label_of_sizedRule (h : (sizeRule false max).matcher.outcome u c = some b) :
    b.get? Rule.site = some c ∧ ∃ i a, (u.children c).head? = some i ∧
      (u.arguments (u.skipImplicit i))[0]? = some a ∧
      b.get? sizeLabel = some (u.skipImplicit a) := by
  rw [matcher_sizedRule] at h
  refine ⟨(Rule.get?_site h).1, ?_⟩
  rw [outcome] at h
  obtain ⟨b', hb', rfl⟩ := Option.map_eq_some_iff.1 h
  obtain ⟨decl, init, -, hinit, rfl⟩ := outcome_and_eq_some.1 hb'
  rw [Matcher.initializer, outcome] at hinit
  obtain ⟨x, hx, hinit⟩ := List.exists_of_findSome?_eq_some hinit
  obtain ⟨-, i, hi, rfl⟩ := mem_targets_initializer.1 hx
  obtain ⟨construct, size, -, hsize, rfl⟩ := outcome_and_eq_some.1 hinit
  obtain ⟨⟨a, ha, hsize⟩, -⟩ := label_of_firstInteger hsize
  refine ⟨i, a, hi, ha, ?_⟩
  rw [Bindings.get?_insert, if_neg (by decide), Bindings.get?_overlay, Bindings.get?_overlay, hsize,
    Option.some_or, Option.some_or]

/-- A variable is spoken about, with a literal, exactly if it is a local array that is built with
that size. -/
lemma speaks_sizedRule :
    (∃ b a, (sizeRule false max).matcher.match? u c = some b ∧
      (sizeRule false max).verdict u b = some a ∧
      literal? u b = some v.toNat) ↔ u.SizesLocal c v ∧ v.toNat ≤ max := by
  simp only [match?_eq_outcome]
  constructor
  · rintro ⟨b, a, hb, hverdict, hliteral⟩
    obtain ⟨⟨hstorage, htype⟩, hfunction, i, hi, htag, -⟩ :=
      matches_sizedRule.1 (matches_iff.2 ⟨b, hb⟩)
    obtain ⟨hsite, i', x, hi', hx, hsize⟩ := label_of_sizedRule hb
    cases hi.symm.trans hi'
    obtain ⟨w, hle, hw, -⟩ := (bounded_sizeRule false).small hverdict
    cases hliteral.symm.trans hw
    exact ⟨⟨hstorage, htype, hfunction, i, hi, htag, x, hx, (literal?_eq_some hsize).1 hliteral⟩,
      hle⟩
  · rintro ⟨⟨hstorage, htype, hfunction, i, hi, htag, x, hx, hv⟩, hle⟩
    obtain ⟨b, hb⟩ :=
      matches_iff.1 (matches_sizedRule.2 ⟨⟨hstorage, htype⟩, hfunction, i, hi, htag, v, x, hx, hv⟩)
    obtain ⟨hsite, i', x', hi', hx', hsize⟩ := label_of_sizedRule hb
    cases hi.symm.trans hi'
    cases hx.symm.trans hx'
    have hliteral := (literal?_eq_some hsize).2 hv
    have hverdict : ∃ a, (sizeRule false max).verdict u b = some a := by
      rw [verdict_sizedRule, hsite, Option.bind_some, smallSize?_eq_some.2 ⟨hliteral, hle⟩]
      exact ⟨_, rfl⟩
    obtain ⟨a, ha⟩ := hverdict
    exact ⟨b, a, hb, ha, hliteral⟩

/-- Advice on sizes is about the node that was matched. -/
lemma anchor_of_sizeRule {reserved : Bool} {a : Advice}
    (hmatch : (sizeRule reserved max).matcher.match? u c = some b)
    (hverdict : (sizeRule reserved max).verdict u b = some a) : a.anchor = c := by
  rw [match?_eq_outcome] at hmatch
  obtain ⟨site, size, hsite, -, rfl⟩ := exists_of_verdict hverdict
  cases reserved with
  | true => exact Option.some.inj (hsite.symm.trans (label_of_reserveRule hmatch).1)
  | false => exact Option.some.inj (hsite.symm.trans (label_of_sizedRule hmatch).1)

/-- The check has one rule for reserved sizes and one for initial ones. -/
lemma rules_preferInplaceVector :
    (preferInplaceVector max).rules = [true, false].map (sizeRule · max) :=
  rfl

/-- The check of small arrays, whatever the bound. -/
def smallArrays : Descriptor :=
  (preferInplaceVector 0).descriptor

/-- What is said in a report is what the rule with these words says about the literal. -/
lemma reportsAt_sizeText_iff {e : Engine} {range : SourceRange} {size : Nat} (reserved : Bool)
    (hruns : preferInplaceVector max ∈ e.registry.eligible u.language)
    (hrange : u.mainFileRange? c = some range)
    (hheard : (Suppression.Coverage.ofSource u.source).covers (u.position range.first.toNat).row
      smallArrays = false) (hlevel : e.settings.levelFor smallArrays.id ≠ .allow) :
    e.ReportsAt u (preferInplaceVector max) c (sizeText reserved size) ↔
      ∃ b a, (sizeRule reserved max).matcher.match? u c = some b ∧
        (sizeRule reserved max).verdict u b = some a ∧
        literal? u b = some size := by
  constructor
  · rintro ⟨hit, f, hmatched, rfl, hf, hmessage⟩
    obtain ⟨-, -, -, hrule, hmatch⟩ := Engine.matched_iff.1 hmatched
    rw [rules_preferInplaceVector] at hrule
    obtain ⟨other, -, hother⟩ := List.mem_map.1 hrule
    obtain ⟨a, ha, hwords⟩ := Engine.exists_verdict_of_reported? hf
    -- The words of the other rule are never the same.
    rw [← hother] at hmatch ha
    obtain ⟨v, -, hv, htext⟩ := (bounded_sizeRule other).small ha
    obtain ⟨rfl, rfl⟩ :=
      sizeText_inj ((htext u.language.tier).symm.trans (hwords.symm.trans hmessage))
    exact ⟨hit.bindings, a, hmatch, ha, hv⟩
  · rintro ⟨b, a, hmatch, ha, hliteral⟩
    let hit : Hit := ⟨c, preferInplaceVector max, sizeRule reserved max, b⟩
    obtain ⟨v, -, hv, htext⟩ := (bounded_sizeRule reserved).small ha
    cases hliteral.symm.trans hv
    have hanchor := anchor_of_sizeRule hmatch ha
    subst hanchor
    have hreported : ∃ f, e.reported? u u.language.tier hit = some f ∧
        f.message = a.message u u.language.tier :=
      Engine.exists_reported? ha hrange hheard hlevel
    obtain ⟨f, hf, hmessage⟩ := hreported
    have hnode : a.anchor < u.size := by
      by_contra hlt
      rw [TranslationUnit.mainFileRange?, TranslationUnit.entry?,
        Array.getElem?_eq_none (Nat.le_of_not_lt hlt)] at hrange
      cases hrange
    have hrule : sizeRule reserved max ∈ (preferInplaceVector max).rules := by
      rw [rules_preferInplaceVector]
      exact List.mem_map_of_mem (by cases reserved <;> decide)
    exact ⟨hit, f, Engine.matched_iff.2 ⟨hruns, hnode, rfl, hrule, hmatch⟩, rfl, hf,
      hmessage.trans (htext _)⟩

end Checks

/-- Of the checks that run, only the check itself has its descriptor. -/
lemma filter_eligible {options : Options} {runs : Descriptor → Bool} {language : Language.Flags}
    {check : Check} (hcheck : check ∈ allChecks options) (hruns : runs check.descriptor = true)
    (hlanguage : check.descriptor.isEligible language = true) :
    (Registry.eligible ⟨(allChecks options).filter (runs ·.descriptor)⟩ language).filter
      (·.descriptor = check.descriptor) = [check] := by
  have hnames : ((allChecks options).map (·.descriptor.name)).Nodup :=
    nodup_allChecks unambiguous_catalog.names options
  have hkey : ∀ {x y : Check}, x.descriptor = y.descriptor →
      x.descriptor.name = y.descriptor.name :=
    fun h => congrArg Descriptor.name h
  rw [Registry.eligible, List.filter_filter, List.filter_filter,
    ← filter_eq_singleton hnames hkey hcheck]
  apply List.filter_congr
  intro other _
  by_cases heq : other.descriptor = check.descriptor
  · simp [heq, hruns, hlanguage]
  · simp [heq]

/-- In a unit of the newest edition, a node is reported with a size exactly if it is a call that
reserves that much room for an array with local storage, or a variable that is such an array and
built with that size, and the size is not above the bound. With a smaller bound, the findings are
those of the greater bound that have a size up to it. -/
theorem preferInplaceVector_reports_iff (settings : Settings) (fallback : Language.Flags)
    (runs : Descriptor → Bool) (d : Document) :
    let engine : Nat → Engine := fun max =>
      { registry := ⟨(allChecks { maxInplaceSize := max }).filter (runs ·.descriptor)⟩,
        settings, fallback }
    let u := TranslationUnit.ofDocument d fallback
    let check := Checks.preferInplaceVector
    let findings := fun max => ((engine max).analyze u).filter (·.check = Checks.smallArrays)
    u.language.cplusplus = true → u.language.tier = .cpp26 → runs Checks.smallArrays = true →
    settings.levelFor Checks.smallArrays.id ≠ .allow →
    (∀ max c range v, u.mainFileRange? c = some range →
      (Suppression.Coverage.ofSource u.source).covers (u.position range.first.toNat).row
        Checks.smallArrays = false →
      ((engine max).ReportsAt u (check max) c (Checks.sizeText true v.toNat) ↔
        u.ReservesLocal c v ∧ v.toNat ≤ max) ∧
      ((engine max).ReportsAt u (check max) c (Checks.sizeText false v.toNat) ↔
        u.SizesLocal c v ∧ v.toNat ≤ max)) ∧
    ∀ m n, m ≤ n →
      findings m = (findings n).filter fun f =>
        ∃ v ≤ m, ∃ reserved, f.message = Checks.sizeText reserved v := by
  intro engine u check findings hlanguage htier hruns hlevel
  have hu : u.Rooted := TranslationUnit.rooted_ofDocument d fallback
  have hmem : ∀ max, check max ∈ allChecks { maxInplaceSize := max } :=
    fun max => List.mem_of_getElem? (i := 28) rfl
  have heligible : ∀ max, (check max).descriptor.isEligible u.language = true := by
    intro max
    rw [Descriptor.isEligible, hlanguage, htier]
    rfl
  constructor
  · intro max c range v hrange hheard
    have hmember : check max ∈ (engine max).registry.eligible u.language :=
      List.mem_filter.2 ⟨List.mem_filter.2 ⟨hmem max, hruns⟩, heligible max⟩
    rw [Checks.reportsAt_sizeText_iff true hmember hrange hheard hlevel,
      Checks.reportsAt_sizeText_iff false hmember hrange hheard hlevel]
    exact ⟨Checks.speaks_reserveRule hu, Checks.speaks_sizedRule⟩
  · intro m n hmn
    have hown : ∀ max, findings max =
        (hits [check max] u).filterMap ((engine max).reported? u u.language.tier) := by
      intro max
      rw [← Engine.filter_analyze (filter_eligible (hmem max) hruns (heligible max))]
      rfl
    rw [hown, hown]
    refine Checks.filterMap_hits_of_bounded ([true, false].map Checks.sizeRule) rfl rfl
      rfl rfl hmn ?_
    intro rule hrule
    obtain ⟨reserved, -, rfl⟩ := List.mem_map.1 hrule
    refine ⟨_, Checks.bounded_sizeRule reserved, ?_⟩
    intro f v hmessage
    -- The literal is read off the message.
    rw [decide_eq_true_iff, hmessage]
    constructor
    · rintro ⟨w, hw, other, htext⟩
      obtain ⟨-, rfl⟩ := Checks.sizeText_inj htext
      exact hw
    · intro hv
      exact ⟨v, hv, reserved, rfl⟩

/-- Room is reserved for a parameter that hides an array outside of all functions, and another array
is built with a greater size. -/
theorem preferInplaceVector_reports_iff_parameter :
    let array : TypeRef := { decl := some "std::vector" }
    let d : Document :=
      { source :=
        "std::vector<int> v; void f(std::vector<int> v) { v.reserve(8); std::vector<int> w(32); }\n"
        root := .mk { kind := .translationUnitDecl }
          [.mk { kind := .varDecl "v" .static, ty := some array } [],
            .mk { kind := .functionDecl { name := "f" } }
              [.mk { kind := .parmVarDecl "v", ty := some array } [],
                .mk { kind := .memberCallExpr { method := "std::vector::reserve" },
                      range := some ⟨49, 61⟩ }
                  [.mk { kind := .implicitCastExpr }
                      [.mk { kind := .declRefExpr "v",
                             ty := some { array with reference := .lvalue } } []],
                    .mk { kind := .implicitCastExpr } [.mk { kind := .integerLiteral 8 } []]],
                .mk { kind := .varDecl "w" .automatic, ty := some array, range := some ⟨63, 85⟩ }
                  [.mk { kind := .constructExpr .regular }
                    [.mk { kind := .integerLiteral 32 } []]]]] }
    let fallback := Language.Flags.ofTier .cpp26
    let engine : Nat → Engine := fun max =>
      { registry := ⟨(allChecks { maxInplaceSize := max }).filter fun _ => true⟩, fallback }
    let u := TranslationUnit.ofDocument d fallback
    let check := Checks.preferInplaceVector
    let findings := fun max => ((engine max).analyze u).filter (·.check = Checks.smallArrays)
    (u.language.cplusplus = true ∧ u.language.tier = .cpp26 ∧
      ({} : Settings).levelFor Checks.smallArrays.id ≠ .allow) ∧
    (engine 16).ReportsAt u (check 16) 4 (Checks.sizeText true 8) ∧
    ¬ (engine 7).ReportsAt u (check 7) 4 (Checks.sizeText true 8) ∧
    ¬ (engine 16).ReportsAt u (check 16) 9 (Checks.sizeText false 32) ∧
    findings 16 = (findings 64).filter fun f =>
      ∃ v ≤ (16 : Nat), ∃ reserved, f.message = Checks.sizeText reserved v := by
  intro array d fallback engine u check findings
  have hlanguage : u.language.cplusplus = true := by decide +kernel
  have htier : u.language.tier = .cpp26 := by decide +kernel
  have hlevel : ({} : Settings).levelFor Checks.smallArrays.id ≠ .allow := by decide +kernel
  have hu : u.Rooted := TranslationUnit.rooted_ofDocument d fallback
  have hreference : u.kind 6 = .declRefExpr "v" := by decide +kernel
  have hdeclaration : u.declaration? 6 = some 3 := by decide +kernel
  have hlocal : u.LocalArray 3 :=
    ⟨.inr ⟨"v", by decide +kernel⟩, array, by decide +kernel, rfl, rfl⟩
  have hreserves : u.ReservesLocal 4 8 :=
    { call := ⟨{ method := "std::vector::reserve" }, by decide +kernel, by decide +kernel⟩
      object := ⟨6, "v", by decide +kernel,
        ⟨hreference, { array with reference := .lvalue }, by decide +kernel, rfl, rfl⟩,
        3, (hu.declaration?_eq_some_iff hreference).1 hdeclaration, hlocal⟩
      size := ⟨7, by decide +kernel, by decide +kernel⟩ }
  obtain ⟨hreports, hbound⟩ :=
    preferInplaceVector_reports_iff {} fallback (fun _ => true) d hlanguage htier rfl hlevel
  have hcall := fun max => (hreports max 4 ⟨49, 61⟩ 8 (by decide +kernel) (by decide +kernel)).1
  have hvariable :=
    fun max => (hreports max 9 ⟨63, 85⟩ 32 (by decide +kernel) (by decide +kernel)).2
  refine ⟨⟨hlanguage, htier, hlevel⟩, (hcall 16).2 ⟨hreserves, by decide⟩, ?_, ?_,
    hbound 16 64 (by decide)⟩
  · intro h
    exact absurd ((hcall 7).1 h).2 (by decide)
  · intro h
    exact absurd ((hvariable 16).1 h).2 (by decide)

end CppAdvice
