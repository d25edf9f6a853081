import CppAdvice.Proofs.Qualification
import CppAdvice.Proofs.Regex
import CppAdvice.Proofs.Simulation
import Mathlib.Data.List.Basic

/-!
# Matchers that rule each other out

No node has two tags, no call has two callees and no member call two methods, so two matchers that
ask for different ones never match the same node. Whether they do is read off the two matchers: off
the tags that they admit, off the conditions that both must meet at the node itself, and off the
tags at the end of a route that leads to one node only. A text that a callee is compared with is a
list of names or an expression with finitely many texts, so two of them can be compared name by
name.
-/

namespace CppAdvice

open CppAdvice.Tree CppAdvice.Pattern CppAdvice.Matcher

namespace Describe

/-- A text is all of its part up to `::`, or goes on with `::` after it. -/
lemma eq_untilSeparator (s : List Char) :
    s = untilSeparator s ∨ ∃ rest, s = untilSeparator s ++ ':' :: ':' :: rest := by
  fun_induction untilSeparator s with
  | case1 => exact .inl rfl
  | case2 rest => exact .inr ⟨rest, rfl⟩
  | case3 c s _ ih =>
    rcases ih with ih | ⟨rest, ih⟩
    · exact .inl (congrArg (c :: ·) ih)
    · exact .inr ⟨rest, congrArg (c :: ·) ih⟩

/-- Characters other than colons come before the first separator. -/
lemma untilSeparator_append {word : List Char} (h : ':' ∉ word) (s : List Char) :
    untilSeparator (word ++ s) = word ++ untilSeparator s := by
  induction word with
  | nil => rfl
  | cons c word ih =>
    rw [List.mem_cons, not_or] at h
    rw [List.cons_append, List.cons_append, ← ih h.2, untilSeparator]
    rintro rest rfl
    exact absurd rfl h.1

/-- A word comes before the first separator if it is all there is, or the separator follows it. -/
lemma untilSeparator_eq_iff {word s : List Char} (h : ':' ∉ word) :
    untilSeparator s = word ↔ ∃ rest, s = word ++ rest ∧ (rest = [] ∨ [':', ':'] <+: rest) := by
  constructor
  · rintro rfl
    rcases eq_untilSeparator s with hs | ⟨rest, hs⟩
    · exact ⟨[], by rwa [List.append_nil], .inl rfl⟩
    · exact ⟨_, hs, .inr ⟨rest, rfl⟩⟩
  · rintro ⟨rest, rfl, hrest⟩
    rw [untilSeparator_append h, List.append_right_eq_self]
    rcases hrest with rfl | ⟨rest, rfl⟩
    · rfl
    · rfl

end Describe

namespace Pattern

/-- A pattern with a leading separator covers one name. -/
lemma eq_of_nameMatches_qualified {pattern name : List Char}
    (hp : [':', ':'].isPrefixOf pattern = true) (h : nameMatches pattern name = true) :
    ':' :: ':' :: name = pattern := by
  obtain ⟨full, rfl⟩ := List.isPrefixOf_iff_prefix.1 hp
  rw [nameMatches_qualified.1 h]
  rfl

/-- A pattern without colons covers the names with that last segment. -/
lemma nameMatches_iff {pattern name : List Char} (hp : ':' ∉ pattern) :
    nameMatches pattern name = true ↔ Describe.untilSeparator name.reverse = pattern.reverse := by
  have hleading : ¬ Name.separator <+: pattern := by
    rintro ⟨rest, rfl⟩
    exact hp List.mem_cons_self
  have hp' : ':' ∉ pattern.reverse := by rwa [List.mem_reverse]
  rw [nameMatches_iff_append hleading, Describe.untilSeparator_eq_iff hp']
  constructor
  · rintro ⟨head, rfl, hhead⟩
    refine ⟨head.reverse, List.reverse_append, hhead.imp ?_ List.reverse_prefix.2⟩
    exact fun hnil => List.reverse_eq_nil_iff.2 hnil
  · rintro ⟨rest, hrest, h⟩
    refine ⟨rest.reverse, ?_, h.imp ?_ ?_⟩
    · rw [← List.reverse_reverse name, hrest, List.reverse_append, List.reverse_reverse]
    · exact fun hnil => List.reverse_eq_nil_iff.2 hnil
    · intro hstart
      rwa [← List.reverse_prefix, List.reverse_reverse]

/-- Patterns without colons cover the names with one of them as the last segment. -/
lemma Name.covers_any_iff {patterns : List String} (hp : ∀ pattern ∈ patterns, ':' ∉ pattern.toList)
    {name : String} :
    (Name.any patterns).covers name = true ↔ Describe.lastSegment name ∈ patterns := by
  rw [Name.covers, List.any_eq_true]
  constructor
  · rintro ⟨pattern, hmem, h⟩
    rw [nameMatches_iff (hp pattern hmem)] at h
    rwa [Describe.lastSegment, h, List.reverse_reverse, String.ofList_toList]
  · intro h
    refine ⟨_, h, ?_⟩
    rw [nameMatches_iff (hp _ h), Describe.lastSegment, String.toList_ofList, List.reverse_reverse]

/-- Patterns with a leading `::` cover the names after it. -/
lemma Name.covers_any_qualified {names : List String} {name : String} :
    (Name.any (names.map ("::" ++ ·))).covers name = true ↔ name ∈ names := by
  have hmatches : ∀ other : String, nameMatches ("::" ++ other).toList name.toList = true ↔
      name = other := by
    intro other
    rw [String.toList_append, show "::".toList = [':', ':'] from rfl, List.cons_append,
      List.cons_append, List.nil_append, nameMatches_qualified, String.toList_inj]
  simp only [Name.covers, List.any_map, List.any_eq_true, Function.comp_apply, hmatches,
    exists_eq_right']

end Pattern

namespace Matcher

namespace Condition

/-- The names, with `::` before them, that the condition allows for a callee, if it lists them. -/
def callees? : Condition → Option (List (List Char))
  | .callee (.any patterns) =>
    if patterns.all fun pattern => [':', ':'].isPrefixOf pattern.toList then
      some (patterns.map String.toList) else none
  | .calleeRegex (.seq .start (.seq r .finish)) => r.words?
  | _ => none

/-- The last segments that the condition allows for the name of a method, if it lists them. -/
def methods? : Condition → Option (List (List Char))
  | .method (.any patterns) =>
    if patterns.all fun pattern => !pattern.toList.contains ':' then
      some (patterns.map String.toList) else none
  | _ => none

/-- Whether two lists of names are given and have none in common. -/
def areApart : Option (List (List Char)) → Option (List (List Char)) → Bool
  | some names, some others => names.all fun name => !others.contains name
  | _, _ => false

/-- Whether the conditions are on types of which one is a value and the other a reference. -/
def areTypesApart : Condition → Condition → Bool
  | .type (.named _), .type (.rvalueRef _) => true
  | _, _ => false

/-- Whether the conditions can be seen to hold at no node together. -/
def excludes (c d : Condition) : Bool :=
  areApart c.callees? d.callees? || areApart c.methods? d.methods? || c.areTypesApart d

variable {u : TranslationUnit} {id : Nat} {c d : Condition} {names : List (List Char)}

/-- Two lists of names are apart if both are known and have nothing in common. -/
lemma areApart_iff {names others : Option (List (List Char))} :
    areApart names others = true ↔ ∃ l m, names = some l ∧ others = some m ∧
      ∀ name ∈ l, name ∉ m := by
  unfold areApart
  split
  case h_1 l m => simp
  case h_2 hnone =>
    constructor
    · intro h
      cases h
    · rintro ⟨l, m, hl, hm, _⟩
      exact absurd hm (hnone l m hl)

/-- A condition on callees that lists names holds of calls with one of them. -/
lemma mem_callees (hc : c.callees? = some names) (h : c.holds u id = true) :
    ∃ called, u.kind id = .callExpr (some called) ∧ ':' :: ':' :: called.toList ∈ names := by
  unfold callees? at hc
  split at hc
  case h_1 patterns =>
    split_ifs at hc with hqualified
    cases hc
    rw [holds] at h
    split at h
    case h_1 called hkind =>
      obtain ⟨pattern, hmem, hmatch⟩ := List.any_eq_true.1 h
      refine ⟨called, hkind, ?_⟩
      rw [eq_of_nameMatches_qualified (List.all_eq_true.1 hqualified pattern hmem) hmatch]
      exact List.mem_map_of_mem hmem
    case h_2 => cases h
  case h_2 r =>
    obtain ⟨hplain, hfresh, hwords⟩ := Regex.words?_spec hc
    rw [holds] at h
    split at h
    case h_1 called hkind =>
      exact ⟨called, hkind, (hwords _).1 ((Regex.occursIn_whole hplain hfresh _).1 h)⟩
    case h_2 => cases h
  case h_3 => cases hc

/-- A condition on methods that lists names holds of calls with one of them. -/
lemma mem_methods (hc : c.methods? = some names) (h : c.holds u id = true) :
    ∃ call, u.kind id = .memberCallExpr call ∧
      (Describe.lastSegment call.method).toList ∈ names := by
  unfold methods? at hc
  split at hc
  case h_1 patterns =>
    split_ifs at hc with hsegments
    cases hc
    rw [holds] at h
    split at h
    case h_1 call hkind =>
      have hcolons : ∀ pattern ∈ patterns, ':' ∉ pattern.toList := by simpa using hsegments
      exact ⟨call, hkind, List.mem_map_of_mem ((Name.covers_any_iff hcolons).1 h)⟩
    case h_2 => cases h
  case h_2 => cases hc

/-- No node meets two conditions on types that are apart. -/
lemma false_of_areTypesApart (h : c.areTypesApart d = true) (hc : c.holds u id = true)
    (hd : d.holds u id = true) :
    False := by
  unfold areTypesApart at h
  split at h
  case h_1 name name' =>
    rw [holds] at hc hd
    cases hty : u.type? id with
    | none =>
      rw [hty] at hc
      cases hc
    | some ty =>
      simp only [hty, Option.any_some, TypePattern.covers, TypeRef.isValue, Bool.and_eq_true,
        decide_eq_true_iff]
        at hc hd
      rw [hc.1.1] at hd
      cases hd.1
  case h_2 => cases h

/-- A call has one callee, a member call one method, and a node one type. -/
lemma false_of_excludes (h : c.excludes d = true) (hc : c.holds u id = true)
    (hd : d.holds u id = true) : False := by
  rw [excludes, Bool.or_eq_true, Bool.or_eq_true] at h
  rcases h with (h | h) | h
  · obtain ⟨l, m, hl, hm, hapart⟩ := areApart_iff.1 h
    obtain ⟨called, hkind, hmem⟩ := mem_callees hl hc
    obtain ⟨called', hkind', hmem'⟩ := mem_callees hm hd
    obtain rfl : called = called' := by simpa using hkind.symm.trans hkind'
    exact hapart _ hmem hmem'
  · obtain ⟨l, m, hl, hm, hapart⟩ := areApart_iff.1 h
    obtain ⟨call, hkind, hmem⟩ := mem_methods hl hc
    obtain ⟨call', hkind', hmem'⟩ := mem_methods hm hd
    obtain rfl : call = call' := by simpa using hkind.symm.trans hkind'
    exact hapart _ hmem hmem'
  · exact false_of_areTypesApart h hc hd

end Condition

variable {u : TranslationUnit} {id : Nat} {m n : Matcher} {b d : Bindings}

/-- Whether no tag is admitted by both matchers. -/
def areTagsApart (m n : Matcher) : Bool :=
  (.unknown :: Tag.known).all fun tag => !(m.admits tag && n.admits tag)

/-- No node is matched by two matchers whose tags are apart. -/
lemma false_of_areTagsApart (h : m.areTagsApart n = true) (hm : m.outcome u id = some b)
    (hn : n.outcome u id = some d) : False := by
  have hmem : ∀ tag : Tag, tag ∈ Tag.unknown :: Tag.known := by
    intro tag
    cases tag <;> decide
  have hno := List.all_eq_true.1 h (u.tag id) (hmem _)
  rw [admits_of_outcome hm, admits_of_outcome hn] at hno
  cases hno

mutual

/-- The matchers that have to match at a node for the matcher to match there. -/
def conjuncts : Matcher → List Matcher
  | .allOf matchers => conjunctsAll matchers
  | .bind _ inner => inner.conjuncts
  | m => [m]

/-- The parts that have to match of several matchers. -/
def conjunctsAll : List Matcher → List Matcher
  | [] => []
  | matcher :: matchers => matcher.conjuncts ++ conjunctsAll matchers

end

mutual

/-- Where a matcher matches, so does each of the parts that have to. -/
lemma outcome_of_mem_conjuncts {u : TranslationUnit} {id : Nat} {part : Matcher} :
    ∀ {m : Matcher} {b : Bindings}, m.outcome u id = some b → part ∈ m.conjuncts →
      (part.outcome u id).isSome = true
  | .allOf matchers, b, h, hpart => by
    rw [outcome] at h
    rw [conjuncts] at hpart
    exact outcome_of_mem_conjunctsAll h hpart
  | .bind label inner, b, h, hpart => by
    rw [outcome] at h
    rw [conjuncts] at hpart
    obtain ⟨d, hd, -⟩ := Option.map_eq_some_iff.1 h
    exact outcome_of_mem_conjuncts hd hpart
  | .test condition, b, h, hpart => by
    cases List.mem_singleton.1 hpart
    exact Option.isSome_of_eq_some h
  | .reach route inner, b, h, hpart => by
    cases List.mem_singleton.1 hpart
    exact Option.isSome_of_eq_some h
  | .anyOf matchers, b, h, hpart => by
    cases List.mem_singleton.1 hpart
    exact Option.isSome_of_eq_some h
  | .not inner, b, h, hpart => by
    cases List.mem_singleton.1 hpart
    exact Option.isSome_of_eq_some h

/-- Where several matchers match, so does each of the parts that have to. -/
lemma outcome_of_mem_conjunctsAll {u : TranslationUnit} {id : Nat} {part : Matcher} :
    ∀ {matchers : List Matcher} {b : Bindings}, conjunction (outcomes u matchers id) = some b →
      part ∈ conjunctsAll matchers → (part.outcome u id).isSome = true
  | [], b, _, hpart => by
    rw [conjunctsAll] at hpart
    cases hpart
  | matcher :: matchers, b, h, hpart => by
    rw [outcomes, conjunction] at h
    rw [conjunctsAll] at hpart
    obtain ⟨d, hd, h⟩ := Option.bind_eq_some_iff.1 h
    obtain ⟨e, he, -⟩ := Option.map_eq_some_iff.1 h
    rcases List.mem_append.1 hpart with hpart | hpart
    · exact outcome_of_mem_conjuncts hd hpart
    · exact outcome_of_mem_conjunctsAll he hpart

end

/-- Where a matcher matches, the conditions among its parts hold. -/
lemma holds_of_mem_conjuncts {c : Condition} (h : m.outcome u id = some b)
    (hc : .test c ∈ m.conjuncts) :
    c.holds u id = true := by
  have htest := outcome_of_mem_conjuncts h hc
  rwa [outcome, Option.isSome_ite] at htest

/-- Whether two parts of matchers can be seen to match at no node together. -/
def contradicts : Matcher → Matcher → Bool
  | .test c, .test d => c.excludes d
  | .reach route m, .reach route' n => route = route' && !route.isChoice && m.areTagsApart n
  | _, _ => false

/-- No node is matched by two parts that contradict each other. -/
lemma false_of_contradicts (h : m.contradicts n = true) (hm : (m.outcome u id).isSome = true)
    (hn : (n.outcome u id).isSome = true) : False := by
  unfold contradicts at h
  split at h
  case h_1 c d =>
    simp only [outcome, Option.isSome_ite] at hm hn
    exact Condition.false_of_excludes h hm hn
  case h_2 route m route' n =>
    simp only [Bool.and_eq_true, decide_eq_true_iff, Bool.not_eq_true'] at h
    obtain ⟨⟨rfl, hchoice⟩, h⟩ := h
    rw [outcome] at hm hn
    -- The route leads to one node, where the tags are apart.
    rcases targets_of_not_choice u id hchoice with hnone | ⟨target, htarget⟩
    · rw [hnone] at hm
      cases hm
    · rw [htarget, List.findSome?_singleton] at hm hn
      obtain ⟨b, hb⟩ := Option.isSome_iff_exists.1 hm
      obtain ⟨d, hd⟩ := Option.isSome_iff_exists.1 hn
      exact false_of_areTagsApart h hb hd
  case h_3 => cases h

/-- Whether two matchers can be seen to match at no node together. -/
def clashes (m n : Matcher) : Bool :=
  m.areTagsApart n || m.conjuncts.any fun part => n.conjuncts.any part.contradicts

/-- Matchers that clash never match the same node. -/
lemma false_of_clashes (h : m.clashes n = true) (hm : m.outcome u id = some b)
    (hn : n.outcome u id = some d) :
    False := by
  rw [clashes, Bool.or_eq_true] at h
  rcases h with h | h
  · exact false_of_areTagsApart h hm hn
  · obtain ⟨part, hpart, h⟩ := List.any_eq_true.1 h
    obtain ⟨part', hpart', h⟩ := List.any_eq_true.1 h
    exact false_of_contradicts h (outcome_of_mem_conjuncts hm hpart)
      (outcome_of_mem_conjuncts hn hpart')

end Matcher

end CppAdvice
