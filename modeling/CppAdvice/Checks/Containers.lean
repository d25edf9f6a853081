import CppAdvice.Check.Describe
import CppAdvice.Sentinel

/-!
# Advice on containers

How elements are stored, grown, looked up and removed.
-/

namespace CppAdvice.Checks

open CppAdvice.Tree Describe

/-- The linked lists of the standard library. -/
def linkedLists : Pattern.Name := .any ["::std::list", "::std::forward_list"]

/-- The growing array of the standard library. -/
def stdVector : Pattern.Name := .one "::std::vector"

/-- Linked lists where an array would do. -/
def preferVector : Check where
  descriptor :=
    { id := "baseline-performance.prefer-vector"
      category := .baselinePerformance
      minTier := .unknown
      description := "node-based lists have poor cache locality compared to std::vector" }
  rules :=
    [.always "list-decl" (valueDecl [.varDecl, .fieldDecl] linkedLists)
      fun u id =>
        [.message ("{0} has poor cache locality due to node-based allocation; prefer " ++
            "std::vector for contiguous memory and cache-friendly iteration")
            [nodeType u id],
          .note ("std::vector is faster for iteration, push_back, and even random insertion for " ++
              "up to ~10K elements due to CPU cache effects"),
          .noteAtLeast .cpp23
            ("if you need stable iterators/pointers, consider boost::stable_vector or a pool " ++
                "allocator with std::vector"),
          .upgrade "std::hive" .cpp26
            ("std::hive (C++26) provides stable pointers with better cache locality than linked " ++
                "lists")]]

/-- Whether room was reserved for the variable of a member call, earlier in the same function. -/
def reservedEarlier (u : TranslationUnit) (call : Nat) : Bool :=
  match objectVariable? u call, (u.ancestors call).find? fun a => u.tag a = .functionDecl with
  | some name, some function =>
    ((u.descendants function).takeWhile (· < call)).any fun id =>
      method? u id = some "reserve" && objectVariable? u id = some name
  | _, _ => false

/-- Arrays that grow in a loop without room reserved for them. -/
def preferReserve : Check where
  descriptor :=
    { id := "baseline-performance.prefer-reserve"
      category := .baselinePerformance
      minTier := .unknown
      description := "growing a std::vector in a loop without reserve() reallocates repeatedly" }
  rules :=
    [.provided "push-in-loop"
      (((Matcher.memberCall ["push_back", "emplace_back"]).and
        (.object (.typed (.classType stdVector)))).and (.test .insideLoop))
      (fun u id => !reservedEarlier u id)
      fun _ _ =>
        [.message ("push_back/emplace_back inside a loop without reserve() causes repeated heap " ++
            "reallocations; call reserve() before the loop if the size is known or estimable") [],
          .note ("each reallocation copies/moves all existing elements and invalidates " ++
              "iterators; pre-allocating avoids O(N log N) total copies"),
          .note ("if the final size is unknown, consider reserving an estimated upper bound, or " ++
              "use std::vector::resize() + index assignment")]]

/-- Temporaries that are built only to be inserted. -/
def preferEmplace : Check where
  descriptor :=
    { id := "baseline-performance.prefer-emplace"
      category := .baselinePerformance
      minTier := .unknown
      description := "inserting an explicitly constructed temporary; construct in place instead" }
  rules :=
    [.always "push-back-temporary" ((Matcher.memberCall ["push_back"]).and (.argument 0 .temporary))
        fun _ _ =>
          [.message ("push_back with an explicit constructor creates an unnecessary temporary; " ++
              "use emplace_back for in-place construction") [],
            .note ("emplace_back forwards arguments directly to the constructor, avoiding the " ++
                "temporary's construction + move + destruction")],
      .always "insert-temporary" ((Matcher.memberCall ["insert"]).and (.anyArgument .temporary))
        fun _ _ =>
          [.message ("insert with an explicit constructor creates an unnecessary temporary; use " ++
              "emplace for in-place construction") [],
            .note ("emplace forwards arguments directly to the constructor, avoiding the " ++
                "temporary object overhead")]]

/-- Comparisons that tell whether a count is above zero. -/
def countNonzero : Sentinel.Comparison := ⟨.zero, [.notEqual, .greater]⟩

/-- Comparisons of a search with the end of its container. -/
def findVersusEnd : Sentinel.Comparison := ⟨.endIterator, [.equal, .notEqual]⟩

/-- Comparisons that tell whether a search in a string succeeded. -/
def findVersusNpos : Sentinel.Comparison := ⟨.npos, [.notEqual]⟩

/-- A test whether the value of a call flows into one of the comparisons. -/
def flowsInto (comparison : Sentinel.Comparison) (u : TranslationUnit) (call : Nat) : Bool :=
  Sentinel.isCompared u Sentinel.defaultTransparent comparison call

/-- A call of a method on a class that also declares another one. -/
def callBeside (method sibling : String) : Matcher :=
  (Matcher.memberCall [method]).and (.test (.classDeclares sibling))

/-- Lookups that only ask whether something is there. -/
def preferContains : Check where
  descriptor :=
    { id := "standard-upgrade.prefer-contains"
      category := .standardUpgrade
      minTier := .cpp20
      description := "existence tests via count()/find() should use contains()" }
  rules :=
    [.provided "count-compared-with-zero" (callBeside "count" "contains") (flowsInto countNonzero)
        fun _ _ =>
          [.message ("count() > 0 for existence check is suboptimal; use .contains() (C++20) " ++
              "which returns bool directly") [],
            .note ("on multimap/multiset, count() traverses ALL matching elements; contains() " ++
                "stops after the first match")],
      .provided "find-compared-with-end" (callBeside "find" "contains") (flowsInto findVersusEnd)
        fun _ _ =>
          [.message ("find(k) != end() for existence check is verbose; use .contains(k) (C++20) " ++
              "for clearer intent") [],
            .note ("contains() returns bool directly, avoiding the unused iterator and " ++
                "potential dangling-iterator bugs")],
      .provided "find-compared-with-npos" (callBeside "find" "starts_with")
        (flowsInto findVersusNpos)
        fun _ _ =>
          [.message ("string.find(x) != npos for substring existence check; use " ++
              "string.contains(x) (C++23) for clarity") [],
            .upgrade "std::string::contains" .cpp23
              ("std::string::contains (C++23) returns bool directly and states the intent of " ++
                  "the lookup")]]

/-- The label of the call that moves elements to the end. -/
def removeLabel : String := "remove"

/-- What to say about removing elements in two steps. -/
def eraseSteps (byPredicate : Bool) : List Step :=
  [.message (if byPredicate then
        "erase-remove_if idiom is verbose and error-prone; use std::erase_if(container, predicate) (C++20)"
      else "erase-remove idiom is verbose and error-prone; use std::erase(container, value) (C++20)") [],
    .note ("std::erase_if works uniformly on all standard containers (vector, deque, string, " ++
        "list, set, map, etc.) and returns the count of erased elements")]

/-- Elements removed in two steps. -/
def preferEraseIf : Check where
  descriptor :=
    { id := "standard-upgrade.prefer-erase-if"
      category := .standardUpgrade
      minTier := .cpp20
      description := "the erase-remove idiom should use std::erase/std::erase_if" }
  rules :=
    [{ name := "erase-remove"
       matcher :=
         .bind Rule.site
           (((Matcher.memberCall ["erase"]).and (.test (.argumentCount 2))).and
             (.descendant (.bind removeLabel (.callTo ["::std::remove", "::std::remove_if"]))))
       verdict := fun u b => do
         let call ← b.get? Rule.site
         let remove ← b.get? removeLabel
         return ⟨call, eraseSteps ((callee? u remove).map lastSegment = some "remove_if")⟩ }]

/-- Tree-based maps and sets. -/
def preferFlatContainers : Check where
  descriptor :=
    { id := "standard-upgrade.prefer-flat-containers"
      category := .standardUpgrade
      minTier := .cpp17
      description := "tree-based associative containers allocate per node" }
  rules :=
    [.always "tree-container-decl"
      (valueDecl [.varDecl, .fieldDecl]
        (.any ["::std::map", "::std::set", "::std::multimap", "::std::multiset"]))
      fun u id =>
        let container := nodeType u id
        let flat := "std::flat_" ++ lastSegment container
        [.message ("{0} is a tree-based container with per-node heap allocation and poor cache " ++
            "locality; consider a flat/contiguous alternative")
            [container],
          .note ("a sorted std::vector with std::lower_bound, or " ++
              "boost::container::flat_map/flat_set, gives the same layout on any standard"),
          .upgrade flat .cpp23
            (Template.render ("use {0} (C++23): contiguous storage with cache-friendly lookup " ++
                "and iteration")
              [flat]),
          .note ("if O(1) average lookup is needed, consider std::unordered_map/unordered_set " ++
              "or absl::flat_hash_map")]]

/-- The label of the literal that gives a size. -/
def sizeLabel : String := "size"

/-- The label of the reference to an array. -/
def vectorLabel : String := "vector"

/-- The value of the labelled literal, if it is at most `max`. -/
def smallSize? (max : Nat) (u : TranslationUnit) (b : Matcher.Bindings) : Option Nat := do
  match u.kind (← b.get? sizeLabel) with
  | .integerLiteral value => if value.toNat ≤ max then some value.toNat else none
  | _ => none

/-- Whether a reference names an array with local storage: an automatic variable, or a parameter
taken by value. -/
def refersToLocal (u : TranslationUnit) (reference : Nat) : Bool :=
  match u.declaration? reference with
  | none => false
  | some decl =>
    ((u.type? decl).any fun ty => ty.isValue && stdVector.covers (ty.decl.getD "")) &&
      match u.kind decl with
      | .varDecl _ storage => storage = .automatic
      | .parmVarDecl _ => true
      | _ => false

/-- Small local arrays; `max` is the largest size that counts as small. -/
def preferInplaceVector (max : Nat) : Check where
  descriptor :=
    { id := "standard-upgrade.prefer-inplace-vector"
      category := .standardUpgrade
      minTier := .cpp26
      description := "small fixed-capacity local vectors fit std::inplace_vector" }
  rules :=
    [{ name := "local-reserve"
       matcher :=
         .bind Rule.site
           (((Matcher.memberCall ["reserve"]).and
             (.object (.bind vectorLabel
               ((Matcher.ofTag .declRefExpr).and (.typed (.classType stdVector)))))).and
             (.argument 0 (.bind sizeLabel .anyInteger)))
       verdict := fun u b => do
         let call ← b.get? Rule.site
         let size ← smallSize? max u b
         let vector ← b.get? vectorLabel
         if refersToLocal u vector then
           some ⟨call,
             [.message
               "std::vector with reserve({0}) in local scope; consider std::inplace_vector<{0}> (C++26) to avoid heap allocation"
                 [toString size],
               .note "std::inplace_vector stores all elements inline (on the stack), eliminating allocator overhead entirely"]⟩
         else none },
      { name := "local-sized-vector"
        matcher :=
          .bind Rule.site
            (((((Matcher.ofTag .varDecl).and (.typed (.named stdVector))).and
              (.test .localStorage)).and (.enclosingFunction (.ofTag .functionDecl))).and
              (.initializer ((Matcher.ofTag .constructExpr).and
                (.argument 0 (.bind sizeLabel .anyInteger)))))
        verdict := fun u b => do
          let decl ← b.get? Rule.site
          let size ← smallSize? max u b
          return ⟨decl,
            [.message
              "local std::vector({0}) with small fixed size; consider std::inplace_vector<T, {0}> (C++26) for zero-allocation storage"
                [toString size],
              .note "for pre-C++26 code, boost::static_vector or absl::InlinedVector provide similar stack-based storage"]⟩ }]

/-- Linked lists that are kept for stable pointers. -/
def preferHive : Check where
  descriptor :=
    { id := "standard-upgrade.prefer-hive"
      category := .standardUpgrade
      minTier := .cpp26
      description := "linked lists kept for pointer stability fit std::hive" }
  rules :=
    [.always "list-decl" (valueDecl [.varDecl, .fieldDecl] linkedLists)
      fun u id =>
        [.message ("{0} has per-node allocation and cache-hostile traversal; consider std::hive " ++
            "(C++26) for stable pointers with cache-friendly iteration")
            [nodeType u id],
          .note ("std::hive stores elements in contiguous blocks with a skipfield; provides " ++
              "O(1) insert/erase, stable pointers, and 5-20x faster iteration than linked lists"),
          .note ("if pointer/iterator stability is not needed, prefer std::vector which has the " ++
              "best cache locality; for pre-C++26, consider plf::colony")]]

end CppAdvice.Checks
