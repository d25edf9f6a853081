import CppAdvice.Check.Describe

/-!
# Advice on ownership

Who owns a value, and through what it is passed around.
-/

namespace CppAdvice.Checks

open CppAdvice.Tree Describe

/-- The pointer that counts its owners. -/
def sharedPtr : Pattern.Name := .one "::std::shared_ptr"

/-- Values of any type. -/
def avoidStdAny : Check where
  descriptor :=
    { id := "baseline-performance.avoid-std-any"
      category := .baselinePerformance
      minTier := .cpp17
      description := "std::any allocates and relies on RTTI; std::variant covers closed type sets" }
  rules :=
    [.always "any-decl" (valueDecl [.varDecl, .fieldDecl, .parmVarDecl] (.one "::std::any"))
        fun _ _ => steps,
      .always "any-cast" (.callTo ["::std::any_cast"]) fun _ _ => steps]
where
  steps : List Step :=
    [.message ("std::any performs heap allocation for non-trivial types and requires RTTI; " ++
        "prefer std::variant for a closed set of types") [],
      .note ("std::variant is stored inline (no heap allocation), type-safe, and allows " ++
          "exhaustive visitation via std::visit"),
      .note ("if the type set is truly open, consider template-based polymorphism or a custom " ++
          "type-erased wrapper with SBO")]

/-- Ownership that is counted although it may not be shared. -/
def preferUniquePtr : Check where
  descriptor :=
    { id := "baseline-performance.prefer-unique-ptr"
      category := .baselinePerformance
      minTier := .unknown
      description := "shared ownership costs atomic reference counting; prefer std::unique_ptr" }
  rules :=
    [.always "make-shared" (.callTo ["::std::make_shared"])
        fun _ _ =>
          [.message ("std::make_shared implies shared ownership with atomic reference counting; " ++
              "prefer std::make_unique if ownership is not shared") [],
            .note ("std::unique_ptr has zero overhead over raw pointers and no atomic " ++
                "operations; use std::shared_ptr only when multiple owners are genuinely needed")],
      .always "shared-ptr-field" (valueDecl [.fieldDecl] sharedPtr)
        fun _ _ =>
          [.message ("std::shared_ptr class member: atomic reference counting causes cache-line " ++
              "bouncing in multi-threaded code; ensure shared ownership is truly required") [],
            .note ("if single ownership suffices, use std::unique_ptr; if borrowing, use a raw " ++
                "pointer or std::observer_ptr")],
      .always "shared-ptr-param" (valueDecl [.parmVarDecl] sharedPtr)
        fun _ _ =>
          [.message ("std::shared_ptr passed by value triggers atomic increment/decrement of " ++
              "the reference count") [],
            .note ("pass by 'const std::shared_ptr&' if you only need to read, or pass the " ++
                "underlying 'T&'/'T*' if ownership is not transferred")]]

/-- Threads that have to be joined by hand. -/
def preferJthread : Check where
  descriptor :=
    { id := "standard-upgrade.prefer-jthread"
      category := .standardUpgrade
      minTier := .cpp20
      description := "std::thread needs manual join/detach; std::jthread joins on destruction" }
  rules :=
    [.always "thread-decl" (valueDecl [.varDecl, .fieldDecl] (.one "::std::thread"))
      fun _ _ =>
        [.message ("std::thread requires manual join/detach; prefer std::jthread (C++20) which " ++
            "auto-joins on destruction and supports cooperative cancellation via " ++
            "std::stop_token") [],
          .note ("std::jthread eliminates common bugs: dangling threads, std::terminate on " ++
              "non-joined threads, and manual cancellation logic"),
          .note ("for high-load services, std::jthread with std::stop_token enables graceful " ++
              "shutdown without external synchronization")]]

/-- Parts of a name that suggest a buffer. -/
def bufferHints : List String := ["buf", "data", "ptr", "arr", "items", "elems"]

/-- Whether the name of a parameter suggests a buffer. -/
def suggestsBuffer (name : String) : Bool :=
  bufferHints.any fun hint => Text.contains hint.toList (name.toList.map Char.toLower)

/-- Whether the next sibling of a parameter is a parameter of integer type. -/
def followedBySize (u : TranslationUnit) (param : Nat) : Bool :=
  match u.parent? param with
  | none => false
  | some function =>
    match (u.children function).dropWhile (· ≠ param) with
    | _ :: next :: _ =>
      u.tag next = .parmVarDecl && (u.type? next).any fun ty => ty.isInteger && !ty.isPointer
    | _ => false

/-- The name of a declaration; empty if it has none. -/
def nameOf (u : TranslationUnit) (id : Nat) : String :=
  (u.kind id).declName?.getD ""

/-- Parameters that stand for a range of elements. -/
def preferSpan : Check where
  descriptor :=
    { id := "standard-upgrade.prefer-span"
      category := .standardUpgrade
      minTier := .cpp20
      description := "contiguous-range parameters should be std::span" }
  rules :=
    [.always "const-vector-ref-param"
        ((Matcher.ofTag .parmVarDecl).and (.typed (.constRef (.one "::std::vector"))))
        fun _ _ =>
          [.message ("'const std::vector<T>&' parameter ties the interface to std::vector; " ++
              "prefer std::span<const T> (C++20) to accept any contiguous range (vector, array, " ++
              "C-array)") [],
            .note ("std::span is a non-owning view with zero overhead; it decouples the " ++
                "interface from the container type")],
      .provided "pointer-param" ((Matcher.ofTag .parmVarDecl).and (.typed .pointer))
        (fun u id =>
          !(nameOf u id).isEmpty && (suggestsBuffer (nameOf u id) || followedBySize u id))
        fun u id =>
          [.message ("raw pointer parameter '{0}' with suggestive name; consider std::span " ++
              "(C++20) for bounds-safe contiguous access")
              [nameOf u id],
            .note ("std::span encapsulates pointer+size, preventing buffer overruns and making " ++
                "the API self-documenting")]]

end CppAdvice.Checks
