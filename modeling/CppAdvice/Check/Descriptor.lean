import CppAdvice.Language.Flags
import CppAdvice.Text.Pieces

/-!
# Check descriptors

What is known of a check without running it: its names, the tier from which on it applies, and
whether it proposes a replacement.
-/

namespace CppAdvice

/-- What a check is about. -/
inductive Category where
  /-- Costs in any edition of the language. -/
  | baselinePerformance
  /-- Better ways that a newer edition offers. -/
  | standardUpgrade
deriving Repr, DecidableEq

namespace Category

/-- All categories. -/
def all : List Category :=
  [.baselinePerformance, .standardUpgrade]

/-- The name of the category. -/
def label : Category → String
  | .baselinePerformance => "baseline-performance"
  | .standardUpgrade => "standard-upgrade"

/-- How the older names of the category's checks start. -/
def legacyLead : Category → String
  | .baselinePerformance => "hl-perf-"
  | .standardUpgrade => "hl-modernize-"

end Category

/-- What is known of a check. -/
structure Descriptor where
  /-- The name with its category: the two with a dot between them. -/
  id : String
  category : Category
  description : String
  /-- The lowest tier at which the check runs. -/
  minTier : Language.Tier
  /-- What the proposed replacement does, if the check ever proposes one. -/
  fix : Option String := none
deriving Repr, DecidableEq

namespace Descriptor

/-- The name without the category: what stands behind the first dot of the id, or all of it if there
is none. -/
def name (d : Descriptor) : String :=
  match Text.afterFirst? ['.'] d.id.toList with
  | some name => String.ofList name
  | none => d.id

/-- The older name. -/
def legacyName (d : Descriptor) : String :=
  d.category.legacyLead ++ d.name

/-- Whether the check runs on a unit with the given language. -/
def isEligible (d : Descriptor) (language : Language.Flags) : Bool :=
  language.cplusplus && language.tier.atLeast d.minTier

end Descriptor

end CppAdvice
