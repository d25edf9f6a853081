import CppAdvice.Proofs.Latest
import CppAdvice.Tree.TranslationUnit

/-!
# The methods of a class

A document may have several records of one class, also under spellings that only become the same
when they are made canonical. Only the last of them counts (`methods?_ofDocument`): a method that an
earlier one lists is lost unless the last one lists it too.
-/

namespace CppAdvice.TranslationUnit

open CppAdvice.Tree

/-- A record gives the methods of the class that its name is a spelling of. -/
def Gives (className : String) (r : ClassRecord) (methods : List String) : Prop :=
  Name.normalize r.name = className ∧ r.methods = methods

/-- The methods that a record gives for a class. -/
def methodsIn? (className : String) (r : ClassRecord) : Option (List String) :=
  if Name.normalize r.name = className then some r.methods else none

/-- The computed methods of a record are those that it gives. -/
lemma methodsIn?_eq_some_iff {className : String} (r : ClassRecord) (methods : List String) :
    methodsIn? className r = some methods ↔ Gives className r methods := by
  rw [methodsIn?, Gives]
  split_ifs with hname
  · rw [Option.some.injEq, and_iff_right hname]
  · exact ⟨nofun, fun h => absurd h.1 hname⟩

variable {d : Document} {fallback : Language.Flags} {className method : String}

/-- Looking a class up goes by the last of its records. -/
lemma methods?_ofDocument :
    (ofDocument d fallback).methods? className =
      (d.records.filterMap (methodsIn? className)).getLast? := by
  rw [methods?, ofDocument, ← List.getLast?_map]
  congr 1
  induction d.records with
  | nil => rfl
  | cons r records ih =>
    rw [List.map_cons, List.filter_cons, List.filterMap_cons, methodsIn?]
    by_cases hname : Name.normalize r.name = className
    · simpa [hname] using ih
    · simpa [hname] using ih

/-- A class declares a method if the last record of the class lists it. -/
lemma declares_iff_latest :
    (ofDocument d fallback).declares className method = true ↔
      ∃ methods, Latest (Gives className) d.records methods ∧ method ∈ methods := by
  rw [declares, methods?_ofDocument, Option.any_eq_true]
  simp only [getLast?_filterMap_iff methodsIn?_eq_some_iff, List.contains_iff_mem]

/-- Every class with a record is given methods last. -/
lemma exists_latest {r : ClassRecord} (h : r ∈ d.records) :
    ∃ methods, Latest (Gives (Name.normalize r.name)) d.records methods := by
  cases hlast : (d.records.filterMap (methodsIn? (Name.normalize r.name))).getLast? with
  | some methods => exact ⟨methods, (getLast?_filterMap_iff methodsIn?_eq_some_iff).1 hlast⟩
  | none =>
    have hnone := (getLast?_filterMap_eq_none_iff methodsIn?_eq_some_iff).1 hlast
    exact absurd ⟨rfl, rfl⟩ (hnone r h r.methods)

/-- Which methods a class declares is said by the last of its records. So no method is lost exactly
if the last record of each class lists all that the others list. -/
theorem declares_ofDocument_iff (d : Document) (fallback : Language.Flags) :
    (∀ className method, (ofDocument d fallback).declares className method = true ↔
        ∃ methods, Latest (Gives className) d.records methods ∧ method ∈ methods) ∧
      ((∀ className method, (ofDocument d fallback).declares className method = true ↔
          ∃ r ∈ d.records, Name.normalize r.name = className ∧ method ∈ r.methods) ↔
        ∀ r ∈ d.records, ∀ methods, Latest (Gives (Name.normalize r.name)) d.records methods →
          r.methods ⊆ methods) := by
  refine ⟨fun _ _ => declares_iff_latest, ?_⟩
  simp only [declares_iff_latest]
  constructor
  · intro hall r hr methods hmethods method hmethod
    obtain ⟨last, hlast, hmem⟩ := (hall _ method).2 ⟨r, hr, rfl, hmethod⟩
    rwa [hmethods.eq methodsIn?_eq_some_iff hlast]
  · intro hall className method
    constructor
    · rintro ⟨methods, ⟨before, r, after, hrecords, ⟨hname, rfl⟩, -⟩, hmethod⟩
      exact ⟨r, by simp [hrecords], hname, hmethod⟩
    · rintro ⟨r, hr, rfl, hmethod⟩
      obtain ⟨methods, hmethods⟩ := exists_latest hr
      exact ⟨methods, hmethods, hall r hr methods hmethods hmethod⟩

/-- A class has two records, the first under the spelling of a library, and the second does not list
all that the first lists. -/
theorem declares_not_all :
    let records : List ClassRecord :=
      [{ name := "std::__1::map", methods := ["find", "contains"] },
        { name := "std::map", methods := ["find"] }]
    let u :=
      ofDocument { records, root := .mk { kind := .translationUnitDecl } [] } (.ofTier .cpp20)
    (∃ r ∈ records, Name.normalize r.name = "std::map" ∧ "contains" ∈ r.methods) ∧
      u.declares "std::map" "contains" = false := by
  decide +kernel

end CppAdvice.TranslationUnit
