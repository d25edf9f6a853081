import Mathlib.Data.List.Basic
import Mathlib.Tactic.Lemma

/-!
# What is given last

In a list of which each entry may give something, later entries count and earlier ones do not. Where
entries have a key and are put in front, the first one with a key counts, and the others can be left
out.
-/

namespace CppAdvice

/-- Looking up a key among entries that are kept by a test on the key alone. -/
lemma lookup_filter {κ α : Type} [BEq κ] [LawfulBEq κ] (entries : List (κ × α))
    (keep : κ → Bool) (key : κ) : (entries.filter fun entry => keep entry.1).lookup key =
      if keep key then entries.lookup key else none := by
  induction entries with
  | nil => simp
  | cons entry entries ih =>
    obtain ⟨other, value⟩ := entry
    by_cases h : key = other
    · subst h
      by_cases hk : keep key
      · simp [hk]
      · simp [hk, ih]
    · have hne : (key == other) = false := beq_eq_false_iff_ne.2 h
      by_cases hk : keep other
      · simp [hk, List.lookup_cons, hne, ih]
      · simp [hk, List.lookup_cons, hne, ih]

/-- A key that is entered in place of all its entries has the new value; the other keys keep
theirs. -/
lemma lookup_replace {κ α : Type} [DecidableEq κ] (entries : List (κ × α)) (key other : κ)
    (value : α) : ((key, value) :: entries.filter (·.1 ≠ key)).lookup other =
      if other = key then some value else entries.lookup other := by
  rw [List.lookup_cons, lookup_filter entries fun k => decide (k ≠ key)]
  by_cases h : other = key
  · simp [h]
  · simp [h, beq_eq_false_iff_ne.2 h]

/-- Looking up a key among entries that are made from a list, each with a key and a value of its
own. -/
lemma lookup_map {α κ ν : Type} [DecidableEq κ] (l : List α) (key : α → κ) (value : α → ν) (k : κ) :
    (l.map fun a => (key a, value a)).lookup k = (l.find? (key · = k)).map value := by
  induction l with
  | nil => rfl
  | cons a l ih =>
    rw [List.map_cons, List.lookup_cons]
    by_cases h : key a = k
    · rw [List.find?_cons_of_pos (by simpa using h), h, beq_self_eq_true]
      rfl
    · rw [List.find?_cons_of_neg (by simpa using h), beq_eq_false_iff_ne.2 (Ne.symm h), ih]

variable {α β : Type} {gives : α → β → Prop} {l : List α} {b : β}

/-- What the last entry gives that gives anything. -/
def Latest (gives : α → β → Prop) (l : List α) (b : β) : Prop :=
  ∃ before a after, l = before ++ a :: after ∧ gives a b ∧
    ∀ later ∈ after, ∀ other, ¬ gives later other

/-- An entry gives nothing if nothing is computed for it. -/
lemma eq_none_iff_forall_not {f : α → Option β} (hf : ∀ a b, f a = some b ↔ gives a b) (a : α) :
    f a = none ↔ ∀ b, ¬ gives a b := by
  rw [Option.eq_none_iff_forall_ne_some]
  exact forall_congr' fun b => not_congr (hf a b)

/-- Computing what is given last. -/
lemma getLast?_filterMap_iff {f : α → Option β} (hf : ∀ a b, f a = some b ↔ gives a b) :
    (l.filterMap f).getLast? = some b ↔ Latest gives l b := by
  have hnone := eq_none_iff_forall_not hf
  rw [List.getLast?_eq_head?_reverse, ← List.filterMap_reverse, List.head?_filterMap,
    List.findSome?_eq_some_iff]
  constructor
  · rintro ⟨after, a, before, hl, ha, hafter⟩
    refine ⟨before.reverse, a, after.reverse, ?_, (hf a b).1 ha, ?_⟩
    · rw [← List.reverse_reverse l, hl]
      simp
    · exact fun later hlater => (hnone later).1 (hafter later (List.mem_reverse.1 hlater))
  · rintro ⟨before, a, after, rfl, ha, hafter⟩
    refine ⟨after.reverse, a, before.reverse, by simp, (hf a b).2 ha, ?_⟩
    exact fun later hlater => (hnone later).2 (hafter later (List.mem_reverse.1 hlater))

/-- Nothing is given last if no entry gives anything. -/
lemma getLast?_filterMap_eq_none_iff {f : α → Option β} (hf : ∀ a b, f a = some b ↔ gives a b) :
    (l.filterMap f).getLast? = none ↔ ∀ a ∈ l, ∀ b, ¬ gives a b := by
  rw [List.getLast?_eq_none_iff, List.filterMap_eq_nil_iff]
  exact forall₂_congr fun a _ => eq_none_iff_forall_not hf a

/-- What is given last is one thing. -/
lemma Latest.eq {f : α → Option β} (hf : ∀ a b, f a = some b ↔ gives a b) {c : β}
    (hb : Latest gives l b) (hc : Latest gives l c) : b = c := by
  rw [← getLast?_filterMap_iff hf] at hb hc
  exact Option.some.inj (hb.symm.trans hc)

end CppAdvice
