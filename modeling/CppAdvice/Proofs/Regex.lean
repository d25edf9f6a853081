import CppAdvice.Pattern.Regex
import Mathlib.Computability.Language
import Mathlib.Tactic.Lemma
import Mathlib.Tactic.Tauto

/-!
# Which texts an expression matches

While a text is read, an expression has marks where a match may have got to. What is still missing
at a mark is the language `rest`; the `language` of an expression has the texts that match from end
to end. Reading a character takes it off the texts that are missing, and off those of the language
if a match may start before it (`rest_shift`); that is all that the induction over the text needs.
An expression between the two ends of a text occurs in it exactly when the text is in its language
(`occursIn_whole`).

Some expressions match only a few texts, and `words?` lists them.
-/

namespace CppAdvice.Pattern.Regex

open Computability

/-- The texts that an expression matches, without regard to where in a text its ends may be. -/
def language : Regex → Language Char
  | .empty | .start | .finish => 1
  | .chars set _ => {s | ∃ c, set.holds c = true ∧ s = [c]}
  | .seq r s => r.language * s.language
  | .alt r s => r.language + s.language
  | .star r => r.language∗
  | .plus r => r.language * r.language∗

/-- The texts that may follow what has been read, up to the end of a match. -/
def rest : Regex → Language Char
  | .empty | .start | .finish => 0
  | .chars _ marked => if marked then 1 else 0
  | .seq r s => r.rest * s.language + s.rest
  | .alt r s => r.rest + s.rest
  | .star r => r.rest * r.language∗
  | .plus r => r.rest * r.language∗

/-- Whether an expression asks for neither end of the text. -/
def isPlain : Regex → Bool
  | .empty | .chars _ _ => true
  | .start | .finish => false
  | .seq r s | .alt r s => r.isPlain && s.isPlain
  | .star r | .plus r => r.isPlain

/-- Whether an expression has no marks. -/
def isFresh : Regex → Bool
  | .empty | .start | .finish => true
  | .chars _ marked => !marked
  | .seq r s | .alt r s => r.isFresh && s.isFresh
  | .star r | .plus r => r.isFresh

/-- What is left of the texts of a language that start with a character. -/
def after (c : Char) (l : Language Char) : Language Char :=
  {s | c :: s ∈ l}

/-- A language if a condition holds, else no texts. -/
def gate (b : Bool) (l : Language Char) : Language Char :=
  if b then l else 0

section

variable {c : Char} {l m : Language Char} {s : List Char}

/-- What may follow a character is what is left of texts that start with it. -/
lemma mem_after : s ∈ after c l ↔ c :: s ∈ l :=
  Iff.rfl

/-- A gate lets everything pass or nothing. -/
lemma mem_gate {b : Bool} : s ∈ gate b l ↔ b = true ∧ s ∈ l := by
  cases b <;> simp [gate]

/-- A gate in front of a sequence is one in front of its first part. -/
lemma gate_mul (b : Bool) : gate b l * m = gate b (l * m) := by
  cases b with
  | true => rfl
  | false => exact zero_mul m

/-- What may follow a character in one language or another. -/
lemma mem_after_add : s ∈ after c (l + m) ↔ s ∈ after c l ∨ s ∈ after c m :=
  Iff.rfl

/-- The empty text is in a sequence if it is in both parts. -/
lemma nil_mem_mul : [] ∈ l * m ↔ [] ∈ l ∧ [] ∈ m := by
  simp [Language.mem_mul]

/-- What may follow a character in a sequence: it belongs to the first part, or that part is empty.
-/
lemma mem_after_mul : s ∈ after c (l * m) ↔ s ∈ after c l * m ∨ [] ∈ l ∧ s ∈ after c m := by
  rw [mem_after, Language.mem_mul, Language.mem_mul]
  constructor
  · rintro ⟨a, ha, b, hb, hab⟩
    cases a with
    | nil =>
      obtain rfl : b = c :: s := hab
      exact .inr ⟨ha, hb⟩
    | cons a as =>
      obtain ⟨rfl, hs⟩ := List.cons.inj hab
      exact .inl ⟨as, ha, b, hb, hs⟩
  · rintro (⟨a, ha, b, hb, rfl⟩ | ⟨hnil, hs⟩)
    · exact ⟨c :: a, ha, b, hb, rfl⟩
    · exact ⟨[], hnil, c :: s, hs, rfl⟩

/-- A text of repetitions starts with one that is not empty. -/
lemma mem_after_kstar : s ∈ after c l∗ ↔ s ∈ after c l * l∗ := by
  rw [mem_after, Language.mem_kstar_iff_exists_nonempty, Language.mem_mul]
  constructor
  · rintro ⟨parts, hs, hparts⟩
    cases parts with
    | nil => cases hs
    | cons part parts =>
      obtain ⟨hpart, hne⟩ := hparts part List.mem_cons_self
      obtain ⟨c', a, rfl⟩ := List.exists_cons_of_ne_nil hne
      obtain ⟨rfl, rfl⟩ := List.cons.inj hs
      refine ⟨a, hpart, parts.flatten, ?_, rfl⟩
      exact Language.join_mem_kstar fun y hy => (hparts y (List.mem_cons_of_mem _ hy)).1
  · rintro ⟨a, ha, b, hb, rfl⟩
    obtain ⟨parts, rfl, hparts⟩ := Language.mem_kstar_iff_exists_nonempty.1 hb
    refine ⟨(c :: a) :: parts, rfl, ?_⟩
    intro y hy
    rcases List.mem_cons.1 hy with rfl | hy
    · exact ⟨ha, List.cons_ne_nil c a⟩
    · exact hparts y hy

end

/-- An expression matches the empty text if it is in its language. -/
lemma nullable_iff {r : Regex} (h : r.isPlain = true) (first last : Bool) :
    r.nullable first last = true ↔ [] ∈ r.language := by
  induction r with
  | empty => simp [nullable, language]
  | start => cases h
  | finish => cases h
  | chars set marked =>
    have hnil : [] ∉ (chars set marked).language := fun ⟨c, _, hc⟩ => List.cons_ne_nil c [] hc.symm
    simp [nullable, hnil]
  | seq r s ihr ihs =>
    obtain ⟨hr, hs⟩ := Bool.and_eq_true_iff.1 h
    simp [nullable, language, nil_mem_mul, ihr hr, ihs hs]
  | alt r s ihr ihs =>
    obtain ⟨hr, hs⟩ := Bool.and_eq_true_iff.1 h
    rw [nullable, language, Language.mem_add, Bool.or_eq_true, ihr hr, ihs hs]
  | star r => simp [nullable, language, Language.nil_mem_kstar]
  | plus r ih => simp [nullable, language, nil_mem_mul, Language.nil_mem_kstar, ih h]

/-- A match may end with what has been read if the empty text may follow. -/
lemma final_iff {r : Regex} (h : r.isPlain = true) (last : Bool) :
    r.final last = true ↔ [] ∈ r.rest := by
  induction r with
  | empty => simp [final, rest]
  | start => cases h
  | finish => cases h
  | chars set marked => cases marked <;> simp [final, rest]
  | seq r s ihr ihs =>
    obtain ⟨hr, hs⟩ := Bool.and_eq_true_iff.1 h
    rw [final, rest, Language.mem_add, nil_mem_mul, Bool.or_eq_true, Bool.and_eq_true, ihr hr,
      ihs hs, nullable_iff hs, or_comm]
  | alt r s ihr ihs =>
    obtain ⟨hr, hs⟩ := Bool.and_eq_true_iff.1 h
    rw [final, rest, Language.mem_add, Bool.or_eq_true, ihr hr, ihs hs]
  | star r ih => simp [final, rest, nil_mem_mul, Language.nil_mem_kstar, ih h]
  | plus r ih => simp [final, rest, nil_mem_mul, Language.nil_mem_kstar, ih h]

/-- Marks are no part of what an expression matches. -/
lemma language_shift (r : Regex) (first enter : Bool) (c : Char) :
    (r.shift first enter c).language = r.language := by
  induction r generalizing enter with
  | empty | start | finish | chars => rfl
  | seq r s ihr ihs => rw [shift, language, ihr, ihs, language]
  | alt r s ihr ihs => rw [shift, language, ihr, ihs, language]
  | star r ih => rw [shift, language, ih, language]
  | plus r ih => rw [shift, language, ih, language]

/-- Reading a character does not bring in the ends of the text. -/
lemma isPlain_shift (r : Regex) (first enter : Bool) (c : Char) :
    (r.shift first enter c).isPlain = r.isPlain := by
  induction r generalizing enter with
  | empty | start | finish | chars => rfl
  | seq r s ihr ihs => rw [shift, isPlain, ihr, ihs, isPlain]
  | alt r s ihr ihs => rw [shift, isPlain, ihr, ihs, isPlain]
  | star r ih => rw [shift, isPlain, ih, isPlain]
  | plus r ih => rw [shift, isPlain, ih, isPlain]

/-- What is missing after one more character: what was missing before it and starts with it, and, if
a match may start before the character, what matches and starts with it. -/
lemma rest_shift {r : Regex} (h : r.isPlain = true) (first enter : Bool) (c : Char) :
    (r.shift first enter c).rest = after c r.rest + gate enter (after c r.language) := by
  induction r generalizing enter with
  | empty =>
    ext s
    simp only [shift, rest, language, Language.mem_add, mem_after, mem_gate]
    simp
  | start => cases h
  | finish => cases h
  | chars set marked =>
    ext s
    have hlanguage : c :: s ∈ (chars set marked).language ↔ set.holds c = true ∧ s = [] := by
      constructor
      · rintro ⟨c', hc, hs⟩
        obtain ⟨rfl, rfl⟩ := List.cons.inj hs
        exact ⟨hc, rfl⟩
      · rintro ⟨hc, rfl⟩
        exact ⟨c, hc, rfl⟩
    have hrest : c :: s ∉ (chars set marked).rest := by
      rw [rest]
      split_ifs <;> simp
    rw [Language.mem_add, mem_after, mem_gate, mem_after, hlanguage, shift, rest]
    cases enter <;> cases hc : set.holds c <;> simp [hrest]
  | seq r s ihr ihs =>
    obtain ⟨hr, hs⟩ := Bool.and_eq_true_iff.1 h
    ext w
    rw [shift, rest, ihr hr, ihs hs, language_shift, add_mul, gate_mul, rest, language]
    simp only [Language.mem_add, mem_after_add, mem_after_mul, mem_gate, Bool.or_eq_true,
      Bool.and_eq_true, nullable_iff hr, final_iff hr]
    tauto
  | alt r s ihr ihs =>
    obtain ⟨hr, hs⟩ := Bool.and_eq_true_iff.1 h
    ext w
    rw [shift, rest, ihr hr, ihs hs, rest, language]
    simp only [Language.mem_add, mem_after, mem_gate]
    tauto
  | star r ih =>
    replace h : r.isPlain = true := h
    ext w
    rw [shift, rest, ih h, language_shift, add_mul, gate_mul, rest, language]
    simp only [Language.mem_add, mem_after_mul, mem_after_kstar, mem_gate, Bool.or_eq_true,
      final_iff h]
    tauto
  | plus r ih =>
    replace h : r.isPlain = true := h
    ext w
    rw [shift, rest, ih h, language_shift, add_mul, gate_mul, rest, language]
    simp only [Language.mem_add, mem_after_mul, mem_after_kstar, mem_gate, Bool.or_eq_true,
      final_iff h]
    tauto

/-- Nothing is missing where no match has started. -/
lemma rest_of_isFresh {r : Regex} (h : r.isFresh = true) : r.rest = 0 := by
  induction r with
  | empty | start | finish => rfl
  | chars set marked =>
    cases marked with
    | true => cases h
    | false => rfl
  | seq r s ihr ihs =>
    obtain ⟨hr, hs⟩ := Bool.and_eq_true_iff.1 h
    rw [rest, ihr hr, ihs hs, zero_mul, zero_add]
  | alt r s ihr ihs =>
    obtain ⟨hr, hs⟩ := Bool.and_eq_true_iff.1 h
    rw [rest, ihr hr, ihs hs, zero_add]
  | star r ih => rw [rest, ih h, zero_mul]
  | plus r ih => rw [rest, ih h, zero_mul]

/-- Between the two ends of a text, a match that has started has to end with the text, and one can
start only at the start of the text. -/
lemma occurs_whole {r : Regex} (h : r.isPlain = true) (first : Bool) (s : List Char) :
    r.whole.occurs first s = true ↔ s ∈ r.rest ∨ first = true ∧ s ∈ r.language := by
  induction s generalizing r first with
  | nil =>
    rw [← final_iff h true, ← nullable_iff h first true]
    simp [whole, seqAll, occurs, nullable, final, or_comm]
  | cons c s ih =>
    have hshift : r.whole.shift first true c = (r.shift first first c).whole := by
      simp [whole, seqAll, shift, nullable, final]
    have hend : (r.whole.nullable first false || r.whole.final false) = false := by
      simp [whole, seqAll, nullable, final]
    rw [occurs, hend, hshift, Bool.false_or, ih ((isPlain_shift r first first c).trans h),
      rest_shift h, Language.mem_add, mem_gate, mem_after, mem_after]
    simp

/-- An expression between the two ends of a text occurs in the texts of its language. -/
lemma occursIn_whole {r : Regex} (hplain : r.isPlain = true) (hfresh : r.isFresh = true)
    (s : List Char) :
    r.whole.occursIn s = true ↔ s ∈ r.language := by
  rw [occursIn, occurs_whole hplain, rest_of_isFresh hfresh]
  simp [Language.notMem_zero]

/-- The texts of an expression, if it is built from single characters without repetition. -/
def words? : Regex → Option (List (List Char))
  | .empty => some [[]]
  | .chars (.range low high) false => if low = high then some [[low]] else none
  | .seq r s =>
    r.words?.bind fun ws => s.words?.map fun vs => ws.flatMap fun w => vs.map fun v => w ++ v
  | .alt r s => r.words?.bind fun ws => s.words?.map fun vs => ws ++ vs
  | _ => none

/-- A range from a character to itself holds that character. -/
lemma holds_range_self {low c : Char} : (CharSet.range low low).holds c = true ↔ c = low := by
  rw [CharSet.holds, Bool.and_eq_true, decide_eq_true_iff, decide_eq_true_iff]
  constructor
  · intro h
    exact Char.le_antisymm h.2 h.1
  · rintro rfl
    exact ⟨Char.le_refl c, Char.le_refl c⟩

/-- The texts that are listed are those of the language, and an expression that has such a list asks
for no end of the text and has no marks. -/
lemma words?_spec {r : Regex} {ws : List (List Char)} (h : r.words? = some ws) :
    r.isPlain = true ∧ r.isFresh = true ∧ ∀ s, s ∈ r.language ↔ s ∈ ws := by
  induction r generalizing ws with
  | empty =>
    cases h
    refine ⟨rfl, rfl, fun s => ?_⟩
    simp [language]
  | start | finish | star | plus => cases h
  | chars set marked =>
    cases set with
    | none | union | inter | compl => cases h
    | range low high =>
      cases marked with
      | true => cases h
      | false =>
        rw [words?] at h
        split_ifs at h with heq
        cases h
        subst heq
        refine ⟨rfl, rfl, fun s => ?_⟩
        rw [List.mem_singleton]
        constructor
        · rintro ⟨c, hc, rfl⟩
          rw [holds_range_self.1 hc]
        · rintro rfl
          exact ⟨low, holds_range_self.2 rfl, rfl⟩
  | seq r s ihr ihs =>
    obtain ⟨ws, hr, h⟩ := Option.bind_eq_some_iff.1 h
    obtain ⟨vs, hs, rfl⟩ := Option.map_eq_some_iff.1 h
    obtain ⟨hrp, hrf, hrl⟩ := ihr hr
    obtain ⟨hsp, hsf, hsl⟩ := ihs hs
    refine ⟨Bool.and_eq_true_iff.2 ⟨hrp, hsp⟩, Bool.and_eq_true_iff.2 ⟨hrf, hsf⟩, fun w => ?_⟩
    simp [language, Language.mem_mul, hrl, hsl]
  | alt r s ihr ihs =>
    obtain ⟨ws, hr, h⟩ := Option.bind_eq_some_iff.1 h
    obtain ⟨vs, hs, rfl⟩ := Option.map_eq_some_iff.1 h
    obtain ⟨hrp, hrf, hrl⟩ := ihr hr
    obtain ⟨hsp, hsf, hsl⟩ := ihs hs
    refine ⟨Bool.and_eq_true_iff.2 ⟨hrp, hsp⟩, Bool.and_eq_true_iff.2 ⟨hrf, hsf⟩, fun w => ?_⟩
    rw [language, Language.mem_add, hrl, hsl, List.mem_append]

end CppAdvice.Pattern.Regex
