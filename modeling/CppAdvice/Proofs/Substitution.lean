import CppAdvice.Finding.Template
import Mathlib.Data.List.Infix
import Mathlib.Data.List.TakeWhile
import Mathlib.Tactic.Lemma

/-!
# Templates are filled in once, from the left

A placeholder is a number between braces that has an argument. A template is cut from the left into
placeholders and single characters (`Scans`), in one way only, and the cut is made by the template
and the number of arguments alone: what the arguments say has no part in it, so their text is never
looked at again. Rendering puts the arguments into the places that were cut out
(`renderChars_of_scans`). A template can be cut in two and rendered in parts wherever no placeholder
can lie across the cut (`renderChars_append_of_splits`).
-/

namespace CppAdvice.Template

/-- Digits that spell a number; there may be zeros in front. -/
structure Spells (digits : List Char) (n : Nat) : Prop where
  ne_nil : digits ≠ []
  isDigit : ∀ c ∈ digits, c.isDigit = true
  value : Nat.ofDigitChars 10 digits 0 = n

/-- Digits that spell the number of one of `count` arguments, which fits a machine word. -/
structure Names (count : Nat) (digits : List Char) (index : Nat) :
    Prop extends Spells digits index where
  fits : index < UInt64.size
  given : index < count

/-- Digits between braces. -/
def braced (digits : List Char) : List Char :=
  '\x7b' :: digits ++ ['\x7d']

/-- A part of a template: a character, or the place of an argument. -/
inductive Part where
  | letter (c : Char)
  | place (index : Nat)
deriving Repr, DecidableEq

/-- What a part becomes. -/
def Part.fill (args : List String) : Part → List Char
  | .letter c => [c]
  | .place index => (args[index]?.getD "").toList

/-- A template for `count` arguments, cut from the left: where it goes on with a placeholder that
names an argument, the whole placeholder is one part, and everywhere else the next character is. -/
inductive Scans (count : Nat) : List Char → List Part → Prop where
  | nil : Scans count [] []
  | place {digits index s parts} :
    Names count digits index →
    Scans count s parts →
    Scans count (braced digits ++ s) (.place index :: parts)
  | letter {c s parts} :
    (∀ digits index, Names count digits index → ¬ braced digits <+: c :: s) →
    Scans count s parts →
    Scans count (c :: s) (.letter c :: parts)

/-- Whether a text ends inside what may become a placeholder. -/
def EndsOpen (s : List Char) : Prop :=
  ∃ digits : List Char, (∀ c ∈ digits, c.isDigit = true) ∧ '\x7b' :: digits <:+ s

/-- No placeholder lies across the place where two texts meet: the first one is not left open, or
the second one does not go on with it. -/
def Splits (s t : List Char) : Prop :=
  EndsOpen s → ∀ c ∈ t.head?, c.isDigit = false ∧ c ≠ '\x7d'

variable {args : List String} {arg : String} {digits s t rest : List Char} {c : Char}
  {count index n : Nat}

/-! ### Placeholders -/

/-- A placeholder in front of a text, character by character. -/
lemma braced_append : braced digits ++ s = '\x7b' :: (digits ++ '\x7d' :: s) := by
  simp [braced]

/-- The digits in front of something else are taken. -/
lemma takeWhile_digits (h : ∀ c ∈ digits, c.isDigit = true) (hc : c.isDigit = false) :
    (digits ++ c :: s).takeWhile Char.isDigit = digits := by
  rw [List.takeWhile_append_of_pos h, List.takeWhile_cons_of_neg (by simp [hc]), List.append_nil]

/-- Behind the digits is what is not one. -/
lemma dropWhile_digits (h : ∀ c ∈ digits, c.isDigit = true) (hc : c.isDigit = false) :
    (digits ++ c :: s).dropWhile Char.isDigit = c :: s := by
  rw [List.dropWhile_append_of_pos h, List.dropWhile_cons_of_neg (by simp [hc])]

/-- Digits end where the first character stands that is none. -/
lemma digits_inj {digits' : List Char} {c' : Char} (h : ∀ c ∈ digits, c.isDigit = true)
    (h' : ∀ c ∈ digits', c.isDigit = true) (hc : c.isDigit = false) (hc' : c'.isDigit = false)
    (heq : digits ++ c :: s = digits' ++ c' :: t) : digits = digits' ∧ c = c' ∧ s = t := by
  have hdigits := congrArg (List.takeWhile Char.isDigit) heq
  have hrest := congrArg (List.dropWhile Char.isDigit) heq
  rw [takeWhile_digits h hc, takeWhile_digits h' hc'] at hdigits
  rw [dropWhile_digits h hc, dropWhile_digits h' hc'] at hrest
  exact ⟨hdigits, List.cons.inj hrest⟩

/-- Digits spell one number. -/
lemma Spells.unique {m : Nat} (h : Spells digits m) (h' : Spells digits n) : m = n :=
  h.value.symm.trans h'.value

/-- Digits are added up to the number that they spell. -/
lemma foldl_eq_ofDigitChars (digits : List Char) :
    digits.foldl (fun n c => n * 10 + (c.toNat - '0'.toNat)) 0 = Nat.ofDigitChars 10 digits 0 := by
  rw [Nat.ofDigitChars_eq_foldl]
  simp only [Nat.mul_comm]

/-- What is taken for a placeholder, when its opening brace has been read. -/
lemma placeholder?_eq_some_iff :
    placeholder? args s = some (arg, rest) ↔
      ∃ digits index, Names args.length digits index ∧ args[index]? = some arg ∧
        s = digits ++ '\x7d' :: rest := by
  constructor
  · intro h
    unfold placeholder? at h
    split at h
    case h_2 => cases h
    case h_1 rest' hrest =>
      dsimp only at h
      split_ifs at h with hbad
      obtain ⟨hempty, hsize⟩ := not_or.1 hbad
      obtain ⟨arg', harg, heq⟩ := Option.map_eq_some_iff.1 h
      cases heq
      rw [foldl_eq_ofDigitChars] at harg hsize
      refine ⟨s.takeWhile Char.isDigit, _, ⟨⟨?_, ?_, rfl⟩, ?_, ?_⟩, harg, ?_⟩
      · simpa using hempty
      · exact fun c hc => List.mem_takeWhile_imp hc
      · exact Nat.lt_of_not_le hsize
      · exact (List.getElem?_eq_some_iff.1 harg).1
      · rw [← hrest, List.takeWhile_append_dropWhile]
  · rintro ⟨digits, index, hnames, harg, rfl⟩
    have hbrace : Char.isDigit '\x7d' = false := rfl
    have hgood : ¬ (digits.isEmpty = true ∨ UInt64.size ≤ Nat.ofDigitChars 10 digits 0) := by
      rw [hnames.value, List.isEmpty_iff, not_or]
      exact ⟨hnames.ne_nil, Nat.not_le_of_lt hnames.fits⟩
    rw [placeholder?, takeWhile_digits hnames.isDigit hbrace,
      dropWhile_digits hnames.isDigit hbrace]
    simp only [foldl_eq_ofDigitChars]
    rw [if_neg hgood, hnames.value, harg]
    rfl

/-- A placeholder is written as its argument. -/
lemma renderChars_of_placeholder? (h : placeholder? args s = some (arg, rest)) :
    renderChars args ('\x7b' :: s) = arg.toList ++ renderChars args rest := by
  rw [renderChars, if_pos rfl]
  split
  case h_1 hsome =>
    cases h.symm.trans hsome
    rfl
  case h_2 hnone => cases h.symm.trans hnone

/-- A character that starts no placeholder is written as it is. -/
lemma renderChars_cons (h : c = '\x7b' → placeholder? args s = none) :
    renderChars args (c :: s) = c :: renderChars args s := by
  rw [renderChars]
  split_ifs with hc
  · split
    case h_1 hsome => cases (h hc).symm.trans hsome
    case h_2 => rfl
  · rfl

/-! ### The cut of a template -/

/-- No placeholder is read where none that names an argument stands. -/
lemma placeholder?_eq_none
    (h : ∀ digits index, Names args.length digits index → ¬ braced digits <+: c :: s)
    (hc : c = '\x7b') : placeholder? args s = none := by
  rw [Option.eq_none_iff_forall_ne_some]
  rintro ⟨arg, rest⟩ hsome
  obtain ⟨digits, index, hnames, -, rfl⟩ := placeholder?_eq_some_iff.1 hsome
  refine h digits index hnames ⟨rest, ?_⟩
  rw [braced_append, hc]

/-- Rendering fills the parts in. -/
lemma renderChars_of_scans {parts : List Part} (h : Scans args.length s parts) :
    renderChars args s = parts.flatMap (Part.fill args) := by
  induction h with
  | nil => rw [renderChars, List.flatMap_nil]
  | @place digits index s parts hnames _ ih =>
    obtain ⟨arg, harg⟩ : ∃ arg, args[index]? = some arg :=
      ⟨_, List.getElem?_eq_getElem hnames.given⟩
    have hplaceholder : placeholder? args (digits ++ '\x7d' :: s) = some (arg, s) :=
      placeholder?_eq_some_iff.2 ⟨digits, index, hnames, harg, rfl⟩
    rw [braced_append, renderChars_of_placeholder? hplaceholder, ih, List.flatMap_cons, Part.fill,
      harg, Option.getD_some]
  | letter hnone _ ih =>
    rw [renderChars_cons (placeholder?_eq_none hnone), ih, List.flatMap_cons]
    rfl

/-- Every template can be cut. -/
lemma exists_scans (count : Nat) (s : List Char) : ∃ parts, Scans count s parts := by
  induction hlength : s.length using Nat.strong_induction_on generalizing s with
  | h length ih =>
    subst hlength
    cases s with
    | nil => exact ⟨[], .nil⟩
    | cons c s =>
      by_cases h : ∃ digits index, Names count digits index ∧ braced digits <+: c :: s
      · obtain ⟨digits, index, hnames, rest, hrest⟩ := h
        have hlt : rest.length < (c :: s).length := by
          rw [← hrest, braced_append]
          simp
          omega
        obtain ⟨parts, hparts⟩ := ih _ hlt rest rfl
        refine ⟨.place index :: parts, ?_⟩
        rw [← hrest]
        exact .place hnames hparts
      · obtain ⟨parts, hparts⟩ := ih _ (Nat.lt_succ_self _) s rfl
        refine ⟨_, .letter ?_ hparts⟩
        exact fun digits index hnames hlead => h ⟨digits, index, hnames, hlead⟩

/-- There is one way to cut a template. -/
lemma Scans.unique {parts parts' : List Part} (h : Scans count s parts)
    (h' : Scans count s parts') :
    parts = parts' := by
  induction h generalizing parts' with
  | nil => cases h' with
    | nil => rfl
  | @place digits index s parts hnames _ ih =>
    generalize htext : braced digits ++ s = text at h'
    cases h' with
    | nil => cases htext
    | @place digits' index' s' parts' hnames' h' =>
      rw [braced_append, braced_append] at htext
      obtain ⟨rfl, -, rfl⟩ :=
        digits_inj hnames.isDigit hnames'.isDigit rfl rfl (List.cons.inj htext).2
      rw [hnames.unique hnames'.toSpells, ih h']
    | letter hnone => exact absurd ⟨s, htext⟩ (hnone digits index hnames)
  | @letter c s parts hnone _ ih =>
    generalize htext : c :: s = text at h'
    cases h' with
    | nil => cases htext
    | @place digits index s' parts' hnames =>
      exact absurd ⟨s', htext.symm⟩ (hnone digits index hnames)
    | letter _ h' =>
      cases htext
      rw [ih h']

/-! ### Templates side by side -/

/-- A text that is split from another one is so from any end of it on. -/
lemma Splits.of_suffix (h : Splits s t) (hrest : rest <:+ s) : Splits rest t :=
  fun ⟨digits, hdigits, hopen⟩ => h ⟨digits, hdigits, hopen.trans hrest⟩

/-- Where a cut is safe, no placeholder comes about by putting the two texts together. -/
lemma placeholder?_append_eq_none (h : Splits ('\x7b' :: s) t)
    (hnone : placeholder? args s = none) :
    placeholder? args (s ++ t) = none := by
  rw [Option.eq_none_iff_forall_ne_some]
  rintro ⟨arg, rest⟩ hsome
  obtain ⟨digits, index, hnames, harg, heq⟩ := placeholder?_eq_some_iff.1 hsome
  by_cases hdigits : ∀ c ∈ s, c.isDigit = true
  · -- The first text is left open, so the second one would have to go on with it.
    have hgoesOn := h ⟨s, hdigits, List.suffix_refl _⟩
    cases t with
    | nil =>
      have hbrace : '\x7d' ∈ s := by
        rw [← List.append_nil s, heq]
        simp
      exact absurd (hdigits _ hbrace) (by decide)
    | cons c t =>
      obtain ⟨hc, hne⟩ := hgoesOn c rfl
      exact hne (digits_inj hdigits hnames.isDigit hc rfl heq).2.1
  · -- The digits of the first text end inside it, so it would have the placeholder alone.
    obtain ⟨c, s', hs⟩ := List.exists_cons_of_ne_nil (mt List.dropWhile_eq_nil_iff.1 hdigits)
    have hc : c.isDigit = false := by
      have hhead := List.head?_dropWhile_not Char.isDigit s
      rwa [hs] at hhead
    have hlead : ∀ c ∈ s.takeWhile Char.isDigit, c.isDigit = true :=
      fun c hc => List.mem_takeWhile_imp hc
    have hsplit : s = s.takeWhile Char.isDigit ++ c :: s' := by
      rw [← hs, List.takeWhile_append_dropWhile]
    rw [hsplit, List.append_assoc, List.cons_append] at heq
    obtain ⟨hlead, rfl, -⟩ := digits_inj hlead hnames.isDigit hc rfl heq
    rw [hlead] at hsplit
    cases hnone.symm.trans (placeholder?_eq_some_iff.2 ⟨digits, index, hnames, harg, hsplit⟩)

/-- More text behind a placeholder does not change it. -/
lemma placeholder?_append (h : placeholder? args s = some (arg, rest)) :
    placeholder? args (s ++ t) = some (arg, rest ++ t) := by
  obtain ⟨digits, index, hnames, harg, rfl⟩ := placeholder?_eq_some_iff.1 h
  refine placeholder?_eq_some_iff.2 ⟨digits, index, hnames, harg, ?_⟩
  rw [List.append_assoc, List.cons_append]

/-- Texts are rendered one after another if no placeholder lies across the place where they meet. -/
lemma renderChars_append_of_splits (h : Splits s t) :
    renderChars args (s ++ t) = renderChars args s ++ renderChars args t := by
  fun_induction renderChars args s with
  | case1 => rfl
  | case2 s arg rest hsome ih =>
    obtain ⟨digits, _, _, _, hs⟩ := placeholder?_eq_some_iff.1 hsome
    have hrest : rest <:+ '\x7b' :: s := ⟨'\x7b' :: digits ++ ['\x7d'], by simp [hs]⟩
    rw [List.cons_append, renderChars_of_placeholder? (placeholder?_append hsome),
      ih (h.of_suffix hrest), List.append_assoc]
  | case3 s hnone ih =>
    rw [List.cons_append, renderChars_cons fun _ => placeholder?_append_eq_none h hnone,
      ih (h.of_suffix (List.suffix_cons _ s)), List.cons_append]
  | case4 c s hc ih =>
    rw [List.cons_append, renderChars_cons fun hbrace => absurd hbrace hc,
      ih (h.of_suffix (List.suffix_cons c s)), List.cons_append]

/-- A text without a brace is split from every other one. -/
lemma splits_of_notMem (h : '\x7b' ∉ s) : Splits s t := by
  rintro ⟨digits, -, hopen⟩
  exact absurd (hopen.subset List.mem_cons_self) h

/-- Text without an opening brace stays as it is. -/
lemma renderChars_self (h : '\x7b' ∉ s) : renderChars args s = s := by
  induction s with
  | nil => rw [renderChars]
  | cons c s ih =>
    obtain ⟨hc, hs⟩ := List.ne_and_not_mem_of_not_mem_cons h
    rw [renderChars_cons fun hbrace => absurd hbrace.symm hc, ih hs]

/-- Text without a brace is written as it is. -/
lemma renderChars_append (h : '\x7b' ∉ s) :
    renderChars args (s ++ t) = s ++ renderChars args t := by
  rw [renderChars_append_of_splits (splits_of_notMem h), renderChars_self h]

/-- Without arguments there are no placeholders. -/
lemma renderChars_of_no_args (s : List Char) : renderChars [] s = s := by
  induction s with
  | nil => rw [renderChars]
  | cons c s ih =>
    have hnone : placeholder? [] s = none := by
      rw [Option.eq_none_iff_forall_ne_some]
      rintro ⟨arg, rest⟩ hsome
      obtain ⟨_, _, hnames, -⟩ := placeholder?_eq_some_iff.1 hsome
      exact absurd hnames.given (Nat.not_lt_zero _)
    rw [renderChars_cons fun _ => hnone, ih]

/-- A placeholder that names no argument stays as it is. -/
lemma renderChars_braced (h : Spells digits n) (hn : args.length ≤ n ∨ UInt64.size ≤ n) :
    renderChars args (braced digits ++ s) = braced digits ++ renderChars args s := by
  have hnone : placeholder? args (digits ++ '\x7d' :: s) = none := by
    rw [Option.eq_none_iff_forall_ne_some]
    rintro ⟨arg, rest⟩ hsome
    obtain ⟨digits', index, hnames, -, heq⟩ := placeholder?_eq_some_iff.1 hsome
    obtain ⟨rfl, -, -⟩ := digits_inj h.isDigit hnames.isDigit rfl rfl heq
    obtain rfl := h.unique hnames.toSpells
    rcases hn with hn | hn
    · exact absurd hnames.given (Nat.not_lt_of_le hn)
    · exact absurd hnames.fits (Nat.not_lt_of_le hn)
  have hplain : '\x7b' ∉ digits ++ ['\x7d'] := by
    rw [List.mem_append, not_or]
    exact ⟨fun hmem => absurd (h.isDigit _ hmem) (by decide), by decide⟩
  have hcopied : renderChars args (digits ++ ['\x7d'] ++ s) = digits ++ ['\x7d'] ++
      renderChars args s :=
    renderChars_append hplain
  rw [List.append_assoc, List.append_assoc, List.singleton_append, List.singleton_append] at hcopied
  rw [braced_append, renderChars_cons fun _ => hnone, hcopied, braced_append]

/-- Rendering is a single substitution from the left: the template and the number of arguments say
where the arguments go, whatever their texts are, and all else is copied. So a template without
arguments stays as it is, and so does a placeholder that names none; and templates that do not end
inside of a placeholder can be rendered in parts. -/
theorem render_substitutes (args : List String) :
    (∀ template : String, ∃ parts, Scans args.length template.toList parts ∧
      (∀ others, Scans args.length template.toList others → others = parts) ∧
      ∀ texts : List String, texts.length = args.length →
        (render template texts).toList = parts.flatMap (Part.fill texts)) ∧
    (∀ template, render template [] = template) ∧
    (∀ before after digits n, Spells digits n → args.length ≤ n ∨ UInt64.size ≤ n →
      render (before ++ String.ofList (braced digits) ++ after) args =
        render before args ++ String.ofList (braced digits) ++ render after args) ∧
    ∀ first second : String, ¬ EndsOpen first.toList →
      render (first ++ second) args = render first args ++ render second args := by
  refine ⟨?_, ?_, ?_, ?_⟩
  · intro template
    obtain ⟨parts, hparts⟩ := exists_scans args.length template.toList
    refine ⟨parts, hparts, fun others hothers => hothers.unique hparts, ?_⟩
    intro texts hlength
    rw [← hlength] at hparts
    rw [render, String.toList_ofList, renderChars_of_scans hparts]
  · intro template
    rw [render, renderChars_of_no_args, String.ofList_toList]
  · intro before after digits n hspells hn
    have hsplits : Splits before.toList (braced digits ++ after.toList) := by
      rw [braced_append]
      intro _ c hc
      cases hc
      exact ⟨rfl, by decide⟩
    apply String.toList_inj.1
    simp only [render, String.toList_ofList, String.toList_append, List.append_assoc]
    rw [renderChars_append_of_splits hsplits, renderChars_braced hspells hn]
  · intro first second hclosed
    have hsplits : Splits first.toList second.toList := fun hopen => absurd hopen hclosed
    rw [render, String.toList_append, renderChars_append_of_splits hsplits, String.ofList_append]
    rfl

/-- What looks like a placeholder in an argument is not filled in. -/
theorem render_substitutes_nested :
    (Spells ['7'] 7 ∧ ["{1}", "b"].length ≤ 7 ∧
      render ("{0}" ++ String.ofList (braced ['7']) ++ "{01}") ["{1}", "b"] = "{1}{7}b") ∧
    ¬ EndsOpen "{0}".toList ∧ render ("{0}" ++ "{01}") ["{1}", "b"] = "{1}b" := by
  have hspells : Spells ['7'] 7 := ⟨by decide, List.forall_mem_singleton.2 rfl, rfl⟩
  have hclosed : ¬ EndsOpen "{0}".toList := by
    rintro ⟨digits, hdigits, before, hopen⟩
    have hlast := congrArg List.getLast? hopen
    rw [List.getLast?_append_of_ne_nil _ (List.cons_ne_nil _ _)] at hlast
    rcases List.mem_cons.1 (List.mem_of_getLast? hlast) with hbrace | hdigit
    · exact absurd hbrace (by decide)
    · exact absurd (hdigits _ hdigit) (by decide)
  have hfirst : render "{0}" ["{1}", "b"] = "{1}" := by cbv
  have hsecond : render "{01}" ["{1}", "b"] = "b" := by cbv
  obtain ⟨-, -, hverbatim, hparts⟩ := render_substitutes ["{1}", "b"]
  refine ⟨⟨hspells, by decide, ?_⟩, hclosed, ?_⟩
  · rw [hverbatim _ _ _ 7 hspells (.inl (by decide)), hfirst, hsecond]
    rfl
  · rw [hparts _ _ hclosed, hfirst, hsecond]
    rfl

end CppAdvice.Template
