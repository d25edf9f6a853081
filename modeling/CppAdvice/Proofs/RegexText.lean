import CppAdvice.Pattern.RegexReader
import CppAdvice.Proofs.Regex

/-!
# Written expressions and what they denote

The written form of an expression is a tree: alternatives, which are sequences of atoms with signs
of repetition behind them (`Form`). It denotes a language, is written down letter by letter, and its
parts are nested so deep. Reading it back takes the letters of every part in turn and leaves an
expression with the same language and depth (`wholeOfText?_eq`), so a form is accepted unless it is
nested too deep.
-/

namespace CppAdvice.Pattern.Regex

open Computability

/-! ### Forms -/

/-- The characters that mean something, or start something, outside of a class. -/
def specials : List Char :=
  ['\\', '.', '+', '*', '?', '(', ')', '|', '[', '\x7b', '^', '$']

/-- The characters that may mean something inside of a class. -/
def classSpecials : List Char :=
  ['\\', '[', ']', '^', '-', '&', '~']

/-- The characters that may stand behind a backslash for themselves. -/
def isPunctuation (c : Char) : Bool :=
  c.toNat < 0x80 && !c.isAlphanum && c ≠ '<' && c ≠ '>'

/-- A character that stands for itself: as it is, if it is not special, or behind a backslash. -/
inductive Spelling (special : List Char) where
  | bare (c : Char) (h : c ∉ special)
  | escaped (c : Char) (h : isPunctuation c = true)

namespace Spelling

variable {special : List Char}

/-- The character that is spelled. -/
def char : Spelling special → Char
  | bare c _ | escaped c _ => c

/-- How the character is written: on its own, or behind a backslash. -/
def letter : Spelling special → Letter
  | bare c _ => .mark c
  | escaped c _ => .plain c

end Spelling

/-- What a class lists: a character, or all characters from one to another. -/
inductive ClassItem where
  | single (s : Spelling classSpecials)
  | range (low high : Spelling classSpecials) (h : low.char ≤ high.char)

namespace ClassItem

/-- How the item is written, with a dash between the ends of a range. -/
def letters : ClassItem → List Letter
  | single s => [s.letter]
  | range low high _ => [low.letter, .mark '-', high.letter]

/-- Whether the item lists a character. -/
def Covers (c : Char) : ClassItem → Prop
  | single s => c = s.char
  | range low high _ => low.char ≤ c ∧ c ≤ high.char

end ClassItem

/-- The signs of repetition. -/
inductive Repetition where
  | star
  | plus
  | opt
deriving Repr, DecidableEq

namespace Repetition

/-- The sign as a character. -/
def sign : Repetition → Char
  | star => '*'
  | plus => '+'
  | opt => '?'

/-- The texts that repeating a language leads to. -/
def apply (l : Language Char) : Repetition → Language Char
  | star => l∗
  | plus => l * l∗
  | opt => l + 1

/-- The repetitions that signs stand for. A `?` behind another sign asks for a match that is as
short as possible, which is no repetition of its own. -/
def effective : List Repetition → List Repetition
  | [] => []
  | how :: .opt :: signs => how :: effective signs
  | how :: signs => how :: effective signs

end Repetition

mutual

/-- A part of a sequence. -/
inductive Atom where
  | letter (s : Spelling specials)
  | dot
  /-- A class of what is listed, or of everything else. -/
  | ranges (negated : Bool) (first : ClassItem) (others : List ClassItem)
  | group (captures : Bool) (body : Form)

/-- Atoms one after another, each with signs of repetition behind it. -/
inductive Branch where
  | nil
  | cons (atom : Atom) (signs : List Repetition) (rest : Branch)

/-- The written form of an expression: one or more alternatives. -/
inductive Form where
  | one (branch : Branch)
  | or (branch : Branch) (rest : Form)

end

/-! ### What forms denote -/

mutual

/-- The texts that an atom matches. -/
def Atom.language : Atom → Language Char
  | .letter s => {w | w = [s.char]}
  | .dot => {w | ∃ c, c ≠ '\n' ∧ w = [c]}
  | .ranges negated first others =>
    {w | ∃ c, ((∃ item ∈ first :: others, item.Covers c) ↔ negated = false) ∧ w = [c]}
  | .group _ body => body.language

/-- The texts that atoms match one after another. -/
def Branch.language : Branch → Language Char
  | .nil => 1
  | .cons atom signs rest =>
    (Repetition.effective signs).foldl Repetition.apply atom.language * rest.language

/-- The texts that any of the alternatives matches. -/
def Form.language : Form → Language Char
  | .one branch => branch.language
  | .or branch rest => branch.language + rest.language

end

/-! ### How forms are written -/

mutual

/-- An atom, letter by letter. -/
def Atom.letters : Atom → List Letter
  | .letter s => [s.letter]
  | .dot => [.mark '.']
  | .ranges negated first others =>
    .mark '[' :: (if negated then [.mark '^'] else []) ++
      (first :: others).flatMap ClassItem.letters ++ [.mark ']']
  | .group captures body =>
    .mark '(' :: (if captures then [] else [.mark '?', .mark ':']) ++ body.letters ++ [.mark ')']

/-- A sequence, letter by letter, with the signs behind each of its atoms. -/
def Branch.letters : Branch → List Letter
  | .nil => []
  | .cons atom signs rest => atom.letters ++ (signs.map fun how => .mark how.sign) ++ rest.letters

/-- A form, letter by letter, with a bar between alternatives. -/
def Form.letters : Form → List Letter
  | .one branch => branch.letters
  | .or branch rest => branch.letters ++ .mark '|' :: rest.letters

end

/-- A letter as it is written. -/
def Letter.text : Letter → List Char
  | .mark c => [c]
  | .plain c => ['\\', c]

/-- The form as it is written. -/
def Form.text (f : Form) : String :=
  String.ofList (f.letters.flatMap Letter.text)

/-! ### How deep forms are nested -/

/-- The depth of parts side by side: a part on its own stays as it is. -/
def nest : List Nat → Nat
  | [] => 0
  | [depth] => depth
  | depths => depths.foldl max 0 + 1

mutual

/-- A class and a group are one deeper than what is in them. -/
def Atom.depth : Atom → Nat
  | .letter _ | .dot => 0
  | .ranges _ _ others => nest (0 :: others.map fun _ => 0) + 1
  | .group _ body => nest body.depths + 1

/-- The depths of the parts of a sequence; each repetition is one deeper than what is repeated. -/
def Branch.depths : Branch → List Nat
  | .nil => []
  | .cons atom signs rest => (atom.depth + (Repetition.effective signs).length) :: rest.depths

/-- The depths of the alternatives. -/
def Form.depths : Form → List Nat
  | .one branch => [nest branch.depths]
  | .or branch rest => nest branch.depths :: rest.depths

end

/-- How deep the parts of a form are nested. -/
def Form.depth (f : Form) : Nat :=
  nest f.depths

/-! ### What is read -/

/-- An expression that asks for neither end of the text, and of which nothing has been matched. -/
def Ready (r : Regex) : Prop :=
  r.isPlain = true ∧ r.isFresh = true

/-- Something read that denotes a language and is nested so deep. -/
structure Means (n : Nested Regex) (l : Language Char) (depth : Nat) : Prop where
  ready : Ready n.value
  language : n.value.language = l
  depth : n.depth = depth

/-- Parts that have been read one after another. -/
structure MeansAll (ns : List (Nested Regex)) (ls : List (Language Char)) (depths : List Nat) :
    Prop where
  ready : ∀ n ∈ ns, Ready n.value
  language : ns.map (·.value.language) = ls
  depth : ns.map (·.depth) = depths

section

variable {r s : Regex} {rs : List Regex} {n : Nested Regex} {ns : List (Nested Regex)}
  {l : Language Char}
  {ls : List (Language Char)} {depth : Nat} {depths : List Nat}

/-- Two expressions in sequence are ready if both are. -/
lemma Ready.seq (hr : Ready r) (hs : Ready s) : Ready (.seq r s) :=
  ⟨Bool.and_eq_true_iff.2 ⟨hr.1, hs.1⟩, Bool.and_eq_true_iff.2 ⟨hr.2, hs.2⟩⟩

/-- Two alternatives are ready if both are. -/
lemma Ready.alt (hr : Ready r) (hs : Ready s) : Ready (.alt r s) :=
  ⟨Bool.and_eq_true_iff.2 ⟨hr.1, hs.1⟩, Bool.and_eq_true_iff.2 ⟨hr.2, hs.2⟩⟩

/-- Expressions in sequence are ready if all of them are. -/
lemma ready_seqAll (h : ∀ r ∈ rs, Ready r) : Ready (seqAll rs) := by
  fun_induction seqAll rs with
  | case1 => exact ⟨rfl, rfl⟩
  | case2 r => exact h r List.mem_cons_self
  | case3 r rs _ ih =>
    rw [List.forall_mem_cons] at h
    exact h.1.seq (ih h.2)

/-- Alternatives are ready if all of them are. -/
lemma ready_altAll (h : ∀ r' ∈ r :: rs, Ready r') : Ready (altAll r rs) := by
  fun_induction altAll r rs with
  | case1 r => exact h r List.mem_cons_self
  | case2 r s rs ih =>
    rw [List.forall_mem_cons] at h
    exact h.1.alt (ih h.2)

/-- The texts of a sequence are those of its parts, one after another. -/
lemma language_seqAll (rs : List Regex) : (seqAll rs).language = (rs.map language).prod := by
  fun_induction seqAll rs with
  | case1 => rfl
  | case2 r => simp
  | case3 r rs _ ih => rw [language, ih, List.map_cons, List.prod_cons]

/-- The texts of alternatives are those of any of them. -/
lemma language_altAll (r : Regex) (rs : List Regex) :
    (altAll r rs).language = ((r :: rs).map language).sum := by
  fun_induction altAll r rs with
  | case1 r => simp
  | case2 r s rs ih =>
    rw [language, ih]
    rfl

/-- Nothing has been read of no parts. -/
lemma MeansAll.nil : MeansAll [] [] [] :=
  ⟨List.forall_mem_nil _, rfl, rfl⟩

/-- One more part in front of those that have been read. -/
lemma MeansAll.cons (h : Means n l depth) (hs : MeansAll ns ls depths) :
    MeansAll (n :: ns) (l :: ls) (depth :: depths) where
  ready := List.forall_mem_cons.2 ⟨h.ready, hs.ready⟩
  language := by rw [List.map_cons, h.language, hs.language]
  depth := by rw [List.map_cons, h.depth, hs.depth]

/-- Parts that are put together are nested as deep as they are side by side. -/
lemma depth_gather {α : Type} (ns : List (Nested α)) (f : List α → α) :
    (Nested.gather ns f).depth = nest (ns.map (·.depth)) := by
  rcases ns with _ | ⟨n, _ | ⟨m, ns⟩⟩ <;> rfl

/-- Parts are put together by their values; a single part is not changed by that. -/
lemma value_gather {α : Type} (ns : List (Nested α)) {f : List α → α} (hf : ∀ a, f [a] = a) :
    (Nested.gather ns f).value = f (ns.map (·.value)) := by
  rcases ns with _ | ⟨n, _ | ⟨m, ns⟩⟩
  · rfl
  · exact (hf n.value).symm
  · rfl

/-- Parts one after another denote the texts of all of them in turn. -/
lemma MeansAll.sequence (h : MeansAll ns ls depths) :
    Means (Nested.gather ns seqAll) ls.prod (nest depths) := by
  have hvalue := value_gather ns (f := seqAll) fun _ => rfl
  constructor
  case ready =>
    rw [hvalue]
    exact ready_seqAll (List.forall_mem_map.2 h.ready)
  case language => rw [hvalue, language_seqAll, List.map_map, ← h.language]; rfl
  case depth => rw [depth_gather, h.depth]

/-- The expression of one or more alternatives. -/
def oneOfAll : List Regex → Regex
  | [] => .empty
  | r :: rs => altAll r rs

/-- Alternatives denote the texts of any of them. -/
lemma MeansAll.alternatives (h : MeansAll ns ls depths) (hne : ns ≠ []) :
    Means (Nested.gather ns oneOfAll) ls.sum (nest depths) := by
  obtain ⟨n, rest, rfl⟩ := List.exists_cons_of_ne_nil hne
  have hvalue : (Nested.gather (n :: rest) oneOfAll).value = altAll n.value (rest.map (·.value)) :=
    value_gather (n :: rest) fun _ => rfl
  constructor
  case ready =>
    rw [hvalue]
    exact ready_altAll (List.forall_mem_map (l := n :: rest).2 h.ready)
  case language => rw [hvalue, language_altAll, ← List.map_cons, List.map_map, ← h.language]; rfl
  case depth => rw [depth_gather, h.depth]

end

/-! ### Signs of repetition -/

namespace Repetition

/-- The repetition that is read for a sign. -/
def regex : Repetition → Regex → Regex
  | star => .star
  | plus => .plus
  | opt => Regex.opt

/-- A sign repeats what is denoted, one level deeper. -/
lemma means_around {n : Nested Regex} {l : Language Char} {depth : Nat} (h : Means n l depth)
    (how : Repetition) :
    Means (n.around how.regex) (how.apply l) (depth + 1) := by
  obtain ⟨⟨hplain, hfresh⟩, hlanguage, hdepth⟩ := h
  cases how with
  | star => exact ⟨⟨hplain, hfresh⟩, congrArg _ hlanguage, congrArg _ hdepth⟩
  | plus =>
    refine ⟨⟨hplain, hfresh⟩, ?_, congrArg _ hdepth⟩
    rw [← hlanguage]
    rfl
  | opt =>
    refine ⟨Ready.alt ⟨hplain, hfresh⟩ ⟨rfl, rfl⟩, ?_, congrArg _ hdepth⟩
    rw [← hlanguage]
    rfl

/-- Several signs repeat what is denoted one after another, each one level deeper. -/
lemma means_foldl {n : Nested Regex} {l : Language Char} {depth : Nat} (h : Means n l depth)
    (hows : List Repetition) :
    Means (hows.foldl (fun n how => n.around how.regex) n) (hows.foldl apply l) (depth +
      hows.length) := by
  induction hows generalizing n l depth with
  | nil => exact h
  | cons how hows ih =>
    rw [List.length_cons, Nat.add_comm hows.length, ← Nat.add_assoc]
    exact ih (means_around h how)

end Repetition

/-! ### Reading letter by letter -/

namespace ReaderState

variable {st st' st'' : ReaderState} {ls ls' rest : List Letter}

/-- The reader takes letters off what follows, in no more steps than there are letters, and gets
from one state to another. -/
def Takes (st : ReaderState) (ls rest : List Letter) (st' : ReaderState) : Prop :=
  ∃ steps ≤ ls.length, ∀ fuel, read? (fuel + steps) st (ls ++ rest) = read? fuel st' rest

/-- No letters are taken without a step. -/
lemma Takes.nil : Takes st [] rest st :=
  ⟨0, Nat.le_refl _, fun _ => rfl⟩

/-- Letters are taken in turn. -/
lemma Takes.append (h : Takes st ls (ls' ++ rest) st') (h' : Takes st' ls' rest st'') :
    Takes st (ls ++ ls') rest st'' := by
  obtain ⟨steps, hle, hread⟩ := h
  obtain ⟨steps', hle', hread'⟩ := h'
  refine ⟨steps' + steps, ?_, ?_⟩
  · rw [List.length_append]
    omega
  · intro fuel
    rw [← Nat.add_assoc, List.append_assoc, hread, hread']

/-- The letters of a single step are taken, if there are any. -/
lemma Takes.of_step? (hne : ls ≠ []) (h : st.step? (ls ++ rest) = some (st', rest)) :
    Takes st ls rest st' := by
  refine ⟨1, List.length_pos_iff.2 hne, ?_⟩
  intro fuel
  rw [read?, h]
  · rfl
  · exact fun hnil => hne (List.append_eq_nil_iff.1 hnil).1

/-- What has been read when all letters have been taken. -/
lemma Takes.read? (h : Takes st ls [] st') :
    ReaderState.read? ls.length st ls =
      if st'.outer.isEmpty && st'.classes.isEmpty then some st'.group.close else none := by
  obtain ⟨steps, hle, hread⟩ := h
  have hall := hread (ls.length - steps)
  rw [Nat.sub_add_cancel hle, List.append_nil] at hall
  rw [hall, ReaderState.read?]

end ReaderState

/-! ### Classes -/

namespace Spelling

/-- A spelling writes the character that it spells. -/
lemma char_letter {special : List Char} (s : Spelling special) : s.letter.char = s.char := by
  cases s <;> rfl

/-- A character that stands for itself is none of the special ones. -/
lemma letter_ne_mark {special : List Char} (s : Spelling special) {c : Char} (hc : c ∈ special) :
    s.letter ≠ .mark c := by
  cases s with
  | bare c' h =>
    intro heq
    cases heq
    exact h hc
  | escaped c' h =>
    intro heq
    cases heq

end Spelling

namespace ClassItem

/-- The set that is read for what a class lists. -/
def set : ClassItem → CharSet
  | single s => .single s.char
  | range low high _ => .range low.char high.char

/-- The set of an item holds the characters that the item lists. -/
lemma holds_set {item : ClassItem} {c : Char} : item.set.holds c = true ↔ item.Covers c := by
  cases item with
  | single s => exact holds_range_self
  | range low high h => simp [set, Covers, CharSet.holds]

/-- What an item is written with starts with the spelling of a character. -/
lemma exists_letters (item : ClassItem) :
    ∃ (s : Spelling classSpecials) (ls : List Letter), item.letters = s.letter :: ls := by
  cases item with
  | single s => exact ⟨s, [], rfl⟩
  | range low high h => exact ⟨low, _, rfl⟩

end ClassItem

namespace ReaderState

variable {g : GroupDraft} {outer : List GroupDraft} {d : ClassDraft} {ds : List ClassDraft}
  {rest : List Letter}

/-- Inside of a class, letters go to the class. -/
lemma step?_class {ls : List Letter} :
    step? ⟨g, outer, d :: ds⟩ ls = stepClass? ⟨g, outer, d :: ds⟩ d ds ls :=
  rfl

/-- An item of a class is read in one step, unless a dash follows it. -/
lemma step?_classItem (item : ClassItem) (hrest : rest.head? ≠ some (.mark '-')) :
    step? ⟨g, outer, d :: ds⟩ (item.letters ++ rest) =
      some (⟨g, outer, d.push ⟨item.set, 0⟩ :: ds⟩, rest) := by
  cases item with
  | single s =>
    rw [ClassItem.letters, List.singleton_append, step?_class, stepClass?, Spelling.char_letter]
    · rfl
    · exact s.letter_ne_mark (by decide)
    · exact s.letter_ne_mark (by decide)
    · exact fun _ heq _ => s.letter_ne_mark (by decide) heq
    · exact fun _ heq _ => s.letter_ne_mark (by decide) heq
    · exact fun _ heq _ => s.letter_ne_mark (by decide) heq
    · rintro high ls rfl
      exact hrest rfl
  | range low high h =>
    have hhigh : ¬ (high.letter = .mark ']' ∨ high.letter = .mark '-') := by
      rw [not_or]
      exact ⟨high.letter_ne_mark (by decide), high.letter_ne_mark (by decide)⟩
    rw [ClassItem.letters, List.cons_append, List.cons_append, List.singleton_append,
      step?_class, stepClass?, if_neg hhigh, Spelling.char_letter, Spelling.char_letter, if_pos h]
    · rfl
    · exact low.letter_ne_mark (by decide)
    · exact low.letter_ne_mark (by decide)
    · exact low.letter_ne_mark (by decide)

/-- A caret at the start of a class is taken, and nothing else is. -/
lemma takeSign_eq (negated : Bool) (s : Spelling classSpecials) (ls : List Letter) :
    takeSign ((if negated then [.mark '^'] else []) ++ s.letter :: ls) = (negated,
      s.letter :: ls) := by
  cases negated with
  | true => rfl
  | false =>
    rw [if_neg Bool.false_ne_true, List.nil_append, takeSign]
    exact fun _ heq => s.letter_ne_mark (by decide) (List.cons.inj heq).1

/-- A class that lists a character that stands for itself first. -/
lemma start_eq (negated : Bool) (s : Spelling classSpecials) (ls : List Letter) :
    ClassDraft.start ((if negated then [.mark '^'] else []) ++ s.letter :: ls) = ({ negated },
      s.letter :: ls) := by
  have hdash : (s.letter :: ls).takeWhile (· = Letter.mark '-') = [] :=
    List.takeWhile_cons_of_neg (by simpa using s.letter_ne_mark (by decide))
  rw [ClassDraft.start, takeSign_eq]
  dsimp only
  rw [hdash]
  split
  case h_1 heq => exact absurd (List.cons.inj heq).1 (s.letter_ne_mark (by decide))
  case h_2 => rfl

/-- The items of a class are read one after another. -/
lemma takes_classItems (items : List ClassItem) (hrest : rest.head? ≠ some (.mark '-')) :
    Takes ⟨g, outer, d :: ds⟩ (items.flatMap ClassItem.letters) rest
      ⟨g, outer,
        { d with items := (items.map fun item => ⟨item.set, 0⟩).reverse ++ d.items } :: ds⟩ := by
  induction items generalizing d with
  | nil => exact .nil
  | cons item items ih =>
    -- a dash behind the item would make a range of it
    have hhead : (items.flatMap ClassItem.letters ++ rest).head? ≠ some (.mark '-') := by
      cases items with
      | nil => exact hrest
      | cons next items =>
        obtain ⟨s, ls, hls⟩ := next.exists_letters
        rw [List.flatMap_cons, hls]
        exact fun heq => s.letter_ne_mark (by decide) (Option.some.inj heq)
    have hstep :
        Takes ⟨g, outer, d :: ds⟩ item.letters (items.flatMap ClassItem.letters ++ rest) _ :=
      .of_step? (by obtain ⟨s, ls, hls⟩ := item.exists_letters; simp [hls])
        (step?_classItem item hhead)
    have hitems := hstep.append ih
    rw [List.map_cons, List.reverse_cons, List.append_assoc]
    exact hitems

end ReaderState

/-- The union of sets holds what one of them holds. -/
lemma holds_unionAll {sets : List CharSet} {c : Char} :
    (CharSet.unionAll sets).holds c = true ↔ ∃ set ∈ sets, set.holds c = true := by
  fun_induction CharSet.unionAll sets with
  | case1 => simp [CharSet.holds]
  | case2 set => simp
  | case3 set sets _ ih => rw [CharSet.holds, Bool.or_eq_true, ih, List.exists_mem_cons_iff]

/-- The class that has been read when all that it lists has been. -/
def readClass (negated : Bool) (items : List ClassItem) : ClassDraft :=
  { negated, items := (items.map fun item => ⟨item.set, 0⟩).reverse }

/-- What a class denotes, and how deep it is. -/
lemma means_readClass (negated : Bool) (first : ClassItem) (others : List ClassItem) :
    Means ((readClass negated (first :: others)).close.map oneOfSet)
      (Atom.ranges negated first others).language (Atom.ranges negated first others).depth := by
  have hjoined : (readClass negated (first :: others)).joined =
      Nested.gather ((first :: others).map fun item => ⟨item.set, 0⟩) .unionAll := by
    rw [readClass, ClassDraft.joined, List.reverse_reverse]
  have hvalue :
      (Nested.gather ((first :: others).map fun item => ⟨item.set, 0⟩) CharSet.unionAll).value =
      .unionAll ((first :: others).map ClassItem.set) := by
    rw [value_gather _ fun _ => rfl, List.map_map]
    rfl
  have hset (c : Char) : (CharSet.unionAll ((first :: others).map ClassItem.set)).holds c = true ↔
      ∃ item ∈ first :: others, item.Covers c := by
    simp only [holds_unionAll, List.mem_map, exists_exists_and_eq_and, ClassItem.holds_set]
  constructor
  case ready => exact ⟨rfl, rfl⟩
  case depth =>
    rw [Nested.map, ClassDraft.close, Nested.around, hjoined, depth_gather,
      List.map_map, Atom.depth]
    rfl
  case language =>
    rw [Nested.map, ClassDraft.close, Nested.around, hjoined, hvalue, Atom.language]
    ext w
    refine exists_congr fun c => and_congr_left fun _ => ?_
    rw [← hset]
    cases negated <;> simp [readClass, CharSet.holds]

/-! ### Reading forms -/

namespace ReaderState

variable {g : GroupDraft} {outer : List GroupDraft} {n : Nested Regex} {ls rest : List Letter}

/-- Outside of a class, letters go to the innermost group. -/
lemma step?_group : step? ⟨g, outer, []⟩ ls = stepGroup? ⟨g, outer, []⟩ ls :=
  rfl

/-- A character that stands for itself is read as the set of it alone. -/
lemma step?_letter (s : Spelling specials) :
    step? ⟨g, outer, []⟩ (s.letter :: rest) =
      some (⟨g.push ⟨oneOfSet (.single s.char), 0⟩, outer, []⟩, rest) := by
  cases s with
  | escaped c h => rfl
  | bare c h =>
    have hne : ∀ special ∈ specials, c ≠ special := fun special hspecial heq => h (heq ▸ hspecial)
    have hnone : repetition? c = none := by
      rw [repetition?]
      · exact hne _ (by decide)
      · exact hne _ (by decide)
      · exact hne _ (by decide)
    rw [step?_group, Spelling.letter, stepGroup?, hnone]
    · rfl
    · exact fun _ _ => hne _ (by decide)
    · exact fun _ _ => hne _ (by decide)
    all_goals exact hne _ (by decide)

/-- An opening parenthesis, with or without a capture, opens a group. -/
lemma step?_open (captures : Bool) (h : rest.head? ≠ some (.mark '?')) :
    step? ⟨g, outer, []⟩ ((.mark '(' :: if captures then [] else [.mark '?', .mark ':']) ++ rest) =
      some (⟨{}, g :: outer, []⟩, rest) := by
  cases captures with
  | false => rfl
  | true =>
    rw [if_pos rfl, List.singleton_append, step?_group, stepGroup?]
    · rfl
    · rintro ls rfl
      exact h rfl
    · rintro ls rfl
      exact h rfl

/-- Where no question mark comes next, there is none to skip. -/
lemma skipShortest_of_head (h : ls.head? ≠ some (.mark '?')) : skipShortest ls = ls := by
  rw [skipShortest]
  rintro rest rfl
  exact h rfl

/-- A sign of repetition is put around the part that was read last. -/
lemma step?_sign (how : Repetition) :
    step? ⟨g.push n, outer, []⟩ (.mark how.sign :: ls) =
      some (⟨g.push (n.around how.regex), outer, []⟩, skipShortest ls) := by
  cases how <;> rfl

/-- Signs are taken together with the `?` that may follow each of them. -/
lemma takes_signs (signs : List Repetition) (h : rest.head? ≠ some (.mark '?')) :
    Takes ⟨g.push n, outer, []⟩ (signs.map fun how => .mark how.sign) rest
      ⟨g.push ((Repetition.effective signs).foldl (fun n how => n.around how.regex) n),
        outer, []⟩ := by
  fun_induction Repetition.effective signs generalizing n with
  | case1 => exact .nil
  | case2 how signs ih =>
    have hstep : Takes ⟨g.push n, outer, []⟩ [.mark how.sign, .mark '?']
        ((signs.map fun how => .mark how.sign) ++ rest) ⟨g.push (n.around how.regex), outer, []⟩ :=
      .of_step? (List.cons_ne_nil _ _) (step?_sign how)
    exact hstep.append ih
  | case3 how signs hnext ih =>
    have hhead :
        ((signs.map fun how => Letter.mark how.sign) ++ rest).head? ≠ some (.mark '?') := by
      cases signs with
      | nil => exact h
      | cons next signs =>
        cases next with
        | opt => exact absurd rfl (hnext signs)
        | star => simp [Repetition.sign]
        | plus => simp [Repetition.sign]
    have hstep :
        Takes ⟨g.push n, outer, []⟩ [.mark how.sign] ((signs.map fun how => .mark how.sign) ++ rest)
        ⟨g.push (n.around how.regex), outer, []⟩ := by
      apply Takes.of_step? (List.cons_ne_nil _ _)
      rw [List.singleton_append, step?_sign, skipShortest_of_head hhead]
    exact hstep.append ih

/-- A class is read from its opening bracket to its closing one. -/
lemma takes_class (negated : Bool) (first : ClassItem) (others : List ClassItem) :
    Takes ⟨g, outer, []⟩ (Atom.ranges negated first others).letters rest
      ⟨g.push ((readClass negated (first :: others)).close.map oneOfSet), outer, []⟩ := by
  have hopen : Takes ⟨g, outer, []⟩ (.mark '[' :: if negated then [.mark '^'] else [])
      ((first :: others).flatMap ClassItem.letters ++ ([.mark ']'] ++ rest))
        ⟨g, outer, [{ negated }]⟩ := by
    apply Takes.of_step? (List.cons_ne_nil _ _)
    obtain ⟨s, ls, hls⟩ := first.exists_letters
    rw [List.flatMap_cons, hls, List.cons_append, step?_group, stepGroup?, openClass]
    simp only [List.cons_append, start_eq]
  have hitems : Takes ⟨g, outer, [{ negated }]⟩ ((first :: others).flatMap ClassItem.letters)
      ([.mark ']'] ++ rest)
      ⟨g, outer,
        [{ negated, items := ((first :: others).map fun item => ⟨item.set, 0⟩).reverse ++ [] }]⟩ :=
    takes_classItems (first :: others) (by simp)
  rw [List.append_nil] at hitems
  have hclose : Takes ⟨g, outer, [readClass negated (first :: others)]⟩ [.mark ']'] rest
      ⟨g.push ((readClass negated (first :: others)).close.map oneOfSet), outer, []⟩ :=
    .of_step? (List.cons_ne_nil _ _) rfl
  rw [Atom.letters]
  exact (hopen.append hitems).append hclose

end ReaderState

/-- A group is closed by putting its alternatives together, in the order in which they were read. -/
lemma GroupDraft.close_eq (g : GroupDraft) :
    g.close = Nested.gather (g.current :: g.alternatives).reverse oneOfAll :=
  rfl

/-- No atom starts with a `?`. -/
lemma Atom.head?_letters (a : Atom) : ∃ l ls, a.letters = l :: ls ∧ l ≠ .mark '?' := by
  cases a with
  | letter s => exact ⟨s.letter, [], by rw [Atom.letters], s.letter_ne_mark (by decide)⟩
  | dot => exact ⟨.mark '.', [], by rw [Atom.letters], by decide⟩
  | ranges negated first others => exact ⟨.mark '[', _, by rw [Atom.letters]; rfl, by decide⟩
  | group captures body => exact ⟨.mark '(', _, by rw [Atom.letters]; rfl, by decide⟩

/-- A sequence does not start with a question mark. -/
lemma Branch.head?_letters (b : Branch) {rest : List Letter} (h : rest.head? ≠ some (.mark '?')) :
    (b.letters ++ rest).head? ≠ some (.mark '?') := by
  cases b with
  | nil =>
    rw [Branch.letters]
    exact h
  | cons atom signs branch =>
    obtain ⟨l, ls, hls, hl⟩ := atom.head?_letters
    rw [Branch.letters, hls]
    exact fun heq => hl (Option.some.inj heq)

/-- A form does not start with a question mark. -/
lemma Form.head?_letters (f : Form) {rest : List Letter} (h : rest.head? ≠ some (.mark '?')) :
    (f.letters ++ rest).head? ≠ some (.mark '?') := by
  cases f with
  | one branch =>
    rw [Form.letters]
    exact branch.head?_letters h
  | or branch form =>
    rw [Form.letters, List.append_assoc]
    exact branch.head?_letters (by simp)

/-- A set of characters denotes the texts of one of them. -/
lemma means_oneOfSet {set : CharSet} {p : Char → Prop} (h : ∀ c, set.holds c = true ↔ p c) :
    Means ⟨oneOfSet set, 0⟩ {w | ∃ c, p c ∧ w = [c]} 0 := by
  refine ⟨⟨rfl, rfl⟩, ?_, rfl⟩
  ext w
  exact exists_congr fun c => and_congr_left fun _ => h c

mutual

/-- An atom is read as something that denotes what the atom does. -/
lemma exists_atom : ∀ a : Atom, ∃ n, Means n a.language a.depth ∧
    ∀ g outer rest, ReaderState.Takes ⟨g, outer, []⟩ a.letters rest ⟨g.push n, outer, []⟩
  | .letter s => by
    have hmeans : Means ⟨oneOfSet (.single s.char), 0⟩ {w | ∃ c, c = s.char ∧ w = [c]} 0 :=
      means_oneOfSet fun c => holds_range_self
    refine ⟨⟨oneOfSet (.single s.char), 0⟩, ?_, fun g outer rest => ?_⟩
    · rw [Atom.language, Atom.depth]
      simpa using hmeans
    · rw [Atom.letters]
      exact .of_step? (List.cons_ne_nil _ _) (ReaderState.step?_letter s)
  | .dot => by
    have hnewline (c : Char) : CharSet.anyOnLine.holds c = true ↔ c ≠ '\n' := by
      rw [CharSet.anyOnLine, CharSet.holds, Bool.not_eq_true', ← Bool.not_eq_true, Ne,
        ← holds_range_self]
      rfl
    refine ⟨⟨oneOfSet .anyOnLine, 0⟩, ?_, fun g outer rest => ?_⟩
    · rw [Atom.language, Atom.depth]
      exact means_oneOfSet hnewline
    · rw [Atom.letters]
      exact .of_step? (List.cons_ne_nil _ _) rfl
  | .ranges negated first others =>
    ⟨_, means_readClass negated first others,
      fun _ _ _ => ReaderState.takes_class negated first others⟩
  | .group captures body => by
    obtain ⟨ns, ls, hne, hlanguage, hmeans, htakes⟩ := exists_form body
    refine ⟨(Nested.gather ns oneOfAll).around id, ?_, ?_⟩
    · rw [Atom.language, Atom.depth, ← hlanguage]
      exact ⟨(hmeans.alternatives hne).ready, (hmeans.alternatives hne).language,
        congrArg (· + 1) (hmeans.alternatives hne).depth⟩
    · intro g outer rest
      have hrest : (.mark ')' :: rest).head? ≠ some (.mark '?') := by simp
      -- while the body is read, the group around it waits among the outer ones
      obtain ⟨g', hg', hbody⟩ := htakes [] (g :: outer) (.mark ')' :: rest) hrest
      have hopen : ReaderState.Takes ⟨g, outer, []⟩
          (.mark '(' :: if captures then [] else [.mark '?', .mark ':'])
          (body.letters ++ .mark ')' :: rest) ⟨{}, g :: outer, []⟩ :=
        .of_step? (List.cons_ne_nil _ _)
          (ReaderState.step?_open captures (body.head?_letters hrest))
      have hclose : ReaderState.Takes ⟨g', g :: outer, []⟩ [.mark ')'] rest
          ⟨g.push ((Nested.gather ns oneOfAll).around id), outer, []⟩ := by
        apply ReaderState.Takes.of_step? (List.cons_ne_nil _ _)
        rw [List.reverse_nil, List.nil_append] at hg'
        rw [← hg', ← GroupDraft.close_eq]
        rfl
      rw [Atom.letters]
      exact (hopen.append hbody).append hclose

/-- The parts of a sequence are read one after another. -/
lemma exists_branch : ∀ b : Branch, ∃ ns ls, ls.prod = b.language ∧ MeansAll ns ls b.depths ∧
    ∀ g outer rest, rest.head? ≠ some (.mark '?') →
      ReaderState.Takes ⟨g, outer, []⟩ b.letters rest
        ⟨{ g with items := ns.reverse ++ g.items }, outer, []⟩
  | .nil => by
    refine ⟨[], [], ?_, ?_, fun g outer rest _ => ?_⟩
    · rw [Branch.language, List.prod_nil]
    · rw [Branch.depths]
      exact .nil
    · rw [Branch.letters]
      exact .nil
  | .cons atom signs branch => by
    obtain ⟨n, hn, hatom⟩ := exists_atom atom
    obtain ⟨ns, ls, hlanguage, hns, hbranch⟩ := exists_branch branch
    refine ⟨(Repetition.effective signs).foldl (fun n how => n.around how.regex) n :: ns,
      (Repetition.effective signs).foldl Repetition.apply atom.language :: ls, ?_, ?_, ?_⟩
    · rw [Branch.language, ← hlanguage, List.prod_cons]
    · rw [Branch.depths]
      exact .cons (Repetition.means_foldl hn _) hns
    · intro g outer rest hrest
      -- a `?` at the front of what follows would be taken together with the last sign
      have hhead := branch.head?_letters hrest
      rw [Branch.letters, List.reverse_cons, List.append_assoc ns.reverse]
      exact ((hatom g outer _).append (ReaderState.takes_signs signs hhead)).append
        (hbranch _ outer rest hrest)

/-- Alternatives are read behind those that have been read before. -/
lemma exists_form : ∀ f : Form, ∃ ns ls, ns ≠ [] ∧ ls.sum = f.language ∧ MeansAll ns ls f.depths ∧
    ∀ alternatives outer rest, rest.head? ≠ some (.mark '?') →
      ∃ g : GroupDraft, (g.current :: g.alternatives).reverse = alternatives.reverse ++ ns ∧
        ReaderState.Takes ⟨⟨alternatives, []⟩, outer, []⟩ f.letters rest ⟨g, outer, []⟩
  | .one branch => by
    obtain ⟨ns, ls, hlanguage, hns, hbranch⟩ := exists_branch branch
    refine ⟨[Nested.gather ns seqAll], [ls.prod], List.cons_ne_nil _ _, ?_, ?_, ?_⟩
    · rw [Form.language, List.sum_singleton, hlanguage]
    · rw [Form.depths]
      exact .cons hns.sequence .nil
    · intro alternatives outer rest hrest
      refine ⟨⟨alternatives, ns.reverse ++ []⟩, ?_, ?_⟩
      · rw [List.reverse_cons, GroupDraft.current, List.append_nil, List.reverse_reverse]
      · rw [Form.letters]
        exact hbranch ⟨alternatives, []⟩ outer rest hrest
  | .or branch form => by
    obtain ⟨ns, ls, hlanguage, hns, hbranch⟩ := exists_branch branch
    obtain ⟨ms, ks, hne, hlanguage', hms, hform⟩ := exists_form form
    refine ⟨Nested.gather ns seqAll :: ms, ls.prod :: ks, List.cons_ne_nil _ _, ?_, ?_, ?_⟩
    · rw [Form.language, List.sum_cons, hlanguage, hlanguage']
    · rw [Form.depths]
      exact .cons hns.sequence hms
    · intro alternatives outer rest hrest
      obtain ⟨g, hg, htakes⟩ := hform (Nested.gather ns seqAll :: alternatives) outer rest hrest
      refine ⟨g, ?_, ?_⟩
      · rw [hg, List.reverse_cons, List.append_assoc, List.singleton_append]
      · have hnext : ReaderState.Takes ⟨⟨alternatives, ns.reverse ++ []⟩, outer, []⟩ [.mark '|']
            (form.letters ++ rest)
            ⟨⟨Nested.gather ns seqAll :: alternatives, []⟩, outer, []⟩ := by
          apply ReaderState.Takes.of_step? (List.cons_ne_nil _ _)
          rw [List.append_nil, List.singleton_append, ReaderState.step?_group,
            ReaderState.stepGroup?, GroupDraft.next, GroupDraft.current, List.reverse_reverse]
        rw [Form.letters]
        exact (hbranch ⟨alternatives, []⟩ outer _ (by simp)).append (hnext.append htakes)

end

/-! ### Letters as they are written -/

/-- A letter that is read back as itself. -/
def Letter.IsLegal : Letter → Prop
  | .mark c => c ≠ '\\'
  | .plain c => isPunctuation c = true

/-- Legal letters are found again in what they are written as. -/
lemma Letter.ofChars?_flatMap {ls : List Letter} (h : ∀ l ∈ ls, l.IsLegal) :
    Letter.ofChars? (ls.flatMap Letter.text) = some ls := by
  induction ls with
  | nil => rfl
  | cons l ls ih =>
    rw [List.forall_mem_cons] at h
    cases l with
    | mark c =>
      have hc : c ≠ '\\' := h.1
      rw [List.flatMap_cons, Letter.text, List.singleton_append, ofChars?, ih h.2]
      · rfl
      · exact fun _ _ heq => absurd heq hc
      · exact fun heq => absurd heq hc
    | plain c =>
      have hc : escaped? c = some c := by
        have hpunctuation : isPunctuation c = true := h.1
        simp only [isPunctuation, Bool.and_eq_true, decide_eq_true_iff] at hpunctuation
        rw [escaped?,
          if_pos ⟨hpunctuation.1.1.1, hpunctuation.1.1.2, hpunctuation.1.2, hpunctuation.2⟩]
      rw [List.flatMap_cons, Letter.text, List.cons_append, List.singleton_append,
        ofChars?, ih h.2, hc]
      rfl

/-- What a character is spelled with is legal, if backslashes count as special. -/
lemma Spelling.isLegal {special : List Char} (s : Spelling special) (hspecial : '\\' ∈ special) :
    s.letter.IsLegal := by
  cases s with
  | bare c h => exact fun heq => h (heq ▸ hspecial)
  | escaped c h => exact h

/-- The letters of an item are legal. -/
lemma ClassItem.isLegal (item : ClassItem) : ∀ l ∈ item.letters, l.IsLegal := by
  have hspecial : '\\' ∈ classSpecials := by decide
  cases item with
  | single s => exact List.forall_mem_singleton.2 (s.isLegal hspecial)
  | range low high h =>
    refine List.forall_mem_cons.2 ⟨low.isLegal hspecial, List.forall_mem_cons.2 ⟨?_, ?_⟩⟩
    · exact (by decide : '-' ≠ '\\')
    · exact List.forall_mem_singleton.2 (high.isLegal hspecial)

/-- A character on its own is legal, unless it is a backslash. -/
lemma isLegal_mark {c : Char} (h : c ≠ '\\') : ∀ l ∈ [Letter.mark c], l.IsLegal :=
  List.forall_mem_singleton.2 h

/-- Signs of repetition are legal. -/
lemma isLegal_signs (signs : List Repetition) :
    ∀ l ∈ signs.map fun how => Letter.mark how.sign, l.IsLegal := by
  refine List.forall_mem_map.2 fun how _ => ?_
  cases how <;> simp [Repetition.sign, Letter.IsLegal]

mutual

/-- The letters of an atom are legal. -/
lemma Atom.isLegal : ∀ a : Atom, ∀ l ∈ a.letters, l.IsLegal
  | .letter s => by
    rw [Atom.letters]
    exact List.forall_mem_singleton.2 (s.isLegal (by decide))
  | .dot => by
    rw [Atom.letters]
    exact isLegal_mark (by decide)
  | .ranges negated first others => by
    have hopen : ∀ l ∈ Letter.mark '[' :: if negated then [.mark '^'] else [], l.IsLegal := by
      cases negated <;> simp [Letter.IsLegal]
    have hitems : ∀ l ∈ (first :: others).flatMap ClassItem.letters, l.IsLegal := by
      intro l hl
      obtain ⟨item, _, hl⟩ := List.mem_flatMap.1 hl
      exact item.isLegal l hl
    rw [Atom.letters, List.forall_mem_append, List.forall_mem_append]
    exact ⟨⟨hopen, hitems⟩, isLegal_mark (by decide)⟩
  | .group captures body => by
    have hopen : ∀ l ∈ Letter.mark '(' :: if captures then [] else [.mark '?', .mark ':'],
        l.IsLegal := by
      cases captures <;> simp [Letter.IsLegal]
    rw [Atom.letters, List.forall_mem_append, List.forall_mem_append]
    exact ⟨⟨hopen, Form.isLegal body⟩, isLegal_mark (by decide)⟩

/-- The letters of a sequence are legal. -/
lemma Branch.isLegal : ∀ b : Branch, ∀ l ∈ b.letters, l.IsLegal
  | .nil => by
    rw [Branch.letters]
    exact List.forall_mem_nil _
  | .cons atom signs branch => by
    rw [Branch.letters, List.forall_mem_append, List.forall_mem_append]
    exact ⟨⟨Atom.isLegal atom, isLegal_signs signs⟩, Branch.isLegal branch⟩

/-- The letters of a form are legal. -/
lemma Form.isLegal : ∀ f : Form, ∀ l ∈ f.letters, l.IsLegal
  | .one branch => by
    rw [Form.letters]
    exact Branch.isLegal branch
  | .or branch form => by
    rw [Form.letters, ← List.singleton_append, List.forall_mem_append, List.forall_mem_append]
    exact ⟨Branch.isLegal branch, isLegal_mark (by decide), Form.isLegal form⟩

end

/-! ### Whole texts -/

/-- The letters of a form between the two ends of the text. -/
def wholeLetters (f : Form) : List Letter :=
  [.mark '^'] ++ ((Atom.group false f).letters ++ [.mark '$'])

/-- The letters of a form that has to match from end to end are found again in its text. -/
lemma ofChars?_whole (f : Form) :
    Letter.ofChars? ("^(?:" ++ f.text ++ ")$").toList = some (wholeLetters f) := by
  have htext : ("^(?:" ++ f.text ++ ")$").toList = (wholeLetters f).flatMap Letter.text := by
    rw [wholeLetters, Atom.letters, String.toList_append, String.toList_append, Form.text,
      String.toList_ofList]
    simp [Letter.text]
  have hlegal : ∀ l ∈ wholeLetters f, l.IsLegal := by
    rw [wholeLetters, List.forall_mem_append, List.forall_mem_append]
    exact ⟨isLegal_mark (by decide), Atom.isLegal _, isLegal_mark (by decide)⟩
  rw [htext]
  exact Letter.ofChars?_flatMap hlegal

/-- A form is read as an expression with its language, between the two ends of the text, unless it
is nested too deep. -/
lemma wholeOfText?_eq (f : Form) : ∃ r, Ready r ∧ r.language = f.language ∧
    wholeOfText? f.text = if f.depth + 2 ≤ maxDepth then some r.whole else none := by
  obtain ⟨n, hn, htakes⟩ := exists_atom (.group false f)
  rw [Atom.language, Atom.depth] at hn
  have hstart (rest : List Letter) :
      ReaderState.Takes {} [.mark '^'] rest ⟨⟨[], [⟨.start, 0⟩]⟩, [], []⟩ :=
    .of_step? (List.cons_ne_nil _ _) rfl
  have hfinish : ReaderState.Takes ⟨⟨[], [n, ⟨.start, 0⟩]⟩, [], []⟩ [.mark '$'] []
      ⟨⟨[], [⟨.finish, 0⟩, n, ⟨.start, 0⟩]⟩, [], []⟩ :=
    .of_step? (List.cons_ne_nil _ _) rfl
  -- the form is read as a group, so its alternatives stay between the two ends
  have hread := ((hstart _).append ((htakes ⟨[], [⟨.start, 0⟩]⟩ [] _).append hfinish)).read?
  have hclose : (⟨[], [⟨.finish, 0⟩, n, ⟨.start, 0⟩]⟩ : GroupDraft).close = ⟨n.value.whole,
      f.depth + 2⟩ := by
    have hdepth : nest [0, n.depth, 0] = f.depth + 2 := by
      rw [hn.depth, ← Form.depth]
      simp [nest]
    have hgather := depth_gather [⟨Regex.start, 0⟩, n, ⟨Regex.finish, 0⟩] seqAll
    rw [← hdepth]
    exact congrArg (Nested.mk n.value.whole) hgather
  refine ⟨n.value, hn.ready, hn.language, ?_⟩
  rw [wholeOfText?, ofText?, ofChars?_whole, Option.bind_eq_bind, Option.bind_some, wholeLetters,
    hread, hclose]
  by_cases hle : f.depth + 2 ≤ maxDepth
  · simp [hle]
  · simp [hle]

end CppAdvice.Pattern.Regex
