import CppAdvice.Proofs.Pieces
import CppAdvice.Suppression.Directive

/-!
# What stands behind a comment

A block comment ends before its line does, and what stands behind it should not change what it says.
It can in two ways. A line comment is looked for first, so one that starts behind the block comment
is read in its place. And a list of names is looked for up to the next closing bracket, so a list
that is not closed within the comment goes on behind it. There is no other way
(`ofLine?_append_iff`): a block comment is read up to its last two characters as if nothing came
after them, since no word of a directive has a star in it.
-/

namespace CppAdvice

namespace Text

variable {word s rest : List Char}

/-- A search fails exactly if the word is nowhere in the text. -/
lemma afterFirst?_eq_none_iff (hword : word ≠ []) : afterFirst? word s = none ↔ ¬ word <:+: s := by
  induction s with
  | nil => simp [afterFirst?, hword]
  | cons c s ih =>
    rw [afterFirst?, List.infix_cons_iff]
    cases hstart : word.isPrefixOf? (c :: s) with
    | none => simp [ih, isPrefixOf?_eq_none_iff.1 hstart]
    | some rest => simp [← List.append_eq_of_isPrefixOf?_eq_some hstart]

/-- There is something behind a word if it occurs in the text. -/
lemma exists_afterFirst?_iff (hword : word ≠ []) :
    (∃ rest, afterFirst? word s = some rest) ↔ word <:+: s := by
  rw [← Option.ne_none_iff_exists', Ne, afterFirst?_eq_none_iff hword, not_not]

/-- What stands behind a word is an end of the text. -/
lemma suffix_of_afterFirst? (h : afterFirst? word s = some rest) :
    ∃ before, s = before ++ word ++ rest := by
  induction s with
  | nil =>
    rw [afterFirst?] at h
    split at h
    · rename_i hword
      cases h
      exact ⟨[], by rw [List.isEmpty_iff.1 hword]; rfl⟩
    · cases h
  | cons c s ih =>
    rw [afterFirst?] at h
    cases hstart : word.isPrefixOf? (c :: s) with
    | none =>
      rw [hstart] at h
      obtain ⟨before, rfl⟩ := ih h
      exact ⟨c :: before, rfl⟩
    | some rest' =>
      rw [hstart] at h
      cases h
      exact ⟨[], (List.append_eq_of_isPrefixOf?_eq_some hstart).symm⟩

/-- What is found is found whatever comes after the text. -/
lemma afterFirst?_append (hword : word ≠ []) (h : afterFirst? word s = some rest)
    (more : List Char) :
    afterFirst? word (s ++ more) = some (rest ++ more) := by
  induction s with
  | nil => simp [afterFirst?, hword] at h
  | cons c s ih =>
    rw [afterFirst?] at h
    rw [List.cons_append, afterFirst?, ← List.cons_append]
    cases hstart : word.isPrefixOf? (c :: s) with
    | none =>
      rw [hstart] at h
      have hlength : word.length ≤ (c :: s).length :=
        Nat.le_succ_of_le ((exists_afterFirst?_iff hword).1 ⟨rest, h⟩).length_le
      have hnone : word.isPrefixOf? (c :: s ++ more) = none := by
        rw [isPrefixOf?_eq_none_iff] at hstart ⊢
        exact fun hmore =>
          hstart (List.prefix_of_prefix_length_le hmore (List.prefix_append _ _) hlength)
      rw [hnone]
      exact ih h
    | some rest' =>
      rw [hstart] at h
      cases h
      have hmore : word.isPrefixOf? (c :: s ++ more) = some (rest ++ more) := by
        rw [List.isPrefixOf?_eq_some_iff_append_eq, ← List.append_assoc,
          List.append_eq_of_isPrefixOf?_eq_some hstart]
      rw [hmore]

/-- A text in which the word does not start can be passed over. -/
lemma afterFirst?_append_of_not_infix {before : List Char} (hword : word ≠ [])
    (h : ¬ word <:+: before ++ s.take (word.length - 1)) :
    afterFirst? word (before ++ s) = afterFirst? word s := by
  induction before with
  | nil => rfl
  | cons c before ih =>
    rw [List.cons_append, List.infix_cons_iff, not_or] at h
    have hnone : word.isPrefixOf? (c :: (before ++ s)) = none := by
      rw [isPrefixOf?_eq_none_iff]
      intro hstart
      apply h.1
      have hlength := List.length_pos_of_ne_nil hword
      -- A word that starts before `s` ends within what is kept of `s`.
      rcases Nat.le_total s.length (word.length - 1) with hshort | hlong
      · rwa [List.take_of_length_le hshort]
      · refine List.prefix_of_prefix_length_le hstart ?_ ?_
        · exact (List.prefix_append_right_inj (c :: before)).2 ( List.take_prefix _ _)
        · rw [List.length_cons, List.length_append, List.length_take, Nat.min_eq_left hlong]
          omega
    rw [List.cons_append, afterFirst?, hnone]
    exact ih h.2

/-- A word is not found across a character that it does not have. -/
lemma infix_append_cons_iff {before : List Char} {c : Char} (hc : c ∉ word) :
    word <:+: before ++ c :: s ↔ word <:+: before ∨ word <:+: s := by
  constructor
  · intro h
    rcases List.infix_append_iff.1 h with h | h | ⟨front, back, rfl, hfront, hback⟩
    · exact .inl h
    · rcases List.infix_cons_iff.1 h with h | h
      · cases word with
        | nil => exact .inl (List.nil_infix)
        | cons d word =>
          obtain ⟨rfl, -⟩ := List.cons_prefix_cons.1 h
          exact absurd List.mem_cons_self hc
      · exact .inr h
    · cases back with
      | nil => exact .inl (by rw [List.append_nil]; exact hfront.isInfix)
      | cons d back =>
        obtain ⟨rfl, -⟩ := List.cons_prefix_cons.1 hback
        exact absurd (List.mem_append_right _ List.mem_cons_self) hc
  · rintro (h | h)
    · exact h.trans (List.prefix_append _ _).isInfix
    · exact h.trans ⟨before ++ [c], [], by simp⟩

/-- A word at the start of a text lies before any character that it does not have. -/
lemma isPrefixOf?_append_cons {c : Char} (hc : c ∉ word) (before : List Char) :
    word.isPrefixOf? (before ++ c :: s) = (word.isPrefixOf? before).map (· ++ c :: s) := by
  induction word generalizing before with
  | nil => rfl
  | cons d word ih =>
    rw [List.mem_cons, not_or] at hc
    cases before with
    | nil => simp [List.isPrefixOf?, Ne.symm hc.1]
    | cons e before =>
      simp only [List.cons_append, List.isPrefixOf?, ih hc.2]
      split <;> rfl

/-- The text before the first occurrence of a character. -/
lemma beforeFirst?_eq_some_iff {stop : Char} {before : List Char} :
    beforeFirst? stop s = some before ↔ stop ∉ before ∧ ∃ after, s = before ++ stop :: after := by
  induction s generalizing before with
  | nil => simp [beforeFirst?]
  | cons c s ih =>
    rw [beforeFirst?]
    split
    · rename_i hc
      subst hc
      constructor
      · intro h
        cases h
        exact ⟨List.not_mem_nil, s, rfl⟩
      · rintro ⟨hstop, after, h⟩
        cases before with
        | nil => rfl
        | cons d before =>
          obtain ⟨rfl, -⟩ := List.cons.inj h
          exact absurd List.mem_cons_self hstop
    · rename_i hc
      rw [Option.map_eq_some_iff]
      constructor
      · rintro ⟨before, h, rfl⟩
        obtain ⟨hstop, after, rfl⟩ := ih.1 h
        exact ⟨by simp [Ne.symm hc, hstop], after, rfl⟩
      · rintro ⟨hstop, after, h⟩
        cases before with
        | nil => exact absurd (List.cons.inj h).1 hc
        | cons d before =>
          obtain ⟨rfl, rfl⟩ := List.cons.inj h
          exact ⟨before, ih.2 ⟨fun hmem => hstop (List.mem_cons_of_mem _ hmem), after, rfl⟩, rfl⟩

/-- There is nothing before a character that does not occur. -/
lemma beforeFirst?_eq_none_iff {stop : Char} : beforeFirst? stop s = none ↔ stop ∉ s := by
  induction s with
  | nil => simp [beforeFirst?]
  | cons c s ih =>
    rw [beforeFirst?]
    split
    · rename_i hc
      simp [hc]
    · rename_i hc
      rw [Option.map_eq_none_iff, ih, List.mem_cons, not_or]
      exact ⟨fun h => ⟨Ne.symm hc, h⟩, fun h => h.2⟩

end Text

namespace Suppression.Directive

open Text

/-- The form that a comment spells, and what stands after it. -/
def parts? (text : List Char) : Option (Form × List Char) :=
  (afterFirst? "NOLINT".toList text).map formAt

/-- The directive in the text of a comment. -/
def ofComment? (text : List Char) : Option Directive :=
  (parts? text).bind fun part =>
    if part.2.head?.any continuesWord then none else some ⟨part.1, filterAt part.2⟩

/-- The directive of a line is that of its comment. -/
lemma ofLine?_eq (line : List Char) : ofLine? line = (comment? line).bind ofComment? := by
  simp only [ofLine?, Option.bind_eq_bind]
  congr 1
  funext text
  rw [ofComment?, parts?, Option.bind_map]
  rfl

/-- The form is spelled before a star. -/
lemma formAt_append (text more : List Char) :
    formAt (text ++ '*' :: more) = ((formAt text).1, (formAt text).2 ++ '*' :: more) := by
  rw [formAt, isPrefixOf?_append_cons (by decide), isPrefixOf?_append_cons (by decide),
    isPrefixOf?_append_cons (by decide), formAt]
  cases "NEXTLINE".toList.isPrefixOf? text with
  | some rest => rfl
  | none =>
    cases "BEGIN".toList.isPrefixOf? text with
    | some rest => rfl
    | none =>
      cases "END".toList.isPrefixOf? text with
      | some rest => rfl
      | none => rfl

/-- A comment spells the same form whatever comes after a star. -/
lemma parts?_append {text : List Char} {form : Form} {rest : List Char}
    (h : parts? text = some (form, rest)) (more : List Char) :
    parts? (text ++ '*' :: more) = some (form, rest ++ '*' :: more) := by
  obtain ⟨after, hafter, hform⟩ := Option.map_eq_some_iff.1 h
  rw [parts?, afterFirst?_append (by decide) hafter, Option.map_some, formAt_append, hform]

/-- The keyword of a directive in a block comment stands before the end of the comment. -/
lemma exists_parts? {text : List Char} {d : Directive}
    (h : ofComment? (text ++ ['*', '/']) = some d) :
    ∃ rest, parts? text = some (d.form, rest) ∧
      (rest ++ ['*', '/']).head?.any continuesWord = false ∧
      d.filter = filterAt (rest ++ ['*', '/']) := by
  have hkeyword : "NOLINT".toList <:+: text := by
    obtain ⟨part, hpart, -⟩ := Option.bind_eq_some_iff.1 h
    obtain ⟨after, hafter, -⟩ := Option.map_eq_some_iff.1 hpart
    have hinfix := (exists_afterFirst?_iff (by decide)).1 ⟨after, hafter⟩
    -- The keyword has no star, so it is not found across the end of the comment, and it is too long
    -- to be behind it.
    rcases (infix_append_cons_iff (by decide)).1 hinfix with hinfix | hinfix
    · exact hinfix
    · exact absurd hinfix.length_le (by decide)
  obtain ⟨after, hafter⟩ := (exists_afterFirst?_iff (by decide)).2 hkeyword
  obtain ⟨⟨form, rest⟩, hparts⟩ : ∃ part, parts? text = some part :=
    ⟨formAt after, by rw [parts?, hafter, Option.map_some]⟩
  have hstar : parts? (text ++ ['*', '/']) = some (form, rest ++ ['*', '/']) :=
    parts?_append hparts ['/']
  rw [ofComment?, hstar, Option.bind_some] at h
  split at h
  · cases h
  · rename_i hword
    cases h
    exact ⟨rest, hparts, by simpa using hword, rfl⟩

/-- The list of names that a text begins and does not end. -/
def leftOpen? : List Char → Option (List Char)
  | '(' :: list => if ')' ∈ list then none else some list
  | _ => none

/-- A list that was left open goes on up to the first closing bracket. -/
lemma filterAt_append_of_leftOpen? {text list : List Char} (h : leftOpen? text = some list)
    (more : List Char) :
    filterAt (text ++ more) = (beforeFirst? ')' more).elim .all fun names =>
      .ofList (list ++ names) := by
  rw [leftOpen?.eq_def] at h
  split at h
  · rename_i rest
    split at h
    · cases h
    · rename_i hopen
      cases h
      rw [List.cons_append, filterAt]
      cases hmore : beforeFirst? ')' more with
      | none =>
        have hnone : beforeFirst? ')' (list ++ more) = none := by
          rw [beforeFirst?_eq_none_iff] at hmore ⊢
          simp [hopen, hmore]
        rw [hnone]
        rfl
      | some names =>
        obtain ⟨hnames, after, rfl⟩ := beforeFirst?_eq_some_iff.1 hmore
        have hsome : beforeFirst? ')' (list ++ (names ++ ')' :: after)) = some (list ++ names) :=
          beforeFirst?_eq_some_iff.2
            ⟨by simp [hopen, hnames], after, (List.append_assoc _ _ _).symm⟩
        rw [hsome]
        rfl
  · cases h

/-- Any other text has said all about its filter. -/
lemma filterAt_append_of_leftOpen?_eq_none {text : List Char} (htext : text ≠ [])
    (h : leftOpen? text = none) (more : List Char) : filterAt (text ++ more) = filterAt text := by
  rw [leftOpen?.eq_def] at h
  split at h
  · rename_i list
    split at h
    · rename_i hclosed
      obtain ⟨names, hnames⟩ : ∃ names, beforeFirst? ')' list = some names := by
        rw [← Option.ne_none_iff_exists', Ne, beforeFirst?_eq_none_iff, not_not]
        exact hclosed
      obtain ⟨hstop, after, rfl⟩ := beforeFirst?_eq_some_iff.1 hnames
      have hmore : beforeFirst? ')' (names ++ ')' :: after ++ more) = some names :=
        beforeFirst?_eq_some_iff.2 ⟨hstop, after ++ more, by simp⟩
      rw [List.cons_append, filterAt, filterAt, hmore, hnames]
    · cases h
  · rename_i hother
    cases text with
    | nil => exact absurd rfl htext
    | cons c text =>
      have hc : c ≠ '(' := by
        rintro rfl
        exact hother text rfl
      simp [filterAt, hc]

/-- More text changes nothing about a list unless it closes one that was left open. -/
lemma filterAt_append_eq_iff {text : List Char} (htext : text ≠ []) (more : List Char) :
    filterAt (text ++ more) = filterAt text ↔
      ∀ list, leftOpen? text = some list → ∀ names after, more = names ++ ')' :: after →
        ')' ∉ names →
        Filter.ofList (list ++ names) = .all := by
  cases hopen : leftOpen? text with
  | none => simp [filterAt_append_of_leftOpen?_eq_none htext hopen]
  | some list =>
    -- A list that is never closed stands for all checks.
    have hall : filterAt text = .all := by
      simpa [beforeFirst?] using filterAt_append_of_leftOpen? hopen []
    rw [filterAt_append_of_leftOpen? hopen, hall]
    constructor
    · rintro h _ ⟨⟩ names after rfl hnames
      rwa [beforeFirst?_eq_some_iff.2 ⟨hnames, after, rfl⟩] at h
    · intro h
      cases hmore : beforeFirst? ')' more with
      | none => rfl
      | some names =>
        obtain ⟨hnames, after, rfl⟩ := beforeFirst?_eq_some_iff.1 hmore
        exact h list rfl names after rfl hnames

/-- The list of names that the directive on a line begins and does not end. -/
def openList? (line : List Char) : Option (List Char) :=
  (comment? line).bind fun text => (parts? text).bind fun part => leftOpen? part.2

/-- A line comment starts in what stands behind a line that ends with a block comment, and none
before. -/
structure StartsBehind (line s : List Char) : Prop where
  not_before : ¬ ['/', '/'] <:+: line
  behind : ['/', '/'] <:+: '/' :: s

/-- The directive in a block comment, with more text behind the comment. -/
lemma ofComment?_append {text rest : List Char} {form : Form} (h : parts? text = some (form, rest))
    (hword : (rest ++ ['*', '/']).head?.any continuesWord = false) (s : List Char) :
    ofComment? (text ++ ['*', '/'] ++ s) = some ⟨form, filterAt (rest ++ ['*', '/'] ++ s)⟩ := by
  have hparts : parts? (text ++ ['*', '/'] ++ s) = some (form, rest ++ ['*', '/'] ++ s) := by
    rw [List.append_assoc, List.append_assoc]
    exact parts?_append h ('/' :: s)
  have hhead : (rest ++ ['*', '/'] ++ s).head? = (rest ++ ['*', '/']).head? :=
    List.head?_append_of_ne_nil _ (by simp)
  rw [ofComment?, hparts, Option.bind_some, hhead, hword, if_neg Bool.false_ne_true]

/-- A line comment within a line that ends with a block comment goes on to the end of the line. -/
lemma exists_afterFirst?_line {front text : List Char}
    (h : afterFirst? ['/', '/'] (front ++ ['*', '/']) = some text) :
    ∃ inner, text = inner ++ ['*', '/'] := by
  obtain ⟨before, hline⟩ := suffix_of_afterFirst? h
  have hends : ∀ {x y : List Char} {a b a' b' : Char}, x ++ [a, b] = y ++ [a', b'] → a = a' := by
    intro x y a b a' b' heq
    exact (List.cons.inj (List.append_inj_right' heq rfl)).1
  rcases List.suffix_or_suffix_of_suffix (List.suffix_append front ['*', '/'])
    (hline ▸ List.suffix_append (before ++ ['/', '/']) text) with ⟨inner, hinner⟩ | hshort
  · exact ⟨inner, hinner.symm⟩
  · -- What is left would be a part of the end, and the end has no two slashes before it.
    rcases List.suffix_cons_iff.1 hshort with rfl | hshort
    · exact ⟨[], rfl⟩
    · rcases List.suffix_cons_iff.1 hshort with rfl | hshort
      · rw [show before ++ ['/', '/'] ++ ['/'] = (before ++ ['/']) ++ ['/', '/'] by simp] at hline
        exact absurd (hends hline) (by decide)
      · rw [List.suffix_nil.1 hshort, List.append_nil] at hline
        exact absurd (hends hline) (by decide)

/-- Behind a line without a line comment, one can start with the last slash of the line. -/
lemma afterFirst?_behind {front : List Char} (h : ¬ ['/', '/'] <:+: front ++ ['*', '/'])
    (s : List Char) :
    afterFirst? ['/', '/'] (front ++ ['*', '/'] ++ s) = afterFirst? ['/', '/'] ('/' :: s) := by
  have hsplit : front ++ ['*', '/'] ++ s = (front ++ ['*']) ++ '/' :: s := by simp
  rw [hsplit]
  apply afterFirst?_append_of_not_infix (by decide)
  rwa [show (front ++ ['*']) ++ ('/' :: s).take (['/', '/'].length - 1) =
    front ++ ['*', '/'] by simp]

section

variable {p : List Char} (hp : ¬ ['/', '*'] <:+: p) (c : List Char)

include hp

/-- The first block comment starts where nothing looks like one before. -/
lemma afterFirst?_block : afterFirst? ['/', '*'] (p ++ ['/', '*'] ++ c) = some c := by
  have hbefore : ¬ ['/', '*'] <:+: p ++ (['/', '*'] ++ c).take (['/', '*'].length - 1) := by
    show ¬ ['/', '*'] <:+: p ++ ['/']
    rw [List.infix_concat_iff, not_or]
    refine ⟨?_, hp⟩
    rintro ⟨front, h⟩
    rw [show front ++ ['/', '*'] = (front ++ ['/']) ++ ['*'] by simp] at h
    exact absurd (List.cons.inj (List.append_inj_right' h rfl)).1 (by decide)
  rw [List.append_assoc, afterFirst?_append_of_not_infix (by decide) hbefore]
  rfl

/-- A line that ends with a block comment is read as if nothing came after it, unless a line comment
does. -/
lemma exists_comment? :
    ∃ text, comment? (p ++ ['/', '*'] ++ c ++ ['*', '/']) = some (text ++ ['*', '/']) ∧
    ∀ s, ¬ StartsBehind (p ++ ['/', '*'] ++ c ++ ['*', '/']) s →
      comment? (p ++ ['/', '*'] ++ c ++ ['*', '/'] ++ s) = some (text ++ ['*', '/'] ++ s) := by
  by_cases hline : ['/', '/'] <:+: p ++ ['/', '*'] ++ c ++ ['*', '/']
  · -- The line comment goes on over the end of the block comment, and over what is behind it.
    obtain ⟨text, htext⟩ := (exists_afterFirst?_iff (by decide)).2 hline
    obtain ⟨inner, rfl⟩ := exists_afterFirst?_line htext
    refine ⟨inner, by rw [comment?, htext, Option.some_or], ?_⟩
    intro s _
    rw [comment?, afterFirst?_append (by decide) htext, Option.some_or]
  · refine ⟨c, ?_, ?_⟩
    · rw [comment?, (afterFirst?_eq_none_iff (by decide)).2 hline, Option.none_or,
        List.append_assoc, afterFirst?_block hp]
    · intro s hs
      have hnone : afterFirst? ['/', '/'] ('/' :: s) = none :=
        (afterFirst?_eq_none_iff (by decide)).2 fun h => hs ⟨hline, h⟩
      rw [comment?, afterFirst?_behind hline, hnone, Option.none_or,
        List.append_assoc (p ++ ['/', '*']), List.append_assoc (p ++ ['/', '*']),
        List.append_assoc c, ← List.append_assoc c, afterFirst?_block hp]

end

/-- A line comment that starts behind a block comment is read in its place. -/
lemma comment?_of_startsBehind {front s : List Char} (h : StartsBehind (front ++ ['*', '/']) s) :
    comment? (front ++ ['*', '/'] ++ s) = comment? ('/' :: s) := by
  obtain ⟨text, htext⟩ := (exists_afterFirst?_iff (by decide)).2 h.behind
  rw [comment?, afterFirst?_behind h.not_before, comment?, htext, Option.some_or, Option.some_or]

/-- What stands behind a block comment changes its directive exactly in two cases. If a line comment
starts there, the directive is that of the line comment. Otherwise, if the block comment leaves a
list of names open and a closing bracket comes later, the list goes on up to the bracket, and this
only makes no difference if one of its names is a star. -/
theorem ofLine?_append_iff (p c s : List Char) (d : Directive) (hp : ¬ ['/', '*'] <:+: p)
    (h : ofLine? (p ++ ['/', '*'] ++ c ++ ['*', '/']) = some d) :
    let line := p ++ ['/', '*'] ++ c ++ ['*', '/']
    (StartsBehind line s → (ofLine? (line ++ s) = some d ↔ ofLine? ('/' :: s) = some d)) ∧
      (¬ StartsBehind line s → (ofLine? (line ++ s) = some d ↔
        ∀ list, openList? line = some list → ∀ names after, s = names ++ ')' :: after →
          ')' ∉ names →
          Filter.ofList (list ++ names) = .all)) ∧
      (¬ ['/', '/'] <:+: '/' :: s → ')' ∉ s → ofLine? (line ++ s) = some d) := by
  intro line
  obtain ⟨text, hcomment, hmore⟩ := exists_comment? hp c
  rw [ofLine?_eq, hcomment, Option.bind_some] at h
  obtain ⟨rest, hparts, hword, hfilter⟩ := exists_parts? h
  have hopen : openList? line = leftOpen? (rest ++ ['*', '/']) := by
    rw [openList?, hcomment, Option.bind_some,
      show text ++ ['*', '/'] = text ++ '*' :: ['/'] from rfl, parts?_append hparts,
      Option.bind_some]
  have hnot : ¬ StartsBehind line s → (ofLine? (line ++ s) = some d ↔
      ∀ list, openList? line = some list → ∀ names after, s = names ++ ')' :: after → ')' ∉ names →
        Filter.ofList (list ++ names) = .all) := by
    intro hs
    have hd : some ⟨d.form, filterAt (rest ++ ['*', '/'] ++ s)⟩ = some d ↔
        filterAt (rest ++ ['*', '/'] ++ s) = filterAt (rest ++ ['*', '/']) := by
      rw [← hfilter, Option.some.injEq]
      exact ⟨fun heq => congrArg Directive.filter heq, fun heq => by rw [heq]⟩
    rw [ofLine?_eq, hmore s hs, Option.bind_some, ofComment?_append hparts hword, hopen, hd,
      filterAt_append_eq_iff (by simp)]
  refine ⟨?_, hnot, ?_⟩
  · intro hs
    rw [ofLine?_eq, comment?_of_startsBehind hs, ← ofLine?_eq]
  · intro hbehind hclosing
    rw [hnot fun hs => hbehind hs.behind]
    rintro list - names after rfl
    exact absurd (List.mem_append_right _ List.mem_cons_self) hclosing

/-- Calls with brackets and another block comment behind a block comment do not matter. -/
theorem ofLine?_append_iff_brackets :
    let p := "f(); ".toList
    let c := " NOLINT(avoid-std-endl, hl-perf-*) ".toList
    let s := " g(h()); /* NOLINTNEXTLINE */".toList
    let line := p ++ ['/', '*'] ++ c ++ ['*', '/']
    let d : Directive := ⟨.line, .names ["avoid-std-endl", "hl-perf-*"]⟩
    ¬ ['/', '*'] <:+: p ∧ ofLine? line = some d ∧ ¬ StartsBehind line s ∧
      ofLine? (line ++ s) = some d := by
  intro p c s line d
  have hp : ¬ ['/', '*'] <:+: p := by decide
  have hline : ofLine? line = some d := by decide
  have hs : ¬ StartsBehind line s := fun h => absurd h.behind (by decide)
  have hopen : openList? line = none := by decide
  refine ⟨hp, hline, hs, ((ofLine?_append_iff p c s d hp hline).2.1 hs).2 ?_⟩
  intro list hlist
  rw [hopen] at hlist
  cases hlist

/-- A line comment makes the block comment before it void, and a call behind a list that is left
open adds to the list. -/
theorem ofLine?_not_append :
    let block := fun c => ['/', '*'] ++ c ++ ['*', '/']
    let c := " NOLINT ".toList
    let unclosed := " NOLINT( ".toList
    (¬ ['*', '/'] <:+: c ∧ ofLine? (block c) = some ⟨.line, .all⟩ ∧
        ofLine? (block c ++ " // why".toList) = none) ∧
      ¬ ['*', '/'] <:+: unclosed ∧ ofLine? (block unclosed) = some ⟨.line, .all⟩ ∧
        ofLine? (block unclosed ++ " f();".toList) = some ⟨.line, .names ["*/ f("]⟩ := by
  decide

end Suppression.Directive

end CppAdvice
