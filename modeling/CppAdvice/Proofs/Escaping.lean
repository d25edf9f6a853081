import CppAdvice.Proofs.Names
import CppAdvice.Proofs.Pieces
import CppAdvice.Report

/-!
# Commands on one line

A command for a code review is one line, though the texts in it may have several. A text is made
safe by three replacements, one after another. Together they replace each character once
(`toList_escape`), since what one of them brings in is nothing that a later one looks for. So no
line breaks are left (`isOneLine_escape`), and reading the text from left to right gives back what
was written (`unescape_escape`). In a report for code reviews each finding has its line, and the
lines are in the order of the findings (`report_github_lines`).
-/

namespace CppAdvice

namespace Text

/-- A text without line breaks. -/
def IsOneLine (s : List Char) : Prop :=
  '\n' ∉ s ∧ '\r' ∉ s

/-- Whether a text is one line can be decided. -/
instance (s : List Char) : Decidable (IsOneLine s) :=
  inferInstanceAs (Decidable (_ ∧ _))

@[simp] lemma isOneLine_append {s t : List Char} :
    IsOneLine (s ++ t) ↔ IsOneLine s ∧ IsOneLine t := by
  simp only [IsOneLine, List.mem_append, not_or]
  tauto

/-- Digits are on one line. -/
lemma isOneLine_of_isDigit {s : List Char} (h : ∀ c ∈ s, c.isDigit = true) : IsOneLine s := by
  constructor
  · exact fun hmem => absurd (h _ hmem) (by decide)
  · exact fun hmem => absurd (h _ hmem) (by decide)

/-- A replacement goes through a text piece by piece. -/
lemma replaceChar_flatMap (c : Char) (word : List Char) (f : Char → List Char) (s : List Char) :
    replaceChar c word (s.flatMap f) = s.flatMap fun d => replaceChar c word (f d) :=
  List.flatMap_assoc

end Text

namespace Report

open CppAdvice.Text

/-- How a character is written inside a command. -/
def escapeChar (c : Char) : List Char :=
  if c = '%' then ['%', '2', '5']
  else if c = '\r' then ['%', '0', 'D']
  else if c = '\n' then ['%', '0', 'A']
  else [c]

/-- What was written inside a command, read from left to right. -/
def unescape : List Char → List Char
  | '%' :: '0' :: 'A' :: s => '\n' :: unescape s
  | '%' :: '0' :: 'D' :: s => '\r' :: unescape s
  | '%' :: '2' :: '5' :: s => '%' :: unescape s
  | c :: s => c :: unescape s
  | [] => []

/-- The three replacements write each character by itself. -/
lemma toList_escape (s : String) : (escape s).toList = s.toList.flatMap escapeChar := by
  rw [escape, String.toList_ofList]
  simp only [replaceChar.eq_1 '%', replaceChar_flatMap]
  congr 1
  funext c
  by_cases hpercent : c = '%'
  · subst hpercent
    rfl
  by_cases hreturn : c = '\r'
  · subst hreturn
    rfl
  by_cases hnewline : c = '\n'
  · subst hnewline
    rfl
  · simp [replaceChar, escapeChar, hpercent, hreturn, hnewline]

/-- An escaped character is on one line. -/
lemma isOneLine_escapeChar (c : Char) : IsOneLine (escapeChar c) := by
  unfold escapeChar
  split_ifs with hpercent hreturn hnewline
  · decide
  · decide
  · decide
  · exact ⟨fun h => hnewline (List.mem_singleton.1 h).symm,
      fun h => hreturn (List.mem_singleton.1 h).symm⟩

/-- A text inside a command has no line breaks. -/
lemma isOneLine_escape (s : String) : IsOneLine (escape s).toList := by
  rw [toList_escape]
  constructor
  · intro h
    obtain ⟨c, _, hc⟩ := List.mem_flatMap.1 h
    exact (isOneLine_escapeChar c).1 hc
  · intro h
    obtain ⟨c, _, hc⟩ := List.mem_flatMap.1 h
    exact (isOneLine_escapeChar c).2 hc

/-- A character other than the escape stands for itself. -/
lemma unescape_cons {c : Char} (hc : c ≠ '%') (s : List Char) :
    unescape (c :: s) = c :: unescape s := by
  rw [unescape]
  all_goals
    rintro _ rfl
    contradiction

/-- A character is read as it was meant, whatever follows. -/
lemma unescape_escapeChar (c : Char) (s : List Char) :
    unescape (escapeChar c ++ s) = c :: unescape s := by
  unfold escapeChar
  split_ifs with hpercent hreturn hnewline
  · rw [hpercent]
    rfl
  · rw [hreturn]
    rfl
  · rw [hnewline]
    rfl
  · exact unescape_cons hpercent s

/-- Reading gives back what was written. -/
lemma unescape_escape (s : String) : unescape (escape s).toList = s.toList := by
  rw [toList_escape]
  induction s.toList with
  | nil => rfl
  | cons c s ih => rw [List.flatMap_cons, unescape_escapeChar, ih]

/-- No two texts are escaped to the same one. -/
lemma escape_injective : Function.Injective escape := by
  intro s t h
  apply String.toList_inj.1
  rw [← unescape_escape s, h, unescape_escape]

/-- The ids of all checks are without line breaks. -/
lemma isOneLine_id {d : Descriptor} (h : d ∈ catalog.descriptors) : IsOneLine d.id.toList :=
  (texts_catalog.2.1 d h).1.2

/-- A number is on one line. -/
lemma isOneLine_toString (n : Nat) : IsOneLine (toString n).toList := by
  apply isOneLine_of_isDigit
  intro c hc
  rw [Nat.toString_eq_ofList_toDigits, String.toList_ofList] at hc
  exact Nat.isDigit_of_mem_toDigits (by decide) (by decide) hc

/-- The command for a finding of one of the checks is one line. -/
lemma isOneLine_command {f : Finding} (h : ∃ d ∈ catalog.descriptors, f.check.id = d.id) :
    IsOneLine (command f).toList := by
  obtain ⟨d, hd, hid⟩ := h
  have hlevel : IsOneLine f.level.label.toList := by cases f.level <;> decide
  have hcheck : IsOneLine f.check.id.toList := by
    rw [hid]
    exact isOneLine_id hd
  unfold command
  simp only [String.toList_append, isOneLine_append, and_assoc]
  exact ⟨by decide, hlevel, by decide, isOneLine_escape f.file, by decide,
    isOneLine_toString f.start.row, by decide, isOneLine_toString f.start.column, by decide, hcheck,
    by decide, isOneLine_escape (body f)⟩

/-- The characters of lines, with a line break behind each. -/
lemma toList_unlines (lines : List String) :
    (unlines lines).toList = lines.flatMap fun line => line.toList ++ ['\n'] := by
  rw [unlines, String.toList_join, List.flatMap_map]
  simp only [String.toList_append]
  rfl

/-- Lines without line breaks in them are found again. -/
lemma splitOn_unlines {lines : List String} (h : ∀ line ∈ lines, '\n' ∉ line.toList) :
    (unlines lines).toList.splitOn '\n' = lines.map String.toList ++ [[]] := by
  rw [toList_unlines]
  induction lines with
  | nil => rfl
  | cons line lines ih =>
    rw [List.forall_mem_cons] at h
    rw [List.flatMap_cons, List.append_assoc, List.singleton_append, List.splitOn_append_cons_self,
      List.splitOn_eq_singleton h.1, ih h.2]
    rfl

/-- In a report for code reviews every finding has its line, in the order of the findings, and no
line has a carriage return. What a command says is read back as it was, since this is so for every
text. -/
theorem report_github_lines {sections : List Section}
    (h : ∀ f ∈ sections.flatMap (·.findings), ∃ d ∈ catalog.descriptors, f.check.id = d.id) :
    (Format.github.report sections).toList.splitOn '\n' =
      (sections.flatMap (·.findings)).map (fun f => (command f).toList) ++ [[]] ∧
    '\r' ∉ (Format.github.report sections).toList ∧
    (∀ f : Finding, ∃ lead text,
      (command f).toList = lead ++ "::".toList ++ text ∧ unescape text = (body f).toList) ∧
    (∀ s : String, unescape (escape s).toList = s.toList) ∧
    Function.Injective escape := by
  have hreport :
      Format.github.report sections = unlines ((sections.flatMap (·.findings)).map command) := rfl
  rw [hreport]
  refine ⟨?_, ?_, ?_, unescape_escape, escape_injective⟩
  · rw [splitOn_unlines, List.map_map]
    · rfl
    · intro line hline
      obtain ⟨f, hf, rfl⟩ := List.mem_map.1 hline
      exact (isOneLine_command (h f hf)).1
  · rw [toList_unlines, List.flatMap_map]
    intro hmem
    obtain ⟨f, hf, hmem⟩ := List.mem_flatMap.1 hmem
    rcases List.mem_append.1 hmem with hmem | hmem
    · exact (isOneLine_command (h f hf)).2 hmem
    · cases List.mem_singleton.1 hmem
  · intro f
    unfold command
    rw [String.toList_append, String.toList_append]
    exact ⟨_, _, rfl, unescape_escape (body f)⟩

/-- A finding whose texts have line breaks, and what they are written as. -/
def brokenFinding : Finding where
  check := Checks.avoidStdEndl.descriptor
  level := .warn
  file := "a\r.cpp"
  range := ⟨0, 4⟩
  start := ⟨1, 1⟩
  stop := ⟨1, 5⟩
  message := "100%\r\n%0A"
  notes := [⟨"more", none⟩]
  fixit := none

/-- A finding with line breaks in its file, message and notes, twice. -/
theorem report_github_lines_broken :
    (Format.github.report [⟨"a\r.cpp", [brokenFinding, brokenFinding]⟩]).toList.splitOn '\n' =
      List.replicate 2
        ("::warning file=a%0D.cpp,line=1,col=1,title=baseline-performance.avoid-std-endl::" ++
        "100%25%0D%0A%250A%0Amore").toList ++ [[]] ∧
    '\r' ∉ (Format.github.report [⟨"a\r.cpp", [brokenFinding, brokenFinding]⟩]).toList := by
  have h : ∀ f ∈ [(⟨"a\r.cpp", [brokenFinding, brokenFinding]⟩ : Section)].flatMap (·.findings),
      ∃ d ∈ catalog.descriptors, f.check.id = d.id := by
    intro f hf
    obtain rfl : f = brokenFinding := by simpa using hf
    exact ⟨Checks.avoidStdEndl.descriptor, by decide, rfl⟩
  have hcommand : command brokenFinding =
      "::warning file=a%0D.cpp,line=1,col=1,title=baseline-performance.avoid-std-endl::" ++
        "100%25%0D%0A%250A%0Amore" := by
    rfl
  obtain ⟨hlines, hreturn, -⟩ := report_github_lines h
  rw [hlines, ← hcommand]
  exact ⟨rfl, hreturn⟩

end Report

end CppAdvice
