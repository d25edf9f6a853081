import CppAdvice.Language.Flags
import CppAdvice.Proofs.Pieces

/-!
# Names of language standards

Which names are taken for a language standard. A name may have blanks around it and `-std=` in front
of it, and its letters may be of either case (`Written`). An edition of C++ has a name of its own
(`NamesEdition`), and the name of a C standard is `c` or `gnu`, with a number behind it or nothing
(`NamesC`). All of these are read as they are meant. But whatever starts like the name of a C
standard is taken for one, so that `cpp20` switches all checks off in place of being refused, and
names of this kind are the only ones that are not read as they are meant (`ofStandard_reads_iff`).
-/

namespace CppAdvice

namespace Language

/-- Every edition implies those before it, and C++. -/
structure Flags.Closed (flags : Flags) : Prop where
  cpp26 : flags.cplusplus26 = true → flags.cplusplus23 = true
  cpp23 : flags.cplusplus23 = true → flags.cplusplus20 = true
  cpp20 : flags.cplusplus20 = true → flags.cplusplus17 = true
  cpp17 : flags.cplusplus17 = true → flags.cplusplus = true

/-- The flags of a tier include those of all tiers below it. -/
lemma Flags.closed_ofTier (tier : Tier) : (ofTier tier).Closed := by
  cases tier <;> constructor <;> decide

/-- The flags of a tier tell that tier. -/
lemma Flags.tier_ofTier (tier : Tier) : (ofTier tier).tier = tier := by
  cases tier <;> decide

namespace Standard

/-- The option that the name of a standard is given with. -/
def option : List Char := "-std=".toList

/-- The editions of C++ by their names. -/
def editions : List (String × Tier) :=
  [("98", .unknown), ("03", .unknown), ("11", .unknown), ("14", .unknown), ("0x", .unknown),
    ("1y", .unknown), ("17", .cpp17), ("1z", .cpp17), ("20", .cpp20), ("2a", .cpp20),
    ("23", .cpp23), ("2b", .cpp23), ("26", .cpp26), ("2c", .cpp26)]

/-- The name in lower case that is meant by a written one. -/
def Written (raw name : List Char) : Prop :=
  ∃ core n text, Text.Trims raw core ∧ core = (List.replicate n option).flatten ++ text ∧
    ¬ option <+: text ∧
    name = text.map Char.toLower

/-- The name of an edition of C++. -/
def NamesEdition (name : List Char) (tier : Tier) : Prop :=
  ∃ lead edition, (lead = "c++" ∨ lead = "gnu++") ∧ (edition, tier) ∈ editions ∧
    name = lead.toList ++ edition.toList

/-- The name of a C standard. -/
def NamesC (name : List Char) : Prop :=
  ∃ lead rest, (lead = "c" ∨ lead = "gnu") ∧ name = lead.toList ++ rest ∧
    ∀ c ∈ rest.head?, c.isDigit = true

/-- A name that starts like that of a C standard, and not like that of an edition of C++. -/
structure StartsLikeC (name : List Char) : Prop where
  lead : "c".toList <+: name ∨ "gnu".toList <+: name
  not_cpp : ¬ "c++".toList <+: name
  not_gnu : ¬ "gnu++".toList <+: name

/-- What should become of a name: the flags of the edition that it names, none for a C standard, and
a complaint that repeats it otherwise. -/
structure Reads (raw : String) (name : List Char) (answer : Except UnknownStandard Flags) :
    Prop where
  edition : ∀ tier, NamesEdition name tier →
    ∃ flags, answer = .ok flags ∧ flags.Closed ∧ flags.cplusplus = true ∧ flags.tier = tier
  c : NamesC name → answer = .ok {}
  other : (∀ tier, ¬ NamesEdition name tier) → ¬ NamesC name → answer = .error ⟨raw⟩

/-- There is nothing to take off a text that does not start with the option. -/
lemma dropOption_of_not_starts {text : List Char} (h : ¬ option <+: text) :
    dropOption text = text := by
  rw [dropOption.eq_def]
  split
  · rename_i rest
    exact absurd ⟨rest, rfl⟩ h
  · rfl

/-- An option in front is taken off. -/
lemma dropOption_append (s : List Char) : dropOption (option ++ s) = dropOption s := rfl

/-- Any number of options in front is taken off. -/
lemma dropOption_flatten (n : Nat) (s : List Char) :
    dropOption ((List.replicate n option).flatten ++ s) = dropOption s := by
  induction n with
  | zero => rfl
  | succ n ih =>
    rw [List.replicate_succ, List.flatten_cons, List.append_assoc, dropOption_append, ih]

/-- What is dropped is the option, as often as it stands in front. -/
lemma exists_dropOption (s : List Char) :
    ∃ n, s = (List.replicate n option).flatten ++ dropOption s ∧ ¬ option <+: dropOption s := by
  fun_induction dropOption s with
  | case1 s ih =>
    obtain ⟨n, hs, hnone⟩ := ih
    refine ⟨n + 1, ?_, hnone⟩
    rw [List.replicate_succ, List.flatten_cons, List.append_assoc, ← hs]
    rfl
  | case2 s hs =>
    refine ⟨0, rfl, ?_⟩
    rintro ⟨rest, rfl⟩
    exact hs rest rfl

/-- The name that is meant is what is left without blanks and options, in lower case. -/
lemma written_iff {raw name : List Char} :
    Written raw name ↔ name = (dropOption (Text.trim raw)).map Char.toLower := by
  constructor
  · rintro ⟨core, n, text, hcore, rfl, htext, rfl⟩
    rw [Text.trims_iff.1 hcore, dropOption_flatten, dropOption_of_not_starts htext]
  · rintro rfl
    obtain ⟨n, hs, hnone⟩ := exists_dropOption (Text.trim raw)
    exact ⟨Text.trim raw, n, _, Text.trims_trim raw, hs, hnone, rfl⟩

/-- The editions that select flags are those of the table. -/
lemma editionTier?_eq_some_iff {edition : String} {tier : Tier} :
    editionTier? edition = some tier ↔ (edition, tier) ∈ editions := by
  have hgroup : ∀ {names : List String} {t : Tier}, (∀ e ∈ names, (e, t) ∈ editions) →
      edition ∈ names →
      some t = some tier → (edition, tier) ∈ editions := by
    intro names t htable hname ht
    cases ht
    exact htable edition hname
  constructor
  · intro h
    rw [editionTier?] at h
    split_ifs at h with h98 h17 h20 h23 h26
    · exact hgroup (by decide) h98 h
    · exact hgroup (by decide) h17 h
    · exact hgroup (by decide) h20 h
    · exact hgroup (by decide) h23 h
    · exact hgroup (by decide) h26 h
  · intro h
    have htable : ∀ entry ∈ editions, editionTier? entry.1 = some entry.2 := by decide
    exact htable _ h

variable {name : List Char} {tier : Tier}

/-- A name that starts like that of an edition of C++ stands or falls with the edition. -/
lemma flagsOf?_append {lead : String} (h : lead = "c++" ∨ lead = "gnu++") (edition : List Char) :
    flagsOf? (lead.toList ++ edition) =
      (editionTier? (String.ofList edition)).map Flags.ofTier := by
  rcases h with rfl | rfl
  · rfl
  · rfl

/-- The name of an edition gives the flags of its tier. -/
lemma flagsOf?_of_namesEdition (h : NamesEdition name tier) :
    flagsOf? name = some (.ofTier tier) := by
  obtain ⟨lead, edition, hlead, hedition, rfl⟩ := h
  rw [flagsOf?_append hlead, String.ofList_toList, editionTier?_eq_some_iff.2 hedition,
    Option.map_some]

/-- Any other name is only looked at where it starts. -/
lemma flagsOf?_of_not_starts (hcpp : ¬ "c++".toList <+: name) (hgnu : ¬ "gnu++".toList <+: name) :
    flagsOf? name = if "c".toList <+: name ∨ "gnu".toList <+: name then some {} else none := by
  rw [flagsOf?, Text.isPrefixOf?_eq_none_iff.2 hcpp, Text.isPrefixOf?_eq_none_iff.2 hgnu]
  simp only [Option.orElse_eq_orElse, Option.orElse_none, Bool.or_eq_true,
    List.isPrefixOf_iff_prefix]

/-- What starts like the name of a C standard gives no flags. -/
lemma flagsOf?_of_startsLikeC (h : StartsLikeC name) : flagsOf? name = some {} := by
  rw [flagsOf?_of_not_starts h.not_cpp h.not_gnu, if_pos h.lead]

/-- Anything else names nothing. -/
lemma flagsOf?_eq_none (hedition : ∀ tier, ¬ NamesEdition name tier) (hc : ¬ StartsLikeC name) :
    flagsOf? name = none := by
  -- What comes behind the lead of C++ is no edition, or the name would be one.
  have hcpp : ∀ {lead : String}, lead = "c++" ∨ lead = "gnu++" → lead.toList <+: name →
      flagsOf? name = none := by
    rintro lead hlead ⟨edition, rfl⟩
    rw [flagsOf?_append hlead, Option.map_eq_none_iff, Option.eq_none_iff_forall_ne_some]
    intro tier htier
    refine hedition tier ⟨lead, String.ofList edition, hlead, editionTier?_eq_some_iff.1 htier, ?_⟩
    rw [String.toList_ofList]
  by_cases h₁ : "c++".toList <+: name
  · exact hcpp (.inl rfl) h₁
  · by_cases h₂ : "gnu++".toList <+: name
    · exact hcpp (.inr rfl) h₂
    · rw [flagsOf?_of_not_starts h₁ h₂, if_neg fun hlead => hc ⟨hlead, h₁, h₂⟩]

/-- A digit behind its lead keeps the name of a C standard apart from those of C++. -/
lemma NamesC.startsLikeC (h : NamesC name) : StartsLikeC name := by
  obtain ⟨lead, rest, hlead, rfl, hrest⟩ := h
  have hplus : ∀ more, rest ≠ '+' :: more := by
    rintro more rfl
    exact absurd (hrest '+' rfl) (by decide)
  rcases hlead with rfl | rfl
  · refine ⟨.inl ⟨rest, rfl⟩, ?_, ?_⟩
    · rintro ⟨edition, hname⟩
      exact hplus _ (List.cons.inj hname).2.symm
    · rintro ⟨edition, hname⟩
      exact absurd (List.cons.inj hname).1 (by decide)
  · refine ⟨.inr ⟨rest, rfl⟩, ?_, ?_⟩
    · rintro ⟨edition, hname⟩
      exact absurd (List.cons.inj hname).1 (by decide)
    · rintro ⟨edition, hname⟩
      have hcut : "gnu".toList ++ '+' :: '+' :: edition = "gnu".toList ++ rest := hname
      exact hplus _ (List.append_cancel_left hcut).symm

/-- What starts like the name of a C standard names no edition of C++. -/
lemma StartsLikeC.not_namesEdition (h : StartsLikeC name) : ¬ NamesEdition name tier := by
  rintro ⟨lead, edition, rfl | rfl, -, rfl⟩
  · exact h.not_cpp (List.prefix_append _ _)
  · exact h.not_gnu (List.prefix_append _ _)

section

variable {raw : String} (hname : Written raw.toList name)

include hname

/-- A text is read as the flags that its name gives. -/
lemma ofStandard_of_some {flags : Flags} (h : flagsOf? name = some flags) :
    Flags.ofStandard raw = .ok flags := by
  rw [Flags.ofStandard, ← written_iff.1 hname, h]

/-- A text whose name gives no flags is an error. -/
lemma ofStandard_of_none (h : flagsOf? name = none) : Flags.ofStandard raw = .error ⟨raw⟩ := by
  rw [Flags.ofStandard, ← written_iff.1 hname, h]

end

end Standard

open Standard in
/-- A written name means one name in lower case. The name of an edition of C++ selects the flags of
the edition, a name that starts like that of a C standard selects none, and any other is refused as
it was written. This is as it should be exactly if the name is that of a C standard whenever it
starts like one. -/
theorem ofStandard_reads_iff (raw : String) :
    ∃ name, Written raw.toList name ∧ (∀ other, Written raw.toList other → other = name) ∧
      (∀ tier, NamesEdition name tier → ∃ flags, Flags.ofStandard raw = .ok flags ∧ flags.Closed ∧
        flags.cplusplus = true ∧ flags.tier = tier) ∧
      (StartsLikeC name → Flags.ofStandard raw = .ok {}) ∧
      ((∀ tier, ¬ NamesEdition name tier) → ¬ StartsLikeC name →
        Flags.ofStandard raw = .error ⟨raw⟩) ∧
      (Reads raw name (Flags.ofStandard raw) ↔ (StartsLikeC name → NamesC name)) := by
  obtain ⟨name, hname⟩ : ∃ name, Written raw.toList name := ⟨_, written_iff.2 rfl⟩
  have hunique : ∀ other, Written raw.toList other → other = name := by
    intro other hother
    rw [written_iff.1 hother, written_iff.1 hname]
  have hedition : ∀ tier, NamesEdition name tier → ∃ flags, Flags.ofStandard raw = .ok flags ∧
      flags.Closed ∧
      flags.cplusplus = true ∧ flags.tier = tier := by
    intro tier h
    exact ⟨_, ofStandard_of_some hname (flagsOf?_of_namesEdition h), Flags.closed_ofTier tier, rfl,
      Flags.tier_ofTier tier⟩
  have hc : StartsLikeC name → Flags.ofStandard raw = .ok {} :=
    fun h => ofStandard_of_some hname (flagsOf?_of_startsLikeC h)
  have hother : (∀ tier, ¬ NamesEdition name tier) → ¬ StartsLikeC name →
      Flags.ofStandard raw = .error ⟨raw⟩ :=
    fun hedition hc => ofStandard_of_none hname (flagsOf?_eq_none hedition hc)
  refine ⟨name, hname, hunique, hedition, hc, hother, ?_, ?_⟩
  · intro hreads hstarts
    by_contra hnot
    have herror := hreads.other (fun tier => hstarts.not_namesEdition) hnot
    rw [hc hstarts] at herror
    cases herror
  · intro hexact
    exact ⟨hedition, fun h => hc h.startsLikeC,
      fun hnone hnot => hother hnone fun h => hnot (hexact h)⟩

open Standard in
/-- A name that the author of a build file could think of is taken for that of a C standard. -/
theorem ofStandard_not_reads :
    ∃ name, Written "cpp20".toList name ∧ Flags.ofStandard "cpp20" = .ok {} ∧
      ¬ Reads "cpp20" name (Flags.ofStandard "cpp20") := by
  have hname : Written "cpp20".toList "cpp20".toList := written_iff.2 (by decide)
  have hanswer : Flags.ofStandard "cpp20" = .ok {} := ofStandard_of_some hname (by decide)
  refine ⟨_, hname, hanswer, ?_⟩
  intro hreads
  have hedition : ∀ tier, ¬ NamesEdition "cpp20".toList tier := by
    rintro tier ⟨lead, edition, rfl | rfl, -, h⟩
    · exact absurd (List.cons.inj (List.cons.inj h).2).1 (by decide)
    · exact absurd (List.cons.inj h).1 (by decide)
  have hc : ¬ NamesC "cpp20".toList := by
    rintro ⟨lead, rest, rfl | rfl, h, hrest⟩
    · exact absurd (hrest 'p' (congrArg List.head? (List.cons.inj h).2.symm)) (by decide)
    · exact absurd (List.cons.inj h).1 (by decide)
  have herror := hreads.other hedition hc
  rw [hanswer] at herror
  cases herror

end Language

end CppAdvice
