import CppAdvice.Config.File
import CppAdvice.Proofs.Bytes
import CppAdvice.Proofs.Disks

/-!
# How a settings file is found

The settings file of a directory is the one in the nearest directory at or above it. The search goes
up by the steps of the path it starts from, so how far it gets depends on how the directory is
named. From the root on it finds the nearest file; from a path without a root it ends at the working
directory, and a file above that is not found (`found?_relative_iff`). Both go by one step up
(`find?_eq`), as does what is nearest (`isNearest_concat_iff`). A path that is too long to reach a
file does not find it, wherever the path starts.
-/

namespace CppAdvice.Config

open CppAdvice.Path

/-- The nearest directory, at or above the end of the way `dir`, that has a settings file. -/
structure IsNearest (files : Set (List String)) (dir nearest : List String) : Prop where
  above : nearest <+: dir
  has : nearest ++ [fileName] ∈ files
  longest : ∀ other, other <+: dir → other ++ [fileName] ∈ files → other <+: nearest

/-- Whether a host knows which of the settings files exist that count for a directory. Files are
given by their ways from the root, and paths without a root start at the end of the way
`working`. -/
def Knows (host : Host Id) (working : List String) (files : Set (List String))
    (start : Path) : Prop :=
  ∀ dir ∈ start.upward, (host.isFile (dir.join fileName)).run = true ↔
    (dir.join fileName).way working ∈ files

/-- The way from the root to the settings file that is found. -/
def found? (host : Host Id) (working : List String) (start : Path) : Option (List String) :=
  (find? host start).run.map (·.way working)

section

variable {files : Set (List String)} {dir nearest : List String}

/-- There is one nearest file at most. -/
lemma IsNearest.eq {other : List String} (h : IsNearest files dir nearest)
    (h' : IsNearest files dir other) :
    nearest = other :=
  (h'.longest _ h.above h.has).eq_of_length_le (h.longest _ h'.above h'.has).length_le

/-- A directory that has a settings file is the nearest to itself. -/
lemma isNearest_of_mem (h : dir ++ [fileName] ∈ files) :
    IsNearest files dir nearest ↔ nearest = dir := by
  have hself : IsNearest files dir dir := ⟨List.prefix_rfl, h, fun _ hother _ => hother⟩
  constructor
  · exact fun hnearest => hnearest.eq hself
  · rintro rfl
    exact hself

/-- For a directory that has no settings file, what counts is what counts for the one above. -/
lemma isNearest_concat_iff {name : String} (h : dir ++ [name] ++ [fileName] ∉ files) :
    IsNearest files (dir ++ [name]) nearest ↔ IsNearest files dir nearest := by
  have habove : ∀ {other}, other ++ [fileName] ∈ files →
      (other <+: dir ++ [name] ↔ other <+: dir) := by
    intro other hother
    rw [List.prefix_concat_iff]
    refine or_iff_right ?_
    rintro rfl
    exact h hother
  constructor
  · intro hn
    refine ⟨(habove hn.has).1 hn.above, hn.has, ?_⟩
    exact fun other hother hfile => hn.longest other ((habove hfile).2 hother) hfile
  · intro hn
    refine ⟨(habove hn.has).2 hn.above, hn.has, ?_⟩
    exact fun other hother hfile => hn.longest other ((habove hfile).1 hother) hfile

end

variable {host : Host Id} {working : List String} {files : Set (List String)} {start : Path}

/-- What is found for a directory is its own settings file, or else what is found for its parent. -/
lemma find?_eq (host : Host Id) (start : Path) :
    (find? host start).run =
      if (host.isFile (start.join fileName)).run then some (start.join fileName)
      else start.parent?.elim none fun parent => (find? host parent).run := by
  rw [find?, List.idRun_findM?, upward_eq, List.map_cons, List.find?_cons]
  cases (host.isFile (start.join fileName)).run with
  | true => rfl
  | false =>
    cases start.parent? with
    | none => rfl
    | some parent =>
      rw [Option.elim_some, Option.elim_some, find?, List.idRun_findM?]
      rfl

/-- The settings file of a directory is one step down from it. -/
lemma way_join_fileName (working : List String) (dir : Path) :
    (dir.join fileName).way working = dir.way working ++ [fileName] := by
  have hname : (Path.mk fileName).steps = [fileName].map .down := by decide +kernel
  rw [way, steps_join dir hname, List.foldl_append, hname]
  rfl

/-- A host that knows the files knows the one in the directory itself. -/
lemma Knows.self (h : Knows host working files start) :
    (host.isFile (start.join fileName)).run = true ↔ start.way working ++ [fileName] ∈ files := by
  rw [← way_join_fileName]
  apply h
  rw [upward_eq]
  exact List.mem_cons_self

/-- A host that knows the files from a directory on up knows them from its parent on up. -/
lemma Knows.parent {parent : Path} (h : Knows host working files start)
    (hparent : start.parent? = some parent) :
    Knows host working files parent := by
  intro dir hdir
  apply h
  rw [upward_eq, hparent]
  exact List.mem_cons_of_mem _ hdir

/-- The search goes up to where the path starts: at the root, or at the working directory. -/
lemma found?_eq_some_iff {start : Path} {lead : List Path.Step} (hlead : lead = [] ∨ lead = [.root])
    {names : List String} (hsteps : start.steps = lead ++ names.map .down)
    (h : Knows host working files start) {f : List String} :
    found? host working start = some f ↔
      ∃ nearest, IsNearest files (lead.foldl Step.go working ++ names) nearest ∧
        lead.foldl Step.go working <+: nearest ∧ f = nearest ++ [fileName] := by
  have hself := h.self
  rw [way_of_steps hsteps] at hself
  rw [found?, find?_eq]
  by_cases hfile : (host.isFile (start.join fileName)).run = true
  · rw [if_pos hfile, Option.map_some, Option.some.injEq, way_join_fileName, way_of_steps hsteps]
    simp only [isNearest_of_mem (hself.1 hfile), exists_eq_left, List.prefix_append, true_and]
    exact eq_comm
  have hmiss := mt hself.2 hfile
  rw [if_neg hfile]
  rcases List.eq_nil_or_concat' names with rfl | ⟨names, name, rfl⟩
  · rw [List.append_nil] at hmiss ⊢
    rw [parent?_eq_none (by simpa [hsteps] using hlead)]
    -- No directory is both above the start and below it but the start itself.
    refine ⟨nofun, ?_⟩
    rintro ⟨nearest, hnearest, hbelow, -⟩
    rw [hbelow.eq_of_length_le hnearest.above.length_le] at hmiss
    exact absurd hnearest.has hmiss
  · rw [List.map_append, ← List.append_assoc] at hsteps
    rw [← List.append_assoc] at hmiss ⊢
    obtain ⟨parent, hparent, hinit⟩ := exists_parent? hsteps
    have ih := found?_eq_some_iff hlead hinit (h.parent hparent) (f := f)
    simp only [hparent, isNearest_concat_iff hmiss]
    exact ih
termination_by names.length

/-- From the root on the search finds the nearest settings file. A search that starts with a path
without a root finds the same file if it is in the working directory or below, and none if the
nearest one is above; so both agree exactly if none is needed from there. -/
lemma found?_relative_iff {w r : Path} {dir names : List String}
    (hw : w.steps = .root :: dir.map .down) (hr : r.steps = names.map .down)
    (hfull : Knows host dir files (w.join r.text)) (hshort : Knows host dir files r) :
    (∀ f, found? host dir (w.join r.text) = some f ↔
        ∃ nearest, IsNearest files (dir ++ names) nearest ∧ f = nearest ++ [fileName]) ∧
      (∀ f, found? host dir r = some f ↔
        ∃ nearest, IsNearest files (dir ++ names) nearest ∧ dir <+: nearest ∧
          f = nearest ++ [fileName]) ∧
      (found? host dir r = found? host dir (w.join r.text) ↔
        ∀ nearest, IsNearest files (dir ++ names) nearest → dir <+: nearest) := by
  have hsteps : (w.join r.text).steps = [.root] ++ (dir ++ names).map .down := by
    rw [steps_join w hr, hw, hr, List.map_append]
    rfl
  have habsolute : ∀ f, found? host dir (w.join r.text) = some f ↔
      ∃ nearest, IsNearest files (dir ++ names) nearest ∧ f = nearest ++ [fileName] := by
    intro f
    rw [found?_eq_some_iff (.inr rfl) hsteps hfull]
    simp [Step.go]
  have hrelative : ∀ f, found? host dir r = some f ↔
      ∃ nearest, IsNearest files (dir ++ names) nearest ∧ dir <+: nearest ∧
        f = nearest ++ [fileName] :=
    fun f => found?_eq_some_iff (.inl rfl) hr hshort
  refine ⟨habsolute, hrelative, ?_⟩
  constructor
  · intro heq nearest hnearest
    have hfound := (habsolute _).2 ⟨nearest, hnearest, rfl⟩
    rw [← heq] at hfound
    obtain ⟨other, hother, hbelow, -⟩ := (hrelative _).1 hfound
    rwa [hnearest.eq hother]
  · intro hbelow
    ext f
    rw [hrelative, habsolute]
    constructor
    · rintro ⟨nearest, hnearest, -, hf⟩
      exact ⟨nearest, hnearest, hf⟩
    · rintro ⟨nearest, hnearest, hf⟩
      exact ⟨nearest, hnearest, hbelow nearest hnearest, hf⟩

/-- A path leaves room for the name of a settings file. -/
def Fits (p : Path) : Prop :=
  '\x00' ∉ p.text.toList ∧ p.text.utf8ByteSize + 1 + fileName.utf8ByteSize < Host.pathLimit

namespace Fits

variable {p q : Path}

/-- What a path holds fits if the path does. -/
lemma of_infix (h : Fits p) (hq : q.text.toList <:+: p.text.toList) : Fits q := by
  obtain ⟨s, t, hst⟩ := hq
  have htext : p.text = String.ofList s ++ q.text ++ String.ofList t := by
    rw [← String.toList_inj, String.toList_append, String.toList_append, String.toList_ofList,
      String.toList_ofList, hst]
  have hsize := h.2
  rw [htext, String.utf8ByteSize_append, String.utf8ByteSize_append] at hsize
  refine ⟨fun hnul => h.1 ?_, by omega⟩
  rw [← hst]
  exact List.mem_append_left _ (List.mem_append_right _ hnul)

/-- If a path fits, so does that of the settings file in it. -/
lemma join (h : Fits p) :
    '\x00' ∉ (p.join fileName).text.toList ∧
      (p.join fileName).text.utf8ByteSize < Host.pathLimit := by
  have hname : '\x00' ∉ fileName.toList := by decide +kernel
  have hslash : '\x00' ∉ "/".toList := by decide +kernel
  have hsize := h.2
  rw [Path.join]
  split_ifs
  · rw [String.toList_append, List.mem_append, String.utf8ByteSize_append]
    exact ⟨not_or.2 ⟨h.1, hname⟩, by omega⟩
  · have hone : "/".utf8ByteSize = 1 := rfl
    rw [String.toList_append, String.toList_append, List.mem_append, List.mem_append,
      String.utf8ByteSize_append, String.utf8ByteSize_append, hone]
    exact ⟨not_or.2 ⟨not_or.2 ⟨h.1, hslash⟩, hname⟩, hsize⟩

end Fits

/-- On a disk a path that is not too long says which settings files exist. -/
lemma knows_ofTree (d : Disk) (input : String)
    (hworking : ∀ name ∈ d.working, Step.ofPiece? name.toList = some (.down name)) {start : Path}
    {lead : List Path.Step} (hlead : lead = [] ∨ lead = [.root]) {names : List String}
    (hsteps : start.steps = lead ++ names.map .down) (hfits : Fits start) :
    Knows (Host.ofTree d input) d.working d.files start := by
  intro dir hdir
  rw [upward_eq, List.mem_cons] at hdir
  rcases hdir with rfl | hdir
  · have hname : (Path.mk fileName).steps = [fileName].map .down := by decide +kernel
    have hpiece : Step.ofPiece? fileName.toList = some (.down fileName) := by decide +kernel
    obtain ⟨init, hinit⟩ := dir.exists_pieces_join fileName (by decide +kernel)
    have hjoined : (dir.join fileName).steps = lead ++ (names ++ [fileName]).map .down := by
      rw [steps_join dir hname, hsteps, hname, List.map_append, List.append_assoc]
    rw [Disk.isFile_iff_toOption,
      Disk.toOption_find hworking hfits.join.1 hfits.join.2 hlead hjoined hinit hpiece]
    rfl
  · cases hparent : start.parent? with
    | none =>
      rw [hparent] at hdir
      cases hdir
    | some parent =>
      rw [hparent, Option.elim_some] at hdir
      rcases List.eq_nil_or_concat' names with rfl | ⟨names, name, rfl⟩
      · rw [parent?_eq_none (by simpa [hsteps] using hlead)] at hparent
        cases hparent
      · rw [List.map_append, ← List.append_assoc] at hsteps
        obtain ⟨q, hq, hinit⟩ := exists_parent? hsteps
        cases hparent.symm.trans hq
        exact knows_ofTree d input hworking hlead hinit
          (hfits.of_infix (isPrefix_of_parent? hq).isInfix) dir hdir
termination_by names.length

/-- The name that is joined to a path is part of the result. -/
lemma isInfix_join (p : Path) (name : String) : name.toList <:+: (p.join name).text.toList := by
  rw [Path.join]
  split_ifs
  · rw [String.toList_append]
    exact (List.suffix_append _ _).isInfix
  · rw [String.toList_append]
    exact (List.suffix_append _ _).isInfix

/-- On every disk, the search from the root on finds the nearest settings file, and a search that
starts with a path without a root finds the same as long as none is needed from above the working
directory. The paths have to be short enough to reach the files. -/
theorem found?_nearest (d : Disk) (input : String) {w r : Path} {names : List String}
    (hw : w.steps = .root :: d.working.map .down) (hr : r.steps = names.map .down)
    (hfits : Fits (w.join r.text)) :
    let host := Host.ofTree d input
    (∀ f, found? host d.working (w.join r.text) = some f ↔
        ∃ nearest, IsNearest d.files (d.working ++ names) nearest ∧ f = nearest ++ [fileName]) ∧
      ((∀ nearest, IsNearest d.files (d.working ++ names) nearest → d.working <+: nearest) →
        found? host d.working r = found? host d.working (w.join r.text)) := by
  intro host
  have hworking : ∀ name ∈ d.working, Step.ofPiece? name.toList = some (.down name) := by
    intro name hname
    have hmem := List.mem_map_of_mem (f := Path.Step.down) hname
    rw [← (filterMap_pieces_of_root hw).2, List.mem_filterMap] at hmem
    obtain ⟨piece, -, hpiece⟩ := hmem
    rwa [← (Step.ofPiece?_eq_down hpiece).2.2, String.toList_ofList,
      (Step.ofPiece?_eq_down hpiece).2.2]
  have hsteps : (w.join r.text).steps = [.root] ++ (d.working ++ names).map .down := by
    rw [steps_join w hr, hw, hr, List.map_append]
    rfl
  have hfull := knows_ofTree d input hworking (.inr rfl) hsteps hfits
  have hshort :=
    knows_ofTree d input hworking (.inl rfl) hr (hfits.of_infix (isInfix_join w r.text))
  obtain ⟨hnearest, -, hsame⟩ := found?_relative_iff hw hr hfull hshort
  exact ⟨hnearest, hsame.2⟩

/-- Two directories down from the working directory, with a settings file one directory down and
another above. -/
theorem found?_nearest_below :
    let d := Disk.ofFiles [("../cxx-clippy.toml", ""), ("a/cxx-clippy.toml", ""), ("a/b/", "")]
    let host := Host.ofTree d ""
    (∀ nearest, IsNearest d.files ["workspace", "a", "b"] nearest → ["workspace"] <+: nearest) ∧
      found? host ["workspace"] ⟨"a//b/"⟩ = some ["workspace", "a", fileName] ∧
      found? host ["workspace"] (Path.join ⟨"/workspace"⟩ "a//b/") =
        some ["workspace", "a", fileName] := by
  intro d host
  have hw : (Path.mk "/workspace").steps = .root :: d.working.map .down := by decide +kernel
  have hr : (Path.mk "a//b/").steps = ["a", "b"].map .down := by decide +kernel
  have hfits : Fits (Path.join ⟨"/workspace"⟩ "a//b/") := by
    unfold Fits
    decide +kernel
  have hnearest : IsNearest d.files ["workspace", "a", "b"] ["workspace", "a"] := by
    have hmiss : ["workspace", "a"] ++ ["b"] ++ [fileName] ∉ d.files := by
      rintro ⟨text, htext⟩
      cases htext
    have hmem : ["workspace", "a"] ++ [fileName] ∈ d.files := ⟨"", rfl⟩
    exact (isNearest_concat_iff hmiss).2 ((isNearest_of_mem hmem).2 rfl)
  have hbelow : ∀ nearest, IsNearest d.files ["workspace", "a", "b"] nearest →
      ["workspace"] <+: nearest := by
    intro nearest h
    rw [h.eq hnearest]
    exact List.prefix_append ["workspace"] ["a"]
  obtain ⟨hfull, hsame⟩ := found?_nearest d "" hw hr hfits
  have hfound := (hfull _).2 ⟨_, hnearest, rfl⟩
  exact ⟨hbelow, (hsame hbelow).trans hfound, hfound⟩

/-- A name, a number of slashes and another name. -/
def slashes (count : Nat) : Path :=
  ⟨String.ofList (['a'] ++ '/' :: (List.replicate count '/' ++ ['b']))⟩

/-- The pieces of a path with many slashes: most of them are empty. -/
lemma pieces_slashes (count : Nat) :
    (slashes count).pieces = ['a'] :: (List.replicate count [] ++ [['b']]) := by
  have hreplicate : (List.replicate count '/' ++ ['b']).splitOn '/' =
      List.replicate count [] ++ [['b']] := by
    induction count with
    | zero => rfl
    | succ count ih =>
      rw [List.replicate_succ, List.cons_append, Text.splitOn_cons_self, ih]
      rfl
  rw [pieces, slashes, String.toList_ofList, List.splitOn_append_cons_self, hreplicate]
  rfl

/-- The slashes say nothing about the way. -/
lemma steps_slashes (count : Nat) : (slashes count).steps = ["a", "b"].map .down := by
  have hidle : (List.replicate count []).filterMap Step.ofPiece? = [] := by
    rw [List.filterMap_replicate_of_none rfl]
  rw [steps, pieces_slashes, Step.ofPieces_cons (by simp), List.filterMap_append, hidle]
  rfl

/-- The parent goes without the slashes. -/
lemma parent?_slashes (count : Nat) : (slashes count).parent? = some ⟨"a"⟩ := by
  have htrim : trimPieces (slashes count).pieces =
      ['a'] :: (List.replicate count [] ++ [['b']]) := by
    rw [pieces_slashes]
    exact congrArg (['a'] :: ·) (List.rdropWhile_concat_neg isIdle _ _ (by decide))
  have hidle : (List.replicate count []).rdropWhile isIdle = [] := by
    rw [List.rdropWhile_eq_nil_iff]
    intro piece hpiece
    rw [List.eq_of_mem_replicate hpiece]
    rfl
  rw [parent?_of_trimPieces htrim, hidle]
  rfl

/-- The path is as long as it has slashes. -/
lemma lt_utf8ByteSize_slashes (count : Nat) : count < (slashes count).text.utf8ByteSize := by
  have hreplicate : Text.byteLength (List.replicate count '/') = count := by
    induction count with
    | zero => rfl
    | succ count ih =>
      rw [List.replicate_succ, Text.byteLength_cons, ih, Nat.add_comm]
      rfl
  change count < Text.byteLength _
  rw [Text.byteLength_append, Text.byteLength_cons, Text.byteLength_cons,
    Text.byteLength_append, hreplicate]
  have hslash : '/'.utf8Size = 1 := rfl
  omega

/-- How a directory is written matters in two ways. With too many slashes in it a path does not
reach the file in its own directory, and one further up is found. And a file above the working
directory counts for it, but is not found if the working directory is named by the empty path. -/
theorem found?_not_nearest :
    let d := Disk.ofFiles [("a/b/cxx-clippy.toml", ""), ("cxx-clippy.toml", "")]
    let above := Host.ofTree (.ofFiles [("../cxx-clippy.toml", "")]) ""
    ((slashes 4096).steps = ["a", "b"].map .down ∧
        IsNearest d.files (d.working ++ ["a", "b"]) (d.working ++ ["a", "b"]) ∧
        found? (Host.ofTree d "") d.working (slashes 4096) = some (d.working ++ [fileName])) ∧
      (find? above ⟨""⟩).run = none ∧
      (find? above (Path.join ⟨"/workspace"⟩ "")).run = some ⟨"/cxx-clippy.toml"⟩ := by
  intro d above
  have hmem : d.working ++ ["a", "b"] ++ [fileName] ∈ d.files := ⟨"", rfl⟩
  refine ⟨⟨steps_slashes 4096, (isNearest_of_mem hmem).2 rfl, ?_⟩, by decide +kernel⟩
  have hmiss : ((Host.ofTree d "").isFile ((slashes 4096).join fileName)).run = false := by
    apply Disk.isFile_of_pathLimit_le
    have hsize := lt_utf8ByteSize_slashes 4096
    have hlimit : Host.pathLimit = 4096 := rfl
    rw [Path.join]
    split_ifs
    · rw [String.utf8ByteSize_append]
      omega
    · rw [String.utf8ByteSize_append, String.utf8ByteSize_append]
      omega
  have hfound : (find? (Host.ofTree d "") ⟨"a"⟩).run = some ⟨"cxx-clippy.toml"⟩ := by decide +kernel
  rw [found?, find?_eq, hmiss, if_neg Bool.false_ne_true, parent?_slashes, Option.elim_some, hfound]
  decide +kernel

end CppAdvice.Config
