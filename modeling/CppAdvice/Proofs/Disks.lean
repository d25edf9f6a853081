import CppAdvice.Host.Tree
import CppAdvice.Proofs.Paths
import Mathlib.Data.Set.Basic

/-!
# Ways through files in memory

What stands at a path is what stands at the end of the way that the path names (`toOption_find`). So
two paths of one way name the same thing, but only as long as neither is too long.
-/

namespace CppAdvice

open CppAdvice.Path

namespace FileTree

variable {t : FileTree} {above : List FileTree} {pieces : List (List Char)}

/-- What stands at the end of a way down. -/
def at? : List String → FileTree → Option FileTree
  | [], t => some t
  | _ :: _, .file _ => none
  | name :: way, .directory es =>
    if Host.nameLimit < name.utf8ByteSize then none else (es.lookup name).bind (at? way)

/-- A way is gone one name at a time. -/
lemma at?_cons (name : String) (way : List String) :
    t.at? (name :: way) = (t.at? [name]).bind (at? way) := by
  cases t with
  | file text => rfl
  | directory es =>
    rw [at?, at?]
    split_ifs
    · rfl
    · cases es.lookup name <;> rfl

/-- A piece that names something leads down to it. -/
lemma toOption_follow_cons {piece : List Char} {name : String}
    (h : Step.ofPiece? piece = some (.down name)) : (follow t above (piece :: pieces)).toOption =
      (t.at? [name]).bind fun t' => (follow t' (t :: above) pieces).toOption := by
  obtain ⟨hidle, hup, rfl⟩ := Step.ofPiece?_eq_down h
  cases t with
  | file text => rfl
  | directory es =>
    simp only [follow, hidle, Bool.false_eq_true, if_false, if_neg hup, at?]
    split_ifs
    · rfl
    · cases es.lookup (String.ofList piece) <;> rfl

/-- Pieces that only lead down lead to the end of their way. The last of them has to name something,
since nothing may stand behind a file. -/
lemma toOption_follow {names : List String} {last : List Char} {name : String}
    (hpieces : pieces.filterMap Step.ofPiece? = names.map .down)
    (hlast : Step.ofPiece? last = some (.down name)) :
    (follow t above (pieces ++ [last])).toOption = t.at? (names ++ [name]) := by
  induction pieces generalizing t above names with
  | nil =>
    rw [List.filterMap_nil, eq_comm, List.map_eq_nil_iff] at hpieces
    rw [hpieces, List.nil_append, List.nil_append, toOption_follow_cons hlast]
    cases t.at? [name] <;> rfl
  | cons piece pieces ih =>
    cases hpiece : Step.ofPiece? piece with
    | none =>
      rw [List.filterMap_cons_none hpiece] at hpieces
      cases t with
      | file text => cases names <;> rfl
      | directory es =>
        simp only [List.cons_append, follow, Step.ofPiece?_eq_none_iff.1 hpiece, if_true]
        exact ih hpieces
    | some step =>
      rw [List.filterMap_cons_some hpiece] at hpieces
      cases names with
      | nil => cases hpieces
      | cons first names =>
        rw [List.map_cons, List.cons.injEq] at hpieces
        rw [hpieces.1] at hpiece
        rw [List.cons_append, toOption_follow_cons hpiece, List.cons_append,
          at?_cons first (names ++ [name])]
        exact congrArg _ (funext fun t' => ih hpieces.2)

end FileTree

namespace Disk

variable {d : Disk} {p : Path}

/-- The files of a disk, by their ways from the root. -/
def files (d : Disk) : Set (List String) :=
  {way | ∃ text, d.root.at? way = some (.file text)}

/-- A host with files in memory has a file at a path if one stands there. -/
lemma isFile_iff_toOption {input : String} :
    ((Host.ofTree d input).isFile p).run = true ↔
      ∃ text, (d.find p).toOption = some (.file text) := by
  have hkind : (Host.ofTree d input).kind p = (d.find p).map FileTree.kind := rfl
  rw [Host.isFile, hkind]
  cases d.find p with
  | error trouble =>
    constructor
    · intro h
      cases h
    · rintro ⟨text, h⟩
      cases h
  | ok t =>
    cases t with
    | file text => exact ⟨fun _ => ⟨text, rfl⟩, fun _ => rfl⟩
    | directory es =>
      constructor
      · intro h
        cases h
      · rintro ⟨text, h⟩
        cases h

/-- The names on the way to the working directory, as the pieces of a path, are steps down. -/
lemma filterMap_working
    (h : ∀ name ∈ d.working, Step.ofPiece? name.toList = some (.down name)) :
    (d.working.map (·.toList)).filterMap Step.ofPiece? = d.working.map .down := by
  rw [List.filterMap_map, ← List.filterMap_eq_map]
  exact List.filterMap_congr h

/-- The path that a host gives for its working directory goes down to it from the root. -/
lemma steps_workingDirectory
    (h : ∀ name ∈ d.working, Step.ofPiece? name.toList = some (.down name))
    (hslash : ∀ name ∈ d.working, '/' ∉ name.toList) :
    d.workingDirectory.steps = .root :: d.working.map .down := by
  have hpieces : ∀ piece ∈ [] :: d.working.map (·.toList), '/' ∉ piece := by
    rw [List.forall_mem_cons, List.forall_mem_map]
    exact ⟨List.not_mem_nil, hslash⟩
  rw [workingDirectory, steps_ofPieces hpieces, filterMap_working h]
  rfl

/-- At a path that is too long nothing can be reached. -/
lemma isFile_of_pathLimit_le {input : String} (h : Host.pathLimit ≤ p.text.utf8ByteSize) :
    ((Host.ofTree d input).isFile p).run = false := by
  rw [Bool.eq_false_iff, Ne, isFile_iff_toOption]
  rintro ⟨text, htext⟩
  rw [find] at htext
  split_ifs at htext
  · cases htext
  · cases htext

/-- What stands at a path is what stands at the end of its way, if the path is not too long. -/
lemma toOption_find (hworking : ∀ name ∈ d.working, Step.ofPiece? name.toList = some (.down name))
    (hnul : '\x00' ∉ p.text.toList) (hsize : p.text.utf8ByteSize < Host.pathLimit)
    {lead : List Path.Step} (hlead : lead = [] ∨ lead = [.root]) {names : List String}
    {last : String} (hsteps : p.steps = lead ++ (names ++ [last]).map .down)
    {init : List (List Char)} (hpieces : p.pieces = init ++ [last.toList])
    (hlast : Step.ofPiece? last.toList = some (.down last)) :
    (d.find p).toOption = d.root.at? (p.way d.working) := by
  have hinit : p.pieces.filterMap Step.ofPiece? = (names ++ [last]).map .down →
      init.filterMap Step.ofPiece? = names.map .down := by
    intro h
    rw [hpieces, List.filterMap_append, List.filterMap_cons_some hlast, List.filterMap_nil,
      List.map_append] at h
    exact (List.append_inj' h rfl).1
  rw [find, if_neg hnul, if_neg (Nat.not_le.2 hsize), way_of_steps hsteps]
  rcases hlead with rfl | rfl
  · have hdown := hinit ((filterMap_pieces hsteps).trans hsteps)
    split
    case h_1 hs =>
      rw [steps, pieces, hs] at hsteps
      simp [Step.ofPieces] at hsteps
    case h_2 s hs =>
      rw [steps_of_slash hs] at hsteps
      cases names <;> cases hsteps
    case h_3 =>
      have hway : (d.working.map (·.toList) ++ init).filterMap Step.ofPiece? =
          (d.working ++ names).map .down := by
        rw [List.filterMap_append, filterMap_working hworking, hdown, List.map_append]
      rw [hpieces, ← List.append_assoc, FileTree.toOption_follow hway hlast, List.append_assoc]
      rfl
  · obtain ⟨⟨s, hs⟩, hdown⟩ := filterMap_pieces_of_root hsteps
    rw [hs, hpieces]
    exact FileTree.toOption_follow (hinit hdown) hlast

end Disk

end CppAdvice
