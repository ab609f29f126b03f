import Mathlib.Logic.Relation
import SwDriver.Storage

set_option autoImplicit false

namespace Sw

namespace SourceFileStorage

-- glob_cache (source_file.cpp) over a storage's life.

open Exec

theorem run_cachedFiles (t : Target) (dir : Path) (recursive : Bool) (s : SourceFileStorage) :
    (cachedFiles t dir recursive).run s =
      if (s.globCache.get? (dir, recursive)).getD [] = [] then
        .ok (t.fs.enumerateFiles dir recursive)
          { s with globCache := s.globCache.set (dir, recursive) (t.fs.enumerateFiles dir recursive) }
      else .ok ((s.globCache.get? (dir, recursive)).getD []) s := by
  unfold cachedFiles
  by_cases empty : (s.globCache.get? (dir, recursive)).getD [] = [] <;> simp [empty]

-- One operation on a storage under any target.
inductive Step : SourceFileStorage → SourceFileStorage → Prop
  | call (t : Target) (c : StorageCall) (s : SourceFileStorage) : Step s ((c.exec t).run s).state
  | merge (t : Target) (other : Map Path (Option SourceFile)) (s : SourceFileStorage) :
      Step s ((merge t other).run s).state
  | index (t : Target) (F : Path) (update : SourceFile → SourceFile) (s : SourceFileStorage) :
      Step s ((index t F update).run s).state
  | configure (autodetect postpone : Bool) (s : SourceFileStorage) :
      Step s { s with autodetect := autodetect, postponeFileResolving := postpone }

def Settled (k : Path × Bool) (files : List Path) (s : SourceFileStorage) : Prop :=
  files ≠ [] ∧ s.globCache.get? k = some files

section Settled

variable (t : Target) {k : Path × Bool} {files : List Path}

theorem settled_cachedFiles (dir : Path) (recursive : Bool) : Preserves (Settled k files) (cachedFiles t dir recursive) := by
  rintro s ⟨found, cached⟩
  refine ⟨found, ?_⟩
  rw [run_cachedFiles]
  by_cases same : (dir, recursive) = k
  · subst same
    simp [cached, found]
  · split <;> simp [Map.get?_set_of_ne _ _ same, cached]

theorem settled_addUnchecked (fileIn : Path) (skip : Bool) : Preserves (Settled k files) (addUnchecked t fileIn skip) := by
  intro s settled
  rw [run_addUnchecked]
  split <;> exact settled

theorem settled_whenPostponed (queued : FileOp) {m : StorageExec Unit} (immediate : Preserves (Settled k files) m) :
    Preserves (Settled k files) (whenPostponed queued m) :=
  preserves_bind (preserves_read _) fun postponed => by
    cases postponed
    · exact immediate
    · exact fun _ settled => settled

theorem settled_op (r : FileRegex) {func : Path → StorageExec Unit} (each : ∀ f, Preserves (Settled k files) (func f)) :
    Preserves (Settled k files) (op t r func) := by
  unfold op
  refine preserves_bind (settled_cachedFiles t _ _) fun found => preserves_forM _ fun f _ =>
    preserves_bind (preserves_ofExcept _) fun _ => ?_
  split
  · exact each f
  · exact preserves_pure _

theorem settled_add (file : Path) : Preserves (Settled k files) (add t file) :=
  settled_whenPostponed _ (settled_addUnchecked t file false)

theorem settled_remove (file : Path) : Preserves (Settled k files) (remove t file) :=
  settled_whenPostponed _ (settled_addUnchecked t file true)

theorem settled_removeFull (file : Path) : Preserves (Settled k files) (removeFull t file) := by
  unfold removeFull
  split
  · exact fun _ settled => settled
  · exact preserves_pure _

theorem settled_exec (c : StorageCall) : Preserves (Settled k files) (c.exec t) := by
  have replayed : ∀ o, Preserves (Settled k files) (replay t o) :=
    replay_closed t _ (settled_add t) (settled_remove t) fun _ _ => settled_op t _
  by_cases direct : c = .resolve
  · subst direct
    exact preserves_bind (preserves_modify fun _ settled => settled) fun _ =>
      preserves_bind (preserves_read _) fun ops => preserves_forM ops fun o _ => replayed o
  · exact StorageCall.exec_closed t _ (settled_add t) (settled_remove t) (settled_removeFull t)
      (fun _ _ => settled_whenPostponed _) (fun _ _ => settled_op t _)
      (fun files _ each => preserves_forM files fun f _ => each f) c direct

theorem settled_merge (other : Map Path (Option SourceFile)) : Preserves (Settled k files) (merge t other) :=
  preserves_forM other fun _ _ =>
    preserves_bind (fun _ settled => settled) fun found => by
      split
      · exact settled_add t _
      · exact preserves_pure _

theorem settled_index (F : Path) (update : SourceFile → SourceFile) : Preserves (Settled k files) (index t F update) := by
  unfold index
  refine preserves_bind (preserves_read _) fun postponed => ?_
  cases postponed
  · refine preserves_bind (preserves_ofExcept _) fun G =>
      preserves_bind (fun _ settled => settled) fun found => ?_
    cases found
    · exact preserves_throw _
    · exact fun _ settled => settled
  · exact preserves_modify fun _ settled => settled

end Settled

theorem settled_steps {k : Path × Bool} {files : List Path} {s s' : SourceFileStorage}
    (later : Relation.ReflTransGen Step s s') (settled : Settled k files s) : Settled k files s' := by
  induction later with
  | refl => exact settled
  | tail _ step ih =>
      cases step with
      | call t c => exact settled_exec t c _ ih
      | merge t other => exact settled_merge t other _ ih
      | index t F update => exact settled_index t F update _ ih
      | configure => exact ih

theorem run_cachedFiles_settled (t : Target) {dir : Path} {recursive : Bool} {files : List Path}
    {s : SourceFileStorage} (settled : Settled (dir, recursive) files s) :
    (cachedFiles t dir recursive).run s = .ok files s := by
  rw [run_cachedFiles, settled.2]
  simp [settled.1]

/-- Two rules with one root and flag share an enumeration only when it finds files. -/
theorem cachedFiles_enumerates_once (t : Target) (dir : Path) (recursive : Bool) (s : SourceFileStorage) :
    let first : Outcome SourceFileStorage (List Path) := (cachedFiles t dir recursive).run s
    (first.result = .ok [] → ∀ t' : Target, (cachedFiles t' dir recursive).run first.state =
        .ok (t'.fs.enumerateFiles dir recursive)
          { first.state with
            globCache := first.state.globCache.set (dir, recursive) (t'.fs.enumerateFiles dir recursive) }) ∧
      ∀ files, first.result = .ok files → files ≠ [] → ∀ s', Relation.ReflTransGen Step first.state s' →
        ∀ t' : Target, (cachedFiles t' dir recursive).run s' = .ok files s' := by
  intro first
  by_cases empty : (s.globCache.get? (dir, recursive)).getD [] = []
  · have enumerated : first = .ok (t.fs.enumerateFiles dir recursive)
        { s with globCache := s.globCache.set (dir, recursive) (t.fs.enumerateFiles dir recursive) } := by
      simp [first, run_cachedFiles, empty]
    rw [enumerated]
    refine ⟨fun nothing t' => ?_, fun files found named s' later t' => ?_⟩
    · simp [run_cachedFiles, Except.ok.inj nothing]
    · cases found
      exact run_cachedFiles_settled t' (settled_steps later ⟨named, by simp⟩)
  · have cached : first = .ok ((s.globCache.get? (dir, recursive)).getD []) s := by
      simp [first, run_cachedFiles, empty]
    rw [cached]
    refine ⟨fun nothing => absurd (Except.ok.inj nothing) empty, fun files found named s' later t' => ?_⟩
    cases found
    exact run_cachedFiles_settled t' (settled_steps later ⟨named, by cases hit : s.globCache.get? (dir, recursive) <;> simp_all⟩)

end SourceFileStorage

end Sw
