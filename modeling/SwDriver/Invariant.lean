import SwDriver.Storage

set_option autoImplicit false

namespace Sw

namespace SourceFileStorage

def WellKeyed (files : Map Path (Option SourceFile)) : Prop :=
  ∀ p f, (p, f) ∈ files → isAbsolute p = true ∧ ∀ sf, f = some sf → sf.file = p

def Consistent (s : SourceFileStorage) : Prop := WellKeyed s.files

section Map

variable {files : Map Path (Option SourceFile)}

theorem wellKeyed_set (wellKeyed : WellKeyed files) {p : Path} {f : Option SourceFile}
    (absolute : isAbsolute p = true) (named : ∀ sf, f = some sf → sf.file = p) : WellKeyed (files.set p f) :=
  fun q g member => (Map.mem_set member).elim (fun same => by cases same; exact ⟨absolute, named⟩) (wellKeyed q g)

theorem wellKeyed_erase (wellKeyed : WellKeyed files) (p : Path) : WellKeyed (files.erase p) :=
  fun q g member => wellKeyed q g (Map.mem_erase member)

theorem wellKeyed_index (wellKeyed : WellKeyed files) {p : Path} (absolute : isAbsolute p = true) :
    WellKeyed (files.index p none).2 := by
  rw [Map.index_snd]
  split
  · exact wellKeyed
  · exact wellKeyed_set wellKeyed absolute fun _ h => by cases h

theorem wellKeyed_get (wellKeyed : WellKeyed files) (p : Path) :
    ∀ sf, (files.get? p).getD none = some sf → sf.file = p := by
  intro sf found
  cases hit : files.get? p with
  | none => simp [hit] at found
  | some f => exact (wellKeyed p f (Map.mem_of_get? hit)).2 sf (by simpa [hit] using found)

end Map

variable (t : Target)

theorem createEntry_file (file : Path) (program : PackageId) (previous : Option SourceFile) :
    (createEntry t file program previous).file = file := by
  unfold createEntry
  split
  · rfl
  · split
    · split <;> rfl
    · rfl

theorem boundEntry_file (file : Path) (f : Option SourceFile) (named : ∀ old, f = some old → old.file = file) :
    (boundEntry t file f).file = file := by
  unfold boundEntry
  split
  · rfl
  · split
    · rfl
    · split
      · exact createEntry_file t file _ none
      · split
        · exact createEntry_file t file _ _
        · exact named _ rfl

theorem addedEntry_file {s : SourceFileStorage} (consistent : Consistent s) (file : Path) (skip : Bool) :
    (addedEntry t s file skip).file = file :=
  boundEntry_file t file _ (wellKeyed_get consistent file)

open Exec

theorem preserves_addUnchecked (fileIn : Path) (skip : Bool) : Preserves Consistent (addUnchecked t fileIn skip) := by
  intro s consistent
  rw [run_addUnchecked]
  split
  · exact consistent
  · exact consistent
  · exact wellKeyed_set consistent (checkAbsolute_isAbsolute t ‹_›)
      fun sf h => by cases h; exact addedEntry_file t consistent _ skip

theorem preserves_whenPostponed (queued : FileOp) {m : StorageExec Unit} (immediate : Preserves Consistent m) :
    Preserves Consistent (whenPostponed queued m) :=
  preserves_bind (preserves_read _) fun postponed => by
    cases postponed
    · exact immediate
    · exact fun _ h => h

theorem preserves_op (r : FileRegex) {func : Path → StorageExec Unit} (each : ∀ f, Preserves Consistent (func f)) :
    Preserves Consistent (op t r func) := by
  unfold op cachedFiles
  refine preserves_bind (preserves_bind (preserves_read _) fun cached => ?_) fun files => ?_
  · dsimp only
    split
    · exact preserves_bind (preserves_modify fun _ h => h) fun _ => preserves_pure _
    · exact preserves_pure _
  · exact preserves_forM _ fun f _ => preserves_bind (preserves_ofExcept _) fun _ => by
      split
      · exact each f
      · exact preserves_pure _

theorem preserves_add (file : Path) : Preserves Consistent (add t file) :=
  preserves_whenPostponed _ (preserves_addUnchecked t file false)

theorem preserves_remove (file : Path) : Preserves Consistent (remove t file) :=
  preserves_whenPostponed _ (preserves_addUnchecked t file true)

theorem preserves_removeFull (file : Path) : Preserves Consistent (removeFull t file) := by
  unfold removeFull
  split
  · exact fun s consistent => wellKeyed_erase consistent _
  · exact preserves_pure _

theorem preserves_replay (fileOp : FileOp) : Preserves Consistent (replay t fileOp) :=
  replay_closed t _ (preserves_add t) (preserves_remove t) (fun _ _ => preserves_op t _) fileOp

theorem preserves_exec (c : StorageCall) : Preserves Consistent (c.exec t) := by
  by_cases direct : c = .resolve
  · subst direct
    exact preserves_bind (preserves_modify fun _ h => h) fun _ =>
      preserves_bind (preserves_read _) fun ops => preserves_forM ops fun o _ => preserves_replay t o
  · exact StorageCall.exec_closed t _ (preserves_add t) (preserves_remove t) (preserves_removeFull t)
      (fun _ _ => preserves_whenPostponed _) (fun _ _ => preserves_op t _)
      (fun files _ each => preserves_forM files fun f _ => each f) c direct

theorem preserves_merge {other : Map Path (Option SourceFile)} (wellKeyed : WellKeyed other) :
    Preserves Consistent (merge t other) :=
  preserves_forM other fun e member => by
    refine preserves_bind (fun s consistent => ?_) fun found => ?_
    · exact wellKeyed_index consistent (wellKeyed e.1 e.2 member).1
    · split
      · exact preserves_add t _
      · exact preserves_pure _

theorem checkAbsolute_strict (F : Path) : checkAbsolute t F false ≠ .ok none := by
  unfold checkAbsolute
  split_ifs <;> simp_all

theorem preserves_index (F : Path) {update : SourceFile → SourceFile} (keeps : ∀ f, (update f).file = f.file) :
    Preserves Consistent (index t F update) := by
  unfold index
  refine preserves_bind (preserves_read _) fun postponed => ?_
  cases postponed
  · simp only [Bool.false_eq_true, ite_false]
    intro s consistent
    cases checked : checkAbsolute t F false with
    | error e => simpa [checked] using consistent
    | ok found =>
        cases found with
        | none => exact absurd checked (checkAbsolute_strict t F)
        | some G =>
            have absolute := checkAbsolute_isAbsolute t checked
            have indexed := wellKeyed_index consistent absolute
            cases hit : tracked s G with
            | none => simpa [checked, hit] using indexed
            | some f =>
                simp only [run_bind, run_ofExcept, checked, run_entry, hit, store, run_modify, Option.getD_some]
                refine wellKeyed_set indexed absolute fun sf h => ?_
                cases h
                rw [keeps, wellKeyed_get consistent G f hit]
  · exact preserves_modify fun _ h => h

-- The states a storage reaches from an empty one.
inductive Reachable : SourceFileStorage → Prop
  | empty (autodetect postpone : Bool) : Reachable (SourceFileStorage.empty autodetect postpone)
  | call {s : SourceFileStorage} (t : Target) (c : StorageCall) : Reachable s → Reachable ((c.exec t).run s).state
  | merge {s v : SourceFileStorage} (t : Target) :
      Reachable s → Reachable v → Reachable ((merge t v.files).run s).state
  | index {s : SourceFileStorage} (t : Target) (F : Path) (update : SourceFile → SourceFile) :
      (∀ f, (update f).file = f.file) → Reachable s → Reachable ((index t F update).run s).state
  | configure {s : SourceFileStorage} (autodetect postpone : Bool) :
      Reachable s → Reachable { s with autodetect := autodetect, postponeFileResolving := postpone }

theorem reachable_consistent {s : SourceFileStorage} (reachable : Reachable s) : Consistent s := by
  induction reachable with
  | empty => intro p f member; simp [SourceFileStorage.empty] at member
  | call t c _ ih => exact preserves_exec t c _ ih
  | merge t _ _ ih other => exact preserves_merge t other _ ih
  | index t F update keeps _ ih => exact preserves_index t F keeps _ ih
  | configure _ _ _ ih => exact ih

theorem reachable_consistent_merged :
    let t : Target := demoTarget gccRegistry
    let v := ((add t "/src/a.cpp").run (SourceFileStorage.empty false false)).state
    let s := ((merge t v.files).run (SourceFileStorage.empty false true)).state
    Reachable s ∧ Consistent s := by
  intro t v s
  have reachable : Reachable s := .merge t (.empty false true) (.call t (.add "/src/a.cpp") (.empty false false))
  exact ⟨reachable, reachable_consistent reachable⟩

theorem merge_while_postponed_leaves_null_entry :
    let t : Target := demoTarget gccRegistry
    let v := ((add t "/src/a.cpp").run (SourceFileStorage.empty false false)).state
    let s := ((merge t v.files).run (SourceFileStorage.empty false true)).state
    let u := (index t "/src/a.cpp" id).run (SourceFileStorage.empty false false)
    Reachable s ∧ s.files.map (fun e => (e.1, e.2.isNone)) = [("/src/a.cpp", true)] ∧ sizeKnown s = none ∧
      u.thrown = some "Empty source file: /src/a.cpp" ∧
      u.state.files.map (fun e => (e.1, e.2.isNone)) = [("/src/a.cpp", true)] := by
  intro t v s u
  refine ⟨.merge t (.empty false true) (.call t (.add "/src/a.cpp") (.empty false false)), ?_⟩
  decide

end SourceFileStorage

end Sw
