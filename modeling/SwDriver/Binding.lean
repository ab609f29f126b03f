import SwDriver.Invariant

set_option autoImplicit false

namespace Sw

namespace SourceFileStorage

section Binding

variable (t : Target)

-- What add(p) is meant to leave when language L binds p.
structure BoundBy (L : Language) (file : Path) (f : SourceFile) : Prop where
  sameFile : f.file = file
  created : f.created = true
  settled : f.postponed = false
  compiler : f.native = some (L.compiler.clone.setSourceFile file (NativeLanguage.objectFile t L file),
    NativeLanguage.objectFile t L file)

theorem createSourceFile_boundBy (L : Language) (file : Path) :
    BoundBy t L file (NativeLanguage.createSourceFile t L file) :=
  ⟨rfl, rfl, rfl, rfl⟩

theorem BoundBy.withSettings {L : Language} {file : Path} {f : SourceFile} (bound : BoundBy t L file f)
    (args : List String) (skip : Bool) : BoundBy t L file { f with args := args, skip := skip } :=
  ⟨bound.sameFile, bound.created, bound.settled, bound.compiler⟩

theorem createEntry_boundBy {file : Path} {pkg : PackageId} {L : Language}
    (found : findLanguageByPackageId t pkg = some L) (previous : Option SourceFile) :
    BoundBy t L file (createEntry t file pkg previous) := by
  have fresh := createSourceFile_boundBy t L file
  unfold createEntry
  rw [found]
  cases previous with
  | none => exact fresh
  | some old =>
      dsimp only
      split
      · exact fresh.withSettings t old.args old.skip
      · exact fresh

theorem boundEntry_of_package {file : Path} {pkg : PackageId}
    (resolved : findPackageIdByExtension t (extension file) = some pkg) (compiled : t.headerOnly ≠ some true)
    (f : Option SourceFile) :
    boundEntry t file f = match f with
      | none => createEntry t file pkg none
      | some old => if old.postponed then createEntry t file pkg (some old) else old := by
  cases f <;> simp only [boundEntry, resolved, if_neg compiled]

theorem boundEntry_boundBy {file : Path} {pkg : PackageId} {L : Language}
    (resolved : findPackageIdByExtension t (extension file) = some pkg)
    (found : findLanguageByPackageId t pkg = some L) (compiled : t.headerOnly ≠ some true)
    {f : Option SourceFile} (unbound : ∀ old, f = some old → old.postponed = true) :
    BoundBy t L file (boundEntry t file f) := by
  rw [boundEntry_of_package t resolved compiled]
  cases f with
  | none => exact createEntry_boundBy t found none
  | some old => simpa only [if_pos (unbound old rfl)] using createEntry_boundBy t found (some old)

theorem run_add_unset (file : Path) {s : SourceFileStorage} (unset : s.postponeFileResolving = false) :
    (add t file).run s = (addUnchecked t file false).run s :=
  run_whenPostponed_unset _ _ unset

theorem tracked_addUnchecked {fileIn file : Path} {skip : Bool} (s : SourceFileStorage)
    (accepted : checkAbsolute t fileIn skip = .ok (some file)) :
    tracked ((addUnchecked t fileIn skip).run s).state file = some (addedEntry t s file skip) := by
  simp [run_addUnchecked, accepted]

theorem add_binds_unbound_entry (s : SourceFileStorage) (fileIn file : Path) (pkg : PackageId) (L : Language)
    (accepted : checkAbsolute t fileIn false = .ok (some file))
    (resolved : findPackageIdByExtension t (extension file) = some pkg)
    (found : findLanguageByPackageId t pkg = some L) (compiled : t.headerOnly ≠ some true)
    (unset : s.postponeFileResolving = false) :
    let after := tracked ((add t fileIn).run s).state file
    ((∀ old, tracked s file = some old → old.postponed = true) → ∃ f, after = some f ∧ BoundBy t L file f) ∧
      ∀ old, tracked s file = some old → old.postponed = false →
        after = some { old with skip := s.autodetect && old.skip } := by
  intro after
  have added : after = some (addedEntry t s file false) := by
    rw [← tracked_addUnchecked t s accepted, ← run_add_unset t fileIn unset]
  refine ⟨fun unbound => ⟨_, added, ?_⟩, fun old before settled => ?_⟩
  · exact (boundEntry_boundBy t resolved found compiled unbound).withSettings t _ _
  · rw [added]
    simp only [addedEntry, before, boundEntry_of_package t resolved compiled, settled, Bool.false_eq_true, if_false]
    cases s.autodetect <;> simp

theorem add_binds_unbound_entry_gcc :
    let t := demoTarget gccRegistry
    let s := ((add (demoTarget pendingRegistry) "/src/a.cpp").run (SourceFileStorage.empty false false)).state
    checkAbsolute t "/src/a.cpp" false = .ok (some "/src/a.cpp") ∧
      findPackageIdByExtension t (extension "/src/a.cpp") = some gccPackage ∧
      findLanguageByPackageId t gccPackage = some gccLanguage ∧ t.headerOnly ≠ some true ∧
      s.postponeFileResolving = false ∧
      let after := tracked ((add t "/src/a.cpp").run s).state "/src/a.cpp"
      ((∀ old, tracked s "/src/a.cpp" = some old → old.postponed = true) →
          ∃ f, after = some f ∧ BoundBy t gccLanguage "/src/a.cpp" f) ∧
        ∀ old, tracked s "/src/a.cpp" = some old → old.postponed = false →
          after = some { old with skip := s.autodetect && old.skip } := by
  intro t s
  exact ⟨rfl, rfl, rfl, by decide, rfl,
    add_binds_unbound_entry t s "/src/a.cpp" "/src/a.cpp" gccPackage gccLanguage rfl rfl rfl (by decide) rfl⟩

theorem add_keeps_placeholder :
    let t := demoTarget gccRegistry
    let s := ((add (demoTarget LanguageStorage.empty) "/src/a.cpp").run (SourceFileStorage.empty false false)).state
    Reachable s ∧ (checkAbsolute t "/src/a.cpp" false).toOption = some (some "/src/a.cpp") ∧
      findPackageIdByExtension t ".cpp" = some gccPackage ∧
      (findLanguageByPackageId t gccPackage).map (·.address) = some gccLanguage.address ∧ t.headerOnly = none ∧
      (tracked s "/src/a.cpp").map (fun f => (f.created, f.postponed)) = some (false, false) ∧
      (tracked ((add t "/src/a.cpp").run s).state "/src/a.cpp").map (fun f => (f.created, f.native.isSome)) =
        some (false, false) := by
  intro t s
  exact ⟨.call _ (.add "/src/a.cpp") (.empty false false), by decide⟩

theorem readd_of_postponed_drops_settings :
    let t : Target := demoTarget pendingRegistry
    let s₁ := ((add t "/src/a.cpp").run (SourceFileStorage.empty false false)).state
    let s₂ := ((index t "/src/a.cpp" fun f => { f with args := ["-DX"] }).run s₁).state
    let s₃ := ((add t "/src/a.cpp").run s₂).state
    let a₁ := ((add t "/src/a.cpp").run (SourceFileStorage.empty true false)).state
    let a₂ := ((remove t "/src/a.cpp").run a₁).state
    let a₃ := ((add t "/src/a.cpp").run a₂).state
    (tracked s₂ "/src/a.cpp").map (fun f => (f.postponed, f.args)) = some (true, ["-DX"]) ∧
      (tracked s₃ "/src/a.cpp").map (fun f => (f.postponed, f.args)) = some (true, []) ∧
      (tracked a₂ "/src/a.cpp").map (·.skip) = some true ∧ (tracked a₃ "/src/a.cpp").map (·.skip) = some false := by
  decide

end Binding

end SourceFileStorage

end Sw
