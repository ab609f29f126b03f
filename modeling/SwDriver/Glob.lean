import SwDriver.Invariant

set_option autoImplicit false

namespace Sw

namespace SourceFileStorage

def relativeUnder (root : String) (p : Path) : Option String :=
  let s := (normalizePath p).toList
  if (root.toList ++ ['/']).isPrefixOf s then some (String.mk (s.drop (root.length + 1))) else none

-- The selection storage[r] is meant to make.
def globSelection (root : String) (r : String → Bool) (files : Map Path (Option SourceFile)) :
    Map Path (Option SourceFile) :=
  files.filter fun e => (relativeUnder root e.1).any r

theorem selectFiles_of_long (n : Nat) (r : String → Bool) (files : Map Path (Option SourceFile))
    (long : ∀ e ∈ files, n + 1 ≤ (normalizePath e.1).length) :
    selectFiles n r files = .ok (files.filter fun e => r (String.mk ((normalizePath e.1).toList.drop (n + 1)))) := by
  induction files with
  | nil => rfl
  | cons e rest ih =>
      obtain ⟨p, f⟩ := e
      have cut := long (p, f) (List.mem_cons_self _ rest)
      simp only [selectFiles, substr, if_pos cut, ih fun e mem => long e (List.mem_cons_of_mem _ mem),
        List.filter_cons]
      rfl

theorem relativeUnder_eq_some {root : String} {p : Path} {rel : String} (under : relativeUnder root p = some rel) :
    root.length + 1 ≤ (normalizePath p).length ∧ String.mk ((normalizePath p).toList.drop (root.length + 1)) = rel := by
  dsimp only [relativeUnder] at under
  split at under
  case isFalse => cases under
  case isTrue pre =>
    cases under
    obtain ⟨tail, split⟩ := List.isPrefixOf_iff_prefix.mp pre
    have length := congrArg List.length split
    simp only [List.length_append, List.length_singleton] at length
    exact ⟨by simp only [String.length, ← length, String.toList] at *; omega, rfl⟩

theorem enumerateFiles_of_under_root (t : Target) (s : SourceFileStorage) (r : FileRegex)
    (under : ∀ e ∈ s.files,
      (relativeUnder (dropTrailingSeparator (normalizePath (globRoot t r))) e.1).isSome) :
    enumerateFiles t s r = .ok (globSelection (dropTrailingSeparator (normalizePath (globRoot t r))) r.r s.files) := by
  have cut : ∀ e ∈ s.files, ∃ rel, relativeUnder _ e.1 = some rel := fun e mem =>
    Option.isSome_iff_exists.mp (under e mem)
  unfold enumerateFiles globSelection
  rw [selectFiles_of_long _ _ _ fun e mem => (relativeUnder_eq_some (cut e mem).choose_spec).1]
  refine congrArg Except.ok (List.filter_congr fun e mem => ?_)
  obtain ⟨rel, found⟩ := cut e mem
  rw [found, (relativeUnder_eq_some found).2]
  rfl

theorem enumerateFiles_of_under_root_src :
    let t : Target := demoTarget gccRegistry
    let s := ((addFiles t ["/src/a.cpp", "/src/b.h"]).run (SourceFileStorage.empty false false)).state
    let r : FileRegex := ⟨"/src", fun rel => extension rel = ".cpp", true⟩
    (∀ e ∈ s.files, (relativeUnder (dropTrailingSeparator (normalizePath (globRoot t r))) e.1).isSome) ∧
      enumerateFiles t s r = .ok (globSelection (dropTrailingSeparator (normalizePath (globRoot t r))) r.r s.files) ∧
      (globSelection (dropTrailingSeparator (normalizePath (globRoot t r))) r.r s.files).map (·.1) = ["/src/a.cpp"] := by
  intro t s r
  have under : ∀ e ∈ s.files, (relativeUnder (dropTrailingSeparator (normalizePath (globRoot t r))) e.1).isSome := by
    decide
  exact ⟨under, enumerateFiles_of_under_root t s r under, by decide⟩

theorem enumerate_files_unchecked_substr :
    let t : Target := demoTarget gccRegistry
    let s := ((addFiles t ["/src/a.cpp", "/src/b.h"]).run (SourceFileStorage.empty false false)).state
    let outside : FileRegex := ⟨"/sr", fun rel => extension rel = ".cpp", true⟩
    let nested : FileRegex := ⟨"include", fun _ => true, true⟩
    Reachable s ∧ s.files.map (·.1) = ["/src/a.cpp", "/src/b.h"] ∧
      (enumerateFiles t s outside).toOption.map (·.map (·.1)) = some ["/src/a.cpp"] ∧
      (globSelection (dropTrailingSeparator (normalizePath (globRoot t outside))) outside.r s.files).isEmpty ∧
      (enumerateFiles t s nested).map (fun _ => ()) = .error "basic_string::substr" := by
  intro t s outside nested
  exact ⟨.call t (.addFiles _) (.empty false false), by decide, by decide, by decide, rfl⟩

end SourceFileStorage

end Sw
