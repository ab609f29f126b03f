import SwDriver.Path
import Mathlib.Data.List.Nodup

set_option autoImplicit false

namespace Sw

-- enumerate_files1 (source_file.cpp)

-- A WIN32_FIND_DATA and, for a directory, what FindFirstFileEx lists inside it.
inductive FindEntry where
  | mk (fileName : String) (reparsePoint directory : Bool) (listing : Option (List FindEntry))

section Walk

variable (slash : Path → String → Path) (recursive : Bool)

mutual

def enumerateFiles1 (dir : Path) : Option (List FindEntry) → List Path
  | none => []
  | some entries => findLoop dir entries []

-- the do-while over FindNextFile
def findLoop (dir : Path) : List FindEntry → List Path → List Path
  | [], files => files
  | e :: rest, files => findLoop dir rest (visitEntry dir e files)

-- the loop body
def visitEntry (dir : Path) : FindEntry → List Path → List Path
  | .mk name reparsePoint directory listing, files =>
      if name = "." ∨ name = ".." then files
      else if reparsePoint then files
      else if directory then
        if recursive then (enumerateFiles1 (slash dir name) listing).foldl (fun acc f => acc.insert f) files
        else files
      else files.insert (slash dir name)

end

inductive Found : Path → Option (List FindEntry) → Path → Prop
  | file {dir : Path} {entries : List FindEntry} {name : String} {listing : Option (List FindEntry)}
      (listed : FindEntry.mk name false false listing ∈ entries) (real : name ≠ "." ∧ name ≠ "..") :
      Found dir (some entries) (slash dir name)
  | nested {dir : Path} {entries : List FindEntry} {name : String} {listing : Option (List FindEntry)} {f : Path}
      (listed : FindEntry.mk name false true listing ∈ entries) (real : name ≠ "." ∧ name ≠ "..")
      (descends : recursive = true) (below : Found (slash dir name) listing f) :
      Found dir (some entries) f

def Yields (inside : Path → Option (List FindEntry) → Path → Prop) (dir : Path) : FindEntry → Path → Prop
  | .mk name reparsePoint directory listing, f =>
      (name ≠ "." ∧ name ≠ "..") ∧ reparsePoint = false ∧
        (directory = false ∧ f = slash dir name ∨
          directory = true ∧ recursive = true ∧ inside (slash dir name) listing f)

theorem mem_foldl_insert (f : Path) (xs files : List Path) :
    f ∈ xs.foldl (fun acc f => acc.insert f) files ↔ f ∈ files ∨ f ∈ xs := by
  induction xs generalizing files with
  | nil => simp
  | cons x rest ih => rw [List.foldl_cons, ih, List.mem_insert_iff, List.mem_cons]; tauto

theorem nodup_foldl_insert (xs : List Path) {files : List Path} (distinct : files.Nodup) :
    (xs.foldl (fun acc f => acc.insert f) files).Nodup := by
  induction xs generalizing files with
  | nil => exact distinct
  | cons x rest ih => exact ih distinct.insert

theorem exists_mem_cons_iff {α : Type} {p : α → Prop} (a : α) (l : List α) :
    (∃ x ∈ a :: l, p x) ↔ p a ∨ ∃ x ∈ l, p x := by
  simp

theorem nodup_visitEntry (dir : Path) (e : FindEntry) {files : List Path} (distinct : files.Nodup) :
    (visitEntry slash recursive dir e files).Nodup := by
  obtain ⟨name, reparsePoint, directory, listing⟩ := e
  unfold visitEntry
  split_ifs
  all_goals first | exact distinct | exact distinct.insert | exact nodup_foldl_insert _ distinct

theorem nodup_findLoop (dir : Path) (entries : List FindEntry) {files : List Path} (distinct : files.Nodup) :
    (findLoop slash recursive dir entries files).Nodup := by
  induction entries generalizing files with
  | nil => exact distinct
  | cons e rest ih => exact ih (nodup_visitEntry slash recursive dir e distinct)

theorem mem_visitEntry (dir : Path) (e : FindEntry) (files : List Path) (f : Path) :
    f ∈ visitEntry slash recursive dir e files ↔
      f ∈ files ∨ Yields slash recursive (fun d l g => g ∈ enumerateFiles1 slash recursive d l) dir e f := by
  obtain ⟨name, reparsePoint, directory, listing⟩ := e
  by_cases special : name = "." ∨ name = ".."
  · have named : ¬(name ≠ "." ∧ name ≠ "..") := by tauto
    simp [visitEntry, special, Yields, named]
  · have named : name ≠ "." ∧ name ≠ ".." := by tauto
    cases reparsePoint <;> cases directory <;> cases recursive <;>
      simp [visitEntry, special, Yields, named, mem_foldl_insert, eq_comm (a := f), or_comm]

theorem mem_findLoop (dir : Path) (entries : List FindEntry) (files : List Path) (f : Path) :
    f ∈ findLoop slash recursive dir entries files ↔
      f ∈ files ∨ ∃ e ∈ entries, Yields slash recursive (fun d l g => g ∈ enumerateFiles1 slash recursive d l) dir e f := by
  induction entries generalizing files with
  | nil => simp [findLoop]
  | cons e rest ih => rw [findLoop, ih, mem_visitEntry, exists_mem_cons_iff, or_assoc]

theorem found_some_iff (dir : Path) (entries : List FindEntry) (f : Path) :
    Found slash recursive dir (some entries) f ↔ ∃ e ∈ entries, Yields slash recursive (Found slash recursive) dir e f := by
  constructor
  · rintro (⟨listed, real⟩ | ⟨listed, real, descends, below⟩)
    · exact ⟨_, listed, real, rfl, .inl ⟨rfl, rfl⟩⟩
    · exact ⟨_, listed, real, rfl, .inr ⟨rfl, descends, below⟩⟩
  · rintro ⟨⟨name, reparsePoint, directory, listing⟩, listed, real, rfl, ⟨rfl, rfl⟩ | ⟨rfl, descends, below⟩⟩
    · exact .file listed real
    · exact .nested listed real descends below

theorem not_found_none (dir f : Path) : ¬Found slash recursive dir none f := nofun

mutual

theorem mem_enumerateFiles1_iff :
    ∀ (dir : Path) (listing : Option (List FindEntry)) (f : Path),
      f ∈ enumerateFiles1 slash recursive dir listing ↔ Found slash recursive dir listing f
  | dir, none, f => by simp [enumerateFiles1, not_found_none]
  | dir, some entries, f => by
      rw [enumerateFiles1, mem_findLoop, found_some_iff]
      simpa using exists_yields_iff dir entries f

theorem exists_yields_iff :
    ∀ (dir : Path) (entries : List FindEntry) (f : Path),
      (∃ e ∈ entries, Yields slash recursive (fun d l g => g ∈ enumerateFiles1 slash recursive d l) dir e f) ↔
        ∃ e ∈ entries, Yields slash recursive (Found slash recursive) dir e f
  | _, [], _ => by simp
  | dir, e :: rest, f => by
      rw [exists_mem_cons_iff, exists_mem_cons_iff, yields_iff dir e f, exists_yields_iff dir rest f]

theorem yields_iff :
    ∀ (dir : Path) (e : FindEntry) (f : Path),
      Yields slash recursive (fun d l g => g ∈ enumerateFiles1 slash recursive d l) dir e f ↔
        Yields slash recursive (Found slash recursive) dir e f
  | dir, .mk name _ _ listing, f => by
      simp only [Yields, mem_enumerateFiles1_iff (slash dir name) listing f]

end

/-- enumerate_files1 returns each file once, exactly the files found below dir. -/
theorem enumerateFiles1_spec (dir : Path) (listing : Option (List FindEntry)) :
    (enumerateFiles1 slash recursive dir listing).Nodup ∧
      ∀ f, f ∈ enumerateFiles1 slash recursive dir listing ↔ Found slash recursive dir listing f := by
  refine ⟨?_, mem_enumerateFiles1_iff slash recursive dir listing⟩
  cases listing with
  | none => exact List.nodup_nil
  | some entries => exact nodup_findLoop slash recursive dir entries List.nodup_nil

example :
    enumerateFiles1 (fun d n => d ++ "\\" ++ n) true "C:"
      (some [.mk "." false true none, .mk ".." false true none, .mk "a.cpp" false false none,
        .mk "link" true true (some [.mk "x.cpp" false false none]),
        .mk "sub" false true (some [.mk "b.cpp" false false none])]) = ["C:\\sub\\b.cpp", "C:\\a.cpp"] := by
  decide

end Walk

end Sw
