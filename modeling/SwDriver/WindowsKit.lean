import Mathlib.Data.String.Basic
import SwDriver.Language

set_option autoImplicit false

namespace Sw

-- The Windows SDK lookup of compiler.cpp.
structure KitsDisk where
  majorKitExists : String → Bool
  kit10Include : List (String × Bool)

def majorWindowsKits : List String := ["10", "8.1", "8.0", "7.1A", "7.0A", "6.0A"]

-- *set.rbegin(); on an empty set, none.
def rbegin (names : List String) : Option String := (greatest (names.map String.toList)).map String.mk

def listMajorWindowsKits (disk : KitsDisk) : List String := majorWindowsKits.filter disk.majorKitExists

def listWindows10Kits (disk : KitsDisk) : List String := (disk.kit10Include.filter (·.2)).map (·.1)

def getLatestWindowsKit (disk : KitsDisk) : Option String :=
  let allkits := listMajorWindowsKits disk
  if "10" ∈ allkits then rbegin (listWindows10Kits disk) else rbegin allkits

def getWindowsKitDir (disk : KitsDisk) : Except String String :=
  match majorWindowsKits.find? disk.majorKitExists with
  | some k => .ok k
  | none => .error "No Windows Kits available"

def digitsValue (ds : List Char) : Nat := ds.foldl (fun n c => n * 10 + (c.toNat - '0'.toNat)) 0

/-- Modelled from the spec: Version is declared in primitives, outside this
repository. A name of dot-separated decimal numbers parses to them; any other name is
a branch or does not parse, and getWindowsKit10Dir skips both. -/
def parseVersion (name : String) : Option Version :=
  let fields := name.toList.splitOn '.'
  if fields.all fun f => !f.isEmpty && f.all Char.isDigit then some (fields.map digitsValue) else none

-- one pass of getWindowsKit10Dir's loop
def pickNewer (best : Version × Option String) (entry : String × Bool) : Version × Option String :=
  if !entry.2 then best
  else match parseVersion entry.1 with
    | some v => if best.1 < v then (v, some entry.1) else best
    | none => best

-- getWindowsKit10Dir(s, d) over the entries of d
def getWindowsKit10Dir (hostVersion : String) (entries : List (String × Bool)) : Except String String :=
  if entries.any (·.1 == hostVersion) then .ok hostVersion
  else
    match (entries.foldl pickNewer ([], none)).2 with
    | some name => .ok name
    | none => .error "No Windows Kits 10.0 available"

theorem parseVersion_ne_nil {name : String} {v : Version} (parsed : parseVersion name = some v) : v ≠ [] := by
  dsimp only [parseVersion] at parsed
  split at parsed
  · cases parsed
    simpa using List.splitOnP_ne_nil _ name.toList
  · cases parsed

section Pick

def PickInvariant (seen : List (String × Bool)) (best : Version × Option String) : Prop :=
  (∀ e ∈ seen, e.2 = true → ∀ w, parseVersion e.1 = some w → w ≤ best.1) ∧
    match best.2 with
    | none => best.1 = []
    | some name => (name, true) ∈ seen ∧ parseVersion name = some best.1

theorem pickNewer_invariant {seen : List (String × Bool)} {best : Version × Option String}
    (kept : PickInvariant seen best) (entry : String × Bool) : PickInvariant (seen ++ [entry]) (pickNewer best entry) := by
  obtain ⟨bounded, picked⟩ := kept
  obtain ⟨name, isDir⟩ := entry
  by_cases taken : isDir = true ∧ ∃ v, parseVersion name = some v ∧ best.1 < v
  · obtain ⟨dir, v, parsed, newer⟩ := taken
    simp only [pickNewer, dir, Bool.not_true, parsed, if_pos newer]
    refine ⟨fun e mem eDir w eParsed => ?_, List.mem_append_right _ (List.mem_singleton_self _), parsed⟩
    rcases List.mem_append.mp mem with old | new
    · exact (bounded e old eDir w eParsed).trans newer.le
    · obtain rfl := List.mem_singleton.mp new
      rw [parsed] at eParsed
      cases eParsed
      exact le_refl _
  · have same : pickNewer best (name, isDir) = best := by
      unfold pickNewer
      split
      · rfl
      · rename_i dir
        split
        · rename_i w parsedW
          exact if_neg fun newer => taken ⟨by simpa using dir, w, parsedW, newer⟩
        · rfl
    rw [same]
    refine ⟨fun e mem dir w parsed => ?_, ?_⟩
    · rcases List.mem_append.mp mem with old | new
      · exact bounded e old dir w parsed
      · obtain rfl := List.mem_singleton.mp new
        exact not_lt.mp fun newer => taken ⟨dir, w, parsed, newer⟩
    · cases pick : best.2 with
      | none => simpa [pick] using picked
      | some n => simp only [pick] at picked; exact ⟨List.mem_append_left _ picked.1, picked.2⟩

theorem foldl_pickNewer_invariant (entries : List (String × Bool)) {seen : List (String × Bool)}
    {best : Version × Option String} (kept : PickInvariant seen best) :
    PickInvariant (seen ++ entries) (entries.foldl pickNewer best) := by
  induction entries generalizing seen best with
  | nil => simpa using kept
  | cons entry rest ih => simpa using ih (pickNewer_invariant kept entry)

end Pick

theorem getWindowsKit10Dir_greatest (hostVersion : String) (entries : List (String × Bool))
    (hostMissing : ∀ e ∈ entries, e.1 ≠ hostVersion) :
    (∀ name, getWindowsKit10Dir hostVersion entries = .ok name →
      ∃ v, (name, true) ∈ entries ∧ parseVersion name = some v ∧
        ∀ e ∈ entries, e.2 = true → ∀ w, parseVersion e.1 = some w → w ≤ v) ∧
    (∀ e, getWindowsKit10Dir hostVersion entries = .error e → ∀ d ∈ entries, d.2 = true → parseVersion d.1 = none) := by
  have invariant := foldl_pickNewer_invariant entries (show PickInvariant [] ([], none) from ⟨by simp, rfl⟩)
  simp only [List.nil_append] at invariant
  have absent : entries.any (·.1 == hostVersion) = false := by simpa using hostMissing
  unfold getWindowsKit10Dir
  rw [if_neg (by simp [absent])]
  obtain ⟨bounded, picked⟩ := invariant
  split
  · rename_i name pick
    simp only [pick] at picked
    refine ⟨fun n found => ?_, fun e found => nomatch found⟩
    cases found
    exact ⟨_, picked.1, picked.2, bounded⟩
  · rename_i pick
    simp only [pick] at picked
    refine ⟨fun n found => (nomatch found), fun e _ d mem dir => ?_⟩
    cases parsed : parseVersion d.1 with
    | none => rfl
    | some w =>
        have least := bounded d mem dir w parsed
        rw [picked] at least
        cases w with
        | nil => exact absurd rfl (parseVersion_ne_nil parsed)
        | cons a l => exact absurd least (not_le.mpr List.Lex.nil)

theorem getWindowsKit10Dir_greatest_sdks :
    (∀ e ∈ [("10.0.10240.0", true), ("10.0.17134.0", true), ("wdf", true)], e.1 ≠ "10.0.22000.0") ∧
      getWindowsKit10Dir "10.0.22000.0" [("10.0.10240.0", true), ("10.0.17134.0", true), ("wdf", true)] =
        .ok "10.0.17134.0" ∧
      ∀ e ∈ [("10.0.10240.0", true), ("10.0.17134.0", true), ("wdf", true)], e.2 = true →
        ∀ w, parseVersion e.1 = some w → w ≤ [10, 0, 17134, 0] := by
  have missing : ∀ e ∈ [("10.0.10240.0", true), ("10.0.17134.0", true), ("wdf", true)], e.1 ≠ "10.0.22000.0" := by
    decide
  have ran : getWindowsKit10Dir "10.0.22000.0" [("10.0.10240.0", true), ("10.0.17134.0", true), ("wdf", true)] =
      .ok "10.0.17134.0" := rfl
  obtain ⟨v, -, parsed, greatest⟩ := (getWindowsKit10Dir_greatest "10.0.22000.0" _ missing).1 _ ran
  obtain rfl : v = [10, 0, 17134, 0] := Option.some.inj (parsed.symm.trans (by decide))
  exact ⟨missing, ran, greatest⟩

theorem getWindowsKit10Dir_unversioned (hostVersion : String) (entries : List (String × Bool))
    (hostMissing : ∀ e ∈ entries, e.1 ≠ hostVersion) (unversioned : ∀ e ∈ entries, e.2 = true → parseVersion e.1 = none) :
    getWindowsKit10Dir hostVersion entries = .error "No Windows Kits 10.0 available" := by
  obtain ⟨-, picked⟩ := foldl_pickNewer_invariant entries (show PickInvariant [] ([], none) from ⟨by simp, rfl⟩)
  have absent : entries.any (·.1 == hostVersion) = false := by simpa using hostMissing
  unfold getWindowsKit10Dir
  rw [if_neg (by simp [absent])]
  split
  · rename_i name pick
    simp only [pick, List.nil_append] at picked
    rw [unversioned _ picked.1 rfl] at picked
    cases picked.2
  · rfl

theorem getLatestWindowsKit_differs :
    let disk : KitsDisk := ⟨fun k => k == "10", [("10.0.10240.0", true), ("10.0.17134.0", true), ("wdf", true)]⟩
    let bare : KitsDisk := ⟨fun _ => false, []⟩
    let emptyKit10 : KitsDisk := ⟨fun k => k == "10", []⟩
    (getWindowsKitDir disk).toOption = some "10" ∧
      (getWindowsKit10Dir "10.0.22000.0" disk.kit10Include).toOption = some "10.0.17134.0" ∧
      getLatestWindowsKit disk = some "wdf" ∧
      getLatestWindowsKit bare = none ∧ getWindowsKitDir bare = .error "No Windows Kits available" ∧
      getLatestWindowsKit emptyKit10 = none ∧
      getWindowsKit10Dir "10.0.22000.0" emptyKit10.kit10Include = .error "No Windows Kits 10.0 available" := by
  intro disk bare emptyKit10
  exact ⟨by decide, by decide, by decide, by decide, rfl, by decide, rfl⟩

end Sw
