import SwDriver.Language

set_option autoImplicit false

namespace Sw

-- Whole runs of registrations and activations on one LanguageStorage.

inductive RegistryCall where
  | registerProgram (pkg : PackageId) (p : Program)
  | registerProgramByPath (pp : PackagePath) (p : Program)
  | registerLanguage (pkg : PackageId) (L : Language)
  | registerProgramAndLanguage (pkg : PackageId) (p : Program) (L : Language)
  | registerProgramAndLanguageByPath (pp : PackagePath) (p : Program) (L : Language)
  | activateLanguage (pkg : PackageId)
  | activateLanguageByPath (pp : PackagePath)

namespace RegistryCall

def programAt : RegistryCall → PackageId → Option Program
  | registerProgram pkg p, q | registerProgramAndLanguage pkg p _, q => if pkg = q then some p else none
  | registerProgramByPath pp p, q | registerProgramAndLanguageByPath pp p _, q =>
      if (⟨pp, p.version⟩ : PackageId) = q then some p else none
  | _, _ => none

def languageAt : RegistryCall → PackageId → Option Language
  | registerLanguage pkg L, q | registerProgramAndLanguage pkg _ L, q => if pkg = q then some L else none
  | registerProgramAndLanguageByPath pp p L, q => if (⟨pp, p.version⟩ : PackageId) = q then some L else none
  | _, _ => none

end RegistryCall

def lastRegistered {X : Type} (initial : Option X) (registers : RegistryCall → Option X)
    (calls : List RegistryCall) : Option X :=
  (calls.reverse.findSome? registers).orElse fun _ => initial

theorem lastRegistered_concat {X : Type} (initial : Option X) (registers : RegistryCall → Option X)
    (calls : List RegistryCall) (c : RegistryCall) :
    lastRegistered initial registers (calls ++ [c]) =
      (registers c).orElse fun _ => lastRegistered initial registers calls := by
  cases hit : registers c <;> simp [lastRegistered, List.findSome?_cons, hit]

namespace LanguageStorage

def call (s : LanguageStorage) : RegistryCall → LanguageStorage
  | .registerProgram pkg p => s.registerProgram pkg p
  | .registerProgramByPath pp p => s.registerProgramByPath pp p
  | .registerLanguage pkg L => s.registerLanguage pkg L
  | .registerProgramAndLanguage pkg p L => s.registerProgramAndLanguage pkg p L
  | .registerProgramAndLanguageByPath pp p L => s.registerProgramAndLanguageByPath pp p L
  | .activateLanguage pkg => (s.activateLanguage pkg).2
  | .activateLanguageByPath pp => (s.activateLanguageByPath pp).2

def run (s : LanguageStorage) (calls : List RegistryCall) : LanguageStorage := calls.foldl call s

@[simp] theorem run_nil (s : LanguageStorage) : s.run [] = s := rfl

theorem run_append (s : LanguageStorage) (calls more : List RegistryCall) :
    s.run (calls ++ more) = (s.run calls).run more := by
  simp [run, List.foldl_append]

theorem run_concat (s : LanguageStorage) (calls : List RegistryCall) (c : RegistryCall) :
    s.run (calls ++ [c]) = (s.run calls).call c := by
  simp [run_append, run]

variable (s : LanguageStorage)

theorem activateLanguageByPath_getLanguage (pp : PackagePath) (q : PackageId) :
    (s.activateLanguageByPath pp).2.getLanguage q = s.getLanguage q := by
  rw [activateLanguageByPath_eq]
  split
  · exact touchLanguages_findVersion s pp q
  · exact activateLanguage_getLanguage s _ q

theorem activateLanguageByPath_getProgram (pp : PackagePath) (q : PackageId) :
    (s.activateLanguageByPath pp).2.getProgram q = s.getProgram q := by
  rw [activateLanguageByPath_eq]
  split
  · rfl
  · exact activateLanguage_getProgram s _ q

theorem getProgram_call (c : RegistryCall) (q : PackageId) :
    (s.call c).getProgram q = (c.programAt q).orElse fun _ => s.getProgram q := by
  cases c <;>
    simp [call, RegistryCall.programAt, registerProgramByPath, registerProgramAndLanguage,
      registerProgramAndLanguageByPath, activateLanguageByPath_getProgram] <;>
    split <;> simp [*]

theorem getLanguage_call (c : RegistryCall) (q : PackageId) :
    (s.call c).getLanguage q = (c.languageAt q).orElse fun _ => s.getLanguage q := by
  cases c <;>
    simp [call, RegistryCall.languageAt, registerProgramByPath, registerProgramAndLanguage,
      registerProgramAndLanguageByPath, activateLanguageByPath_getLanguage] <;>
    split <;> simp [*]

theorem getProgram_run (calls : List RegistryCall) (q : PackageId) :
    (s.run calls).getProgram q = lastRegistered (s.getProgram q) (·.programAt q) calls := by
  induction calls using List.reverseRecOn with
  | nil => rfl
  | append_singleton calls c ih => rw [run_concat, getProgram_call, ih, lastRegistered_concat]

theorem getLanguage_run (calls : List RegistryCall) (q : PackageId) :
    (s.run calls).getLanguage q = lastRegistered (s.getLanguage q) (·.languageAt q) calls := by
  induction calls using List.reverseRecOn with
  | nil => rfl
  | append_singleton calls c ih => rw [run_concat, getLanguage_call, ih, lastRegistered_concat]

theorem greatest_keys_of_isLatest {X : Type} (inner : Map Version X) {v : Version}
    (latest : IsLatest inner.get? v) : greatest inner.keys = some v := by
  cases found : greatest inner.keys with
  | none =>
      have empty := greatest_eq_none.mp found
      have member := (Map.mem_keys_iff inner v).mpr latest.1
      simp [empty] at member
  | some g =>
      have top : IsLatest inner.get? g :=
        ⟨(Map.mem_keys_iff inner g).mp (greatest_mem found),
          fun w present => le_greatest ((Map.mem_keys_iff inner w).mpr present) found⟩
      rw [isLatest_unique top latest]

theorem greatest_keys_of_none {X : Type} (inner : Map Version X) (absent : ∀ w, inner.get? w = none) :
    greatest inner.keys = none := by
  cases found : greatest inner.keys with
  | none => rfl
  | some g => simpa [absent] using (Map.mem_keys_iff inner g).mp (greatest_mem found)

theorem languages_lookup (pp : PackagePath) (w : Version) :
    s.getLanguage ⟨pp, w⟩ = ((s.userDefinedLanguages.get? pp).getD []).get? w :=
  findVersion_eq _ _

theorem activateLanguageByPath_latest (pp : PackagePath) (v : Version)
    (latest : IsLatest (fun w => s.getLanguage ⟨pp, w⟩) v) :
    s.activateLanguageByPath pp = s.activateLanguage ⟨pp, v⟩ := by
  have top : IsLatest ((s.userDefinedLanguages.get? pp).getD []).get? v := by
    simpa only [languages_lookup] using latest
  rw [activateLanguageByPath_eq, greatest_keys_of_isLatest _ top]

theorem activateLanguageByPath_none (pp : PackagePath) (absent : ∀ w, s.getLanguage ⟨pp, w⟩ = none) :
    s.activateLanguageByPath pp = (false, s.touchLanguages pp) := by
  rw [activateLanguageByPath_eq, greatest_keys_of_none]
  simpa only [languages_lookup] using absent

def claim : RegistryCall → Option (PackageId × Language)
  | .activateLanguage pkg => (s.getLanguage pkg).map (pkg, ·)
  | .activateLanguageByPath pp =>
      match greatest ((s.userDefinedLanguages.get? pp).getD []).keys with
      | none => none
      | some v => (s.getLanguage ⟨pp, v⟩).map (⟨pp, v⟩, ·)
  | _ => none

theorem activateLanguage_find (pkg : PackageId) (e : String) :
    (s.activateLanguage pkg).2.findPackageIdByExtension e =
      match s.getLanguage pkg with
      | none => s.findPackageIdByExtension e
      | some L => if e ∈ L.compiledExtensions then some pkg else s.findPackageIdByExtension e :=
  activateLanguage_extension s pkg e

theorem find_call (c : RegistryCall) (e : String) :
    (s.call c).findPackageIdByExtension e =
      match s.claim c with
      | none => s.findPackageIdByExtension e
      | some (pkg, L) => if e ∈ L.compiledExtensions then some pkg else s.findPackageIdByExtension e := by
  cases c with
  | activateLanguage pkg =>
      simp only [call, claim, activateLanguage_find]
      cases s.getLanguage pkg <;> rfl
  | activateLanguageByPath pp =>
      simp only [call, claim, activateLanguageByPath_eq]
      cases greatest ((s.userDefinedLanguages.get? pp).getD []).keys with
      | none => rfl
      | some v =>
          simp only [activateLanguage_find]
          cases s.getLanguage ⟨pp, v⟩ <;> rfl
  | _ => rfl

def Unclaimed (e : String) : LanguageStorage → List RegistryCall → Prop
  | _, [] => True
  | t, c :: cs => (∀ pkg L, t.claim c = some (pkg, L) → e ∉ L.compiledExtensions) ∧ Unclaimed e (t.call c) cs

theorem find_run_of_unclaimed (calls : List RegistryCall) (e : String) (unclaimed : Unclaimed e s calls) :
    (s.run calls).findPackageIdByExtension e = s.findPackageIdByExtension e := by
  induction calls generalizing s with
  | nil => rfl
  | cons c cs ih =>
      obtain ⟨here, later⟩ := unclaimed
      change ((s.call c).run cs).findPackageIdByExtension e = _
      rw [ih _ later, find_call]
      cases claimed : s.claim c with
      | none => rfl
      | some entry => simp [here entry.1 entry.2 claimed]

theorem find_run_last_claim (pre post : List RegistryCall) (c : RegistryCall) (e : String) (pkg : PackageId)
    (L : Language) (claimed : (s.run pre).claim c = some (pkg, L)) (listed : e ∈ L.compiledExtensions)
    (unclaimed : Unclaimed e ((s.run pre).call c) post) :
    (s.run (pre ++ c :: post)).findPackageIdByExtension e = some pkg := by
  rw [run_append]
  change (((s.run pre).call c).run post).findPackageIdByExtension e = _
  rw [find_run_of_unclaimed _ _ _ unclaimed, find_call, claimed]
  simp [listed]

theorem findLatest_run {X : Type} (m : Map PackagePath (Map Version X)) (pp : PackagePath)
    (f : Version → Option X) (lookup : ∀ w, findVersion m ⟨pp, w⟩ = f w) :
    ((∀ v, f v = none) ∧ findLatest m pp = none) ∨ ∃ v, IsLatest f v ∧ findLatest m pp = f v := by
  have spec := findLatest_spec m pp
  simp only [lookup] at spec
  exact spec

end LanguageStorage

open LanguageStorage in
theorem registry_store_semantics (s : LanguageStorage) (calls : List RegistryCall) (pp : PackagePath)
    (pkg : PackageId) (e : String) :
    let t := s.run calls
    let programAt := fun v => lastRegistered (s.getProgram ⟨pp, v⟩) (·.programAt ⟨pp, v⟩) calls
    let languageAt := fun v => lastRegistered (s.getLanguage ⟨pp, v⟩) (·.languageAt ⟨pp, v⟩) calls
    (∀ q, t.getProgram q = lastRegistered (s.getProgram q) (·.programAt q) calls) ∧
    (∀ q, t.getLanguage q = lastRegistered (s.getLanguage q) (·.languageAt q) calls) ∧
    ((∀ v, programAt v = none) ∧ t.getProgramByPath pp = none ∨
      ∃ v, IsLatest programAt v ∧ t.getProgramByPath pp = programAt v) ∧
    ((∀ v, languageAt v = none) ∧ t.getLanguageByPath pp = none ∨
      ∃ v, IsLatest languageAt v ∧ t.getLanguageByPath pp = languageAt v) ∧
    (∀ v, IsLatest languageAt v → t.activateLanguageByPath pp = t.activateLanguage ⟨pp, v⟩) ∧
    ((∀ v, languageAt v = none) → (t.activateLanguageByPath pp).1 = false ∧
      (t.activateLanguageByPath pp).2.findPackageIdByExtension e = t.findPackageIdByExtension e) ∧
    (t.getLanguage pkg = none → (t.activateLanguage pkg).1 = false ∧
      (t.activateLanguage pkg).2.findPackageIdByExtension e = t.findPackageIdByExtension e) ∧
    (∀ L, t.getLanguage pkg = some L → (t.activateLanguage pkg).1 = true ∧
      (t.activateLanguage pkg).2.findPackageIdByExtension e =
        if e ∈ L.compiledExtensions then some pkg else t.findPackageIdByExtension e) ∧
    ((t.activateLanguage pkg).2.activateLanguage pkg).2.findPackageIdByExtension e =
      (t.activateLanguage pkg).2.findPackageIdByExtension e ∧
    (∀ pre c post q L, calls = pre ++ c :: post → (s.run pre).claim c = some (q, L) →
      e ∈ L.compiledExtensions → Unclaimed e ((s.run pre).call c) post →
      t.findPackageIdByExtension e = some q) := by
  intro t programAt languageAt
  have languages : ∀ w, t.getLanguage ⟨pp, w⟩ = languageAt w := fun w => getLanguage_run s calls _
  refine ⟨getProgram_run s calls, getLanguage_run s calls,
    findLatest_run _ pp programAt fun w => getProgram_run s calls _,
    findLatest_run _ pp languageAt languages, fun v latest => ?_, fun absent => ?_, fun absent => ?_,
    fun L found => ?_, ?_, fun pre c post q L split claimed listed unclaimed => ?_⟩
  · exact activateLanguageByPath_latest t pp v (by simpa only [languages] using latest)
  · rw [activateLanguageByPath_none t pp (by simpa only [languages] using absent)]
    exact ⟨rfl, rfl⟩
  · simp [activateLanguage_result, activateLanguage_find, absent]
  · simp [activateLanguage_result, activateLanguage_find, found]
  · rw [activateLanguage_find, activateLanguage_getLanguage, activateLanguage_find]
    cases t.getLanguage pkg with
    | none => rfl
    | some L => by_cases listed : e ∈ L.compiledExtensions <;> simp [listed]
  · simp only [t, split]
    exact find_run_last_claim s pre post c e q L claimed listed unclaimed

end Sw
