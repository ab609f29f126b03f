import Mathlib.Data.List.Lex
import SwDriver.Map
import SwDriver.Compiler

set_option autoImplicit false

namespace Sw

-- LanguageStorage (language.cpp)
abbrev Version := List Nat

/-- Modelled from the spec: sw::PackagePath is declared in package_path.h, outside this
repository. A value is modelled by its text, as toString() prints it; its constructor,
isRelative and toString are those of ProjectPath in project_path.cpp (Sw.pathOf reads the
elements back). -/
abbrev PackagePath := String

structure PackageId where
  ppath : PackagePath
  version : Version
deriving DecidableEq, Repr

structure Program where
  address : Nat
  version : Version
deriving DecidableEq, Repr

structure Language where
  address : Nat
  compiledExtensions : List String
  compiler : NativeCompiler

structure LanguageStorage where
  registeredPrograms : Map PackagePath (Map Version Program)
  userDefinedLanguages : Map PackagePath (Map Version Language)
  extensions : Map String PackageId

/-- Modelled from the spec: PackageId::empty and the conversion of a string to a
PackageId are declared outside this repository; an id is empty when its path is,
and the synthetic id "loc.sw.lang<address>" has that text as its path and the
default version. -/
def PackageId.empty (pkg : PackageId) : Bool := pkg.ppath.isEmpty

def PackageId.none : PackageId := ⟨"", []⟩

def syntheticPackage (L : Language) : PackageId := ⟨"loc.sw.lang" ++ toString L.address, []⟩

-- m[k1][k2] = v
def setNested {K₁ K₂ V : Type} [DecidableEq K₁] [DecidableEq K₂] (m : Map K₁ (Map K₂ V)) (k₁ : K₁) (k₂ : K₂)
    (v : V) : Map K₁ (Map K₂ V) :=
  m.set k₁ (((m.get? k₁).getD []).set k₂ v)

def findVersion {X : Type} (m : Map PackagePath (Map Version X)) (pkg : PackageId) : Option X :=
  match m.get? pkg.ppath with
  | none => none
  | some v => if v.isEmpty then none else v.get? pkg.version

def findLatest {X : Type} (m : Map PackagePath (Map Version X)) (pp : PackagePath) : Option X :=
  match m.get? pp with
  | none => none
  | some v => match greatest v.keys with
    | none => none
    | some latest => findVersion m ⟨pp, latest⟩

namespace LanguageStorage

def empty : LanguageStorage := ⟨[], [], []⟩

def registerProgram (s : LanguageStorage) (pkg : PackageId) (p : Program) : LanguageStorage :=
  { s with registeredPrograms := setNested s.registeredPrograms pkg.ppath pkg.version p }

def registerProgramByPath (s : LanguageStorage) (pp : PackagePath) (p : Program) : LanguageStorage :=
  s.registerProgram ⟨pp, p.version⟩ p

def registerLanguage (s : LanguageStorage) (pkg : PackageId) (L : Language) : LanguageStorage :=
  { s with userDefinedLanguages := setNested s.userDefinedLanguages pkg.ppath pkg.version L }

def registerProgramAndLanguage (s : LanguageStorage) (pkg : PackageId) (p : Program) (L : Language) :
    LanguageStorage :=
  (s.registerProgram pkg p).registerLanguage pkg L

def registerProgramAndLanguageByPath (s : LanguageStorage) (pp : PackagePath) (p : Program) (L : Language) :
    LanguageStorage :=
  s.registerProgramAndLanguage ⟨pp, p.version⟩ p L

def setExtensionPackage (s : LanguageStorage) (ext : String) (pkg : PackageId) : LanguageStorage :=
  { s with extensions := s.extensions.set ext pkg }

-- setExtensionLanguage(ext, L)
def setExtensionLanguage (s : LanguageStorage) (ext : String) (L : Language) : LanguageStorage :=
  let bound := (s.extensions.get? ext).getD PackageId.none
  let pkg := if bound.empty then syntheticPackage L else bound
  { s with extensions := s.extensions.set ext pkg,
           userDefinedLanguages := setNested s.userDefinedLanguages pkg.ppath pkg.version L }

-- activateLanguage(pkg): the version map is copied, so v[pkg.version] inserts only into the copy.
def touchLanguages (s : LanguageStorage) (pp : PackagePath) : LanguageStorage :=
  { s with userDefinedLanguages := (s.userDefinedLanguages.index pp []).2 }

def activateLanguage (s : LanguageStorage) (pkg : PackageId) : Bool × LanguageStorage :=
  let s := s.touchLanguages pkg.ppath
  let v := (s.userDefinedLanguages.get? pkg.ppath).getD []
  if v.isEmpty then (false, s)
  else match v.get? pkg.version with
    | none => (false, s)
    | some L => (true, { s with extensions := L.compiledExtensions.foldl (fun m l => m.set l pkg) s.extensions })

-- activateLanguage(pp)
def activateLanguageByPath (s : LanguageStorage) (pp : PackagePath) : Bool × LanguageStorage :=
  let s := s.touchLanguages pp
  match greatest ((s.userDefinedLanguages.get? pp).getD []).keys with
  | none => (false, s)
  | some latest => s.activateLanguage ⟨pp, latest⟩

def getLanguage (s : LanguageStorage) (pkg : PackageId) : Option Language := findVersion s.userDefinedLanguages pkg

def getLanguageByPath (s : LanguageStorage) (pp : PackagePath) : Option Language :=
  findLatest s.userDefinedLanguages pp

def getProgram (s : LanguageStorage) (pkg : PackageId) : Option Program := findVersion s.registeredPrograms pkg

def getProgramByPath (s : LanguageStorage) (pp : PackagePath) : Option Program := findLatest s.registeredPrograms pp

def findPackageIdByExtension (s : LanguageStorage) (ext : String) : Option PackageId := s.extensions.get? ext

def findLanguageByExtension (s : LanguageStorage) (ext : String) : Option Language :=
  match s.findPackageIdByExtension ext with
  | none => none
  | some pkg => s.getLanguage pkg

def findProgramByExtension (s : LanguageStorage) (ext : String) : Option Program :=
  match s.findPackageIdByExtension ext with
  | none => none
  | some pkg => s.getProgram pkg

end LanguageStorage

section Lookup

variable {X : Type} (m : Map PackagePath (Map Version X))

theorem findVersion_eq (pkg : PackageId) :
    findVersion m pkg = ((m.get? pkg.ppath).getD []).get? pkg.version := by
  unfold findVersion
  cases m.get? pkg.ppath with
  | none => rfl
  | some v => cases v <;> rfl

theorem findVersion_setNested (pkg q : PackageId) (x : X) :
    findVersion (setNested m pkg.ppath pkg.version x) q = if pkg = q then some x else findVersion m q := by
  simp only [findVersion_eq, setNested, Map.get?_set]
  by_cases samePath : pkg.ppath = q.ppath
  · by_cases sameVersion : pkg.version = q.version
    · have same : pkg = q := by cases pkg; cases q; simp_all
      simp [same]
    · have different : pkg ≠ q := fun h => sameVersion (h ▸ rfl)
      simp [samePath, different, Map.get?_set_of_ne _ _ sameVersion]
  · have different : pkg ≠ q := fun h => samePath (h ▸ rfl)
    simp [samePath, different]

def IsLatest (f : Version → Option X) (v : Version) : Prop := (f v).isSome ∧ ∀ w, (f w).isSome → w ≤ v

theorem isLatest_unique {f : Version → Option X} {v w : Version} (first : IsLatest f v) (second : IsLatest f w) :
    v = w :=
  le_antisymm (second.2 v first.1) (first.2 w second.1)

theorem findLatest_spec (pp : PackagePath) :
    ((∀ v, findVersion m ⟨pp, v⟩ = none) ∧ findLatest m pp = none) ∨
      ∃ v, IsLatest (fun w => findVersion m ⟨pp, w⟩) v ∧ findLatest m pp = findVersion m ⟨pp, v⟩ := by
  cases found : m.get? pp with
  | none => exact .inl ⟨fun v => by simp [findVersion_eq, found], by simp [findLatest, found]⟩
  | some inner =>
      have lookup : ∀ w, findVersion m ⟨pp, w⟩ = inner.get? w := fun w => by simp [findVersion_eq, found]
      cases latest : greatest inner.keys with
      | none =>
          have empty : inner = [] := by simpa [Map.keys] using greatest_eq_none.mp latest
          exact .inl ⟨fun v => by simp [lookup, empty], by simp [findLatest, found, latest]⟩
      | some top =>
          refine .inr ⟨top, ⟨?_, fun w present => ?_⟩, by simp [findLatest, found, latest]⟩
          · simpa [lookup] using (Map.mem_keys_iff inner top).mp (greatest_mem latest)
          · exact le_greatest ((Map.mem_keys_iff inner w).mpr (by simpa [lookup] using present)) latest

end Lookup

namespace LanguageStorage

variable (s : LanguageStorage)

@[simp] theorem getLanguage_registerLanguage (pkg q : PackageId) (L : Language) :
    (s.registerLanguage pkg L).getLanguage q = if pkg = q then some L else s.getLanguage q :=
  findVersion_setNested _ pkg q L

@[simp] theorem getProgram_registerProgram (pkg q : PackageId) (p : Program) :
    (s.registerProgram pkg p).getProgram q = if pkg = q then some p else s.getProgram q :=
  findVersion_setNested _ pkg q p

@[simp] theorem getProgram_registerLanguage (pkg q : PackageId) (L : Language) :
    (s.registerLanguage pkg L).getProgram q = s.getProgram q := rfl

@[simp] theorem getLanguage_registerProgram (pkg q : PackageId) (p : Program) :
    (s.registerProgram pkg p).getLanguage q = s.getLanguage q := rfl

@[simp] theorem registerLanguage_registeredPrograms (pkg : PackageId) (L : Language) :
    (s.registerLanguage pkg L).registeredPrograms = s.registeredPrograms := rfl

@[simp] theorem registerProgram_userDefinedLanguages (pkg : PackageId) (p : Program) :
    (s.registerProgram pkg p).userDefinedLanguages = s.userDefinedLanguages := rfl

@[simp] theorem registerLanguage_extensions (pkg : PackageId) (L : Language) :
    (s.registerLanguage pkg L).extensions = s.extensions := rfl

@[simp] theorem registerProgram_extensions (pkg : PackageId) (p : Program) :
    (s.registerProgram pkg p).extensions = s.extensions := rfl

@[simp] theorem touchLanguages_extensions (pp : PackagePath) : (s.touchLanguages pp).extensions = s.extensions :=
  rfl

@[simp] theorem touchLanguages_registeredPrograms (pp : PackagePath) :
    (s.touchLanguages pp).registeredPrograms = s.registeredPrograms := rfl

@[simp] theorem touchLanguages_findVersion (pp : PackagePath) (q : PackageId) :
    findVersion (s.touchLanguages pp).userDefinedLanguages q = findVersion s.userDefinedLanguages q := by
  simp only [touchLanguages, findVersion_eq, Map.get?_index]
  split <;> simp_all

@[simp] theorem getLanguage_touchLanguages (pp : PackagePath) (q : PackageId) :
    (s.touchLanguages pp).getLanguage q = s.getLanguage q :=
  touchLanguages_findVersion s pp q

theorem activateLanguage_eq (pkg : PackageId) :
    s.activateLanguage pkg =
      match s.getLanguage pkg with
      | none => (false, s.touchLanguages pkg.ppath)
      | some L => (true, { s.touchLanguages pkg.ppath with
          extensions := L.compiledExtensions.foldl (fun m l => m.set l pkg) s.extensions }) := by
  have lookup : (((s.touchLanguages pkg.ppath).userDefinedLanguages.get? pkg.ppath).getD []).get? pkg.version =
      s.getLanguage pkg := by
    rw [← findVersion_eq]
    exact touchLanguages_findVersion s pkg.ppath pkg
  unfold activateLanguage
  dsimp only
  rw [← lookup]
  generalize ((s.touchLanguages pkg.ppath).userDefinedLanguages.get? pkg.ppath).getD [] = v
  cases v <;> rfl

theorem touchLanguages_touchLanguages (pp : PackagePath) :
    (s.touchLanguages pp).touchLanguages pp = s.touchLanguages pp := by
  simp only [touchLanguages, LanguageStorage.mk.injEq, and_true, true_and]
  rw [Map.index_snd _ pp [], Map.get?_index]
  simp

@[simp] theorem activateLanguage_registeredPrograms (pkg : PackageId) :
    (s.activateLanguage pkg).2.registeredPrograms = s.registeredPrograms := by
  rw [activateLanguage_eq]
  split <;> rfl

@[simp] theorem activateLanguage_getProgram (pkg q : PackageId) :
    (s.activateLanguage pkg).2.getProgram q = s.getProgram q := by
  simp [getProgram]

@[simp] theorem activateLanguage_getLanguage (pkg q : PackageId) :
    (s.activateLanguage pkg).2.getLanguage q = s.getLanguage q := by
  rw [activateLanguage_eq]
  split <;> exact touchLanguages_findVersion s pkg.ppath q

theorem activateLanguage_extension (pkg : PackageId) (e : String) :
    (s.activateLanguage pkg).2.extensions.get? e =
      match s.getLanguage pkg with
      | none => s.extensions.get? e
      | some L => if e ∈ L.compiledExtensions then some pkg else s.extensions.get? e := by
  rw [activateLanguage_eq]
  split <;> simp [Map.get?_foldl_set]

theorem activateLanguage_result (pkg : PackageId) :
    (s.activateLanguage pkg).1 = (s.getLanguage pkg).isSome := by
  rw [activateLanguage_eq]
  split <;> simp_all

theorem activateLanguageByPath_eq (pp : PackagePath) :
    s.activateLanguageByPath pp =
      match greatest ((s.userDefinedLanguages.get? pp).getD []).keys with
      | none => (false, s.touchLanguages pp)
      | some latest => s.activateLanguage ⟨pp, latest⟩ := by
  have inner : ((s.touchLanguages pp).userDefinedLanguages.get? pp).getD [] = (s.userDefinedLanguages.get? pp).getD [] := by
    simp only [touchLanguages, Map.get?_index, ite_true]
    cases s.userDefinedLanguages.get? pp <;> rfl
  unfold activateLanguageByPath
  dsimp only
  rw [inner]
  split
  · rfl
  · unfold activateLanguage
    dsimp only
    rw [touchLanguages_touchLanguages]

theorem findLanguageByExtension_eq (e : String) :
    s.findLanguageByExtension e = (s.findPackageIdByExtension e).bind s.getLanguage := by
  unfold findLanguageByExtension
  cases s.findPackageIdByExtension e <;> rfl

theorem setExtensionLanguage_rebinds_package (e : String) (L : Language) :
    let s' := s.setExtensionLanguage e L
    s'.findLanguageByExtension e = some L ∧
      ∀ e', e' ≠ e →
        s'.findPackageIdByExtension e' = s.findPackageIdByExtension e' ∧
          s'.findLanguageByExtension e' =
            if s.findPackageIdByExtension e' = s'.findPackageIdByExtension e then some L
            else s.findLanguageByExtension e' := by
  intro s'
  obtain ⟨pkg, bound, lookup⟩ : ∃ pkg, s'.findPackageIdByExtension e = some pkg ∧
      ∀ q, s'.getLanguage q = if pkg = q then some L else s.getLanguage q :=
    ⟨_, by simp [s', setExtensionLanguage, findPackageIdByExtension],
      fun q => findVersion_setNested _ _ q L⟩
  have others : ∀ e', e' ≠ e → s'.findPackageIdByExtension e' = s.findPackageIdByExtension e' :=
    fun e' different => Map.get?_set_of_ne _ _ (Ne.symm different)
  refine ⟨by simp [findLanguageByExtension_eq, bound, lookup], fun e' different => ⟨others e' different, ?_⟩⟩
  rw [findLanguageByExtension_eq, findLanguageByExtension_eq, others e' different, bound]
  cases s.findPackageIdByExtension e' with
  | none => simp
  | some q => by_cases same : pkg = q <;> simp [lookup, same, eq_comm]

end LanguageStorage

def sampleCompiler : NativeCompiler := ⟨.gnu, "/usr/bin/g++", ⟨none, none, none, none, none⟩, [], [], [], none⟩

theorem setExtensionLanguage_moves_shared_extension :
    let gcc : PackageId := ⟨"org.gnu.gcc", [8]⟩
    let cpp : Language := ⟨1, [".cpp", ".cc"], sampleCompiler⟩
    let other : Language := ⟨2, [".cpp"], sampleCompiler⟩
    let s := ((LanguageStorage.empty.registerLanguage gcc cpp).activateLanguage gcc).2
    (s.setExtensionLanguage ".cpp" other).findLanguageByExtension ".cc" ≠ s.findLanguageByExtension ".cc" := by
  intro gcc cpp other s same
  have addresses := congrArg (Option.map Language.address) same
  revert addresses
  decide

end Sw
