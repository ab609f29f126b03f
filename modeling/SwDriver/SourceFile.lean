import SwDriver.Language
import SwDriver.Exec

set_option autoImplicit false

namespace Sw

-- The data of source_file.cpp.
structure SourceFile where
  file : Path
  created : Bool
  skip : Bool
  postponed : Bool
  args : List String
  native : Option (NativeCompiler × Path)

/-- Modelled from the spec: SourceFile is declared in source_file.h, outside this
repository; a new one is created, neither skipped nor postponed, with no args. -/
def SourceFile.make (file : Path) : SourceFile := ⟨file, true, false, false, [], none⟩

-- std::make_shared<SourceFile>(file, fs); f->created = false;
def SourceFile.placeholder (file : Path) : SourceFile := { SourceFile.make file with created := false }

-- std::make_shared<SourceFile>(file, fs); f->postponed = true;
def SourceFile.deferred (file : Path) : SourceFile := { SourceFile.make file with postponed := true }

-- NativeSourceFile(input, fs, o, c)
def NativeSourceFile.make (input output : Path) (c : NativeCompiler) : SourceFile :=
  { SourceFile.make input with native := some (c.clone.setSourceFile input output, output) }

-- fs::exists, File::isGeneratedAtAll, enumerate_files_fast and fs::absolute
structure Filesystem where
  pathExists : Path → Bool
  isGeneratedAtAll : Path → Bool
  enumerateFiles : Path → Bool → List Path
  currentPath : Path
  currentPathAbsolute : isAbsolute currentPath = true

def Filesystem.absolute (fs : Filesystem) (p : Path) : Path := join fs.currentPath p

theorem Filesystem.isAbsolute_absolute (fs : Filesystem) (p : Path) : isAbsolute (fs.absolute p) = true :=
  isAbsolute_join fs.currentPathAbsolute p

-- What a SourceFileStorage reads of its target.
structure Target where
  sourceDir : Path
  binaryDir : Path
  headerOnly : Option Bool
  targetName : String
  registry : LanguageStorage
  solution : LanguageStorage
  fs : Filesystem
  sha256 : String → String

structure FileRegex where
  dir : Path
  r : String → Bool
  recursive : Bool

inductive FileOpTarget where
  | path (file : Path)
  | regex (r : FileRegex)

structure FileOp where
  op : FileOpTarget
  add : Bool

structure SourceFileStorage where
  files : Map Path (Option SourceFile)
  fileOps : List FileOp
  globCache : Map (Path × Bool) (List Path)
  autodetect : Bool
  postponeFileResolving : Bool

abbrev StorageExec := Exec SourceFileStorage

def SourceFileStorage.empty (autodetect postpone : Bool) : SourceFileStorage :=
  ⟨[], [], [], autodetect, postpone⟩

section Target

variable (t : Target)

def getObjectFilename (p : Path) : String := filename p ++ "." ++ (t.sha256 (t.targetName ++ p)).take 8

-- BinaryDir.parent_path() / "obj" / (getObjectFilename(t, input) + getObjectExtension())
def NativeLanguage.objectFile (L : Language) (input : Path) : Path :=
  t.fs.absolute (join (join (parentPath t.binaryDir) "obj") (getObjectFilename t input ++ L.compiler.getObjectExtension))

def NativeLanguage.createSourceFile (L : Language) (input : Path) : SourceFile :=
  NativeSourceFile.make input (NativeLanguage.objectFile t L input) L.compiler

-- check_absolute
def checkAbsolute (F : Path) (ignoreErrors : Bool) : Except String (Option Path) :=
  if !isAbsolute F then
    if t.fs.pathExists (join t.sourceDir F) then .ok (some (t.fs.absolute (join t.sourceDir F)))
    else if t.fs.pathExists (join t.binaryDir F) || t.fs.isGeneratedAtAll (join t.binaryDir F) then
      .ok (some (t.fs.absolute (join t.binaryDir F)))
    else if ignoreErrors then .ok none
    else .error ("Cannot find source file: " ++ join t.sourceDir F)
  else if t.fs.pathExists F || t.fs.isGeneratedAtAll F then .ok (some F)
  else if ignoreErrors then .ok none
  else .error ("Cannot find source file: " ++ F)

theorem checkAbsolute_isAbsolute {F G : Path} {ignoreErrors : Bool}
    (accepted : checkAbsolute t F ignoreErrors = .ok (some G)) : isAbsolute G = true := by
  unfold checkAbsolute at accepted
  split_ifs at accepted with relative <;> cases accepted
  all_goals first | exact t.fs.isAbsolute_absolute _ | simpa using relative

namespace SourceFileStorage

-- findPackageIdByExtension
def findPackageIdByExtension (ext : String) : Option PackageId :=
  match t.registry.findPackageIdByExtension ext with
  | some p => some p
  | none => t.solution.findPackageIdByExtension ext

def findLanguageByPackageId (p : PackageId) : Option Language :=
  match t.registry.getLanguage p with
  | some L => some L
  | none => t.solution.getLanguage p

def findLanguageByExtension (ext : String) : Option Language :=
  match t.registry.findLanguageByExtension ext with
  | some L => some L
  | none => t.solution.findLanguageByExtension ext

-- findProgramByExtension
def findProgramByExtension (ext : String) : Option Program :=
  match findPackageIdByExtension t ext with
  | none => none
  | some pkg =>
      let versions := match t.registry.registeredPrograms.get? pkg.ppath with
        | some v => some v
        | none => t.solution.registeredPrograms.get? ext
      match versions with
      | none => none
      | some v => v.get? pkg.version

theorem lookups_agree_per_level (e : String) :
    let pkg : Option PackageId := findPackageIdByExtension t e
    pkg = (t.registry.findPackageIdByExtension e).orElse (fun _ => t.solution.findPackageIdByExtension e) ∧
    ((∃ q, t.registry.findPackageIdByExtension e = some q ∧ (t.registry.getLanguage q).isSome) ∨
        (t.registry.findPackageIdByExtension e = none ∧
          ∀ q, t.solution.findPackageIdByExtension e = some q → t.registry.getLanguage q = none) →
      findLanguageByExtension t e = pkg.bind (findLanguageByPackageId t)) ∧
    (∀ q, t.registry.findPackageIdByExtension e = some q → t.registry.getLanguage q = none →
      findLanguageByExtension t e = t.solution.findLanguageByExtension e) ∧
    (pkg = none → findLanguageByExtension t e = none ∧ findProgramByExtension t e = none) ∧
    (∀ q v, pkg = some q → t.registry.registeredPrograms.get? q.ppath = some v →
      findProgramByExtension t e = v.get? q.version) := by
  intro pkg
  have language := LanguageStorage.findLanguageByExtension_eq
  refine ⟨by cases h : t.registry.findPackageIdByExtension e <;> simp [pkg, findPackageIdByExtension, h],
    fun agree => ?_, fun q bound missing => ?_, fun absent => ?_, fun q v found versions => ?_⟩
  · rcases agree with ⟨q, bound, present⟩ | ⟨unbound, shadowed⟩
    · obtain ⟨L, hL⟩ := Option.isSome_iff_exists.mp present
      simp [pkg, findLanguageByExtension, findPackageIdByExtension, findLanguageByPackageId, language, bound, hL]
    · cases h : t.solution.findPackageIdByExtension e with
      | none => simp [pkg, findLanguageByExtension, findPackageIdByExtension, language, unbound, h]
      | some q =>
          simp [pkg, findLanguageByExtension, findPackageIdByExtension, findLanguageByPackageId, language,
            unbound, h, shadowed q h]
  · simp [findLanguageByExtension, language, bound, missing]
  · have none₁ : t.registry.findPackageIdByExtension e = none := by
      cases h : t.registry.findPackageIdByExtension e <;> simp_all [pkg, findPackageIdByExtension]
    have none₂ : t.solution.findPackageIdByExtension e = none := by
      simpa [pkg, findPackageIdByExtension, none₁] using absent
    exact ⟨by simp [findLanguageByExtension, language, none₁, none₂],
      by simp [findProgramByExtension, show findPackageIdByExtension t e = none from absent]⟩
  · simp [findProgramByExtension, show findPackageIdByExtension t e = some q from found, versions]

end SourceFileStorage

end Target

def Filesystem.blank : Filesystem := ⟨fun _ => false, fun _ => false, fun _ _ => [], "/", rfl⟩

theorem findLanguageByExtension_misses_solution_language :
    let gcc : PackageId := ⟨"org.gnu.gcc", [8]⟩
    let cpp : Language := ⟨1, [".cpp"], sampleCompiler⟩
    let t : Target := ⟨"/src", "/build", none, "app",
      LanguageStorage.empty.setExtensionPackage ".cpp" gcc, LanguageStorage.empty.registerLanguage gcc cpp,
      Filesystem.blank, fun _ => ""⟩
    SourceFileStorage.findPackageIdByExtension t ".cpp" = some gcc ∧
      (SourceFileStorage.findLanguageByPackageId t gcc).isSome ∧
      (SourceFileStorage.findLanguageByExtension t ".cpp").isNone := by
  decide

end Sw
