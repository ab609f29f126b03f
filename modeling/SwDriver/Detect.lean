import SwDriver.VersionProbe
import SwDriver.Linker

set_option autoImplicit false

namespace Sw

-- The POSIX branch of detectNativeCompilers (compiler.cpp).

/-- Modelled from the spec: the option sets a new tool of each kind starts with
(CommandLineOptions of GNUOptions, GNULinkerOptions and the others) and what
addEverything renders of the options detection assigns are declared in option
headers outside this repository. -/
structure ToolDefaults where
  compilerOptions : CompilerKind → List CommandLineOption
  compilerEverything : List String
  linkerOptions : LinkerKind → List LinkerOption
  linkerAdditionalOptions : LinkerKind → List LinkerOption
  linkerEverything : List String

-- What detectNativeCompilers reads of a POSIX host.
structure PosixHost where
  resolveExecutable : String → Path
  doNotResolveCompiler : Bool
  probe : Path → ProbeResult

-- the resolve lambda
def PosixHost.resolve (host : PosixHost) (p : Path) : Path :=
  if host.doNotResolveCompiler then p else host.resolveExecutable p

-- CPP_EXTS
def cppExts : List String := [".cpp", ".cxx", ".c++", ".cc", ".CPP", ".C++", ".CXX", ".C", ".CC"]

inductive ToolRole where
  | linker (l : NativeLinker)
  | compiler (c : NativeCompiler) (extensions : List String)

structure DetectedTool where
  id : PackagePath
  file : Path
  role : ToolRole

section Posix

variable (defaults : ToolDefaults)

-- LOpts
def posixLinkDirectories : List Path := ["/lib", "/lib/x86_64-linux-gnu"]

def posixLinkLibraries : List Path := ["stdc++", "stdc++fs", "pthread", "dl", "m"]

-- std::make_shared<K>(); *Linker = LOpts;
def detectedLinker (kind : LinkerKind) : NativeLinker :=
  ⟨kind, kind.defaultExtension, ⟨[], "", "", [], [], []⟩, defaults.linkerOptions kind,
    defaults.linkerAdditionalOptions kind, posixLinkDirectories, posixLinkLibraries, defaults.linkerEverything, none⟩

-- std::make_shared<K>(); C->file = p; *C = COpts;
def detectedCompiler (kind : CompilerKind) (file : Path) : NativeCompiler :=
  ⟨kind, file, ⟨none, none, none, none, none⟩, defaults.compilerOptions kind, [], defaults.compilerEverything, none⟩

-- The tools in the order the code registers them.
def posixTools (host : PosixHost) : List DetectedTool :=
  let ar := host.resolve "ar"
  let gcc := host.resolve "gcc"
  let as := host.resolve "as"
  let gpp := host.resolve "g++"
  let clang := host.resolve "clang"
  let clangpp := host.resolve "clang++"
  (if ar.isEmpty then [] else [⟨"org.gnu.binutils.ar", ar, .linker (detectedLinker defaults .gnuLibrarian)⟩]) ++
  (if gcc.isEmpty then [] else [⟨"org.gnu.gcc.ld", gcc, .linker (detectedLinker defaults .gnuLinker)⟩]) ++
  [⟨"org.gnu.gcc.as", as, .compiler (detectedCompiler defaults .gnuASM as) [".s", ".S"]⟩] ++
  (if gcc.isEmpty then [] else [⟨"org.gnu.gcc.gcc", gcc, .compiler (detectedCompiler defaults .gnu gcc) [".c"]⟩]) ++
  (if gpp.isEmpty then [] else [⟨"org.gnu.gcc.gpp", gpp, .compiler (detectedCompiler defaults .gnu gpp) cppExts⟩]) ++
  (if clang.isEmpty then []
    else [⟨"org.LLVM.clang.ld", clang, .linker (detectedLinker defaults .gnuLinker)⟩,
      ⟨"org.LLVM.clang", clang, .compiler (detectedCompiler defaults .gnu clang) [".c"]⟩]) ++
  (if clangpp.isEmpty then [] else [⟨"org.LLVM.clangpp", clangpp, .compiler (detectedCompiler defaults .gnu clangpp) cppExts⟩])

end Posix

-- p->getVersion(): GNU::gatherVersion
def DetectedTool.version (host : PosixHost) (tool : DetectedTool) : Except String Version :=
  GNU.gatherVersion (host.probe tool.file)

-- registerProgram and registerProgramAndLanguage (language.cpp)
def DetectedTool.register (tool : DetectedTool) (address : Nat) (v : Version) (s : LanguageStorage) : LanguageStorage :=
  match tool.role with
  | .linker _ => s.registerProgramByPath tool.id ⟨address, v⟩
  | .compiler c extensions => s.registerProgramAndLanguageByPath tool.id ⟨address, v⟩ ⟨address + 1, extensions, c⟩

def registerTool (version : DetectedTool → Except String Version) (address : Nat) (tool : DetectedTool) :
    Exec LanguageStorage Unit := do
  let v ← Exec.ofExcept (version tool)
  Exec.modify (tool.register address v)

-- detectNativeCompilers(s) on POSIX; the k-th tool's objects are made at heap + 2 * k.
def detectNativeCompilers (defaults : ToolDefaults) (host : PosixHost) (heap : Nat) : Exec LanguageStorage Unit :=
  (posixTools defaults host).enum.forM fun kt => registerTool (DetectedTool.version host) (heap + 2 * kt.1) kt.2

section Registration

variable (tool : DetectedTool) (address : Nat) (v : Version) (s : LanguageStorage)

@[simp] theorem register_extensions : (tool.register address v s).extensions = s.extensions := by
  unfold DetectedTool.register
  split <;> rfl

end Registration

@[simp] theorem run_registerTool (version : DetectedTool → Except String Version) (address : Nat) (tool : DetectedTool)
    (s : LanguageStorage) :
    (registerTool version address tool).run s =
      match version tool with
      | .error e => .error e s
      | .ok v => .ok () (tool.register address v s) := by
  unfold registerTool
  cases version tool <;> rfl

section Run

variable (version : DetectedTool → Except String Version)

theorem run_registerTools_error : ∀ (tools : List (Nat × DetectedTool)) (s s' : LanguageStorage) (e : String),
    (tools.forM fun kt => registerTool version kt.1 kt.2).run s = .error e s' ↔
      ∃ before kt after, tools = before ++ kt :: after ∧ version kt.2 = .error e ∧
        (before.forM fun kt => registerTool version kt.1 kt.2).run s = .ok () s'
  | [], s, s', e => by simp
  | (k, tool) :: rest, s, s', e => by
      simp only [List.forM_cons', Exec.run_bind, run_registerTool, List.cons_eq_append_iff]
      cases hv : version tool with
      | error e' =>
          constructor
          · rintro ⟨⟩
            exact ⟨[], (k, tool), rest, .inl ⟨rfl, rfl⟩, hv, rfl⟩
          · rintro ⟨before, kt, after, ⟨rfl, split⟩ | ⟨before', rfl, -⟩, failed, ran⟩
            · obtain ⟨rfl, -⟩ := List.cons.inj split
              rw [hv] at failed
              cases failed
              cases ran
              rfl
            · simp [hv] at ran
      | ok v =>
          rw [run_registerTools_error rest (tool.register k v s) s' e]
          constructor
          · rintro ⟨before, kt, after, split, failed, ran⟩
            exact ⟨(k, tool) :: before, kt, after, .inr ⟨before, rfl, split⟩, failed, by simp [hv, ran]⟩
          · rintro ⟨before, kt, after, ⟨rfl, split⟩ | ⟨before', rfl, split⟩, failed, ran⟩
            · obtain ⟨rfl, -⟩ := List.cons.inj split
              rw [hv] at failed
              cases failed
            · exact ⟨before', kt, after, split, failed, by simpa [hv] using ran⟩

end Run

theorem exists_split_iff {α : Type} (l : List α) (P : List α → α → Prop) :
    (∃ before x after, l = before ++ x :: after ∧ P before x) ↔ ∃ n x, l[n]? = some x ∧ P (l.take n) x := by
  constructor
  · rintro ⟨before, x, after, rfl, holds⟩
    exact ⟨before.length, x, by rw [List.getElem?_append_right (le_refl _), Nat.sub_self, List.getElem?_cons_zero],
      by simpa using holds⟩
  · rintro ⟨n, x, found, holds⟩
    obtain ⟨within, rfl⟩ := List.getElem?_eq_some_iff.mp found
    exact ⟨l.take n, l[n], l.drop (n + 1), by rw [← List.drop_eq_getElem_cons within, List.take_append_drop], holds⟩

section Detection

variable (defaults : ToolDefaults) (host : PosixHost) (heap : Nat)

def placedTools : List (Nat × DetectedTool) :=
  (posixTools defaults host).enum.map fun kt => (heap + 2 * kt.1, kt.2)

theorem detectNativeCompilers_eq :
    detectNativeCompilers defaults host heap =
      (placedTools defaults host heap).forM fun kt => registerTool (DetectedTool.version host) kt.1 kt.2 := by
  rw [placedTools, Exec.forM_map]
  rfl

theorem getElem?_placedTools (n : Nat) :
    (placedTools defaults host heap)[n]? = ((posixTools defaults host)[n]?).map fun t => (heap + 2 * n, t) := by
  simp [placedTools, List.getElem?_enum, Option.map_map, Function.comp_def]

/-- Detection on POSIX throws exactly when std::stoi overflows on some tool's version. -/
theorem detectNativeCompilers_aborts (s s' : LanguageStorage) (e : String) :
    (detectNativeCompilers defaults host heap).run s = .error e s' ↔
      e = "stoi" ∧ ∃ n t, (posixTools defaults host)[n]? = some t ∧ (host.probe t.file).failed = false ∧
        (∃ m, regexSearch gnuVersionRegex (bytesOf (host.probe t.file).err) = some m ∧
          ∃ g ∈ [1, 2, 3], 2147483647 < digitsValue (group m g)) ∧
        (((placedTools defaults host heap).take n).forM fun kt => registerTool (DetectedTool.version host) kt.1 kt.2).run s =
          .ok () s' := by
  rw [detectNativeCompilers_eq, run_registerTools_error, exists_split_iff (placedTools defaults host heap)
    fun before kt => kt.2.version host = .error e ∧
      (before.forM fun kt => registerTool (DetectedTool.version host) kt.1 kt.2).run s = .ok () s']
  constructor
  · rintro ⟨n, kt, placed, failed, ran⟩
    rw [getElem?_placedTools] at placed
    obtain ⟨t, found, rfl⟩ := Option.map_eq_some'.mp placed
    obtain ⟨stoi, ok, wide⟩ := (stderrVersion_error_iff gnuVersionRegex (host.probe t.file) e).mp failed
    exact ⟨stoi, n, t, found, ok, wide, ran⟩
  · rintro ⟨stoi, n, t, found, ok, wide, ran⟩
    exact ⟨n, (heap + 2 * n, t), by rw [getElem?_placedTools, found]; rfl,
      (stderrVersion_error_iff gnuVersionRegex (host.probe t.file) e).mpr ⟨stoi, ok, wide⟩, ran⟩

end Detection

end Sw
