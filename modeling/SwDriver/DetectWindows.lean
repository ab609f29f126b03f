import SwDriver.Detect
import SwDriver.WindowsKit

set_option autoImplicit false

namespace Sw

-- The Windows branch of detectNativeCompilers (compiler.cpp).

inductive VisualStudioVersion where
  | vs15
  | vs14
  | vs12
  | vs11
  | vs10
  | vs9
  | vs8
deriving DecidableEq, Repr

-- getVsToolset
def getVsToolset : VisualStudioVersion → String
  | .vs15 => "vc141"
  | .vs14 => "vc14"
  | .vs12 => "vc12"
  | .vs11 => "vc11"
  | .vs10 => "vc10"
  | .vs9 => "vc9"
  | .vs8 => "vc8"

inductive ArchType where
  | x86_64
  | x86
  | other
deriving DecidableEq, Repr

/-- Modelled from the spec: what detection takes from code outside this
repository. The option sets each tool kind starts with, VisualStudioCompiler's
set once CompileAsCPP is on, a linker's set once Machine is X86, and what
addEverything renders of System.IncludeDirectories and System.CompileOptions come
from option headers. operator/ and parent_path() of a Windows path and the order
of a std::set of paths come from std::filesystem. The environment variable
find_comn_tools reads for a version depends on the VisualStudioVersion
enumerators. Version::toString comes from primitives. -/
structure WindowsDefaults where
  compilerOptions : CompilerKind → List CommandLineOption
  compileAsCppOptions : List CommandLineOption
  clangClOptions : List CommandLineOption
  renderCompileSystem : List Path → List String → List String
  linkerOptions : LinkerKind → List LinkerOption
  linkerAdditionalOptions : LinkerKind → Bool → List LinkerOption
  linkerEverything : List String
  slash : Path → String → Path
  parentPath : Path → Path
  sortPaths : List Path → List Path
  comnToolsVariable : VisualStudioVersion → String
  versionString : Version → String

-- What detectNativeCompilers reads of a Windows host.
structure WindowsHost where
  vs2017Instance : Option (Path × String)
  getenv : String → Option String
  pathExists : Path → Bool
  readFile : Path → Except String String
  listDirectory : Path → Except String (List (String × Bool))
  hostVersion : String
  hostArch : ArchType
  targetArch : ArchType
  probe : Path → ProbeResult

-- std::regex_match with a std::wregex over the VS instance's std::wstring version.
def regexMatch (pat : List Atom) (text : List Char) : Option Captures :=
  ((matchSeq text.length pat text []).find? fun r => r.1.isEmpty).map (·.2)

-- boost::trim_copy
def isSpace (c : Char) : Bool := c = ' ' || c = '\t' || c = '\n' || c = '\x0b' || c = '\x0c' || c = '\r'

def trimCopy (s : String) : String := String.mk ((s.toList.dropWhile isSpace).reverse.dropWhile isSpace).reverse

def vs2017Editions : List String := ["Enterprise", "Professional", "Community"]

def olderVisualStudios : List VisualStudioVersion := [.vs14, .vs12, .vs11, .vs10, .vs9, .vs8]

section Windows

variable (lib : WindowsDefaults) (host : WindowsHost)

def getProgramFilesX86 : Except String Path :=
  match host.getenv "programfiles(x86)" with
  | some e => .ok e
  | none => .error "Cannot get 'programfiles(x86)' env. var."

-- the find_comn_tools lambda
def findComnTools (v : VisualStudioVersion) : Option Path :=
  (host.getenv (lib.comnToolsVariable v)).map fun e => lib.slash e "..\\..\\VC\\"

-- findDefaultVS2017
def findDefaultVS2017 : Except String (Option Path) :=
  (getProgramFilesX86 host).map fun pf =>
    ((vs2017Editions.map fun edition =>
        lib.slash pf ("Microsoft Visual Studio/2017/" ++ edition ++ "/VC/Auxiliary/Build/vcvarsall.bat")).find?
      host.pathExists).map fun p => lib.parentPath (lib.parentPath (lib.parentPath p))

-- The Visual Studio search of detectNativeCompilers.
def findVisualStudio : Except String (Option (Path × VisualStudioVersion)) :=
  match host.vs2017Instance with
  | some (location, version) =>
      match regexMatch visualStudioVersionRegex version.toList with
      | none => .error "Cannot match vs version regex"
      | some m =>
          (fieldsOf m (if groupMatched m 5 then [1, 2, 3, 5] else [1, 2, 3])).map fun _ =>
            some (lib.slash location "VC", .vs15)
  | none =>
      match findComnTools lib host .vs15 with
      | some root => .ok (some (root, .vs15))
      | none =>
          (findDefaultVS2017 lib host).map fun found =>
            match found with
            | some root => some (root, .vs15)
            | none => olderVisualStudios.findSome? fun v => (findComnTools lib host v).map (·, v)

def toolsRoot (root : Path) : VisualStudioVersion → Except String Path
  | .vs15 =>
      (host.readFile (lib.slash root "Auxiliary\\Build\\Microsoft.VCToolsVersion.default.txt")).map fun v =>
        lib.slash (lib.slash root "Tools\\MSVC") (trimCopy v)
  | _ => .ok root

-- dir_suffix
def dirSuffix (hostArch targetArch : ArchType) : String × String :=
  let hostDir := match hostArch with
    | .x86_64 => "x64"
    | .x86 => "x86"
    | .other => ""
  match targetArch with
  | .x86_64 => (hostDir, "x64")
  | .x86 => ("x86", "x86")
  | .other => (hostDir, "")

def clPath (root : Path) (vs : VisualStudioVersion) : Path :=
  let suffix := dirSuffix host.hostArch host.targetArch
  if vs = .vs15 then lib.slash (lib.slash root "bin") ("Host" ++ suffix.1 ++ "\\" ++ suffix.2 ++ "\\cl.exe")
  else lib.slash (lib.slash root "bin") "cl.exe"

def kitsDisk (pf : Path) : KitsDisk :=
  ⟨fun k => host.pathExists (lib.slash (lib.slash pf "Windows Kits") k), []⟩

-- getWindowsKit10Dir(s, d)
def kit10Dir (d : Path) : Except String Path := do
  let entries ← host.listDirectory d
  let name ← getWindowsKit10Dir host.hostVersion entries
  pure (lib.slash d name)

def subdirectories (d : Path) : Except String (List Path) :=
  (host.listDirectory d).map fun entries => (entries.filter (·.2)).map fun e => lib.slash d e.1

-- p->getVersion(): VisualStudio::gatherVersion or Clang::gatherVersion
def windowsToolVersion (tool : DetectedTool) : Except String Version :=
  match tool.role with
  | .compiler c _ =>
      match c.kind with
      | .clang | .clangCl => Clang.gatherVersion (host.probe tool.file)
      | _ => VisualStudio.gatherVersion (host.probe tool.file)
  | .linker _ => VisualStudio.gatherVersion (host.probe tool.file)

def llvmBase : Path := "c:\\Program Files\\LLVM"

-- The tools in the order the code registers them.
def windowsTools (root cl : Path) (includes links : List Path) : List DetectedTool :=
  let bin := lib.parentPath cl
  let blank : NamedOptions := ⟨none, none, none, none, none⟩
  let linker (kind : LinkerKind) : NativeLinker :=
    ⟨kind, kind.defaultExtension, ⟨[], "", "", [], [], []⟩, lib.linkerOptions kind,
      lib.linkerAdditionalOptions kind (host.targetArch = .x86), lib.sortPaths links, [], lib.linkerEverything, none⟩
  let msvc (kind : CompilerKind) (file : Path) (options : List CommandLineOption) : NativeCompiler :=
    ⟨kind, file, blank, options, [], lib.renderCompileSystem (lib.sortPaths includes) [], none⟩
  let llvmBin := lib.slash llvmBase "bin"
  let llvm (kind : CompilerKind) (file includeBase : Path) : NativeCompiler :=
    let v := ((Clang.gatherVersion (host.probe file)).toOption).getD []
    let own := lib.slash (lib.slash (lib.slash (lib.slash includeBase "lib") "clang") (lib.versionString v)) "include"
    let erased := [lib.slash root "include", lib.slash root "ATLMFC\\include"]
    ⟨kind, file, blank, lib.compilerOptions kind, if kind = .clangCl then lib.clangClOptions else [],
      lib.renderCompileSystem (lib.sortPaths (own :: includes.filter (· ∉ erased))) ["-Wno-everything"], none⟩
  let ml := lib.slash bin (if host.hostArch = .x86_64 then "ml64.exe" else "ml.exe")
  [⟨"com.Microsoft.VisualStudio.VC.link", lib.slash bin "link.exe", .linker (linker .visualStudioLinker)⟩,
    ⟨"com.Microsoft.VisualStudio.VC.lib", lib.slash bin "lib.exe", .linker (linker .visualStudioLibrarian)⟩,
    ⟨"com.Microsoft.VisualStudio.VC.ml", ml,
      .compiler (msvc .visualStudioASM ml (lib.compilerOptions .visualStudioASM)) [".asm"]⟩,
    ⟨"com.Microsoft.VisualStudio.VC.cl", cl, .compiler (msvc .visualStudio cl (lib.compilerOptions .visualStudio)) [".c"]⟩,
    ⟨"com.Microsoft.VisualStudio.VC.clpp", cl, .compiler (msvc .visualStudio cl lib.compileAsCppOptions) cppExts⟩,
    ⟨"org.LLVM.clang", lib.slash llvmBin "clang.exe",
      .compiler (llvm .clang (lib.slash llvmBin "clang.exe") llvmBase) [".c"]⟩,
    ⟨"org.LLVM.clangpp", lib.slash llvmBin "clang++.exe",
      .compiler (llvm .clang (lib.slash llvmBin "clang++.exe") llvmBase) cppExts⟩,
    ⟨"org.LLVM.clang_cl", lib.slash llvmBin "clang-cl.exe",
      .compiler (llvm .clangCl (lib.slash llvmBin "clang-cl.exe") llvmBin) (".c" :: cppExts)⟩]

def windowsSetup : Except String (Option (List DetectedTool)) := do
  let some (found, vs) ← findVisualStudio lib host | pure none
  let root ← toolsRoot lib host found vs
  let cl := clPath lib host root vs
  let target := (dirSuffix host.hostArch host.targetArch).2
  let pf ← getProgramFilesX86 host
  let kit ← getWindowsKitDir (kitsDisk lib host pf)
  let kitDir := lib.slash (lib.slash pf "Windows Kits") kit
  let kitIncludes ← subdirectories lib host (← kit10Dir lib host (lib.slash kitDir "include"))
  let kitLibs ← subdirectories lib host (← kit10Dir lib host (lib.slash kitDir "lib"))
  let includes := [lib.slash root "include", lib.slash root "ATLMFC\\include"] ++ kitIncludes
  let vcLibs := if vs = .vs15 then [lib.slash root ("lib\\" ++ target), lib.slash root ("ATLMFC\\lib\\" ++ target)] else []
  pure (some (windowsTools lib host root cl includes (vcLibs ++ kitLibs.map fun d => lib.slash d target)))

end Windows

-- detectNativeCompilers(s) on Windows
def detectNativeCompilersWindows (lib : WindowsDefaults) (host : WindowsHost) (heap : Nat) :
    Exec LanguageStorage Unit := do
  let some tools ← Exec.ofExcept (windowsSetup lib host) | pure ()
  tools.enum.forM fun kt => registerTool (windowsToolVersion host) (heap + 2 * kt.1) kt.2

section Run

variable (lib : WindowsDefaults) (host : WindowsHost) (heap : Nat)

theorem run_detectNativeCompilersWindows (s : LanguageStorage) :
    (detectNativeCompilersWindows lib host heap).run s =
      match windowsSetup lib host with
      | .error e => .error e s
      | .ok none => .ok () s
      | .ok (some tools) => (tools.enum.forM fun kt => registerTool (windowsToolVersion host) (heap + 2 * kt.1) kt.2).run s := by
  unfold detectNativeCompilersWindows
  rcases windowsSetup lib host with e | _ | tools <;> rfl

theorem kit10Dir_unversioned {d : Path} {entries : List (String × Bool)} (listed : host.listDirectory d = .ok entries)
    (hostMissing : ∀ e ∈ entries, e.1 ≠ host.hostVersion)
    (unversioned : ∀ e ∈ entries, e.2 = true → parseVersion e.1 = none) :
    kit10Dir lib host d = .error "No Windows Kits 10.0 available" := by
  unfold kit10Dir
  rw [listed]
  show (getWindowsKit10Dir host.hostVersion entries >>= fun name => pure (lib.slash d name)) = _
  rw [getWindowsKit10Dir_unversioned host.hostVersion entries hostMissing unversioned]
  rfl

/-- Detection reads the kit getWindowsKitDir picked as a Windows 10 SDK. -/
theorem detectNativeCompilersWindows_needs_kit10_layout (s : LanguageStorage) {found root pf kit : Path}
    {vs : VisualStudioVersion} {entries : List (String × Bool)}
    (visualStudio : findVisualStudio lib host = .ok (some (found, vs)))
    (toolset : toolsRoot lib host found vs = .ok root) (programFiles : host.getenv "programfiles(x86)" = some pf)
    (picked : getWindowsKitDir (kitsDisk lib host pf) = .ok kit)
    (listed : host.listDirectory (lib.slash (lib.slash (lib.slash pf "Windows Kits") kit) "include") = .ok entries)
    (hostMissing : ∀ e ∈ entries, e.1 ≠ host.hostVersion)
    (unversioned : ∀ e ∈ entries, e.2 = true → parseVersion e.1 = none) :
    (detectNativeCompilersWindows lib host heap).run s = .error "No Windows Kits 10.0 available" s := by
  have thrown : windowsSetup lib host = .error "No Windows Kits 10.0 available" := by
    rw [windowsSetup, visualStudio]
    simp only [bind, Except.bind, toolset, getProgramFilesX86, programFiles, picked,
      kit10Dir_unversioned lib host listed hostMissing unversioned]
  rw [run_detectNativeCompilersWindows, thrown]

end Run

def sampleWindowsHost (env : String → Option String) (kit : String) (listing : List (String × Bool)) : WindowsHost :=
  ⟨none, env, fun p => p == "C:\\Program Files (x86)\\Windows Kits\\" ++ kit, fun _ => .ok "14.16.27023",
    fun _ => .ok listing, "10.0.17763.0", .x86_64, .x86_64, fun _ => ⟨true, "", ""⟩⟩

def sampleComnToolsVariable : VisualStudioVersion → String
  | .vs15 => "VS150COMNTOOLS"
  | .vs14 => "VS140COMNTOOLS"
  | .vs12 => "VS120COMNTOOLS"
  | .vs11 => "VS110COMNTOOLS"
  | .vs10 => "VS100COMNTOOLS"
  | .vs9 => "VS90COMNTOOLS"
  | .vs8 => "VS80COMNTOOLS"

def sampleWindowsDefaults : WindowsDefaults :=
  ⟨fun _ => [], [], [], fun _ _ => [], fun _ => [], fun _ _ => [], [], fun d n => d ++ "\\" ++ n,
    fun p => String.mk ((p.toList.reverse.dropWhile (· ≠ '\\')).drop 1).reverse, id, sampleComnToolsVariable,
    fun _ => ""⟩

def vs2015Environment (programFiles : Option Path) (name : String) : Option String :=
  if name = "VS140COMNTOOLS" then some "C:\\VS14\\Common7\\Tools"
  else if name = "programfiles(x86)" then programFiles else none

def programFilesX86 : Path := "C:\\Program Files (x86)"

def kit81Host : WindowsHost :=
  sampleWindowsHost (vs2015Environment (some programFilesX86)) "8.1" [("um", true), ("shared", true), ("winrt", true)]

theorem detectNativeCompilersWindows_needs_kit10_layout_kit81 :
    (detectNativeCompilersWindows sampleWindowsDefaults kit81Host 0).run LanguageStorage.empty =
      .error "No Windows Kits 10.0 available" LanguageStorage.empty :=
  @detectNativeCompilersWindows_needs_kit10_layout sampleWindowsDefaults kit81Host 0 LanguageStorage.empty
    "C:\\VS14\\Common7\\Tools\\..\\..\\VC\\" "C:\\VS14\\Common7\\Tools\\..\\..\\VC\\" programFilesX86 "8.1" .vs14
    [("um", true), ("shared", true), ("winrt", true)] rfl rfl rfl rfl rfl (by decide) (by decide)

end Sw
