import SwDriver.Path

set_option autoImplicit false

namespace Sw

-- The native compilers of compiler.cpp.

inductive CompilerKind where
  | visualStudio
  | visualStudioASM
  | clang
  | clangCl
  | gnuASM
  | clangASM
  | gnu
deriving DecidableEq, Repr

structure NamedOptions where
  inputFile : Option Path
  cSourceFile : Option Path
  cppSourceFile : Option Path
  outputFile : Option Path
  safeSEH : Option Bool
deriving DecidableEq, Repr

structure CommandLineOption where
  manualHandling : Bool
  placeAtTheEnd : Bool
  getCommandLine : NamedOptions → List String

structure Command where
  name : String
  nameShort : String
  workingDirectory : Path
  depsFile : Path
  args : List String
deriving DecidableEq, Repr

def Command.empty : Command := ⟨"", "", "", "", []⟩

structure NativeCompiler where
  kind : CompilerKind
  file : Path
  named : NamedOptions
  options : List CommandLineOption
  clangClOptions : List CommandLineOption
  everything : List String
  cmd : Option Command

-- getCommandLineOptions (compiler_helpers.h)
def renderOption (named : NamedOptions) (pfx : String) (endOptions : Bool) (o : CommandLineOption) :
    List String :=
  if o.manualHandling then []
  else if endOptions ≠ o.placeAtTheEnd then []
  else (o.getCommandLine named).flatMap fun token => if pfx.isEmpty then [token] else [pfx, token]

def getCommandLineOptions (named : NamedOptions) (options : List CommandLineOption) (pfx : String)
    (endOptions : Bool) : List String :=
  options.flatMap (renderOption named pfx endOptions)

def setName (c : Command) : Option Path → Command
  | none => c
  | some input => { c with name := normalizePath input, nameShort := filename input }

def setWorkingDirectory (c : Command) : Option Path → Command
  | none => c
  | some output => { c with workingDirectory := parentPath output }

def setDepsFile (c : Command) : Option Path → Command
  | none => c
  | some output =>
      { c with depsFile := join (parentPath output) (stem output ++ ".d"),
               workingDirectory := parentPath output }

def appendArgs (c : Command) (args : List String) : Command := { c with args := c.args ++ args }

@[simp] theorem setName_args (c : Command) (input : Option Path) : (setName c input).args = c.args := by
  cases input <;> rfl

@[simp] theorem setWorkingDirectory_args (c : Command) (output : Option Path) :
    (setWorkingDirectory c output).args = c.args := by
  cases output <;> rfl

@[simp] theorem setDepsFile_args (c : Command) (output : Option Path) : (setDepsFile c output).args = c.args := by
  cases output <;> rfl

@[simp] theorem appendArgs_args (c : Command) (args : List String) : (appendArgs c args).args = c.args ++ args :=
  rfl

@[simp] theorem empty_args : Command.empty.args = [] := rfl

-- if (cmd) return cmd; ... return cmd = c;
def memoized (c : NativeCompiler) (build : NativeCompiler → Command × NativeCompiler) :
    Command × NativeCompiler :=
  match c.cmd with
  | some cached => (cached, c)
  | none => let built := build c; (built.1, { built.2 with cmd := some built.1 })

def VisualStudioCompiler.getCommand (c : NativeCompiler) : Command × NativeCompiler :=
  memoized c fun c =>
    let named := c.named
    let cmd := setName (setName (setName Command.empty named.inputFile) named.cSourceFile) named.cppSourceFile
    let cmd := setWorkingDirectory cmd named.outputFile
    let cmd := appendArgs cmd (getCommandLineOptions named c.options "" false)
    (appendArgs cmd c.everything, c)

-- VisualStudioASMCompiler::getCommand
def VisualStudioASMCompiler.getCommand (c : NativeCompiler) : Command × NativeCompiler :=
  memoized c fun c =>
    let c := if filename c.file = "ml64.exe" then { c with named := { c.named with safeSEH := some false } } else c
    let cmd := setWorkingDirectory (setName Command.empty c.named.inputFile) c.named.outputFile
    let cmd := appendArgs cmd (getCommandLineOptions c.named c.options "" false)
    (appendArgs cmd c.everything, c)

def ClangCompiler.getCommand (c : NativeCompiler) : Command × NativeCompiler :=
  memoized c fun c =>
    let cmd := setDepsFile (setName Command.empty c.named.inputFile) c.named.outputFile
    let cmd := appendArgs cmd (getCommandLineOptions c.named c.options "" false)
    (appendArgs cmd c.everything, c)

def ClangClCompiler.getCommand (c : NativeCompiler) : Command × NativeCompiler :=
  memoized c fun c =>
    let named := c.named
    let cmd := setName (setName (setName Command.empty named.inputFile) named.cSourceFile) named.cppSourceFile
    let cmd := setWorkingDirectory cmd named.outputFile
    let cmd := appendArgs cmd (getCommandLineOptions named c.options "" false)
    let cmd := appendArgs cmd (getCommandLineOptions named c.clangClOptions "-Xclang" false)
    (appendArgs cmd c.everything, c)

def GNUASMCompiler.getCommand (c : NativeCompiler) : Command × NativeCompiler :=
  memoized c fun c =>
    let cmd := setWorkingDirectory (setName Command.empty c.named.inputFile) c.named.outputFile
    let cmd := appendArgs cmd (getCommandLineOptions c.named c.options "" false)
    (appendArgs cmd c.everything, c)

-- GNUCompiler::getCommand
def GNUCompiler.getCommand (c : NativeCompiler) : Command × NativeCompiler :=
  memoized c fun c =>
    let cmd := setDepsFile (setName Command.empty c.named.inputFile) c.named.outputFile
    let cmd := appendArgs cmd (getCommandLineOptions c.named c.options "" false)
    let cmd := appendArgs cmd c.everything
    (appendArgs cmd (getCommandLineOptions c.named c.options "" true), c)

-- ClangASMCompiler overrides only clone, so it renders as GNUASMCompiler.
def NativeCompiler.getCommand (c : NativeCompiler) : Command × NativeCompiler :=
  match c.kind with
  | .visualStudio => VisualStudioCompiler.getCommand c
  | .visualStudioASM => VisualStudioASMCompiler.getCommand c
  | .clang => ClangCompiler.getCommand c
  | .clangCl => ClangClCompiler.getCommand c
  | .gnuASM => GNUASMCompiler.getCommand c
  | .clangASM => GNUASMCompiler.getCommand c
  | .gnu => GNUCompiler.getCommand c

-- clone(): std::make_shared<K>(*this), ToolBase::cmd included.
def NativeCompiler.clone (c : NativeCompiler) : NativeCompiler := c

def NativeCompiler.setOutputFile (c : NativeCompiler) (output : Path) : NativeCompiler :=
  { c with named := { c.named with outputFile := some output } }

def NativeCompiler.setSourceFile (c : NativeCompiler) (input output : Path) : NativeCompiler :=
  ({ c with named := { c.named with inputFile := some input } }).setOutputFile output

def NativeCompiler.getObjectExtension (c : NativeCompiler) : String :=
  match c.kind with
  | .gnuASM | .clangASM | .gnu => ".o"
  | .visualStudio | .visualStudioASM | .clang | .clangCl => ".obj"

def NativeCompiler.getGeneratedDirs (c : NativeCompiler) : List Path :=
  [parentPath (c.named.outputFile.getD "")]

section Rendering

variable (named : NamedOptions) (pfx : String)

def prefixed (tokens : List String) : List String :=
  tokens.flatMap fun token => if pfx.isEmpty then [token] else [pfx, token]

theorem renderOption_eq (endOptions : Bool) (o : CommandLineOption) :
    renderOption named pfx endOptions o =
      if (!o.manualHandling && o.placeAtTheEnd == endOptions) = true
      then prefixed pfx (o.getCommandLine named) else [] := by
  cases manual : o.manualHandling <;> cases placed : o.placeAtTheEnd <;> cases endOptions <;>
    simp [renderOption, manual, placed, prefixed]

theorem getCommandLineOptions_eq_filter (options : List CommandLineOption) (endOptions : Bool) :
    getCommandLineOptions named options pfx endOptions =
      (options.filter fun o => !o.manualHandling && o.placeAtTheEnd == endOptions).flatMap
        fun o => prefixed pfx (o.getCommandLine named) := by
  induction options with
  | nil => rfl
  | cons o rest ih =>
      simp only [getCommandLineOptions, List.flatMap_cons, List.filter_cons, renderOption_eq] at ih ⊢
      split <;> simp [ih]

end Rendering

section Memo

variable {c : NativeCompiler} (build : NativeCompiler → Command × NativeCompiler)

theorem memoized_cached {cached : Command} (hit : c.cmd = some cached) : memoized c build = (cached, c) := by
  simp [memoized, hit]

end Memo

theorem getCommand_cached {c : NativeCompiler} {cached : Command} (hit : c.cmd = some cached) :
    c.getCommand = (cached, c) := by
  cases kind : c.kind <;>
    simp only [NativeCompiler.getCommand, kind, VisualStudioCompiler.getCommand,
      VisualStudioASMCompiler.getCommand, ClangCompiler.getCommand, ClangClCompiler.getCommand,
      GNUASMCompiler.getCommand, GNUCompiler.getCommand, memoized_cached _ hit]

@[simp] theorem setSourceFile_cmd (c : NativeCompiler) (input output : Path) :
    (c.setSourceFile input output).cmd = c.cmd := rfl

theorem clone_rebound_renders_cached_command :
    let inputOption : CommandLineOption := ⟨false, false, fun n => (n.inputFile.map (["-c", ·])).getD []⟩
    let outputOption : CommandLineOption := ⟨false, false, fun n => (n.outputFile.map (["-o", ·])).getD []⟩
    let template : NativeCompiler :=
      ⟨.gnu, "/usr/bin/g++", ⟨some "/src/a.cpp", none, none, some "/obj/a.o", none⟩,
        [inputOption, outputOption], [], [], none⟩
    let used := template.getCommand.2
    let rebound := (used.clone.setSourceFile "/src/b.cpp" "/obj/b.o").getCommand.1
    let fresh := ({ used with cmd := none }.setSourceFile "/src/b.cpp" "/obj/b.o").getCommand.1
    rebound.name = "/src/a.cpp" ∧ rebound.args = ["-c", "/src/a.cpp", "-o", "/obj/a.o"] ∧
      fresh.name = "/src/b.cpp" ∧ fresh.args = ["-c", "/src/b.cpp", "-o", "/obj/b.o"] := by
  decide

def NativeCompiler.commandNamed (c : NativeCompiler) : NamedOptions :=
  if c.kind = .visualStudioASM ∧ filename c.file = "ml64.exe" then { c.named with safeSEH := some false }
  else c.named

theorem msvc_compiler_drops_end_options :
    let endOption : CommandLineOption := ⟨false, true, fun _ => ["/link-end"]⟩
    let c : NativeCompiler :=
      ⟨.visualStudio, "cl.exe", ⟨some "/src/a.cpp", none, none, some "/obj/a.obj", none⟩, [endOption], [], [], none⟩
    endOption.getCommandLine c.named = ["/link-end"] ∧ "/link-end" ∉ c.getCommand.1.args := by
  decide

end Sw
