import Mathlib.Data.String.Basic
import SwDriver.Exec
import SwDriver.Compiler

set_option autoImplicit false

namespace Sw

-- The linkers and librarians of compiler.cpp.

inductive LinkerKind where
  | visualStudioLinker
  | visualStudioLibrarian
  | gnuLinker
  | gnuLibrarian
deriving DecidableEq, Repr

def LinkerKind.isVisualStudio : LinkerKind → Bool
  | .visualStudioLinker | .visualStudioLibrarian => true
  | .gnuLinker | .gnuLibrarian => false

structure NativeLinkerOptions where
  inputFiles : List Path
  definitionFile : Path
  output : Path
  inputLibraryDependencies : List Path
  linkDirectories : List Path
  linkLibraries : List Path
deriving DecidableEq, Repr

structure LinkerOption where
  manualHandling : Bool
  placeAtTheEnd : Bool
  getCommandLine : NativeLinkerOptions → List String

structure NativeLinker where
  kind : LinkerKind
  extension : String
  values : NativeLinkerOptions
  commandLineOptions : List LinkerOption
  additionalOptions : List LinkerOption
  gatherLinkDirectories : List Path
  gatherLinkLibraries : List Path
  everything : List String
  cmd : Option Command

def getLinkerCommandLineOptions (values : NativeLinkerOptions) (options : List LinkerOption) : List String :=
  options.flatMap fun o => if o.manualHandling || o.placeAtTheEnd then [] else o.getCommandLine values

def buildLinkerCommand (l : NativeLinker) (additional : Bool) : Command :=
  let c := setWorkingDirectory (setName Command.empty (some l.values.output)) (some l.values.output)
  let c := appendArgs (appendArgs c (getLinkerCommandLineOptions l.values l.commandLineOptions)) l.everything
  if additional then appendArgs c (getLinkerCommandLineOptions l.values l.additionalOptions) else c

-- VisualStudioLibraryTool::getCommand, GNULinker::getCommand, GNULibrarian::getCommand
def libraryToolGetCommand (definitionFileCounts : Bool) (gather : NativeLinker → NativeLinker)
    (additional : Bool) : Exec NativeLinker (Option Command) := do
  let l ← Exec.read id
  match l.cmd with
  | some cached => pure (some cached)
  | none =>
      if l.values.inputFiles.isEmpty && (!definitionFileCounts || l.values.definitionFile.isEmpty) then pure none
      else if l.values.output.isEmpty then Exec.throw "Output file is not set"
      else
        let c := buildLinkerCommand (gather l) additional
        Exec.modify fun _ => { gather l with cmd := some c }
        pure (some c)

-- LinkDirectories() = gatherLinkDirectories();
def VisualStudioLibraryTool.getCommand : Exec NativeLinker (Option Command) :=
  libraryToolGetCommand true (fun l => { l with values := { l.values with linkDirectories := l.gatherLinkDirectories } })
    true

-- LinkLibraries() = gatherLinkLibraries(); getAdditionalOptions is commented out.
def GNULinker.getCommand : Exec NativeLinker (Option Command) :=
  libraryToolGetCommand false (fun l => { l with values := { l.values with linkLibraries := l.gatherLinkLibraries } })
    false

def GNULibrarian.getCommand : Exec NativeLinker (Option Command) :=
  libraryToolGetCommand false id false

def NativeLinker.getCommand : Exec NativeLinker (Option Command) := do
  match (← Exec.read (·.kind)) with
  | .visualStudioLinker | .visualStudioLibrarian => VisualStudioLibraryTool.getCommand
  | .gnuLinker => GNULinker.getCommand
  | .gnuLibrarian => GNULibrarian.getCommand

-- setObjectFiles
def NativeLinker.setObjectFiles (l : NativeLinker) (files : List Path) : NativeLinker :=
  if files.isEmpty then l
  else { l with values := { l.values with inputFiles := files.foldl (fun acc f => acc.insert f) l.values.inputFiles } }

def NativeLinker.setOutputFile (l : NativeLinker) (out : Path) : NativeLinker :=
  { l with values := { l.values with output := out ++ l.extension } }

-- setInputLibraryDependencies
def NativeLinker.setInputLibraryDependencies (l : NativeLinker) (files : List Path) : NativeLinker :=
  let deps := l.values.inputLibraryDependencies
  match l.kind with
  | .gnuLinker =>
      if files.isEmpty then l
      else { l with values := { l.values with
        inputLibraryDependencies := deps ++ ["-Wl,--start-group"] ++ files ++ ["-Wl,--end-group"] } }
  | .visualStudioLinker =>
      if files.isEmpty then l else { l with values := { l.values with inputLibraryDependencies := deps ++ files } }
  | .visualStudioLibrarian | .gnuLibrarian => l

-- The constructors set only Extension (GNULinker's ".exe" is commented out).
def LinkerKind.defaultExtension : LinkerKind → String
  | .visualStudioLinker => ".exe"
  | .visualStudioLibrarian => ".lib"
  | .gnuLinker => ""
  | .gnuLibrarian => ".a"

inductive LinkerCall where
  | setObjectFiles (files : List Path)
  | setOutputFile (out : Path)
  | setInputLibraryDependencies (files : List Path)
  | getCommand

-- The tool after one member call; a getCommand that throws is caught by its caller.
def LinkerCall.apply (l : NativeLinker) : LinkerCall → NativeLinker
  | .setObjectFiles files => l.setObjectFiles files
  | .setOutputFile out => l.setOutputFile out
  | .setInputLibraryDependencies files => l.setInputLibraryDependencies files
  | .getCommand => (NativeLinker.getCommand.run l).state

def LinkerCall.isSetter : LinkerCall → Bool
  | .getCommand => false
  | _ => true

def NativeLinker.nothingToLink (l : NativeLinker) : Prop :=
  l.values.inputFiles = [] ∧ (l.kind.isVisualStudio → l.values.definitionFile = "")

section Spec

variable {definitionFileCounts additional : Bool} {gather : NativeLinker → NativeLinker}

theorem libraryToolGetCommand_run_cached {l : NativeLinker} {c : Command} (cached : l.cmd = some c) :
    (libraryToolGetCommand definitionFileCounts gather additional).run l = .ok (some c) l := by
  simp [libraryToolGetCommand, cached]

theorem libraryToolGetCommand_run_null {l : NativeLinker} (fresh : l.cmd = none)
    (nothing : l.values.inputFiles.isEmpty && (!definitionFileCounts || l.values.definitionFile.isEmpty)) :
    (libraryToolGetCommand definitionFileCounts gather additional).run l = .ok none l := by
  simp only [libraryToolGetCommand, Exec.run_bind, Exec.run_read, id_eq, fresh]
  rw [if_pos nothing]
  rfl

theorem libraryToolGetCommand_run_unset {l : NativeLinker} (fresh : l.cmd = none)
    (something : ¬(l.values.inputFiles.isEmpty && (!definitionFileCounts || l.values.definitionFile.isEmpty)))
    (unset : l.values.output = "") :
    (libraryToolGetCommand definitionFileCounts gather additional).run l = .error "Output file is not set" l := by
  simp only [libraryToolGetCommand, Exec.run_bind, Exec.run_read, id_eq, fresh]
  rw [if_neg something, if_pos (by rw [unset]; rfl)]
  rfl

theorem libraryToolGetCommand_run_built {l : NativeLinker} (fresh : l.cmd = none)
    (something : ¬(l.values.inputFiles.isEmpty && (!definitionFileCounts || l.values.definitionFile.isEmpty)))
    (set : l.values.output ≠ "") :
    (libraryToolGetCommand definitionFileCounts gather additional).run l =
      .ok (some (buildLinkerCommand (gather l) additional))
        { gather l with cmd := some (buildLinkerCommand (gather l) additional) } := by
  simp only [libraryToolGetCommand, Exec.run_bind, Exec.run_read, id_eq, fresh]
  rw [if_neg something, if_neg fun empty => set ((String.isEmpty_iff _).mp empty)]
  rfl

end Spec

theorem getCommand_eq (l : NativeLinker) :
    NativeLinker.getCommand.run l =
      (libraryToolGetCommand l.kind.isVisualStudio
        (match l.kind with
          | .visualStudioLinker | .visualStudioLibrarian =>
              fun l => { l with values := { l.values with linkDirectories := l.gatherLinkDirectories } }
          | .gnuLinker => fun l => { l with values := { l.values with linkLibraries := l.gatherLinkLibraries } }
          | .gnuLibrarian => id)
        l.kind.isVisualStudio).run l := by
  obtain ⟨kind, _, _, _, _, _, _, _, _⟩ := l
  cases kind <;> rfl

theorem nothingToLink_iff (l : NativeLinker) :
    l.nothingToLink ↔ (l.values.inputFiles.isEmpty && (!l.kind.isVisualStudio || l.values.definitionFile.isEmpty)) := by
  cases visual : l.kind.isVisualStudio <;> simp [NativeLinker.nothingToLink, visual, String.isEmpty_iff]

theorem getCommand_run_cached {l : NativeLinker} {c : Command} (cached : l.cmd = some c) :
    NativeLinker.getCommand.run l = .ok (some c) l := by
  rw [getCommand_eq, libraryToolGetCommand_run_cached cached]

theorem getCommand_run_null {l : NativeLinker} (fresh : l.cmd = none) (nothing : l.nothingToLink) :
    NativeLinker.getCommand.run l = .ok none l := by
  rw [getCommand_eq, libraryToolGetCommand_run_null fresh ((nothingToLink_iff l).mp nothing)]

theorem getCommand_run_unset {l : NativeLinker} (fresh : l.cmd = none) (something : ¬l.nothingToLink)
    (unset : l.values.output = "") : NativeLinker.getCommand.run l = .error "Output file is not set" l := by
  rw [getCommand_eq, libraryToolGetCommand_run_unset fresh (by rwa [nothingToLink_iff] at something) unset]

theorem getCommand_run_built {l : NativeLinker} (fresh : l.cmd = none) (something : ¬l.nothingToLink)
    (set : l.values.output ≠ "") : ∃ c built, NativeLinker.getCommand.run l = .ok (some c) built ∧ built.cmd = some c := by
  rw [getCommand_eq, libraryToolGetCommand_run_built fresh (by rwa [nothingToLink_iff] at something) set]
  exact ⟨_, _, rfl, rfl⟩

@[simp] theorem setObjectFiles_cmd (l : NativeLinker) (files : List Path) : (l.setObjectFiles files).cmd = l.cmd := by
  unfold NativeLinker.setObjectFiles
  split <;> rfl

@[simp] theorem setOutputFile_cmd (l : NativeLinker) (out : Path) : (l.setOutputFile out).cmd = l.cmd := rfl

@[simp] theorem setInputLibraryDependencies_cmd (l : NativeLinker) (files : List Path) :
    (l.setInputLibraryDependencies files).cmd = l.cmd := by
  unfold NativeLinker.setInputLibraryDependencies
  split <;> (try split) <;> rfl

theorem apply_of_cached {l : NativeLinker} {c : Command} (cached : l.cmd = some c) (call : LinkerCall) :
    (call.apply l).cmd = some c := by
  cases call
  case getCommand => rw [LinkerCall.apply, getCommand_run_cached cached, Outcome.state_ok, cached]
  all_goals simp [LinkerCall.apply, cached]

theorem foldl_apply_of_cached {l : NativeLinker} {c : Command} (cached : l.cmd = some c) (calls : List LinkerCall) :
    (calls.foldl LinkerCall.apply l).cmd = some c := by
  induction calls generalizing l with
  | nil => exact cached
  | cons call rest ih => exact ih (apply_of_cached cached call)

theorem apply_getCommand_of_fresh {l : NativeLinker} (fresh : l.cmd = none)
    (unfilled : (LinkerCall.getCommand.apply l).cmd = none) : LinkerCall.getCommand.apply l = l := by
  by_cases nothing : l.nothingToLink
  · rw [LinkerCall.apply, getCommand_run_null fresh nothing, Outcome.state_ok]
  · by_cases unset : l.values.output = ""
    · rw [LinkerCall.apply, getCommand_run_unset fresh nothing unset, Outcome.state_error]
    · obtain ⟨c, built, ran, filled⟩ := getCommand_run_built fresh nothing unset
      rw [LinkerCall.apply, ran, Outcome.state_ok, filled] at unfilled
      cases unfilled

theorem foldl_apply_of_unfilled {l : NativeLinker} (fresh : l.cmd = none) (calls : List LinkerCall)
    (unfilled : (calls.foldl LinkerCall.apply l).cmd = none) :
    calls.foldl LinkerCall.apply l = (calls.filter LinkerCall.isSetter).foldl LinkerCall.apply l := by
  induction calls generalizing l with
  | nil => rfl
  | cons call rest ih =>
      have stillFresh : (call.apply l).cmd = none := by
        cases filled : (call.apply l).cmd with
        | none => rfl
        | some c => rw [List.foldl_cons, foldl_apply_of_cached filled rest] at unfilled; cases unfilled
      by_cases setter : call.isSetter
      · rw [List.foldl_cons, List.filter_cons_of_pos setter, List.foldl_cons]
        exact ih stillFresh unfilled
      · obtain rfl : call = .getCommand := by cases call <;> simp_all [LinkerCall.isSetter]
        rw [List.foldl_cons, apply_getCommand_of_fresh fresh stillFresh] at unfilled ⊢
        simpa [LinkerCall.isSetter] using ih fresh unfilled

theorem getCommand_run_filled {l : NativeLinker} {c : Command}
    (built : (NativeLinker.getCommand.run l).result = .ok (some c)) :
    (NativeLinker.getCommand.run l).state.cmd = some c := by
  cases cached : l.cmd with
  | some c' =>
      rw [getCommand_run_cached cached] at built ⊢
      cases built
      exact cached
  | none =>
      by_cases nothing : l.nothingToLink
      · rw [getCommand_run_null cached nothing] at built
        cases built
      by_cases unset : l.values.output = ""
      · rw [getCommand_run_unset cached nothing unset] at built
        cases built
      obtain ⟨c', tool, ran, filled⟩ := getCommand_run_built cached nothing unset
      rw [ran] at built ⊢
      cases built
      exact filled

/-- A getCommand() that returns null or throws leaves the tool as it was. -/
theorem linker_getCommand_failures_keep_tool (l : NativeLinker) (calls : List LinkerCall) :
    (l.cmd = none →
      ((NativeLinker.getCommand.run l).result = .ok none ↔ l.nothingToLink) ∧
      ((∃ e, (NativeLinker.getCommand.run l).result = .error e) ↔ ¬l.nothingToLink ∧ l.values.output = "") ∧
      ((∀ c, (NativeLinker.getCommand.run l).result ≠ .ok (some c)) → (NativeLinker.getCommand.run l).state = l)) ∧
    (l.cmd = none → (calls.foldl LinkerCall.apply l).cmd = none →
      calls.foldl LinkerCall.apply l = (calls.filter LinkerCall.isSetter).foldl LinkerCall.apply l) ∧
    (∀ c, (NativeLinker.getCommand.run l).result = .ok (some c) →
      (NativeLinker.getCommand.run (calls.foldl LinkerCall.apply (NativeLinker.getCommand.run l).state)).result =
        .ok (some c)) := by
  refine ⟨fun fresh => ?_, fun fresh => foldl_apply_of_unfilled fresh calls, fun c built => ?_⟩
  · by_cases nothing : l.nothingToLink
    · simp [getCommand_run_null fresh nothing, nothing, Outcome.result]
    · by_cases unset : l.values.output = ""
      · simp [getCommand_run_unset fresh nothing unset, nothing, unset, Outcome.result]
      · obtain ⟨c, built, ran, filled⟩ := getCommand_run_built fresh nothing unset
        have moved : built ≠ l := fun same => by rw [same, fresh] at filled; cases filled
        simp [ran, nothing, unset, Outcome.result, moved]
  · rw [getCommand_run_cached (foldl_apply_of_cached (getCommand_run_filled built) calls)]
    rfl

def demoGNULinker : NativeLinker :=
  ⟨.gnuLinker, LinkerKind.gnuLinker.defaultExtension, ⟨[], "", "", [], [], []⟩,
    [⟨false, false, fun v => v.inputFiles ++ ["-o", v.output] ++ v.linkLibraries.map ("-l" ++ ·)⟩], [], [],
    ["stdc++"], [], none⟩

theorem gnuLinker_cached_command_with_empty_output :
    let l : NativeLinker := [LinkerCall.setObjectFiles ["/obj/a.o"], .setOutputFile "/bin/app", .getCommand,
      .setOutputFile ""].foldl LinkerCall.apply demoGNULinker
    l.values.inputFiles ≠ [] ∧ l.values.output = "" ∧
      (NativeLinker.getCommand.run l).result.toOption =
        some (some ⟨"/bin/app", "app", "/bin", "", ["/obj/a.o", "-o", "/bin/app", "-lstdc++"]⟩) := by
  decide

-- getOutputFile
def NativeLinker.getOutputFile (l : NativeLinker) : Path := l.values.output

-- setImportLibrary: the GNU tools' bodies are commented out.
def NativeLinker.setImportLibrary (l : NativeLinker) (importLibrary : Option Path) (out : Path) : Option Path :=
  if l.kind.isVisualStudio then some (out ++ ".lib") else importLibrary

-- getImportLibrary
def NativeLinker.getImportLibrary (l : NativeLinker) (importLibrary : Option Path) : Path :=
  let besideOutput (ext : String) := join (parentPath l.values.output) (stem (filename l.values.output) ++ ext)
  match l.kind with
  | .visualStudioLinker | .visualStudioLibrarian => importLibrary.getD (besideOutput ".lib")
  | .gnuLinker => l.values.output
  | .gnuLibrarian => besideOutput ".a"

theorem beside_append_extension {out ext : Path} {rest : List Char} (named : filename out ≠ "")
    (plain : join (parentPath out) (filename out) = out) (dotted : ext.toList = '.' :: rest) (more : rest ≠ [])
    (single : '.' ∉ rest) (flat : '/' ∉ rest) (suffix : String) :
    join (parentPath (out ++ ext)) (stem (filename (out ++ ext)) ++ suffix) = out ++ suffix := by
  have chars : filenameChars out ≠ [] := fun empty => named (by rw [filename, empty])
  rw [parentPath_append out (by rw [dotted]; simp [flat]), stem_filename_append chars dotted more single flat,
    @join_append _ (filename out) chars, plain]

/-- Only the MSVC linker has an import library apart from its output: out.lib beside out.exe. -/
theorem getImportLibrary_setOutputFile (l : NativeLinker) (default : l.extension = l.kind.defaultExtension)
    (out : Path) (named : filename out ≠ "") (plain : join (parentPath out) (filename out) = out) :
    (l.setOutputFile out).getImportLibrary none =
        (if l.kind = .visualStudioLinker then out ++ ".lib" else (l.setOutputFile out).getOutputFile) ∧
      (l.setOutputFile out).getImportLibrary ((l.setOutputFile out).setImportLibrary none out) =
        (l.setOutputFile out).getImportLibrary none := by
  have exe := @beside_append_extension out ".exe" ['e', 'x', 'e'] named plain rfl (by decide) (by decide) (by decide)
  have lib := @beside_append_extension out ".lib" ['l', 'i', 'b'] named plain rfl (by decide) (by decide) (by decide)
  have a := @beside_append_extension out ".a" ['a'] named plain rfl (by decide) (by decide) (by decide)
  obtain ⟨kind, extension, values, options, additional, directories, libraries, everything, cmd⟩ := l
  simp only at default
  subst default
  cases kind <;>
    simp [NativeLinker.getImportLibrary, NativeLinker.setImportLibrary, NativeLinker.setOutputFile,
      NativeLinker.getOutputFile, LinkerKind.defaultExtension, LinkerKind.isVisualStudio, exe, lib, a]

def demoMsvcLinker : NativeLinker :=
  { demoGNULinker with kind := .visualStudioLinker, extension := LinkerKind.visualStudioLinker.defaultExtension }

theorem getImportLibrary_setOutputFile_zlib :
    (demoMsvcLinker.extension = demoMsvcLinker.kind.defaultExtension ∧ filename "build/zlib" ≠ "" ∧
        join (parentPath "build/zlib") (filename "build/zlib") = "build/zlib") ∧
      (demoMsvcLinker.setOutputFile "build/zlib").getImportLibrary none =
          (if demoMsvcLinker.kind = .visualStudioLinker then "build/zlib" ++ ".lib"
            else (demoMsvcLinker.setOutputFile "build/zlib").getOutputFile) ∧
        (demoMsvcLinker.setOutputFile "build/zlib").getImportLibrary
            ((demoMsvcLinker.setOutputFile "build/zlib").setImportLibrary none "build/zlib") =
          (demoMsvcLinker.setOutputFile "build/zlib").getImportLibrary none :=
  have named : filename "build/zlib" ≠ "" := by decide
  have plain : join (parentPath "build/zlib") (filename "build/zlib") = "build/zlib" := by decide
  ⟨⟨rfl, named, plain⟩, getImportLibrary_setOutputFile demoMsvcLinker rfl "build/zlib" named plain⟩

def libraryGroup (kind : LinkerKind) (files : List Path) : List Path :=
  match kind with
  | .gnuLinker => if files.isEmpty then [] else "-Wl,--start-group" :: files ++ ["-Wl,--end-group"]
  | .visualStudioLinker => files
  | .visualStudioLibrarian | .gnuLibrarian => []

def LinkerCall.libraries (kind : LinkerKind) : LinkerCall → List Path
  | .setInputLibraryDependencies files => libraryGroup kind files
  | _ => []

theorem getCommand_keeps_libraries (l : NativeLinker) :
    (NativeLinker.getCommand.run l).state.kind = l.kind ∧
      (NativeLinker.getCommand.run l).state.values.inputLibraryDependencies = l.values.inputLibraryDependencies := by
  cases cached : l.cmd with
  | some c => rw [getCommand_run_cached cached]; exact ⟨rfl, rfl⟩
  | none =>
      by_cases nothing : l.nothingToLink
      · rw [getCommand_run_null cached nothing]; exact ⟨rfl, rfl⟩
      by_cases unset : l.values.output = ""
      · rw [getCommand_run_unset cached nothing unset]; exact ⟨rfl, rfl⟩
      rw [getCommand_eq, libraryToolGetCommand_run_built cached (by rwa [nothingToLink_iff] at nothing) unset]
      obtain ⟨kind, _, _, _, _, _, _, _, _⟩ := l
      cases kind <;> exact ⟨rfl, rfl⟩

theorem apply_libraries (l : NativeLinker) (call : LinkerCall) :
    (call.apply l).kind = l.kind ∧
      (call.apply l).values.inputLibraryDependencies = l.values.inputLibraryDependencies ++ call.libraries l.kind := by
  cases call with
  | setObjectFiles files =>
      simp only [LinkerCall.apply, NativeLinker.setObjectFiles, LinkerCall.libraries]
      split <;> simp
  | setOutputFile out => simp [LinkerCall.apply, NativeLinker.setOutputFile, LinkerCall.libraries]
  | setInputLibraryDependencies files =>
      obtain ⟨kind, _, _, _, _, _, _, _, _⟩ := l
      cases kind <;> simp only [LinkerCall.apply, NativeLinker.setInputLibraryDependencies, LinkerCall.libraries,
        libraryGroup] <;> (try split) <;> simp_all
  | getCommand => simpa [LinkerCall.libraries] using getCommand_keeps_libraries l

/-- Over any run of member calls, InputLibraryDependencies grows only by the set calls. -/
theorem inputLibraryDependencies_of_calls (l : NativeLinker) (calls : List LinkerCall) :
    (calls.foldl LinkerCall.apply l).values.inputLibraryDependencies =
      l.values.inputLibraryDependencies ++ calls.flatMap (LinkerCall.libraries l.kind) := by
  induction calls generalizing l with
  | nil => simp
  | cons call rest ih =>
      obtain ⟨sameKind, grown⟩ := apply_libraries l call
      rw [List.foldl_cons, ih, grown, sameKind, List.flatMap_cons, List.append_assoc]

example : ([.setInputLibraryDependencies ["z", "png"], .getCommand, .setInputLibraryDependencies ["jpeg"]].foldl
    LinkerCall.apply demoGNULinker).values.inputLibraryDependencies =
      ["-Wl,--start-group", "z", "png", "-Wl,--end-group", "-Wl,--start-group", "jpeg", "-Wl,--end-group"] := by
  decide

end Sw
