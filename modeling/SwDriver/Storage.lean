import SwDriver.SourceFile

set_option autoImplicit false

namespace Sw

namespace SourceFileStorage

section Operations

variable (t : Target)

-- this->SourceFileMapThis::operator[](file)
def entry (file : Path) : StorageExec (Option SourceFile) :=
  ⟨fun s => .ok (s.files.index file none).1 { s with files := (s.files.index file none).2 }⟩

def store (file : Path) (f : SourceFile) : StorageExec Unit :=
  Exec.modify fun s => { s with files := s.files.set file (some f) }

def erase (file : Path) : StorageExec Unit := Exec.modify fun s => { s with files := s.files.erase file }

def pushOp (op : FileOp) : StorageExec Unit := Exec.modify fun s => { s with fileOps := s.fileOps ++ [op] }

def whenPostponed (queued : FileOp) (immediate : StorageExec Unit) : StorageExec Unit := do
  if ← Exec.read (·.postponeFileResolving) then pushOp queued else immediate

def createEntry (file : Path) (program : PackageId) (previous : Option SourceFile) : SourceFile :=
  match findLanguageByPackageId t program with
  | none => SourceFile.deferred file
  | some L =>
      let created := NativeLanguage.createSourceFile t L file
      match previous with
      | some old => if old.postponed then { created with args := old.args, skip := old.skip } else created
      | none => created

def boundEntry (file : Path) (f : Option SourceFile) : SourceFile :=
  match findPackageIdByExtension t (extension file) with
  | none => SourceFile.placeholder file
  | some program =>
      if t.headerOnly = some true then SourceFile.placeholder file
      else match f with
        | none => createEntry t file program none
        | some old => if old.postponed then createEntry t file program (some old) else old

def addUnchecked (fileIn : Path) (skip : Bool) : StorageExec Unit := do
  let some file ← Exec.ofExcept (checkAbsolute t fileIn skip) | pure ()
  let f ← entry file
  let autodetect ← Exec.read (·.autodetect)
  let bound := boundEntry t file f
  store file { bound with skip := if autodetect then bound.skip || skip else skip }

-- glob_cache[dir][recursive]
def cachedFiles (dir : Path) (recursive : Bool) : StorageExec (List Path) := do
  let cached := (← Exec.read (·.globCache.get? (dir, recursive))).getD []
  if cached.isEmpty then
    let files := t.fs.enumerateFiles dir recursive
    Exec.modify fun s => { s with globCache := s.globCache.set (dir, recursive) files }
    pure files
  else pure cached

def globRoot (r : FileRegex) : Path := if isAbsolute r.dir then r.dir else join t.sourceDir r.dir

def op (r : FileRegex) (func : Path → StorageExec Unit) : StorageExec Unit := do
  let dir := globRoot t r
  let rootS := dropTrailingSeparator (normalizePath dir)
  let files ← cachedFiles t dir r.recursive
  files.forM fun f => do
    let s ← Exec.ofExcept (substr (normalizePath f) (rootS.length + 1))
    if r.r s then func f

def add (file : Path) : StorageExec Unit := whenPostponed ⟨.path file, true⟩ (addUnchecked t file false)

def addFiles (files : List Path) : StorageExec Unit := files.forM (add t)

def add1 (r : FileRegex) : StorageExec Unit := op t r (add t)

def addRoot (root : Path) (r : FileRegex) : StorageExec Unit :=
  whenPostponed ⟨.regex { r with dir := join root r.dir }, true⟩ (add1 t { r with dir := join root r.dir })

def addRegex (r : FileRegex) : StorageExec Unit := whenPostponed ⟨.regex r, true⟩ (addRoot t t.sourceDir r)

def remove (file : Path) : StorageExec Unit := whenPostponed ⟨.path file, false⟩ (addUnchecked t file true)

def removeFiles (files : List Path) : StorageExec Unit := files.forM (remove t)

def remove1 (r : FileRegex) : StorageExec Unit := op t r (remove t)

def removeRoot (root : Path) (r : FileRegex) : StorageExec Unit :=
  whenPostponed ⟨.regex { r with dir := join root r.dir }, false⟩ (remove1 t { r with dir := join root r.dir })

def removeRegex (r : FileRegex) : StorageExec Unit := whenPostponed ⟨.regex r, false⟩ (removeRoot t t.sourceDir r)

def removeFull (file : Path) : StorageExec Unit :=
  match checkAbsolute t file true with
  | .ok (some F) => erase F
  | _ => pure ()

def removeExclude (file : Path) : StorageExec Unit := removeFull t file

def removeExcludeFiles (files : List Path) : StorageExec Unit := files.forM (removeFull t)

def removeFull1 (r : FileRegex) : StorageExec Unit := op t r (removeFull t)

def removeExcludeRoot (root : Path) (r : FileRegex) : StorageExec Unit :=
  removeFull1 t { r with dir := join root r.dir }

def removeExcludeRegex (r : FileRegex) : StorageExec Unit := removeExcludeRoot t t.sourceDir r

def replay (fileOp : FileOp) : StorageExec Unit :=
  match fileOp.add, fileOp.op with
  | true, .path file => add t file
  | true, .regex r => add1 t r
  | false, .path file => remove t file
  | false, .regex r => remove1 t r

-- resolve()
def resolve : StorageExec Unit := do
  Exec.modify fun s => { s with postponeFileResolving := false }
  let ops ← Exec.read (·.fileOps)
  ops.forM (replay t)

-- storage[F] = ...; while postponed, operator[]'s static SourceFile, outside every storage.
def index (F : Path) (update : SourceFile → SourceFile) : StorageExec Unit := do
  if ← Exec.read (·.postponeFileResolving) then pure ()
  else
    let F := (← Exec.ofExcept (checkAbsolute t F false)).getD F
    match ← entry F with
    | none => Exec.throw ("Empty source file: " ++ F)
    | some f => store F (update f)

def merge (other : Map Path (Option SourceFile)) : StorageExec Unit :=
  other.forM fun entry' => do
    if (← entry entry'.1).isNone then add t entry'.1

-- enumerate_files
def selectFiles (rootLength : Nat) (r : String → Bool) :
    Map Path (Option SourceFile) → Except String (Map Path (Option SourceFile))
  | [] => .ok []
  | (p, f) :: rest => do
      let s ← substr (normalizePath p) (rootLength + 1)
      let others ← selectFiles rootLength r rest
      pure (if r s then (p, f) :: others else others)

def enumerateFiles (s : SourceFileStorage) (r : FileRegex) : Except String (Map Path (Option SourceFile)) :=
  selectFiles (dropTrailingSeparator (normalizePath (globRoot t r))).length r.r s.files

def tracked (s : SourceFileStorage) (p : Path) : Option SourceFile := (s.files.get? p).getD none

def addedEntry (s : SourceFileStorage) (file : Path) (skip : Bool) : SourceFile :=
  let bound := boundEntry t file (tracked s file)
  { bound with skip := if s.autodetect then bound.skip || skip else skip }

@[simp] theorem run_entry (file : Path) (s : SourceFileStorage) :
    (entry file).run s = .ok (tracked s file) { s with files := (s.files.index file none).2 } := by
  simp [entry, Map.index_fst, tracked]

@[simp] theorem tracked_set (s : SourceFileStorage) (file p : Path) (f : Option SourceFile) :
    tracked { s with files := s.files.set file f } p = if file = p then f else tracked s p := by
  simp only [tracked, Map.get?_set]
  split <;> rfl

theorem run_whenPostponed_unset (queued : FileOp) (m : StorageExec Unit) {s : SourceFileStorage}
    (unset : s.postponeFileResolving = false) : (whenPostponed queued m).run s = m.run s := by
  simp [whenPostponed, unset]

theorem run_whenPostponed_set (queued : FileOp) (m : StorageExec Unit) {s : SourceFileStorage}
    (set : s.postponeFileResolving = true) :
    (whenPostponed queued m).run s = .ok () { s with fileOps := s.fileOps ++ [queued] } := by
  simp [whenPostponed, set, pushOp]

theorem run_addUnchecked (fileIn : Path) (skip : Bool) (s : SourceFileStorage) :
    (addUnchecked t fileIn skip).run s =
      match checkAbsolute t fileIn skip with
      | .error e => .error e s
      | .ok none => .ok () s
      | .ok (some file) => .ok () { s with files := s.files.set file (some (addedEntry t s file skip)) } := by
  unfold addUnchecked
  cases checkAbsolute t fileIn skip with
  | error e => rfl
  | ok found =>
      cases found with
      | none => rfl
      | some file => simp [store, addedEntry]

end Operations

-- sizeKnown()
def sizeKnown (s : SourceFileStorage) : Option Nat :=
  s.files.foldr (fun e acc => match e.2, acc with
    | some f, some n => some (if f.skip then n else n + 1)
    | _, _ => none) (some 0)

def sizeSkipped (s : SourceFileStorage) : Option Nat := (sizeKnown s).map (s.files.length - ·)

end SourceFileStorage

inductive StorageCall where
  | add (file : Path)
  | addFiles (files : List Path)
  | addRegex (r : FileRegex)
  | addRoot (root : Path) (r : FileRegex)
  | remove (file : Path)
  | removeFiles (files : List Path)
  | removeRegex (r : FileRegex)
  | removeRoot (root : Path) (r : FileRegex)
  | removeExclude (file : Path)
  | removeExcludeFiles (files : List Path)
  | removeExcludeRegex (r : FileRegex)
  | removeExcludeRoot (root : Path) (r : FileRegex)
  | resolve

def demoFilesystem : Filesystem :=
  ⟨fun p => p = "/src/a.cpp" || p = "/src/b.h", fun _ => false,
    fun d _ => if d = "/src" || d = "/src/" then ["/src/a.cpp", "/src/b.h"] else [], "/", rfl⟩

def demoTarget (registry : LanguageStorage) : Target :=
  ⟨"/src", "/build", none, "app", registry, LanguageStorage.empty, demoFilesystem, fun _ => "0123456789abcdef"⟩

def gccPackage : PackageId := ⟨"org.gnu.gcc", [8]⟩

def gccLanguage : Language := ⟨1, [".cpp"], sampleCompiler⟩

def gccRegistry : LanguageStorage :=
  ((LanguageStorage.empty.registerLanguage gccPackage gccLanguage).activateLanguage gccPackage).2

def pendingRegistry : LanguageStorage := LanguageStorage.empty.setExtensionPackage ".cpp" gccPackage

def StorageCall.exec (t : Target) : StorageCall → StorageExec Unit
  | .add file => SourceFileStorage.add t file
  | .addFiles files => SourceFileStorage.addFiles t files
  | .addRegex r => SourceFileStorage.addRegex t r
  | .addRoot root r => SourceFileStorage.addRoot t root r
  | .remove file => SourceFileStorage.remove t file
  | .removeFiles files => SourceFileStorage.removeFiles t files
  | .removeRegex r => SourceFileStorage.removeRegex t r
  | .removeRoot root r => SourceFileStorage.removeRoot t root r
  | .removeExclude file => SourceFileStorage.removeExclude t file
  | .removeExcludeFiles files => SourceFileStorage.removeExcludeFiles t files
  | .removeExcludeRegex r => SourceFileStorage.removeExcludeRegex t r
  | .removeExcludeRoot root r => SourceFileStorage.removeExcludeRoot t root r
  | .resolve => SourceFileStorage.resolve t

theorem SourceFileStorage.replay_closed (t : Target) (Q : StorageExec Unit → Prop)
    (adds : ∀ f, Q (SourceFileStorage.add t f)) (removes : ∀ f, Q (SourceFileStorage.remove t f))
    (globbed : ∀ r func, (∀ f, Q (func f)) → Q (SourceFileStorage.op t r func)) (o : FileOp) :
    Q (SourceFileStorage.replay t o) := by
  unfold SourceFileStorage.replay
  split
  · exact adds _
  · exact globbed _ _ adds
  · exact removes _
  · exact globbed _ _ removes

theorem StorageCall.exec_closed (t : Target) (Q : StorageExec Unit → Prop)
    (adds : ∀ f, Q (SourceFileStorage.add t f)) (removes : ∀ f, Q (SourceFileStorage.remove t f))
    (erases : ∀ f, Q (SourceFileStorage.removeFull t f))
    (postponed : ∀ o m, Q m → Q (SourceFileStorage.whenPostponed o m))
    (globbed : ∀ r func, (∀ f, Q (func f)) → Q (SourceFileStorage.op t r func))
    (looped : ∀ (files : List Path) func, (∀ f, Q (func f)) → Q (files.forM func))
    (c : StorageCall) (direct : c ≠ .resolve) : Q (c.exec t) := by
  cases c with
  | add file => exact adds file
  | addFiles files => exact looped files _ adds
  | addRegex r => exact postponed _ _ (postponed _ _ (globbed _ _ adds))
  | addRoot root r => exact postponed _ _ (globbed _ _ adds)
  | remove file => exact removes file
  | removeFiles files => exact looped files _ removes
  | removeRegex r => exact postponed _ _ (postponed _ _ (globbed _ _ removes))
  | removeRoot root r => exact postponed _ _ (globbed _ _ removes)
  | removeExclude file => exact erases file
  | removeExcludeFiles files => exact looped files _ erases
  | removeExcludeRegex r | removeExcludeRoot root r => exact globbed _ _ erases
  | resolve => exact absurd rfl direct

end Sw
