import SwDriver.Compiler

set_option autoImplicit false

namespace Sw

-- NativeSourceFile::getCommand (source_file.cpp) over the command objects it reaches.

structure CommandObject where
  command : Command
  dependencies : List Nat

structure SourceNode where
  compiler : NativeCompiler
  cmd : Option Nat
  dependencies : List Nat

structure CommandGraph where
  commands : List CommandObject
  files : List SourceNode

-- NativeSourceFile(const NativeSourceFile &): the compiler is rhs.compiler->clone().
def SourceNode.copy (file : SourceNode) : SourceNode := { file with compiler := file.compiler.clone }

-- compiler->getCommand()
def compilerCommand (g : CommandGraph) (i : Nat) (file : SourceNode) : Nat × CommandGraph :=
  match file.cmd with
  | some a => (a, g)
  | none =>
      let built := file.compiler.getCommand
      (g.commands.length,
        ⟨g.commands ++ [⟨built.1, []⟩], g.files.set i { file with compiler := built.2, cmd := some g.commands.length }⟩)

-- cmd->dependencies.insert(dep)
def insertDependency (g : CommandGraph) (a dep : Nat) : CommandGraph :=
  { g with commands := g.commands.modify (fun o => { o with dependencies := o.dependencies.insert dep }) a }

def NativeSourceFile.getCommand : Nat → CommandGraph → Nat → Option (Nat × CommandGraph)
  | 0, _, _ => none
  | fuel + 1, g, i =>
      match g.files[i]? with
      | none => none
      | some file =>
          let (a, g) := compilerCommand g i file
          (file.dependencies.foldlM
            (fun g d => (NativeSourceFile.getCommand fuel g d).map fun (da, g) => insertDependency g a da) g).map (a, ·)

structure Extends (g g' : CommandGraph) : Prop where
  shape : g'.files.map (·.dependencies) = g.files.map (·.dependencies)
  cached : ∀ (j a : Nat), (g.files[j]?).bind SourceNode.cmd = some a → (g'.files[j]?).bind SourceNode.cmd = some a
  grows : ∀ (a : Nat) (o : CommandObject), g.commands[a]? = some o →
    ∃ o', g'.commands[a]? = some o' ∧ o.dependencies ⊆ o'.dependencies

def Valid (g : CommandGraph) : Prop :=
  ∀ (j a : Nat), (g.files[j]?).bind SourceNode.cmd = some a → a < g.commands.length

theorem Extends.refl (g : CommandGraph) : Extends g g :=
  ⟨rfl, fun _ _ cached => cached, fun _ o found => ⟨o, found, List.Subset.refl _⟩⟩

theorem Extends.trans {g g' g'' : CommandGraph} (first : Extends g g') (second : Extends g' g'') : Extends g g'' := by
  refine ⟨second.shape.trans first.shape, fun j a h => second.cached j a (first.cached j a h), fun a o found => ?_⟩
  obtain ⟨o', found', sub⟩ := first.grows a o found
  obtain ⟨o'', found'', sub'⟩ := second.grows a o' found'
  exact ⟨o'', found'', List.Subset.trans sub sub'⟩

theorem Extends.length {g g' : CommandGraph} (ext : Extends g g') : g'.files.length = g.files.length := by
  simpa using congrArg List.length ext.shape

theorem compilerCommand_fst {g : CommandGraph} {i : Nat} {file : SourceNode} {a : Nat} (cached : file.cmd = some a) :
    compilerCommand g i file = (a, g) := by
  simp [compilerCommand, cached]

section Compiler

variable {g : CommandGraph} {i : Nat} {file : SourceNode}

theorem files_set_of_found (found : g.files[i]? = some file) (j : Nat) (file' : SourceNode) :
    (g.files.set i file')[j]? = if i = j then some file' else g.files[j]? := by
  obtain ⟨within, -⟩ := List.getElem?_eq_some_iff.mp found
  by_cases same : i = j
  · subst same
    simp [List.getElem?_set, within]
  · simp [List.getElem?_set, same]

theorem compilerCommand_caches (found : g.files[i]? = some file) :
    ((compilerCommand g i file).2.files[i]?).bind SourceNode.cmd = some (compilerCommand g i file).1 := by
  cases fresh : file.cmd with
  | some a => simp [compilerCommand_fst fresh, found, fresh]
  | none => simp [compilerCommand, fresh, files_set_of_found found]

theorem compilerCommand_extends (found : g.files[i]? = some file) : Extends g (compilerCommand g i file).2 := by
  cases fresh : file.cmd with
  | some a => simpa [compilerCommand_fst fresh] using Extends.refl g
  | none =>
      simp only [compilerCommand, fresh]
      refine ⟨List.ext_getElem? fun j => ?_, fun j a cached => ?_, fun a o old => ?_⟩
      · rw [List.getElem?_map, List.getElem?_map, files_set_of_found found]
        split
        · subst i
          simp [found]
        · rfl
      · by_cases same : i = j
        · subst same
          simp [found, fresh] at cached
        · simpa [files_set_of_found found, same] using cached
      · exact ⟨o, by rw [List.getElem?_append_left (List.getElem?_eq_some_iff.mp old).1, old], List.Subset.refl _⟩

theorem compilerCommand_valid (found : g.files[i]? = some file) (valid : Valid g) :
    Valid (compilerCommand g i file).2 := by
  cases fresh : file.cmd with
  | some a => simpa [compilerCommand_fst fresh] using valid
  | none =>
      simp only [compilerCommand, fresh]
      intro j a cached
      by_cases same : i = j
      · subst same
        simp [files_set_of_found found] at cached
        simp [← cached]
      · have := valid j a (by simpa [files_set_of_found found, same] using cached)
        simp only [List.length_append, List.length_singleton]
        omega

end Compiler

theorem insertDependency_extends (g : CommandGraph) (a dep : Nat) : Extends g (insertDependency g a dep) := by
  refine ⟨rfl, fun _ _ cached => cached, fun b o found => ?_⟩
  refine ⟨if a = b then { o with dependencies := o.dependencies.insert dep } else o, ?_, ?_⟩
  · simp [insertDependency, List.getElem?_modify, found]
  · split
    · exact fun x mem => List.mem_insert_of_mem mem
    · exact List.Subset.refl _

theorem insertDependency_valid {g : CommandGraph} {a dep : Nat} (valid : Valid g) : Valid (insertDependency g a dep) := by
  simpa [Valid, insertDependency] using valid

theorem insertDependency_mem {g : CommandGraph} {a : Nat} (dep : Nat) (within : a < g.commands.length) :
    ∃ o, (insertDependency g a dep).commands[a]? = some o ∧ dep ∈ o.dependencies := by
  refine ⟨{ g.commands[a] with dependencies := g.commands[a].dependencies.insert dep }, ?_, List.mem_insert_self _ _⟩
  simp [insertDependency, List.getElem?_modify, List.getElem?_eq_getElem within]

theorem foldlM_invariant {f : CommandGraph → Nat → Option CommandGraph} (Q : List Nat → CommandGraph → Prop) :
    ∀ (ds done : List Nat) (g g' : CommandGraph), (∀ done d h h', d ∈ ds → Q done h → f h d = some h' → Q (done ++ [d]) h') →
      Q done g → ds.foldlM f g = some g' → Q (done ++ ds) g'
  | [], done, g, g', _, kept, folded => by
      cases folded
      simpa using kept
  | d :: rest, done, g, g', step, kept, folded => by
      rw [List.foldlM_cons] at folded
      cases next : f g d with
      | none => rw [next] at folded; cases folded
      | some g₁ =>
          rw [next] at folded
          have later := foldlM_invariant Q rest (done ++ [d]) g₁ g'
            (fun done d' h h' mem => step done d' h h' (List.mem_cons_of_mem _ mem))
            (step done d g g₁ (List.mem_cons_self _ _) kept next) folded
          simpa using later

theorem getCommand_unfold {fuel : Nat} {g : CommandGraph} {i a : Nat} {g' : CommandGraph}
    (ran : NativeSourceFile.getCommand (fuel + 1) g i = some (a, g')) :
    ∃ file, g.files[i]? = some file ∧ (compilerCommand g i file).1 = a ∧
      file.dependencies.foldlM (fun g d => (NativeSourceFile.getCommand fuel g d).map fun x => insertDependency x.2 a x.1)
        (compilerCommand g i file).2 = some g' := by
  unfold NativeSourceFile.getCommand at ran
  cases found : g.files[i]? with
  | none => rw [found] at ran; cases ran
  | some file =>
      simp only [found] at ran
      obtain ⟨g₂, folded, same⟩ := Option.map_eq_some'.mp ran
      obtain ⟨rfl, rfl⟩ := Prod.mk.inj same
      exact ⟨file, rfl, rfl, folded⟩

theorem getCommand_extends : ∀ (fuel : Nat) (g : CommandGraph) (i a : Nat) (g' : CommandGraph),
    NativeSourceFile.getCommand fuel g i = some (a, g') → Extends g g' ∧ (g'.files[i]?).bind SourceNode.cmd = some a
  | 0, _, _, _, _, ran => by cases ran
  | fuel + 1, g, i, a, g', ran => by
      obtain ⟨file, found, rfl, folded⟩ := getCommand_unfold ran
      have kept : Extends (compilerCommand g i file).2 g' := by
        refine foldlM_invariant (fun _ h => Extends (compilerCommand g i file).2 h) _ [] _ g' ?_ (Extends.refl _) folded
        rintro - d h h' - ext step
        obtain ⟨⟨da, h₁⟩, inner, rfl⟩ := Option.map_eq_some'.mp step
        exact (ext.trans (getCommand_extends fuel h d da h₁ inner).1).trans (insertDependency_extends _ _ _)
      exact ⟨(compilerCommand_extends found).trans kept, kept.cached i _ (compilerCommand_caches found)⟩

theorem Extends.file {g g' : CommandGraph} (ext : Extends g g') {i : Nat} {file : SourceNode}
    (found : g.files[i]? = some file) : ∃ file', g'.files[i]? = some file' ∧ file'.dependencies = file.dependencies := by
  have same := congrArg (·[i]?) ext.shape
  simp only [List.getElem?_map, found, Option.map_some'] at same
  exact Option.map_eq_some'.mp same

theorem insertDependency_of_mem {g : CommandGraph} {a dep : Nat} {o : CommandObject} (found : g.commands[a]? = some o)
    (mem : dep ∈ o.dependencies) : insertDependency g a dep = g := by
  suffices same : g.commands.modify (fun o => { o with dependencies := o.dependencies.insert dep }) a = g.commands by
    simp [insertDependency, same]
  refine List.ext_getElem? fun j => ?_
  rw [List.getElem?_modify]
  split
  · subst j
    simp [found, List.insert_of_mem mem]
  · cases g.commands[j]? <;> rfl

def Settled (g : CommandGraph) : Nat → Nat → Prop
  | 0, _ => False
  | fuel + 1, i => ∃ file a o, g.files[i]? = some file ∧ file.cmd = some a ∧ g.commands[a]? = some o ∧
      ∀ d ∈ file.dependencies, Settled g fuel d ∧ ∃ da, (g.files[d]?).bind SourceNode.cmd = some da ∧ da ∈ o.dependencies

theorem Settled.mono {g g' : CommandGraph} (ext : Extends g g') : ∀ {fuel i : Nat}, Settled g fuel i → Settled g' fuel i
  | 0, _, settled => settled
  | fuel + 1, i, ⟨file, a, o, found, cached, obj, linked⟩ => by
      obtain ⟨file', found', deps⟩ := ext.file found
      obtain ⟨o', obj', sub⟩ := ext.grows a o obj
      have cached' : file'.cmd = some a := by simpa [found'] using ext.cached i a (by simp [found, cached])
      refine ⟨file', a, o', found', cached', obj', fun d mem => ?_⟩
      obtain ⟨below, da, cachedD, member⟩ := linked d (deps ▸ mem)
      exact ⟨Settled.mono ext below, da, ext.cached d da cachedD, sub member⟩

theorem Settled.succ {g : CommandGraph} : ∀ {fuel i : Nat}, Settled g fuel i → Settled g (fuel + 1) i
  | 0, _, settled => nomatch settled
  | _ + 1, _, ⟨file, a, o, found, cached, obj, linked⟩ =>
      ⟨file, a, o, found, cached, obj, fun d mem => ⟨(linked d mem).1.succ, (linked d mem).2⟩⟩

theorem Settled.of_le {g : CommandGraph} {fuel fuel' i : Nat} (more : fuel ≤ fuel') (settled : Settled g fuel i) :
    Settled g fuel' i := by
  induction more with
  | refl => exact settled
  | step _ ih => exact ih.succ

theorem foldlM_succeeds {f : CommandGraph → Nat → Option CommandGraph} (P : CommandGraph → Prop) :
    ∀ (ds : List Nat) (g : CommandGraph), (∀ d ∈ ds, ∀ h, P h → ∃ h', f h d = some h' ∧ P h') → P g →
      ∃ g', ds.foldlM f g = some g'
  | [], g, _, _ => ⟨g, rfl⟩
  | d :: rest, g, step, kept => by
      obtain ⟨g₁, next, kept₁⟩ := step d (List.mem_cons_self _ _) g kept
      rw [List.foldlM_cons, next]
      exact foldlM_succeeds P rest g₁ (fun d' mem => step d' (List.mem_cons_of_mem _ mem)) kept₁

theorem foldlM_fixed {f : CommandGraph → Nat → Option CommandGraph} {g : CommandGraph} :
    ∀ ds : List Nat, (∀ d ∈ ds, f g d = some g) → ds.foldlM f g = some g
  | [], _ => rfl
  | d :: rest, fixed => by
      rw [List.foldlM_cons, fixed d (List.mem_cons_self _ _)]
      exact foldlM_fixed rest fun d' mem => fixed d' (List.mem_cons_of_mem _ mem)

theorem getCommand_of_cached {fuel : Nat} {g g' : CommandGraph} {i a b : Nat}
    (cached : (g.files[i]?).bind SourceNode.cmd = some a) (ran : NativeSourceFile.getCommand fuel g i = some (b, g')) :
    b = a := by
  cases fuel with
  | zero => cases ran
  | succ fuel =>
      obtain ⟨file, found, rfl, -⟩ := getCommand_unfold ran
      have cmd : file.cmd = some a := by simpa [found] using cached
      simp [compilerCommand_fst cmd]

theorem getCommand_of_settled : ∀ {fuel : Nat} {g : CommandGraph} {i : Nat}, Settled g fuel i →
    ∃ a, NativeSourceFile.getCommand fuel g i = some (a, g)
  | 0, _, _, settled => nomatch settled
  | fuel + 1, g, i, ⟨file, a, o, found, cached, obj, linked⟩ => by
      have each : ∀ d ∈ file.dependencies,
          (NativeSourceFile.getCommand fuel g d).map (fun x => insertDependency x.2 a x.1) = some g := by
        intro d mem
        obtain ⟨below, da, cachedD, member⟩ := linked d mem
        obtain ⟨db, ran⟩ := getCommand_of_settled below
        obtain rfl := getCommand_of_cached cachedD ran
        simp [ran, insertDependency_of_mem obj member]
      have folded := foldlM_fixed (f := fun h d => (NativeSourceFile.getCommand fuel h d).map fun x => insertDependency x.2 a x.1)
        file.dependencies each
      exact ⟨a, by simp only [NativeSourceFile.getCommand, found, compilerCommand_fst cached, folded, Option.map_some']⟩

theorem getCommand_settles : ∀ (fuel : Nat) (g : CommandGraph) (i a : Nat) (g' : CommandGraph), Valid g →
    NativeSourceFile.getCommand fuel g i = some (a, g') → Valid g' ∧ Settled g' fuel i
  | 0, _, _, _, _, _, ran => by cases ran
  | fuel + 1, g, i, a, g', valid, ran => by
      obtain ⟨file, found, rfl, folded⟩ := getCommand_unfold ran
      let g₁ := (compilerCommand g i file).2
      let a₁ := (compilerCommand g i file).1
      let Q : List Nat → CommandGraph → Prop := fun done h => Extends g₁ h ∧ Valid h ∧
        ∀ d ∈ done, Settled h fuel d ∧ ∃ da o, (h.files[d]?).bind SourceNode.cmd = some da ∧
          h.commands[a₁]? = some o ∧ da ∈ o.dependencies
      have kept : Q file.dependencies g' := by
        refine foldlM_invariant Q _ [] g₁ g' ?_ ⟨Extends.refl g₁, compilerCommand_valid found valid, by simp⟩ folded
        rintro done d h h' - ⟨ext, validH, linked⟩ step
        obtain ⟨⟨da, h₁⟩, inner, rfl⟩ := Option.map_eq_some'.mp step
        obtain ⟨ext', cached'⟩ := getCommand_extends fuel h d da h₁ inner
        obtain ⟨valid', settled'⟩ := getCommand_settles fuel h d da h₁ validH inner
        have extI := insertDependency_extends h₁ a₁ da
        have within : a₁ < h₁.commands.length := valid' i a₁ ((ext.trans ext').cached i a₁ (compilerCommand_caches found))
        refine ⟨(ext.trans ext').trans extI, insertDependency_valid valid', fun d' mem => ?_⟩
        rcases List.mem_append.mp mem with old | new
        · obtain ⟨settledD, da', o, cachedD, found', member⟩ := linked d' old
          obtain ⟨o', found'', sub⟩ := (ext'.trans extI).grows a₁ o found'
          exact ⟨settledD.mono (ext'.trans extI), da', o', (ext'.trans extI).cached d' da' cachedD, found'', sub member⟩
        · obtain rfl := List.mem_singleton.mp new
          obtain ⟨o, found', member⟩ := insertDependency_mem da within
          exact ⟨settled'.mono extI, da, o, extI.cached _ _ cached', found', member⟩
      obtain ⟨ext₂, valid₂, linked⟩ := kept
      obtain ⟨file', found', deps⟩ := ((compilerCommand_extends found).trans ext₂).file found
      have cached₂ : file'.cmd = some a₁ := by simpa [found'] using ext₂.cached i a₁ (compilerCommand_caches found)
      obtain ⟨o, obj⟩ : ∃ o, g'.commands[a₁]? = some o :=
        ⟨_, List.getElem?_eq_getElem (valid₂ i a₁ (by simp [found', cached₂]))⟩
      refine ⟨valid₂, file', a₁, o, found', cached₂, obj, fun d mem => ?_⟩
      obtain ⟨settledD, da, o', cachedD, obj', member⟩ := linked d (by simpa [deps] using mem)
      obtain rfl : o' = o := Option.some.inj (obj'.symm.trans obj)
      exact ⟨settledD, da, cachedD, member⟩

-- Two g++ files, b.cpp depending on a.cpp, neither compiled yet.
def sampleNode (input output : Path) (dependencies : List Nat) : SourceNode :=
  ⟨⟨.gnu, "/usr/bin/g++", ⟨some input, none, none, some output, none⟩, [], [], [], none⟩, none, dependencies⟩

def sampleGraph : CommandGraph :=
  ⟨[], [sampleNode "/src/a.cpp" "/obj/a.o" [], sampleNode "/src/b.cpp" "/obj/b.o" [0]]⟩

theorem sampleGraph_valid : Valid sampleGraph := by
  intro j a cached
  rcases j with _ | _ | j <;> simp [sampleGraph, sampleNode] at cached

theorem getCommand_stable {fuel fuel' : Nat} {g g' g'' : CommandGraph} {i a : Nat} (valid : Valid g)
    (ran : NativeSourceFile.getCommand fuel g i = some (a, g')) (between : Extends g' g'') (more : fuel ≤ fuel') :
    NativeSourceFile.getCommand fuel' g'' i = some (a, g'') := by
  obtain ⟨b, again⟩ := getCommand_of_settled (((getCommand_settles fuel g i a g' valid ran).2.mono between).of_le more)
  obtain rfl := getCommand_of_cached (between.cached i a (getCommand_extends fuel g i a g' ran).2) again
  exact again

theorem getCommand_stable_sample :
    ∃ a g', NativeSourceFile.getCommand 2 sampleGraph 1 = some (a, g') ∧
      NativeSourceFile.getCommand 3 g' 1 = some (a, g') := by
  obtain ⟨a, g', ran⟩ : ∃ a g', NativeSourceFile.getCommand 2 sampleGraph 1 = some (a, g') := ⟨_, _, rfl⟩
  exact ⟨a, g', ran, getCommand_stable sampleGraph_valid ran (Extends.refl g') (by decide)⟩

-- An acyclic dependency relation, ranked by the longest path below each file.
def Ranked (deps : List (List Nat)) (rank : Nat → Nat) : Prop :=
  ∀ i (_ : i < deps.length), ∀ d ∈ deps[i], d < deps.length ∧ rank d < rank i

instance (deps : List (List Nat)) (rank : Nat → Nat) : Decidable (Ranked deps rank) :=
  inferInstanceAs (Decidable (∀ i (_ : i < deps.length), _))

theorem getCommand_terminates (rank : Nat → Nat) :
    ∀ (fuel : Nat) (g : CommandGraph) (i : Nat), Ranked (g.files.map (·.dependencies)) rank →
      i < g.files.length → rank i < fuel → ∃ a g', NativeSourceFile.getCommand fuel g i = some (a, g')
  | 0, _, _, _, _, enough => absurd enough (Nat.not_lt_zero _)
  | fuel + 1, g, i, ranked, valid, enough => by
      have found : g.files[i]? = some g.files[i] := List.getElem?_eq_getElem valid
      have below : ∀ d ∈ g.files[i].dependencies, d < g.files.length ∧ rank d < rank i := fun d mem => by
        simpa using ranked i (by simpa using valid) d (by simpa using mem)
      generalize g.files[i] = file at found below
      rcases built : compilerCommand g i file with ⟨a, g₁⟩
      have first : Extends g g₁ := by simpa [built] using compilerCommand_extends found
      have step : ∀ d ∈ file.dependencies, ∀ h, Extends g h →
          ∃ h', (NativeSourceFile.getCommand fuel h d).map (fun x => insertDependency x.2 a x.1) = some h' ∧ Extends g h' := by
        intro d mem h ext
        have bound := below d mem
        obtain ⟨da, h₁, ran⟩ := getCommand_terminates rank fuel h d (by rw [ext.shape]; exact ranked)
          (by rw [ext.length]; exact bound.1) (by omega)
        refine ⟨insertDependency h₁ a da, by simp only [ran, Option.map_some'], ?_⟩
        exact (ext.trans (getCommand_extends fuel h d da h₁ ran).1).trans (insertDependency_extends _ _ _)
      obtain ⟨g₂, folded⟩ := foldlM_succeeds (Extends g) file.dependencies g₁ step first
      exact ⟨a, g₂, by simp [NativeSourceFile.getCommand, found, built, folded]⟩

theorem getCommand_terminates_sample :
    Ranked (sampleGraph.files.map (·.dependencies)) id ∧
      ∃ a g', NativeSourceFile.getCommand 2 sampleGraph 1 = some (a, g') :=
  have ranked : Ranked (sampleGraph.files.map (·.dependencies)) id := by decide
  ⟨ranked, getCommand_terminates id 2 sampleGraph 1 ranked (by decide) (by decide)⟩

section Mirror

def Unshared (g : CommandGraph) : Prop :=
  ∀ (i j a : Nat), (g.files[i]?).bind SourceNode.cmd = some a → (g.files[j]?).bind SourceNode.cmd = some a → i = j

def Mirrors (g : CommandGraph) (a b : Nat) : Prop :=
  ∃ (i : Nat) (file : SourceNode) (d : Nat), g.files[i]? = some file ∧ file.cmd = some a ∧ d ∈ file.dependencies ∧
    (g.files[d]?).bind SourceNode.cmd = some b

def Mirrored (g : CommandGraph) : Prop :=
  ∀ (a : Nat) (o : CommandObject), g.commands[a]? = some o → ∀ b ∈ o.dependencies, Mirrors g a b

inductive DependsOn (g : CommandGraph) : Nat → Nat → Prop where
  | edge {a b : Nat} {o : CommandObject} : g.commands[a]? = some o → b ∈ o.dependencies → DependsOn g a b
  | trans {a b c : Nat} : DependsOn g a b → DependsOn g b c → DependsOn g a c

theorem Mirrors.mono {g g' : CommandGraph} (ext : Extends g g') {a b : Nat} : Mirrors g a b → Mirrors g' a b
  | ⟨i, file, d, found, cached, dep, cachedD⟩ => by
      obtain ⟨file', found', deps⟩ := ext.file found
      have cached' : file'.cmd = some a := by simpa [found'] using ext.cached i a (by simp [found, cached])
      exact ⟨i, file', d, found', cached', deps ▸ dep, ext.cached d b cachedD⟩

section Compiler

variable {g : CommandGraph} {i : Nat} {file : SourceNode}

theorem compilerCommand_cached_iff (found : g.files[i]? = some file) (fresh : file.cmd = none) (j a : Nat) :
    ((compilerCommand g i file).2.files[j]?).bind SourceNode.cmd = some a ↔
      (i = j ∧ a = g.commands.length) ∨ (i ≠ j ∧ (g.files[j]?).bind SourceNode.cmd = some a) := by
  simp only [compilerCommand, fresh, files_set_of_found found]
  by_cases same : i = j
  · simp [same, eq_comm]
  · simp [same]

theorem compilerCommand_unshared (found : g.files[i]? = some file) (valid : Valid g) (unshared : Unshared g) :
    Unshared (compilerCommand g i file).2 := by
  cases fresh : file.cmd with
  | some a => simpa [compilerCommand_fst fresh] using unshared
  | none =>
      intro j k a cachedJ cachedK
      rcases (compilerCommand_cached_iff found fresh j a).mp cachedJ with ⟨rfl, newJ⟩ | ⟨-, oldJ⟩ <;>
        rcases (compilerCommand_cached_iff found fresh k a).mp cachedK with ⟨rfl, newK⟩ | ⟨-, oldK⟩
      · rfl
      · exact absurd (valid k a oldK) (by omega)
      · exact absurd (valid j a oldJ) (by omega)
      · exact unshared j k a oldJ oldK

theorem compilerCommand_mirrored (found : g.files[i]? = some file) (mirrored : Mirrored g) :
    Mirrored (compilerCommand g i file).2 := by
  cases fresh : file.cmd with
  | some a => simpa [compilerCommand_fst fresh] using mirrored
  | none =>
      have commands : (compilerCommand g i file).2.commands = g.commands ++ [⟨file.compiler.getCommand.1, []⟩] := by
        simp [compilerCommand, fresh]
      intro a o obj b mem
      rw [commands] at obj
      by_cases old : a < g.commands.length
      · rw [List.getElem?_append_left old] at obj
        exact (mirrored a o obj b mem).mono (compilerCommand_extends found)
      · rw [List.getElem?_append_right (not_lt.mp old), List.getElem?_cons] at obj
        split at obj
        · cases obj
          cases mem
        · simp at obj

end Compiler

theorem insertDependency_mirrored {g : CommandGraph} {a dep : Nat} (mirrored : Mirrored g) (edge : Mirrors g a dep) :
    Mirrored (insertDependency g a dep) := by
  intro b o obj c mem
  simp only [insertDependency, List.getElem?_modify] at obj
  cases old : g.commands[b]? with
  | none => simp [old] at obj
  | some o₀ =>
      simp only [old, Option.map_eq_map, Option.map_some', Option.some.injEq] at obj
      subst obj
      split at mem
      · subst b
        rcases List.mem_insert_iff.mp mem with rfl | before
        · exact edge
        · exact mirrored a o₀ old c before
      · exact mirrored b o₀ old c mem

theorem getCommand_mirrored : ∀ (fuel : Nat) (g : CommandGraph) (i a : Nat) (g' : CommandGraph), Valid g →
    Unshared g → Mirrored g → NativeSourceFile.getCommand fuel g i = some (a, g') → Unshared g' ∧ Mirrored g'
  | 0, _, _, _, _, _, _, _, ran => by cases ran
  | fuel + 1, g, i, a, g', valid, unshared, mirrored, ran => by
      obtain ⟨file, found, rfl, folded⟩ := getCommand_unfold ran
      let g₁ := (compilerCommand g i file).2
      let a₁ := (compilerCommand g i file).1
      let Q : List Nat → CommandGraph → Prop := fun _ h => Extends g₁ h ∧ Valid h ∧ Unshared h ∧ Mirrored h
      have kept : Q file.dependencies g' := by
        refine foldlM_invariant Q _ [] g₁ g' ?_ ⟨Extends.refl g₁, compilerCommand_valid found valid,
          compilerCommand_unshared found valid unshared, compilerCommand_mirrored found mirrored⟩ folded
        rintro - d h h' dep ⟨ext, validH, unsharedH, mirroredH⟩ step
        obtain ⟨⟨da, h₁⟩, inner, rfl⟩ := Option.map_eq_some'.mp step
        obtain ⟨ext', cached'⟩ := getCommand_extends fuel h d da h₁ inner
        have valid' := (getCommand_settles fuel h d da h₁ validH inner).1
        obtain ⟨unshared', mirrored'⟩ := getCommand_mirrored fuel h d da h₁ validH unsharedH mirroredH inner
        obtain ⟨file', found', deps⟩ := (((compilerCommand_extends found).trans ext).trans ext').file found
        have cachedI : file'.cmd = some a₁ := by
          simpa [found'] using (ext.trans ext').cached i a₁ (compilerCommand_caches found)
        exact ⟨(ext.trans ext').trans (insertDependency_extends h₁ a₁ da), insertDependency_valid valid', unshared',
          insertDependency_mirrored mirrored' ⟨i, file', d, found', cachedI, deps ▸ dep, cached'⟩⟩
      exact ⟨kept.2.2.1, kept.2.2.2⟩

theorem DependsOn.rank_lt {g : CommandGraph} {rankC : Nat → Nat} (ranked : Ranked (g.commands.map (·.dependencies)) rankC)
    {a b : Nat} (path : DependsOn g a b) : rankC b < rankC a := by
  induction path with
  | edge found mem =>
      rename_i a b o
      obtain ⟨within, same⟩ := List.getElem?_eq_some_iff.mp found
      exact (ranked a (by simpa using within) b (by simpa [same] using mem)).2
  | trans _ _ first second => exact second.trans first

theorem commands_ranked {g : CommandGraph} {rank : Nat → Nat} (ranked : Ranked (g.files.map (·.dependencies)) rank)
    (valid : Valid g) (unshared : Unshared g) (mirrored : Mirrored g) :
    ∃ rankC, Ranked (g.commands.map (·.dependencies)) rankC := by
  classical
  let owner : Nat → Nat := fun a =>
    if held : ∃ i, (g.files[i]?).bind SourceNode.cmd = some a then Classical.choose held else 0
  have owner_eq : ∀ i a, (g.files[i]?).bind SourceNode.cmd = some a → owner a = i := fun i a cached => by
    have held : ∃ i, (g.files[i]?).bind SourceNode.cmd = some a := ⟨i, cached⟩
    simp only [owner, dif_pos held]
    exact unshared _ _ a (Classical.choose_spec held) cached
  refine ⟨fun a => rank (owner a), fun a within b mem => ?_⟩
  simp only [List.length_map] at within
  obtain ⟨i, file, d, found, cached, dep, cachedD⟩ :=
    mirrored a g.commands[a] (List.getElem?_eq_getElem within) b (by simpa using mem)
  obtain ⟨within_i, same⟩ := List.getElem?_eq_some_iff.mp found
  have below := ranked i (by simpa using within_i) d (by simpa [same] using dep)
  refine ⟨by simpa using valid d b cachedD, ?_⟩
  show rank (owner b) < rank (owner a)
  rw [owner_eq d b cachedD, owner_eq i a (by simp [found, cached])]
  exact below.2

def runCommands (fuel : Nat) (g : CommandGraph) (calls : List Nat) : Option CommandGraph :=
  calls.foldlM (fun g i => (NativeSourceFile.getCommand fuel g i).map (·.2)) g

theorem runCommands_acyclic {fuel : Nat} {g g' : CommandGraph} {calls : List Nat} {rank : Nat → Nat}
    (ranked : Ranked (g.files.map (·.dependencies)) rank) (noCommands : g.commands = [])
    (fresh : ∀ file ∈ g.files, file.cmd = none) (ran : runCommands fuel g calls = some g') (a : Nat) :
    ¬DependsOn g' a a := by
  have uncached : ∀ (j a : Nat), (g.files[j]?).bind SourceNode.cmd ≠ some a := fun j a cached => by
    cases found : g.files[j]? with
    | none => simp [found] at cached
    | some file => simp [found, fresh file (List.getElem?_mem found)] at cached
  let Q : List Nat → CommandGraph → Prop := fun _ h => Extends g h ∧ Valid h ∧ Unshared h ∧ Mirrored h
  have kept : Q calls g' := by
    refine foldlM_invariant Q calls [] g g' ?_ ⟨Extends.refl g, fun j a cached => absurd cached (uncached j a),
      fun j _ a cached => absurd cached (uncached j a), fun a o obj => by simp [noCommands] at obj⟩ ran
    rintro - i h h' - ⟨ext, valid, unshared, mirrored⟩ step
    obtain ⟨⟨b, h₁⟩, inner, rfl⟩ := Option.map_eq_some'.mp step
    obtain ⟨unshared', mirrored'⟩ := getCommand_mirrored fuel h i b h₁ valid unshared mirrored inner
    exact ⟨ext.trans (getCommand_extends fuel h i b h₁ inner).1, (getCommand_settles fuel h i b h₁ valid inner).1,
      unshared', mirrored'⟩
  obtain ⟨ext, valid, unshared, mirrored⟩ := kept
  obtain ⟨rankC, rankedC⟩ := commands_ranked (by rwa [ext.shape]) valid unshared mirrored
  exact fun cycle => lt_irrefl _ (cycle.rank_lt rankedC)

theorem runCommands_acyclic_sample :
    ∃ g', runCommands 2 sampleGraph [1, 0] = some g' ∧ ∀ a, ¬DependsOn g' a a := by
  obtain ⟨g', ran⟩ : ∃ g', runCommands 2 sampleGraph [1, 0] = some g' := ⟨_, rfl⟩
  have ranked : Ranked (sampleGraph.files.map (·.dependencies)) id := by decide
  exact ⟨g', ran, runCommands_acyclic ranked rfl (by decide) ran⟩

end Mirror

theorem copied_source_command_depends_on_itself :
    let a : SourceNode :=
      ⟨⟨.gnu, "/usr/bin/g++", ⟨some "/src/a.cpp", none, none, some "/obj/a.o", none⟩, [], [], [], none⟩, none, []⟩
    let afterA := NativeSourceFile.getCommand 1 ⟨[], [a]⟩ 0
    let withB := afterA.map fun r => { r.2 with files := r.2.files ++ [{ (r.2.files.headD a).copy with dependencies := [0] }] }
    (withB.map fun g => g.files.map (·.dependencies)) = some [[], [0]] ∧ Ranked [[], [0]] id ∧
      (withB.bind (NativeSourceFile.getCommand 2 · 1)).map (fun r => (r.1, r.2.commands.map (·.dependencies))) =
        some (0, [[0]]) :=
  ⟨rfl, by decide, rfl⟩

end Sw
