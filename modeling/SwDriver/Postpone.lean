import SwDriver.Invariant

set_option autoImplicit false

namespace Sw

-- The calls that push on file_ops while resolution is postponed.
def StorageCall.queueable : StorageCall → Bool
  | .add _ | .addFiles _ | .addRegex _ | .addRoot _ _ => true
  | .remove _ | .removeFiles _ | .removeRegex _ | .removeRoot _ _ => true
  | _ => false

def StorageCall.queued : StorageCall → List FileOp
  | .add file => [⟨.path file, true⟩]
  | .addFiles files => files.map fun f => ⟨.path f, true⟩
  | .addRegex r => [⟨.regex r, true⟩]
  | .addRoot root r => [⟨.regex { r with dir := join root r.dir }, true⟩]
  | .remove file => [⟨.path file, false⟩]
  | .removeFiles files => files.map fun f => ⟨.path f, false⟩
  | .removeRegex r => [⟨.regex r, false⟩]
  | .removeRoot root r => [⟨.regex { r with dir := join root r.dir }, false⟩]
  | _ => []

namespace SourceFileStorage

open Exec

def withOps (q : List FileOp) (s : SourceFileStorage) : SourceFileStorage := { s with fileOps := q }

@[simp] theorem withOps_withOps (q q' : List FileOp) (s : SourceFileStorage) :
    withOps q (withOps q' s) = withOps q s := rfl

def Unpostponed (s : SourceFileStorage) : Prop := s.postponeFileResolving = false

def QueueFree {α : Type} (m : StorageExec α) : Prop :=
  ∀ s q, Unpostponed s → m.run (withOps q s) = (m.run s).mapState (withOps q) ∧ Unpostponed (m.run s).state

section QueueFree

variable {α β : Type}

theorem QueueFree.preserves {m : StorageExec α} (free : QueueFree m) : Preserves Unpostponed m :=
  fun s unset => ((free s s.fileOps unset).2)

theorem queueFree_pure (a : α) : QueueFree (pure a : StorageExec α) := fun _ _ unset => ⟨rfl, unset⟩

theorem queueFree_ofExcept (x : Except String α) : QueueFree (ofExcept x : StorageExec α) := by
  cases x <;> exact fun _ _ unset => ⟨rfl, unset⟩

theorem queueFree_read (f : SourceFileStorage → β) (blind : ∀ s q, f (withOps q s) = f s) :
    QueueFree (read f) :=
  fun s q unset => ⟨by simp [blind], unset⟩

theorem queueFree_modify {f : SourceFileStorage → SourceFileStorage}
    (commutes : ∀ s q, f (withOps q s) = withOps q (f s)) (keeps : ∀ s, Unpostponed s → Unpostponed (f s)) :
    QueueFree (modify f) :=
  fun s q unset => ⟨by simp [commutes], keeps s unset⟩

theorem queueFree_bind {m : StorageExec α} {f : α → StorageExec β} (first : QueueFree m)
    (rest : ∀ a, QueueFree (f a)) : QueueFree (m >>= f) := by
  intro s q unset
  obtain ⟨same, kept⟩ := first s q unset
  simp only [run_bind, same]
  cases h : m.run s with
  | ok a s' => exact rest a s' q (by simpa [h] using kept)
  | error e s' => exact ⟨rfl, by simpa [h] using kept⟩

theorem queueFree_forM {γ : Type} (xs : List γ) {f : γ → StorageExec PUnit} (each : ∀ x ∈ xs, QueueFree (f x)) :
    QueueFree (xs.forM f) := by
  induction xs with
  | nil => exact queueFree_pure _
  | cons x rest ih =>
      exact queueFree_bind (each x (List.mem_cons_self _ _))
        fun _ => ih fun y member => each y (List.mem_cons_of_mem _ member)

end QueueFree

section Operations

variable (t : Target)

theorem queueFree_whenPostponed (queued : FileOp) {m : StorageExec Unit} (immediate : QueueFree m) :
    QueueFree (whenPostponed queued m) := by
  intro s q unset
  rw [run_whenPostponed_unset _ _ unset, run_whenPostponed_unset (s := withOps q s) _ _ unset]
  exact immediate s q unset

theorem queueFree_addUnchecked (fileIn : Path) (skip : Bool) : QueueFree (addUnchecked t fileIn skip) := by
  intro s q unset
  simp only [run_addUnchecked]
  split <;> exact ⟨rfl, unset⟩

theorem queueFree_op (r : FileRegex) {func : Path → StorageExec Unit} (each : ∀ f, QueueFree (func f)) :
    QueueFree (op t r func) := by
  unfold op cachedFiles
  refine queueFree_bind (queueFree_bind (queueFree_read _ fun _ _ => rfl) fun cached => ?_) fun files => ?_
  · dsimp only
    split
    · exact queueFree_bind (queueFree_modify (fun _ _ => rfl) fun _ h => h) fun _ => queueFree_pure _
    · exact queueFree_pure _
  · exact queueFree_forM _ fun f _ => queueFree_bind (queueFree_ofExcept _) fun _ => by
      split
      · exact each f
      · exact queueFree_pure _

theorem queueFree_add (file : Path) : QueueFree (add t file) :=
  queueFree_whenPostponed _ (queueFree_addUnchecked t file false)

theorem queueFree_remove (file : Path) : QueueFree (remove t file) :=
  queueFree_whenPostponed _ (queueFree_addUnchecked t file true)

theorem queueFree_removeFull (file : Path) : QueueFree (removeFull t file) := by
  unfold removeFull
  split
  · exact queueFree_modify (fun _ _ => rfl) fun _ h => h
  · exact queueFree_pure _

theorem queueFree_replay (fileOp : FileOp) : QueueFree (replay t fileOp) :=
  replay_closed t _ (queueFree_add t) (queueFree_remove t) (fun _ _ => queueFree_op t _) fileOp

theorem queueFree_exec (c : StorageCall) (direct : c ≠ .resolve) : QueueFree (c.exec t) :=
  StorageCall.exec_closed t _ (queueFree_add t) (queueFree_remove t) (queueFree_removeFull t)
    (fun _ _ => queueFree_whenPostponed _) (fun _ _ => queueFree_op t _)
    (fun files _ each => queueFree_forM files fun f _ => each f) c direct

theorem queueFree_forM_queued (queued : List StorageCall) (queueable : ∀ c ∈ queued, c.queueable = true) :
    QueueFree (queued.forM (StorageCall.exec t)) :=
  queueFree_forM queued fun c member => queueFree_exec t c fun same => by
    simpa [same, StorageCall.queueable] using queueable c member

theorem run_forM_postponed (files : List Path) (mk : Path → FileOp) {f : Path → StorageExec Unit}
    (pushes : ∀ p s, s.postponeFileResolving = true → (f p).run s = .ok () (withOps (s.fileOps ++ [mk p]) s))
    (s : SourceFileStorage) (postponed : s.postponeFileResolving = true) :
    (files.forM f).run s = .ok () (withOps (s.fileOps ++ files.map mk) s) := by
  induction files generalizing s with
  | nil => simp [withOps]
  | cons p rest ih =>
      simp only [List.forM_cons', run_bind, pushes p s postponed]
      rw [ih (withOps (s.fileOps ++ [mk p]) s) postponed]
      simp [withOps]

theorem run_exec_postponed (c : StorageCall) (queueable : c.queueable = true) (s : SourceFileStorage)
    (postponed : s.postponeFileResolving = true) :
    (c.exec t).run s = .ok () (withOps (s.fileOps ++ c.queued) s) := by
  cases c with
  | addFiles files | removeFiles files =>
      exact run_forM_postponed files _ (fun _ _ set => run_whenPostponed_set _ _ set) s postponed
  | add | addRegex | addRoot | remove | removeRegex | removeRoot => exact run_whenPostponed_set _ _ postponed
  | _ => cases queueable

theorem run_forM_exec_postponed (calls : List StorageCall) (queueable : ∀ c ∈ calls, c.queueable = true)
    (s : SourceFileStorage) (postponed : s.postponeFileResolving = true) :
    (calls.forM (StorageCall.exec t)).run s = .ok () (withOps (s.fileOps ++ calls.flatMap StorageCall.queued) s) := by
  induction calls generalizing s with
  | nil => simp [withOps]
  | cons c rest ih =>
      simp only [List.forM_cons', run_bind, run_exec_postponed t c (queueable c (List.mem_cons_self _ _)) s postponed]
      rw [ih (fun c' member => queueable c' (List.mem_cons_of_mem _ member)) (withOps (s.fileOps ++ c.queued) s)
        postponed]
      simp [withOps]

theorem globRoot_rooted (absolute : isAbsolute t.sourceDir = true) (r : FileRegex) :
    globRoot t { r with dir := join t.sourceDir r.dir } = globRoot t r := by
  unfold globRoot
  by_cases rooted : isAbsolute r.dir
  · simp [rooted, join_of_isAbsolute]
  · simp [rooted, isAbsolute_join absolute]

theorem op_rooted (absolute : isAbsolute t.sourceDir = true) (r : FileRegex) (func : Path → StorageExec Unit) :
    op t { r with dir := join t.sourceDir r.dir } func = op t r func := by
  simp only [op, globRoot_rooted t absolute]

theorem run_replay_queued (absolute : isAbsolute t.sourceDir = true) (c : StorageCall)
    (queueable : c.queueable = true) (s : SourceFileStorage) (unset : Unpostponed s) :
    (c.queued.forM (replay t)).run s = (c.exec t).run s := by
  cases c with
  | addFiles files | removeFiles files => simp only [StorageCall.queued, forM_map]; rfl
  | add | remove => simp only [StorageCall.queued, List.forM_cons', List.forM_nil', bind_pure_unit]; rfl
  | addRoot | removeRoot | addRegex | removeRegex =>
      simp only [StorageCall.queued, List.forM_cons', List.forM_nil', bind_pure_unit, StorageCall.exec, addRegex,
        removeRegex, addRoot, removeRoot, run_whenPostponed_unset _ _ unset, add1, remove1, op_rooted t absolute]
      rfl
  | _ => cases queueable

theorem run_replay_queue (absolute : isAbsolute t.sourceDir = true) (calls : List StorageCall)
    (queueable : ∀ c ∈ calls, c.queueable = true) (s : SourceFileStorage) (unset : Unpostponed s) :
    ((calls.flatMap StorageCall.queued).forM (replay t)).run s = (calls.forM (StorageCall.exec t)).run s := by
  rw [forM_flatMap]
  exact run_forM_congr calls (fun c member => run_replay_queued t absolute c (queueable c member))
    (fun c _ => (queueFree_forM _ fun o _ => queueFree_replay t o).preserves) s unset

theorem run_resolve (s : SourceFileStorage) :
    (resolve t).run s = (s.fileOps.forM (replay t)).run { s with postponeFileResolving := false } := by
  simp [resolve]

theorem run_resolve_idle (s : SourceFileStorage) (unset : Unpostponed s) (idle : s.fileOps = []) :
    (resolve t).run s = .ok () s := by
  rw [run_resolve, idle]
  obtain ⟨files, ops, cache, autodetect, flag⟩ := s
  dsimp only [Unpostponed] at unset idle
  subst unset idle
  rfl

theorem run_postponed_resolve (absolute : isAbsolute t.sourceDir = true) (queued later : List StorageCall)
    (queueable : ∀ c ∈ queued, c.queueable = true) (s : SourceFileStorage) (postponed : s.postponeFileResolving = true)
    (idle : s.fileOps = []) :
    ((queued ++ StorageCall.resolve :: later).forM (StorageCall.exec t)).run s =
      ((queued.forM (StorageCall.exec t) >>= fun _ => later.forM (StorageCall.exec t)).run
        (withOps (queued.flatMap StorageCall.queued) { s with postponeFileResolving := false })) := by
  simp only [List.forM_append, List.forM_cons', run_bind, run_forM_exec_postponed t queued queueable s postponed]
  simp only [StorageCall.exec, run_resolve, withOps, idle, List.nil_append]
  rw [run_replay_queue t absolute queued queueable]
  rfl

theorem run_immediate_resolve (queued later : List StorageCall) (queueable : ∀ c ∈ queued, c.queueable = true)
    (s : SourceFileStorage) (unset : Unpostponed s) (idle : s.fileOps = []) :
    ((queued ++ StorageCall.resolve :: later).forM (StorageCall.exec t)).run s =
      (queued.forM (StorageCall.exec t) >>= fun _ => later.forM (StorageCall.exec t)).run s := by
  have free := queueFree_forM_queued t queued queueable
  have kept := free.preserves s unset
  have same := (free s [] unset).1
  rw [show withOps [] s = s by rw [← idle]; rfl] at same
  simp only [List.forM_append, List.forM_cons', run_bind]
  cases ran : (queued.forM (StorageCall.exec t)).run s with
  | ok _ w =>
      rw [ran] at same kept
      have cleared : w.fileOps = [] := congrArg (fun o => o.state.fileOps) same
      simp only [StorageCall.exec, run_resolve_idle t w kept cleared]
  | error e w => rfl

theorem postponed_resolve_matches_immediate (t : Target) (absolute : isAbsolute t.sourceDir = true)
    (queued later : List StorageCall) (queueable : ∀ c ∈ queued, c.queueable = true)
    (direct : ∀ c ∈ later, c ≠ .resolve) (s : SourceFileStorage) (postponed : s.postponeFileResolving = true)
    (idle : s.fileOps = []) :
    let calls := queued ++ StorageCall.resolve :: later
    ((calls.forM (StorageCall.exec t)).run s).mapState (withOps []) =
      ((calls.forM (StorageCall.exec t)).run { s with postponeFileResolving := false }).mapState (withOps []) := by
  intro calls
  have free : QueueFree (queued.forM (StorageCall.exec t) >>= fun _ => later.forM (StorageCall.exec t)) :=
    queueFree_bind (queueFree_forM_queued t queued queueable)
      fun _ => queueFree_forM later fun c member => queueFree_exec t c (direct c member)
  rw [run_postponed_resolve t absolute queued later queueable s postponed idle,
    (free { s with postponeFileResolving := false } _ rfl).1,
    run_immediate_resolve t queued later queueable { s with postponeFileResolving := false } rfl idle,
    Outcome.mapState_mapState]
  rfl

end Operations

theorem postponed_resolve_matches_immediate_demo :
    let t := demoTarget gccRegistry
    let queued := [StorageCall.add "/src/a.cpp", .removeRegex ⟨"", fun rel => rel == "b.h", true⟩]
    let later := [StorageCall.removeExclude "/src/b.h"]
    let s := SourceFileStorage.empty false true
    isAbsolute t.sourceDir = true ∧ (∀ c ∈ queued, c.queueable = true) ∧ (∀ c ∈ later, c ≠ .resolve) ∧
      s.postponeFileResolving = true ∧ s.fileOps = [] ∧
      (((queued ++ StorageCall.resolve :: later).forM (StorageCall.exec t)).run s).mapState (withOps []) =
        (((queued ++ StorageCall.resolve :: later).forM (StorageCall.exec t)).run
          { s with postponeFileResolving := false }).mapState (withOps []) := by
  intro t queued later s
  have direct : ∀ c ∈ later, c ≠ .resolve := by simp [later]
  exact ⟨by decide, by decide, direct, rfl, rfl,
    postponed_resolve_matches_immediate t (by decide) queued later (by decide) direct s rfl rfl⟩

def relativeTarget : Target :=
  { demoTarget gccRegistry with
    sourceDir := "src"
    fs := { demoFilesystem with enumerateFiles := fun d _ => if d = "src/" then ["/src/a.cpp"] else [] } }

theorem postponed_run_diverges :
    let run := fun (t : Target) (calls : List StorageCall) (postpone : Bool) =>
      ((calls.forM (StorageCall.exec t)).run (SourceFileStorage.empty false postpone)).state
    let t := demoTarget gccRegistry
    let excluded := [StorageCall.add "/src/a.cpp", .removeExclude "/src/a.cpp", .resolve]
    let replayed := [StorageCall.add "/src/a.cpp", .resolve, .remove "/src/a.cpp", .resolve]
    let globbed := [StorageCall.addRegex ⟨"", fun _ => true, true⟩, .resolve]
    (tracked (run t excluded true) "/src/a.cpp").isSome ∧ (run t excluded false).files.isEmpty ∧
      (tracked (run t replayed true) "/src/a.cpp").map (·.skip) = some false ∧
      (tracked (run t replayed false) "/src/a.cpp").map (·.skip) = some true ∧
      (tracked (run relativeTarget globbed true) "/src/a.cpp").isSome ∧
      (run relativeTarget globbed false).files.isEmpty := by
  decide

end SourceFileStorage

end Sw
