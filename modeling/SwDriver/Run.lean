import Mathlib.Data.String.Basic
import SwDriver.Exec
import SwDriver.Path

set_option autoImplicit false

namespace Sw

-- run(args) of run.cpp on Windows.
inductive Resource where
  | containerSid
  | capabilityArray
  | capabilitySid
  | acl
  | attributeList
  | processHandle
  | threadHandle
deriving DecidableEq, Repr

inductive Release where
  | free
  | localFree
  | freeSid
  | closeHandle
deriving DecidableEq, Repr

-- The function that gives a resource back.
def Resource.release : Resource → Release
  | .containerSid => .freeSid
  | .capabilityArray | .capabilitySid | .attributeList => .free
  | .acl => .localFree
  | .processHandle | .threadHandle => .closeHandle

inductive Misuse where
  | release (resource : Resource) (through : Release)
  | deleteUninitialized
deriving DecidableEq, Repr

structure Heap where
  held : List Resource
  misuses : List Misuse
deriving DecidableEq, Repr

namespace Heap

def empty : Heap := ⟨[], []⟩

def take (h : Heap) (r : Resource) : Heap := { h with held := h.held ++ [r] }

def misuse (h : Heap) (m : Misuse) : Heap := { h with misuses := h.misuses ++ [m] }

def giveBack (h : Heap) (r : Resource) (through : Release) : Heap :=
  if through = r.release ∧ r ∈ h.held then { h with held := h.held.erase r } else h.misuse (.release r through)

end Heap

-- run's locals its clean-up reads.
structure RunState where
  heap : Heap
  sid : Bool
  capabilities : Bool
  attributeList : Option Bool

-- RunArgs
structure RunArgs where
  hash : String
  pkg : String
  dirSrc2 : Path
  exePath : Path
  inContainer : Bool

structure RunHost where
  createDirectories : Except String Unit
  createAppContainerProfile : String → String → String → UInt32
  deriveAppContainerSid : String → UInt32
  createWellKnownSid : Nat → Bool
  capabilitiesError : UInt32
  getNamedSecurityInfo : Path → UInt32
  setEntriesInAcl : UInt32
  setNamedSecurityInfo : Path → UInt32
  initializeAttributeList : Option UInt32
  updateAttribute : Option UInt32
  createProcess : Option UInt32
  slash : Path → String → Path

-- app_capabilities: every entry is commented out.
def appCapabilities : List Nat := []

-- SUCCEEDED(hr), HRESULT_CODE(hr)
def succeeded (hr : UInt32) : Bool := hr.toNat < 2 ^ 31

def hresultCode (hr : UInt32) : Nat := hr.toNat % 2 ^ 16

def errorAlreadyExists : Nat := 183

-- %d of a DWORD from GetLastError()
def formatLastError (e : UInt32) : String :=
  if e.toNat < 2 ^ 31 then toString e.toNat else "-" ++ toString (2 ^ 32 - e.toNat)

-- snprintf into String err(1024, 0)
def takeBytes : Nat → List Char → List Char
  | _, [] => []
  | n, c :: cs => if c.utf8Size ≤ n then c :: takeBytes (n - c.utf8Size) cs else []

def errText (text : String) : String := String.mk (takeBytes 1023 text.toList)

-- to_wstring(s).size()
def utf16Units (c : Char) : Nat := if c.toNat < 0x10000 then 1 else 2

def utf16Length (s : String) : Nat := s.toList.foldr (fun c n => utf16Units c + n) 0

def containerName (args : RunArgs) : String := "sw.app." ++ args.hash.take 32

def pkgName (args : RunArgs) : String := if utf16Length args.pkg > 512 then containerName args else args.pkg

def containerDesc (args : RunArgs) : String := if utf16Length args.pkg > 2048 then containerName args else args.pkg

def workingDirectory (host : RunHost) (args : RunArgs) : Path := host.slash args.dirSrc2 "Lib"

def sampleRunArgs : RunArgs where
  hash := "5e8e6c1ef6e4f9d1a2b3c4d5e6f708192a3b4c5d6e7f8091a2b3c4d5e6f70819"
  pkg := "org.sw.demo.madler.zlib-1.2.11"
  dirSrc2 := "/sw/storage/pkg/zlib/src"
  exePath := "/sw/storage/pkg/zlib/bin/example.exe"
  inContainer := true

-- Where run's do-while breaks.
inductive RunStop where
  | createProfile (result : UInt32)
  | deriveSid (result : UInt32)
  | setCapabilities (taken : Nat)
  | grantAccess
  | initializeList (error : UInt32)
  | updateList (error : UInt32)
  | createProcess (error : UInt32)
deriving DecidableEq, Repr

def RunStop.message (host : RunHost) (args : RunArgs) : RunStop → String
  | .createProfile r => errText ("Failed to create AppContainer, last error: " ++ toString (hresultCode r) ++ "\n")
  | .deriveSid r => errText ("Failed to get existing AppContainer name, error code: " ++ toString (hresultCode r))
  | .setCapabilities _ =>
      errText ("Failed to set security capabilities, last error: " ++ formatLastError host.capabilitiesError ++ "\n")
  | .grantAccess => errText ("Failed to grant explicit access to " ++ workingDirectory host args ++ "\n")
  | .initializeList e => errText ("InitializeProcThreadAttributeList() failed, last error: " ++ formatLastError e)
  | .updateList e => errText ("UpdateProcThreadAttribute() failed, last error: " ++ formatLastError e)
  | .createProcess e => errText ("Failed to create process " ++ args.exePath ++ ", last error: " ++ formatLastError e ++ "\n")

section Calls

variable (host : RunHost)

def takeResource (r : Resource) : Exec RunState Unit := Exec.modify fun s => { s with heap := s.heap.take r }

def giveBack (r : Resource) (through : Release) : Exec RunState Unit :=
  Exec.modify fun s => { s with heap := s.heap.giveBack r through }

def keepContainerSid : Exec RunState Unit := do
  takeResource .containerSid
  Exec.modify fun s => { s with sid := true }

-- CreateAppContainerProfile, DeriveAppContainerSidFromAppContainerName
def createContainerSid (args : RunArgs) : Exec RunState Unit :=
  let result := host.createAppContainerProfile (containerName args) (pkgName args) (containerDesc args)
  if succeeded result then keepContainerSid
  else if hresultCode result = errorAlreadyExists then
    let derived := host.deriveAppContainerSid (containerName args)
    if succeeded derived then keepContainerSid else Exec.throw ((RunStop.deriveSid derived).message host args)
  else Exec.throw ((RunStop.createProfile result).message host args)

-- the loop of SetSecurityCapabilities
def createCapabilitySids : List Nat → Exec RunState (Nat × Bool)
  | [] => pure (0, true)
  | c :: rest => do
      takeResource .capabilitySid
      if host.createWellKnownSid c then
        let (taken, success) ← createCapabilitySids rest
        pure (taken + 1, success)
      else pure (1, false)

-- the clean-up loop of a failed SetSecurityCapabilities
def localFreeSids : Nat → Exec RunState Unit
  | 0 => pure ()
  | n + 1 => do
      giveBack .capabilitySid .localFree
      localFreeSids n

-- SetSecurityCapabilities
def setSecurityCapabilities (caps : List Nat) : Exec RunState Bool := do
  takeResource .capabilityArray
  let (taken, success) ← createCapabilitySids host caps
  if success then Exec.modify fun s => { s with capabilities := true }
  else do
    localFreeSids taken
    giveBack .capabilityArray .free
    Exec.modify fun s => { s with capabilities := false }
  pure success

-- GrantNamedObjectAccess
def grantNamedObjectAccess (objectName : Path) : Exec RunState Bool :=
  if host.getNamedSecurityInfo objectName ≠ 0 then pure false
  else if host.setEntriesInAcl ≠ 0 then pure false
  else do
    takeResource .acl
    let status := host.setNamedSecurityInfo objectName
    giveBack .acl .localFree
    pure (status = 0)

-- do { ... } while (0)
def runBody (args : RunArgs) (caps : List Nat) : Exec RunState Unit := do
  if args.inContainer then
    createContainerSid host args
    let capabilitiesSet ← setSecurityCapabilities host caps
    if !capabilitiesSet then
      Exec.throw ((RunStop.setCapabilities 0).message host args)
    let granted ← grantNamedObjectAccess host (workingDirectory host args)
    if !granted then Exec.throw (RunStop.grantAccess.message host args)
    takeResource .attributeList
    Exec.modify fun s => { s with attributeList := some false }
    match host.initializeAttributeList with
    | some e => Exec.throw ((RunStop.initializeList e).message host args)
    | none => Exec.modify fun s => { s with attributeList := some true }
    match host.updateAttribute with
    | some e => Exec.throw ((RunStop.updateList e).message host args)
    | none => pure ()
  match host.createProcess with
  | some e => Exec.throw ((RunStop.createProcess e).message host args)
  | none => do
      takeResource .processHandle
      takeResource .threadHandle

end Calls

-- the clean-up after the loop
def cleanup (s : RunState) : RunState :=
  let heap := match s.attributeList with
    | some false => s.heap.misuse .deleteUninitialized
    | _ => s.heap
  let heap := if s.capabilities then heap.giveBack .capabilityArray .free else heap
  let heap := if s.sid then heap.giveBack .containerSid .freeSid else heap
  { s with heap := heap }

-- run(args)
def run (host : RunHost) (args : RunArgs) (caps : List Nat) : Outcome Heap Unit :=
  match host.createDirectories with
  | .error e => .error e Heap.empty
  | .ok () =>
      match (runBody host args caps).run ⟨Heap.empty, false, false, none⟩ with
      | .ok () s => .ok () (cleanup s).heap
      | .error err s => .error err (cleanup s).heap

-- What run is for, read off the first call that fails.

def sidsBeforeFailure (created : Nat → Bool) : List Nat → Option Nat
  | [] => none
  | c :: rest => if created c then (sidsBeforeFailure created rest).map (· + 1) else some 1

def containerSidStop (host : RunHost) (args : RunArgs) : Option RunStop :=
  let result := host.createAppContainerProfile (containerName args) (pkgName args) (containerDesc args)
  let derived := host.deriveAppContainerSid (containerName args)
  if succeeded result then none
  else if hresultCode result ≠ errorAlreadyExists then some (.createProfile result)
  else if succeeded derived then none
  else some (.deriveSid derived)

def grantSucceeds (host : RunHost) (objectName : Path) : Bool :=
  host.getNamedSecurityInfo objectName = 0 && host.setEntriesInAcl = 0 && host.setNamedSecurityInfo objectName = 0

def containerStop (host : RunHost) (args : RunArgs) (caps : List Nat) : Option RunStop :=
  match containerSidStop host args with
  | some stop => some stop
  | none =>
      match sidsBeforeFailure host.createWellKnownSid caps with
      | some taken => some (.setCapabilities taken)
      | none =>
          if !grantSucceeds host (workingDirectory host args) then some .grantAccess
          else match host.initializeAttributeList with
            | some e => some (.initializeList e)
            | none => host.updateAttribute.map .updateList

def runStop (host : RunHost) (args : RunArgs) (caps : List Nat) : Option RunStop :=
  match if args.inContainer then containerStop host args caps else none with
  | some stop => some stop
  | none => host.createProcess.map .createProcess

def heldAt (inContainer : Bool) (caps : List Nat) : Option RunStop → List Resource
  | some (.createProfile _) | some (.deriveSid _) => []
  | some (.setCapabilities taken) => List.replicate taken .capabilitySid
  | some .grantAccess => List.replicate caps.length .capabilitySid
  | some (.initializeList _) | some (.updateList _) => List.replicate caps.length .capabilitySid ++ [.attributeList]
  | some (.createProcess _) =>
      if inContainer then List.replicate caps.length .capabilitySid ++ [.attributeList] else []
  | none =>
      (if inContainer then List.replicate caps.length .capabilitySid ++ [.attributeList] else []) ++
        [.processHandle, .threadHandle]

def misusesAt : Option RunStop → List Misuse
  | some (.setCapabilities taken) => List.replicate taken (.release .capabilitySid .localFree)
  | some (.initializeList _) => [.deleteUninitialized]
  | _ => []

def runSummary (host : RunHost) (args : RunArgs) (caps : List Nat) : Outcome Heap Unit :=
  match host.createDirectories with
  | .error e => .error e Heap.empty
  | .ok () =>
      let heap : Heap := ⟨heldAt args.inContainer caps (runStop host args caps), misusesAt (runStop host args caps)⟩
      match runStop host args caps with
      | none => .ok () heap
      | some stop => .error (stop.message host args) heap

def sampleRunHost (initializeError : Option UInt32) : RunHost where
  createDirectories := .ok ()
  createAppContainerProfile _ _ _ := 0
  deriveAppContainerSid _ := 0
  createWellKnownSid _ := true
  capabilitiesError := 0
  getNamedSecurityInfo _ := 0
  setEntriesInAcl := 0
  setNamedSecurityInfo _ := 0
  initializeAttributeList := initializeError
  updateAttribute := none
  createProcess := none
  slash := join

section Steps

variable (host : RunHost)

@[simp] theorem run_takeResource (r : Resource) (s : RunState) :
    (takeResource r).run s = .ok () { s with heap := s.heap.take r } := rfl

theorem run_createContainerSid (args : RunArgs) (s : RunState) :
    (createContainerSid host args).run s =
      match containerSidStop host args with
      | none => .ok () { s with heap := s.heap.take .containerSid, sid := true }
      | some stop => .error (stop.message host args) s := by
  unfold createContainerSid containerSidStop
  dsimp only
  split_ifs <;> first | rfl | omega

theorem run_createCapabilitySids (caps : List Nat) (s : RunState) :
    (createCapabilitySids host caps).run s =
      .ok (((sidsBeforeFailure host.createWellKnownSid caps).getD caps.length),
          (sidsBeforeFailure host.createWellKnownSid caps).isNone)
        { s with heap := { s.heap with held := (s.heap.held ++
          List.replicate ((sidsBeforeFailure host.createWellKnownSid caps).getD caps.length) .capabilitySid) } } := by
  induction caps generalizing s with
  | nil => simp [createCapabilitySids, sidsBeforeFailure]
  | cons c rest ih =>
      by_cases created : host.createWellKnownSid c
      · cases failed : sidsBeforeFailure host.createWellKnownSid rest <;>
          simp [createCapabilitySids, sidsBeforeFailure, created, ih, failed, Heap.take, List.replicate_succ]
      · simp [createCapabilitySids, sidsBeforeFailure, created, Heap.take]

theorem run_localFreeSids (n : Nat) (s : RunState) :
    (localFreeSids n).run s =
      .ok () { s with heap := { s.heap with misuses := (s.heap.misuses ++
        List.replicate n (.release .capabilitySid .localFree)) } } := by
  induction n generalizing s with
  | zero => simp [localFreeSids]
  | succ n ih =>
      simp [localFreeSids, giveBack, ih, Heap.giveBack, Resource.release, Heap.misuse, List.replicate_succ]

theorem erase_taken {r : Resource} {held : List Resource} (fresh : r ∉ held) (rest : List Resource) :
    (held ++ r :: rest).erase r = held ++ rest := by
  rw [List.erase_append_right _ fresh, List.erase_cons_head]

theorem run_setSecurityCapabilities (caps : List Nat) (s : RunState) (fresh : .capabilityArray ∉ s.heap.held) :
    (setSecurityCapabilities host caps).run s =
      match sidsBeforeFailure host.createWellKnownSid caps with
      | none => .ok true { s with heap := { s.heap with held := (s.heap.held ++
          .capabilityArray :: List.replicate caps.length .capabilitySid) }, capabilities := true }
      | some taken => .ok false { s with heap := ⟨s.heap.held ++ List.replicate taken .capabilitySid,
          s.heap.misuses ++ List.replicate taken (.release .capabilitySid .localFree)⟩, capabilities := false } := by
  cases failed : sidsBeforeFailure host.createWellKnownSid caps with
  | none => simp [setSecurityCapabilities, run_createCapabilitySids, failed, Heap.take]
  | some taken =>
      have held : .capabilityArray ∈ s.heap.held ++ .capabilityArray :: List.replicate taken .capabilitySid := by simp
      simp [setSecurityCapabilities, run_createCapabilitySids, failed, Heap.take, run_localFreeSids, giveBack,
        Heap.giveBack, Resource.release, held, erase_taken fresh]

theorem run_grantNamedObjectAccess (objectName : Path) (s : RunState) (fresh : .acl ∉ s.heap.held) :
    (grantNamedObjectAccess host objectName).run s = .ok (grantSucceeds host objectName) s := by
  unfold grantNamedObjectAccess grantSucceeds
  split_ifs with found set
  · simp [found]
  · simp [set]
  · have held : .acl ∈ s.heap.held ++ [.acl] := by simp
    simp [Heap.take, giveBack, Heap.giveBack, Resource.release, held, erase_taken fresh [], not_not.mp found, not_not.mp set]

theorem containerSidStop_cases {args : RunArgs} {stop : RunStop} (stopped : containerSidStop host args = some stop) :
    (∃ r, stop = .createProfile r) ∨ ∃ r, stop = .deriveSid r := by
  unfold containerSidStop at stopped
  dsimp only at stopped
  split_ifs at stopped <;> cases stopped
  · exact .inl ⟨_, rfl⟩
  · exact .inr ⟨_, rfl⟩

theorem run_eq_runSummary (args : RunArgs) (caps : List Nat) : run host args caps = runSummary host args caps := by
  unfold run runSummary
  cases host.createDirectories with
  | error e => rfl
  | ok u =>
      cases u
      cases inContainer : args.inContainer
      · cases started : host.createProcess <;>
          simp [runBody, runStop, inContainer, started, cleanup, heldAt, misusesAt, Heap.take, Heap.empty]
      · cases sidStop : containerSidStop host args with
        | some stop =>
            rcases containerSidStop_cases host sidStop with ⟨r, rfl⟩ | ⟨r, rfl⟩ <;>
              simp [runBody, runStop, containerStop, inContainer, run_createContainerSid, sidStop, cleanup, heldAt,
                misusesAt, Heap.empty]
        | none =>
            cases sids : sidsBeforeFailure host.createWellKnownSid caps with
            | some taken =>
                simp [runBody, runStop, containerStop, inContainer, run_createContainerSid, sidStop, sids,
                  run_setSecurityCapabilities, cleanup, heldAt, misusesAt, Heap.take, Heap.empty, Heap.giveBack,
                  Resource.release, RunStop.message]
            | none =>
                cases granted : grantSucceeds host (workingDirectory host args)
                · simp [runBody, runStop, containerStop, inContainer, run_createContainerSid, sidStop, sids,
                    run_setSecurityCapabilities, run_grantNamedObjectAccess, granted, cleanup, heldAt, misusesAt,
                    Heap.take, Heap.empty, Heap.giveBack, Resource.release]
                · cases initialized : host.initializeAttributeList <;> cases updated : host.updateAttribute <;>
                    cases started : host.createProcess <;>
                    simp [runBody, runStop, containerStop, inContainer, run_createContainerSid, sidStop, sids,
                      run_setSecurityCapabilities, run_grantNamedObjectAccess, granted, initialized, updated, started,
                      cleanup, heldAt, misusesAt, Heap.take, Heap.empty, Heap.giveBack, Heap.misuse, Resource.release]

def leftHeld : List Resource := [.capabilitySid, .attributeList, .processHandle, .threadHandle]

theorem heldAt_kinds (inContainer : Bool) (caps : List Nat) (stop : Option RunStop) :
    heldAt inContainer caps stop ⊆ leftHeld := by
  unfold leftHeld
  have sids : ∀ n, List.replicate n Resource.capabilitySid ⊆ [.capabilitySid, .attributeList, .processHandle,
      .threadHandle] := fun n r mem => by
    rw [List.eq_of_mem_replicate mem]
    exact List.mem_cons_self _ _
  rcases stop with _ | ⟨_ | _ | _ | _ | _ | _ | _⟩ <;> cases inContainer <;>
    simp [heldAt, List.append_subset, List.cons_subset, sids]

theorem run_of_error {e : String} (failed : host.createDirectories = .error e) (args : RunArgs) (caps : List Nat) :
    run host args caps = .error e Heap.empty := by
  rw [run_eq_runSummary]
  unfold runSummary
  rw [failed]

theorem run_of_made (made : host.createDirectories = .ok ()) (args : RunArgs) (caps : List Nat) :
    run host args caps =
      match runStop host args caps with
      | none => .ok () ⟨heldAt args.inContainer caps none, misusesAt none⟩
      | some stop => .error (stop.message host args) ⟨heldAt args.inContainer caps (some stop), misusesAt (some stop)⟩ := by
  rw [run_eq_runSummary]
  unfold runSummary
  rw [made]
  cases runStop host args caps <;> rfl

/-- run gives back the AppContainer SID, the ACL and the capability array. -/
theorem run_gives_back_sid_acl_array (args : RunArgs) (caps : List Nat) :
    (run host args caps).state.held ⊆ leftHeld := by
  cases made : host.createDirectories with
  | error e => simp [run_of_error host made, Heap.empty]
  | ok u =>
      rw [run_of_made host made]
      cases runStop host args caps with
      | none => exact heldAt_kinds _ _ none
      | some stop => exact heldAt_kinds _ _ (some stop)

theorem containerStop_cases {args : RunArgs} {caps : List Nat} {stop : RunStop}
    (stopped : containerStop host args caps = some stop) :
    containerSidStop host args = some stop ∨
      containerSidStop host args = none ∧
        ((∃ t, sidsBeforeFailure host.createWellKnownSid caps = some t ∧ stop = .setCapabilities t) ∨
          sidsBeforeFailure host.createWellKnownSid caps = none ∧
            (grantSucceeds host (workingDirectory host args) = false ∧ stop = .grantAccess ∨
              (∃ e, host.initializeAttributeList = some e ∧ stop = .initializeList e) ∨
              host.initializeAttributeList = none ∧ ∃ e, host.updateAttribute = some e ∧ stop = .updateList e)) := by
  unfold containerStop at stopped
  cases sidStop : containerSidStop host args with
  | some s => simp only [sidStop, Option.some.injEq] at stopped; exact .inl (congrArg some stopped)
  | none =>
      refine .inr ⟨rfl, ?_⟩
      cases sids : sidsBeforeFailure host.createWellKnownSid caps with
      | some t => simp only [sidStop, sids, Option.some.injEq] at stopped; exact .inl ⟨t, rfl, stopped.symm⟩
      | none =>
          refine .inr ⟨rfl, ?_⟩
          cases granted : grantSucceeds host (workingDirectory host args)
          · simp only [sidStop, sids, granted, Bool.not_false, if_true, Option.some.injEq] at stopped
            exact .inl ⟨rfl, stopped.symm⟩
          · cases initialized : host.initializeAttributeList with
            | some e =>
                simp only [sidStop, sids, granted, initialized, Bool.not_true, Bool.false_eq_true, if_false,
                  Option.some.injEq] at stopped
                exact .inr (.inl ⟨e, rfl, stopped.symm⟩)
            | none =>
                simp only [sidStop, sids, granted, initialized, Bool.not_true, Bool.false_eq_true, if_false,
                  Option.map_eq_some'] at stopped
                obtain ⟨e, updated, rfl⟩ := stopped
                exact .inr (.inr ⟨rfl, e, updated, rfl⟩)

theorem runStop_cases {args : RunArgs} {caps : List Nat} {stop : RunStop}
    (stopped : runStop host args caps = some stop) :
    args.inContainer = true ∧ containerStop host args caps = some stop ∨
      ∃ e, host.createProcess = some e ∧ stop = .createProcess e := by
  unfold runStop at stopped
  split at stopped
  · rename_i found
    obtain rfl := Option.some.inj stopped
    cases inContainer : args.inContainer
    · simp [inContainer] at found
    · exact .inl ⟨rfl, by simpa [inContainer] using found⟩
  · obtain ⟨e, started, rfl⟩ := Option.map_eq_some'.mp stopped
    exact .inr ⟨e, started, rfl⟩

/-- run's only misuses are LocalFree on malloc'd SIDs and deleting an unset list. -/
theorem run_misuses (args : RunArgs) (caps : List Nat) (misused : (run host args caps).state.misuses ≠ []) :
    args.inContainer = true ∧
      ((∃ t, sidsBeforeFailure host.createWellKnownSid caps = some t ∧
          (run host args caps).state.misuses = List.replicate t (.release .capabilitySid .localFree)) ∨
        ∃ e, host.initializeAttributeList = some e ∧ (run host args caps).state.misuses = [.deleteUninitialized] ∧
          (run host args caps).thrown = some ((RunStop.initializeList e).message host args)) := by
  cases made : host.createDirectories with
  | error e => simp [run_of_error host made, Heap.empty] at misused
  | ok u =>
      rw [run_of_made host made] at misused ⊢
      cases stop : runStop host args caps with
      | none => simp [stop, misusesAt] at misused
      | some s =>
          rw [stop] at misused
          rcases runStop_cases host stop with ⟨contained, inside⟩ | ⟨e, -, rfl⟩
          · refine ⟨contained, ?_⟩
            rcases containerStop_cases host inside with sidStop | ⟨-, ⟨t, sids, rfl⟩ | ⟨-, ⟨-, rfl⟩ | ⟨e, initialized, rfl⟩ |
                ⟨-, e, -, rfl⟩⟩⟩
            · rcases containerSidStop_cases host sidStop with ⟨r, rfl⟩ | ⟨r, rfl⟩ <;> simp [misusesAt] at misused
            · exact .inl ⟨t, sids, rfl⟩
            · simp [misusesAt] at misused
            · exact .inr ⟨e, initialized, rfl, rfl⟩
            · simp [misusesAt] at misused
          · simp [misusesAt] at misused

theorem run_misuses_zlib :
    (run (sampleRunHost (some 87)) sampleRunArgs appCapabilities).state.misuses ≠ [] ∧
      sampleRunArgs.inContainer = true ∧
        ((∃ t, sidsBeforeFailure (sampleRunHost (some 87)).createWellKnownSid appCapabilities = some t ∧
            (run (sampleRunHost (some 87)) sampleRunArgs appCapabilities).state.misuses =
              List.replicate t (.release .capabilitySid .localFree)) ∨
          ∃ e, (sampleRunHost (some 87)).initializeAttributeList = some e ∧
            (run (sampleRunHost (some 87)) sampleRunArgs appCapabilities).state.misuses = [.deleteUninitialized] ∧
            (run (sampleRunHost (some 87)) sampleRunArgs appCapabilities).thrown =
              some ((RunStop.initializeList e).message (sampleRunHost (some 87)) sampleRunArgs)) :=
  have misused : (run (sampleRunHost (some 87)) sampleRunArgs appCapabilities).state.misuses ≠ [] := by decide
  ⟨misused, run_misuses (sampleRunHost (some 87)) sampleRunArgs appCapabilities misused⟩

end Steps

end Sw
