import SwDriver.WindowsKit

set_option autoImplicit false

namespace Sw

-- std::regex (ECMAScript) for the constructs of compiler.cpp's version patterns.
inductive Atom where
  | lit (c : Char)
  | any
  | digits (group : Nat)
  | optional (group : Nat) (body : List Atom)
  | start

abbrev Captures := List (Nat × List Char)

def group (caps : Captures) (g : Nat) : List Char := (caps.reverse.lookup g).getD []

def groupMatched (caps : Captures) (g : Nat) : Bool := (caps.lookup g).isSome

-- A std::string as std::regex over char reads it: its UTF-8 bytes, one char each.
def bytesOf (s : String) : List Char := s.toUTF8.data.toList.map fun b => Char.ofNat b.toNat

def lineTerminator (c : Char) : Bool := c == '\n' || c == '\r'

mutual

def matchAtom (total : Nat) : Atom → List Char → Captures → List (List Char × Captures)
  | .lit c, d :: rest, caps => if d = c then [(rest, caps)] else []
  | .lit _, [], _ => []
  | .any, d :: rest, caps => if lineTerminator d then [] else [(rest, caps)]
  | .any, [], _ => []
  | .digits g, s, caps =>
      (List.range (s.takeWhile Char.isDigit).length).reverse.map fun n => (s.drop (n + 1), caps ++ [(g, s.take (n + 1))])
  | .optional g body, s, caps =>
      (matchSeq total body s caps).map (fun (rest, caps') => (rest, caps' ++ [(g, s.take (s.length - rest.length))])) ++
        [(s, caps)]
  | .start, s, caps => if s.length = total then [(s, caps)] else []

def matchSeq (total : Nat) : List Atom → List Char → Captures → List (List Char × Captures)
  | [], s, caps => [(s, caps)]
  | a :: rest, s, caps => (matchAtom total a s caps).flatMap fun (s', caps') => matchSeq total rest s' caps'

end

def searchFrom (pat : List Atom) (total : Nat) : List Char → Option Captures
  | [] => (matchSeq total pat [] []).head?.map (·.2)
  | c :: rest =>
      match (matchSeq total pat (c :: rest) []).head? with
      | some (_, caps) => some caps
      | none => searchFrom pat total rest

def regexSearch (pat : List Atom) (text : List Char) : Option Captures := searchFrom pat text.length text

-- (\d+)\.(\d+)\.(\d+)(\.(\d+))?
def visualStudioVersionRegex : List Atom :=
  [.digits 1, .lit '.', .digits 2, .lit '.', .digits 3, .optional 4 [.lit '.', .digits 5]]

-- ^clang version (\d+).(\d+).(\d+)
def clangVersionRegex : List Atom :=
  .start :: "clang version ".toList.map .lit ++ [.digits 1, .any, .digits 2, .any, .digits 3]

-- (\d+).(\d+).(\d+)
def gnuVersionRegex : List Atom := [.digits 1, .any, .digits 2, .any, .digits 3]

def stoi (ds : List Char) : Except String Nat :=
  if digitsValue ds ≤ 2147483647 then .ok (digitsValue ds) else .error "stoi"

def fieldsOf (caps : Captures) (groups : List Nat) : Except String Version :=
  groups.mapM fun g => stoi (group caps g)

structure ProbeResult where
  failed : Bool
  out : String
  err : String

def VisualStudio.gatherVersion (r : ProbeResult) : Except String Version :=
  if r.failed then
    match regexSearch visualStudioVersionRegex (bytesOf (if r.err.isEmpty then r.out else r.err)) with
    | some m => if groupMatched m 5 then fieldsOf m [1, 2, 3, 5] else fieldsOf m [1, 2, 3]
    | none => .ok []
  else .ok []

def stderrVersion (pat : List Atom) (r : ProbeResult) : Except String Version :=
  if r.failed then .ok []
  else
    match regexSearch pat (bytesOf r.err) with
    | some m => fieldsOf m [1, 2, 3]
    | none => .ok []

def Clang.gatherVersion (r : ProbeResult) : Except String Version := stderrVersion clangVersionRegex r

def GNU.gatherVersion (r : ProbeResult) : Except String Version := stderrVersion gnuVersionRegex r

theorem fieldsOf_ok {caps : Captures} {groups : List Nat} (fit : ∀ g ∈ groups, digitsValue (group caps g) ≤ 2147483647) :
    fieldsOf caps groups = .ok (groups.map fun g => digitsValue (group caps g)) := by
  induction groups with
  | nil => rfl
  | cons g rest ih =>
      unfold fieldsOf at ih ⊢
      rw [List.mapM_cons, show stoi (group caps g) = .ok _ from if_pos (fit g (List.mem_cons_self _ _)),
        ih fun g' mem => fit g' (List.mem_cons_of_mem _ mem)]
      rfl

theorem fieldsOf_error {caps : Captures} {groups : List Nat} (wide : ∃ g ∈ groups, 2147483647 < digitsValue (group caps g)) :
    fieldsOf caps groups = .error "stoi" := by
  induction groups with
  | nil => simp at wide
  | cons g rest ih =>
      unfold fieldsOf at ih ⊢
      rw [List.mapM_cons]
      by_cases fits : digitsValue (group caps g) ≤ 2147483647
      · have later : ∃ g ∈ rest, 2147483647 < digitsValue (group caps g) := by
          obtain ⟨g', mem, over⟩ := wide
          rcases List.mem_cons.mp mem with rfl | mem
          · omega
          · exact ⟨g', mem, over⟩
        rw [show stoi (group caps g) = .ok _ from if_pos fits, ih later]
        rfl
      · rw [show stoi (group caps g) = .error "stoi" from if_neg fits]
        rfl

theorem fieldsOf_error_iff (caps : Captures) (groups : List Nat) (e : String) :
    fieldsOf caps groups = .error e ↔ e = "stoi" ∧ ∃ g ∈ groups, 2147483647 < digitsValue (group caps g) := by
  by_cases fit : ∀ g ∈ groups, digitsValue (group caps g) ≤ 2147483647
  · rw [fieldsOf_ok fit]
    constructor
    · intro thrown
      cases thrown
    · rintro ⟨-, g, mem, over⟩
      exact absurd (fit g mem) (not_le.mpr over)
  · have wide : ∃ g ∈ groups, 2147483647 < digitsValue (group caps g) := by simpa using fit
    rw [fieldsOf_error wide]
    simp [wide, eq_comm]

theorem stderrVersion_error_iff (pat : List Atom) (r : ProbeResult) (e : String) :
    stderrVersion pat r = .error e ↔
      e = "stoi" ∧ r.failed = false ∧
        ∃ m, regexSearch pat (bytesOf r.err) = some m ∧ ∃ g ∈ [1, 2, 3], 2147483647 < digitsValue (group m g) := by
  unfold stderrVersion
  cases r.failed
  · cases regexSearch pat (bytesOf r.err) with
    | none => simp
    | some m => simpa using fieldsOf_error_iff m [1, 2, 3] e
  · simp

example : GNU.gatherVersion ⟨false, "", "1é2é3 99999999999.1.2"⟩ = .error "stoi" ∧
    Clang.gatherVersion ⟨false, "", "clang version 14é0é6"⟩ = .ok [] := ⟨rfl, rfl⟩

theorem gatherVersion_throws_on_wide_field :
    let gnu : ProbeResult := ⟨false, "", "gcc version 99999999999.1.2"⟩
    let clang : ProbeResult := ⟨false, "", "clang version 99999999999.0.0"⟩
    let msvc : ProbeResult := ⟨true, "", "Compiler Version 99999999999.16.27031.1 for x64"⟩
    (regexSearch gnuVersionRegex gnu.err.toList).map (group · 1) = some "99999999999".toList ∧
      GNU.gatherVersion gnu = .error "stoi" ∧ Clang.gatherVersion clang = .error "stoi" ∧
      VisualStudio.gatherVersion msvc = .error "stoi" :=
  ⟨by decide, rfl, rfl, rfl⟩

end Sw
