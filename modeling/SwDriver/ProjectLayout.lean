import SwDriver.ProjectPath
import SwDriver.Path
import Mathlib.Data.List.GetD

set_option autoImplicit false

namespace Sw

namespace ProjectPath

-- toPath, toFileSystemPath, has_namespace, is_absolute, is_root_of (project_path.cpp)

/-- Modelled from the spec: enums.h and project_path.h, which give toIndex and the
order of PathElementType, are outside this repository; Owner is at index 1, the
position operator[] and get_owner() take the owner from. -/
def PathElementType.toIndex : PathElementType → Nat
  | .«namespace» => 0
  | .owner => 1
  | .tail => 2

-- toPath()
def toPath (p : ProjectPath) : String :=
  String.mk ((p.toString defaultDelimiter).toList.map fun c => if c = '.' then '/' else c)

-- e.substr(0, n)
def leading (e : String) (n : Nat) : String := String.mk (e.toList.take n)

-- one pass of toFileSystemPath's loop
def layoutStep (acc : Path) (ie : Nat × String) : Path :=
  let acc := if ie.1 = PathElementType.owner.toIndex then join (join acc (leading ie.2 1)) (leading ie.2 2) else acc
  join acc ie.2

def toFileSystemPath (p : ProjectPath) : Path :=
  if p.pathElements.isEmpty then "" else p.pathElements.enum.foldl layoutStep ""

/-- Modelled from the spec: pvt(), org(), com() and loc() are declared in
project_path.h, outside this repository; each is the one-element path it names,
as operator< compares first elements with "org" and "pvt". -/
def namespaceRoots : List ProjectPath := [⟨["pvt"]⟩, ⟨["org"]⟩, ⟨["com"]⟩, ⟨["loc"]⟩]

-- has_namespace()
def hasNamespace (p : ProjectPath) : Bool :=
  match p.pathElements with
  | [] => false
  | e :: _ => namespaceRoots.any fun root => root.pathElements.head? == some e

-- is_absolute(username)
def isAbsolute (p : ProjectPath) (username : String) : Bool :=
  if !p.hasNamespace then false
  else if username.isEmpty then p.pathElements.length > 1
  else p.pathElements.length > 2 && p.pathElements.getD 1 "" == username

-- is_root_of(p)
def isRootOf (p q : ProjectPath) : Bool :=
  if p.pathElements.length ≥ q.pathElements.length then false
  else (List.range p.pathElements.length).all fun i => p.pathElements.getD i "" == q.pathElements.getD i ""

def pushBack (p : ProjectPath) (e : String) : ProjectPath := ⟨p.pathElements ++ [e]⟩

section Roots

variable (p q : ProjectPath)

theorem isRootOf_iff :
    p.isRootOf q = true ↔ List.IsPrefix p.pathElements q.pathElements ∧ p.pathElements.length < q.pathElements.length := by
  unfold isRootOf
  by_cases longer : p.pathElements.length ≥ q.pathElements.length
  · simp only [if_pos longer, Bool.false_eq_true, false_iff, not_and, not_lt]
    exact fun _ => longer
  · simp only [if_neg longer, List.all_eq_true, List.mem_range, beq_iff_eq, List.isPrefix_iff]
    constructor
    · intro same
      refine ⟨fun i bound => ?_, by omega⟩
      have at_i := same i bound
      rw [List.getD_eq_getElem _ _ bound, List.getD_eq_getElem _ _ (by omega)] at at_i
      exact List.getElem?_eq_some_iff.mpr ⟨_, at_i.symm⟩
    · intro ⟨prefixed, _⟩ i bound
      have at_i := prefixed i bound
      rw [List.getElem?_eq_some_iff] at at_i
      obtain ⟨inQ, same⟩ := at_i
      rw [List.getD_eq_getElem _ _ bound, List.getD_eq_getElem _ _ inQ, same]

theorem isRootOf_elements {p q : ProjectPath} (root : p.isRootOf q = true) (i : Nat)
    (inside : i < p.pathElements.length) : q.pathElements.getD i "" = p.pathElements.getD i "" := by
  obtain ⟨prefixed, _⟩ := (isRootOf_iff p q).mp root
  obtain ⟨rest, split⟩ := prefixed
  rw [← split, List.getD_append _ _ _ _ inside]

theorem hasNamespace_of_isRootOf {p q : ProjectPath} (root : p.isRootOf q = true) (named : p.hasNamespace = true) :
    q.hasNamespace = true := by
  have first := isRootOf_elements root 0
  unfold hasNamespace at named ⊢
  cases ps : p.pathElements with
  | nil => simp [ps] at named
  | cons e rest =>
      cases qs : q.pathElements with
      | nil => simp [isRootOf_iff, ps, qs] at root
      | cons e' rest' =>
          obtain rfl : e' = e := by simpa [ps, qs] using first
          simpa [ps] using named

/-- Every package under an absolute root is absolute. -/
theorem isAbsolute_of_isRootOf {p q : ProjectPath} (root : p.isRootOf q = true) (username : String)
    (absolute : p.isAbsolute username = true) : q.isAbsolute username = true := by
  have longer := ((isRootOf_iff p q).mp root).2
  unfold isAbsolute at absolute ⊢
  by_cases named : p.hasNamespace = true
  · rw [hasNamespace_of_isRootOf root named]
    rw [named] at absolute
    by_cases anonymous : username.isEmpty = true
    · simp only [anonymous] at absolute ⊢
      simp only [Bool.not_true, Bool.false_eq_true, if_false, if_true, decide_eq_true_eq] at absolute ⊢
      omega
    · simp only [Bool.not_eq_true] at anonymous
      simp only [anonymous, Bool.not_true, Bool.false_eq_true, if_false, Bool.and_eq_true, decide_eq_true_eq,
        beq_iff_eq] at absolute ⊢
      exact ⟨by omega, by rw [isRootOf_elements root 1 (by omega), absolute.2]⟩
  · simp [named] at absolute

theorem isAbsolute_of_isRootOf_org_sw :
    let p : ProjectPath := ⟨["org", "sw"]⟩
    let q : ProjectPath := ⟨["org", "sw", "demo"]⟩
    (p.isRootOf q = true ∧ p.isAbsolute "" = true) ∧ q.isAbsolute "" = true :=
  ⟨⟨by decide, by decide⟩, isAbsolute_of_isRootOf (p := ⟨["org", "sw"]⟩) (by decide) "" (by decide)⟩

end Roots

section Layout

def IsDirName (e : String) : Prop := e.toList ≠ [] ∧ '/' ∉ e.toList

instance (e : String) : Decidable (IsDirName e) := inferInstanceAs (Decidable (_ ∧ _))

def Unterminated (acc : Path) : Prop := acc.toList ≠ [] ∧ acc.toList.getLast? ≠ some '/'

def storageDirs : List String → List String
  | e :: owner :: rest => e :: leading owner 1 :: leading owner 2 :: owner :: rest
  | es => es

theorem intercalate_cons_eq {α : Type} (sep x : List α) (xs : List (List α)) :
    sep.intercalate (x :: xs) = x ++ (xs.map (sep ++ ·)).flatten := by
  induction xs generalizing x with
  | nil => simp [List.intercalate]
  | cons y ys ih =>
      simp only [List.intercalate, List.intersperse_cons_cons, List.flatten_cons] at ih ⊢
      rw [ih]
      simp

theorem IsDirName.unterminated {e : String} (dir : IsDirName e) : Unterminated e :=
  ⟨dir.1, fun last => dir.2 (List.mem_of_getLast?_eq_some last)⟩

theorem leading_isDirName {e : String} (dir : IsDirName e) {n : Nat} (positive : 0 < n) : IsDirName (leading e n) :=
  ⟨by simpa [leading, List.take_eq_nil_iff, Nat.pos_iff_ne_zero.mp positive] using dir.1,
    fun mem => dir.2 (List.mem_of_mem_take mem)⟩

theorem join_empty_left (e : Path) : join "" e = e := by
  unfold join
  split
  · rfl
  · rw [if_pos (by decide), String.empty_append]

theorem join_dirName {acc e : Path} (open_ : Unterminated acc) (dir : IsDirName e) :
    (join acc e).toList = acc.toList ++ '/' :: e.toList := by
  have relative : Sw.isAbsolute e = false := by
    simpa [Sw.isAbsolute] using fun first => dir.2 (List.mem_of_mem_head? first)
  have filled : acc.isEmpty = false :=
    Bool.eq_false_iff.mpr fun empty => open_.1 (by rw [(String.isEmpty_iff acc).mp empty]; rfl)
  have unterminated : endsWithSeparator acc = false := by simpa [endsWithSeparator] using open_.2
  simp [join, relative, filled, unterminated]

theorem join_dirName_unterminated {acc e : Path} (open_ : Unterminated acc) (dir : IsDirName e) :
    Unterminated (join acc e) := by
  rw [Unterminated, join_dirName open_ dir]
  refine ⟨by simp, ?_⟩
  rw [← List.singleton_append, ← List.append_assoc, List.getLast?_append_of_ne_nil _ dir.1]
  exact dir.unterminated.2

theorem layoutStep_of_ne_owner (acc : Path) {i : Nat} (e : String) (other : i ≠ 1) :
    layoutStep acc (i, e) = join acc e := by
  simp [layoutStep, PathElementType.toIndex, other]

theorem layoutStep_owner (acc : Path) (e : String) :
    layoutStep acc (1, e) = join (join (join acc (leading e 1)) (leading e 2)) e := by
  simp [layoutStep, PathElementType.toIndex]

theorem toFileSystemPath_eq_foldl (p : ProjectPath) : toFileSystemPath p = p.pathElements.enum.foldl layoutStep "" := by
  unfold toFileSystemPath
  split
  · rename_i empty
    rw [List.isEmpty_iff.mp empty]
    rfl
  · rfl

theorem foldl_layoutStep {es : List String} (dirs : ∀ e ∈ es, IsDirName e) :
    ∀ {k : Nat} {acc : Path}, 2 ≤ k → Unterminated acc →
      ((es.enumFrom k).foldl layoutStep acc).toList = acc.toList ++ (es.map fun e => '/' :: e.toList).flatten := by
  induction es with
  | nil => intros; simp
  | cons e rest ih =>
      intro k acc past open_
      have dir := dirs e (List.mem_cons_self _ _)
      rw [List.enumFrom_cons, List.foldl_cons, layoutStep_of_ne_owner _ _ (by omega),
        ih (fun e' mem => dirs e' (List.mem_cons_of_mem _ mem)) (by omega) (join_dirName_unterminated open_ dir),
        join_dirName open_ dir]
      simp

theorem toFileSystemPath_toList (p : ProjectPath) (dirs : ∀ e ∈ p.pathElements, IsDirName e) :
    (toFileSystemPath p).toList = ['/'].intercalate ((storageDirs p.pathElements).map String.toList) := by
  rw [toFileSystemPath_eq_foldl]
  obtain ⟨es⟩ := p
  match es, dirs with
  | [], _ => rfl
  | [e], _ => simp [layoutStep_of_ne_owner, join_empty_left, storageDirs, List.intercalate]
  | e :: owner :: rest, dirs =>
      have first := (dirs e (by simp)).unterminated
      have named := dirs owner (by simp)
      have one := leading_isDirName named Nat.one_pos
      have two := leading_isDirName named Nat.two_pos
      have opened := join_dirName_unterminated first one
      have deeper := join_dirName_unterminated opened two
      rw [List.enum_cons, List.foldl_cons, layoutStep_of_ne_owner _ _ (by decide), join_empty_left,
        List.enumFrom_cons, List.foldl_cons, layoutStep_owner,
        foldl_layoutStep (fun e' mem => dirs e' (by simp [mem])) le_rfl (join_dirName_unterminated deeper named),
        join_dirName deeper named, join_dirName opened two, join_dirName first one]
      simp [storageDirs, intercalate_cons_eq, Function.comp_def]

theorem mem_storageDirs {es : List String} {d : String} (mem : d ∈ storageDirs es) :
    ∃ e ∈ es, d = e ∨ d = leading e 1 ∨ d = leading e 2 := by
  match es, mem with
  | [], mem => simp [storageDirs] at mem
  | [e], mem => exact ⟨e, by simp, .inl (by simpa [storageDirs] using mem)⟩
  | e :: owner :: rest, mem =>
      simp only [storageDirs, List.mem_cons] at mem
      rcases mem with rfl | rfl | rfl | rfl | mem
      · exact ⟨_, by simp, .inl rfl⟩
      · exact ⟨owner, by simp, .inr (.inl rfl)⟩
      · exact ⟨owner, by simp, .inr (.inr rfl)⟩
      · exact ⟨_, by simp, .inl rfl⟩
      · exact ⟨d, by simp [mem], .inl rfl⟩

theorem toPath_toList (p : ProjectPath) :
    (toPath p).toList = ['/'].intercalate (p.pathElements.map fun e => e.toList.map fun c => if c = '.' then '/' else c) := by
  cases elements : p.pathElements with
  | nil => simp [toPath, toString, elements, List.intercalate]
  | cons e rest =>
      have printed := toString_toList p defaultDelimiter (by simp [elements])
      show List.map _ (p.toString defaultDelimiter).toList = _
      rw [printed, elements]
      simp [intercalate_cons_eq, defaultDelimiter, List.map_flatten, Function.comp_def]

theorem map_slash_of_not_mem {l : List Char} (noDot : '.' ∉ l) :
    l.map (fun c => if c = '.' then '/' else c) = l :=
  (List.map_congr_left (g := id) fun c mem => if_neg fun (same : c = '.') => noDot (same ▸ mem)).trans (List.map_id l)

/-- toFileSystemPath is toPath with the owner's two prefix directories inserted. -/
theorem toFileSystemPath_eq_toPath (p : ProjectPath) (names : ∀ e ∈ p.pathElements, IsDirName e ∧ '.' ∉ e.toList) :
    toFileSystemPath p = toPath ⟨storageDirs p.pathElements⟩ := by
  apply String.ext
  show (toFileSystemPath p).toList = (toPath _).toList
  rw [toFileSystemPath_toList p fun e mem => (names e mem).1, toPath_toList]
  congr 1
  refine List.map_congr_left fun d mem => ?_
  obtain ⟨e, inEs, rfl | rfl | rfl⟩ := mem_storageDirs mem
  · exact (map_slash_of_not_mem (names _ inEs).2).symm
  all_goals exact (map_slash_of_not_mem fun inD => (names e inEs).2 (List.mem_of_mem_take inD)).symm

theorem toFileSystemPath_eq_toPath_org_sw_demo :
    let p : ProjectPath := ⟨["org", "sw", "demo"]⟩
    (∀ e ∈ p.pathElements, IsDirName e ∧ '.' ∉ e.toList) ∧ toFileSystemPath p = toPath ⟨storageDirs p.pathElements⟩ :=
  ⟨by decide, toFileSystemPath_eq_toPath ⟨["org", "sw", "demo"]⟩ (by decide)⟩

theorem toFileSystemPath_pushBack (p : ProjectPath) (e : String) :
    toFileSystemPath (p.pushBack e) = layoutStep (toFileSystemPath p) (p.pathElements.length, e) := by
  rw [toFileSystemPath_eq_foldl, toFileSystemPath_eq_foldl, pushBack, List.enum_append, List.foldl_append]
  rfl

theorem join_empty_right (acc : Path) : join acc "" = if acc.isEmpty || endsWithSeparator acc then acc else acc ++ "/" := by
  simp [join, Sw.isAbsolute]

theorem join_join_empty (acc : Path) : join (join acc "") "" = join acc "" := by
  rw [join_empty_right acc]
  split
  · rw [join_empty_right, if_pos ‹_›]
  · have slashed : endsWithSeparator (acc ++ "/") = true := by simp [endsWithSeparator]
    rw [join_empty_right, slashed, Bool.or_true, if_pos rfl]

theorem layoutStep_empty (acc : Path) (i : Nat) : layoutStep acc (i, "") = join acc "" := by
  by_cases owner : i = 1
  · rw [owner, layoutStep_owner, show leading "" 1 = "" from rfl, show leading "" 2 = "" from rfl, join_join_empty,
      join_join_empty]
  · exact layoutStep_of_ne_owner _ _ owner

theorem scan_append_dot (cur cs : List Char) :
    scan cur (cs ++ ['.']) = (scan cur cs).map fun r => (r.1 ++ [String.mk r.2], []) := by
  have dot : badSymbol '.' = false ∧ Char.toLower '.' = '.' := by decide
  induction cs generalizing cur with
  | nil => simp [scan, dot, Except.map]
  | cons c rest ih =>
      rw [List.cons_append, scan, scan]
      split
      · rfl
      · split
        · rw [ih]
          cases scan [] rest <;> rfl
        · exact ih _

theorem toFileSystemPath_pushBack_empty_of (p : ProjectPath) :
    toFileSystemPath ((p.pushBack "").pushBack "") = toFileSystemPath (p.pushBack "") := by
  rw [toFileSystemPath_pushBack (p.pushBack ""), toFileSystemPath_pushBack p, layoutStep_empty, layoutStep_empty,
    join_join_empty]

theorem utf8ByteSize_append (s t : String) : (s ++ t).utf8ByteSize = s.utf8ByteSize + t.utf8ByteSize := by
  simp only [utf8ByteSize_eq, String.toList, String.data_append, String.utf8Len_append]

/-- A name ending in two dots shares its directory with the name one dot shorter. -/
theorem ofString_dots_share_directory (s : String) (q : ProjectPath) (built : ofString (s ++ "..") = .ok q) :
    ∃ p, ofString (s ++ ".") = .ok p ∧ p ≠ q ∧ toFileSystemPath p = toFileSystemPath q := by
  have shorter : (s ++ ".").utf8ByteSize ≤ (s ++ "..").utf8ByteSize := by
    rw [utf8ByteSize_append, utf8ByteSize_append]
    exact Nat.add_le_add_left (by decide) _
  unfold ofString at built ⊢
  split at built
  · cases built
  rw [if_neg (by omega)]
  rw [show (s ++ "..").toList = (s.toList ++ ['.']) ++ ['.'] by simp [String.toList], scan_append_dot,
    scan_append_dot] at built
  rw [show (s ++ ".").toList = s.toList ++ ['.'] by simp [String.toList], scan_append_dot]
  have named : ∀ t : String, t ≠ "" → (s ++ t).isEmpty = false := fun t filled =>
    Bool.eq_false_iff.mpr fun empty => by
      have both : s.toList = [] ∧ t.toList = [] := by
        simpa [String.ext_iff, String.toList] using (String.isEmpty_iff _).mp empty
      exact filled (String.ext both.2)
  rw [named _ (by decide)] at built
  rw [named _ (by decide)]
  cases scanned : scan [] s.toList with
  | error e => rw [scanned] at built; cases built
  | ok r =>
      rw [scanned] at built
      cases built
      let root : ProjectPath := ⟨r.1 ++ [String.mk r.2]⟩
      refine ⟨root.pushBack "", rfl, fun same => ?_, ?_⟩
      · have := congrArg (·.pathElements.length) same
        simp [root, pushBack] at this
      · exact (toFileSystemPath_pushBack_empty_of root).symm

theorem ofString_dots_share_directory_org_sw :
    ofString ("org.sw" ++ "..") = .ok ⟨["org", "sw", "", ""]⟩ ∧
      ∃ p, ofString ("org.sw" ++ ".") = .ok p ∧ p ≠ ⟨["org", "sw", "", ""]⟩ ∧
        toFileSystemPath p = toFileSystemPath ⟨["org", "sw", "", ""]⟩ :=
  ⟨rfl, ofString_dots_share_directory "org.sw" _ rfl⟩

end Layout

end ProjectPath

end Sw
