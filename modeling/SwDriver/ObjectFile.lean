import Mathlib.Data.String.Basic
import SwDriver.Storage

set_option autoImplicit false

namespace Sw

/-- Modelled from the spec: sha256 comes from primitives, outside this repository,
and gives the digest as 64 hexadecimal digits. -/
def IsSha256Digest (h : String) : Prop :=
  h.length = 64 ∧ ∀ c ∈ h.toList, c.isDigit ∨ ('a' ≤ c ∧ c ≤ 'f') ∨ ('A' ≤ c ∧ c ≤ 'F')

instance (h : String) : Decidable (IsSha256Digest h) := inferInstanceAs (Decidable (_ ∧ _))

theorem IsSha256Digest.take_length {h : String} (digest : IsSha256Digest h) : (h.take 8).toList.length = 8 := by
  have whole : h.data.length = 64 := digest.1
  simp [String.toList, String.data_take, whole]

theorem IsSha256Digest.separator_not_mem_take {h : String} (digest : IsSha256Digest h) :
    '/' ∉ (h.take 8).toList := fun mem => by
  have hex := digest.2 '/' (List.mem_of_mem_take (n := 8) (by rwa [String.toList, String.data_take] at mem))
  revert hex
  decide

theorem getObjectExtension_cases (c : NativeCompiler) :
    c.getObjectExtension = ".o" ∨ c.getObjectExtension = ".obj" := by
  unfold NativeCompiler.getObjectExtension
  split <;> simp

-- Reads an object file name filename.HASH8ext back.
def splitObjectName (n : List Char) : List Char × List Char × List Char :=
  let ext := if n.getLast? = some 'j' then 4 else 2
  let body := n.take (n.length - ext)
  (body.take (body.length - 9), body.drop (body.length - 8), n.drop (n.length - ext))

theorem splitObjectName_layout (f h : List Char) {e : String} (hash : h.length = 8) (ext : e = ".o" ∨ e = ".obj") :
    splitObjectName ((f ++ '.' :: h) ++ e.toList) = (f, h, e.toList) := by
  have extLength : (if ((f ++ '.' :: h) ++ e.toList).getLast? = some 'j' then 4 else 2) = e.toList.length := by
    rcases ext with rfl | rfl <;> rw [List.getLast?_append] <;> rfl
  simp only [splitObjectName, extLength, List.length_append, Nat.add_sub_cancel, List.take_left', List.drop_left']
  simp [hash, List.drop_append_eq_append_drop, List.take_append_eq_append_take]

theorem NativeSourceFile.make_output (input output : Path) (c : NativeCompiler) :
    (NativeSourceFile.make input output c).native.map Prod.snd = some output := rfl

section Target

variable (t : Target)

theorem objectName_toList (p : Path) (e : String) :
    (getObjectFilename t p ++ e).toList =
      (filenameChars p ++ '.' :: ((t.sha256 (t.targetName ++ p)).take 8).toList) ++ e.toList := by
  simp [getObjectFilename, filename, String.toList]

theorem objectName_decode (p : Path) {e : String} (digest : IsSha256Digest (t.sha256 (t.targetName ++ p)))
    (ext : e = ".o" ∨ e = ".obj") :
    splitObjectName (getObjectFilename t p ++ e).toList =
      (filenameChars p, ((t.sha256 (t.targetName ++ p)).take 8).toList, e.toList) := by
  rw [objectName_toList]
  exact splitObjectName_layout _ _ digest.take_length ext

theorem objectFile_toList (L : Language) (p : Path) (digest : IsSha256Digest (t.sha256 (t.targetName ++ p))) :
    ∃ pre, (NativeLanguage.objectFile t L p).toList = pre ++ '/' :: (getObjectFilename t p ++ L.compiler.getObjectExtension).toList ∧
      '/' ∉ (getObjectFilename t p ++ L.compiler.getObjectExtension).toList := by
  have absent : '/' ∉ (getObjectFilename t p ++ L.compiler.getObjectExtension).toList := by
    rw [objectName_toList]
    simp only [List.mem_append, List.mem_cons, not_or]
    refine ⟨⟨not_mem_filenameChars p, by decide, digest.separator_not_mem_take⟩, ?_⟩
    rcases getObjectExtension_cases L.compiler with ext | ext <;> rw [ext] <;> decide
  obtain ⟨dirPre, dirText⟩ := join_toList_suffix (parentPath t.binaryDir) "obj"
  have named : (join (parentPath t.binaryDir) "obj").isEmpty = false := by
    refine Bool.eq_false_iff.mpr fun empty => ?_
    rw [(String.isEmpty_iff _).mp empty] at dirText
    simp at dirText
  have unended : endsWithSeparator (join (parentPath t.binaryDir) "obj") = false := by
    rw [endsWithSeparator, dirText, List.getLast?_append]
    rfl
  obtain ⟨pre, text⟩ := join_toList_suffix t.fs.currentPath
    (join (join (parentPath t.binaryDir) "obj") (getObjectFilename t p ++ L.compiler.getObjectExtension))
  refine ⟨pre ++ (join (parentPath t.binaryDir) "obj").toList, ?_, absent⟩
  rw [NativeLanguage.objectFile, Filesystem.absolute, text,
    join_toList_of_relative (isAbsolute_of_not_mem absent) named unended, List.append_assoc]

theorem filename_objectFile (L : Language) (p : Path) (digest : IsSha256Digest (t.sha256 (t.targetName ++ p))) :
    filename (NativeLanguage.objectFile t L p) = getObjectFilename t p ++ L.compiler.getObjectExtension := by
  obtain ⟨pre, text, absent⟩ := objectFile_toList t L p digest
  exact filename_of_separator text absent

theorem createSourceFile_output (L : Language) (p : Path) :
    (NativeLanguage.createSourceFile t L p).native.map Prod.snd = some (NativeLanguage.objectFile t L p) :=
  NativeSourceFile.make_output _ _ _

end Target

/-- Two object paths collide only when the first eight digits of their digests do. -/
theorem objectFilename_collision (t1 t2 : Target) (digest1 : ∀ s, IsSha256Digest (t1.sha256 s))
    (digest2 : ∀ s, IsSha256Digest (t2.sha256 s)) :
    (∀ (p1 p2 : Path) (e1 e2 : String), (e1 = ".o" ∨ e1 = ".obj") → (e2 = ".o" ∨ e2 = ".obj") →
      getObjectFilename t1 p1 ++ e1 = getObjectFilename t2 p2 ++ e2 →
      filename p1 = filename p2 ∧ e1 = e2 ∧
        (t1.sha256 (t1.targetName ++ p1)).take 8 = (t2.sha256 (t2.targetName ++ p2)).take 8) ∧
    (t1.targetName ≠ t2.targetName → ∀ p : Path, t1.targetName ++ p ≠ t2.targetName ++ p) ∧
    (∀ (L1 L2 : Language) (p1 p2 : Path),
      (NativeLanguage.createSourceFile t1 L1 p1).native.map Prod.snd =
          (NativeLanguage.createSourceFile t2 L2 p2).native.map Prod.snd →
        filename p1 = filename p2 ∧ L1.compiler.getObjectExtension = L2.compiler.getObjectExtension ∧
          (t1.sha256 (t1.targetName ++ p1)).take 8 = (t2.sha256 (t2.targetName ++ p2)).take 8) := by
  have names : ∀ (p1 p2 : Path) (e1 e2 : String), (e1 = ".o" ∨ e1 = ".obj") → (e2 = ".o" ∨ e2 = ".obj") →
      getObjectFilename t1 p1 ++ e1 = getObjectFilename t2 p2 ++ e2 →
      filename p1 = filename p2 ∧ e1 = e2 ∧
        (t1.sha256 (t1.targetName ++ p1)).take 8 = (t2.sha256 (t2.targetName ++ p2)).take 8 := by
    intro p1 p2 e1 e2 ext1 ext2 same
    have decoded := congrArg (splitObjectName ∘ String.toList) same
    simp only [Function.comp, objectName_decode _ _ (digest1 _) ext1, objectName_decode _ _ (digest2 _) ext2,
      Prod.mk.injEq] at decoded
    exact ⟨congrArg String.mk decoded.1, String.ext decoded.2.2, String.ext decoded.2.1⟩
  refine ⟨names, fun differ p same =>
    differ (String.ext (List.append_cancel_right (congrArg String.data same))), ?_⟩
  intro L1 L2 p1 p2 same
  rw [createSourceFile_output, createSourceFile_output] at same
  have objectNames := congrArg filename (Option.some.inj same)
  rw [filename_objectFile _ _ _ (digest1 _), filename_objectFile _ _ _ (digest2 _)] at objectNames
  exact names p1 p2 _ _ (getObjectExtension_cases _) (getObjectExtension_cases _) objectNames

theorem objectFilename_collision_constant_digest :
    let t : Target := { demoTarget gccRegistry with sha256 := fun _ => String.mk (List.replicate 64 '0') }
    (∀ s, IsSha256Digest (t.sha256 s)) ∧
      (t.sha256 (t.targetName ++ "/src/a.cpp")).take 8 = (t.sha256 (t.targetName ++ "/lib/a.cpp")).take 8 := by
  intro t
  have digest : ∀ s, IsSha256Digest (t.sha256 s) := fun _ =>
    (by decide : IsSha256Digest (String.mk (List.replicate 64 '0')))
  exact ⟨digest, ((objectFilename_collision t t digest digest).1 "/src/a.cpp" "/lib/a.cpp" ".o" ".o"
    (.inl rfl) (.inl rfl) (by decide)).2.2⟩

end Sw
