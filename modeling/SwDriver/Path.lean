import Mathlib.Data.List.Basic

set_option autoImplicit false

namespace Sw

-- std::filesystem::path on POSIX, as its text.
abbrev Path := String

def isAbsolute (p : Path) : Bool := p.toList.head? = some '/'

def endsWithSeparator (p : Path) : Bool := p.toList.getLast? = some '/'

-- operator/
def join (p q : Path) : Path :=
  if isAbsolute q then q
  else if p.isEmpty || endsWithSeparator p then p ++ q
  else p ++ "/" ++ q

def afterLast (sep : Char) : List Char → List Char → List Char
  | [], acc => acc.reverse
  | c :: cs, acc => if c = sep then afterLast sep cs [] else afterLast sep cs (c :: acc)

def filenameChars (p : Path) : List Char := afterLast '/' p.toList []

def filename (p : Path) : Path := String.mk (filenameChars p)

-- extension()
def extensionChars (name : List Char) : List Char :=
  if name = ['.'] ∨ name = ['.', '.'] then []
  else if '.' ∈ name.drop 1 then '.' :: afterLast '.' name []
  else []

def extension (p : Path) : String := String.mk (extensionChars (filenameChars p))

def stem (p : Path) : String :=
  let name := filenameChars p
  String.mk (name.take (name.length - (extensionChars name).length))

def parentPath (p : Path) : Path :=
  let before := ((p.toList.reverse.dropWhile (· ≠ '/')).drop 1).reverse
  if before.isEmpty && isAbsolute p then "/" else String.mk before

def normalizePath (p : Path) : String := String.mk (p.toList.map fun c => if c = '\\' then '/' else c)

-- std::string::substr(pos)
def substr (s : String) (pos : Nat) : Except String String :=
  if pos ≤ s.length then .ok (String.mk (s.toList.drop pos)) else .error "basic_string::substr"

-- if (root_s.back() == '/') root_s.resize(root_s.size() - 1);
def dropTrailingSeparator (s : String) : String :=
  if endsWithSeparator s then String.mk s.toList.dropLast else s

theorem isAbsolute_iff (p : Path) : isAbsolute p = true ↔ ∃ rest, p.toList = '/' :: rest := by
  unfold isAbsolute
  cases p.toList <;> simp

theorem isAbsolute_append {p : Path} (absolute : isAbsolute p = true) (q : Path) :
    isAbsolute (p ++ q) = true := by
  obtain ⟨rest, hp⟩ := (isAbsolute_iff p).mp absolute
  exact (isAbsolute_iff _).mpr ⟨rest ++ q.toList, by simp only [String.toList] at hp ⊢; simp [hp]⟩

theorem join_of_isAbsolute (p : Path) {q : Path} (absolute : isAbsolute q = true) : join p q = q := by
  simp [join, absolute]

theorem isAbsolute_join {p : Path} (absolute : isAbsolute p = true) (q : Path) :
    isAbsolute (join p q) = true := by
  unfold join
  split
  · assumption
  · split
    · exact isAbsolute_append absolute q
    · rw [String.append_assoc]
      exact isAbsolute_append absolute _

theorem isAbsolute_of_not_mem {q : Path} (absent : '/' ∉ q.toList) : isAbsolute q = false := by
  unfold isAbsolute
  cases text : q.toList with
  | nil => rfl
  | cons c rest => simpa using fun same : c = '/' => absent (by rw [text, same]; exact List.mem_cons_self _ _)

theorem join_toList_suffix (p q : Path) : ∃ pre, (join p q).toList = pre ++ q.toList := by
  unfold join
  split
  · exact ⟨[], rfl⟩
  · split
    · exact ⟨p.toList, rfl⟩
    · exact ⟨p.toList ++ ['/'], by simp [String.toList]⟩

theorem join_toList_of_relative {p q : Path} (relative : isAbsolute q = false) (named : p.isEmpty = false)
    (unended : endsWithSeparator p = false) : (join p q).toList = p.toList ++ '/' :: q.toList := by
  simp [join, relative, named, unended, String.toList]

theorem join_append (d : Path) {n : Path} (named : n.toList ≠ []) (s : Path) : join d (n ++ s) = join d n ++ s := by
  have rooted : isAbsolute (n ++ s) = isAbsolute n := by
    obtain ⟨c, rest, shape⟩ := List.exists_cons_of_ne_nil named
    simp only [isAbsolute, String.toList, String.data_append] at shape ⊢
    simp [shape]
  unfold join
  rw [rooted]
  split_ifs <;> simp only [String.append_assoc]

theorem afterLast_append_sep (sep : Char) (xs ys acc : List Char) :
    afterLast sep (xs ++ sep :: ys) acc = afterLast sep ys [] := by
  induction xs generalizing acc with
  | nil => simp [afterLast]
  | cons x rest ih => by_cases same : x = sep <;> simp [afterLast, same, ih]

theorem afterLast_of_not_mem (sep : Char) {ys : List Char} (absent : sep ∉ ys) (acc : List Char) :
    afterLast sep ys acc = acc.reverse ++ ys := by
  induction ys generalizing acc with
  | nil => simp [afterLast]
  | cons y rest ih =>
      have other : y ≠ sep := fun same => absent (same ▸ List.mem_cons_self _ _)
      simp [afterLast, other, ih (fun mem => absent (List.mem_cons_of_mem _ mem))]

theorem not_mem_afterLast (sep : Char) (cs : List Char) {acc : List Char} (absent : sep ∉ acc) :
    sep ∉ afterLast sep cs acc := by
  induction cs generalizing acc with
  | nil => simpa [afterLast] using absent
  | cons c rest ih =>
      unfold afterLast
      split
      · exact ih (List.not_mem_nil _)
      · exact ih (by simp [absent, Ne.symm ‹¬c = sep›])

theorem not_mem_filenameChars (p : Path) : '/' ∉ filenameChars p := not_mem_afterLast '/' _ (List.not_mem_nil _)

theorem filename_of_separator {p : Path} {pre : List Char} {name : String} (text : p.toList = pre ++ '/' :: name.toList)
    (absent : '/' ∉ name.toList) : filename p = name := by
  rw [filename, filenameChars, text, afterLast_append_sep, afterLast_of_not_mem _ absent]
  rfl

theorem afterLast_append_of_not_mem (sep : Char) (xs : List Char) {ys : List Char} (absent : sep ∉ ys)
    (acc : List Char) : afterLast sep (xs ++ ys) acc = afterLast sep xs acc ++ ys := by
  induction xs generalizing acc with
  | nil => simp [afterLast, afterLast_of_not_mem sep absent]
  | cons x rest ih => by_cases same : x = sep <;> simp [afterLast, same, ih]

theorem filenameChars_append (p : Path) {s : String} (absent : '/' ∉ s.toList) :
    filenameChars (p ++ s) = filenameChars p ++ s.toList := by
  rw [filenameChars, filenameChars, String.toList, String.data_append]
  exact afterLast_append_of_not_mem '/' _ absent []

theorem isAbsolute_append_of_not_mem (p : Path) {s : String} (absent : '/' ∉ s.toList) :
    isAbsolute (p ++ s) = isAbsolute p := by
  have unrooted : s.data.head? ≠ some '/' := fun first => absent (List.mem_of_mem_head? first)
  simp only [isAbsolute, String.toList, String.data_append, List.head?_append, decide_eq_decide]
  cases p.data.head? <;> simp [unrooted]

theorem parentPath_append (p : Path) {s : String} (absent : '/' ∉ s.toList) :
    parentPath (p ++ s) = parentPath p := by
  have kept : ∀ c ∈ s.data.reverse, decide (c ≠ '/') = true := fun c mem =>
    decide_eq_true fun same => absent (same ▸ List.mem_reverse.mp mem)
  simp only [parentPath, isAbsolute_append_of_not_mem p absent, String.toList, String.data_append, List.reverse_append]
  rw [List.dropWhile_append_of_pos kept]

theorem filenameChars_filename (p : Path) : filenameChars (filename p) = filenameChars p :=
  afterLast_of_not_mem '/' (not_mem_filenameChars p) []

theorem stem_filename_append {out ext : String} {rest : List Char} (named : filenameChars out ≠ [])
    (dotted : ext.toList = '.' :: rest) (more : rest ≠ []) (single : '.' ∉ rest) (flat : '/' ∉ rest) :
    stem (filename (out ++ ext)) = filename out := by
  have chars : filenameChars (filename (out ++ ext)) = filenameChars out ++ '.' :: rest := by
    rw [filenameChars_filename, filenameChars_append out (by rw [dotted]; simp [flat]), dotted]
  have dotAfterFirst : '.' ∈ (filenameChars out ++ '.' :: rest).drop 1 := by
    obtain ⟨c, name, shape⟩ := List.exists_cons_of_ne_nil named
    simp [shape]
  have long : ¬(filenameChars out ++ '.' :: rest = ['.'] ∨ filenameChars out ++ '.' :: rest = ['.', '.']) := by
    intro short
    have size : (filenameChars out ++ '.' :: rest).length ≤ 2 := by rcases short with same | same <;> rw [same] <;> decide
    have := List.length_pos.mpr named
    have := List.length_pos.mpr more
    simp only [List.length_append, List.length_cons] at size
    omega
  have extension : extensionChars (filenameChars out ++ '.' :: rest) = '.' :: rest := by
    rw [extensionChars, if_neg long, if_pos dotAfterFirst, afterLast_append_sep, afterLast_of_not_mem _ single]
    rfl
  simp only [stem, chars, extension, List.length_append, List.length_cons]
  rw [show (filenameChars out).length + (rest.length + 1) - (rest.length + 1) = (filenameChars out).length by omega,
    List.take_left]
  rfl

example : join "/src" "a.cpp" = "/src/a.cpp" := by decide
example : extension "/src/lib.tar.gz" = ".gz" ∧ extension "/src/.bashrc" = "" := by decide
example : stem "/obj/a.cpp.o" = "a.cpp" ∧ parentPath "/obj/a.o" = "/obj" := by decide

end Sw
