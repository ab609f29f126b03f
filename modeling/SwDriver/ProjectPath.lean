import Mathlib.Data.List.Lex
import Mathlib.Data.String.Basic

set_option autoImplicit false

namespace Sw

-- ProjectPath (project_path.cpp)
structure ProjectPath where
  pathElements : List String
deriving DecidableEq, Repr

namespace ProjectPath

-- c < 0 || c > 127 || !(isalnum(c) || c == '.' || c == '_')
def badSymbol (c : Char) : Bool := c.toNat > 127 || !(c.isAlphanum || c == '.' || c == '_')

-- the constructor's character loop
def scan (cur : List Char) : List Char → Except String (List String × List Char)
  | [] => .ok ([], cur)
  | c :: rest =>
      if badSymbol c then .error "Bad symbol in project name"
      else if c.toLower = '.' then (scan [] rest).map fun (closed, last) => (String.mk cur :: closed, last)
      else scan (cur ++ [c.toLower]) rest

-- ProjectPath(String s)
def ofString (s : String) : Except String ProjectPath :=
  if s.utf8ByteSize > 2048 then .error "Too long project path (must be <= 2048)"
  else (scan [] s.toList).map fun (closed, last) => ⟨closed ++ if s.isEmpty then [] else [String.mk last]⟩

/-- Modelled from the spec: project_path.h, which declares the default delimiter of
toString, is outside this repository; toPath turns the dots of toString() into
slashes, so the default is ".". -/
def defaultDelimiter : String := "."

-- toString(delim)
def toString (p : ProjectPath) (delim : String) : String :=
  if p.pathElements.isEmpty then ""
  else
    let joined := p.pathElements.foldl (fun acc e => acc ++ e ++ delim) ""
    String.mk (joined.toList.take (joined.length - delim.length))

def lowered (s : String) : String := String.mk (s.toList.map Char.toLower)

section RoundTrip

theorem isAlphanum_ascii {c : Char} (alnum : c.isAlphanum = true) : c.toNat < 128 := by
  simp only [Char.isAlphanum, Char.isAlpha, Char.isUpper, Char.isLower, Char.isDigit, Bool.or_eq_true,
    Bool.and_eq_true, decide_eq_true_eq] at alnum
  rcases alnum with (⟨_, h⟩ | ⟨_, h⟩) | ⟨_, h⟩ <;>
    exact Nat.lt_of_le_of_lt (UInt32.toNat_le_of_le (by decide) h) (by decide)

theorem badSymbol_eq_false_iff (c : Char) : badSymbol c = false ↔ c.isAlphanum ∨ c = '.' ∨ c = '_' := by
  constructor
  · intro good
    simp only [badSymbol, Bool.or_eq_false_iff, Bool.not_eq_false', Bool.or_eq_true, beq_iff_eq] at good
    exact or_assoc.mp good.2
  · rintro (alnum | rfl | rfl)
    · simp [badSymbol, alnum, Nat.lt_succ_iff.mp (isAlphanum_ascii alnum)]
    · decide
    · decide

theorem accepted_lower {c : Char} (good : badSymbol c = false) :
    badSymbol c.toLower = false ∧ c.toLower.toLower = c.toLower ∧ (c.toLower = '.' ↔ c = '.') ∧
      c.utf8Size = 1 ∧ c.toLower.utf8Size = 1 := by
  have ascii : c.toNat < 128 := by
    simp only [badSymbol, Bool.or_eq_false_iff, decide_eq_false_iff_not] at good
    omega
  have table : ∀ n : Fin 128, badSymbol (Char.ofNat n) = false →
      badSymbol (Char.ofNat n).toLower = false ∧ (Char.ofNat n).toLower.toLower = (Char.ofNat n).toLower ∧
        ((Char.ofNat n).toLower = '.' ↔ Char.ofNat n = '.') ∧ (Char.ofNat n).utf8Size = 1 ∧
        (Char.ofNat n).toLower.utf8Size = 1 := by
    decide
  simpa using table ⟨c.toNat, ascii⟩ (by simpa using good)

theorem not_dot_of_not_mem {cur : List Char} (closedCur : '.' ∉ cur) : ∀ x ∈ cur, ¬(x == '.') = true :=
  fun _ mem same => closedCur (beq_iff_eq.mp same ▸ mem)

theorem scan_splitOn {cur : List Char} (closedCur : '.' ∉ cur) (cs : List Char)
    (good : ∀ c ∈ cs, badSymbol c = false) :
    ∃ closed last, scan cur cs = .ok (closed, last) ∧
      closed.map String.toList ++ [last] = (cur ++ cs.map Char.toLower).splitOn '.' := by
  induction cs generalizing cur with
  | nil =>
      exact ⟨[], cur, rfl, by simpa using (List.splitOnP_eq_single _ cur (not_dot_of_not_mem closedCur)).symm⟩
  | cons c rest ih =>
      have accepted := good c (List.mem_cons_self _ _)
      have others := fun c' mem => good c' (List.mem_cons_of_mem _ mem)
      by_cases dot : c.toLower = '.'
      · obtain ⟨closed, last, scanned, split⟩ := ih (List.not_mem_nil _) others
        refine ⟨String.mk cur :: closed, last, by simp [scan, accepted, dot, scanned, Except.map], ?_⟩
        simp only [List.map_cons, List.cons_append, split, List.nil_append, dot]
        exact (List.splitOnP_first _ cur (not_dot_of_not_mem closedCur) '.' (beq_self_eq_true _) _).symm
      · obtain ⟨closed, last, scanned, split⟩ := @ih (cur ++ [c.toLower]) (by simp [closedCur, Ne.symm dot]) others
        exact ⟨closed, last, by simp [scan, accepted, dot, scanned], by simpa using split⟩

theorem scan_error (cur : List Char) {cs : List Char} (bad : ∃ c ∈ cs, badSymbol c = true) :
    ∃ e, scan cur cs = .error e := by
  induction cs generalizing cur with
  | nil => simp at bad
  | cons c rest ih =>
      by_cases here : badSymbol c = true
      · exact ⟨"Bad symbol in project name", by simp [scan, here]⟩
      · obtain ⟨c', mem, bad'⟩ := bad
        have later : ∃ c ∈ rest, badSymbol c = true :=
          ⟨c', (List.mem_cons.mp mem).resolve_left fun same => here (same ▸ bad'), bad'⟩
        by_cases dot : c.toLower = '.'
        · obtain ⟨e, failed⟩ := ih [] later
          exact ⟨e, by simp [scan, here, dot, failed, Except.map]⟩
        · obtain ⟨e, failed⟩ := ih (cur ++ [c.toLower]) later
          exact ⟨e, by simp [scan, here, dot, failed]⟩

theorem utf8ByteSize_eq (s : String) : s.utf8ByteSize = String.utf8Len s.toList := by
  cases s
  rfl

theorem length_le_utf8ByteSize (s : String) : s.length ≤ s.utf8ByteSize := by
  rw [utf8ByteSize_eq]
  obtain ⟨cs⟩ := s
  show cs.length ≤ String.utf8Len cs
  induction cs with
  | nil => simp
  | cons c rest ih => simp only [List.length_cons, String.utf8Len_cons]; have := c.utf8Size_pos; omega

theorem utf8ByteSize_of_accepted {s : String} (good : ∀ c ∈ s.toList, badSymbol c = false) :
    s.utf8ByteSize = s.length ∧ (lowered s).utf8ByteSize = s.length := by
  rw [utf8ByteSize_eq, utf8ByteSize_eq]
  obtain ⟨cs⟩ := s
  show String.utf8Len cs = cs.length ∧ String.utf8Len (cs.map Char.toLower) = cs.length
  induction cs with
  | nil => simp
  | cons c rest ih =>
      have facts := accepted_lower (good c (List.mem_cons_self _ _))
      have rest' := ih fun c' mem => good c' (List.mem_cons_of_mem _ mem)
      simp only [List.length_cons, List.map_cons, String.utf8Len_cons, facts.2.2.2.1, facts.2.2.2.2, rest'.1, rest'.2,
        and_self]

theorem toString_toList (p : ProjectPath) (delim : String) (nonempty : p.pathElements ≠ []) :
    (p.toString delim).toList = delim.toList.intercalate (p.pathElements.map String.toList) := by
  have joined : ∀ (es : List String) (init : String),
      (es.foldl (fun acc e => acc ++ e ++ delim) init).toList =
        init.toList ++ (es.map fun e => e.toList ++ delim.toList).flatten := by
    intro es
    induction es with
    | nil => simp
    | cons e rest ih => intro init; rw [List.foldl_cons, ih]; simp
  have closing : ∀ es : List String, es ≠ [] →
      (es.map fun e => e.toList ++ delim.toList).flatten =
        delim.toList.intercalate (es.map String.toList) ++ delim.toList := by
    intro es
    induction es with
    | nil => intro absurd; exact (absurd rfl).elim
    | cons e rest ih =>
        intro _
        cases rest with
        | nil => simp [List.intercalate]
        | cons e' rest' =>
            rw [List.map_cons, List.flatten_cons, ih (List.cons_ne_nil _ _)]
            simp [List.intercalate, List.intersperse_cons_cons]
  have whole := (joined p.pathElements "").trans (by rw [closing _ nonempty])
  unfold toString
  rw [if_neg (by simpa using nonempty)]
  simp only [String.length, String.toList] at whole ⊢
  simp [whole]

theorem scan_lowered (cur : List Char) {cs : List Char} (good : ∀ c ∈ cs, badSymbol c = false) :
    scan cur (cs.map Char.toLower) = scan cur cs := by
  induction cs generalizing cur with
  | nil => rfl
  | cons c rest ih =>
      have facts := accepted_lower (good c (List.mem_cons_self _ _))
      have later := fun cur => ih cur fun c' mem => good c' (List.mem_cons_of_mem _ mem)
      simp [scan, facts.1, facts.2.1, good c (List.mem_cons_self _ _), later]

theorem ofString_error {s : String} (rejected : 2048 < s.length ∨ ∃ c ∈ s.toList, badSymbol c = true) :
    ∃ e, ofString s = .error e := by
  unfold ofString
  by_cases long : s.utf8ByteSize > 2048
  · exact ⟨_, if_pos long⟩
  · rw [if_neg long]
    rcases rejected with longer | bad
    · exact absurd (Nat.lt_of_lt_of_le longer (length_le_utf8ByteSize s)) long
    · obtain ⟨e, failed⟩ := scan_error [] bad
      exact ⟨e, by rw [failed]; rfl⟩

theorem ofString_of_accepted {s : String} (good : ∀ c ∈ s.toList, badSymbol c = false) (short : s.length ≤ 2048) :
    ∃ p, ofString s = .ok p ∧ (p.toString defaultDelimiter).toList = s.toList.map Char.toLower := by
  obtain ⟨closed, last, scanned, split⟩ := scan_splitOn (List.not_mem_nil _) s.toList good
  have within : ¬s.utf8ByteSize > 2048 := by rw [(utf8ByteSize_of_accepted good).1]; omega
  refine ⟨_, by rw [ofString, if_neg within, scanned]; rfl, ?_⟩
  obtain ⟨_ | ⟨c, cs⟩⟩ := s
  · obtain ⟨rfl, rfl⟩ : closed = [] ∧ last = [] := by simpa [scan] using scanned.symm
    rfl
  · have nonempty : ¬String.isEmpty ⟨c :: cs⟩ := by simp [String.isEmpty_iff, String.ext_iff]
    dsimp only
    rw [if_neg nonempty, toString_toList _ _ (by simp), List.map_append, List.map_singleton]
    exact (congrArg _ split).trans (List.intercalate_splitOn _ _)

theorem ofString_ok_accepted {s : String} {p : ProjectPath} (built : ofString s = .ok p) :
    (∀ c ∈ s.toList, badSymbol c = false) ∧ s.length ≤ 2048 := by
  by_contra rejected
  obtain ⟨e, failed⟩ := ofString_error (s := s) (by
    simp only [not_and_or, not_forall, Bool.not_eq_false, not_le, exists_prop] at rejected
    exact rejected.symm)
  rw [failed] at built
  cases built

theorem ofString_lowered {s : String} (good : ∀ c ∈ s.toList, badSymbol c = false) :
    ofString (lowered s) = ofString s := by
  obtain ⟨bytes, lowBytes⟩ := utf8ByteSize_of_accepted good
  have empty : (lowered s).isEmpty = s.isEmpty := by
    simp only [String.isEmpty, String.endPos, lowBytes, bytes]
  unfold ofString
  rw [lowBytes, ← bytes, empty, show (lowered s).toList = s.toList.map Char.toLower from rfl,
    scan_lowered [] good]

/-- ProjectPath(String) accepts exactly the short ASCII names, and toString parses back. -/
theorem ofString_round_trip (s : String) :
    ((∃ e, ofString s = .error e) ↔
        2048 < s.length ∨ ∃ c ∈ s.toList, ¬(c.isAlphanum ∨ c = '.' ∨ c = '_')) ∧
      (s.length ≤ 2048 → (∀ c ∈ s.toList, c.isAlphanum ∨ c = '.' ∨ c = '_') →
        ∃ p, ofString s = .ok p ∧ p.toString defaultDelimiter = lowered s) ∧
      ∀ p, ofString s = .ok p → ofString (p.toString defaultDelimiter) = .ok p := by
  simp only [← badSymbol_eq_false_iff, Bool.not_eq_false]
  refine ⟨⟨fun ⟨e, failed⟩ => ?_, ofString_error⟩, fun short good => ?_, fun p built => ?_⟩
  · by_contra accepted
    simp only [not_or, not_lt, not_exists, not_and, Bool.not_eq_true] at accepted
    obtain ⟨p, built, _⟩ := ofString_of_accepted accepted.2 accepted.1
    rw [built] at failed
    cases failed
  · obtain ⟨p, built, text⟩ := ofString_of_accepted good short
    exact ⟨p, built, String.ext text⟩
  · obtain ⟨good, short⟩ := ofString_ok_accepted built
    obtain ⟨p', built', text⟩ := ofString_of_accepted good short
    obtain rfl : p' = p := by rw [built] at built'; cases built'; rfl
    have printed : _ = lowered s := String.ext text
    rw [printed, ofString_lowered good, built]

end RoundTrip

section Order

-- std::lexicographical_compare over the element vectors
def lexLess : List String → List String → Bool
  | [], [] => false
  | [], _ :: _ => true
  | _ :: _, [] => false
  | a :: as, b :: bs => if a.data < b.data then true else if b.data < a.data then false else lexLess as bs

-- operator<
def lessThan (a b : ProjectPath) : Bool :=
  match a.pathElements, b.pathElements with
  | [], [] => false
  | [], _ :: _ => true
  | _ :: _, [] => false
  | p0 :: _, pp0 :: _ =>
      if p0 = pp0 then lexLess a.pathElements b.pathElements
      else if p0 = "org" then true
      else if pp0 = "org" then false
      else if p0 = "pvt" then true
      else if pp0 = "pvt" then false
      else false

def Incomparable {α : Type} (lt : α → α → Bool) (a b : α) : Prop := lt a b = false ∧ lt b a = false

-- What std::sort, std::set and std::map require of a comparator.
structure StrictWeakOrder {α : Type} (lt : α → α → Bool) : Prop where
  irrefl : ∀ a, lt a a = false
  trans : ∀ a b c, lt a b = true → lt b c = true → lt a c = true
  incomparable_trans : ∀ a b c, Incomparable lt a b → Incomparable lt b c → Incomparable lt a c

def namespaceRank (p0 : String) : Nat := if p0 = "org" then 0 else if p0 = "pvt" then 1 else 2

theorem lexLess_cons (a b : String) (as bs : List String) :
    lexLess (a :: as) (b :: bs) = true ↔ a.data < b.data ∨ a = b ∧ lexLess as bs = true := by
  by_cases less : a.data < b.data
  · simp [lexLess, less]
  · by_cases greater : b.data < a.data
    · have differ : a ≠ b := fun same => lt_irrefl _ (same ▸ greater)
      simp [lexLess, less, greater, differ]
    · have same : a = b := String.ext (le_antisymm (not_lt.mp greater) (not_lt.mp less))
      simp [lexLess, less, greater, same]

theorem lexLess_irrefl (l : List String) : lexLess l l = false := by
  induction l with
  | nil => rfl
  | cons a rest ih => simpa [lexLess, lt_irrefl] using ih

theorem lexLess_trans {l m n : List String} (lm : lexLess l m = true) (mn : lexLess m n = true) :
    lexLess l n = true := by
  induction l generalizing m n with
  | nil => cases m <;> cases n <;> simp_all [lexLess]
  | cons a as ih =>
      obtain _ | ⟨b, bs⟩ := m
      · simp [lexLess] at lm
      obtain _ | ⟨c, cs⟩ := n
      · simp [lexLess] at mn
      rw [lexLess_cons] at lm mn ⊢
      rcases lm with ab | ⟨rfl, asbs⟩ <;> rcases mn with bc | ⟨rfl, bscs⟩
      · exact .inl (lt_trans ab bc)
      · exact .inl ab
      · exact .inl bc
      · exact .inr ⟨rfl, ih asbs bscs⟩

theorem lexLess_total {l m : List String} (lm : lexLess l m = false) (ml : lexLess m l = false) : l = m := by
  induction l generalizing m with
  | nil => cases m <;> simp_all [lexLess]
  | cons a as ih =>
      obtain _ | ⟨b, bs⟩ := m
      · simp [lexLess] at ml
      have lm' := mt (lexLess_cons a b as bs).mpr (by simp [lm])
      have ml' := mt (lexLess_cons b a bs as).mpr (by simp [ml])
      push_neg at lm' ml'
      obtain rfl : a = b := String.ext (le_antisymm ml'.1 lm'.1)
      simpa using ih (by simpa using lm'.2 rfl) (by simpa using ml'.2 rfl)

@[simp] theorem lessThan_nil_nil : lessThan ⟨[]⟩ ⟨[]⟩ = false := rfl

@[simp] theorem lessThan_nil_cons (y : String) (ys : List String) : lessThan ⟨[]⟩ ⟨y :: ys⟩ = true := rfl

@[simp] theorem lessThan_cons_nil (x : String) (xs : List String) : lessThan ⟨x :: xs⟩ ⟨[]⟩ = false := rfl

theorem lessThan_cons (x y : String) (xs ys : List String) :
    lessThan ⟨x :: xs⟩ ⟨y :: ys⟩ =
      if x = y then lexLess (x :: xs) (y :: ys) else decide (namespaceRank x < namespaceRank y) := by
  simp only [lessThan, namespaceRank]
  split_ifs <;> simp_all

theorem lessThan_irrefl (a : ProjectPath) : lessThan a a = false := by
  obtain ⟨_ | ⟨x, xs⟩⟩ := a
  · rfl
  · simp [lessThan_cons, lexLess_irrefl]

theorem lessThan_trans {a b c : ProjectPath} (ab : lessThan a b = true) (bc : lessThan b c = true) :
    lessThan a c = true := by
  obtain ⟨_ | ⟨x, xs⟩⟩ := a <;> obtain ⟨_ | ⟨y, ys⟩⟩ := b <;> obtain ⟨_ | ⟨z, zs⟩⟩ := c <;>
    try simp only [lessThan_nil_nil, lessThan_nil_cons, lessThan_cons_nil, Bool.false_eq_true] at ab bc ⊢
  rw [lessThan_cons] at ab bc ⊢
  by_cases xy : x = y <;> by_cases yz : y = z <;> simp only [xy, yz, if_true, if_false] at ab bc
  · subst xy yz
    simpa using lexLess_trans ab bc
  · subst xy
    simpa [yz] using bc
  · subst yz
    simpa [xy] using ab
  · have ranks : namespaceRank x < namespaceRank z := Nat.lt_trans (of_decide_eq_true ab) (of_decide_eq_true bc)
    have xz : x ≠ z := fun same => Nat.lt_irrefl _ (same ▸ ranks)
    simp [xz, ranks]

theorem lessThan_incomparable_iff (x y : String) (xs ys : List String) :
    Incomparable lessThan ⟨x :: xs⟩ ⟨y :: ys⟩ ↔
      x :: xs = y :: ys ∨ x ≠ y ∧ namespaceRank x = namespaceRank y := by
  by_cases xy : x = y
  · subst xy
    simp only [Incomparable, lessThan_cons, if_true, ne_eq, not_true_eq_false, false_and, or_false]
    exact ⟨fun ⟨lm, ml⟩ => lexLess_total lm ml, fun same => by rw [same]; exact ⟨lexLess_irrefl _, lexLess_irrefl _⟩⟩
  · simp only [Incomparable, lessThan_cons, xy, Ne.symm xy, if_false, decide_eq_false_iff_not,
      List.cons.injEq, false_and, false_or, ne_eq, not_false_eq_true, true_and]
    omega

/-- operator< is a strict order whose incomparable pairs share a first-element rank. -/
theorem lessThan_strict_order :
    (∀ a, lessThan a a = false) ∧ (∀ a b c, lessThan a b = true → lessThan b c = true → lessThan a c = true) ∧
      ∀ x y xs ys, Incomparable lessThan ⟨x :: xs⟩ ⟨y :: ys⟩ ↔
        x :: xs = y :: ys ∨ x ≠ y ∧ namespaceRank x = namespaceRank y :=
  ⟨lessThan_irrefl, fun _ _ _ => lessThan_trans, lessThan_incomparable_iff⟩

theorem lessThan_not_strict_weak_order :
    let a : ProjectPath := ⟨["com", "x"]⟩
    let b : ProjectPath := ⟨["loc", "z"]⟩
    let c : ProjectPath := ⟨["com", "y"]⟩
    Incomparable lessThan a b ∧ Incomparable lessThan b c ∧ lessThan a c = true ∧ ¬StrictWeakOrder lessThan := by
  intro a b c
  have ab : Incomparable lessThan a b := ⟨by decide, by decide⟩
  have bc : Incomparable lessThan b c := ⟨by decide, by decide⟩
  have ac : lessThan a c = true := by decide
  exact ⟨ab, bc, ac, fun order => by simp [(order.incomparable_trans a b c ab bc).1] at ac⟩

end Order

section Elements

inductive PathElementType
  | «namespace»
  | owner
  | tail
deriving DecidableEq, Repr

-- PathElements{ begin() + first, begin() + last }; past end() is none.
def elementRange (p : ProjectPath) (first last : Nat) : Option ProjectPath :=
  if first ≤ last ∧ last ≤ p.pathElements.length then some ⟨(p.pathElements.drop first).take (last - first)⟩
  else none

-- operator[](PathElementType)
def index (p : ProjectPath) : PathElementType → Option ProjectPath
  | .«namespace» => if p.pathElements.isEmpty then some p else elementRange p 0 1
  | .owner => if p.pathElements.length < 2 then some p else elementRange p 1 2
  | .tail => if p.pathElements.length ≥ 2 then some p else elementRange p 2 p.pathElements.length

-- get_owner()
def getOwner (p : ProjectPath) : String :=
  if p.pathElements.length < 2 then "" else p.pathElements.getD 1 ""

theorem index_tail_inverted :
    let p : ProjectPath := ⟨["org", "sw", "demo"]⟩
    let q : ProjectPath := ⟨["org"]⟩
    p.index .«namespace» = some ⟨["org"]⟩ ∧ p.index .owner = some ⟨["sw"]⟩ ∧ p.index .tail = some p ∧
      ((p.index .«namespace»).bind fun n => (p.index .owner).bind fun o => (p.index .tail).map fun t =>
        n.pathElements ++ o.pathElements ++ t.pathElements) = some ["org", "sw", "org", "sw", "demo"] ∧
      q.index .tail = none := by
  decide

end Elements

end ProjectPath

end Sw
