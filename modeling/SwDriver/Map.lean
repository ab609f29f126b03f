import Mathlib.Order.MinMax

set_option autoImplicit false

namespace Sw

-- std::map and std::unordered_map as association lists.
abbrev Map (K V : Type) := List (K × V)

namespace Map

variable {K V : Type} [DecidableEq K]

def get? : Map K V → K → Option V
  | [], _ => none
  | (key, value) :: rest, k => if key = k then some value else get? rest k

def set : Map K V → K → V → Map K V
  | [], k, v => [(k, v)]
  | (key, value) :: rest, k, v => if key = k then (k, v) :: rest else (key, value) :: set rest k v

def erase : Map K V → K → Map K V
  | [], _ => []
  | (key, value) :: rest, k => if key = k then erase rest k else (key, value) :: erase rest k

def keys (m : Map K V) : List K := m.map Prod.fst

def index (m : Map K V) (k : K) (default : V) : V × Map K V :=
  match m.get? k with
  | some v => (v, m)
  | none => (default, m.set k default)

@[simp] theorem get?_nil (k : K) : get? ([] : Map K V) k = none := rfl

theorem get?_cons (key k : K) (value : V) (rest : Map K V) :
    get? ((key, value) :: rest) k = if key = k then some value else get? rest k := rfl

@[simp] theorem get?_set_self (m : Map K V) (k : K) (v : V) : (m.set k v).get? k = some v := by
  induction m with
  | nil => simp [set, get?]
  | cons entry rest ih =>
      obtain ⟨key, value⟩ := entry
      by_cases same : key = k <;> simp [set, get?, same, ih]

theorem get?_set_of_ne (m : Map K V) {k k' : K} (v : V) (different : k ≠ k') :
    (m.set k v).get? k' = m.get? k' := by
  induction m with
  | nil => simp [set, get?, different]
  | cons entry rest ih =>
      obtain ⟨key, value⟩ := entry
      by_cases same : key = k
      · subst same
        simp [set, get?, different]
      · simp only [set, same, ite_false, get?_cons]
        by_cases hit : key = k' <;> simp [hit, ih]

theorem get?_set (m : Map K V) (k k' : K) (v : V) :
    (m.set k v).get? k' = if k = k' then some v else m.get? k' := by
  by_cases same : k = k'
  · subst same
    simp
  · simp [get?_set_of_ne m v same, same]

@[simp] theorem get?_erase (m : Map K V) (k k' : K) :
    (m.erase k).get? k' = if k = k' then none else m.get? k' := by
  induction m with
  | nil => by_cases same : k = k' <;> simp [erase, same]
  | cons entry rest ih =>
      obtain ⟨key, value⟩ := entry
      by_cases drop : key = k
      · subst drop
        simp only [erase, ite_true, ih, get?_cons]
        by_cases same : key = k' <;> simp [same]
      · simp only [erase, drop, ite_false, get?_cons, ih]
        by_cases hit : key = k'
        · subst hit
          simp [Ne.symm drop]
        · simp [hit]

theorem mem_of_get? {m : Map K V} {k : K} {v : V} (found : m.get? k = some v) : (k, v) ∈ m := by
  induction m with
  | nil => simp at found
  | cons entry rest ih =>
      obtain ⟨key, value⟩ := entry
      by_cases same : key = k
      · subst same
        simp_all [get?]
      · simp only [get?_cons, same, ite_false] at found
        exact List.mem_cons_of_mem _ (ih found)

theorem get?_isSome_of_mem {m : Map K V} {k : K} {v : V} (member : (k, v) ∈ m) :
    (m.get? k).isSome := by
  induction m with
  | nil => simp at member
  | cons entry rest ih =>
      obtain ⟨key, value⟩ := entry
      by_cases same : key = k
      · simp [get?, same]
      · simp only [List.mem_cons, Prod.mk.injEq] at member
        simp only [get?_cons, same, ite_false]
        exact ih (member.resolve_left fun h => same h.1.symm)

theorem mem_set {m : Map K V} {k : K} {v : V} {entry : K × V} (member : entry ∈ m.set k v) :
    entry = (k, v) ∨ entry ∈ m := by
  induction m with
  | nil => simpa [set] using member
  | cons head rest ih =>
      obtain ⟨key, value⟩ := head
      by_cases same : key = k
      · simp only [set, same, ite_true, List.mem_cons] at member
        rcases member with rfl | tail
        · exact .inl rfl
        · exact .inr (List.mem_cons_of_mem _ tail)
      · simp only [set, same, ite_false, List.mem_cons] at member
        rcases member with rfl | tail
        · exact .inr (List.mem_cons_self _ _)
        · rcases ih tail with hit | old
          · exact .inl hit
          · exact .inr (List.mem_cons_of_mem _ old)

theorem get?_foldl_set (ls : List K) (m : Map K V) (x : V) (k : K) :
    (ls.foldl (fun acc l => acc.set l x) m).get? k = if k ∈ ls then some x else m.get? k := by
  induction ls generalizing m with
  | nil => simp
  | cons l rest ih =>
      rw [List.foldl_cons, ih, get?_set]
      by_cases inRest : k ∈ rest
      · simp [inRest]
      · by_cases same : l = k
        · simp [inRest, same]
        · simp [inRest, same, Ne.symm same]

theorem mem_erase {m : Map K V} {k : K} {entry : K × V} (member : entry ∈ m.erase k) : entry ∈ m := by
  induction m with
  | nil => simp [erase] at member
  | cons head rest ih =>
      obtain ⟨key, value⟩ := head
      by_cases drop : key = k
      · simp only [erase, drop, ite_true] at member
        exact List.mem_cons_of_mem _ (ih member)
      · simp only [erase, drop, ite_false, List.mem_cons] at member
        rcases member with rfl | tail
        · exact List.mem_cons_self _ _
        · exact List.mem_cons_of_mem _ (ih tail)

theorem mem_keys_iff (m : Map K V) (k : K) : k ∈ m.keys ↔ (m.get? k).isSome := by
  constructor
  · intro member
    obtain ⟨entry, inMap, rfl⟩ := List.mem_map.mp member
    exact get?_isSome_of_mem inMap
  · intro present
    obtain ⟨v, found⟩ := Option.isSome_iff_exists.mp present
    exact List.mem_map.mpr ⟨(k, v), mem_of_get? found, rfl⟩

@[simp] theorem set_set_self (m : Map K V) (k : K) (v w : V) : (m.set k v).set k w = m.set k w := by
  induction m with
  | nil => simp [set]
  | cons entry rest ih =>
      obtain ⟨key, value⟩ := entry
      by_cases same : key = k <;> simp [set, same, ih]

theorem index_fst (m : Map K V) (k : K) (default : V) :
    (m.index k default).1 = (m.get? k).getD default := by
  unfold index
  split <;> simp_all

theorem index_snd (m : Map K V) (k : K) (default : V) :
    (m.index k default).2 = if (m.get? k).isSome then m else m.set k default := by
  unfold index
  split <;> simp_all

@[simp] theorem index_set (m : Map K V) (k : K) (default v : V) : (m.index k default).2.set k v = m.set k v := by
  rw [index_snd]
  split
  · rfl
  · exact set_set_self m k default v

@[simp] theorem get?_index (m : Map K V) (k k' : K) (default : V) :
    (m.index k default).2.get? k' = if k = k' then some ((m.get? k).getD default) else m.get? k' := by
  rw [index_snd]
  by_cases present : (m.get? k).isSome
  · by_cases same : k = k'
    · subst same
      obtain ⟨v, hv⟩ := Option.isSome_iff_exists.mp present
      simp [hv]
    · simp [present, same]
  · simp [present, get?_set]
    by_cases same : k = k'
    · subst same
      simp_all
    · simp [same]

end Map

section Greatest

variable {K : Type} [LinearOrder K]

def greatest : List K → Option K
  | [] => none
  | k :: ks => some (match greatest ks with
      | none => k
      | some g => max k g)

theorem greatest_mem {ks : List K} {g : K} (found : greatest ks = some g) : g ∈ ks := by
  induction ks generalizing g with
  | nil => simp [greatest] at found
  | cons k ks ih =>
      simp only [greatest, Option.some.injEq] at found
      cases rest : greatest ks with
      | none => simp [rest] at found; simp [found]
      | some h =>
          simp only [rest] at found
          rcases max_choice k h with pick | pick <;> rw [pick] at found <;> subst found
          · exact List.mem_cons_self _ _
          · exact List.mem_cons_of_mem _ (ih rest)

theorem le_greatest {ks : List K} {g k : K} (member : k ∈ ks) (found : greatest ks = some g) :
    k ≤ g := by
  induction ks generalizing g with
  | nil => simp at member
  | cons head ks ih =>
      simp only [greatest, Option.some.injEq] at found
      cases rest : greatest ks with
      | none =>
          simp only [rest] at found
          cases ks with
          | nil => simp_all
          | cons _ _ => simp [greatest] at rest
      | some h =>
          simp only [rest] at found
          subst found
          rcases List.mem_cons.mp member with rfl | tail
          · exact le_max_left _ _
          · exact (ih tail rest).trans (le_max_right _ _)

theorem greatest_eq_none {ks : List K} : greatest ks = none ↔ ks = [] := by
  cases ks <;> simp [greatest]

end Greatest

end Sw
