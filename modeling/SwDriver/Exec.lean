import Mathlib.Logic.Basic

set_option autoImplicit false

namespace Sw

-- A call on a C++ object: a value or an exception, and the object's state.
inductive Outcome (σ α : Type) where
  | ok (value : α) (state : σ)
  | error (message : String) (state : σ)

namespace Outcome

variable {σ α : Type}

def state : Outcome σ α → σ
  | ok _ s => s
  | error _ s => s

def result : Outcome σ α → Except String α
  | ok a _ => .ok a
  | error e _ => .error e

def thrown : Outcome σ α → Option String
  | ok _ _ => none
  | error e _ => some e

def mapState (f : σ → σ) : Outcome σ α → Outcome σ α
  | ok a s => ok a (f s)
  | error e s => error e (f s)

@[simp] theorem mapState_ok (f : σ → σ) (a : α) (s : σ) : (ok a s).mapState f = ok a (f s) := rfl
@[simp] theorem mapState_error (f : σ → σ) (e : String) (s : σ) :
    (error e s : Outcome σ α).mapState f = error e (f s) := rfl
@[simp] theorem mapState_mapState (f g : σ → σ) (o : Outcome σ α) :
    (o.mapState g).mapState f = o.mapState (f ∘ g) := by
  cases o <;> rfl
@[simp] theorem state_ok (a : α) (s : σ) : (ok a s).state = s := rfl
@[simp] theorem state_error (e : String) (s : σ) : (error e s : Outcome σ α).state = s := rfl
@[simp] theorem state_mapState (f : σ → σ) (o : Outcome σ α) : (o.mapState f).state = f o.state := by
  cases o <;> rfl
@[simp] theorem result_mapState (f : σ → σ) (o : Outcome σ α) : (o.mapState f).result = o.result := by
  cases o <;> rfl

end Outcome

structure Exec (σ α : Type) where
  run : σ → Outcome σ α

namespace Exec

variable {σ α β : Type}

instance : Monad (Exec σ) where
  pure a := ⟨fun s => .ok a s⟩
  bind m f := ⟨fun s => match m.run s with
    | .ok a s' => (f a).run s'
    | .error e s' => .error e s'⟩

def read (f : σ → β) : Exec σ β := ⟨fun s => .ok (f s) s⟩

def modify (f : σ → σ) : Exec σ Unit := ⟨fun s => .ok () (f s)⟩

def throw (message : String) : Exec σ α := ⟨fun s => .error message s⟩

def ofExcept : Except String α → Exec σ α
  | .ok a => pure a
  | .error e => throw e

@[ext] theorem ext {m n : Exec σ α} (same : ∀ s, m.run s = n.run s) : m = n := by
  cases m; cases n
  congr
  funext s
  exact same s

@[simp] theorem run_pure (a : α) (s : σ) : (pure a : Exec σ α).run s = .ok a s := rfl

@[simp] theorem run_bind (m : Exec σ α) (f : α → Exec σ β) (s : σ) :
    (m >>= f).run s = match m.run s with
      | .ok a s' => (f a).run s'
      | .error e s' => .error e s' := rfl

instance : LawfulMonad (Exec σ) := LawfulMonad.mk' (Exec σ)
  (fun m => Exec.ext fun s => by
    show (m >>= (pure ∘ id)).run s = m.run s
    simp only [run_bind]
    cases m.run s <;> rfl)
  (fun _ _ => rfl)
  (fun m _ _ => Exec.ext fun s => by
    simp only [run_bind]
    cases m.run s <;> rfl)

@[simp] theorem run_map (f : α → β) (m : Exec σ α) (s : σ) :
    (f <$> m).run s = match m.run s with
      | .ok a s' => .ok (f a) s'
      | .error e s' => .error e s' := rfl

@[simp] theorem run_read (f : σ → β) (s : σ) : (read f).run s = .ok (f s) s := rfl

@[simp] theorem run_modify (f : σ → σ) (s : σ) : (modify f).run s = .ok () (f s) := rfl

@[simp] theorem run_throw (e : String) (s : σ) : (throw e : Exec σ α).run s = .error e s := rfl

@[simp] theorem run_ofExcept (x : Except String α) (s : σ) :
    (ofExcept x : Exec σ α).run s = match x with
      | .ok a => .ok a s
      | .error e => .error e s := by
  cases x <;> rfl

theorem forM_map {γ δ : Type} (xs : List γ) (g : γ → δ) (f : δ → Exec σ PUnit) :
    (xs.map g).forM f = xs.forM fun x => f (g x) := by
  induction xs with
  | nil => rfl
  | cons x rest ih => simp only [List.map_cons, List.forM_cons', ih]

theorem forM_flatMap {γ δ : Type} (xs : List γ) (g : γ → List δ) (f : δ → Exec σ PUnit) :
    (xs.flatMap g).forM f = xs.forM fun x => (g x).forM f := by
  induction xs with
  | nil => rfl
  | cons x rest ih => simp only [List.flatMap_cons, List.forM_append, List.forM_cons', ih]

def Preserves (P : σ → Prop) (m : Exec σ α) : Prop := ∀ s, P s → P (m.run s).state

section Preserves

variable {P : σ → Prop}

theorem preserves_pure (a : α) : Preserves P (pure a : Exec σ α) := fun _ h => h

theorem preserves_read (f : σ → β) : Preserves P (read f) := fun _ h => h

theorem preserves_throw (e : String) : Preserves P (throw e : Exec σ α) := fun _ h => h

theorem preserves_ofExcept (x : Except String α) : Preserves P (ofExcept x : Exec σ α) := by
  cases x <;> exact fun _ h => h

theorem preserves_modify {f : σ → σ} (keeps : ∀ s, P s → P (f s)) : Preserves P (modify f) := keeps

theorem preserves_bind {m : Exec σ α} {f : α → Exec σ β} (first : Preserves P m)
    (rest : ∀ a, Preserves P (f a)) : Preserves P (m >>= f) := by
  intro s h
  have := first s h
  simp only [run_bind]
  cases hm : m.run s with
  | ok a s' => exact rest a s' (by simpa [hm] using this)
  | error e s' => simpa [hm] using this

theorem preserves_forM {γ : Type} (xs : List γ) {f : γ → Exec σ PUnit} (each : ∀ x ∈ xs, Preserves P (f x)) :
    Preserves P (xs.forM f) := by
  induction xs with
  | nil => exact preserves_pure _
  | cons x rest ih =>
      exact preserves_bind (each x (List.mem_cons_self _ _))
        fun _ => ih fun y member => each y (List.mem_cons_of_mem _ member)

theorem run_forM_congr {γ : Type} (xs : List γ) {f g : γ → Exec σ PUnit}
    (same : ∀ x ∈ xs, ∀ s, P s → (f x).run s = (g x).run s) (keeps : ∀ x ∈ xs, Preserves P (f x)) :
    ∀ s, P s → (xs.forM f).run s = (xs.forM g).run s := by
  induction xs with
  | nil => exact fun _ _ => rfl
  | cons x rest ih =>
      intro s h
      have step := same x (List.mem_cons_self _ _) s h
      have kept := keeps x (List.mem_cons_self _ _) s h
      simp only [List.forM_cons', run_bind, ← step]
      cases hx : (f x).run s with
      | ok a s' =>
          exact ih (fun y member => same y (List.mem_cons_of_mem _ member))
            (fun y member => keeps y (List.mem_cons_of_mem _ member)) s' (by simpa [hx] using kept)
      | error e s' => rfl

end Preserves

end Exec

end Sw
