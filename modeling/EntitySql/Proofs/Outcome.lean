import EntitySql.Error
import Mathlib.Data.List.Forall2

/-!
# Outcomes opened

Compiling a statement is a sequence of steps each of which may fail. A sequence that succeeds is
taken apart here into the results of its steps.

Two outcomes are alike when both are failures or both are results in a given relation. Sequences
are alike when their steps are, one after the other.
-/

namespace EntitySql

set_option autoImplicit false

namespace Outcome

variable {ε α β : Type}

/-- Two steps succeed when the first one does and the second one does on its result. -/
theorem bind_eq_ok {x : Except ε α} {f : α → Except ε β} {b : β} :
    (x >>= f) = .ok b ↔ ∃ a, x = .ok a ∧ f a = .ok b := by
  cases x with
  | error e => simp [bind, Except.bind]
  | ok a => simp [bind, Except.bind]

/-- Two steps fail when the first one does, or the second one on its result. -/
theorem bind_eq_error {x : Except ε α} {f : α → Except ε β} {e : ε} :
    (x >>= f) = .error e ↔ x = .error e ∨ ∃ a, x = .ok a ∧ f a = .error e := by
  cases x with
  | error e' => simp [bind, Except.bind]
  | ok a => simp [bind, Except.bind]

/-- A result that is changed afterwards was there before. -/
theorem map_eq_ok {x : Except ε α} {f : α → β} {b : β} :
    x.map f = .ok b ↔ ∃ a, x = .ok a ∧ f a = b := by
  cases x with
  | error e => simp [Except.map]
  | ok a => simp [Except.map]

theorem map_map {γ : Type} (x : Except ε α) (f : α → β) (g : β → γ) :
    (x.map f).map g = x.map fun a => g (f a) := by
  cases x <;> rfl

theorem map_eq_error {x : Except ε α} {f : α → β} {e : ε} :
    x.map f = .error e ↔ x = .error e := by
  cases x <;> simp [Except.map]

/-- A last step that does not fail changes the result. -/
theorem bind_pure_eq_map (x : Except ε α) (f : α → β) : (x >>= fun a => pure (f a)) = x.map f := by
  cases x <;> rfl

theorem pure_eq_ok {a b : α} : (pure a : Except ε α) = .ok b ↔ a = b := by
  simp [pure, Except.pure]

/-- Steps over a list succeed when each of them does, with the results in the same order. -/
theorem mapM_eq_ok {f : α → Except ε β} {as : List α} {bs : List β} :
    as.mapM f = .ok bs ↔ List.Forall₂ (fun a b => f a = .ok b) as bs := by
  induction as generalizing bs with
  | nil =>
    rw [List.mapM_nil, pure_eq_ok]
    constructor
    · rintro rfl
      exact .nil
    · intro h
      cases h
      rfl
  | cons a as ih =>
    rw [List.mapM_cons]
    simp only [bind_eq_ok, pure_eq_ok]
    constructor
    · rintro ⟨b, first, rest, others, rfl⟩
      exact .cons first (ih.1 others)
    · intro h
      cases h with
      | cons first others => exact ⟨_, first, _, ih.2 others, rfl⟩

/-- Results that are each changed afterwards are changed as a list. -/
theorem mapM_map_eq {γ : Type} (f : α → Except ε β) (g : β → γ) (as : List α) :
    as.mapM (fun a => (f a).map g) = (as.mapM f).map (List.map g) := by
  induction as with
  | nil => rfl
  | cons a as ih =>
    rw [List.mapM_cons, List.mapM_cons, ih]
    cases f a with
    | error e => rfl
    | ok b => cases as.mapM f <;> rfl

/-- Steps over a joined list are the steps over its parts. -/
theorem mapM_append_eq_ok {f : α → Except ε β} {as bs : List α} {cs : List β} :
    (as ++ bs).mapM f = .ok cs ↔
      ∃ xs ys, as.mapM f = .ok xs ∧ bs.mapM f = .ok ys ∧ xs ++ ys = cs := by
  rw [List.mapM_append]
  simp only [bind_eq_ok, pure_eq_ok]
  constructor
  · rintro ⟨xs, first, ys, others, rfl⟩
    exact ⟨xs, ys, first, others, rfl⟩
  · rintro ⟨xs, ys, first, others, rfl⟩
    exact ⟨xs, first, ys, others, rfl⟩

/-- Steps over a list fail as the first of them that does. -/
theorem mapM_eq_error_of_first {f : α → Except ε β} {before after : List α} {a : α} {e : ε}
    (fine : ∀ b ∈ before, ∃ c, f b = .ok c) (failed : f a = .error e) :
    (before ++ a :: after).mapM f = .error e := by
  induction before with
  | nil =>
    rw [List.nil_append, List.mapM_cons]
    exact bind_eq_error.2 (.inl failed)
  | cons b before ih =>
    obtain ⟨c, done⟩ := fine b List.mem_cons_self
    have rest := ih fun d member => fine d (List.mem_cons_of_mem b member)
    rw [List.cons_append, List.mapM_cons]
    exact bind_eq_error.2 (.inr ⟨c, done, bind_eq_error.2 (.inl rest)⟩)

/-- Steps over a list fail if any of them does. -/
theorem exists_mapM_eq_error {f : α → Except ε β} {as : List α} {a : α} {e : ε} (member : a ∈ as)
    (failed : f a = .error e) : ∃ e', as.mapM f = .error e' := by
  induction as with
  | nil => cases member
  | cons b as ih =>
    rw [List.mapM_cons]
    cases first : f b with
    | error e' => exact ⟨e', rfl⟩
    | ok c =>
      have later : a ∈ as := (List.mem_cons.1 member).resolve_left fun same => by
        subst same
        cases failed.symm.trans first
      obtain ⟨e', others⟩ := ih later
      exact ⟨e', bind_eq_error.2 (.inr ⟨c, rfl, bind_eq_error.2 (.inl others)⟩)⟩

/-- What everything related to a member has, all members of a related list have. -/
theorem forall_right {r : α → β → Prop} {p : β → Prop} {as : List α} {bs : List β}
    (pairs : List.Forall₂ r as bs) (each : ∀ a ∈ as, ∀ b, r a b → p b) : ∀ b ∈ bs, p b := by
  induction pairs with
  | nil => exact fun b member => nomatch member
  | cons first _ ih =>
    intro b member
    rcases List.mem_cons.1 member with rfl | member
    · exact each _ List.mem_cons_self _ first
    · exact ih (fun a used => each a (List.mem_cons_of_mem _ used)) b member

/-- What every step gives its result, all results have. -/
theorem forall_of_mapM {f : α → Except ε β} {p : β → Prop} {as : List α} {bs : List β}
    (h : as.mapM f = .ok bs) (each : ∀ a ∈ as, ∀ b, f a = .ok b → p b) : ∀ b ∈ bs, p b :=
  forall_right (mapM_eq_ok.1 h) each

/-- Other steps succeed on a list when each of them does where the first ones did. -/
theorem exists_mapM {γ : Type} {f : α → Except ε β} {g : α → Except ε γ} {as : List α}
    {bs : List β} (h : as.mapM f = .ok bs) (each : ∀ a b, f a = .ok b → ∃ c, g a = .ok c) :
    ∃ cs, as.mapM g = .ok cs := by
  have pairs := mapM_eq_ok.1 h
  clear h
  induction pairs with
  | nil => exact ⟨[], rfl⟩
  | cons first _ ih =>
    obtain ⟨c, one⟩ := each _ _ first
    obtain ⟨cs, others⟩ := ih
    exact ⟨c :: cs, mapM_eq_ok.2 (.cons one (mapM_eq_ok.1 others))⟩

/-! ## Outcomes seen through a view -/

section View

variable {γ δ : Type} {f g : α → Except ε β} {h : β → δ}

/-- Two sequences with the same first step look alike when what follows does. -/
theorem map_bind_congr_right {x : Except ε α} (next : ∀ a, (f a).map h = (g a).map h) :
    (x >>= f).map h = (x >>= g).map h := by
  cases x with
  | error e => rfl
  | ok a => exact next a

/-- Two sequences look alike when their first steps do and what follows on results that look
alike. -/
theorem map_bind_congr {x y : Except ε α} {k : α → γ} (first : x.map k = y.map k)
    (next : ∀ a b, k a = k b → (f a).map h = (g b).map h) :
    (x >>= f).map h = (y >>= g).map h := by
  cases x with
  | error e =>
    cases y with
    | error e' =>
      cases first
      rfl
    | ok b => cases first
  | ok a =>
    cases y with
    | error e' => cases first
    | ok b => exact next a b (Except.ok.inj first)

/-- Outcomes that look alike do so after a change that keeps the view. -/
theorem map_map_congr {x y : Except ε α} {k : α → γ} {f g : α → β} (first : x.map k = y.map k)
    (next : ∀ a b, k a = k b → h (f a) = h (g b)) : (x.map f).map h = (y.map g).map h := by
  rw [← bind_pure_eq_map, ← bind_pure_eq_map]
  exact map_bind_congr first fun a b same => congrArg Except.ok (next a b same)

end View

/-! ## Lists in relation -/

/-- Where every member is related to something, so is the list. -/
theorem exists_forall₂ {r : α → β → Prop} {as : List α} (h : ∀ a ∈ as, ∃ b, r a b) :
    ∃ bs, List.Forall₂ r as bs := by
  induction as with
  | nil => exact ⟨[], .nil⟩
  | cons a as ih =>
    obtain ⟨b, first⟩ := h a List.mem_cons_self
    obtain ⟨bs, others⟩ := ih fun a member => h a (List.mem_cons_of_mem _ member)
    exact ⟨b :: bs, .cons first others⟩

/-! ## Outcomes compared -/

/-- Both fail, for whatever reasons, or both succeed with results in the relation. -/
inductive Alike (r : α → β → Prop) : Except ε α → Except ε β → Prop
  | error (e e' : ε) : Alike r (.error e) (.error e')
  | ok {a : α} {b : β} (related : r a b) : Alike r (.ok a) (.ok b)

namespace Alike

variable {γ δ : Type} {r : α → β → Prop} {q : γ → δ → Prop} {x : Except ε α} {y : Except ε β}

theorem refl {p : α → α → Prop} (each : ∀ a, p a a) : ∀ x : Except ε α, Alike p x x
  | .error e => .error e e
  | .ok a => .ok (each a)

theorem bind {f : α → Except ε γ} {g : β → Except ε δ} (first : Alike r x y)
    (next : ∀ a b, r a b → Alike q (f a) (g b)) : Alike q (x >>= f) (y >>= g) := by
  cases first with
  | error e e' => exact .error e e'
  | ok related => exact next _ _ related

theorem map {f : α → γ} {g : β → δ} (first : Alike r x y) (next : ∀ a b, r a b → q (f a) (g b)) :
    Alike q (x.map f) (y.map g) := by
  cases first with
  | error e e' => exact .error e e'
  | ok related => exact .ok (next _ _ related)

/-- Alike outcomes succeed together, with related results. -/
theorem exists_right (h : Alike r x y) {a : α} (result : x = .ok a) :
    ∃ b, y = .ok b ∧ r a b := by
  cases h with
  | error e e' => cases result
  | ok related =>
    cases result
    exact ⟨_, rfl, related⟩

theorem exists_left (h : Alike r x y) {b : β} (result : y = .ok b) :
    ∃ a, x = .ok a ∧ r a b := by
  cases h with
  | error e e' => cases result
  | ok related =>
    cases result
    exact ⟨_, rfl, related⟩

end Alike

end Outcome

end EntitySql
