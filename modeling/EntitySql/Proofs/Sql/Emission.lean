import EntitySql.Proofs.Condition.Dropped
import EntitySql.Sql.Context

/-!
# What writers emit

A fragment says what a part of a statement adds to a draft: its text, with the placeholders numbered
from the parameters already there, and its parameters (`Draft.extend`). A writer emits a fragment
when it adds that to every draft in a scope and changes nothing else; it fails with the same error
where there is no fragment (`Emits`).

What is written in a row emits the joined fragments (`Emits.append`), members with separators emit
the separated fragment (`emits_separated`), and a text written on the side adds its parameters at
once and its own text where it is put (`Emits.beside`). A nested query emits the same in the context
of its own as in the one around it (`Emits.inside`).
-/

namespace EntitySql

set_option autoImplicit false

open Outcome Writer

variable {d : Dialect} {s : Scope}

/-- The draft with a fragment behind it. -/
def Draft.extend (d : Dialect) (draft : Draft) (f : Fragment) : Draft where
  context := { draft.context with parameters := draft.context.parameters ++ f.parameters }
  text := draft.text ++ f.sqlFrom d draft.context.parameters.length

namespace Draft

variable (draft : Draft) (f g : Fragment)

@[simp] theorem scope_extend : (draft.extend d f).context.scope = draft.context.scope := rfl

@[simp] theorem extend_nil : draft.extend d [] = draft := by
  simp [extend]

theorem extend_text (t : String) :
    draft.extend d (.text t :: f) = { draft with text := draft.text ++ t }.extend d f := by
  simp [extend, String.append_assoc]

/-- Two fragments stand one behind the other. -/
theorem extend_append : draft.extend d (f ++ g) = (draft.extend d f).extend d g := by
  simp [extend, Fragment.sqlFrom_append, String.append_assoc]

/-- The text gets longer when something is written. -/
theorem lt_utf8ByteSize_extend :
    draft.text.utf8ByteSize < (draft.extend d f).text.utf8ByteSize ↔ f.writesNothing = false := by
  rw [← Bool.not_eq_true, ← Fragment.sqlFrom_eq_empty_iff (d := d) draft.context.parameters.length,
    ← String.utf8ByteSize_eq_zero_iff, extend, String.utf8ByteSize_append]
  omega

end Draft

/-- A writer finds out a value and leaves the draft as it is. -/
def Finds {α : Type} (s : Scope) (r : Writer α) (x : Except Error α) : Prop :=
  ∀ draft : Draft, draft.context.scope = s → r.run draft = x.map fun a => (a, draft)

/-- A writer adds a fragment to every draft in a scope, or fails. -/
def Emits (d : Dialect) (s : Scope) (w : Writer Unit) (x : Except Error Fragment) : Prop :=
  ∀ draft : Draft, draft.context.scope = s → w.run draft = x.map fun f => ((), draft.extend d f)

/-! ## Reading -/

theorem finds_scope : Finds s scope (.ok s) := by
  rintro draft rfl
  rfl

theorem finds_lift {α : Type} (x : Except Error α) : Finds s (liftM x) x := by
  intro draft _
  cases x <;> rfl

theorem finds_pure {α : Type} (a : α) : Finds s (pure a) (.ok a) := fun _ _ => rfl

theorem Finds.bind {α β : Type} {r : Writer α} {x : Except Error α} {k : α → Writer β}
    {y : α → Except Error β} (first : Finds s r x) (next : ∀ a, Finds s (k a) (y a)) :
    Finds s (r >>= k) (x >>= y) := by
  intro draft here
  rw [StateT.run_bind, first draft here]
  cases x with
  | error e => rfl
  | ok a => exact next a draft here

/-- What is written may depend on a value that has been found out. -/
theorem Finds.emits {α : Type} {r : Writer α} {x : Except Error α} {k : α → Writer Unit}
    {y : α → Except Error Fragment} (first : Finds s r x) (next : ∀ a, Emits d s (k a) (y a)) :
    Emits d s (r >>= k) (x >>= y) := by
  intro draft here
  rw [StateT.run_bind, first draft here]
  cases x with
  | error e => rfl
  | ok a => exact next a draft here

/-! ## Writing -/

theorem emits_nothing : Emits d s (pure ()) (.ok []) := by
  intro draft _
  rw [StateT.run_pure]
  exact congrArg (fun draft => Except.ok ((), draft)) draft.extend_nil.symm

theorem emits_throw (e : Error) : Emits d s (throw e) (.error e) := fun _ _ => rfl

theorem run_push (t : String) (draft : Draft) :
    (push t).run draft = .ok ((), { draft with text := draft.text ++ t }) := rfl

theorem emits_push (t : String) : Emits d s (push t) (.ok [.text t]) := by
  intro draft _
  rw [run_push, Except.map, Draft.extend_text, Draft.extend_nil]

theorem emits_parameter (p : Pair) : Emits d s (parameter d p) (.ok [.parameter p]) := by
  intro draft _
  simp [parameter, push, Draft.extend, Except.map]
  rfl

/-- What is written in a row are the fragments one behind the other. -/
theorem Emits.append {w v : Writer Unit} {x y : Except Error Fragment} (first : Emits d s w x)
    (second : Emits d s v y) :
    Emits d s (do w; v) (do
      let f ← x
      let g ← y
      return f ++ g) := by
  intro draft here
  rw [StateT.run_bind, first draft here]
  cases x with
  | error e => rfl
  | ok f =>
    refine (second (draft.extend d f) here).trans ?_
    cases y with
    | error e => rfl
    | ok g => exact congrArg (fun draft => Except.ok ((), draft)) (draft.extend_append f g).symm

/-- What a fragment adds: its parameters, and its text after any number of them. -/
def Fragment.effect (d : Dialect) (f : Fragment) : List Pair × (Nat → String) :=
  (f.parameters, f.sqlFrom d)

theorem Draft.extend_congr {f g : Fragment} (same : f.effect d = g.effect d) (draft : Draft) :
    draft.extend d f = draft.extend d g := by
  obtain ⟨parameters, texts⟩ := Prod.mk.inj same
  rw [extend, extend, parameters, congrFun texts draft.context.parameters.length]

/-- What is emitted can be cut into texts in another way. -/
theorem Emits.congr {w : Writer Unit} {x y : Except Error Fragment} (h : Emits d s w x)
    (same : x.map (Fragment.effect d) = y.map (Fragment.effect d)) : Emits d s w y := by
  intro draft here
  rw [h draft here]
  cases x with
  | error e =>
    cases y with
    | error e' =>
      cases same
      rfl
    | ok g => cases same
  | ok f =>
    cases y with
    | error e => cases same
    | ok g =>
      exact congrArg (fun draft => Except.ok ((), draft))
        (draft.extend_congr (Except.ok.inj same))

/-! ## Texts on the side -/

/-- A draft with the text of a fragment on the side has the parameters of the fragment. -/
def Draft.bind (draft : Draft) (f : Fragment) : Draft :=
  { draft with context.parameters := draft.context.parameters ++ f.parameters }

theorem run_aside {w : Writer Unit} {x : Except Error Fragment} (h : Emits d s w x)
    (draft : Draft) (here : draft.context.scope = s) :
    (aside w).run draft = x.map fun f =>
      (f.sqlFrom d draft.context.parameters.length, draft.bind f) := by
  have inner := h { draft with text := "" } here
  simp only [aside, StateT.run_bind, StateT.run_get, StateT.run_set, pure_bind, inner]
  cases x with
  | error e => rfl
  | ok f =>
    simp [Draft.extend, Draft.bind, Except.map, Bind.bind, Except.bind]
    rfl

/-- **A text written on the side** adds its parameters at once, and its own text when it is put into
the draft. -/
theorem Emits.beside {w : Writer Unit} {x : Except Error Fragment} (h : Emits d s w x)
    (text : String → String) {g : Fragment → Fragment}
    (parameters : ∀ f, (g f).parameters = f.parameters)
    (texts : ∀ f n, (g f).sqlFrom d n = text (f.sqlFrom d n)) :
    Emits d s (do push (text (← aside w))) (x.map g) := by
  intro draft here
  rw [StateT.run_bind, run_aside h draft here]
  cases x with
  | error e => rfl
  | ok f =>
    show (push (text (f.sqlFrom d _))).run (draft.bind f) = .ok ((), draft.extend d (g f))
    rw [run_push, ← texts, Draft.bind, ← parameters]
    rfl

theorem Emits.beside_append {w v : Writer Unit} {x y : Except Error Fragment} (h : Emits d s w x)
    (text : String → String) {g : Fragment → Fragment}
    (parameters : ∀ f, (g f).parameters = f.parameters)
    (texts : ∀ f n, (g f).sqlFrom d n = text (f.sqlFrom d n)) (next : Emits d s v y) :
    Emits d s (do push (text (← aside w)); v) (do
      let f ← x.map g
      let h ← y
      return f ++ h) := by
  have written := (h.beside text parameters texts).append next
  rwa [bind_assoc] at written

/-- What binds nothing can be read from a text on the side. -/
theorem Emits.finds {w : Writer Unit} {x : Except Error String}
    (h : Emits d s w (x.map fun t => [.text t])) : Finds s (aside w) x := by
  intro draft here
  rw [run_aside h draft here]
  cases x with
  | error e => rfl
  | ok t => simp [Draft.bind, Except.map]

/-- **An item that may come to nothing.** It is written on the side, and put into the draft behind
its glue if there is something of it; what follows may differ. -/
theorem Emits.item {w skip sequel : Writer Unit} {x y z : Except Error Fragment}
    (h : Emits d s w x) (glue : String) (skipped : Emits d s skip y)
    (followed : Emits d s sequel z) :
    Emits d s (do
      let item ← aside w
      if item = "" then skip
      else do
        push glue
        push item
        sequel) (do
      let f ← x
      if f.writesNothing then y
      else do
        let rest ← z
        return .text glue :: (f ++ rest)) := by
  intro draft here
  rw [StateT.run_bind, run_aside h draft here]
  cases x with
  | error e => rfl
  | ok f =>
    have empty := Fragment.sqlFrom_eq_empty_iff (d := d) (f := f) draft.context.parameters.length
    show StateT.run (if f.sqlFrom d _ = "" then skip else _) (draft.bind f) =
      Except.map _ (if f.writesNothing then y else _)
    by_cases nothing : f.writesNothing = true
    · have kept : draft.bind f = draft := by
        rw [Draft.bind, Fragment.parameters_of_writesNothing nothing, List.append_nil]
      rw [if_pos (empty.2 nothing), if_pos nothing, kept]
      exact skipped draft here
    · have put : { draft.bind f with
          text := draft.text ++ glue ++ f.sqlFrom d draft.context.parameters.length } =
            draft.extend d (.text glue :: f) := by
        rw [Draft.extend_text]
        rfl
      rw [if_neg fun silent => nothing (empty.1 silent), if_neg nothing]
      change sequel.run { draft.bind f with
        text := draft.text ++ glue ++ f.sqlFrom d draft.context.parameters.length } = _
      rw [put, followed (draft.extend d (.text glue :: f)) here]
      cases z with
      | error e => rfl
      | ok rest =>
        exact congrArg (fun draft => Except.ok ((), draft))
          (draft.extend_append (.text glue :: f) rest).symm

/-! ## Other scopes -/

/-- **A nested query** adds to the draft what it emits in a context of its own. -/
theorem Emits.inside {q : Query} {w : Writer Unit} {y : Scope → Except Error Fragment}
    (h : ∀ inner, Emits d inner w (y inner)) : Emits d s (inside q w) (s.inside q >>= y) := by
  rintro draft rfl
  simp only [Writer.inside, StateT.run_bind, StateT.run_get, pure_bind, Context.nested]
  cases draft.context.scope.inside q with
  | error e => rfl
  | ok inner =>
    have written := h inner { draft with context := ⟨inner, draft.context.parameters⟩ } rfl
    show (w.run { draft with context := ⟨inner, draft.context.parameters⟩ } >>= fun p => _) =
      (y inner).map _
    rw [written]
    cases y inner with
    | error e => rfl
    | ok f => rfl

/-- Without qualifiers a part emits what it does in a scope that has none. -/
theorem Emits.unqualified {w : Writer Unit} {x : Except Error Fragment}
    (h : Emits d { s with qualify := false } w x) : Emits d s (unqualified w) x := by
  rintro draft rfl
  have written := h { draft with context.scope.qualify := false } rfl
  show (w.run { draft with context.scope.qualify := false } >>= fun p => _) = _
  rw [written]
  cases x with
  | error e => rfl
  | ok f => rfl

/-! ## Separators -/

/-- **Members with separators.** The text is longer than before the last member when that member has
written something. -/
theorem emits_separatedFrom {ws : List (Writer Unit)} {xs : List (Except Error Fragment)}
    (each : List.Forall₂ (Emits d s) ws xs) (separator : String) {length : Nat} {wrote : Bool}
    {draft : Draft} (here : draft.context.scope = s)
    (longer : length < draft.text.utf8ByteSize ↔ wrote = true) :
    (separatedFrom separator length ws).run draft =
      (xs.mapM id).map fun fs =>
        ((), draft.extend d (Fragment.separatedAfter separator wrote fs)) := by
  induction each generalizing length wrote draft with
  | nil => exact emits_nothing draft here
  | @cons w x ws xs first _ ih =>
    have glue : (if length < draft.text.utf8ByteSize then separator else "") =
        if wrote then separator else "" := by simp only [longer]
    rw [separatedFrom, StateT.run_bind, StateT.run_get, pure_bind, glue, StateT.run_bind, run_push,
      List.mapM_cons]
    generalize next : { draft with text := draft.text ++ if wrote then separator else "" } = glued
    show (w.run glued >>= fun p => (separatedFrom separator _ ws).run p.2) = _
    rw [first glued (by rw [← next, here])]
    cases x with
    | error e => rfl
    | ok f =>
      have wroteNow := glued.lt_utf8ByteSize_extend (d := d) f
      show (separatedFrom separator glued.text.utf8ByteSize ws).run (glued.extend d f) = _
      have onwards : (separatedFrom separator glued.text.utf8ByteSize ws).run (glued.extend d f) =
          (xs.mapM id).map fun fs =>
            ((), (glued.extend d f).extend d
              (Fragment.separatedAfter separator (!f.writesNothing) fs)) :=
        ih (by rw [Draft.scope_extend, ← next, here]) (by rw [wroteNow, Bool.not_eq_true'])
      rw [onwards]
      cases xs.mapM id with
      | error e => rfl
      | ok fs =>
        have glued_extend : glued.extend d f =
            draft.extend d (if wrote then f.cons (.text separator) else f) := by
          rw [← next]
          cases wrote with
          | true => exact (draft.extend_text f separator).symm
          | false =>
            show { draft with text := draft.text ++ "" }.extend d f = _
            rw [String.append_empty]
            rfl
        show Except.ok ((), (glued.extend d f).extend d _) =
          Except.ok ((), draft.extend d (Fragment.separatedAfter separator wrote (f :: fs)))
        rw [Fragment.separatedAfter, Draft.extend_append, glued_extend]

/-- **Members with separators** emit the separated fragment. -/
theorem emits_separated {ws : List (Writer Unit)} {xs : List (Except Error Fragment)}
    (each : List.Forall₂ (Emits d s) ws xs) (separator : String) :
    Emits d s (separated separator ws) ((xs.mapM id).map (Fragment.separated separator)) := by
  intro draft here
  have unseparated : draft.text.utf8ByteSize < draft.text.utf8ByteSize ↔ false = true := by simp
  rw [separated, StateT.run_bind, StateT.run_get, pure_bind,
    emits_separatedFrom each separator here unseparated]
  cases xs.mapM id <;> rfl

/-- Members that are written in one way from a list. -/
theorem emits_separated_map {α : Type} {write : α → Writer Unit}
    {render : α → Except Error Fragment} (each : ∀ a, Emits d s (write a) (render a))
    (separator : String) (as : List α) :
    Emits d s (separated separator (as.map write))
      ((as.mapM render).map (Fragment.separated separator)) := by
  have members : List.Forall₂ (Emits d s) (as.map write) (as.map render) := by
    rw [List.forall₂_map_left_iff, List.forall₂_map_right_iff]
    exact List.forall₂_same.2 fun a _ => each a
  have written := emits_separated members separator
  rwa [List.mapM_map] at written

/-- Members that are texts. -/
theorem emits_separatedTexts {α : Type} {write : α → Writer Unit}
    {render : α → Except Error String}
    (each : ∀ a, Emits d s (write a) ((render a).map fun t => [.text t])) (separator : String)
    (as : List α) :
    Emits d s (separated separator (as.map write))
      ((as.mapM render).map (separatedTexts separator)) := by
  have written := emits_separated_map each separator as
  rw [mapM_map_eq] at written
  cases texts : as.mapM render with
  | error e =>
    rw [texts] at written
    exact written
  | ok ts =>
    rw [texts] at written
    exact written

/-- Members that cannot fail. -/
theorem emits_separated_pure {α : Type} {write : α → Writer Unit} {fragment : α → Fragment}
    (each : ∀ a, Emits d s (write a) (.ok (fragment a))) (separator : String) (as : List α) :
    Emits d s (separated separator (as.map write))
      (.ok (Fragment.separated separator (as.map fragment))) := by
  have written := emits_separated_map each separator as
  rwa [show as.mapM (fun a => Except.ok (fragment a)) = .ok (as.map fragment) from
    List.mapM_pure] at written

end EntitySql
