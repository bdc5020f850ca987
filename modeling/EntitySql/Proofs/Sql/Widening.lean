import EntitySql.Proofs.Condition.Pruning

/-!
# Texts that are wider

One text is wider than another one when it says the same with more words in between, such as names
with and without their qualifiers. Fragments are compared that way part by part: the whole is wider
exactly when one of its parts is. So a question about two long texts, whether they are the same,
becomes a question about each place where they may differ.

A widened fragment has the same parameters, it writes something exactly when the other one does,
and its text is longer unless it is the same (`Fragment.Widens`).
-/

namespace EntitySql

set_option autoImplicit false

open Outcome

variable {d : Dialect} {w x : Bool}

/-- One fragment is wider than the other one, or the same, as the Boolean says. -/
def Fragment.Widens (d : Dialect) (w : Bool) (f g : Fragment) : Prop :=
  ∃ k, f.Exceeds d k g ∧ (k = 0 ↔ w = false)

namespace Fragment.Widens

variable {f g h i f' g' : Fragment}

theorem refl (f : Fragment) : Widens d false f f :=
  ⟨0, .refl f, ⟨fun _ => rfl, fun _ => rfl⟩⟩

theorem of_eq (wider : Widens d w f g) (same : w = x) : Widens d x f g := same ▸ wider

/-- **A fragment is wider when one of its parts is.** -/
theorem append (first : Widens d w f g) (second : Widens d x h i) :
    Widens d (w || x) (f ++ h) (g ++ i) := by
  obtain ⟨k, one, none⟩ := first
  obtain ⟨l, other, none'⟩ := second
  refine ⟨k + l, one.append other, ?_⟩
  rw [Nat.add_eq_zero_iff, none, none', Bool.or_eq_false_iff]

theorem before (p : Fragment) (wider : Widens d w f g) : Widens d w (p ++ f) (p ++ g) :=
  (refl p).append wider

theorem behind (p : Fragment) (wider : Widens d w f g) : Widens d w (f ++ p) (g ++ p) :=
  (wider.append (refl p)).of_eq (Bool.or_false w)

theorem writes (wider : Widens d w f g) : f.writesNothing = g.writesNothing := by
  obtain ⟨k, exceeds, _⟩ := wider
  exact exceeds.writes

theorem parameters (wider : Widens d w f g) : f.parameters = g.parameters := by
  obtain ⟨k, exceeds, _⟩ := wider
  exact exceeds.parameters

/-- **The texts are the same exactly when the fragment is not wider.** -/
theorem sqlFrom_eq_iff (wider : Widens d w f g) (n : Nat) :
    f.sqlFrom d n = g.sqlFrom d n ↔ w = false := by
  obtain ⟨k, exceeds, none⟩ := wider
  rw [← none]
  constructor
  · intro same
    have lengths := exceeds.length n
    rw [same] at lengths
    omega
  · intro zero
    rw [exceeds.same zero]

theorem length_le (wider : Widens d w f g) (n : Nat) :
    (g.sqlFrom d n).length ≤ (f.sqlFrom d n).length := by
  obtain ⟨k, exceeds, _⟩ := wider
  rw [exceeds.length]
  exact Nat.le_add_right _ _

/-- What writes nothing is not wider than anything. -/
theorem eq_false_of_writesNothing (wider : Widens d w f g) (nothing : g.writesNothing = true) :
    w = false := by
  have own : f.writesNothing = true := wider.writes.trans nothing
  rw [← wider.sqlFrom_eq_iff 0, (sqlFrom_eq_empty_iff 0).2 own, (sqlFrom_eq_empty_iff 0).2 nothing]

/-- A choice between two ways to go on, made by whether something is written. -/
theorem choice (wider : Widens d w f g) (empty : w = false → Widens d x h i)
    (whole : Widens d x f' g') :
    Widens d x (if f.writesNothing then h else f') (if g.writesNothing then i else g') := by
  rw [wider.writes]
  split
  · rename_i nothing
    exact empty (wider.eq_false_of_writesNothing nothing)
  · exact whole

theorem parenthesized (wider : Widens d w f g) : Widens d w f.parenthesized g.parenthesized :=
  wider.choice (fun none => none ▸ refl []) ((wider.behind [.text ")"]).before [.text "("])

theorem after (keyword : String) (wider : Widens d w f g) :
    Widens d w (f.after keyword) (g.after keyword) :=
  wider.choice (fun none => none ▸ refl []) (wider.before [.text keyword])

/-- A node in front of chained nodes. -/
theorem chainedAfter {c : Connective} {fs gs : List (Connective × Fragment)}
    (member : Widens d w f g)
    (others : ∀ started, Widens d x (chainedAfter started fs) (chainedAfter started gs))
    (started : Bool) :
    Widens d (w || x) (chainedAfter started ((c, f) :: fs))
      (chainedAfter started ((c, g) :: gs)) := by
  refine member.choice (fun none => ?_) (append ?_ (others true))
  · rw [none]
    exact others started
  · cases started with
    | true => exact member.before [.text c.spaced]
    | false => exact member

/-- A member in front of separated members. -/
theorem separatedAfter {separator : String} {fs gs : List Fragment} (member : Widens d w f g)
    (others : ∀ wrote, Widens d x (separatedAfter separator wrote fs)
      (separatedAfter separator wrote gs)) (wrote : Bool) :
    Widens d (w || x) (separatedAfter separator wrote (f :: fs))
      (separatedAfter separator wrote (g :: gs)) := by
  rw [Fragment.separatedAfter, Fragment.separatedAfter, member.writes]
  refine append ?_ (others _)
  cases wrote with
  | true => exact member.before [.text separator]
  | false => exact member

end Fragment.Widens

/-- Members are wider one by one; the Boolean says whether one of them is. -/
inductive Fragment.WidensAll (d : Dialect) : Bool → List Fragment → List Fragment → Prop
  | nil : WidensAll d false [] []
  | cons {w x : Bool} {f g : Fragment} {fs gs : List Fragment} (member : Widens d w f g)
      (others : WidensAll d x fs gs) : WidensAll d (w || x) (f :: fs) (g :: gs)

theorem Fragment.WidensAll.separatedAfter {separator : String} {fs gs : List Fragment}
    (wider : WidensAll d w fs gs) :
    ∀ wrote, Widens d w (separatedAfter separator wrote fs)
      (separatedAfter separator wrote gs) := by
  induction wider with
  | nil => exact fun _ => .refl []
  | cons member _ ih => exact member.separatedAfter ih

/-! ## Texts -/

/-- One text is wider than the other one, or the same, as the Boolean says. -/
abbrev TextWidens (d : Dialect) (w : Bool) (t u : String) : Prop :=
  Fragment.Widens d w [.text t] [.text u]

theorem Fragment.exceeds_text_iff {k : Nat} {t u : String} :
    Exceeds d k [.text t] [.text u] ↔
      (t = "" ↔ u = "") ∧ t.length = u.length + k ∧ (k = 0 → t = u) := by
  have nothing : ∀ s : String, writesNothing [.text s] = true ↔ s = "" := fun s => by
    simp [writesNothing, Piece.isEmpty]
  constructor
  · intro exceeds
    refine ⟨?_, ?_, ?_⟩
    · rw [← nothing, ← nothing, exceeds.writes]
    · have lengths := exceeds.length 0
      rwa [sqlFrom_text, sqlFrom_text, sqlFrom_nil, String.append_empty, String.append_empty]
        at lengths
    · intro zero
      cases exceeds.same zero
      rfl
  · rintro ⟨empty, lengths, same⟩
    refine ⟨rfl, ?_, ?_, ?_⟩
    · rw [Bool.eq_iff_iff, nothing, nothing]
      exact empty
    · intro n
      rw [sqlFrom_text, sqlFrom_text, sqlFrom_nil, String.append_empty, String.append_empty]
      exact lengths
    · intro zero
      rw [same zero]

namespace TextWidens

variable {a b t u : String}

theorem refl (t : String) : TextWidens d false t t := Fragment.Widens.refl _

/-- **A text is wider when one of its parts is.** -/
theorem append (first : TextWidens d w a b) (second : TextWidens d x t u) :
    TextWidens d (w || x) (a ++ t) (b ++ u) := by
  obtain ⟨k, one, none⟩ := first
  obtain ⟨l, other, none'⟩ := second
  rw [Fragment.exceeds_text_iff] at one other
  refine ⟨k + l, Fragment.exceeds_text_iff.2 ⟨?_, ?_, ?_⟩, ?_⟩
  · rw [String.append_eq_empty_iff, String.append_eq_empty_iff, one.1, other.1]
  · rw [String.length_append, String.length_append, one.2.1, other.2.1]
    omega
  · intro zero
    rw [one.2.2 (by omega), other.2.2 (by omega)]
  · rw [Nat.add_eq_zero_iff, none, none', Bool.or_eq_false_iff]

theorem before (word : String) (wider : TextWidens d w t u) :
    TextWidens d w (word ++ t) (word ++ u) :=
  (refl word).append wider

theorem behind (word : String) (wider : TextWidens d w t u) :
    TextWidens d w (t ++ word) (u ++ word) :=
  (wider.append (refl word)).of_eq (Bool.or_false w)

/-- A qualifier makes a text wider. -/
theorem qualified (qualifier : String) (some : u ≠ "") :
    TextWidens d true (qualifier ++ "." ++ u) u := by
  have length : (qualifier ++ "." ++ u).length = u.length + (qualifier.length + 1) := by
    rw [String.length_append, String.length_append, Nat.add_comm]
    rfl
  refine ⟨qualifier.length + 1, Fragment.exceeds_text_iff.2 ⟨?_, length, nofun⟩, nofun, nofun⟩
  rw [String.append_eq_empty_iff]
  exact ⟨fun h => h.2, fun h => absurd h some⟩

theorem intercalate (separator : String) : ∀ {ts us : List String} {w : Bool},
    Fragment.WidensAll d w (ts.map .ofText) (us.map .ofText) →
      TextWidens d w (String.intercalate separator ts) (String.intercalate separator us)
  | [], [], _, wider => by
    cases wider
    exact refl _
  | [t], [u], _, wider => by
    cases wider with
    | cons member others =>
      cases others
      rw [Bool.or_false, String.intercalate_singleton, String.intercalate_singleton]
      exact member
  | t :: t' :: ts, u :: u' :: us, _, wider => by
    cases wider with
    | cons member others =>
      rw [String.intercalate_cons_cons, String.intercalate_cons_cons]
      exact (behind separator member).append (intercalate separator others)
  | [], _ :: _, _, wider | _ :: _, [], _, wider => by cases wider
  | [_], _ :: _ :: _, _, wider | _ :: _ :: _, [_], _, wider => by
    cases wider with
    | cons _ others => cases others

end TextWidens

/-! ## Operators and tests -/

namespace Dialect

variable {a b t u : String} {x : Bool}

/-- An operand that is written twice makes a text wider as once. -/
theorem widens_twice (wider : TextWidens d (w || w) t u) : TextWidens d w t u :=
  wider.of_eq (Bool.or_self w)

theorem widens_between (symbol : String) (first : TextWidens d w a b)
    (second : TextWidens d x t u) :
    TextWidens d (w || x) (between a symbol t) (between b symbol u) :=
  (((((first.before "(").behind " ").behind symbol).behind " ").append second).behind ")"

theorem widens_call (function : String) (first : TextWidens d w a b)
    (second : TextWidens d x t u) :
    TextWidens d (w || x) (call function a t) (call function b u) :=
  (((first.before (function ++ "(")).behind ", ").append second).behind ")"

theorem widens_complement (operand : TextWidens d w a b) :
    TextWidens d w (d.complement a) (d.complement b) := by
  cases d with
  | h2 => exact (operand.before "BITNOT(").behind ")"
  | oracle =>
    exact widens_twice (((operand.before "((").behind " - 1) - 2 * BITAND(").append operand
      |>.behind ", -1))")
  | generic | mysql | postgres | sqlServer => exact (operand.before "(~").behind ")"

theorem widens_derived (middle : String) (first : TextWidens d w a b)
    (second : TextWidens d x t u) :
    TextWidens d (w || x) ("((" ++ a ++ " + " ++ t ++ middle ++ call "BITAND" a t ++ ")")
      ("((" ++ b ++ " + " ++ u ++ middle ++ call "BITAND" b u ++ ")") :=
  widens_twice ((((((first.before "((").behind " + ").append second).behind middle).append
    (widens_call "BITAND" first second)).behind ")")

/-- **An operator makes a text wider when one of its operands does.** -/
theorem widens_binary (op : BitOp) (h : op.isUnary = false) (first : TextWidens d w a b)
    (second : TextWidens d x t u) :
    TextWidens d (w || x) (d.binary op a t) (d.binary op b u) := by
  cases op with
  | not => cases h
  | and =>
    cases d with
    | h2 | oracle => exact widens_call "BITAND" first second
    | _ => exact widens_between "&" first second
  | or =>
    cases d with
    | h2 => exact widens_call "BITOR" first second
    | oracle => exact widens_derived ") - " first second
    | _ => exact widens_between "|" first second
  | xor =>
    cases d with
    | h2 => exact widens_call "BITXOR" first second
    | oracle => exact widens_derived ") - 2 * " first second
    | postgres => exact widens_between "#" first second
    | _ => exact widens_between "^" first second
  | remainder =>
    cases d with
    | h2 | oracle => exact widens_call "MOD" first second
    | _ => exact widens_between "%" first second
  | add => exact widens_between "+" first second
  | subtract => exact widens_between "-" first second
  | multiply => exact widens_between "*" first second
  | divide => exact widens_between "/" first second

/-- The test for an empty text names its left side twice, or once where empty texts are null. -/
theorem widens_emptyTest (wider : TextWidens d w t u) (negated : Bool) :
    TextWidens d w (d.emptyTest t negated) (d.emptyTest u negated) := by
  have twice : ∀ middle ending : String, TextWidens d w ("(" ++ t ++ middle ++ t ++ ending)
      ("(" ++ u ++ middle ++ u ++ ending) := fun middle ending =>
    widens_twice ((((wider.before "(").behind middle).append wider).behind ending)
  cases d with
  | oracle => exact ((wider.behind " IS ").behind (negation negated)).behind "NULL"
  | generic | mysql | postgres | h2 | sqlServer =>
    cases negated with
    | true => exact twice " <> '' AND " " IS NOT NULL)"
    | false => exact twice " = '' OR " " IS NULL)"

end Dialect

end EntitySql
