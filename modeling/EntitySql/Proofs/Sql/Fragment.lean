import EntitySql.Sql.Select

/-!
# Laws of fragments

How the parameters and the text of a fragment follow from those of its parts. A fragment that
writes nothing has no parameters either, so leaving it out loses none. The text of a joined
fragment continues the numbering of its first part; that of separated members is their texts with
the separator between them.
-/

namespace EntitySql

set_option autoImplicit false

namespace Fragment

/-! ## Parameters -/

@[simp] theorem parameters_nil : parameters [] = [] := rfl

@[simp] theorem parameters_text (s : String) (f : Fragment) :
    parameters (.text s :: f) = parameters f := rfl

@[simp] theorem parameters_parameter (p : Pair) (f : Fragment) :
    parameters (.parameter p :: f) = p :: parameters f := rfl

@[simp] theorem parameters_append (f g : Fragment) :
    parameters (f ++ g) = parameters f ++ parameters g := by
  induction f with
  | nil => rfl
  | cons piece f ih =>
    cases piece with
    | text s => simpa using ih
    | parameter p => simpa using ih

/-- What writes nothing has no parameters. -/
theorem parameters_of_writesNothing {f : Fragment} (h : f.writesNothing = true) :
    parameters f = [] := by
  induction f with
  | nil => rfl
  | cons piece f ih =>
    cases piece with
    | text s =>
      simp only [writesNothing, List.all_cons, Bool.and_eq_true] at h
      simpa using ih h.2
    | parameter p => simp [writesNothing, Piece.isEmpty] at h

theorem parameters_separatedAfter (separator : String) (wrote : Bool) (members : List Fragment) :
    parameters (separatedAfter separator wrote members) = members.flatMap parameters := by
  induction members generalizing wrote with
  | nil => rfl
  | cons f rest ih => cases wrote <;> simp [separatedAfter, ih]

@[simp] theorem parameters_separated (separator : String) (members : List Fragment) :
    parameters (separated separator members) = members.flatMap parameters :=
  parameters_separatedAfter separator false members

/-- Members with one parameter each have as many together. -/
theorem parameters_separated_map {α : Type} (separator : String) (member : α → Fragment)
    {pair : α → Pair} (each : ∀ a, parameters (member a) = [pair a]) (as : List α) :
    parameters (separated separator (as.map member)) = as.map pair := by
  rw [parameters_separated, List.flatMap_map]
  simp only [each, ← List.map_eq_flatMap]

@[simp] theorem parameters_separatedTexts (separator : String) (members : List String) :
    parameters (separatedTexts separator members) = [] := by
  simp [separatedTexts, ofText, List.flatMap_map]

theorem parameters_chainedAfter (started : Bool) (nodes : List (Connective × Fragment)) :
    parameters (chainedAfter started nodes) = nodes.flatMap fun node => parameters node.2 := by
  induction nodes generalizing started with
  | nil => rfl
  | cons node rest ih =>
    obtain ⟨c, f⟩ := node
    simp only [chainedAfter, List.flatMap_cons]
    split
    · rename_i nothing
      rw [ih, parameters_of_writesNothing nothing, List.nil_append]
    · cases started <;> simp [ih]

@[simp] theorem parameters_chained (nodes : List (Connective × Fragment)) :
    parameters (chained nodes) = nodes.flatMap fun node => parameters node.2 :=
  parameters_chainedAfter false nodes

@[simp] theorem parameters_parenthesized (f : Fragment) :
    parameters f.parenthesized = parameters f := by
  unfold parenthesized
  split
  · rename_i nothing
    exact (parameters_of_writesNothing nothing).symm
  · simp

@[simp] theorem parameters_after (keyword : String) (f : Fragment) :
    parameters (f.after keyword) = parameters f := by
  unfold after
  split
  · rename_i nothing
    exact (parameters_of_writesNothing nothing).symm
  · simp

@[simp] theorem parameters_whereClause (condition : Fragment) (extra : Option String) :
    parameters (whereClause condition extra) = parameters condition := by
  cases extra with
  | none => exact parameters_after _ _
  | some e =>
    cases nothing : condition.writesNothing with
    | true => simp [whereClause, nothing, parameters_of_writesNothing nothing]
    | false => simp [whereClause, nothing]

/-! ## Text -/

@[simp] theorem sqlFrom_nil (d : Dialect) (n : Nat) : sqlFrom d n [] = "" := rfl

@[simp] theorem sqlFrom_text (d : Dialect) (n : Nat) (s : String) (f : Fragment) :
    sqlFrom d n (.text s :: f) = s ++ sqlFrom d n f := rfl

@[simp] theorem sqlFrom_parameter (d : Dialect) (n : Nat) (p : Pair) (f : Fragment) :
    sqlFrom d n (.parameter p :: f) = d.placeholder (n + 1) ++ sqlFrom d (n + 1) f := rfl

/-- The second part goes on counting where the first one ended. -/
theorem sqlFrom_append (d : Dialect) (n : Nat) (f g : Fragment) :
    sqlFrom d n (f ++ g) = sqlFrom d n f ++ sqlFrom d (n + (parameters f).length) g := by
  induction f generalizing n with
  | nil => simp
  | cons piece f ih =>
    cases piece with
    | text s => simp [ih, String.append_assoc]
    | parameter p =>
      have shift : n + 1 + (parameters f).length = n + ((parameters f).length + 1) := by omega
      simp [ih, String.append_assoc, shift]

/-! ## Texts of members -/

/-- The texts of members that are written one after the other, with `n` parameters before them. -/
def texts (d : Dialect) : Nat → List Fragment → List String
  | _, [] => []
  | n, f :: rest => f.sqlFrom d n :: texts d (n + f.parameters.length) rest

theorem sqlFrom_separatedAfter (d : Dialect) (separator : String) {members : List Fragment}
    (each : ∀ f ∈ members, f.writesNothing = false) (wrote : Bool) (n : Nat) :
    (separatedAfter separator wrote members).sqlFrom d n =
      (if wrote ∧ members ≠ [] then separator else "") ++
        separator.intercalate (texts d n members) := by
  induction members generalizing wrote n with
  | nil => simp [separatedAfter, texts]
  | cons f rest ih =>
    obtain ⟨first, others⟩ := List.forall_mem_cons.1 each
    have after : (separatedAfter separator true rest).sqlFrom d (n + f.parameters.length) =
        (if rest ≠ [] then separator else "") ++
          separator.intercalate (texts d (n + f.parameters.length) rest) := by
      rw [ih others true]
      simp
    have joined : f.sqlFrom d n ++ (separatedAfter separator true rest).sqlFrom d
        (n + f.parameters.length) = separator.intercalate (texts d n (f :: rest)) := by
      rw [after, texts]
      cases rest with
      | nil => simp [texts]
      | cons g rest =>
        rw [texts, String.intercalate_cons_cons, if_pos (List.cons_ne_nil _ _), String.append_assoc]
    rw [separatedAfter, first, Bool.not_false, sqlFrom_append, ← joined]
    cases wrote <;> simp [String.append_assoc]

/-- **Separated members are their texts with separators between them,** if each writes something. -/
theorem sqlFrom_separated (d : Dialect) (separator : String) {members : List Fragment}
    (each : ∀ f ∈ members, f.writesNothing = false) (n : Nat) :
    (separated separator members).sqlFrom d n = separator.intercalate (texts d n members) := by
  rw [separated, sqlFrom_separatedAfter d separator each]
  simp

theorem texts_map_ofText (d : Dialect) (members : List String) (n : Nat) :
    texts d n (members.map ofText) = members := by
  induction members generalizing n with
  | nil => rfl
  | cons s rest ih => rw [List.map_cons, texts, ih, ofText, sqlFrom_text, sqlFrom_nil,
      String.append_empty]

/-- Separated texts are joined by the separator, if none of them is empty. -/
theorem sqlFrom_separatedTexts (d : Dialect) (separator : String) {members : List String}
    (each : ∀ s ∈ members, s ≠ "") (n : Nat) :
    (separatedTexts separator members).sqlFrom d n = separator.intercalate members := by
  rw [separatedTexts, sqlFrom_separated, texts_map_ofText]
  intro f member
  obtain ⟨s, used, rfl⟩ := List.mem_map.1 member
  simpa [ofText, writesNothing, Piece.isEmpty] using each s used

/-! ## The first character -/

/-- The text of the fragment does not start with a digit. -/
def leadsClear : Fragment → Bool
  | [] => true
  | .text s :: rest =>
    match s.toList with
    | [] => leadsClear rest
    | c :: _ => !c.isDigit
  | .parameter _ :: _ => true

theorem leadsClear_text {s : String} {c : Char} {cs : List Char} {f : Fragment}
    (h : s.toList = c :: cs) (clear : c.isDigit = false) : leadsClear (.text s :: f) = true := by
  simp only [leadsClear, h, clear, Bool.not_false]

/-- A word before a text decides how it starts. -/
theorem leadsClear_word {a b : String} {c : Char} {cs : List Char} {f : Fragment}
    (h : a.toList = c :: cs) (clear : c.isDigit = false) :
    leadsClear (.text (a ++ b) :: f) = true :=
  leadsClear_text (by rw [String.toList_append, h, List.cons_append]) clear

theorem leadsClear_append {f g : Fragment} (hf : f.leadsClear = true) (hg : g.leadsClear = true) :
    leadsClear (f ++ g) = true := by
  induction f with
  | nil => exact hg
  | cons piece f ih =>
    cases piece with
    | parameter p => rfl
    | text s =>
      simp only [List.cons_append, leadsClear] at hf ⊢
      split
      · rename_i empty
        rw [empty] at hf
        exact ih hf
      · rename_i c cs first
        rw [first] at hf
        exact hf

theorem leadsClear_chainedAfter (nodes : List (Connective × Fragment)) :
    leadsClear (chainedAfter true nodes) = true := by
  induction nodes with
  | nil => rfl
  | cons node rest ih =>
    obtain ⟨c, f⟩ := node
    simp only [chainedAfter, if_true]
    split
    · exact ih
    · cases c <;> exact leadsClear_text rfl rfl

theorem leadsClear_separatedAfter {separator : String} {c : Char} {cs : List Char}
    (h : separator.toList = c :: cs) (clear : c.isDigit = false) (members : List Fragment) :
    leadsClear (separatedAfter separator true members) = true := by
  cases members with
  | nil => rfl
  | cons f rest => exact leadsClear_text h clear

end Fragment

end EntitySql
