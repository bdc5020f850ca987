import EntitySql.Proofs.Sql.Writing

/-!
# Placeholders and parameters

A reader of a statement looks for placeholders from left to right: for question marks, or in the
dialect that numbers them for a dollar and the digits after it. In a statement whose wordings have
neither mark, the reader finds the placeholder of the first parameter, then that of the second, up
to the last, and nothing else (`Operation.marks_compile`).

The proof follows the rules of clauses. Phrases add no mark, and what follows a parameter never
starts with a digit, so the number of a placeholder ends where it was written to end.

**Texts and lists.** In a fragment every parameter stands in the place of its placeholder. A writer
has a text and a list of parameters instead, which texts on the side and nested contexts pass by one
another; as it emits the fragment, its placeholders are those of its list all the same
(`Operation.marks_write`).
-/

namespace EntitySql

set_option autoImplicit false

/-- A placeholder as the reader of a text meets it. -/
inductive Mark where
  | question
  /-- A dollar with the number after it. -/
  | dollar (number : Nat)
deriving DecidableEq

namespace Dialect

/-- The placeholder of the `n`-th parameter. -/
def mark (d : Dialect) (n : Nat) : Mark :=
  match d with
  | postgres => .dollar n
  | _ => .question

/-- The placeholders of a text, from left to right. -/
def marks (d : Dialect) : List Char → List Mark
  | [] => []
  | c :: cs =>
    match d with
    | postgres =>
      if c = '$' then .dollar (Nat.ofDigitChars 10 (cs.takeWhile Char.isDigit) 0) :: marks d cs
      else marks d cs
    | _ => if c = '?' then .question :: marks d cs else marks d cs

end Dialect

/-! ## Texts without marks -/

/-- The character marks no parameter. -/
def isUnmarked (c : Char) : Bool := c != '?' && c != '$'

/-- The text of a wording. -/
def Wording.given : Wording → String
  | verbatim s | identifier s | content s => s

/-- The wording has neither a question mark nor a dollar. -/
def Wording.Unmarked (w : Wording) : Prop := Consists isUnmarked w.given

instance (w : Wording) : Decidable w.Unmarked :=
  inferInstanceAs (Decidable (Consists isUnmarked w.given))

theorem isUnmarked_of_isPlainChar {c : Char} (h : isPlainChar c = true) : isUnmarked c = true := by
  cases unmarked : isUnmarked c with
  | true => rfl
  | false =>
    have mark : c = '?' ∨ c = '$' := by
      by_cases question : c = '?'
      · exact .inl question
      · exact .inr (by simpa [isUnmarked, question] using unmarked)
    rcases mark with rfl | rfl <;> exact absurd h (by decide)

theorem mem_doubling {q c : Char} {cs : List Char} (h : c ∈ doubling q cs) : c = q ∨ c ∈ cs := by
  obtain ⟨b, member, copy⟩ := List.mem_flatMap.1 h
  split at copy
  · left
    simpa using copy
  · right
    rw [List.mem_singleton.1 copy]
    exact member

namespace Dialect

variable {d : Dialect} {s : String}

theorem consists_identifier (h : Consists isUnmarked s) : Consists isUnmarked (d.identifier s) := by
  unfold identifier
  split
  · refine .ofList fun c member => ?_
    have quotes : isUnmarked d.identifierQuotes.1 = true ∧
        isUnmarked d.identifierQuotes.2 = true := by cases d <;> decide
    simp only [List.mem_cons, List.mem_append, List.not_mem_nil, or_false] at member
    rcases member with rfl | inside | rfl
    · exact quotes.1
    · rcases mem_doubling inside with rfl | original
      · exact quotes.2
      · exact h c original
    · exact quotes.2
  · exact h

theorem consists_stringLiteral (h : Consists isUnmarked s) :
    Consists isUnmarked (d.stringLiteral s) := by
  have quoted : ∀ cs : List Char, (∀ c ∈ cs, isUnmarked c = true) →
      ∀ c ∈ quotedText cs, isUnmarked c = true := by
    intro cs inside c member
    simp only [quotedText, List.mem_cons, List.mem_append, List.not_mem_nil, or_false] at member
    rcases member with rfl | doubled | rfl
    · rfl
    · rcases mem_doubling doubled with rfl | original
      · rfl
      · exact inside c original
    · rfl
  refine .ofList fun c member => ?_
  cases d with
  | mysql =>
    simp only [List.mem_cons, List.mem_append, List.not_mem_nil, or_false] at member
    rcases member with rfl | doubled | rfl
    · rfl
    · rcases mem_doubling doubled with rfl | inner
      · rfl
      · rcases mem_doubling inner with rfl | original
        · rfl
        · exact h c original
    · rfl
  | sqlServer =>
    rcases List.mem_cons.1 member with rfl | member
    · rfl
    · exact quoted _ h c member
  | generic => exact quoted _ h c member
  | postgres => exact quoted _ h c member
  | h2 => exact quoted _ h c member
  | oracle => exact quoted _ h c member

end Dialect

/-- A phrase of unmarked wordings has no mark. -/
theorem Phrase.consists_unmarked {d : Dialect} {t : String} (h : Phrase d Wording.Unmarked t) :
    Consists isUnmarked t := by
  induction h with
  | plain plain => exact plain.mono fun _ => isUnmarked_of_isPlainChar
  | quoted inside =>
    refine .append (.append (by decide) (inside.mono fun c h => ?_)) (by decide)
    rcases Bool.or_eq_true_iff.1 h with plain | escape
    · exact isUnmarked_of_isPlainChar plain
    · have backslash : c = '\\' := by simpa using (Bool.and_eq_true_iff.1 escape).1
      rw [backslash]
      rfl
  | verbatim own => exact own
  | identifier own => exact Dialect.consists_identifier own
  | content own => exact Dialect.consists_stringLiteral own
  | append _ _ first second => exact first.append second
  | parens _ ih => exact .append (.append (by decide) ih) (by decide)

/-! ## Reading the placeholders of a clause -/

/-- The characters do not start with a digit. -/
def StartsClear (cs : List Char) : Prop := ∀ c ∈ cs.head?, c.isDigit = false

namespace Dialect

variable {d : Dialect}

/-- Unmarked characters are passed over. -/
theorem marks_append_of_unmarked {cs rest : List Char} (h : ∀ c ∈ cs, isUnmarked c = true) :
    d.marks (cs ++ rest) = d.marks rest := by
  induction cs with
  | nil => rfl
  | cons c cs ih =>
    have unmarked := h c List.mem_cons_self
    simp only [isUnmarked, Bool.and_eq_true, bne_iff_ne, ne_eq] at unmarked
    have later := ih fun b member => h b (List.mem_cons_of_mem _ member)
    cases d <;> simp only [List.cons_append, marks, unmarked, if_false, later]

theorem isUnmarked_of_isDigit {c : Char} (h : c.isDigit = true) : isUnmarked c = true :=
  isUnmarked_of_isPlainChar (isPlainChar_of_isDigit h)

/-- A placeholder before anything but a digit is read as it was written. -/
theorem marks_placeholder {n : Nat} {rest : List Char} (clear : StartsClear rest) :
    d.marks ((d.placeholder n).toList ++ rest) = d.mark n :: d.marks rest := by
  cases d with
  | postgres =>
    have digits : (toString n).toList = Nat.toDigits 10 n := by
      rw [Nat.toString_eq_ofList_toDigits, String.toList_ofList]
    have stops : rest.takeWhile Char.isDigit = [] := by
      cases rest with
      | nil => rfl
      | cons c cs => rw [List.takeWhile_cons_of_neg (by simp [clear c rfl])]
    have number : (Nat.toDigits 10 n ++ rest).takeWhile Char.isDigit = Nat.toDigits 10 n := by
      rw [List.takeWhile_append_of_pos fun c => isDigit_of_mem_decimal, stops, List.append_nil]
    have passed : marks postgres (Nat.toDigits 10 n ++ rest) = marks postgres rest :=
      marks_append_of_unmarked fun c member => isUnmarked_of_isDigit (isDigit_of_mem_decimal member)
    simp only [placeholder, String.toList_append, digits]
    show marks postgres ('$' :: (Nat.toDigits 10 n ++ rest)) = _
    rw [marks, if_pos rfl, number, Nat.ofDigitChars_ten_toDigits, passed]
    rfl
  | generic | mysql | h2 | sqlServer | oracle =>
    simp [placeholder, marks, mark]

end Dialect

/-- The text of a fragment that leads clear starts clear before anything that does. -/
theorem Fragment.startsClear_sqlFrom {d : Dialect} {f : Fragment} {rest : List Char}
    (clear : StartsClear rest) (lead : f.leadsClear = true) (n : Nat) :
    StartsClear ((f.sqlFrom d n).toList ++ rest) := by
  induction f with
  | nil => exact clear
  | cons piece f ih =>
    cases piece with
    | parameter p =>
      rw [sqlFrom_parameter, String.toList_append]
      intro c first
      have mark : c = '$' ∨ c = '?' := by
        cases d <;> simp [Dialect.placeholder] at first <;> simp [← first]
      rcases mark with rfl | rfl <;> rfl
    | text s =>
      rw [sqlFrom_text, String.toList_append]
      simp only [leadsClear] at lead
      split at lead
      · rename_i empty
        rw [empty]
        exact ih lead
      · rename_i c cs first
        intro b head
        rw [first] at head
        have same : c = b := by simpa using head
        simpa [same] using lead

/-- **The placeholders of a clause are those of its parameters,** counted from where the clause
stands. -/
theorem Clause.marks_sqlFrom {d : Dialect} {f : Fragment} (h : Clause d Wording.Unmarked f) :
    ∀ (n : Nat) (rest : List Char), StartsClear rest →
      d.marks ((f.sqlFrom d n).toList ++ rest) =
        (List.range' (n + 1) f.parameters.length).map d.mark ++ d.marks rest := by
  induction h with
  | nil => exact fun n rest _ => rfl
  | text phrase _ ih =>
    intro n rest clear
    rw [Fragment.sqlFrom_text, String.toList_append, List.append_assoc,
      Dialect.marks_append_of_unmarked phrase.consists_unmarked]
    exact ih n rest clear
  | parameter p =>
    intro n rest clear
    have one := Dialect.marks_placeholder (d := d) (n := n + 1) clear
    simpa using one
  | @append f g _ _ lead first second =>
    intro n rest clear
    have between : StartsClear ((g.sqlFrom d (n + f.parameters.length)).toList ++ rest) :=
      Fragment.startsClear_sqlFrom clear lead _
    rw [Fragment.sqlFrom_append, String.toList_append, List.append_assoc, first n _ between,
      second _ _ clear, ← List.append_assoc, ← List.map_append, Fragment.parameters_append,
      List.length_append]
    have counted : n + f.parameters.length + 1 = n + 1 + f.parameters.length := by omega
    rw [counted, List.range'_append_1]
  | @parens f _ ih =>
    intro n rest clear
    have opening : ∀ c ∈ ['('], isUnmarked c = true := List.all_eq_true.1 rfl
    have closing : ∀ c ∈ [')'], isUnmarked c = true := List.all_eq_true.1 rfl
    have inside := ih n ([')'] ++ rest) (fun c first => by
      cases first
      rfl)
    rw [Dialect.marks_append_of_unmarked closing] at inside
    have text : (Fragment.sqlFrom d n (.text "(" :: (f ++ [.text ")"]))).toList ++ rest =
        ['('] ++ ((f.sqlFrom d n).toList ++ ([')'] ++ rest)) := by
      simp [Fragment.sqlFrom_append]
    rw [text, Dialect.marks_append_of_unmarked opening, inside]
    simp
  | alike _ same ih =>
    intro n rest clear
    rw [same.1, same.2]
    exact ih n rest clear

/-! ## Compiled statements -/

namespace Dialect

/-- A dialect without numbers has as many placeholders as question marks. -/
theorem length_marks {d : Dialect} (unnumbered : d ≠ .postgres) (cs : List Char) :
    (d.marks cs).length = cs.count '?' := by
  induction cs with
  | nil => rfl
  | cons c cs ih =>
    by_cases question : c = '?'
    · cases d <;> simp_all [marks]
    · cases d <;> simp_all [marks]

end Dialect

/-- **The placeholders of a rendered statement.** A statement compiled for any operation whose
wordings have no mark binds the payloads of the operation, in the order in which a reader meets
them, and then limit and offset in the dialects that page by them. The placeholders of its text,
from left to right, are those of the first parameter, the second one and so on up to the last; in a
dialect without numbers, there are as many question marks. -/
theorem Operation.marks_compile {d : Dialect} {op : Operation} {st : Statement}
    (unmarked : ∀ w ∈ op.wordings, w.Unmarked) (compiled : op.compile d = .ok st) :
    st.parameters = op.payloads ++ d.pagingPair op.window? ∧
      d.marks st.sql.toList = (List.range' 1 st.parameters.length).map d.mark ∧
      (d ≠ .postgres → st.sql.toList.count '?' = st.parameters.length) := by
  have blank : ∀ c ∈ ("" : String).toList, isUnmarked c = true := List.all_eq_true.1 rfl
  obtain ⟨clause, same⟩ := clause_compile blank blank compiled unmarked
  have read := clause.marks_sqlFrom 0 [] nofun
  have marks : d.marks st.sql.toList = (List.range' 1 st.parameters.length).map d.mark := by
    simpa [Statement.sql, Fragment.sql, same, Statement.parameters, Dialect.marks] using read
  refine ⟨parameters_compile compiled, marks, fun unnumbered => ?_⟩
  rw [← Dialect.length_marks unnumbered, marks]
  simp

/-- **Placeholders and parameters correspond one to one and in order.** The text and the list of
parameters written for an operation whose wordings have no mark are those of one sequence of texts
and parameters, in which each parameter stands where its placeholder is. The list has the payloads
of the operation, in the order in which a reader meets them, and then limit and offset in the
dialects that page by them. The placeholders of the text, from left to right, are those of the first
parameter of the list, the second one and so on up to the last; in a dialect without numbers, there
are as many question marks. -/
theorem Operation.marks_write {d : Dialect} {op : Operation} {result : WrittenStatement}
    (unmarked : ∀ w ∈ op.wordings, w.Unmarked) (written : op.write d = .ok result) :
    (∃ st, op.compile d = .ok st ∧ result.sql = st.body.sql d ∧
        result.parameters = st.body.parameters) ∧
      result.parameters = op.payloads ++ d.pagingPair op.window? ∧
      d.marks result.sql.toList = (List.range' 1 result.parameters.length).map d.mark ∧
      (d ≠ .postgres → result.sql.toList.count '?' = result.parameters.length) := by
  rw [op.write_eq] at written
  obtain ⟨st, compiled, rfl⟩ := Outcome.map_eq_ok.1 written
  have blank : ∀ c ∈ ("" : String).toList, isUnmarked c = true := List.all_eq_true.1 rfl
  have dialect := (clause_compile blank blank compiled unmarked).2
  refine ⟨⟨st, compiled, ?_, rfl⟩, marks_compile unmarked compiled⟩
  rw [← dialect]
  rfl

/-- A page of the rows of a table that have one value, or for which a query finds rows; that query
joins a third one under a condition of its own. -/
def pagedSample : Operation :=
  let test (qualifier name : String) (n : Nat) : Node :=
    .predicate .and (.compare { Column.ofName name with qualifier } .equal
      (.value (.int .int32 (some (.clamp .int32 n)))))
  let joined : Query := { Query.ofNamed 0 "S" with filter := [test "" "C" 3] }
  let found : Query :=
    { Query.ofNamed 0 "U" with
      joins := [⟨.left, ⟨"J", .subQuery joined⟩, [test "J" "B" 4]⟩]
      columns := [.ofLiteral (.varchar (some "it's"))] }
  .select
    { Query.ofNamed 0 "T" with
      filter := [test "" "A" 1, .predicate .or (.hasRows false found)], distinct := true }
    (some ⟨10, 5⟩)

theorem marks_write_pagedSample : ∃ result, pagedSample.write .postgres = .ok result ∧
    result.sql = "SELECT DISTINCT * FROM T WHERE A = $1 OR EXISTS (SELECT 'it''s' FROM U " ++
      "LEFT JOIN (SELECT * FROM S WHERE C = $2) J ON J.B = $3) LIMIT $4 OFFSET $5" ∧
    Dialect.postgres.marks result.sql.toList =
      [.dollar 1, .dollar 2, .dollar 3, .dollar 4, .dollar 5] := by
  have unmarked : ∀ w ∈ pagedSample.wordings, w.Unmarked := by decide
  obtain ⟨st, compiled⟩ : ∃ st, pagedSample.compile .postgres = .ok st := ⟨_, rfl⟩
  have written : pagedSample.write .postgres = .ok st.written := by
    rw [pagedSample.write_eq, compiled]
    rfl
  obtain ⟨_, parameters, marks, _⟩ := Operation.marks_write unmarked written
  refine ⟨_, written, ?_, ?_⟩
  · obtain rfl := Except.ok.inj compiled
    decide +kernel
  · rw [marks, parameters]
    rfl

end EntitySql
