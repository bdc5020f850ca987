import EntitySql.Proofs.Entity.Faults

/-!
# Rows in another order

A row is read in the order of its labels, but what is read depends on names only. The order of the
row, the ASCII case of its labels and labels that are no column's change nothing, and a column that
may be null can be missing just as well as be null (`Declared.ofRow_rearranged`).
-/

namespace EntitySql

set_option autoImplicit false

variable {r : Row}

/-! ## The same values in another row -/

/-- The other row holds the row, in whatever order and whatever ASCII case of the labels, and
besides only labels no column is called. -/
def Declared.Rearranges (d : Declared) (r r' : Row) : Prop :=
  ∃ extra : List (String × Value),
    (∀ p ∈ extra, ∀ k ∈ d.readColumns, Text.eqIgnoringCase p.1 k.2.name = false) ∧
      (Row.lowered (r.pairs ++ extra)).Perm (Row.lowered r'.pairs)

variable {d : Declared} {r' : Row}

theorem Declared.Rearranges.value?_eq (arranged : d.Rearranges r r') {k : String × ColumnField}
    (column : k ∈ d.readColumns) (clear : Row.IsClearAt r.pairs k.2.name) :
    Row.IsClearAt r'.pairs k.2.name ∧ r'.value? k.2.name = r.value? k.2.name := by
  obtain ⟨extra, uncalled, same⟩ := arranged
  have nothing : (Row.ofPairs extra).value? k.2.name = none := by
    rw [Row.value?_eq_none_iff, Row.pairs_ofPairs]
    exact fun p member => uncalled p member k column
  have clearExtra : Row.IsClearAt extra k.2.name :=
    List.pairwise_of_forall_mem_list fun p member _ _ both =>
      Bool.eq_false_iff.1 (uncalled p member k column) both.1
  obtain ⟨clear', value⟩ := Row.value?_added clear clearExtra (.inr nothing) same
  exact ⟨clear', by rw [value, nothing, Option.or_none]⟩

/-- Two rows are read as the same record where each column reads the same from both. -/
theorem Declared.ofRow_congr (apart : d.NamesApart)
    (clear : ∀ k ∈ d.readColumns, Row.IsClearAt r.pairs k.2.name)
    (clear' : ∀ k ∈ d.readColumns, Row.IsClearAt r'.pairs k.2.name)
    (alike : ∀ k ∈ d.readColumns, ∀ x,
      k.2.ReadAs (r'.value? k.2.name) x ↔ k.2.ReadAs (r.value? k.2.name) x) (e : d.Record) :
    d.ofRow r' = .ok e ↔ d.ofRow r = .ok e := by
  rw [d.ofRow_eq_ok_iff apart clear', d.ofRow_eq_ok_iff apart clear]
  exact ⟨d.readAs_of_forall fun k column x => (alike k column x).1,
    d.readAs_of_forall fun k column x => (alike k column x).2⟩

/-- A null under the name of a column that may be null reads like no value. -/
theorem ColumnField.readAs_null_iff {c : ColumnField} (nullable : c.nullable = true) {v : Value}
    (null : v.isNull = true) (x : c.type.Carrier) : c.ReadAs (some v) x ↔ c.ReadAs none x := by
  show c.type.ofValue v = _ ↔ _ ∧ _
  rw [ofValue_of_isNull nullable null, and_iff_right nullable]

/-- **Rows are read by name.** For an entity whose columns have different names, without regard to
ASCII case, and a row whose labels differ so:

* a row that holds the same in another order, under labels in another case and among labels no
  column is called, is read as the same record or fails as well;
* a null added under the name of a column that may be null, if the row has nothing there, leaves the
  record as it is, and leaves a failure unless a column of the same name must have a value;
* a column that must have a value and has none makes reading fail with `Error.model`, unless an
  earlier column fails with a fault of its own. -/
theorem Declared.ofRow_rearranged (d : Declared) (apart : d.NamesApart) (r : Row)
    (distinct : (r.pairs.map fun p => Text.lowerAscii p.1).Nodup) :
    (∀ r', d.Rearranges r r' → ∀ e, d.ofRow r' = .ok e ↔ d.ofRow r = .ok e) ∧
    (∀ k ∈ d.readColumns, k.2.nullable = true → r.value? k.2.name = none →
      ∀ r' label v, Text.eqIgnoringCase label k.2.name = true → v.isNull = true →
        (r.pairs ++ [(label, v)]).Perm r'.pairs →
          (∀ e, d.ofRow r = .ok e → d.ofRow r' = .ok e) ∧
          ((∀ o ∈ d.readColumns, Text.eqIgnoringCase label o.2.name = true →
              o.2.nullable = true) →
            ∀ e, d.ofRow r' = .ok e ↔ d.ofRow r = .ok e)) ∧
    ∀ k ∈ d.readColumns, k.2.nullable = false → r.value? k.2.name = none →
      ∃ earlier later,
        d.faults r = earlier ++ .model (.columnNotInRow k.2.name k.1) :: later ∧
        d.ofRow r = .error (earlier.head?.getD (.model (.columnNotInRow k.2.name k.1))) ∧
        ∀ cause ∈ earlier, ∃ o ∈ d.readColumns,
          o.2.FailsWith o.1 (r.value? o.2.name) cause := by
  have clear : ∀ k ∈ d.readColumns, Row.IsClearAt r.pairs k.2.name :=
    fun k _ => Row.isClearAt_of_nodup distinct k.2.name
  refine ⟨fun r' arranged e => ?_, fun k column nullable missing r' label v called null added => ?_,
    fun k column required missing => ?_⟩
  · refine d.ofRow_congr apart clear
      (fun k column => (arranged.value?_eq column (clear k column)).1) (fun k column x => ?_) e
    rw [(arranged.value?_eq column (clear k column)).2]
  · have untaken : r.value? label = none := (Row.value?_congr called).trans missing
    have same : (∀ o ∈ d.readColumns, Text.eqIgnoringCase label o.2.name = true →
        o.2.nullable = true) → ∀ e, d.ofRow r' = .ok e ↔ d.ofRow r = .ok e := by
      intro nullable e
      refine d.ofRow_congr apart clear
        (fun o column => (Row.value?_added_singleton (clear o column) untaken added).1)
        (fun o column x => ?_) e
      rw [(Row.value?_added_singleton (clear o column) untaken added).2]
      cases called : Text.eqIgnoringCase label o.2.name with
      | true =>
        rw [← Row.value?_congr called, untaken]
        exact ColumnField.readAs_null_iff (nullable o column called) null x
      | false => rfl
    refine ⟨fun e read => (same (fun o column called => ?_) e).2 read, same⟩
    obtain ⟨x, readAs⟩ := d.forall_readAs ((d.ofRow_eq_ok_iff apart clear e).1 read) o column
    rw [← Row.value?_congr called, untaken] at readAs
    exact readAs.1
  · have fault : .model (.columnNotInRow k.2.name k.1) ∈ d.faults r :=
      (d.mem_faults_iff clear).2 ⟨k, column, by rw [missing]; exact ⟨required, rfl⟩⟩
    obtain ⟨earlier, later, faults⟩ := List.append_of_mem fault
    refine ⟨earlier, later, faults, ?_, fun cause before => ?_⟩
    · rw [(d.settles_ofRow apart clear).eq_error_iff, faults, List.head?_append, List.head?_cons]
      cases earlier <;> rfl
    · refine (d.mem_faults_iff clear).1 ?_
      rw [faults]
      exact List.mem_append_left _ before

/-- A notice has the name of its author, a title, and perhaps a note in a box. -/
def noticeEntity : Declared where
  typeName := "Notice"
  table := ⟨"NOTICE", ""⟩
  members :=
    .inherit "author"
      ⟨"Author", ⟨"AUTHOR", ""⟩, .column (.plain "name" (.primitive .text)) .nil⟩
      (.column (.plain "title" (.primitive .text))
        (.column (.plain "note" (.box (.option (.primitive .text))))
          (.skip "draft" Bool false .nil)))

def noticeSample : noticeEntity.Record := (("Mills", ()), "Plan", none, false, ())

def noticeRow : Row := ⟨["Title", "NAME"], [.varchar (some "Plan"), .varchar (some "Mills")]⟩

theorem ofRow_rearranged_noticeSample :
    noticeEntity.NamesApart ∧ (noticeRow.pairs.map fun p => Text.lowerAscii p.1).Nodup ∧
    noticeEntity.ofRow noticeRow = .ok noticeSample ∧
    noticeEntity.ofRow ⟨["name", "PAGE", "title"],
      [.varchar (some "Mills"), .null, .varchar (some "Plan")]⟩ = .ok noticeSample ∧
    noticeEntity.ofRow ⟨["Title", "NAME", "note"],
      [.varchar (some "Plan"), .varchar (some "Mills"), .null]⟩ = .ok noticeSample ∧
    noticeEntity.ofRow ⟨["NAME"], [.varchar (some "Mills")]⟩ =
      .error (.model (.columnNotInRow "TITLE" "Notice")) := by
  have apart : noticeEntity.NamesApart := ⟨by decide, ⟨by decide, trivial⟩, trivial⟩
  have distinct : (noticeRow.pairs.map fun p => Text.lowerAscii p.1).Nodup := by decide
  have read : noticeEntity.ofRow noticeRow = .ok noticeSample := rfl
  have uncalled : ∀ p ∈ [("page", Value.null)], ∀ k ∈ noticeEntity.readColumns,
      Text.eqIgnoringCase p.1 k.2.name = false := by decide
  have title : ("Notice", .plain "title" (.primitive .text)) ∈ noticeEntity.readColumns := .head _
  have note : ("Notice", .plain "note" (.box (.option (.primitive .text)))) ∈
      noticeEntity.readColumns := .tail _ (.head _)
  obtain ⟨rearranged, completed, -⟩ := noticeEntity.ofRow_rearranged apart noticeRow distinct
  refine ⟨apart, distinct, read, (rearranged _ ⟨_, uncalled, ?_⟩ _).2 read,
    (completed _ note rfl rfl _ "note" .null rfl rfl (.refl _)).1 _ read, ?_⟩
  · exact (List.perm_append_comm : ([_] ++ [_, _]).Perm _)
  · obtain ⟨-, -, incomplete⟩ := noticeEntity.ofRow_rearranged apart
      ⟨["NAME"], [.varchar (some "Mills")]⟩ (by decide)
    obtain ⟨earlier, later, faults, fails, -⟩ := incomplete _ title rfl rfl
    cases earlier with
    | nil => exact fails
    | cons first rest =>
      have one : 1 = (first :: rest ++ _ :: later).length := congrArg List.length faults
      simp only [List.length_append, List.length_cons] at one
      omega

end EntitySql
