import EntitySql.Proofs.Declaration.Values
import EntitySql.Proofs.Outcome

/-!
# Lists of entries

How the list of an attribute is written is said here by its parts, without reading it: it has a
part for each entry, with a comma behind each but perhaps the last; an entry is a path, or a path,
an equals sign and a value (`Listed`).

The reader takes the entries of every list so written (`Listed.readEntries_eq`). From any other
tokens it takes the entries of a list in front of them, unless the value of an entry cannot be read
(`exists_listed_of_readEntries`).
-/

namespace EntitySql

set_option autoImplicit false

open Code

variable {ts more : List Token}

/-! ## Entries -/

/-- The path has a name, and no name has arguments. -/
def Code.CodePath.IsBare (p : CodePath) : Prop :=
  p.segments ≠ [] ∧ ∀ s ∈ p.segments, s.arguments = []

/-- The tokens spell the entry: its path and, if it has a value, an equals sign and the value. -/
def AttributeEntry.Spells (e : AttributeEntry) (ts : List Token) : Prop :=
  e.path.IsBare ∧
    match e.value with
    | none => ts = e.path.tokens
    | some v => ∃ written, v.Spells written ∧ ts = e.path.tokens ++ .mark "=" :: written

theorem readNames?_append (follows : ∀ rest, more ≠ .mark "::" :: rest) :
    ∀ {names : List String}, names ≠ [] →
      readNames? (pathTokens names ++ more) = some (names, more)
  | [name], _ => by
    show readNames? (.word name :: more) = _
    unfold readNames?
    split
    · next same =>
      cases same
      exact absurd rfl (follows _)
    · next same =>
      cases same
      rfl
    · next other => exact absurd rfl (other name more)
  | name :: other :: names, _ => by
    show (readNames? (pathTokens (other :: names) ++ more)).map _ = _
    rw [readNames?_append follows (List.cons_ne_nil other names)]
    rfl

theorem eq_of_readNames? : ∀ {ts : List Token} {names : List String},
    readNames? ts = some (names, more) → ts = pathTokens names ++ more ∧ names ≠ []
  | ts, names, read => by
    unfold readNames? at read
    split at read
    · next name rest =>
      obtain ⟨⟨others, more'⟩, readOthers, same⟩ := Option.map_eq_some_iff.1 read
      cases same
      obtain ⟨rfl, nonempty⟩ := eq_of_readNames? readOthers
      obtain ⟨other, others, rfl⟩ := List.exists_cons_of_ne_nil nonempty
      exact ⟨rfl, List.cons_ne_nil _ _⟩
    · cases read
      exact ⟨rfl, List.cons_ne_nil _ _⟩
    · cases read

theorem segmentTokens_ofNames : ∀ names : List String,
    segmentTokens (CodePath.ofNames names).segments = pathTokens names
  | [] => rfl
  | [_] => segmentTokens_singleton _
  | name :: other :: names => by
    have others := segmentTokens_ofNames (other :: names)
    show segmentTokens (⟨name, []⟩ :: ⟨other, []⟩ :: names.map fun name => ⟨name, []⟩) = _
    rw [segmentTokens_cons_cons]
    exact congrArg (fun ts => Token.word name :: .mark "::" :: ts) others

theorem isBare_ofNames {names : List String} (nonempty : names ≠ []) (rooted : Bool) :
    CodePath.IsBare { CodePath.ofNames names with rooted } := by
  refine ⟨mt List.map_eq_nil_iff.1 nonempty, fun s member => ?_⟩
  obtain ⟨name, -, rfl⟩ := List.mem_map.1 member
  rfl

theorem Code.CodePath.IsBare.isClosed {p : CodePath} (bare : p.IsBare) : p.IsClosed :=
  ⟨bare.1, fun s member => .inl (bare.2 s member)⟩

/-- A bare path is nothing but its names. -/
theorem Code.CodePath.IsBare.eq_ofNames {p : CodePath} (bare : p.IsBare) :
    p.names ≠ [] ∧ p = { CodePath.ofNames p.names with rooted := p.rooted } := by
  obtain ⟨rooted, segments⟩ := p
  refine ⟨mt List.map_eq_nil_iff.1 bare.1, congrArg (CodePath.mk rooted) ?_⟩
  show segments = (segments.map (·.name)).map fun name => ⟨name, []⟩
  rw [List.map_map]
  refine (List.map_id segments).symm.trans (List.map_congr_left fun s member => ?_)
  obtain ⟨name, arguments⟩ := s
  cases bare.2 _ member
  rfl

/-- The path of an entry is read from the tokens that spell it. -/
theorem readPath?_append {p : CodePath} (bare : p.IsBare)
    (follows : ∀ rest, more ≠ .mark "::" :: rest) :
    readPath? (p.tokens ++ more) = some (p, more) := by
  obtain ⟨nonempty, eq⟩ := bare.eq_ofNames
  rw [eq]
  generalize p.names = names at nonempty
  have read := readNames?_append follows nonempty
  obtain ⟨name, names, rfl⟩ := List.exists_cons_of_ne_nil nonempty
  cases p.rooted with
  | true =>
    show (readNames? (segmentTokens (CodePath.ofNames (name :: names)).segments ++ more)).map _ = _
    rw [segmentTokens_ofNames, read]
    rfl
  | false =>
    show readPath? (segmentTokens (CodePath.ofNames (name :: names)).segments ++ more) = _
    have starts : readPath? (pathTokens (name :: names) ++ more) =
        (readNames? (pathTokens (name :: names) ++ more)).map
          fun read => (.ofNames read.1, read.2) := by
      cases names <;> rfl
    rw [segmentTokens_ofNames, starts, read]
    rfl

theorem eq_of_readPath? {p : CodePath} (read : readPath? ts = some (p, more)) :
    ts = p.tokens ++ more ∧ p.IsBare := by
  unfold readPath? at read
  split at read
  all_goals
    obtain ⟨⟨names, more'⟩, readNames, same⟩ := Option.map_eq_some_iff.1 read
    cases same
    obtain ⟨rfl, nonempty⟩ := eq_of_readNames? readNames
    rw [← segmentTokens_ofNames]
    exact ⟨rfl, isBare_ofNames nonempty _⟩

theorem EntryValue.goesOn_of_endsPart (v : EntryValue) (ends : EndsPart more) :
    v.goesOn more = false := by
  rcases ends with rfl | ⟨rest, rfl⟩ <;> rfl

namespace AttributeEntry

variable {e : AttributeEntry}

/-- **An entry is read** from the tokens that spell it. -/
theorem read?_append (spells : e.Spells ts) (ends : EndsPart more) :
    AttributeEntry.read? (ts ++ more) = some (e, more) := by
  obtain ⟨path, value⟩ := e
  obtain ⟨bare, written⟩ := spells
  cases value with
  | none =>
    cases written
    have follows : ∀ rest, more ≠ .mark "::" :: rest := by
      rcases ends with rfl | ⟨rest, rfl⟩ <;> simp
    have path' := readPath?_append bare follows
    unfold AttributeEntry.read?
    rw [path']
    rcases ends with rfl | ⟨rest, rfl⟩ <;> rfl
  | some v =>
    obtain ⟨us, spelled, rfl⟩ := written
    have follows : ∀ rest, .mark "=" :: (us ++ more) ≠ .mark "::" :: rest := by simp
    have path' := readPath?_append bare follows
    have value := v.read_append ((us ++ more).length + 1) spelled (by simp; omega) ends
    rw [List.append_assoc, List.cons_append]
    unfold AttributeEntry.read?
    rw [path']
    show (if path.name? = some "primary_key" ∧
      EntryValue.goesOn (EntryValue.read _ _).1 _ = true then _ else _) = _
    rw [value, if_neg fun goesOn => Bool.eq_false_iff.1 (v.goesOn_of_endsPart ends) goesOn.2]

/-- **What is read as an entry spells it,** if no part of its value has been left unread. -/
theorem spells_of_read? (read : AttributeEntry.read? ts = some (e, more))
    (clear : ∀ v, e.value = some v → v.isClear = true) :
    ∃ front, ts = front ++ more ∧ e.Spells front := by
  unfold AttributeEntry.read? at read
  split at read
  · next path rest path' =>
    obtain ⟨rfl, bare⟩ := eq_of_readPath? path'
    cases value : EntryValue.read (rest.length + 1) rest with
    | mk v more' =>
      rw [value] at read
      dsimp only at read
      split at read
      · cases read
        cases clear _ rfl
      · cases read
        obtain ⟨front, rfl, spelled⟩ := EntryValue.spells_of_read _ value (clear _ rfl)
        exact ⟨path.tokens ++ .mark "=" :: front, by simp, bare, front, spelled, rfl⟩
  · cases read
    cases clear _ rfl
  · next path' =>
    cases read
    obtain ⟨rfl, bare⟩ := eq_of_readPath? path'
    exact ⟨_, rfl, bare, rfl⟩
  · cases read

end AttributeEntry

/-! ## Lists -/

/-- The list is written by its parts: each spells an entry and has a comma behind it, or the last
one none. -/
def Listed (es : List AttributeEntry) (ts : List Token) : Prop :=
  ∃ parts, List.Forall₂ AttributeEntry.Spells es parts ∧
    (ts = terminated parts ∨ es ≠ [] ∧ ts ++ [.mark ","] = terminated parts)

variable {es : List AttributeEntry}

theorem exists_terminated_append {parts : List (List Token)} (nonempty : parts ≠ []) :
    ∃ ts, terminated parts = ts ++ [.mark ","] := by
  rcases List.eq_nil_or_concat' parts with rfl | ⟨init, last, rfl⟩
  · exact absurd rfl nonempty
  · exact ⟨_, terminated_append_singleton init last⟩

theorem readEntries_of_spells {parts : List (List Token)}
    (pairs : List.Forall₂ AttributeEntry.Spells es parts) :
    ∀ {ts : List Token} (fuel : Nat), es.length ≤ fuel →
      (ts = terminated parts ∨ es ≠ [] ∧ ts ++ [.mark ","] = terminated parts) →
        readEntries fuel ts = es := by
  induction pairs with
  | nil =>
    intro ts fuel _ written
    rcases written with rfl | ⟨nonempty, -⟩
    · cases fuel <;> rfl
    · exact absurd rfl nonempty
  | @cons e part es parts spells pairs ih =>
    intro ts fuel enough written
    obtain ⟨fuel, rfl⟩ : ∃ n, fuel = n + 1 := ⟨fuel - 1, by simp at enough; omega⟩
    have followed : ∀ {us : List Token}, readEntries fuel us = es →
        readEntries (fuel + 1) (part ++ .mark "," :: us) = e :: es := by
      intro us others
      rw [readEntries, AttributeEntry.read?_append spells (.inr ⟨us, rfl⟩)]
      exact congrArg (e :: ·) others
    have enough : es.length ≤ fuel := Nat.le_of_succ_le_succ enough
    rw [terminated_cons] at written
    rcases written with rfl | ⟨-, written⟩
    · exact followed (ih fuel enough (.inl rfl))
    · cases pairs with
      | nil =>
        cases List.append_cancel_right written
        have read : AttributeEntry.read? (part ++ []) = some (e, []) :=
          AttributeEntry.read?_append spells (.inl rfl)
        rw [List.append_nil] at read
        rw [readEntries, read]
      | cons other others =>
        obtain ⟨us, last⟩ := exists_terminated_append (List.cons_ne_nil _ _)
        rw [last, ← List.cons_append, ← List.append_assoc] at written
        cases List.append_cancel_right written
        exact followed (ih fuel enough (.inr ⟨List.cons_ne_nil _ _, last.symm⟩))

theorem AttributeEntry.Spells.ne_nil {e : AttributeEntry} (spells : e.Spells ts) : ts ≠ [] := by
  have path := spells.1.isClosed.tokens_ne_nil
  obtain ⟨_, value⟩ := e
  cases value with
  | none =>
    cases spells.2
    exact path
  | some v =>
    obtain ⟨us, -, rfl⟩ := spells.2
    exact List.append_ne_nil_of_left_ne_nil path _

theorem length_le_terminated : ∀ {parts : List (List Token)}, (∀ part ∈ parts, part ≠ []) →
    2 * parts.length ≤ (terminated parts).length
  | [], _ => Nat.zero_le _
  | part :: parts, nonempty => by
    obtain ⟨first, others⟩ := List.forall_mem_cons.1 nonempty
    have := length_le_terminated others
    have := List.length_pos_iff.2 first
    rw [terminated_cons, List.length_append, List.length_cons, List.length_cons]
    omega

/-- **A list is read** as it is written. -/
theorem Listed.readEntries_eq (listed : Listed es ts) : readEntries ts.length ts = es := by
  obtain ⟨parts, pairs, written⟩ := listed
  refine readEntries_of_spells pairs _ ?_ written
  have length := length_le_terminated (Outcome.forall_right pairs fun e _ part spells =>
    spells.ne_nil)
  rw [pairs.length_eq]
  rcases written with rfl | ⟨-, written⟩
  · omega
  · rw [← written, List.length_append, List.length_singleton] at length
    omega

theorem Listed.nil : Listed [] [] := ⟨[], .nil, .inl rfl⟩

theorem Listed.singleton {e : AttributeEntry} (spells : e.Spells ts) : Listed [e] ts :=
  ⟨[ts], .cons spells .nil, .inr ⟨List.cons_ne_nil _ _, by simp [terminated]⟩⟩

theorem Listed.cons {e : AttributeEntry} {part : List Token} (spells : e.Spells part)
    (listed : Listed es ts) : Listed (e :: es) (part ++ .mark "," :: ts) := by
  obtain ⟨parts, pairs, written⟩ := listed
  refine ⟨part :: parts, .cons spells pairs, ?_⟩
  rw [terminated_cons]
  rcases written with rfl | ⟨-, written⟩
  · exact .inl rfl
  · exact .inr ⟨List.cons_ne_nil _ _, by rw [← written]; simp⟩

/-- **What is read from any tokens** is a list in front of them, if no part of its values has been
left unread. -/
theorem exists_listed_of_readEntries : ∀ (fuel : Nat) (ts : List Token),
    (∀ e ∈ readEntries fuel ts, ∀ v, e.value = some v → v.isClear = true) →
      ∃ used ignored, ts = used ++ ignored ∧ Listed (readEntries fuel ts) used
  | 0, ts, _ => ⟨[], ts, rfl, .nil⟩
  | fuel + 1, ts, clear => by
    cases read : AttributeEntry.read? ts with
    | none =>
      rw [readEntries, read]
      exact ⟨[], ts, rfl, .nil⟩
    | some found =>
      obtain ⟨e, more⟩ := found
      by_cases comma : ∃ rest, more = .mark "," :: rest
      · obtain ⟨rest, rfl⟩ := comma
        have step : readEntries (fuel + 1) ts = e :: readEntries fuel rest := by
          rw [readEntries, read]
          rfl
        rw [step] at clear ⊢
        obtain ⟨first, others⟩ := List.forall_mem_cons.1 clear
        obtain ⟨part, rfl, spells⟩ := AttributeEntry.spells_of_read? read first
        obtain ⟨used, ignored, rfl, listed⟩ := exists_listed_of_readEntries fuel rest others
        exact ⟨part ++ .mark "," :: used, ignored, by simp, listed.cons spells⟩
      · have step : readEntries (fuel + 1) ts = [e] := by
          rw [readEntries, read]
          split
          · next none => cases none
          · next same =>
            cases same
            exact absurd ⟨_, rfl⟩ comma
          · next same =>
            cases same
            rfl
        rw [step] at clear ⊢
        obtain ⟨part, rfl, spells⟩ := AttributeEntry.spells_of_read? read (clear e (.head _))
        exact ⟨part, more, rfl, .singleton spells⟩

end EntitySql
