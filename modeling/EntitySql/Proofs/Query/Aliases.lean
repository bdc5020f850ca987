import Mathlib.Data.List.Nodup
import Mathlib.Data.List.Perm.Subperm
import EntitySql.Catalog.Samples
import EntitySql.Proofs.Outcome
import EntitySql.Query.Pools

/-!
# Aliases of queries that share a pool

A query and the queries nested in it are asked for tables in any order. Whatever is asked for, no
two tables get one alias (`AliasPools.run_aliases`). An alias that is asked for is given unless it
is taken; an alias that is made up is the letter of the table and the least number that is free
behind it. Of one number more than there are aliases one is free, so the search ends there at the
latest.

A failed request takes no alias. The schema of an entity is looked up first: without one the
request fails before its alias is looked at.
-/

namespace EntitySql

set_option autoImplicit false

open Outcome

/-! ## One pool -/

namespace AliasPool

theorem place_perm (name : String) (taken : List String) :
    (place name taken).Perm (name :: taken) := by
  induction taken with
  | nil => exact .refl _
  | cons first rest ih =>
    rw [place]
    split
    · exact (ih.cons first).trans (.swap _ _ _)
    · exact .refl _

/-- After an alias is taken, it and the aliases from before are. -/
theorem contains_add (p : AliasPool) (name other : String) :
    (p.add name).contains other = true ↔ other = name ∨ p.contains other = true := by
  simp only [contains, add, List.contains_iff_mem, (place_perm name p.taken).mem_iff,
    List.mem_cons]

theorem nodup_add {p : AliasPool} {name : String} (distinct : p.taken.Nodup)
    (free : p.contains name = false) : (p.add name).taken.Nodup := by
  have absent : name ∉ p.taken := by simpa [contains] using free
  exact (place_perm name p.taken).nodup_iff.2 (List.nodup_cons.2 ⟨absent, distinct⟩)

/-- Different numbers behind a letter are different aliases. -/
theorem numbered_inj {letter : Char} {m n : Nat} (h : numbered letter m = numbered letter n) :
    m = n := by
  have digits := List.tail_eq_of_cons_eq (String.ofList_inj.1 h)
  have numbers := congrArg (fun ds => Nat.ofDigitChars 10 ds 0) digits
  simpa [Nat.toString_eq_ofList_toDigits] using numbers

/-- Of one number more than there are aliases, one is free. -/
theorem exists_free (p : AliasPool) (letter : Char) :
    ∃ n ≤ p.taken.length, p.contains (numbered letter n) = false := by
  -- Otherwise the numbered names are one more than the names taken, and all among them.
  by_contra full
  push Not at full
  have distinct : ((List.range (p.taken.length + 1)).map (numbered letter)).Nodup :=
    List.nodup_range.map fun _ _ same => numbered_inj same
  have among : (List.range (p.taken.length + 1)).map (numbered letter) ⊆ p.taken := by
    intro name member
    obtain ⟨n, small, rfl⟩ := List.mem_map.1 member
    have taken := full n (Nat.lt_succ_iff.1 (List.mem_range.1 small))
    simpa [contains] using taken
  have few := (distinct.subperm among).length_le
  rw [List.length_map, List.length_range] at few
  omega

/-- **The number of a minted alias is the least free one,** and not above the number of aliases. -/
theorem leastFree_least (p : AliasPool) (letter : Char) :
    p.leastFree letter ≤ p.taken.length ∧
      p.contains (numbered letter (p.leastFree letter)) = false ∧
      ∀ m < p.leastFree letter, p.contains (numbered letter m) = true := by
  obtain ⟨n, small, free⟩ := p.exists_free letter
  unfold leastFree
  cases found : (List.range (p.taken.length + 1)).find? fun n =>
      !p.contains (numbered letter n) with
  | none =>
    have taken := List.find?_range_eq_none.1 found n (Nat.lt_succ_iff.2 small)
    simp [free] at taken
  | some least =>
    obtain ⟨isFree, bounded, below⟩ := List.find?_range_eq_some.1 found
    exact ⟨Nat.lt_succ_iff.1 (List.mem_range.1 bounded), by simpa using isFree,
      fun m smaller => by simpa using below m smaller⟩

/-- A table under a given alias: the alias is taken, or it was taken before. -/
theorem bind_some (p : AliasPool) (name : String) (letter : Char) (source : TableSource) :
    p.bind (some name) letter source =
      if p.contains name then .error (.aliasCollision name)
      else .ok (⟨name, source⟩, p.add name) := by
  rw [bind, reserve]
  split <;> rfl

/-- A table without a given alias gets the least free number behind its letter. -/
theorem bind_none (p : AliasPool) (letter : Char) (source : TableSource) :
    p.bind none letter source =
      .ok (⟨numbered letter (p.leastFree letter), source⟩,
        p.add (numbered letter (p.leastFree letter))) := rfl

/-- A table under an alias that was free, whichever way it was found. -/
theorem bind_eq_ok {p p' : AliasPool} {aliasName : Option String} {letter : Char}
    {source : TableSource} {t : Table} (h : p.bind aliasName letter source = .ok (t, p')) :
    p.contains t.aliasName = false ∧ p' = p.add t.aliasName := by
  cases aliasName with
  | some name =>
    rw [bind_some] at h
    split at h
    · cases h
    · rename_i free
      cases h
      exact ⟨by simpa using free, rfl⟩
  | none =>
    rw [bind_none] at h
    cases h
    exact ⟨(p.leastFree_least letter).2.1, rfl⟩

end AliasPool

/-! ## Requests -/

/-- What a table is wanted of. -/
inductive Wanted where
  | entity (e : Entity)
  | named (name : String)
  | subQuery (inner : Query)

namespace Wanted

/-- The source of the table; an entity needs a schema. -/
def source : Wanted → Except Error TableSource
  | entity e => e.schema.map .entity
  | named name => .ok (.named name)
  | subQuery inner => .ok (.subQuery inner)

/-- The letter of the aliases made up for the table: the first ASCII letter of the name of the
type or of the table. -/
def letter : Wanted → Char
  | entity e => AliasPool.initial e.typeName 'e'
  | named name => AliasPool.initial name 't'
  | subQuery _ => 'q'

/-- The table with an alias of a pool. -/
def bind (w : Wanted) (p : AliasPool) (aliasName : Option String) :
    Except Error (Table × AliasPool) :=
  match w with
  | entity e => do
    let s ← e.schema
    p.entityTable s aliasName
  | named name => p.namedTable name aliasName
  | subQuery inner => p.subQueryTable inner aliasName

theorem typeName_schema {e : Entity} {s : EntitySchema} (h : e.schema = .ok s) :
    s.typeName = e.typeName := by
  unfold Entity.schema EntitySchema.ofColumns at h
  split at h
  · cases h
  · split at h
    · cases h
    · cases h
      rfl

/-- Every kind of table is given its alias in one way, once its source is there. -/
theorem bind_eq (w : Wanted) (p : AliasPool) (aliasName : Option String) :
    w.bind p aliasName = w.source >>= fun source => p.bind aliasName w.letter source := by
  cases w with
  | entity e =>
    rw [bind, source]
    cases found : e.schema with
    | error fault => rfl
    | ok s =>
      show p.entityTable s aliasName = p.bind aliasName (AliasPool.initial e.typeName 'e') _
      rw [← typeName_schema found]
      rfl
  | named name => rfl
  | subQuery inner => rfl

end Wanted

/-- A request to a query: for a table, with an alias or without, or for a query inside. -/
inductive Request where
  | table (wanted : Wanted) (aliasName : Option String)
  | nested

/-- What a query gives. -/
inductive Given where
  | table (t : Table)
  | query (q : Query)

namespace Given

/-- The table given, if it is one. -/
def table? : Given → Option Table
  | table t => some t
  | query _ => none

end Given

namespace AliasPools

/-- A request to a query, answered from its pool. -/
def answer (ps : AliasPools) (q : Query) : Request → Except Error (Given × AliasPools)
  | .table wanted aliasName => do
    let (t, p) ← wanted.bind (ps.poolOf q) aliasName
    return (.table t, ps.withPoolOf q p)
  | .nested => .ok (.query q.nested, ps)

/-- What is given, request by request, to those that do not fail. -/
def given (ps : AliasPools) : List (Query × Request) → List Given
  | [] => []
  | (q, r) :: rest =>
    match ps.answer q r with
    | .ok (g, next) => g :: given next rest
    | .error _ => given ps rest

/-- The pools after requests. One that fails leaves them as they are. -/
def after (ps : AliasPools) : List (Query × Request) → AliasPools
  | [] => ps
  | (q, r) :: rest =>
    match ps.answer q r with
    | .ok (_, next) => after next rest
    | .error _ => after ps rest

/-- The aliases of the tables given. -/
def aliases (ps : AliasPools) (requests : List (Query × Request)) : List String :=
  ((ps.given requests).filterMap Given.table?).map Table.aliasName

variable {ps next : AliasPools} {q : Query} {r : Request}

theorem poolOf_withPoolOf {p : AliasPool} {other : Query} (isOpen : q.pool < ps.pools.length)
    (shared : other.pool = q.pool) : (ps.withPoolOf q p).poolOf other = p := by
  simp [poolOf, withPoolOf, shared, isOpen]

theorem poolOf_congr {other : Query} (shared : other.pool = q.pool) :
    ps.poolOf other = ps.poolOf q := by
  rw [poolOf, poolOf, shared]

/-- What an answer leaves: a query inside takes no alias, a table takes one that was free. -/
theorem answer_eq_ok {g : Given} (h : ps.answer q r = .ok (g, next)) :
    (g = .query q.nested ∧ next = ps) ∨
      ∃ t, g = .table t ∧ (ps.poolOf q).contains t.aliasName = false ∧
        next = ps.withPoolOf q ((ps.poolOf q).add t.aliasName) := by
  cases r with
  | nested =>
    cases h
    exact .inl ⟨rfl, rfl⟩
  | table wanted aliasName =>
    simp only [answer, Wanted.bind_eq, Outcome.bind_eq_ok, pure_eq_ok] at h
    obtain ⟨⟨t, p⟩, ⟨source, _, bound⟩, same⟩ := h
    cases same
    obtain ⟨free, rfl⟩ := AliasPool.bind_eq_ok bound
    exact .inr ⟨t, rfl, free, rfl⟩

/-- How a request is to be answered. An entity without schema has no table. An alias that is asked
for is refused exactly when it is taken; one that is made up is the letter with the least number
that is free, which is not above the number of aliases. -/
def Answers (ps : AliasPools) (q : Query) : Request → Prop
  | .nested => ps.answer q .nested = .ok (.query q.nested, ps) ∧ q.nested.pool = q.pool
  | .table wanted aliasName =>
    (∀ e, wanted.source = .error e → ps.answer q (.table wanted aliasName) = .error e) ∧
      ∀ source, wanted.source = .ok source →
        match aliasName with
        | some name =>
          (ps.answer q (.table wanted (some name)) = .error (.aliasCollision name) ↔
              (ps.poolOf q).contains name = true) ∧
            ((ps.poolOf q).contains name = false →
              ps.answer q (.table wanted (some name)) =
                .ok (.table ⟨name, source⟩, ps.withPoolOf q ((ps.poolOf q).add name)))
        | none =>
          ∃ n ≤ (ps.poolOf q).taken.length,
            ps.answer q (.table wanted none) =
                .ok (.table ⟨AliasPool.numbered wanted.letter n, source⟩,
                  ps.withPoolOf q ((ps.poolOf q).add (AliasPool.numbered wanted.letter n))) ∧
              (ps.poolOf q).contains (AliasPool.numbered wanted.letter n) = false ∧
              ∀ m < n, (ps.poolOf q).contains (AliasPool.numbered wanted.letter m) = true

/-- Every request is answered so, whatever was asked for before. -/
theorem answers (ps : AliasPools) (q : Query) (r : Request) : ps.Answers q r := by
  cases r with
  | nested => exact ⟨rfl, rfl⟩
  | table wanted aliasName =>
    constructor
    · intro e missing
      simp only [answer, Wanted.bind_eq, missing]
      rfl
    · intro source found
      have bound : ps.answer q (.table wanted aliasName) =
          ((ps.poolOf q).bind aliasName wanted.letter source).map fun (t, p) =>
            (.table t, ps.withPoolOf q p) := by
        simp only [answer, Wanted.bind_eq, found]
        rfl
      cases aliasName with
      | some name =>
        simp only [bound, AliasPool.bind_some]
        cases taken : (ps.poolOf q).contains name with
        | true => exact ⟨⟨fun _ => rfl, fun _ => rfl⟩, nofun⟩
        | false => exact ⟨⟨nofun, nofun⟩, fun _ => rfl⟩
      | none =>
        obtain ⟨small, free, below⟩ := (ps.poolOf q).leastFree_least wanted.letter
        exact ⟨_, small, bound, free, below⟩

/-! ## Sequences of requests -/

section Runs

variable {root : Query} {requests : List (Query × Request)}

/-- What one request keeps: the pool stays open and without repetition, and an alias that is given
was free and is taken afterwards, besides those taken before. -/
theorem answer_keeps {g : Given} (h : ps.answer q r = .ok (g, next)) (shared : q.pool = root.pool)
    (isOpen : root.pool < ps.pools.length) (distinct : (ps.poolOf root).taken.Nodup) :
    root.pool < next.pools.length ∧ (next.poolOf root).taken.Nodup ∧
      (∀ name, (next.poolOf root).contains name = true ↔
        name ∈ (g.table?.map Table.aliasName).toList ∨ (ps.poolOf root).contains name = true) ∧
      ∀ t, g = .table t → (ps.poolOf root).contains t.aliasName = false := by
  rcases answer_eq_ok h with ⟨rfl, rfl⟩ | ⟨t, rfl, free, rfl⟩
  · exact ⟨isOpen, distinct, fun name => by simp [Given.table?], nofun⟩
  · rw [← poolOf_congr shared.symm] at free
    have replaced : (ps.withPoolOf q ((ps.poolOf q).add t.aliasName)).poolOf root =
        (ps.poolOf root).add t.aliasName := by
      rw [poolOf_withPoolOf (shared ▸ isOpen) shared.symm, poolOf_congr shared]
    refine ⟨by simpa [withPoolOf] using isOpen, ?_, ?_, ?_⟩
    · rw [replaced]
      exact AliasPool.nodup_add distinct free
    · intro name
      rw [replaced, AliasPool.contains_add]
      simp [Given.table?]
    · rintro _ ⟨⟩
      exact free

/-- **What a whole sequence keeps,** by induction on it: the aliases given are distinct and were
free in the beginning, and in the end they are taken, besides those taken before. -/
theorem aliases_distinct (shared : ∀ request ∈ requests, request.1.pool = root.pool)
    (isOpen : root.pool < ps.pools.length) (distinct : (ps.poolOf root).taken.Nodup) :
    (ps.aliases requests).Nodup ∧
      (∀ name ∈ ps.aliases requests, (ps.poolOf root).contains name = false) ∧
      root.pool < (ps.after requests).pools.length ∧
      ((ps.after requests).poolOf root).taken.Nodup ∧
      ∀ name, ((ps.after requests).poolOf root).contains name = true ↔
        name ∈ ps.aliases requests ∨ (ps.poolOf root).contains name = true := by
  induction requests generalizing ps with
  | nil => exact ⟨.nil, nofun, isOpen, distinct, fun name => by simp [aliases, given, after]⟩
  | cons request rest ih =>
    obtain ⟨q, r⟩ := request
    have sharedRest := fun request member => shared request (List.mem_cons_of_mem _ member)
    cases answered : ps.answer q r with
    | error e =>
      have same : ps.aliases ((q, r) :: rest) = ps.aliases rest := by
        simp [aliases, given, answered]
      have unchanged : ps.after ((q, r) :: rest) = ps.after rest := by simp [after, answered]
      rw [same, unchanged]
      exact ih sharedRest isOpen distinct
    | ok result =>
      obtain ⟨g, next⟩ := result
      have sharedFirst := shared (q, r) List.mem_cons_self
      obtain ⟨stillOpen, stillDistinct, taken, wasFree⟩ :=
        answer_keeps answered sharedFirst isOpen distinct
      obtain ⟨nodup, free, openLater, distinctLater, takenLater⟩ :=
        ih sharedRest stillOpen stillDistinct
      have split : ps.aliases ((q, r) :: rest) =
          (g.table?.map Table.aliasName).toList ++ next.aliases rest := by
        simp only [aliases, given, answered, List.filterMap_cons]
        cases g.table? <;> rfl
      have follow : ps.after ((q, r) :: rest) = next.after rest := by simp [after, answered]
      rw [split, follow]
      refine ⟨?_, ?_, openLater, distinctLater, ?_⟩
      · refine List.nodup_append.2 ⟨by cases g <;> simp [Given.table?], nodup, ?_⟩
        rintro name first _ later rfl
        have isTaken := (taken name).2 (.inl first)
        rw [free name later] at isTaken
        cases isTaken
      · intro name member
        rcases List.mem_append.1 member with first | later
        · cases g with
          | query inner => cases first
          | table t =>
            cases List.mem_singleton.1 first
            exact wasFree t rfl
        · have notTaken := free name later
          rw [← Bool.not_eq_true, taken name] at notTaken
          simpa using fun before => notTaken (.inr before)
      · intro name
        rw [takenLater name, taken name, List.mem_append]
        tauto

/-- A failed request takes no alias. -/
theorem after_of_error {e : Error} (h : (ps.after requests).answer q r = .error e) :
    ps.after (requests ++ [(q, r)]) = ps.after requests := by
  induction requests generalizing ps with
  | nil =>
    have failed : ps.answer q r = .error e := h
    simp only [List.nil_append, after, failed]
  | cons request rest ih =>
    obtain ⟨first, wanted⟩ := request
    rw [List.cons_append, after, after]
    rw [after] at h
    split at h
    · exact ih h
    · exact ih h

/-- **Queries that share a pool give every table an alias of its own.** Requests to them in any
order and number give tables with distinct aliases, none of which was taken before. Each one is
answered as the aliases demand that are taken by then, without repetition; if it fails, no alias
is taken. -/
theorem run_aliases (isOpen : root.pool < ps.pools.length)
    (distinct : (ps.poolOf root).taken.Nodup)
    (shared : ∀ request ∈ requests, request.1.pool = root.pool) :
    (ps.aliases requests).Nodup ∧
      (∀ name ∈ ps.aliases requests, (ps.poolOf root).contains name = false) ∧
      ∀ before q r later, requests = before ++ (q, r) :: later →
        (ps.after before).Answers q r ∧ ((ps.after before).poolOf q).taken.Nodup ∧
          (∀ name, ((ps.after before).poolOf q).contains name = true ↔
            name ∈ ps.aliases before ∨ (ps.poolOf root).contains name = true) ∧
          ∀ e, (ps.after before).answer q r = .error e →
            ps.after (before ++ [(q, r)]) = ps.after before := by
  obtain ⟨nodup, free, _⟩ := aliases_distinct shared isOpen distinct
  refine ⟨nodup, free, ?_⟩
  rintro before q r later rfl
  have sharedBefore := fun request member => shared request (List.mem_append_left _ member)
  have sharedHere : q.pool = root.pool :=
    shared (q, r) (List.mem_append_right _ List.mem_cons_self)
  obtain ⟨_, _, _, distinctThen, takenThen⟩ := aliases_distinct sharedBefore isOpen distinct
  rw [poolOf_congr sharedHere]
  exact ⟨answers _ q r, distinctThen, takenThen, fun e => after_of_error⟩

end Runs

/-- A query, and requests to it and to a query inside it: a name starts without a letter, an alias
is asked for twice, and both queries ask for users. -/
def requestsSample : List (Query × Request) :=
  let root := Query.empty 0
  [(root, .table (.named "USERS") none), (root, .table (.named "1_table") none),
    (root, .table (.named "ITEMS") (some "u0")), (root, .nested),
    (root.nested, .table (.named "UNITS") none),
    (root.nested, .table (.subQuery (Query.empty 1)) none),
    (root, .table (.named "ITEMS") (some "u2")), (root.nested, .table (.named "USERS") none)]

theorem run_aliases_requestsSample :
    0 < empty.opened.pools.length ∧ (empty.opened.poolOf (.empty 0)).taken.Nodup ∧
      (∀ request ∈ requestsSample, request.1.pool = 0) ∧
      empty.opened.aliases requestsSample = ["u0", "t0", "u1", "q0", "u2", "u3"] ∧
      (empty.opened.aliases requestsSample).Nodup ∧
      (empty.opened.after (requestsSample.take 2)).Answers (.empty 0)
        (.table (.named "ITEMS") (some "u0")) := by
  have shared : ∀ request ∈ requestsSample, request.1.pool = (Query.empty 0).pool := by
    simp [requestsSample, Query.nested, Query.empty]
  have isOpen : (Query.empty 0).pool < empty.opened.pools.length := by decide
  have distinct : (empty.opened.poolOf (.empty 0)).taken.Nodup := by decide
  obtain ⟨nodup, _, each⟩ := run_aliases isOpen distinct shared
  obtain ⟨answered, _⟩ := each (requestsSample.take 2) (.empty 0)
    (.table (.named "ITEMS") (some "u0")) (requestsSample.drop 3) rfl
  exact ⟨isOpen, distinct, shared, by decide +kernel, nodup, answered⟩

/-- An entity without columns has no table under an alias that is taken either, but the request
fails with the fault of its schema and not because of the alias. -/
theorem run_aliases_emptyEntity :
    let ps := empty.opened.after [(.empty 0, .table (.named "USERS") none)]
    let request := Request.table (.entity Catalog.emptyEntity.toEntity) (some "u0")
    (ps.poolOf (.empty 0)).contains "u0" = true ∧
      ps.answer (.empty 0) request = .error (.schema (.noColumns "Empty")) ∧
      ¬(ps.answer (.empty 0) request = .error (.aliasCollision "u0") ↔
        (ps.poolOf (.empty 0)).contains "u0" = true) := by
  have taken : ((empty.opened.after [(.empty 0, .table (.named "USERS") none)]).poolOf
      (.empty 0)).contains "u0" = true := by decide +kernel
  refine ⟨taken, rfl, fun same => ?_⟩
  cases same.2 taken

end AliasPools

end EntitySql
