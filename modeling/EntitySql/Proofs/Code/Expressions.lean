import EntitySql.Declaration.Descriptor
import EntitySql.Proofs.Declaration.Lists

/-!
# Expressions

The expressions that values are written by are literals, paths of names, and paths called with
arguments between round brackets. An expression is read from the tokens that spell it, whatever may
follow an argument (`Expression.read?_append`); so tokens spell one expression at most
(`Expression.eq_of_tokens`).
-/

namespace EntitySql.Code

set_option autoImplicit false

/-- A literal, a path, or what a path is called with. -/
inductive Expression where
  | literal (written : String)
  | path (path : CodePath)
  | call (function : CodePath) (arguments : List Expression)

namespace Expression

mutual
/-- The tokens that spell the expression. -/
def tokens : Expression → List Token
  | literal written => [.literal written]
  | path p => p.tokens
  | call f arguments => f.tokens ++ argumentTokens (allTokens arguments)
  termination_by structural e => e

/-- The tokens that spell each of the expressions. -/
def allTokens : List Expression → List (List Token)
  | [] => []
  | e :: es => e.tokens :: allTokens es
  termination_by structural es => es
end

mutual
/-- The paths of the expression are made of names alone. -/
def IsWritten : Expression → Prop
  | literal _ => True
  | path p => p.IsBare
  | call f arguments => f.IsBare ∧ AreWritten arguments
  termination_by structural e => e

/-- So are the paths of all the expressions. -/
def AreWritten : List Expression → Prop
  | [] => True
  | e :: es => e.IsWritten ∧ AreWritten es
  termination_by structural es => es
end

/-! ## Reading -/

mutual
/-- An expression from the front of the tokens, and what follows it; calls are nested at most `fuel`
deep. -/
def read? : Nat → List Token → Option (Expression × List Token)
  | 0, _ => none
  | _ + 1, .literal written :: more => some (literal written, more)
  | fuel + 1, ts =>
    match readPath? ts with
    | some (f, .opening .round :: inside) =>
      (readAll? fuel inside).map fun (arguments, more) => (call f arguments, more)
    | some (p, more) => some (path p, more)
    | none => none

/-- The arguments up to the bracket that closes them, and what follows it. -/
def readAll? : Nat → List Token → Option (List Expression × List Token)
  | 0, _ => none
  | _ + 1, .closing .round :: more => some ([], more)
  | fuel + 1, ts =>
    match read? fuel ts with
    | some (e, .closing .round :: more) => some ([e], more)
    | some (e, .mark "," :: others) =>
      (readAll? fuel others).map fun (es, more) => (e :: es, more)
    | _ => none
end

/-- The expression before the tokens does not go on with them. -/
def Stops (more : List Token) : Prop := ∀ t ∈ more.head?, endsPart t = true

variable {more : List Token}

theorem stops_nil : Stops [] := by
  rintro _ ⟨⟩

theorem stops_cons {t : Token} (ends : endsPart t = true) : Stops (t :: more) := by
  rintro _ ⟨⟩
  exact ends

theorem Stops.ne_mark (stops : Stops more) (rest : List Token) : more ≠ .mark "::" :: rest := by
  rintro rfl
  exact absurd (stops _ rfl) (by decide)

theorem Stops.ne_opening (stops : Stops more) (rest : List Token) :
    more ≠ .opening .round :: rest := by
  rintro rfl
  exact absurd (stops _ rfl) (by decide)

/-- A path starts with a name or at the root. -/
theorem exists_tokens_of_isBare {p : CodePath} (bare : p.IsBare) :
    ∃ t rest, p.tokens = t :: rest ∧ (t = .mark "::" ∨ ∃ name, t = .word name) := by
  obtain ⟨rooted, segments⟩ := p
  obtain ⟨s, segments, rfl⟩ := List.exists_cons_of_ne_nil bare.1
  cases rooted with
  | true => exact ⟨_, _, rfl, .inl rfl⟩
  | false =>
    obtain ⟨rest, starts⟩ := exists_segmentTokens_cons s segments
    exact ⟨_, rest, starts, .inr ⟨s.name, rfl⟩⟩

/-- No expression starts with a closing bracket. -/
theorem exists_tokens_cons {e : Expression} (written : e.IsWritten) :
    ∃ t rest, e.tokens = t :: rest ∧ t ≠ .closing .round := by
  have ofPath {p : CodePath} (bare : p.IsBare) (behind : List Token) :
      ∃ t rest, p.tokens ++ behind = t :: rest ∧ t ≠ .closing .round := by
    obtain ⟨t, rest, starts, kind⟩ := exists_tokens_of_isBare bare
    refine ⟨t, rest ++ behind, by rw [starts]; rfl, ?_⟩
    rcases kind with rfl | ⟨name, rfl⟩ <;> exact nofun
  cases e with
  | literal w => exact ⟨_, _, rfl, nofun⟩
  | path p =>
    have starts := ofPath written []
    rwa [List.append_nil] at starts
  | call f arguments => exact ofPath written.1 _

/-- What is no literal starts with a path. -/
theorem read?_of_isBare {p : CodePath} (bare : p.IsBare) (fuel : Nat) (ts : List Token) :
    read? (fuel + 1) (p.tokens ++ ts) =
      match readPath? (p.tokens ++ ts) with
      | some (f, .opening .round :: inside) =>
        (readAll? fuel inside).map fun (arguments, more) => (call f arguments, more)
      | some (p, more) => some (path p, more)
      | none => none := by
  obtain ⟨t, rest, starts, kind⟩ := exists_tokens_of_isBare bare
  rw [starts]
  rcases kind with rfl | ⟨name, rfl⟩ <;> rfl

/-- Arguments go on as long as there is an expression and not the closing bracket. -/
theorem readAll?_of_read? {e : Expression} (written : e.IsWritten) (fuel : Nat) (ts : List Token) :
    readAll? (fuel + 1) (e.tokens ++ ts) =
      match read? fuel (e.tokens ++ ts) with
      | some (e, .closing .round :: more) => some ([e], more)
      | some (e, .mark "," :: others) =>
        (readAll? fuel others).map fun (es, more) => (e :: es, more)
      | _ => none := by
  obtain ⟨t, rest, starts, other⟩ := exists_tokens_cons written
  rw [starts]
  show readAll? (fuel + 1) (t :: (rest ++ ts)) = _
  rw [readAll?]
  · rfl
  · rintro more same
    cases same
    exact other rfl

theorem length_pos {e : Expression} (written : e.IsWritten) : 0 < e.tokens.length := by
  obtain ⟨t, rest, starts, -⟩ := exists_tokens_cons written
  rw [starts, List.length_cons]
  exact Nat.succ_pos _

mutual
/-- **An expression is read from the tokens that spell it.** -/
theorem read?_append : ∀ (e : Expression) {fuel : Nat} {more : List Token}, e.IsWritten →
    Stops more → e.tokens.length < fuel → read? fuel (e.tokens ++ more) = some (e, more)
  | _, 0, _, _, _, enough => absurd enough (Nat.not_lt_zero _)
  | literal w, fuel + 1, more, _, _, _ => rfl
  | path p, fuel + 1, more, written, stops, _ => by
    rw [tokens, read?_of_isBare written, readPath?_append written stops.ne_mark]
    dsimp only
    split
    · next same =>
      cases same
      exact absurd rfl (stops.ne_opening _)
    · next same =>
      cases same
      rfl
    · next same => cases same
  | call f es, fuel + 1, more, written, _, enough => by
    have inside : readAll? fuel ([Token.mark ","].intercalate (allTokens es) ++
        .closing .round :: more) = some (es, more) := by
      refine readAll?_append es written.2 ?_
      simp only [tokens, argumentTokens, enclosed, List.length_append, List.length_cons] at enough
      omega
    have spelled : (call f es).tokens ++ more = f.tokens ++ (.opening .round ::
        ([Token.mark ","].intercalate (allTokens es) ++ .closing .round :: more)) := by
      simp only [tokens, argumentTokens, enclosed, List.append_assoc, List.cons_append,
        List.nil_append]
    rw [spelled, read?_of_isBare written.1, readPath?_append written.1 (by rintro _ ⟨⟩)]
    dsimp only
    rw [inside]
    rfl

/-- Arguments are read up to the bracket that closes them. -/
theorem readAll?_append : ∀ (es : List Expression) {fuel : Nat} {more : List Token},
    AreWritten es → ([Token.mark ","].intercalate (allTokens es)).length + 1 < fuel →
      readAll? fuel ([Token.mark ","].intercalate (allTokens es) ++ .closing .round :: more) =
        some (es, more)
  | _, 0, _, _, enough => absurd enough (Nat.not_lt_zero _)
  | [], fuel + 1, more, _, _ => rfl
  | [e], fuel + 1, more, written, enough => by
    have single : [Token.mark ","].intercalate (allTokens [e]) = e.tokens := by
      simp [allTokens]
    rw [single] at enough ⊢
    rw [readAll?_of_read? written.1, read?_append e written.1 (stops_cons rfl) (by omega)]
  | e :: e' :: es, fuel + 1, more, written, enough => by
    have several : [Token.mark ","].intercalate (allTokens (e :: e' :: es)) =
        e.tokens ++ .mark "," :: [Token.mark ","].intercalate (allTokens (e' :: es)) := by
      simp [allTokens, List.intercalate_cons_cons]
    have positive := length_pos written.1
    rw [several] at enough ⊢
    rw [List.length_append, List.length_cons] at enough
    rw [List.append_assoc, List.cons_append, readAll?_of_read? written.1,
      read?_append e written.1 (stops_cons rfl) (by omega)]
    show (readAll? fuel _).map _ = _
    rw [readAll?_append (e' :: es) written.2 (by omega)]
    rfl
end

/-- **Tokens spell one expression at most.** -/
theorem eq_of_tokens {e e' : Expression} (written : e.IsWritten) (written' : e'.IsWritten)
    (same : e.tokens = e'.tokens) : e = e' := by
  have read := read?_append e written stops_nil (Nat.lt_succ_self _)
  have read' := read?_append e' written' stops_nil (Nat.lt_succ_self _)
  rw [same, read'] at read
  cases read
  rfl

end Expression

end EntitySql.Code
