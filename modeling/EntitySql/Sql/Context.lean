import EntitySql.Sql.Fragment
import EntitySql.Sql.Scope

/-!
# Writing into a text

A statement is written into a text from left to right. The parameters it binds are collected apart
from the text, in a context that also holds the tables in scope. Nothing but the order of writing
ties the two together: a placeholder stands where the text has come to, and it is numbered by how
many parameters have been collected.

**Texts on the side.** Conditions and the orders of window functions are written into texts of their
own, which are put into the statement afterwards or left out. Their parameters are collected at
once.

**Nested queries** have a context of their own. It takes over the parameters collected so far and
gives them back when the query has been written.

**Separators.** Whether the member before has written something is told from the length of the text.
-/

namespace EntitySql

set_option autoImplicit false

/-- What is known while a statement is written: the tables in scope and the parameters so far. -/
structure Context where
  scope : Scope
  parameters : List Pair

namespace Context

/-- The context of a query inside the one being written, which takes over the parameters, and what
it leaves of the outer one. -/
def nested (c : Context) (q : Query) : Except Error (Context × Context) :=
  (c.scope.inside q).map fun inner => (⟨inner, c.parameters⟩, { c with parameters := [] })

/-- A context with the parameters that a nested one gives back. -/
def leave (c inner : Context) : Context := { c with parameters := inner.parameters }

end Context

/-- A statement being written. -/
structure Draft where
  context : Context
  text : String

/-- What writes a part of a statement. -/
abbrev Writer := StateT Draft (Except Error)

namespace Writer

/-- Writes a text. -/
def push (s : String) : Writer Unit := modify fun draft => { draft with text := draft.text ++ s }

/-- Collects a parameter and writes its placeholder. -/
def parameter (d : Dialect) (p : Pair) : Writer Unit := do
  modify fun draft => { draft with context.parameters := draft.context.parameters ++ [p] }
  push (d.placeholder (← get).context.parameters.length)

/-- The tables in scope. -/
def scope : Writer Scope := return (← get).context.scope

/-- What a part writes, as a text of its own. -/
def aside (w : Writer Unit) : Writer String := do
  let before ← get
  set { before with text := "" }
  w
  let after ← get
  set { after with text := before.text }
  return after.text

/-- Writes a nested query in a context of its own. -/
def inside (q : Query) (w : Writer Unit) : Writer Unit := do
  let before ← get
  let (inner, outer) ← before.context.nested q
  set { before with context := inner }
  w
  let after ← get
  set { after with context := outer.leave after.context }

/-- Writes columns without their qualifiers. -/
def unqualified (w : Writer Unit) : Writer Unit := do
  let qualify := (← scope).qualify
  modify fun draft => { draft with context.scope.qualify := false }
  w
  modify fun draft => { draft with context.scope.qualify := qualify }

/-- Writes the members, with a separator before each one that finds the text longer than it was
before the member in front of it. -/
def separatedFrom (separator : String) (length : Nat) : List (Writer Unit) → Writer Unit
  | [] => pure ()
  | w :: rest => do
    let before ← get
    push (if length < before.text.utf8ByteSize then separator else "")
    let after ← get
    w
    separatedFrom separator after.text.utf8ByteSize rest

/-- Writes the members with separators between them. -/
def separated (separator : String) (members : List (Writer Unit)) : Writer Unit := do
  let before ← get
  separatedFrom separator before.text.utf8ByteSize members

end Writer

end EntitySql
