import EntitySql.Conformance.Queries
import EntitySql.Query.Page

/-!
# Trials of windows

The window of a page starts after the pages before it, whichever way the dialect cuts windows out
of a query: for ordered, unordered and distinct queries.
-/

namespace EntitySql.Conformance

set_option autoImplicit false

/-- A window by its numbers. -/
structure Cut where
  offset : Nat
  size : Nat

namespace Cut

/-- The last row of the window. -/
def last (c : Cut) : Nat := c.offset + c.size

/-- The parameters that give the window. -/
def parameters (c : Cut) : List Value := [int64 c.size, int64 c.offset]

/-- How the text starts and ends when rows are numbered. -/
def isNumbered (c : Cut) (sql : String) : Bool :=
  sql.startsWith ("SELECT TOP " ++ toString c.size ++ " * FROM (") &&
    sql.endsWith (") p_ WHERE rn_ > " ++ toString c.offset ++ " ORDER BY rn_")

/-- How the text ends when the rows of an ordered query are cut by their pseudo number. -/
def orderedEnd (c : Cut) : String :=
  ") o_) WHERE rn_ > " ++ toString c.offset ++ " AND rn_ <= " ++ toString c.last

/-- How the text ends when the rows of an unordered query are cut by their pseudo number. -/
def unorderedEnd (c : Cut) : String :=
  " WHERE ROWNUM <= " ++ toString c.last ++ ") WHERE rn_ > " ++ toString c.offset

end Cut

/-- The window of a page, which must have these numbers. -/
def pageWindow (page size : Nat) : Trial PageWindow := do
  let w := (PageRequest.ofPage (α := Unit) (saturate (page + 1)) (saturate size)).window
  ensure "the pages before are passed over" (w.offset.toNat == page * size)
  ensure "the window has the size of the page" (w.size.toNat == size)
  return w

/-- Goes through pages of several sizes. -/
def eachPage (f : Cut → PageWindow → Trial Unit) : Trial Unit :=
  for size in [1, 10, 25] do
    for page in [0, 1, 2, 3] do
      let w ← pageWindow page size
      f ⟨page * size, size⟩ w

/-- The window of an ordered query. -/
def orderedTrial (d : Dialect) (q : Query) : Trial Unit :=
  eachPage fun cut w => do
    let s ← select d q (some w)
    match d.pagination with
    | .limitOffset => do
      ensure "the window is limited" (occurs " LIMIT " s.sql)
      ensure "the parameters give the window"
        (Value.allEqual ((values s).drop 3) cut.parameters)
    | .rowNumber => do
      ensure "the rows are numbered" (cut.isNumbered s.sql)
      ensure "the window has no parameters" (s.parameters.length == 3)
    | .pseudoRowNumber => do
      ensure "the rows are cut by number" (s.sql.endsWith cut.orderedEnd)
      ensure "the window has no parameters" (s.parameters.length == 3)

/-- The window of an unordered query, and of distinct ones. -/
def unorderedTrial (d : Dialect) (unordered cities citiesOrdered : Query) : Trial Unit :=
  eachPage fun cut w => do
    let plain ← select d unordered (some w)
    let distinct ← select d cities (some w)
    let ordered ← select d citiesOrdered (some w)
    match d.pagination with
    | .limitOffset => do
      ensure "the parameters give the window"
        (Value.allEqual ((values plain).drop 3) cut.parameters)
      for s in [distinct, ordered] do
        ensure "the query is distinct" (s.sql.startsWith "SELECT DISTINCT CITY FROM USERS")
        ensure "the parameters give the window" (Value.allEqual (values s) cut.parameters)
    | .rowNumber => do
      for s in [plain, distinct, ordered] do
        ensure "the rows are numbered" (cut.isNumbered s.sql)
      ensure "rows without order are numbered anyhow"
        (occurs "ROW_NUMBER() OVER(ORDER BY (SELECT 0)) AS rn_ FROM USERS" plain.sql)
      ensure "the window has no parameters" (plain.parameters.length == 3)
      ensure "distinct rows are numbered afterwards"
        (occurs
          ("SELECT d_.*, ROW_NUMBER() OVER(ORDER BY (SELECT 0)) AS rn_ " ++
            "FROM (SELECT DISTINCT CITY FROM USERS) d_)")
          distinct.sql)
      ensure "distinct rows are numbered in their order"
        (occurs
          ("SELECT d_.*, ROW_NUMBER() OVER(ORDER BY CITY ASC) AS rn_ " ++
            "FROM (SELECT DISTINCT CITY FROM USERS) d_)")
          ordered.sql)
    | .pseudoRowNumber => do
      let wrapper := "SELECT * FROM (SELECT b_.*, ROWNUM AS rn_ FROM ("
      ensure "rows without order are cut twice"
        (plain.sql.startsWith wrapper && plain.sql.endsWith ("b_" ++ cut.unorderedEnd))
      ensure "the window has no parameters" (plain.parameters.length == 3)
      ensure "distinct rows are cut twice"
        (distinct.sql == wrapper ++ "SELECT DISTINCT CITY FROM USERS) b_" ++ cut.unorderedEnd)
      ensure "distinct rows in order are cut by number"
        (ordered.sql == "SELECT * FROM (SELECT o_.*, ROWNUM AS rn_ FROM " ++
          "(SELECT DISTINCT CITY FROM USERS ORDER BY CITY ASC" ++ cut.orderedEnd)

/-- Without a window the query is written as it is; a count has no order. -/
def wholeTrial (d : Dialect) (q : Query) : Trial Unit := do
  ensure "an offset wins over the page"
    ((PageRequest.ofOffset (α := Unit) 7 5).window.offset == 7)
  let s ← select d q none
  ensure "the order comes last" (s.sql.endsWith "ORDER BY NAME ASC")
  let s ← count d q
  ensure "rows are counted" (s.sql.startsWith "SELECT COUNT(*) FROM ")
  ensure "a count has no order" (!occurs "ORDER BY" s.sql)
  ensure "a count has the parameters of the query" (s.parameters.length == 3)

/-- The trials of windows. -/
def windowTrials (d : Dialect) : Trial Unit := do
  let user ← require userSchema
  let q := (adults 0 user).addOrderBy [ascending "name"]
  let cities : Query := { (Query.ofSchema 0 user).select [.ofName "city"] with distinct := true }
  orderedTrial d q
  unorderedTrial d (adults 0 user) cities (cities.addOrderBy [ascending "city"])
  wholeTrial d q

end EntitySql.Conformance
