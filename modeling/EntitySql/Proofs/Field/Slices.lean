import EntitySql.Proofs.Field.Integers
import EntitySql.Proofs.Marshal.Aborts
import EntitySql.Proofs.Text.Bytes
import EntitySql.Proofs.Text.IgnoringCase

/-!
# What a reading does to its slice

Readings that share one slice rely on two things. A reading that fails has not touched the slice, so
another one can be tried; a reading that succeeds has taken a part of the text that it would read
the same without what follows (`Primitive.take_leaves`).

The bytes that a reading counts always end between two characters: the characters accepted at the
start are a first part of the text (`cutWhile_eq`), and so are the digits that are missing behind a
number (`Primitive.on_takeNumber`). A mark of two bytes is the one cut at a fixed place, and it ends
the work where it would split a character (`Primitive.behindMark_eq`). So the work on a slice is the
reading of its text (`Primitive.on_take`), for which only the parts of texts matter
(`Primitive.scan_taken`).
-/

namespace EntitySql

set_option autoImplicit false

open Text

/-! ## Work on a slice, step by step -/

namespace SliceM

variable {α β : Type} {slice : String}

@[simp] theorem on_get : (get : SliceM String).on slice = (.ok slice, slice) := rfl

@[simp] theorem on_set (left : String) : (set left : SliceM Unit).on slice = (.ok (), left) := rfl

@[simp] theorem on_pure (a : α) : (pure a : SliceM α).on slice = (.ok a, slice) := rfl

@[simp] theorem on_throw (e : Error) : (throw e : SliceM α).on slice = (.error e, slice) := rfl

@[simp] theorem on_ofExcept (outcome : Except Error α) :
    (MonadExcept.ofExcept outcome : SliceM α).on slice = (outcome, slice) := by
  cases outcome <;> rfl

/-- What follows a step works on the slice that the step leaves; nothing follows a failure. -/
@[simp] theorem on_bind (work : SliceM α) (next : α → SliceM β) :
    (work >>= next).on slice = match work.on slice with
      | (.ok a, left) => (next a).on left
      | (.error e, left) => (.error e, left) := by
  show (ExceptT.bind work next) slice = match work slice with
      | (.ok a, left) => (next a) left
      | (.error e, left) => (.error e, left)
  rcases done : work slice with ⟨_ | _, _⟩ <;>
    simp [ExceptT.bind, ExceptT.mk, ExceptT.bindCont, Bind.bind, StateT.bind, done, Pure.pure,
      StateT.pure]

@[simp] theorem on_ite {c : Prop} [Decidable c] (yes no : SliceM α) :
    (if c then yes else no).on slice = if c then yes.on slice else no.on slice := by
  split <;> rfl

/-- The outcome of a reading that moves the slice only if it succeeds, and the slice afterwards. -/
def settled (slice : String) : Except Error (α × String) → Except Error α × String
  | .ok (a, left) => (.ok a, left)
  | .error e => (.error e, slice)

end SliceM

/-! ## Characters that are accepted -/

section Accepted

variable {σ : Type} {accepts : σ → Char → Bool × σ} {start : σ} {s : String}

theorem cutWhile_eq {taken rest : List Char} (parts : s.toList = taken ++ rest)
    (accepted : acceptedWhile accepts start s.toList = taken) :
    cutWhile accepts start s = .ok (String.ofList taken, String.ofList rest) := by
  rw [cutWhile, accepted, cut, parts, splitBytes?_append]

/-- Where the state stays, the characters of a class are accepted. -/
theorem acceptedWhile_of_class {inClass : Char → Bool}
    (stays : ∀ c, accepts start c = (inClass c, start)) (cs : List Char) :
    acceptedWhile accepts start cs = cs.takeWhile inClass := by
  induction cs with
  | nil => rfl
  | cons c cs ih =>
    rw [acceptedWhile, stays, List.takeWhile_cons]
    dsimp only
    rw [ih]

theorem cutWhile_of_class (inClass : Char → Bool)
    (stays : ∀ c, accepts start c = (inClass c, start)) :
    cutWhile accepts start s = .ok (String.ofList (s.toList.takeWhile inClass),
      String.ofList (s.toList.dropWhile inClass)) :=
  cutWhile_eq List.takeWhile_append_dropWhile.symm (acceptedWhile_of_class stays _)

end Accepted

namespace Primitive

variable {s : String}

/-- A type whose conversion never cuts a character is read as it is scanned. -/
theorem settled_extract {p : Primitive} (whole : p.cuts s.toList = false) :
    SliceM.settled s (p.extract s) = match p.scan s.toList with
      | some (member, rest) => (.ok member, String.ofList rest)
      | none => (.error (.ofText s p.name), s) := by
  rw [extract, whole]
  rcases p.scan s.toList with _ | ⟨member, rest⟩ <;> rfl

theorem on_takeChar : takeChar.on s = SliceM.settled s (char.extract s) := by
  rw [settled_extract rfl, takeChar]
  simp only [SliceM.on_bind, SliceM.on_get]
  cases s.toList <;> rfl

theorem on_takeText : takeText.on s = SliceM.settled s (text.extract s) := by
  rw [settled_extract rfl]
  show (Except.ok s, "") = (Except.ok (String.ofList s.toList), "")
  rw [String.ofList_toList]

/-- A character without case is the text itself. -/
theorem lowerAscii_eq_singleton {c : Char} (noLetter : c.isAlpha = false) {word : String} :
    lowerAscii word = String.singleton c ↔ word = String.singleton c := by
  rw [← String.toList_inj, ← String.toList_inj, toList_lowerAscii, String.toList_singleton,
    List.map_eq_singleton_iff]
  simp only [toLower_eq_iff noLetter, exists_eq_right]

/-- The words for a truth value are told by the lower case of their letters. -/
theorem means_iff (word long short : String) (c : Char) (noLetter : c.isAlpha = false)
    (lowerLong : lowerAscii long = long) (lowerShort : lowerAscii short = short) :
    (eqIgnoringCase word long || eqIgnoringCase word short || word == String.singleton c) = true ↔
      lowerAscii word = long ∨ lowerAscii word = short ∨ lowerAscii word = String.singleton c := by
  rw [Bool.or_eq_true, Bool.or_eq_true, eqIgnoringCase_iff, eqIgnoringCase_iff, beq_iff_eq,
    lowerAscii_eq_singleton noLetter, lowerLong, lowerShort, or_assoc]

theorem on_takeBoolean : takeBoolean.on s = SliceM.settled s (boolean.extract s) := by
  have parts : cutWhile inWord () s = _ :=
    cutWhile_of_class (fun c => Text.isAlphanumeric c || c == '_') fun _ => rfl
  rw [settled_extract rfl, takeBoolean, scan, readBoolean]
  simp only [SliceM.on_bind, SliceM.on_get, SliceM.on_ofExcept, parts, SliceM.on_ite, SliceM.on_set,
    SliceM.on_pure, SliceM.on_throw]
  generalize String.ofList (s.toList.takeWhile _) = word
  have affirms := means_iff word "true" "t" '1' rfl rfl rfl
  have denies := means_iff word "false" "f" '0' rfl rfl rfl
  have one : String.singleton '1' = "1" := rfl
  have zero : String.singleton '0' = "0" := rfl
  rw [one] at affirms
  rw [zero] at denies
  simp only [affirms, denies]
  split
  · rfl
  · split <;> rfl

/-- A number is taken with the bytes that are missing behind it. -/
theorem on_takeNumber {p : Primitive} {find : List Char → Option (p.Carrier × List Char)}
    (whole : p.cuts s.toList = false) (scans : p.scan s.toList = find s.toList)
    (behind : ∀ number rest, find s.toList = some (number, rest) →
      ∃ taken, s.toList = taken ++ rest) :
    (takeNumber p find).on s = SliceM.settled s (p.extract s) := by
  rw [settled_extract whole, scans, takeNumber]
  simp only [SliceM.on_bind, SliceM.on_get]
  cases found : find s.toList with
  | none => rfl
  | some read =>
    obtain ⟨number, rest⟩ := read
    obtain ⟨taken, parts⟩ := behind number rest found
    have length : byteLength s.toList - byteLength rest = byteLength taken := by
      rw [parts, byteLength_append, Nat.add_sub_cancel]
    have cutBehind : cut s (byteLength taken) = .ok (String.ofList taken, String.ofList rest) := by
      rw [cut, parts, splitBytes?_append]
    simp only [SliceM.on_bind, SliceM.on_ofExcept, length, cutBehind, SliceM.on_set, SliceM.on_pure]

theorem on_takeInt {k : IntKind} :
    (takeNumber (int k) (FixedInt.read? k)).on s = SliceM.settled s ((int k).extract s) := by
  refine on_takeNumber rfl rfl fun n rest found => ?_
  obtain ⟨taken, parts, -, -⟩ := FixedInt.read?_eq_some_iff.1 found
  exact ⟨taken, parts⟩

/-- Only the first character of a number is judged as a possible sign. -/
theorem acceptedWhile_inNumber (cs : List Char) :
    acceptedWhile inNumber true cs = (spanDecimal cs).1 := by
  cases cs with
  | nil => rfl
  | cons c cs =>
    have later : ∀ d, inNumber false d = (inDecimal d, false) := fun d => by
      simp [inNumber, inDecimal]
    have first : inNumber true c = (inDecimal c || c == '-' || c == '+', false) := by
      simp [inNumber, inDecimal, Bool.or_assoc]
    rw [acceptedWhile, first, spanDecimal, apply_ite Prod.fst, ← acceptedWhile_of_class later]

theorem spanDecimal_append (cs : List Char) : cs = (spanDecimal cs).1 ++ (spanDecimal cs).2 := by
  cases cs with
  | nil => rfl
  | cons c cs =>
    rw [spanDecimal]
    split
    · rw [List.cons_append, List.takeWhile_append_dropWhile]
    · rfl

theorem on_takeDecimal : takeDecimal.on s = SliceM.settled s (decimal.extract s) := by
  have parts : cutWhile inNumber true s = _ :=
    cutWhile_eq (spanDecimal_append s.toList) (acceptedWhile_inNumber s.toList)
  rw [settled_extract rfl, takeDecimal, scan, readDecimal]
  simp only [SliceM.on_bind, SliceM.on_get, SliceM.on_ofExcept, parts, String.toList_ofList]
  cases Decimal.ofChars? (spanDecimal s.toList).1 <;> rfl

/-- The text behind a mark `\x`, or the text itself. -/
def afterMark : List Char → List Char
  | '\\' :: 'x' :: rest => rest
  | '\\' :: 'X' :: rest => rest
  | cs => cs

theorem readBytes_eq (cs : List Char) :
    readBytes cs = (bytesOfHex? ((afterMark cs).takeWhile isHexDigit)).map fun found =>
      (found, (afterMark cs).dropWhile isHexDigit) := by
  have mapped : ∀ digits : List Char, (do
      let bytes ← bytesOfHex? (digits.takeWhile isHexDigit)
      return (bytes, digits.dropWhile isHexDigit)) =
      (bytesOfHex? (digits.takeWhile isHexDigit)).map fun found =>
        (found, digits.dropWhile isHexDigit) := fun digits => by
    cases bytesOfHex? (digits.takeWhile isHexDigit) <;> rfl
  unfold readBytes
  split
  · exact mapped _
  · exact mapped _
  · rename_i noSmall noLarge
    rw [afterMark.eq_3 cs noSmall noLarge]
    exact mapped cs

theorem toLower_eq_x_iff {c : Char} : c.toLower = 'x' ↔ c = 'x' ∨ c = 'X' := by
  constructor
  · intro lower
    by_cases upper : c.isUpper = true
    · right
      rw [← Char.toUpper_eq_of_not_isLower (Char.not_isLower_of_isUpper upper),
        ← c.toUpper_toLower_eq_toUpper, lower]
      rfl
    · left
      rwa [Char.toLower_eq_of_not_isUpper upper] at lower
  · rintro (rfl | rfl) <;> rfl

/-- Two bytes are a mark where they are two characters. -/
theorem afterMark_append {mark behind : List Char} (two : byteLength mark = 2) :
    afterMark (mark ++ behind) =
      if mark.map Char.toLower = ['\\', 'x'] then behind else mark ++ behind := by
  have backslash : ∀ {c : Char}, c.toLower = '\\' ↔ c = '\\' := toLower_eq_iff rfl
  match mark with
  | [] => cases two
  | [c] =>
    have wide : c ≠ '\\' := by
      rintro rfl
      cases two
    rw [if_neg (by simp)]
    unfold afterMark
    split <;> simp_all
  | [a, b] =>
    simp only [List.map_cons, List.map_nil, List.cons.injEq, backslash, toLower_eq_x_iff, and_true]
    unfold afterMark
    split <;> simp_all
  | a :: b :: c :: rest =>
    have := a.utf8Size_pos
    have := b.utf8Size_pos
    have := c.utf8Size_pos
    simp only [byteLength] at two
    omega

/-- A text of less than two bytes has no mark. -/
theorem afterMark_of_short {cs : List Char} (short : byteLength cs < 2) : afterMark cs = cs := by
  match cs with
  | [] => rfl
  | [c] =>
    unfold afterMark
    split <;> simp_all
  | a :: b :: rest =>
    have := a.utf8Size_pos
    have := b.utf8Size_pos
    simp only [byteLength] at short
    omega

/-- Looking for the mark ends the work where the second byte is inside a character. -/
theorem behindMark_eq (s : String) : behindMark s =
    if cutsCharacter 2 s.toList then .error (.abort .cutCharacter)
    else .ok (String.ofList (afterMark s.toList)) := by
  rw [behindMark]
  by_cases long : 2 ≤ byteLength s.toList
  · rw [if_pos long]
    cases parts : splitBytes? s.toList 2 with
    | none =>
      rw [if_pos ((splitBytes?_eq_none_iff long).1 parts), cut, parts]
      rfl
    | some found =>
      obtain ⟨mark, behind⟩ := found
      have whole : ¬cutsCharacter 2 s.toList = true := by
        rw [← splitBytes?_eq_none_iff long, parts]
        nofun
      obtain ⟨same, two⟩ := splitBytes?_eq_some parts
      have marked : eqIgnoringCase (String.ofList mark) "\\x" = true ↔
          mark.map Char.toLower = ['\\', 'x'] := by
        rw [eqIgnoringCase, beq_iff_eq, String.toList_ofList]
        rfl
      have text : s = String.ofList (mark ++ behind) := by rw [← same, String.ofList_toList]
      rw [if_neg whole, cut, parts, same, afterMark_append two, apply_ite String.ofList, ← text]
      show Except.ok (if _ then _ else _) = _
      simp only [marked]
  · have whole : ¬cutsCharacter 2 s.toList = true := fun cut =>
      long (Nat.le_of_lt (lt_byteLength_of_cutsCharacter cut))
    rw [if_neg long, if_neg whole, afterMark_of_short (Nat.lt_of_not_le long),
      String.ofList_toList]

theorem on_takeBytes : takeBytes.on s = SliceM.settled s (bytes.extract s) := by
  rw [takeBytes]
  simp only [SliceM.on_bind, SliceM.on_get, SliceM.on_ofExcept, behindMark_eq]
  by_cases inside : cutsCharacter 2 s.toList = true
  · rw [if_pos inside, extract, if_pos (show bytes.cuts s.toList = true from inside)]
    rfl
  · have parts : cutWhile inHex () (String.ofList (afterMark s.toList)) = _ :=
      cutWhile_of_class isHexDigit fun _ => rfl
    have whole : bytes.cuts s.toList = false := Bool.eq_false_iff.2 inside
    rw [if_neg inside, settled_extract whole, scan, readBytes_eq]
    simp only [parts, String.toList_ofList]
    cases bytesOfHex? ((afterMark s.toList).takeWhile isHexDigit) <;> rfl

/-- The types that are read exactly, from a part of a text too. -/
def readsPart : Primitive → Bool
  | boolean | int _ | char | text | bytes | decimal => true
  | _ => false

/-- **Work on a slice is the reading of its text:** the slice is moved behind what was taken, and
stays after a failure. -/
theorem on_take {p : Primitive} (part : p.readsPart = true) (s : String) :
    p.take.on s = SliceM.settled s (p.extract s) := by
  cases p with
  | boolean => exact on_takeBoolean
  | int k => exact on_takeInt
  | char => exact on_takeChar
  | text => exact on_takeText
  | bytes => exact on_takeBytes
  | decimal => exact on_takeDecimal
  | _ => cases part

/-! ## What is taken, read alone -/

section Taken

variable {inClass : Char → Bool} {cs rest : List Char}

theorem dropWhile_taken : (cs.takeWhile inClass).dropWhile inClass = [] :=
  List.dropWhile_eq_nil_iff.2 fun _ => List.mem_takeWhile_imp

theorem readBoolean_taken {b : Bool} (found : readBoolean cs = some (b, rest)) :
    ∃ taken, cs = taken ++ rest ∧ readBoolean taken = some (b, []) := by
  refine ⟨cs.takeWhile fun c => Text.isAlphanumeric c || c == '_', ?_⟩
  rw [readBoolean] at found ⊢
  simp only [List.takeWhile_idem, dropWhile_taken] at found ⊢
  split at found
  · rename_i affirms
    cases found
    exact ⟨List.takeWhile_append_dropWhile.symm, if_pos affirms⟩
  · rename_i doubts
    split at found
    · rename_i denies
      cases found
      refine ⟨List.takeWhile_append_dropWhile.symm, ?_⟩
      rw [if_neg doubts, if_pos denies]
    · cases found

theorem spanDecimal_taken (cs : List Char) :
    spanDecimal (spanDecimal cs).1 = ((spanDecimal cs).1, []) := by
  cases cs with
  | nil => rfl
  | cons c cs =>
    by_cases starts : (inDecimal c || c == '-' || c == '+') = true
    · rw [spanDecimal, if_pos starts, spanDecimal, if_pos starts, List.takeWhile_idem,
        dropWhile_taken]
    · rw [spanDecimal, if_neg starts]
      rfl

theorem readDecimal_taken {d : Decimal} (found : readDecimal cs = some (d, rest)) :
    ∃ taken, cs = taken ++ rest ∧ readDecimal taken = some (d, []) := by
  have mapped : ∀ cs, readDecimal cs =
      (Decimal.ofChars? (spanDecimal cs).1).map fun d => (d, (spanDecimal cs).2) := fun _ => rfl
  rw [mapped] at found
  obtain ⟨number, value, pair⟩ := Option.map_eq_some_iff.1 found
  obtain ⟨rfl, rfl⟩ := Prod.mk.inj pair
  refine ⟨(spanDecimal cs).1, spanDecimal_append cs, ?_⟩
  rw [mapped, spanDecimal_taken, value]
  rfl

/-- A text is its mark, which may be missing, and what is behind it. -/
theorem exists_mark (cs : List Char) : ∃ mark, cs = mark ++ afterMark cs ∧
    (∀ c ∈ mark, c.utf8Size = 1) ∧
    ∀ ds : List Char, (∀ d ∈ ds, isHexDigit d = true) → afterMark (mark ++ ds) = ds := by
  have marked : ∀ c : Char, c.utf8Size = 1 → ∀ d ∈ ['\\', c], d.utf8Size = 1 := fun c narrow =>
    List.forall_mem_cons.2 ⟨rfl, List.forall_mem_singleton.2 narrow⟩
  unfold afterMark
  split
  · exact ⟨['\\', 'x'], rfl, marked 'x' rfl, fun _ _ => rfl⟩
  · exact ⟨['\\', 'X'], rfl, marked 'X' rfl, fun _ _ => rfl⟩
  · refine ⟨[], rfl, nofun, fun ds digits => ?_⟩
    rw [List.nil_append]
    split
    · exact absurd (digits '\\' List.mem_cons_self) (by decide)
    · exact absurd (digits '\\' List.mem_cons_self) (by decide)
    · rfl

theorem utf8Size_of_isHexDigit {c : Char} (digit : isHexDigit c = true) : c.utf8Size = 1 := by
  have small : c.toNat ≤ 127 := by
    rw [isHexDigit, hexValue?] at digit
    simp only [Bool.and_eq_true, decide_eq_true_eq] at digit
    split at digit
    · omega
    · split at digit
      · omega
      · split at digit
        · omega
        · cases digit
  exact Char.utf8Size_eq_one_iff.2 (UInt32.le_iff_toNat_le.2 small)

/-- Nothing is cut where every character is one byte. -/
theorem cutsCharacter_of_narrow {cs : List Char} (narrow : ∀ c ∈ cs, c.utf8Size = 1) (n : Nat) :
    cutsCharacter n cs = false := by
  induction cs generalizing n with
  | nil => rfl
  | cons c cs ih =>
    have one := narrow c List.mem_cons_self
    rw [cutsCharacter]
    split
    · rfl
    · rw [if_neg (by omega)]
      exact ih (fun d member => narrow d (List.mem_cons_of_mem c member)) _

theorem readBytes_taken {b : List UInt8} (found : readBytes cs = some (b, rest)) :
    ∃ taken, cs = taken ++ rest ∧ readBytes taken = some (b, []) ∧
      cutsCharacter 2 taken = false := by
  rw [readBytes_eq] at found
  obtain ⟨value, read, pair⟩ := Option.map_eq_some_iff.1 found
  cases pair
  obtain ⟨mark, parts, narrow, apart⟩ := exists_mark cs
  have digits : ∀ d ∈ (afterMark cs).takeWhile isHexDigit, isHexDigit d = true :=
    fun _ => List.mem_takeWhile_imp
  refine ⟨mark ++ (afterMark cs).takeWhile isHexDigit, ?_, ?_, cutsCharacter_of_narrow ?_ 2⟩
  · rw [List.append_assoc, List.takeWhile_append_dropWhile, ← parts]
  · rw [readBytes_eq, apart _ digits, List.takeWhile_idem, dropWhile_taken, read]
    rfl
  · intro c member
    rcases List.mem_append.1 member with member | member
    · exact narrow c member
    · exact utf8Size_of_isHexDigit (digits c member)

/-- **What is taken reads the same alone,** with nothing left. -/
theorem scan_taken {p : Primitive} (part : p.readsPart = true) {x : p.Carrier}
    (found : p.scan cs = some (x, rest)) :
    ∃ taken, cs = taken ++ rest ∧ p.scan taken = some (x, []) ∧ p.cuts taken = false := by
  cases p with
  | boolean =>
    obtain ⟨taken, parts, alone⟩ := readBoolean_taken found
    exact ⟨taken, parts, alone, rfl⟩
  | int k =>
    obtain ⟨taken, parts, -, number⟩ := FixedInt.read?_eq_some_iff.1 found
    exact ⟨taken, parts, FixedInt.read?_eq_some_nil_iff.2 number, rfl⟩
  | char =>
    cases cs with
    | nil => cases found
    | cons c cs =>
      cases found
      exact ⟨[x], rfl, rfl, rfl⟩
  | text =>
    cases found
    exact ⟨cs, (List.append_nil cs).symm, rfl, rfl⟩
  | bytes => exact readBytes_taken found
  | decimal =>
    obtain ⟨taken, parts, alone⟩ := readDecimal_taken found
    exact ⟨taken, parts, alone, rfl⟩
  | _ => cases part

end Taken

theorem extract_eq_ok_iff {p : Primitive} {s left : String} {x : p.Carrier} :
    p.extract s = .ok (x, left) ↔
      p.cuts s.toList = false ∧ p.scan s.toList = some (x, left.toList) := by
  rw [extract]
  cases p.cuts s.toList with
  | true => simp
  | false =>
    rcases p.scan s.toList with _ | ⟨member, rest⟩
    · simp
    · simp [String.ofList_eq]

/-- What is read as a whole is what the scan takes entirely. -/
theorem readWhole_eq_some_iff {p : Primitive} (part : p.readsPart = true) {cs : List Char}
    {x : p.Carrier} : p.readWhole cs = some x ↔ p.scan cs = some (x, []) := by
  cases p with
  | date | time | moment | zoned | uuid | float => cases part
  | boolean | int | char | text | bytes | decimal =>
    simp only [readWhole]
    split
    · rename_i found
      rw [found]
      simp
    · rename_i others
      simpa using others x

theorem parse_eq_ok_iff {p : Primitive} (part : p.readsPart = true) {s : String} {x : p.Carrier} :
    p.parse s = .ok x ↔ p.cuts s.toList = false ∧ p.scan s.toList = some (x, []) := by
  rw [← readWhole_eq_some_iff part, parse]
  cases p.cuts s.toList with
  | true => simp
  | false => cases p.readWhole s.toList <;> simp

/-- **A reading takes a part of its slice that reads the same alone, or it takes nothing.** When it
fails, the slice is as it was. When it succeeds, it leaves the slice behind a part of the text that
ends between two characters; that part alone gives the same result and is used up. A whole text is
read exactly when nothing is left. -/
theorem take_leaves {p : Primitive} (part : p.readsPart = true) (s : String) :
    (∀ e, p.extract s = .error e → p.take.on s = (.error e, s)) ∧
      (∀ x left, p.extract s = .ok (x, left) → p.take.on s = (.ok x, left) ∧
        ∃ taken, s = taken ++ left ∧
          cutsCharacter (byteLength taken.toList) s.toList = false ∧
          p.extract taken = .ok (x, "") ∧ p.take.on taken = (.ok x, "")) ∧
      ∀ x, p.parse s = .ok x ↔ p.extract s = .ok (x, "") := by
  refine ⟨fun e failed => ?_, fun x left found => ?_, fun x => ?_⟩
  · rw [on_take part, failed, SliceM.settled]
  · rw [on_take part, found, SliceM.settled]
    obtain ⟨taken, parts, alone, whole⟩ := scan_taken part (extract_eq_ok_iff.1 found).2
    have again : p.extract (String.ofList taken) = .ok (x, "") := by
      rw [extract_eq_ok_iff, String.toList_ofList]
      exact ⟨whole, alone⟩
    refine ⟨rfl, String.ofList taken, ?_, ?_, again, ?_⟩
    · rw [← String.toList_inj, String.toList_append, String.toList_ofList, parts]
    · rw [String.toList_ofList, parts, cutsCharacter_append]
    · rw [on_take part, again, SliceM.settled]
  · rw [parse_eq_ok_iff part, extract_eq_ok_iff]
    rfl

/-- Bytes behind a mark, and a character of two bytes that is left. -/
theorem take_leaves_markedBytes :
    bytes.readsPart = true ∧ bytes.take.on "\\X0aFFé" = (.ok [0x0a, 0xff], "é") ∧
      bytes.take.on "\\X0aFF" = (.ok [0x0a, 0xff], "") := by
  have found : bytes.extract "\\X0aFFé" = .ok ([0x0a, 0xff], "é") := by rfl
  obtain ⟨-, succeeds, -⟩ := take_leaves (p := bytes) rfl "\\X0aFFé"
  obtain ⟨moved, taken, parts, -, -, alone⟩ := succeeds _ _ found
  have same : taken = "\\X0aFF" := by
    rw [← String.append_left_inj "é", ← parts]
    rfl
  exact ⟨rfl, moved, same ▸ alone⟩

end Primitive

end EntitySql
