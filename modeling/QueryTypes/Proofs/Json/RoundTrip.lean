import QueryTypes.Json.Reader
import QueryTypes.Proofs.Json.Quoted
import QueryTypes.Proofs.Number.ReadBack
import QueryTypes.Proofs.Text.Runs

/-!
Reading undoes writing.

A value's compact text holds everything that tells the value, so that reading it with any text after
it gives the value and that text back. What may follow a value is limited for numerals only, which
have no end of their own.
-/

set_option autoImplicit false

namespace QueryTypes.Json

open QueryTypes.Number

/-! ### Numerals -/

def continuesNumeral (char : Char) : Bool :=
  char.isDigit || char == '.' || char == 'e' || char == 'E'

private theorem endsDigits_of_endsNumeral {rest : List Char}
    (ends : EndsRun continuesNumeral rest) :
    EndsRun Char.isDigit rest := by
  intro start present
  have other := ends start present
  unfold continuesNumeral at other
  simp only [Bool.or_eq_false_iff] at other
  exact other.1.1.1

/-- No integer is written with a zero in front. -/
theorem toDigits_start {value : Nat} (positive : 0 < value) :
    ∃ first rest, Nat.toDigits 10 value = first :: rest ∧ first ≠ '0' := by
  induction value using Nat.strong_induction_on with
  | _ value ih =>
      rcases Nat.lt_or_ge value 10 with single | several
      · refine ⟨Nat.digitChar value, [], Nat.toDigits_of_lt_base single, fun zero => ?_⟩
        exact absurd (digitChar_inj (by omega) (by omega) zero) positive.ne'
      · obtain ⟨first, rest, leading, other⟩ := ih (value / 10) (by omega) (by omega)
        refine ⟨first, rest ++ [Nat.digitChar (value % 10)], ?_, other⟩
        rw [Nat.toDigits_of_base_le (by omega) several, leading, List.cons_append]

private theorem toDigits_ne_sign {value : Nat} {sign : Char} {rest others : List Char}
    (noDigit : sign.isDigit = false) : Nat.toDigits 10 value ++ rest ≠ sign :: others := by
  intro same
  obtain ⟨first, more, laid⟩ := List.exists_cons_of_ne_nil (Nat.toDigits_ne_nil (n := value))
  have digit := isDigit_of_mem_toDigits value first (laid ▸ List.mem_cons_self)
  rw [laid] at same
  rw [(List.cons.inj same).1, noDigit] at digit
  exact Bool.noConfusion digit

private theorem readSign_toDigits (value : Nat) (rest : List Char) :
    readSign (Nat.toDigits 10 value ++ rest) = (false, Nat.toDigits 10 value ++ rest) := by
  unfold readSign
  split
  · rename_i same
    exact absurd same (toDigits_ne_sign (by decide))
  · rename_i same
    exact absurd same (toDigits_ne_sign (by decide))
  · rfl

private theorem readWhole?_toDigits (value : Nat) {rest : List Char}
    (ends : EndsRun Char.isDigit rest) :
    readWhole? (Nat.toDigits 10 value ++ rest) = some (value, rest) := by
  rcases Nat.eq_zero_or_pos value with rfl | positive
  · have stops : rest.takeWhile Char.isDigit = [] :=
      takeWhile_run (List.forall_mem_nil _) ends
    change (if (rest.takeWhile Char.isDigit).isEmpty then some (0, rest) else none) = _
    rw [stops]
    rfl
  · have digits := isDigit_of_mem_toDigits value
    have run := takeWhile_run digits ends
    have after := dropWhile_run digits ends
    have back := digitsValue_toDigits value
    obtain ⟨first, more, laid, notZero⟩ := toDigits_start positive
    rw [laid] at run after back ⊢
    unfold readWhole?
    split
    · rename_i others same
      exact absurd (List.cons.inj same).1 notZero
    · dsimp only
      rw [run, after, back]
      rfl

private theorem digitValue_digitChar :
    ∀ digit : Fin 10, digitValue (Nat.digitChar digit) = digit := by
  decide

private theorem isDigit_digitChar : ∀ digit : Fin 10, (Nat.digitChar digit).isDigit = true := by
  decide

def fractionChars : List (Fin 10) → List Char
  | [] => []
  | digits => '.' :: digits.map fun digit => Nat.digitChar digit.val

private theorem readFraction?_fractionChars (digits : List (Fin 10)) {rest : List Char}
    (ends : EndsRun Char.isDigit rest) (noPoint : rest.head? ≠ some '.') :
    readFraction? (fractionChars digits ++ rest) = some (digits, rest) := by
  cases digits with
  | nil =>
      rw [fractionChars, List.nil_append, readFraction?]
      rintro others rfl
      exact noPoint rfl
  | cons first others =>
      have all : ∀ char ∈ (first :: others).map fun digit : Fin 10 => Nat.digitChar digit.val,
          char.isDigit = true := by
        intro char present
        obtain ⟨digit, _, rfl⟩ := List.mem_map.mp present
        exact isDigit_digitChar digit
      have back (digit : Fin 10) : Fin.ofNat 10 (digitValue (Nat.digitChar digit)) = digit := by
        rw [digitValue_digitChar, Fin.ofNat_val_eq_self]
      have read : ((first :: others).map fun digit : Fin 10 => Nat.digitChar digit.val).map
          (fun char => Fin.ofNat 10 (digitValue char)) = first :: others := by
        rw [List.map_map]
        exact List.map_id'' back (first :: others)
      rw [fractionChars, List.cons_append, readFraction?, takeWhile_run all ends,
        dropWhile_run all ends, read]
      · rfl
      · nofun

def powerChars : Option Int → List Char
  | none => []
  | some power => 'e' :: (toString power).toList

private theorem powerChars_ends (power : Option Int) {rest : List Char}
    (ends : EndsRun continuesNumeral rest) :
    EndsRun Char.isDigit (powerChars power ++ rest) ∧
      (powerChars power ++ rest).head? ≠ some '.' := by
  cases power with
  | none =>
      refine ⟨endsDigits_of_endsNumeral ends, fun point => ?_⟩
      exact Bool.noConfusion (ends '.' point)
  | some power => exact ⟨mark_endsDigits _, nofun⟩

private theorem readPower?_powerChars (power : Option Int) {rest : List Char}
    (ends : EndsRun continuesNumeral rest) :
    readPower? (powerChars power ++ rest) = some (power, rest) := by
  have endsDigits := endsDigits_of_endsNumeral ends
  have written (value : Nat) :
      ((Nat.toDigits 10 value ++ rest).takeWhile Char.isDigit).isEmpty = false ∧
        digitsValue 0 ((Nat.toDigits 10 value ++ rest).takeWhile Char.isDigit) = value ∧
        (Nat.toDigits 10 value ++ rest).dropWhile Char.isDigit = rest := by
    have digits := isDigit_of_mem_toDigits value
    rw [takeWhile_run digits endsDigits, dropWhile_run digits endsDigits]
    exact ⟨List.isEmpty_eq_false_iff.mpr Nat.toDigits_ne_nil, digitsValue_toDigits value, rfl⟩
  cases power with
  | none =>
      cases rest with
      | nil => rfl
      | cons start more =>
          have noMark : (start == 'e' || start == 'E') = false := by
            have other := ends start rfl
            unfold continuesNumeral at other
            simp only [Bool.or_eq_false_iff] at other ⊢
            exact ⟨other.1.2, other.2⟩
          rw [powerChars, List.nil_append, readPower?, noMark]
          rfl
  | some power =>
      rw [powerChars, List.cons_append, readPower?]
      cases power with
      | ofNat value =>
          obtain ⟨given, back, after⟩ := written value
          rw [toString_ofNat, readSign_toDigits]
          simp [given, back, after]
      | negSucc value =>
          obtain ⟨given, back, after⟩ := written (value + 1)
          rw [toString_negSucc, List.cons_append, readSign]
          simp only [given, back, after]
          rfl

private theorem chars_append (numeral : Numeral) (rest : List Char) :
    numeral.chars ++ rest =
      (if numeral.negative then ['-'] else []) ++ (Nat.toDigits 10 numeral.whole ++
        (fractionChars numeral.fraction ++ (powerChars numeral.exponent ++ rest))) := by
  obtain ⟨negative, whole, fraction, power⟩ := numeral
  unfold Numeral.chars
  rw [← toList_toString]
  cases fraction <;> cases power <;>
    simp only [fractionChars, powerChars, List.append_assoc, List.nil_append]

/-- A numeral is read to its end, if what follows could not be more of it. -/
theorem readNumeral?_chars (numeral : Numeral) {rest : List Char}
    (ends : EndsRun continuesNumeral rest) :
    readNumeral? (numeral.chars ++ rest) = some (numeral, rest) := by
  obtain ⟨endsFraction, noPoint⟩ := powerChars_ends numeral.exponent ends
  have endsWhole : EndsRun Char.isDigit
      (fractionChars numeral.fraction ++ (powerChars numeral.exponent ++ rest)) := by
    cases numeral.fraction with
    | nil => exact endsFraction
    | cons first others =>
        rintro _ ⟨⟩
        rfl
  have whole := readWhole?_toDigits numeral.whole endsWhole
  have fraction := readFraction?_fractionChars numeral.fraction endsFraction noPoint
  have power := readPower?_powerChars numeral.exponent ends
  obtain ⟨negative, _, _, _⟩ := numeral
  rw [chars_append]
  unfold readNumeral?
  cases negative with
  | true => simp [whole, fraction, power]
  | false =>
      rw [if_neg Bool.false_ne_true, List.nil_append]
      split
      rename_i taken
      split at taken
      · rename_i minus
        exact absurd minus (toDigits_ne_sign (by decide))
      · cases taken
        simp [whole, fraction, power]

/-! ### Strings -/

private theorem readQuoted_unnamed {checked : Bool} {a b c d : Char}
    (unnamed : codeUnit? a b c d = none) (rest : List Char) :
    readQuoted checked ('\\' :: 'u' :: a :: b :: c :: d :: rest) = none := by
  rw [readQuoted.eq_def]
  split
  · rename_i same
    cases same
  · rename_i same
    cases same
  · rename_i same
    cases same
    rw [unnamed]
    rfl
  · rename_i same
    cases same
    rw [unnamed]
    rfl
  · rename_i short same
    cases same
    exact (short _ _ _ _ _ rfl rfl).elim
  · rename_i noEscape same
    cases same
    exact (noEscape _ _ rfl rfl).elim

/-- A control character by its number, whatever follows: if that is an escape by number as well, the
two are no pair. -/
theorem readQuoted_numbered (checked : Bool) {a b c d : Char} {unit : Nat}
    (named : codeUnit? a b c d = some unit) (high : isHighSurrogate unit = false)
    (low : isLowSurrogate unit = false) (rest : List Char) :
    readQuoted checked ('\\' :: 'u' :: a :: b :: c :: d :: rest) =
      (readQuoted checked rest).map (withFirst (Char.ofNat unit)) := by
  rw [readQuoted.eq_def]
  split
  · rename_i same
    cases same
  · rename_i same
    cases same
  · rename_i e f g h _ same
    cases same
    rw [named]
    cases next : codeUnit? e f g h with
    | none =>
        rw [readQuoted_unnamed next]
        rfl
    | some after => simp [high, low]
  · rename_i same
    cases same
    simp [named, high, low]
  · rename_i short same
    cases same
    exact (short _ _ _ _ _ rfl rfl).elim
  · rename_i noEscape same
    cases same
    exact (noEscape _ _ rfl rfl).elim

private theorem readQuoted_named {checked : Bool} {letter char : Char} (other : letter ≠ 'u')
    (means : simpleEscape? letter = some char) (rest : List Char) :
    readQuoted checked ('\\' :: letter :: rest) =
      (readQuoted checked rest).map (withFirst char) := by
  rw [readQuoted.eq_def]
  split
  · rename_i same
    cases same
  · rename_i same
    cases same
  · rename_i same
    cases same
    exact absurd rfl other
  · rename_i same
    cases same
    exact absurd rfl other
  · rename_i same
    cases same
    rw [means]
    rfl
  · rename_i noEscape same
    cases same
    exact (noEscape _ _ rfl rfl).elim

private theorem readQuoted_plain {checked : Bool} {char : Char} (noEscape : char ≠ '\\')
    (noQuote : char ≠ '"') (printable : ¬ char.toNat < 32) (rest : List Char) :
    readQuoted checked (char :: rest) = (readQuoted checked rest).map (withFirst char) := by
  rw [readQuoted, if_neg printable]
  case x_1 => exact noQuote
  -- the other patterns that come before start with a backslash
  all_goals
    intros
    contradiction

/-- The number that a control character is escaped by. -/
theorem codeUnit?_control {unit : Nat} (control : unit < 32) :
    codeUnit? '0' '0' (Nat.digitChar (unit / 16)) (Nat.digitChar (unit % 16)) = some unit := by
  have zero : hexValue? '0' = some 0 := by decide
  unfold codeUnit?
  rw [zero, hexValue?_digitChar _ (by omega), hexValue?_digitChar _ (by omega)]
  simp only [Option.bind_eq_bind, Option.bind_some, Option.pure_def, Option.some.injEq]
  omega

/-- The escape of a character stands for it. -/
theorem readQuoted_escapeChar {checked : Bool} (char : Char) (rest : List Char) :
    readQuoted checked (escapeChar char ++ rest) =
      (readQuoted checked rest).map (withFirst char) := by
  unfold escapeChar
  split
  · exact readQuoted_named (by decide) rfl rest
  · exact readQuoted_named (by decide) rfl rest
  · exact readQuoted_named (by decide) rfl rest
  · exact readQuoted_named (by decide) rfl rest
  · exact readQuoted_named (by decide) rfl rest
  · exact readQuoted_named (by decide) rfl rest
  · exact readQuoted_named (by decide) rfl rest
  · rename_i noQuote noEscape _ _ _ _ _
    split
    · rename_i control
      have high : isHighSurrogate char.toNat = false := decide_eq_false (by omega)
      have low : isLowSurrogate char.toNat = false := decide_eq_false (by omega)
      have unit := codeUnit?_control control
      have read := readQuoted_numbered checked unit high low rest
      rwa [Char.ofNat_toNat] at read
    · rename_i printable
      exact readQuoted_plain noEscape noQuote printable rest

/-- A quoted string is read up to its closing quote. -/
theorem readQuoted_quotedChars (checked : Bool) (text rest : List Char) :
    readQuoted checked (text.flatMap escapeChar ++ '"' :: rest) = some (text, rest) := by
  induction text with
  | nil => rfl
  | cons first more ih =>
      rw [List.flatMap_cons, List.append_assoc, readQuoted_escapeChar, ih]
      rfl

/-! ### Values -/

mutual

/-- Every numeral of a value stands for a number. -/
def InRange : Json → Prop
  | .number numeral => numeral.toNumber?.isSome = true
  | .list items => ItemsInRange items
  | .record members => MembersInRange members
  | _ => True

def ItemsInRange : List Json → Prop
  | [] => True
  | item :: rest => item.InRange ∧ ItemsInRange rest

def MembersInRange : List (String × Json) → Prop
  | [] => True
  | (_, value) :: rest => value.InRange ∧ MembersInRange rest

end

private theorem skipBlank_cons {start : Char} (solid : isBlank start = false) (rest : List Char) :
    skipBlank (start :: rest) = start :: rest :=
  List.dropWhile_cons_of_neg (by rw [solid]; exact Bool.false_ne_true)

def startsNumeral (char : Char) : Bool := char.isDigit || char == '-'

private theorem chars_startsNumeral (numeral : Numeral) :
    ∃ start more, numeral.chars = start :: more ∧ startsNumeral start = true := by
  have laid := chars_append numeral []
  rw [List.append_nil] at laid
  cases sign : numeral.negative with
  | true =>
      rw [sign] at laid
      exact ⟨_, _, laid, rfl⟩
  | false =>
      obtain ⟨start, more, digits⟩ :=
        List.exists_cons_of_ne_nil (Nat.toDigits_ne_nil (n := numeral.whole) (b := 10))
      have digit := isDigit_of_mem_toDigits numeral.whole start (digits ▸ List.mem_cons_self)
      rw [sign, digits] at laid
      exact ⟨start, _, laid, by rw [startsNumeral, digit, Bool.true_or]⟩

private theorem solid_of_startsNumeral {start : Char} (starts : startsNumeral start = true) :
    isBlank start = false := by
  rw [Bool.eq_false_iff]
  intro blank
  unfold isBlank at blank
  simp only [Bool.or_eq_true, beq_iff_eq] at blank
  obtain ((rfl | rfl) | rfl) | rfl := blank <;> exact absurd starts (by decide)

private theorem readValue_numeral {start : Char} (starts : startsNumeral start = true)
    (fuel depth : Nat) (more : List Char) :
    readValue true (fuel + 1) depth (start :: more) =
      (readNumeral? (start :: more)).bind fun read =>
        if read.1.toNumber?.isNone then none else some (.number read.1, read.2) := by
  rw [readValue, skipBlank_cons (solid_of_startsNumeral starts)]
  split
  · rename_i same
    cases same
    exact absurd starts (by decide)
  · rename_i same
    cases same
    exact absurd starts (by decide)
  · rename_i same
    cases same
    exact absurd starts (by decide)
  · rename_i same
    cases same
    exact absurd starts (by decide)
  · rename_i same
    cases same
    exact absurd starts (by decide)
  · rename_i same
    cases same
    exact absurd starts (by decide)
  · rfl

private theorem chars_start (value : Json) :
    ∃ start more, value.chars = start :: more ∧ isBlank start = false ∧ start ≠ ']' := by
  unfold chars
  split
  · exact ⟨_, _, rfl, by decide, by decide⟩
  · exact ⟨_, _, rfl, by decide, by decide⟩
  · exact ⟨_, _, rfl, by decide, by decide⟩
  · rename_i numeral
    obtain ⟨start, more, laid, starts⟩ := chars_startsNumeral numeral
    refine ⟨start, more, laid, solid_of_startsNumeral starts, ?_⟩
    rintro rfl
    exact absurd starts (by decide)
  · exact ⟨_, _, rfl, by decide, by decide⟩
  · exact ⟨_, _, rfl, by decide, by decide⟩
  · exact ⟨_, _, rfl, by decide, by decide⟩
  · exact ⟨_, _, rfl, by decide, by decide⟩
  · exact ⟨_, _, rfl, by decide, by decide⟩

private theorem readValue_list {start : Char} (solid : isBlank start = false) (noEnd : start ≠ ']')
    (fuel depth : Nat) (more : List Char) :
    readValue true (fuel + 1) (depth + 1) ('[' :: start :: more) =
      (readItems true fuel depth (start :: more)).map fun read => (.list read.1, read.2) := by
  have opened : skipBlank ('[' :: start :: more) = '[' :: start :: more :=
    skipBlank_cons (by decide) _
  simp only [readValue, opened, skipBlank_cons solid, Nat.add_one_ne_zero, if_false,
    Nat.add_sub_cancel]
  split
  · rename_i same
    exact absurd (List.cons.inj same).1 noEnd
  · rfl

private theorem readMembers_member {fuel depth : Nat} {key text after rest : List Char}
    {value : Json} (named : readQuoted true text = some (key, ':' :: after))
    (read : readValue true fuel depth after = some (value, rest)) :
    readMembers true (fuel + 1) depth ('"' :: text) =
      match skipBlank rest with
      | ',' :: rest => (readMembers true fuel depth rest).bind fun further =>
          some ((String.ofList key, value) :: further.1, further.2)
      | '\x7d' :: rest => some ([(String.ofList key, value)], rest)
      | _ => none := by
  have opened : skipBlank ('"' :: text) = '"' :: text := skipBlank_cons (by decide) _
  have colon : skipBlank (':' :: after) = ':' :: after := skipBlank_cons (by decide) _
  simp only [readMembers, opened, named, colon, read, Option.bind_eq_bind, Option.bind_some]
  rfl

private theorem itemChars_ends (items : List Json) (rest : List Char) :
    EndsRun continuesNumeral (itemChars items ++ rest) := by
  cases items <;> · rintro _ ⟨⟩; rfl

private theorem memberChars_ends (members : List (String × Json)) (rest : List Char) :
    EndsRun continuesNumeral (memberChars members ++ rest) := by
  cases members with
  | nil => rintro _ ⟨⟩; rfl
  | cons member others => rintro _ ⟨⟩; rfl

mutual

/-- The text of a value is read to its end. -/
theorem readValue_chars (value : Json) (fuel depth : Nat) {rest : List Char}
    (shallow : value.depth ≤ depth) (enough : 2 * value.chars.length ≤ fuel)
    (inRange : value.InRange) (ends : EndsRun continuesNumeral rest) :
    readValue true fuel depth (value.chars ++ rest) = some (value, rest) := by
  obtain ⟨start, more, laid, solid, noBracket⟩ := chars_start value
  rw [laid, List.length_cons] at enough
  obtain ⟨fuel, rfl⟩ := Nat.exists_eq_add_of_le' (show 1 ≤ fuel by omega)
  rw [← List.length_cons (a := start), ← laid] at enough
  match value with
  | .null => rfl
  | .boolean true => rfl
  | .boolean false => rfl
  | .number numeral =>
      obtain ⟨start, more, laid, starts⟩ := chars_startsNumeral numeral
      have read := readNumeral?_chars numeral ends
      have finite : numeral.toNumber?.isNone = false := by
        rw [Option.isNone_eq_false_iff]
        exact inRange
      rw [chars, laid, List.cons_append, readValue_numeral starts, ← List.cons_append, ← laid, read,
        Option.bind_some, finite]
      rfl
  | .text value =>
      have read := readQuoted_quotedChars true value.toList rest
      rw [chars, quotedChars, List.cons_append, List.append_assoc]
      change ((readQuoted true (value.toList.flatMap escapeChar ++ '"' :: rest)).map fun read =>
        (Json.text (String.ofList read.1), read.2)) = _
      rw [read, Option.map_some, String.ofList_toList]
  | .list [] =>
      obtain ⟨depth, rfl⟩ := Nat.exists_eq_add_of_le' (Nat.le_trans (Nat.le_add_left 1 _) shallow)
      rfl
  | .list (first :: others) =>
      obtain ⟨depth, rfl⟩ := Nat.exists_eq_add_of_le' (Nat.le_trans (Nat.le_add_left 1 _) shallow)
      rw [Json.depth] at shallow
      have read := readItems_chars (first :: others) fuel depth rest (List.cons_ne_nil _ _)
        (by omega)
        (by rw [chars, List.length_cons] at enough; rw [itemChars, List.tail_cons]; omega) inRange
      obtain ⟨start, more, laid, solid, noEnd⟩ := chars_start first
      rw [itemChars, List.tail_cons, laid, List.cons_append, List.cons_append] at read
      rw [chars, laid, List.cons_append, List.cons_append, List.cons_append,
        readValue_list solid noEnd, read]
      rfl
  | .record [] =>
      obtain ⟨depth, rfl⟩ := Nat.exists_eq_add_of_le' (Nat.le_trans (Nat.le_add_left 1 _) shallow)
      rfl
  | .record ((key, value) :: others) =>
      obtain ⟨depth, rfl⟩ := Nat.exists_eq_add_of_le' (Nat.le_trans (Nat.le_add_left 1 _) shallow)
      rw [Json.depth] at shallow
      have read := readMembers_chars ((key, value) :: others) fuel depth rest
        (List.cons_ne_nil _ _) (by omega)
        (by rw [chars, List.length_cons] at enough; rw [memberChars, List.tail_cons]; omega)
        inRange
      rw [chars]
      change ((readMembers true fuel depth
        ((memberChars ((key, value) :: others)).tail ++ rest)).map
          fun read => (Json.record read.1, read.2)) = _
      rw [read]
      rfl

/-- So is the text of a list from its first item on. -/
theorem readItems_chars (items : List Json) (fuel depth : Nat) (rest : List Char)
    (given : items ≠ []) (shallow : itemsDepth items ≤ depth)
    (enough : 2 * (itemChars items).tail.length ≤ fuel) (inRange : ItemsInRange items) :
    readItems true fuel depth ((itemChars items).tail ++ rest) = some (items, rest) := by
  match items with
  | [] => exact absurd rfl given
  | first :: others =>
      rw [itemChars, List.tail_cons, List.length_append] at enough
      rw [itemsDepth] at shallow
      have closes : 0 < (itemChars others).length := by
        cases others <;> exact Nat.zero_lt_succ _
      obtain ⟨fuel, rfl⟩ := Nat.exists_eq_add_of_le' (show 1 ≤ fuel by omega)
      have read := readValue_chars first fuel depth (by omega) (by omega)
        inRange.1 (itemChars_ends others rest)
      have further (left : others ≠ []) := readItems_chars others fuel depth rest left
        (by omega) (by rw [List.length_tail]; omega) inRange.2
      rw [itemChars, List.tail_cons, List.append_assoc, readItems, read]
      cases others with
      | nil => rfl
      | cons second later =>
          change ((readItems true fuel depth ((itemChars (second :: later)).tail ++ rest)).bind
            fun read => some (first :: read.1, read.2)) = _
          rw [further (List.cons_ne_nil _ _)]
          rfl

/-- And the text of an object from its first member on. -/
theorem readMembers_chars (members : List (String × Json)) (fuel depth : Nat) (rest : List Char)
    (given : members ≠ []) (shallow : membersDepth members ≤ depth)
    (enough : 2 * (memberChars members).tail.length ≤ fuel) (inRange : MembersInRange members) :
    readMembers true fuel depth ((memberChars members).tail ++ rest) = some (members, rest) := by
  match members with
  | [] => exact absurd rfl given
  | (key, value) :: others =>
      rw [memberChars, List.tail_cons, List.length_append, List.length_cons,
        List.length_append] at enough
      rw [membersDepth] at shallow
      have closes : 0 < (memberChars others).length := by
        cases others with
        | nil => exact Nat.zero_lt_succ _
        | cons second later => exact Nat.zero_lt_succ _
      obtain ⟨fuel, rfl⟩ := Nat.exists_eq_add_of_le' (show 1 ≤ fuel by omega)
      have named := readQuoted_quotedChars true key.toList
        (':' :: (value.chars ++ (memberChars others ++ rest)))
      have read := readValue_chars value fuel depth (by omega) (by omega)
        inRange.1 (memberChars_ends others rest)
      have further (left : others ≠ []) := readMembers_chars others fuel depth rest left
        (by omega) (by rw [List.length_tail]; omega) inRange.2
      simp only [memberChars, List.tail_cons, quotedChars, List.append_assoc, List.cons_append,
        List.nil_append]
      rw [readMembers_member named read]
      cases others with
      | nil => rw [String.ofList_toList]; rfl
      | cons second later =>
          change ((readMembers true fuel depth ((memberChars (second :: later)).tail ++ rest)).bind
            fun read => some ((String.ofList key.toList, value) :: read.1, read.2)) = _
          rw [further (List.cons_ne_nil _ _), String.ofList_toList]
          rfl

end

/-- A document is read back from its text, unless it is nested too deeply or a numeral is out of
range. -/
theorem parse?_render {value : Json} (shallow : value.depth ≤ nestingLimit)
    (inRange : value.InRange) : parse? value.render = some value := by
  have read := readValue_chars value (fuelFor value.chars) nestingLimit shallow
    (Nat.le_add_right _ 2) inRange endsRun_nil
  rw [List.append_nil] at read
  unfold parse? parseNested? render
  rw [String.toList_ofList, read]
  rfl

end QueryTypes.Json
