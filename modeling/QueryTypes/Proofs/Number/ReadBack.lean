import QueryTypes.Number.Text
import QueryTypes.Proofs.Number.ShortestDigits
import QueryTypes.Proofs.Text.Runs

/-!
The text of a number tells the number.

However the shortest digits of a magnitude are laid out, reading the text gives them back, and with
them the magnitude that they are rounded to.
-/

set_option autoImplicit false

namespace QueryTypes.Number

/-! ### Reading digits -/

private theorem digitsValue_append (before : Nat) (first second : List Char) :
    digitsValue before (first ++ second) = digitsValue (digitsValue before first) second :=
  List.foldl_append ..

theorem digitsValue_toDigits (value : Nat) : digitsValue 0 (Nat.toDigits 10 value) = value :=
  Nat.ofDigitChars_toDigits (Nat.one_lt_succ_succ 8) (Nat.le_refl 10)

private theorem digitsValue_zeros (count : Nat) : digitsValue 0 (List.replicate count '0') = 0 := by
  induction count with
  | zero => rfl
  | succ count ih => exact ih

theorem toList_toString (value : Nat) : (toString value).toList = Nat.toDigits 10 value := by
  rw [Nat.toString_eq_repr, Nat.toList_repr]

theorem isDigit_of_mem_toDigits (value : Nat) : ∀ digit ∈ Nat.toDigits 10 value, digit.isDigit :=
  fun _ => Nat.isDigit_of_mem_toDigits (Nat.zero_lt_succ 9) (Nat.le_refl 10)

section Layout

variable {whole fraction rest : List Char}

private theorem readDecimal?_whole (given : whole ≠ []) (digits : ∀ digit ∈ whole, digit.isDigit)
    (ends : EndsRun Char.isDigit rest) (noPoint : rest.head? ≠ some '.') :
    readDecimal? (whole ++ rest) =
      (readExponent? rest).map fun exponent => ⟨digitsValue 0 whole, exponent⟩ := by
  unfold readDecimal?
  dsimp only
  rw [takeWhile_run digits ends, dropWhile_run digits ends]
  split
  · rename_i others
    exact absurd rfl noPoint
  · simp [given, digitsValue]

private theorem readDecimal?_fraction (given : whole ≠ []) (digits : ∀ digit ∈ whole, digit.isDigit)
    (further : ∀ digit ∈ fraction, digit.isDigit) (ends : EndsRun Char.isDigit rest) :
    readDecimal? (whole ++ '.' :: (fraction ++ rest)) =
      (readExponent? rest).map fun exponent =>
        ⟨digitsValue 0 (whole ++ fraction), exponent - fraction.length⟩ := by
  have point : EndsRun Char.isDigit ('.' :: (fraction ++ rest)) := by
    rintro _ ⟨⟩
    rfl
  unfold readDecimal?
  dsimp only
  rw [takeWhile_run digits point, dropWhile_run digits point]
  change (if whole.isEmpty && ((fraction ++ rest).takeWhile Char.isDigit).isEmpty then none
    else (readExponent? ((fraction ++ rest).dropWhile Char.isDigit)).map fun exponent =>
      (⟨digitsValue (digitsValue 0 whole) ((fraction ++ rest).takeWhile Char.isDigit),
        exponent - ((fraction ++ rest).takeWhile Char.isDigit).length⟩ : Decimal)) = _
  rw [takeWhile_run further ends, dropWhile_run further ends, digitsValue_append]
  simp [given]

end Layout

theorem toString_ofNat (value : Nat) :
    (toString (Int.ofNat value)).toList = Nat.toDigits 10 value := toList_toString value

theorem toString_negSucc (value : Nat) :
    (toString (Int.negSucc value)).toList = '-' :: Nat.toDigits 10 (value + 1) := by
  have signed : toString (Int.negSucc value) = "-" ++ toString (value + 1) := rfl
  rw [signed, String.toList_append, toList_toString]
  rfl

private theorem readExponent?_signed (sign : Char) (negative : Bool) (value : Nat)
    (signs : ∀ rest, readSign (sign :: rest) = (negative, rest)) :
    readExponent? ('e' :: sign :: Nat.toDigits 10 value) =
      some (if negative then -(value : Int) else value) := by
  have given : Nat.toDigits 10 value ≠ [] := Nat.toDigits_ne_nil
  have digits : (Nat.toDigits 10 value).all Char.isDigit = true :=
    List.all_eq_true.mpr (isDigit_of_mem_toDigits value)
  unfold readExponent?
  dsimp only
  rw [signs]
  simp [given, digits, digitsValue_toDigits]

/-- The exponent of a number as it is written. -/
theorem readExponent?_written (power : Int) :
    readExponent? ('e' :: (if power < 0 then toString power else "+" ++ toString power).toList) =
      some power := by
  cases power with
  | ofNat value =>
      have positive : ¬ Int.ofNat value < 0 := Int.not_lt.mpr (Int.natCast_nonneg value)
      rw [if_neg positive, String.toList_append, toString_ofNat]
      exact readExponent?_signed '+' false value fun _ => rfl
  | negSucc value =>
      rw [if_pos (Int.negSucc_lt_zero value), toString_negSucc]
      exact readExponent?_signed '-' true (value + 1) fun _ => rfl

/-! ### Reading decimals -/

theorem mark_endsDigits (rest : List Char) : EndsRun Char.isDigit ('e' :: rest) := by
  rintro _ ⟨⟩
  rfl

private theorem readDecimal?_scientific (decimal : Decimal) :
    readDecimal? decimal.scientific.toList = some decimal := by
  obtain ⟨value, exponent⟩ := decimal
  have digits := isDigit_of_mem_toDigits value
  have back := digitsValue_toDigits value
  unfold Decimal.scientific
  dsimp only
  rw [toList_toString]
  cases laid : Nat.toDigits 10 value with
  | nil => exact absurd laid Nat.toDigits_ne_nil
  | cons first others =>
      rw [laid] at digits back
      obtain ⟨firstDigit, otherDigits⟩ := List.forall_mem_cons.mp digits
      have single : ∀ digit ∈ [first], digit.isDigit := List.forall_mem_singleton.mpr firstDigit
      have mark (rest : List Char) : "e".toList ++ rest = 'e' :: rest := rfl
      cases others with
      | nil =>
          dsimp only
          rw [String.toList_append, String.toList_append, String.toList_ofList, List.append_assoc,
            mark]
          refine (readDecimal?_whole (List.cons_ne_nil first []) single
            (mark_endsDigits _) nofun).trans ?_
          rw [readExponent?_written, back]
          simp
      | cons second more =>
          dsimp only
          rw [String.toList_append, String.toList_append, String.toList_ofList, List.append_assoc,
            mark]
          refine (readDecimal?_fraction (List.cons_ne_nil first []) single otherDigits
            (mark_endsDigits _)).trans ?_
          rw [readExponent?_written, List.singleton_append, back]
          simp
          omega

private theorem readDecimal?_positional {decimal : Decimal} (fraction : decimal.exponent < 0) :
    readDecimal? decimal.positional.toList = some decimal := by
  obtain ⟨value, exponent⟩ := decimal
  have digits := isDigit_of_mem_toDigits value
  have back := digitsValue_toDigits value
  unfold Decimal.positional
  dsimp only at fraction ⊢
  rw [toList_toString]
  generalize Nat.toDigits 10 value = laid at digits back ⊢
  split
  · rename_i inside
    obtain ⟨count, same⟩ := Int.eq_ofNat_of_zero_le inside.le
    have before : laid.take count ≠ [] := by
      refine List.ne_nil_of_length_pos ?_
      rw [List.length_take]
      omega
    rw [same, Int.toNat_natCast, String.toList_ofList, ← List.append_nil (laid.drop count)]
    refine (readDecimal?_fraction before
      (fun digit present => digits digit (List.mem_of_mem_take present))
      (fun digit present => digits digit (List.mem_of_mem_drop present))
      endsRun_nil).trans ?_
    rw [List.take_append_drop, back]
    simp [readExponent?]
    omega
  · rename_i outside
    obtain ⟨count, same⟩ :=
      Int.eq_ofNat_of_zero_le (Int.neg_nonneg_of_nonpos (Int.not_lt.mp outside))
    have zeros : ∀ digit ∈ List.replicate count '0' ++ laid, digit.isDigit := by
      refine List.forall_mem_append.mpr ⟨fun digit present => ?_, digits⟩
      rw [List.eq_of_mem_replicate present]
      rfl
    rw [same, Int.toNat_natCast, String.toList_ofList,
      ← List.append_nil (List.replicate count '0' ++ laid)]
    refine (readDecimal?_fraction (List.cons_ne_nil '0' [])
      (List.forall_mem_singleton.mpr rfl) zeros endsRun_nil).trans ?_
    rw [digitsValue_append, digitsValue_append]
    have leading : digitsValue (digitsValue 0 ['0']) (List.replicate count '0') = 0 :=
      digitsValue_zeros count
    rw [leading, back]
    simp [readExponent?]
    omega

private theorem readDecimal?_natural (value : Nat) :
    readDecimal? (toString value).toList = some ⟨value, 0⟩ := by
  rw [toList_toString, ← List.append_nil (Nat.toDigits 10 value)]
  refine (readDecimal?_whole Nat.toDigits_ne_nil (isDigit_of_mem_toDigits value)
    endsRun_nil nofun).trans ?_
  rw [digitsValue_toDigits]
  rfl

/-! ### Reading numbers -/

/-- A magnitude is written as a decimal that is rounded to it. -/
theorem magnitudeText_reads (code : Nat) :
    ∃ decimal : Decimal,
      readDecimal? (magnitudeText code).toList = some decimal ∧ decimal.RoundsTo code := by
  unfold magnitudeText
  split
  · exact ⟨_, readDecimal?_scientific _, shortest_roundsTo code⟩
  · split
    · rename_i whole
      exact ⟨_, readDecimal?_natural _, whole_roundsTo whole⟩
    · rename_i fraction
      exact ⟨_, readDecimal?_positional (shortest_exponent_neg fraction), shortest_roundsTo code⟩

private theorem readSign_of_reads {text : List Char} {decimal : Decimal}
    (reads : readDecimal? text = some decimal) : readSign text = (false, text) := by
  unfold readSign
  split
  · cases reads
  · cases reads
  · rfl

/-- What is read from the text of a finite number: its sign, and a decimal that is rounded to its
magnitude. -/
theorem text_reads (negative : Bool) (code : Fin codeLimit) :
    ∃ unsigned decimal,
      readSign (finite negative code).text.toList = (negative && code.val != 0, unsigned) ∧
        readDecimal? unsigned = some decimal ∧ decimal.RoundsTo code.val := by
  unfold text
  dsimp only
  split
  · rename_i zero
    rw [zero]
    exact ⟨_, ⟨0, 0⟩, by rw [bne_self_eq_false, Bool.and_false]; rfl, rfl, zero_roundsTo⟩
  · rename_i positive
    obtain ⟨decimal, reads, rounds⟩ := magnitudeText_reads code.val
    rw [(bne_iff_ne).mpr positive, Bool.and_true]
    cases negative with
    | false =>
        rw [if_neg Bool.false_ne_true, readSign_of_reads reads]
        exact ⟨_, decimal, rfl, reads, rounds⟩
    | true =>
        have minus (rest : List Char) : readSign ("-".toList ++ rest) = (true, rest) := rfl
        rw [if_pos rfl, String.toList_append, minus]
        exact ⟨_, decimal, rfl, reads, rounds⟩

/-- Finite numbers with one text are the same number. -/
theorem same_of_text_eq {first second : Number} (finiteFirst : first.isFinite = true)
    (finiteSecond : second.isFinite = true) (texts : first.text = second.text) :
    first.same second = true := by
  cases first with
  | nan => cases finiteFirst
  | infinite negative => cases finiteFirst
  | finite negative code =>
      cases second with
      | nan => cases finiteSecond
      | infinite negative => cases finiteSecond
      | finite otherNegative otherCode =>
          obtain ⟨unsigned, decimal, signed, reads, rounds⟩ := text_reads negative code
          obtain ⟨otherUnsigned, otherDecimal, otherSigned, otherReads, otherRounds⟩ :=
            text_reads otherNegative otherCode
          rw [texts, otherSigned, Prod.mk.injEq] at signed
          obtain ⟨signs, rfl⟩ := signed
          rw [otherReads, Option.some.injEq] at reads
          subst reads
          have codes := Fin.ext (rounds.unique otherRounds)
          subst codes
          unfold same
          dsimp only
          rw [beq_self_eq_true, Bool.true_and]
          cases zero : code.val == 0 with
          | true => rw [Bool.or_true]
          | false =>
              unfold bne at signs
              rw [zero, Bool.not_false, Bool.and_true, Bool.and_true] at signs
              rw [signs, beq_self_eq_true, Bool.or_false]

/-! ### Characters -/

def isNumeralChar (char : Char) : Bool :=
  char.isDigit || char == '-' || char == '+' || char == '.' || char == 'e'

def Numeral (text : List Char) : Prop := ∀ char ∈ text, isNumeralChar char = true

private theorem numeral_append {first second : List Char} :
    Numeral (first ++ second) ↔ Numeral first ∧ Numeral second :=
  List.forall_mem_append

private theorem numeral_cons {first : Char} {rest : List Char} :
    Numeral (first :: rest) ↔ isNumeralChar first = true ∧ Numeral rest :=
  List.forall_mem_cons

private theorem numeral_of_digits {digits : List Char} (all : ∀ digit ∈ digits, digit.isDigit) :
    Numeral digits := by
  intro digit present
  unfold isNumeralChar
  rw [all digit present]
  rfl

private theorem numeral_integer (value : Int) : Numeral (toString value).toList := by
  cases value with
  | ofNat value =>
      rw [toString_ofNat]
      exact numeral_of_digits (isDigit_of_mem_toDigits _)
  | negSucc value =>
      rw [toString_negSucc]
      exact numeral_cons.mpr ⟨rfl, numeral_of_digits (isDigit_of_mem_toDigits _)⟩

private theorem scientific_numeral (decimal : Decimal) : Numeral decimal.scientific.toList := by
  have digits := numeral_of_digits (isDigit_of_mem_toDigits decimal.digits)
  unfold Decimal.scientific
  dsimp only
  rw [toList_toString, String.toList_append, String.toList_append, numeral_append, numeral_append]
  generalize Nat.toDigits 10 decimal.digits = laid at digits ⊢
  refine ⟨⟨?_, numeral_cons.mpr ⟨rfl, nofun⟩⟩, ?_⟩
  · split
    · rw [String.toList_ofList]
      obtain ⟨first, others⟩ := numeral_cons.mp digits
      exact numeral_cons.mpr ⟨first, numeral_cons.mpr ⟨rfl, others⟩⟩
    · rw [String.toList_ofList]
      exact digits
  · split
    · exact numeral_integer _
    · rw [String.toList_append]
      exact numeral_cons.mpr ⟨rfl, numeral_integer _⟩

private theorem positional_numeral (decimal : Decimal) : Numeral decimal.positional.toList := by
  have digits := numeral_of_digits (isDigit_of_mem_toDigits decimal.digits)
  unfold Decimal.positional
  dsimp only
  rw [toList_toString]
  generalize Nat.toDigits 10 decimal.digits = laid at digits ⊢
  split
  · rw [String.toList_ofList, numeral_append, numeral_cons]
    exact ⟨fun char present => digits char (List.mem_of_mem_take present), rfl,
      fun char present => digits char (List.mem_of_mem_drop present)⟩
  · rw [String.toList_ofList, numeral_cons, numeral_cons, numeral_append]
    refine ⟨rfl, rfl, fun char present => ?_, digits⟩
    rw [List.eq_of_mem_replicate present]
    rfl

private theorem magnitudeText_numeral (code : Nat) : Numeral (magnitudeText code).toList := by
  unfold magnitudeText
  split
  · exact scientific_numeral _
  · split
    · rw [toList_toString]
      exact numeral_of_digits (isDigit_of_mem_toDigits _)
    · exact positional_numeral _

theorem text_numeral {number : Number} (isFinite : number.isFinite = true) :
    Numeral number.text.toList := by
  cases number with
  | nan => cases isFinite
  | infinite negative => cases isFinite
  | finite negative code =>
      unfold text
      dsimp only
      split
      · exact numeral_cons.mpr ⟨rfl, nofun⟩
      · split
        · rw [String.toList_append]
          exact numeral_cons.mpr ⟨rfl, magnitudeText_numeral _⟩
        · exact magnitudeText_numeral _

/-- A number starts like no word. -/
theorem text_start {number : Number} (isFinite : number.isFinite = true) :
    ∃ start rest,
      number.text.toList = start :: rest ∧ isNumeralChar start = true ∧ start ≠ 'e' := by
  have numeral := text_numeral isFinite
  cases number with
  | nan => cases isFinite
  | infinite negative => cases isFinite
  | finite negative code =>
      obtain ⟨unsigned, decimal, signed, reads, _⟩ := text_reads negative code
      cases written : (finite negative code).text.toList with
      | nil =>
          rw [written] at signed
          have empty : [] = unsigned := congrArg Prod.snd signed
          subst empty
          cases reads
      | cons start rest =>
          rw [written] at signed numeral
          refine ⟨start, rest, rfl, (numeral_cons.mp numeral).1, ?_⟩
          rintro rfl
          have whole : 'e' :: rest = unsigned := congrArg Prod.snd signed
          subst whole
          cases reads

end QueryTypes.Number
