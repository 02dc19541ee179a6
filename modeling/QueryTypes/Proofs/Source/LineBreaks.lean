import Mathlib.Data.List.Basic
import QueryTypes.Source.Location

/-!
Line breaks in the bytes of a source.

A line feed, a carriage return, and a carriage return with a line feed after it each make one break.
Which bytes are the last ones of breaks is told by the bytes next to them. No byte of any other
character is a line feed or a carriage return, so the characters show the same breaks.
-/

set_option autoImplicit false

namespace QueryTypes.Source

/-! ### Bytes -/

def lineFeed : UInt8 := 10

def carriageReturn : UInt8 := 13

def bytesOf (source : String) : List UInt8 := source.toUTF8.data.toList

def encoded (chars : List Char) : List UInt8 := chars.flatMap String.utf8EncodeChar

theorem bytesOf_eq_encoded (source : String) : bytesOf source = encoded source.toList := by
  have bytes : source.toByteArray = source.toList.utf8Encode := String.utf8Encode_toList.symm
  rw [bytesOf, String.toUTF8, bytes, List.utf8Encode, encoded, List.data_toByteArray]

private theorem encoded_cons (char : Char) (rest : List Char) :
    encoded (char :: rest) = String.utf8EncodeChar char ++ encoded rest := List.flatMap_cons

/-- A byte below 128 is the only one of its character. -/
theorem code_eq_of_mem_utf8EncodeChar {char : Char} {byte : UInt8}
    (present : byte ∈ String.utf8EncodeChar char) (low : byte.toNat < 128) :
    char.val.toNat = byte.toNat := by
  unfold String.utf8EncodeChar at present
  simp only at present
  split at present
  · rename_i single
    rw [List.mem_singleton.mp present, UInt8.toNat_ofNat']
    exact (Nat.mod_eq_of_lt (by omega)).symm
  · -- Each byte of a longer form is a number below 128 with 128 added to it.
    grind [UInt8.toNat_ofNat']

private theorem not_mem_utf8EncodeChar {char other : Char} (different : char ≠ other)
    (low : other.val.toNat < 128) : UInt8.ofNat other.val.toNat ∉ String.utf8EncodeChar char := by
  have code : (UInt8.ofNat other.val.toNat).toNat = other.val.toNat := by
    rw [UInt8.toNat_ofNat', Nat.mod_eq_of_lt (by omega)]
  intro present
  have same := code_eq_of_mem_utf8EncodeChar present (by rw [code]; exact low)
  exact different (Char.ext (UInt32.toNat_inj.mp (same.trans code)))

/-! ### Breaks -/

/-- A line break of a text, from its first byte to the end of its last one. -/
inductive IsBreak (bytes : List UInt8) : Nat → Nat → Prop where
  | feed {start : Nat} (feeds : bytes[start]? = some lineFeed)
      (alone : ∀ before, start = before + 1 → bytes[before]? ≠ some carriageReturn) :
      IsBreak bytes start (start + 1)
  | return {start : Nat} (returns : bytes[start]? = some carriageReturn)
      (alone : bytes[start + 1]? ≠ some lineFeed) : IsBreak bytes start (start + 1)
  | both {start : Nat} (returns : bytes[start]? = some carriageReturn)
      (feeds : bytes[start + 1]? = some lineFeed) : IsBreak bytes start (start + 2)

/-- Two breaks never end at one place. -/
theorem IsBreak.start_unique {bytes : List UInt8} {start other stop : Nat}
    (one : IsBreak bytes start stop) (also : IsBreak bytes other stop) : start = other := by
  have different : lineFeed ≠ carriageReturn := by decide
  cases one with
  | feed feeds alone =>
      cases also with
      | feed | «return» => rfl
      | both returns _ => exact absurd returns (alone _ rfl)
  | «return» returns _ =>
      cases also with
      | feed | «return» => rfl
      | both _ feeds => exact absurd (Option.some.inj (feeds.symm.trans returns)) different
  | both returns feeds =>
      cases also with
      | feed _ alone => exact absurd returns (alone start rfl)
      | «return» again _ => exact absurd (Option.some.inj (feeds.symm.trans again)) different
      | both => rfl

def ClosesBreak (bytes : List UInt8) (last : Nat) : Prop :=
  bytes[last]? = some lineFeed ∨
    bytes[last]? = some carriageReturn ∧ bytes[last + 1]? ≠ some lineFeed

theorem exists_isBreak_iff {bytes : List UInt8} {stop : Nat} :
    (∃ start, IsBreak bytes start stop) ↔ ∃ last, stop = last + 1 ∧ ClosesBreak bytes last := by
  constructor
  · rintro ⟨start, found⟩
    cases found with
    | feed feeds _ => exact ⟨start, rfl, .inl feeds⟩
    | «return» returns alone => exact ⟨start, rfl, .inr ⟨returns, alone⟩⟩
    | both _ feeds => exact ⟨start + 1, rfl, .inl feeds⟩
  · rintro ⟨last, rfl, feeds | ⟨returns, alone⟩⟩
    · by_cases paired : ∃ before, last = before + 1 ∧ bytes[before]? = some carriageReturn
      · obtain ⟨before, rfl, returns⟩ := paired
        exact ⟨before, .both returns feeds⟩
      · exact ⟨last, .feed feeds fun before follows returns => paired ⟨before, follows, returns⟩⟩
    · exact ⟨last, .return returns alone⟩

def StopsAt (offset : Nat) (bytes : List UInt8) (stop : Nat) : Prop :=
  ∃ last, stop = offset + (last + 1) ∧ ClosesBreak bytes last

private theorem not_stopsAt_nil (offset stop : Nat) : ¬ StopsAt offset [] stop := by
  simp [StopsAt, ClosesBreak]

private theorem stopsAt_cons {offset stop : Nat} {byte : UInt8} {rest : List UInt8} :
    StopsAt offset (byte :: rest) stop ↔
      stop = offset + 1 ∧ (byte = lineFeed ∨ byte = carriageReturn ∧ rest[0]? ≠ some lineFeed) ∨
        StopsAt (offset + 1) rest stop := by
  constructor
  · rintro ⟨last, rfl, closes⟩
    cases last with
    | zero => exact .inl ⟨rfl, by simpa [ClosesBreak] using closes⟩
    | succ later => exact .inr ⟨later, by omega, closes⟩
  · rintro (⟨rfl, closes⟩ | ⟨later, rfl, closes⟩)
    · exact ⟨0, rfl, by simpa [ClosesBreak] using closes⟩
    · exact ⟨later + 1, by omega, closes⟩

private theorem stopsAt_feed {offset stop : Nat} {rest : List UInt8} :
    StopsAt offset (lineFeed :: rest) stop ↔
      stop = offset + 1 ∨ StopsAt (offset + 1) rest stop := by
  rw [stopsAt_cons, and_iff_left (.inl rfl)]

private theorem stopsAt_return {offset stop : Nat} {rest : List UInt8}
    (alone : rest[0]? ≠ some lineFeed) :
    StopsAt offset (carriageReturn :: rest) stop ↔
      stop = offset + 1 ∨ StopsAt (offset + 1) rest stop := by
  rw [stopsAt_cons, and_iff_left (.inr ⟨rfl, alone⟩)]

private theorem stopsAt_both {offset stop : Nat} {rest : List UInt8} :
    StopsAt offset (carriageReturn :: lineFeed :: rest) stop ↔
      stop = offset + 2 ∨ StopsAt (offset + 2) rest stop := by
  have goesOn : ¬ (carriageReturn = lineFeed ∨
      carriageReturn = carriageReturn ∧ (lineFeed :: rest)[0]? ≠ some lineFeed) :=
    not_or.mpr ⟨by decide, fun returns => returns.2 rfl⟩
  rw [stopsAt_cons, or_iff_right fun here => goesOn here.2, stopsAt_feed]

/-- Bytes of which none is part of a break are passed over. -/
theorem stopsAt_append {bytes rest : List UInt8} {offset stop : Nat} (noFeed : lineFeed ∉ bytes)
    (noReturn : carriageReturn ∉ bytes) :
    StopsAt offset (bytes ++ rest) stop ↔ StopsAt (offset + bytes.length) rest stop := by
  induction bytes generalizing offset with
  | nil => rfl
  | cons byte others ih =>
      rw [List.mem_cons, not_or] at noFeed noReturn
      have plain : ¬ (byte = lineFeed ∨
          byte = carriageReturn ∧ (others ++ rest)[0]? ≠ some lineFeed) :=
        not_or.mpr ⟨Ne.symm noFeed.1, fun returns => noReturn.1 returns.1.symm⟩
      rw [List.cons_append, stopsAt_cons, ih noFeed.2 noReturn.2, List.length_cons,
        Nat.add_assoc, Nat.add_comm 1]
      exact or_iff_right fun here => plain here.2

/-! ### The scan -/

private theorem encoded_feed (rest : List Char) :
    encoded ('\n' :: rest) = lineFeed :: encoded rest := rfl

private theorem encoded_return (rest : List Char) :
    encoded ('\r' :: rest) = carriageReturn :: encoded rest := rfl

private theorem encoded_head_ne_feed {chars : List Char} (other : ∀ rest, chars ≠ '\n' :: rest) :
    (encoded chars)[0]? ≠ some lineFeed := by
  cases chars with
  | nil => exact nofun
  | cons char rest =>
      have different : char ≠ '\n' := fun same => other rest (by rw [same])
      rw [encoded_cons]
      obtain ⟨byte, more, bytes⟩ := List.exists_cons_of_ne_nil (l := String.utf8EncodeChar char)
        (by rw [← List.length_pos_iff, String.length_utf8EncodeChar]; exact char.utf8Size_pos)
      have absent := not_mem_utf8EncodeChar different (by decide)
      rw [bytes, List.mem_cons, not_or] at absent
      rw [bytes]
      exact fun found => absent.1 (Option.some.inj found).symm

/-- The scan of the characters finds the ends of all breaks in the bytes. -/
theorem mem_breakEnds {chars : List Char} {offset stop : Nat} :
    stop ∈ breakEnds offset chars ↔ StopsAt offset (encoded chars) stop := by
  fun_induction breakEnds offset chars with
  | case1 offset => exact iff_of_false List.not_mem_nil (not_stopsAt_nil offset stop)
  | case2 offset rest ih => rw [List.mem_cons, ih, encoded_return, encoded_feed, stopsAt_both]
  | case3 offset char rest single ends ih =>
      rw [List.mem_cons, ih]
      rcases ends with rfl | rfl
      · rw [encoded_feed, stopsAt_feed]
      · have alone := encoded_head_ne_feed fun others => single others rfl
        rw [encoded_return, stopsAt_return alone]
  | case4 offset char rest _ goesOn ih =>
      rw [not_or] at goesOn
      rw [ih, encoded_cons, stopsAt_append (not_mem_utf8EncodeChar goesOn.1 (by decide))
        (not_mem_utf8EncodeChar goesOn.2 (by decide)), String.length_utf8EncodeChar]

theorem lt_of_mem_breakEnds {chars : List Char} {offset stop : Nat}
    (ends : stop ∈ breakEnds offset chars) : offset < stop := by
  obtain ⟨last, rfl, _⟩ := mem_breakEnds.mp ends
  omega

/-- The scan goes forward. -/
theorem breakEnds_ascending (offset : Nat) (chars : List Char) :
    (breakEnds offset chars).Pairwise (· < ·) := by
  fun_induction breakEnds offset chars with
  | case1 offset => exact .nil
  | case2 offset rest ih => exact .cons (fun _ => lt_of_mem_breakEnds) ih
  | case3 offset char rest _ _ ih => exact .cons (fun _ => lt_of_mem_breakEnds) ih
  | case4 offset char rest _ _ ih => exact ih

end QueryTypes.Source
