import NetRemote.Foundation.Bytes

namespace NetRemote.Strings

open Foundation.Bytes

-- `result` is what the array has from position `i` on. The loop runs to the end of
-- the array, and only the error of a conversion is looked at.
def parseHexBytes (hexString : ByteString) :
    Nat → List UInt8 → Except StdException Bool × List UInt8
  | _, [] => (.ok true, [])
  | i, byte :: result =>
      if hexString.length < i * 2 then (.error .OutOfRange, byte :: result)
      else
        match fromCharsHex (substr hexString (i * 2) 2) with
        | none => (.ok false, byte :: result)
        | some converted =>
            let parsed := parseHexBytes hexString (i + 1) result
            (parsed.1, converted :: parsed.2)

-- The outcome of the call, and the array as it is left.
def parseHexString (hexString : ByteString) (result : List UInt8) (numberOfBytesToParse : Nat) :
    Except StdException Bool × List UInt8 :=
  if hexString.length / 2 < numberOfBytesToParse then (.ok false, result)
  else parseHexBytes hexString 0 result

-- There is a character at the position, and it is a digit.
def HexAt (hexString : ByteString) (position : Nat) : Prop :=
  ∃ digit ∈ hexString[position]?, (hexDigitValue digit).isSome

def AllHex (hexString : ByteString) : Prop :=
  ∀ digit ∈ hexString, (hexDigitValue digit).isSome

instance (hexString : ByteString) : Decidable (AllHex hexString) :=
  List.decidableBAll _ hexString

-- As many bytes fit into an array of the size, and there are digits for all of them.
def Parsable (hexString : ByteString) (size numberOfBytesToParse : Nat) : Prop :=
  numberOfBytesToParse ≤ size ∧ 2 * numberOfBytesToParse ≤ hexString.length ∧
    AllHex (hexString.take (2 * numberOfBytesToParse))

-- A text is accepted where there are digits for all bytes; these are then stored, and
-- the rest of the array is left alone.
structure Documented (hexString : ByteString) (result : List UInt8) (numberOfBytesToParse : Nat)
    (outcome : Except StdException Bool × List UInt8) : Prop where
  returns : ∃ accepted, outcome.1 = .ok accepted ∧
    (accepted = true ↔ Parsable hexString result.length numberOfBytesToParse)
  decoded : outcome.1 = .ok true →
    decodeHex (hexString.take (2 * numberOfBytesToParse)) =
      some (outcome.2.take numberOfBytesToParse)
  unchanged : outcome.1 = .ok true →
    outcome.2.drop numberOfBytesToParse = result.drop numberOfBytesToParse

section Loop

variable {hexString : ByteString}

theorem fromCharsHex_substr_isSome_iff (i : Nat) :
    (fromCharsHex (substr hexString (i * 2) 2)).isSome ↔ HexAt hexString (i * 2) := by
  have hshort : (substr hexString (i * 2) 2).length ≤ 2 := List.length_take_le _ _
  have hhead : (substr hexString (i * 2) 2).head? = hexString[i * 2]? := by
    rw [substr, List.head?_take, if_neg (by decide), List.head?_drop]
  rw [fromCharsHex_isSome_iff hshort, hhead, HexAt]

-- A position that has no character is reached only where the one before it is the last.
theorem lt_length_of_hexAt {position : Nat} (h : HexAt hexString position) :
    position < hexString.length := by
  obtain ⟨digit, hdigit, -⟩ := h
  exact (List.getElem?_eq_some_iff.mp hdigit).1

theorem parseHexBytes_of_hexAt {i : Nat} (h : HexAt hexString (i * 2)) (byte : UInt8)
    (result : List UInt8) :
    ∃ converted, fromCharsHex (substr hexString (i * 2) 2) = some converted ∧
      parseHexBytes hexString i (byte :: result) =
        ((parseHexBytes hexString (i + 1) result).1,
          converted :: (parseHexBytes hexString (i + 1) result).2) := by
  have hlength := lt_length_of_hexAt h
  obtain ⟨converted, hconverted⟩ :=
    Option.isSome_iff_exists.mp ((fromCharsHex_substr_isSome_iff i).mpr h)
  refine ⟨converted, hconverted, ?_⟩
  rw [parseHexBytes, if_neg (by omega), hconverted]

theorem parseHexBytes_of_not_hexAt {i : Nat} (h : ¬ HexAt hexString (i * 2)) (byte : UInt8)
    (result : List UInt8) :
    parseHexBytes hexString i (byte :: result) =
      (if hexString.length < i * 2 then .error .OutOfRange else .ok false, byte :: result) := by
  have hnone : fromCharsHex (substr hexString (i * 2) 2) = none := by
    rw [← Option.not_isSome_iff_eq_none, fromCharsHex_substr_isSome_iff]
    exact h
  rw [parseHexBytes, hnone]
  split_ifs <;> rfl

theorem parseHexBytes_true_iff (hexString : ByteString) (i : Nat) (result : List UInt8) :
    (parseHexBytes hexString i result).1 = .ok true ↔
      ∀ j < result.length, HexAt hexString ((i + j) * 2) := by
  induction result generalizing i with
  | nil => simp [parseHexBytes]
  | cons byte result ih =>
      have hsplit : (∀ j < (byte :: result).length, HexAt hexString ((i + j) * 2)) ↔
          HexAt hexString (i * 2) ∧ ∀ j < result.length, HexAt hexString ((i + 1 + j) * 2) := by
        rw [List.length_cons, Nat.forall_lt_succ_left]
        simp only [Nat.add_zero, Nat.add_assoc, Nat.add_comm 1]
      rw [hsplit, ← ih (i + 1)]
      by_cases hfirst : HexAt hexString (i * 2)
      · obtain ⟨converted, -, hparsed⟩ := parseHexBytes_of_hexAt hfirst byte result
        rw [hparsed]
        exact (and_iff_right hfirst).symm
      · rw [parseHexBytes_of_not_hexAt hfirst]
        simp only [hfirst, false_and, iff_false]
        split_ifs <;> nofun

-- The call comes back with `false` where the text ends with a pair, or a pair starts
-- with no digit.
theorem parseHexBytes_false_iff (hexString : ByteString) (i : Nat) (result : List UInt8) :
    (parseHexBytes hexString i result).1 = .ok false ↔
      ∃ j < result.length, (i + j) * 2 ≤ hexString.length ∧ ¬ HexAt hexString ((i + j) * 2) := by
  induction result generalizing i with
  | nil => simp [parseHexBytes]
  | cons byte result ih =>
      have hsplit : (∃ j < (byte :: result).length, (i + j) * 2 ≤ hexString.length ∧
          ¬ HexAt hexString ((i + j) * 2)) ↔
            (i * 2 ≤ hexString.length ∧ ¬ HexAt hexString (i * 2)) ∨
            ∃ j < result.length, (i + 1 + j) * 2 ≤ hexString.length ∧
              ¬ HexAt hexString ((i + 1 + j) * 2) := by
        rw [List.length_cons, Nat.exists_lt_succ_left]
        simp only [Nat.add_zero, Nat.add_assoc, Nat.add_comm 1]
      rw [hsplit, ← ih (i + 1)]
      by_cases hfirst : HexAt hexString (i * 2)
      · obtain ⟨converted, -, hparsed⟩ := parseHexBytes_of_hexAt hfirst byte result
        rw [hparsed]
        simp [hfirst]
      · rw [parseHexBytes_of_not_hexAt hfirst]
        by_cases hlength : hexString.length < i * 2
        · have hbeyond : (parseHexBytes hexString (i + 1) result).1 ≠ .ok false := by
            rw [Ne, ih]
            rintro ⟨j, -, hle, -⟩
            omega
          simp only [hlength, if_true, hbeyond, or_false, Nat.not_le.mpr hlength, false_and]
          exact iff_of_false nofun not_false
        · simp [hlength, hfirst, Nat.le_of_not_lt hlength]

theorem length_parseHexBytes (hexString : ByteString) (i : Nat) (result : List UInt8) :
    (parseHexBytes hexString i result).2.length = result.length := by
  induction result generalizing i with
  | nil => rfl
  | cons byte result ih =>
      by_cases hfirst : HexAt hexString (i * 2)
      · obtain ⟨converted, -, hparsed⟩ := parseHexBytes_of_hexAt hfirst byte result
        rw [hparsed, List.length_cons, List.length_cons, ih]
      · rw [parseHexBytes_of_not_hexAt hfirst]

-- What is accepted is stored byte by byte.
theorem getElem?_parseHexBytes {i : Nat} {result : List UInt8}
    (h : ∀ j < result.length, HexAt hexString ((i + j) * 2)) {j : Nat} (hj : j < result.length) :
    (parseHexBytes hexString i result).2[j]? =
      fromCharsHex (substr hexString ((i + j) * 2) 2) := by
  induction result generalizing i j with
  | nil => exact absurd hj (Nat.not_lt_zero j)
  | cons byte result ih =>
      obtain ⟨converted, hconverted, hparsed⟩ :=
        parseHexBytes_of_hexAt (h 0 (Nat.succ_pos _)) byte result
      rw [Nat.add_zero] at hconverted hparsed
      rw [hparsed]
      cases j with
      | zero => exact hconverted.symm
      | succ j =>
          have hrest : ∀ k < result.length, HexAt hexString ((i + 1 + k) * 2) := by
            intro k hk
            have hnext := h (k + 1) (Nat.succ_lt_succ hk)
            rwa [show i + (k + 1) = i + 1 + k by omega] at hnext
          have hstored := ih hrest (Nat.lt_of_succ_lt_succ hj)
          rw [List.getElem?_cons_succ, hstored, show i + 1 + j = i + (j + 1) by omega]

end Loop

section Documentation

-- Where all characters are digits the pairs are read as a whole.
theorem decodeHex_of_pairs {hexString : ByteString} {bytes : List UInt8}
    (hlength : hexString.length = 2 * bytes.length) (hdigits : AllHex hexString)
    (hbytes : ∀ j < bytes.length, bytes[j]? = fromCharsHex (substr hexString (j * 2) 2)) :
    decodeHex hexString = some bytes := by
  induction bytes generalizing hexString with
  | nil =>
      obtain rfl : hexString = [] := List.length_eq_zero_iff.mp hlength
      rfl
  | cons byte bytes ih =>
      match hexString, hlength, hdigits, hbytes with
      | high :: low :: rest, hlength, hdigits, hbytes =>
          simp only [AllHex, List.forall_mem_cons, Option.isSome_iff_exists] at hdigits
          obtain ⟨⟨highDigit, hhigh⟩, ⟨lowDigit, hlow⟩, hrest⟩ := hdigits
          have hcount : rest.length = 2 * bytes.length := by
            simp only [List.length_cons] at hlength
            omega
          have hfirst : some byte = fromCharsHex [high, low] := hbytes 0 (Nat.succ_pos _)
          have hlater : ∀ j < bytes.length, bytes[j]? = fromCharsHex (substr rest (j * 2) 2) := by
            intro j hj
            have hnext := hbytes (j + 1) (Nat.succ_lt_succ hj)
            rw [List.getElem?_cons_succ, show (j + 1) * 2 = j * 2 + 1 + 1 by omega] at hnext
            exact hnext
          have hdecoded := ih hcount (by simpa [AllHex, Option.isSome_iff_exists]) hlater
          rw [fromCharsHex_pair hhigh hlow, Option.some.injEq] at hfirst
          simp [decodeHex, hhigh, hlow, hdecoded, hfirst]

variable (hexString : ByteString) (result : List UInt8) (numberOfBytesToParse : Nat)

theorem not_parsable_of_short (h : hexString.length / 2 < numberOfBytesToParse) (size : Nat) :
    ¬ Parsable hexString size numberOfBytesToParse := by
  rintro ⟨-, hlength, -⟩
  omega

-- What is accepted meets the documentation where the array has no byte more than asked for
-- that would change.
theorem documented_of_accepted
    (hall : ∀ i < result.length, HexAt hexString (i * 2))
    (hlong : ¬ hexString.length / 2 < numberOfBytesToParse) :
    Documented hexString result numberOfBytesToParse
        (parseHexString hexString result numberOfBytesToParse) ↔
      Parsable hexString result.length numberOfBytesToParse ∧
        ∀ i, numberOfBytesToParse ≤ i → i < result.length →
          fromCharsHex (substr hexString (i * 2) 2) = result[i]? := by
  have hall' : ∀ j < result.length, HexAt hexString ((0 + j) * 2) := by simpa using hall
  have haccepted := (parseHexBytes_true_iff hexString 0 result).mpr hall'
  have hlength := length_parseHexBytes hexString 0 result
  have hstored : ∀ j < result.length, (parseHexBytes hexString 0 result).2[j]? =
      fromCharsHex (substr hexString (j * 2) 2) := by
    intro j hj
    have hbyte := getElem?_parseHexBytes hall' hj
    rwa [Nat.zero_add] at hbyte
  rw [parseHexString, if_neg hlong]
  constructor
  · rintro ⟨⟨accepted, hreturned, hparsable⟩, -, hunchanged⟩
    rw [haccepted, Except.ok.injEq] at hreturned
    refine ⟨hparsable.mp hreturned.symm, fun i hge hlt => ?_⟩
    have hdrop := congrArg (·[i - numberOfBytesToParse]?) (hunchanged haccepted)
    simp only [List.getElem?_drop, Nat.add_sub_cancel' hge] at hdrop
    rw [← hstored i hlt, hdrop]
  · rintro ⟨hparsable, hrest⟩
    obtain ⟨hsize, hchars, hdigits⟩ := hparsable
    refine ⟨⟨true, haccepted, iff_of_true rfl ⟨hsize, hchars, hdigits⟩⟩, fun _ => ?_, fun _ => ?_⟩
    · have htake : ((parseHexBytes hexString 0 result).2.take numberOfBytesToParse).length =
          numberOfBytesToParse := by
        rw [List.length_take, hlength]
        omega
      apply decodeHex_of_pairs
      · rw [List.length_take, htake]
        omega
      · exact hdigits
      · intro j hj
        rw [htake] at hj
        rw [List.getElem?_take_of_lt hj, hstored j (by omega), substr, substr, List.drop_take,
          List.take_take, Nat.min_eq_left (by omega)]
    · apply List.ext_getElem?
      intro i
      rw [List.getElem?_drop, List.getElem?_drop]
      by_cases hlt : numberOfBytesToParse + i < result.length
      · rw [hstored _ hlt, hrest _ (Nat.le_add_right _ _) hlt]
      · rw [List.getElem?_eq_none (by omega), List.getElem?_eq_none (by omega)]

-- The loop runs over the whole array whatever is asked for, a pair is read although its
-- second character is no digit, and a piece may start past the end.
theorem parseHexString_documented_iff :
    Documented hexString result numberOfBytesToParse
        (parseHexString hexString result numberOfBytesToParse) ↔
      hexString.length < 2 * numberOfBytesToParse ∨
      ((∃ i < result.length, i * 2 ≤ hexString.length ∧ ¬ HexAt hexString (i * 2)) ∧
        ¬ Parsable hexString result.length numberOfBytesToParse) ∨
      ((∀ i < result.length, HexAt hexString (i * 2)) ∧
        Parsable hexString result.length numberOfBytesToParse ∧
        ∀ i, numberOfBytesToParse ≤ i → i < result.length →
          fromCharsHex (substr hexString (i * 2) 2) = result[i]?) := by
  by_cases hshort : hexString.length / 2 < numberOfBytesToParse
  · have hrejected : parseHexString hexString result numberOfBytesToParse =
        (.ok false, result) := if_pos hshort
    refine iff_of_true ?_ (.inl (by omega))
    rw [hrejected]
    have hnot := not_parsable_of_short hexString numberOfBytesToParse hshort result.length
    exact ⟨⟨false, rfl, iff_of_false nofun hnot⟩, nofun, nofun⟩
  · have hlong : ¬ hexString.length < 2 * numberOfBytesToParse := by omega
    rw [or_iff_right hlong]
    by_cases hall : ∀ i < result.length, HexAt hexString (i * 2)
    · have hnone : ¬ ∃ i < result.length, i * 2 ≤ hexString.length ∧ ¬ HexAt hexString (i * 2) := by
        rintro ⟨i, hlt, -, hnot⟩
        exact hnot (hall i hlt)
      rw [documented_of_accepted hexString result numberOfBytesToParse hall hshort]
      simp only [hnone, false_and, false_or, and_iff_right hall]
    · have hfalse := parseHexBytes_false_iff hexString 0 result
      have htrue := parseHexBytes_true_iff hexString 0 result
      simp only [Nat.zero_add] at hfalse htrue
      rw [parseHexString, if_neg hshort]
      simp only [hall, false_and, or_false]
      by_cases hstop : ∃ i < result.length, i * 2 ≤ hexString.length ∧ ¬ HexAt hexString (i * 2)
      · have hrejected := hfalse.mpr hstop
        rw [and_iff_right hstop]
        constructor
        · rintro ⟨⟨accepted, hreturned, hparsable⟩, -, -⟩ hholds
          rw [hparsable.mpr hholds, hrejected] at hreturned
          cases hreturned
        · intro hnot
          refine ⟨⟨false, hrejected, iff_of_false nofun hnot⟩, ?_, ?_⟩ <;>
            exact fun haccepted => absurd (htrue.mp haccepted) hall
      · simp only [hstop, false_and, iff_false]
        rintro ⟨⟨accepted, hreturned, -⟩, -, -⟩
        cases accepted with
        | true => exact hall (htrue.mp hreturned)
        | false => exact hstop (hfalse.mp hreturned)

-- A pair with a letter that is no digit, an array with room for more, and a text that
-- ends in the middle of a pair.
theorem parseHexString_undocumented :
    parseHexString (str "7g") [0] 1 = (.ok true, [7]) ∧
      ¬ Documented (str "7g") [0] 1 (parseHexString (str "7g") [0] 1) ∧
      parseHexString (str "0011") [9, 9, 9] 1 = (.ok false, [0, 17, 9]) ∧
      ¬ Documented (str "0011") [9, 9, 9] 1 (parseHexString (str "0011") [9, 9, 9] 1) ∧
      parseHexString (str "001") [9, 9, 9] 1 = (.error .OutOfRange, [0, 1, 9]) ∧
      ¬ Documented (str "001") [9, 9, 9] 1 (parseHexString (str "001") [9, 9, 9] 1) := by
  have hletter : parseHexString (str "7g") [0] 1 = (.ok true, [7]) := by decide
  have hroom : parseHexString (str "0011") [9, 9, 9] 1 = (.ok false, [0, 17, 9]) := by decide
  have hodd : parseHexString (str "001") [9, 9, 9] 1 = (.error .OutOfRange, [0, 1, 9]) := by decide
  rw [hletter, hroom, hodd]
  refine ⟨rfl, ?_, rfl, ?_, rfl, ?_⟩
  · rintro ⟨⟨accepted, hreturned, hparsable⟩, -, -⟩
    obtain rfl := Except.ok.inj hreturned
    exact absurd (hparsable.mp rfl).2.2 (by decide)
  · rintro ⟨⟨accepted, hreturned, hparsable⟩, -, -⟩
    obtain rfl := Except.ok.inj hreturned
    exact absurd (hparsable.mpr ⟨by decide, by decide, by decide⟩) nofun
  · rintro ⟨⟨accepted, hreturned, -⟩, -, -⟩
    cases hreturned

end Documentation

end NetRemote.Strings
