/-
  Custody.Proofs.Printed
  ────────────────────────────────
  **WHAT IS PRINTED IS READ BACK.**

  A value without verbatim parts, with integers that fit a word, and nested no
  deeper than the reader goes, is printed as a text from which the reader gets
  the same value.  Each part is read off the front of whatever may follow it;
  only a numeral minds what that is.

  Main facts:
    * `readText_chars`   — a text is read back from between its quotes;
    * `readNumeral_word` — so is a number from its digits;
    * `parse?_print`     — and a value from its text.
-/
import Custody.Json.Parser
import Custody.Json.Printer

namespace Custody.Json

/-! ## §1. Texts. -/

/-- A control character is read back from its four digits. -/
theorem codeUnit?_control {n : Nat} (h : n < 0x20) :
    codeUnit? '0' '0' (Text.hexDigit (n / 16)) (Text.hexDigit (n % 16)) = some n := by
  revert n
  decide

/-- A character behind a backslash. -/
theorem readText_escape {c char : Char} (h : unescape? c = some char) (read rest : List Char) :
    readText read ('\\' :: c :: rest) = readText (char :: read) rest := by
  have letter : c ≠ 'u' := by
    intro same
    rw [same] at h
    cases h
  rw [readText]
  · rw [h]
  · simp [letter]

/-- A character that is written by its code point. -/
theorem readText_unit {a b c d : Char} {n : Nat} (h : codeUnit? a b c d = some n)
    (low : n < 0xd800) (read rest : List Char) :
    readText read ('\\' :: 'u' :: a :: b :: c :: d :: rest)
      = readText (Char.ofNat n :: read) rest := by
  rw [readText, h]
  simp [low]

/-- A character that stands for itself. -/
theorem readText_plain {c : Char} (quote : c ≠ '"') (slash : c ≠ '\\') (low : ¬ c.toNat < 0x20)
    (read rest : List Char) : readText read (c :: rest) = readText (c :: read) rest := by
  rw [readText]
  · rw [if_neg low]
  all_goals simp_all

/-- A character of a text is read back, escaped or not. -/
theorem readText_escapeChar (c : Char) (read rest : List Char) :
    readText read (escapeChar c ++ rest) = readText (c :: read) rest := by
  unfold escapeChar
  split
  case isTrue same => rw [same]; exact readText_escape rfl read rest
  case isFalse quote =>
  split
  case isTrue same => rw [same]; exact readText_escape rfl read rest
  case isFalse slash =>
  split
  case isTrue same => rw [same]; exact readText_escape rfl read rest
  case isFalse =>
  split
  case isTrue same => rw [same]; exact readText_escape rfl read rest
  case isFalse =>
  split
  case isTrue same => rw [same]; exact readText_escape rfl read rest
  case isFalse =>
  split
  case isTrue same => rw [same]; exact readText_escape rfl read rest
  case isFalse =>
  split
  case isTrue same => rw [same]; exact readText_escape rfl read rest
  case isFalse =>
  split
  case isTrue control =>
    -- Any other control character is written by its code point.
    have unit := codeUnit?_control control
    have read_back := readText_unit unit (by omega) read rest
    rw [Char.ofNat_toNat] at read_back
    exact read_back
  case isFalse low => exact readText_plain quote slash low read rest

/-- **A text is read back from between its quotes.** -/
theorem readText_chars (cs read rest : List Char) :
    readText read (cs.flatMap escapeChar ++ '"' :: rest)
      = some (String.ofList (read.reverse ++ cs), rest) := by
  induction cs generalizing read with
  | nil =>
    rw [List.append_nil]
    rfl
  | cons c cs ih =>
    rw [List.flatMap_cons, List.append_assoc, readText_escapeChar, ih, List.reverse_cons,
      List.append_assoc]
    rfl

/-! ## §2. Numerals. -/

/-- Characters that do not go on with a numeral. -/
def Ends (rest : List Char) : Prop :=
  ∀ c, rest.head? = some c → c.isDigit = false ∧ c ≠ '.' ∧ c ≠ 'e' ∧ c ≠ 'E'

theorem ends_nil : Ends [] := nofun

/-- A number ends in front of what could not be part of it. -/
theorem ends_cons {c : Char} {rest : List Char}
    (h : c.isDigit = false ∧ c ≠ '.' ∧ c ≠ 'e' ∧ c ≠ 'E') : Ends (c :: rest) := by
  intro other first
  cases first
  exact h

theorem isSpace_of_isDigit {c : Char} (digit : c.isDigit = true) : isSpace c = false := by
  unfold isSpace
  simp only [Bool.or_eq_false_iff, beq_eq_false_iff_ne]
  refine ⟨⟨⟨?_, ?_⟩, ?_⟩, ?_⟩ <;> rintro rfl <;> cases digit

/-- The digits of a number have no zero in front of them. -/
theorem toDigits_ne_zero_cons (n : Nat) (c : Char) (cs : List Char) :
    Nat.toDigits 10 n ≠ '0' :: c :: cs := by
  induction n using Nat.strongRecOn generalizing c cs with
  | ind n ih =>
    intro zero
    rw [Nat.toDigits_eq_if (by decide)] at zero
    split at zero
    case isTrue => exact absurd (congrArg List.length zero) (by simp)
    case isFalse large =>
      -- All but the last digit would be a lone zero, so the number would have one digit.
      have before : Nat.toDigits 10 (n / 10) = ['0'] := by
        cases digits : Nat.toDigits 10 (n / 10) with
        | nil => exact absurd digits Nat.toDigits_ne_nil
        | cons first rest =>
          rw [digits] at zero
          obtain ⟨rfl, -⟩ := List.cons.inj zero
          cases rest with
          | nil => rfl
          | cons second rest => exact absurd digits (ih (n / 10) (by omega) second rest)
      have value := @Nat.ofDigitChars_ten_toDigits (n / 10)
      rw [before] at value
      have none_left : n / 10 = 0 := value.symm
      omega

/-- A number begins with a digit. -/
theorem toDigits_eq_cons (n : Nat) :
    ∃ c cs, Nat.toDigits 10 n = c :: cs ∧ c.isDigit = true := by
  cases first : Nat.toDigits 10 n with
  | nil => exact absurd first Nat.toDigits_ne_nil
  | cons c cs =>
    refine ⟨c, cs, rfl, ?_⟩
    exact Nat.isDigit_of_mem_toDigits (by decide) (by decide) (first ▸ List.mem_cons_self)

/-- A number is read back from its decimal digits. -/
theorem digitsValue_toDigits (n : Nat) : digitsValue (Nat.toDigits 10 n) = n := by
  have value := @Nat.ofDigitChars_ten_toDigits n
  rw [Nat.ofDigitChars_eq_foldl] at value
  unfold digitsValue
  simpa only [Nat.mul_comm] using value

/-- **A number is read back from its digits.** -/
theorem readNumeral_word (n : Nat) {rest : List Char} (ends : Ends rest) :
    readNumeral (Nat.toDigits 10 n ++ rest)
      = some (⟨false, Nat.toDigits 10 n, [], []⟩, rest) := by
  have digits : ∀ c ∈ Nat.toDigits 10 n, c.isDigit = true :=
    fun c mem => Nat.isDigit_of_mem_toDigits (by decide) (by decide) mem
  -- The digits are all taken, and nothing of what follows them.
  have stop : rest.takeWhile Char.isDigit = [] ∧ rest.dropWhile Char.isDigit = rest := by
    cases rest with
    | nil => exact ⟨rfl, rfl⟩
    | cons c rest =>
      have other := (ends c rfl).1
      simp [other]
  have taken : (Nat.toDigits 10 n ++ rest).takeWhile Char.isDigit = Nat.toDigits 10 n := by
    rw [List.takeWhile_append_of_pos digits, stop.1, List.append_nil]
  have left : (Nat.toDigits 10 n ++ rest).dropWhile Char.isDigit = rest := by
    rw [List.dropWhile_append_of_pos digits, stop.2]
  have fraction : readFraction rest = some ([], rest) := by
    unfold readFraction
    split
    case h_1 => exact absurd rfl (ends '.' rfl).2.1
    case h_2 => rfl
  have exponent : readExponent rest = some ([], rest) := by
    unfold readExponent
    split
    case h_2 => rfl
    case h_1 c rest =>
      rw [if_neg]
      rintro (rfl | rfl)
      · exact (ends _ rfl).2.2.1 rfl
      · exact (ends _ rfl).2.2.2 rfl
  have magnitude : readMagnitude false (Nat.toDigits 10 n ++ rest)
      = some (⟨false, Nat.toDigits 10 n, [], []⟩, rest) := by
    unfold readMagnitude
    rw [taken, left]
    split
    case h_1 none_taken => exact absurd none_taken Nat.toDigits_ne_nil
    case h_2 zero => exact absurd zero (toDigits_ne_zero_cons n _ _)
    case h_3 => simp [fraction, exponent]
  unfold readNumeral
  split
  case h_2 => exact magnitude
  case h_1 minus =>
    -- A digit is no minus sign.
    obtain ⟨c, cs, first, digit⟩ := toDigits_eq_cons n
    rw [first] at minus
    obtain ⟨rfl, -⟩ := List.cons.inj minus
    cases digit

/-! ## §3. Parts between commas. -/

section Inside

variable {α : Type} {item : Reader α} {write : α → List Char} {close : Char}

/-- Parts between commas, with the mark that closes them. -/
def joined (write : α → List Char) (close : Char) : List α → List Char
  | [] => [close]
  | [x] => write x ++ [close]
  | x :: rest => write x ++ ',' :: joined write close rest

theorem joined_cons_cons (x y : α) (rest : List α) :
    joined write close (x :: y :: rest) = write x ++ ',' :: joined write close (y :: rest) := rfl

/-- Every item takes at least one character. -/
theorem length_le_joined (xs : List α) : xs.length ≤ (joined write close xs).length := by
  induction xs with
  | nil => exact Nat.zero_le _
  | cons x rest ih =>
    cases rest with
    | nil => simp [joined]
    | cons y rest =>
      rw [joined_cons_cons]
      simp only [List.length_append, List.length_cons] at ih ⊢
      omega

/-- Items are read back from between their commas, up to what closes them. -/
theorem readItems_joined (apart : close ≠ ',') (visible : isSpace close = false)
    (ends : ∀ rest, Ends (close :: rest)) {x : α} {xs : List α}
    (each : ∀ y ∈ x :: xs, ∀ rest, Ends rest → item (write y ++ rest) = some (y, rest))
    {fuel : Nat} (enough : (x :: xs).length ≤ fuel) (rest : List Char) :
    readItems item close fuel (joined write close (x :: xs) ++ rest) = some (x :: xs, rest) := by
  induction xs generalizing x fuel with
  | nil =>
    obtain ⟨fuel, rfl⟩ : ∃ n, fuel = n + 1 := ⟨fuel - 1, by simp at enough; omega⟩
    have first := each x List.mem_cons_self (close :: rest) (ends rest)
    simp [readItems, joined, first, skipSpace, visible, apart]
  | cons y ys ih =>
    -- The first item is read up to the comma, and the others by induction.
    obtain ⟨fuel, rfl⟩ : ∃ n, fuel = n + 1 := ⟨fuel - 1, by simp at enough; omega⟩
    have first := each x List.mem_cons_self (',' :: (joined write close (y :: ys) ++ rest))
      (ends_cons (by decide))
    have others := ih (fun z mem => each z (List.mem_cons_of_mem x mem))
      (Nat.le_of_succ_le_succ enough)
    rw [joined_cons_cons, List.append_assoc]
    simp [readItems, first, skipSpace, isSpace, others]

variable (write close) in
/-- **What is inside of a container is read back.** -/
theorem readInside_joined (apart : close ≠ ',') (visible : isSpace close = false)
    (ends : ∀ rest, Ends (close :: rest)) {xs : List α}
    (each : ∀ x ∈ xs, ∀ rest, Ends rest → item (write x ++ rest) = some (x, rest))
    (starts : ∀ x ∈ xs, ∃ c cs, write x = c :: cs ∧ isSpace c = false ∧ c ≠ close)
    (rest : List Char) :
    readInside item close (joined write close xs ++ rest) = some (xs, rest) := by
  cases xs with
  | nil => simp [readInside, joined, skipSpace, visible]
  | cons x xs =>
    obtain ⟨c, cs, first, shown, other⟩ := starts x List.mem_cons_self
    obtain ⟨more, all⟩ : ∃ more, joined write close (x :: xs) ++ rest = c :: more := by
      cases xs with
      | nil => exact ⟨_, by rw [joined, first]; rfl⟩
      | cons y ys => exact ⟨_, by rw [joined_cons_cons, first]; rfl⟩
    -- Every item takes a character at least, so the text is fuel enough.
    have enough : (x :: xs).length ≤ (c :: more).length := by
      rw [← all, List.length_append]
      exact Nat.le_add_right_of_le (length_le_joined _)
    have read_back := readItems_joined apart visible ends each enough rest
    rw [all, List.length_cons] at read_back
    rw [all]
    simp [readInside, skipSpace, shown, other, read_back]

end Inside

/-! ## §4. Values. -/

/-- A manner that reads texts and takes the integers that fit. -/
structure Manner.Full (manner : Manner) : Prop where
  text : manner.text = readText []
  takes : ∀ n : Numeral, n.integer?.isSome = true → manner.takes n = true

theorem Manner.full_whole : Manner.whole.Full where
  text := rfl
  takes n fits := by
    show (n.integer?.isSome || n.double?.isSome) = true
    rw [fits]
    rfl

/-- The values that are read back, by how deep they are nested. -/
inductive Printable : Nat → Json → Prop
  | null {depth : Nat} : Printable depth .null
  | bool {depth : Nat} (value : Bool) : Printable depth (.bool value)
  | word {depth n : Nat} (fits : n < UInt64.size) : Printable depth (Json.ofNat n)
  | text {depth : Nat} (value : String) : Printable depth (.text value)
  | list {depth : Nat} {items : List Json} (each : ∀ item ∈ items, Printable depth item) :
      Printable (depth + 1) (.list items)
  | object {depth : Nat} {members : List (String × Json)}
      (each : ∀ m ∈ members, Printable depth m.2) : Printable (depth + 1) (.object members)

/-- The characters of a member of an object. -/
def memberChars (m : String × Json) : List Char := textChars m.1 ++ ':' :: m.2.chars

theorem itemsChars_eq (items : List Json) : itemsChars items = joined chars ']' items := by
  induction items with
  | nil => rfl
  | cons item rest ih =>
    cases rest with
    | nil => rfl
    | cons next rest => rw [itemsChars, joined_cons_cons, ih]; simp

theorem membersChars_eq (members : List (String × Json)) :
    membersChars members = joined memberChars '\x7d' members := by
  induction members with
  | nil => rfl
  | cons m rest ih =>
    cases rest with
    | nil => simp [membersChars, joined, memberChars]
    | cons next rest =>
      rw [membersChars, joined_cons_cons, ih]
      · simp [memberChars]
      · simp

/-- A value begins with a mark of its own. -/
theorem Printable.starts {depth : Nat} {j : Json} (h : Printable depth j) :
    ∃ c cs, j.chars = c :: cs ∧ isSpace c = false ∧ c ≠ ']' := by
  cases h with
  | null => exact ⟨_, _, rfl, rfl, by decide⟩
  | bool value => cases value <;> exact ⟨_, _, rfl, rfl, by decide⟩
  | text value => exact ⟨_, _, rfl, rfl, by decide⟩
  | list => exact ⟨_, _, rfl, rfl, by decide⟩
  | object => exact ⟨_, _, rfl, rfl, by decide⟩
  | @word depth n fits =>
    obtain ⟨c, cs, first, digit⟩ := toDigits_eq_cons n
    refine ⟨c, cs, first, isSpace_of_isDigit digit, ?_⟩
    intro same
    rw [same] at digit
    cases digit

section Values

variable {manner : Manner}

/-- A value that holds no other is read at every depth. -/
theorem readValue_of_scalar {cs : List Char} {read : Json × List Char}
    (h : readScalar manner cs = some read) (shown : skipSpace cs = cs)
    (bracket : ∀ rest, cs ≠ '[' :: rest) (brace : ∀ rest, cs ≠ '\x7b' :: rest) (depth : Nat) :
    readValue manner depth cs = some read := by
  cases depth with
  | zero =>
    rw [readValue, shown, h]
    rfl
  | succ depth =>
    rw [readValue, shown]
    split
    case h_1 rest => exact absurd rfl (bracket rest)
    case h_2 rest => exact absurd rfl (brace rest)
    case h_3 =>
      rw [h]
      rfl

/-- A number is read back as itself. -/
theorem readScalar_word (full : manner.Full) {n : Nat} (fits : n < UInt64.size)
    {rest : List Char} (ends : Ends rest) :
    readScalar manner (Nat.toDigits 10 n ++ rest) = some (Json.ofNat n, rest) := by
  have integer : Numeral.integer? ⟨false, Nat.toDigits 10 n, [], []⟩ = some (n : Int) := by
    simp [Numeral.integer?, digitsValue_toDigits, fits]
  have taken := full.takes ⟨false, Nat.toDigits 10 n, [], []⟩ (by rw [integer]; rfl)
  have read : (readNumeral (Nat.toDigits 10 n ++ rest)).bind (fun found =>
      if manner.takes found.1 then some (found.1.toJson, found.2) else none)
      = some (Json.ofNat n, rest) := by
    rw [readNumeral_word n ends, Option.bind_some]
    simp only [taken, if_true, Numeral.toJson, integer]
    rfl
  obtain ⟨c, cs, first, digit⟩ := toDigits_eq_cons n
  rw [first] at read ⊢
  unfold readScalar
  split
  case h_5 => exact read
  -- The other scalars begin with a quote or a letter, and a number with a digit.
  all_goals
    rename_i same
    obtain ⟨rfl, -⟩ := List.cons.inj same
    cases digit

/-- A member is read back from its characters. -/
theorem readMember_chars (full : manner.Full) {value : Reader Json} {m : String × Json}
    (read : ∀ rest, Ends rest → value (m.2.chars ++ rest) = some (m.2, rest)) (rest : List Char)
    (ends : Ends rest) :
    readMember manner.text value (memberChars m ++ rest) = some (m, rest) := by
  have name := readText_chars m.1.toList [] (':' :: (m.2.chars ++ rest))
  rw [List.reverse_nil, List.nil_append, String.ofList_toList] at name
  simp [readMember, memberChars, textChars, skipSpace, isSpace, full.text, name, read rest ends]

/-- **A value is read back from its characters.** -/
theorem Printable.readValue (full : manner.Full) {depth : Nat} {j : Json}
    (h : Printable depth j) :
    ∀ rest, Ends rest → Json.readValue manner depth (j.chars ++ rest) = some (j, rest) := by
  induction h with
  | null =>
    intro rest _
    exact readValue_of_scalar rfl rfl (by simp [chars]) (by simp [chars]) _
  | bool value =>
    intro rest _
    cases value
    all_goals exact readValue_of_scalar rfl rfl (by simp [chars]) (by simp [chars]) _
  | @word depth n fits =>
    intro rest ends
    obtain ⟨c, cs, first, digit⟩ := toDigits_eq_cons n
    have read := readScalar_word full fits ends
    show Json.readValue manner depth (Nat.toDigits 10 n ++ rest) = _
    rw [first] at read ⊢
    refine readValue_of_scalar read ?_ ?_ ?_ depth
    · simp [skipSpace, isSpace_of_isDigit digit]
    · intro more same
      cases same
      cases digit
    · intro more same
      cases same
      cases digit
  | text value =>
    intro rest _
    have inside := readText_chars value.toList [] rest
    rw [List.reverse_nil, List.nil_append, String.ofList_toList] at inside
    refine readValue_of_scalar ?_ rfl (by simp [chars, textChars]) (by simp [chars, textChars]) _
    simp [readScalar, chars, textChars, full.text, inside]
  | @list depth items each ih =>
    intro rest _
    have inside := readInside_joined chars ']' (by decide) rfl
      (fun rest => ends_cons (by decide)) ih (fun item mem => (each item mem).starts) rest
    rw [← itemsChars_eq] at inside
    simp [Json.readValue, chars, skipSpace, isSpace, inside]
  | @object depth members each ih =>
    intro rest _
    have inside := readInside_joined memberChars '\x7d' (by decide) rfl
      (fun rest => ends_cons (by decide))
      (fun m mem => readMember_chars full (ih m mem))
      (fun m _ => ⟨'"', _, rfl, rfl, by decide⟩) rest
    rw [← membersChars_eq] at inside
    simp [Json.readValue, chars, skipSpace, isSpace, inside]

end Values

/-- **A value is read back from its text.** -/
theorem Printable.parse?_print {manner : Manner} (full : manner.Full) {j : Json}
    (h : Printable deepest j) : parse? manner j.print = some j := by
  have read := h.readValue full [] ends_nil
  rw [List.append_nil] at read
  unfold parse? print
  rw [String.toList_ofList, read]
  rfl

end Custody.Json
