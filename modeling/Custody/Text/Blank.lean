/-
  Custody.Text.Blank
  ────────────────────────────────
  **BLANK CHARACTERS AND TRIMMING.**

  A value that a person typed may carry blanks around it.  Blank here is every
  character with the white-space property, the no-break and the wide blanks
  included; the zero-width space and the byte-order mark are not blank.

  Main fact: `trim_of_no_blank` — a text without a blank at either end is
  left alone.
-/

namespace Custody.Text

/-! ## §1. The property. -/

/-- The twenty-five characters with the white-space property. -/
def isBlank (c : Char) : Bool :=
  let n := c.toNat
  (0x9 ≤ n && n ≤ 0xd) || n == 0x20 || n == 0x85 || n == 0xa0 || n == 0x1680 ||
    (0x2000 ≤ n && n ≤ 0x200a) || n == 0x2028 || n == 0x2029 || n == 0x202f ||
    n == 0x205f || n == 0x3000

/-- Whatever core counts as white space is blank. -/
theorem isBlank_of_isWhitespace {c : Char} (h : c.isWhitespace = true) : isBlank c = true := by
  simp only [Char.isWhitespace, Bool.or_eq_true, decide_eq_true_eq] at h
  rcases h with ((h | h) | h) | h <;> subst h <;> decide

/-! ## §2. Trimming. -/

/-- The characters between the first and the last that are not blank. -/
def trimChars (cs : List Char) : List Char :=
  (((cs.dropWhile isBlank).reverse).dropWhile isBlank).reverse

/-- A text without the blanks at its ends. -/
def trim (text : String) : String := String.ofList (trimChars text.toList)

/-- A text without a blank has none to be trimmed. -/
theorem trim_of_no_blank {cs : List Char} (h : ∀ c ∈ cs, isBlank c = false) :
    trimChars cs = cs := by
  have drop : ∀ ds : List Char, (∀ c ∈ ds, isBlank c = false) → ds.dropWhile isBlank = ds := by
    intro ds hd
    cases ds with
    | nil => rfl
    | cons c rest => simp [List.dropWhile, hd c (List.mem_cons_self)]
  rw [trimChars, drop cs h, drop cs.reverse (fun c hc => h c (List.mem_reverse.mp hc)),
    List.reverse_reverse]

end Custody.Text
