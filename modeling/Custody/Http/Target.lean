/-
  Custody.Http.Target
  ────────────────────────────────
  **WHAT A REQUEST IS SENT TO.**

  A target is written as a path, behind which a query may stand; as the same
  behind a scheme and an authority; as an authority alone, which leaves the
  path empty; or as an asterisk.  What stands behind a number sign does not
  count.

  Main fact: `ofText?_path` — a plain path is its own target.
-/

namespace Custody.Http

/-- What a request is sent to. -/
structure Target where
  path : String
  /-- What stands behind the first question mark. -/
  query : Option String
deriving DecidableEq, Repr

namespace Target

/-! ## §1. Paths and queries. -/

/-- The characters that may stand in a path. -/
def isPathChar (c : Char) : Bool :=
  0x20 < c.toNat && !" <>\x60?#".toList.contains c

/-- The characters that may stand in a query. -/
def isQueryChar (c : Char) : Bool :=
  0x20 < c.toNat && !" \"<>#".toList.contains c

/-- The target of a path and what follows it; a path that is left out is the root. -/
def ofPath? (cs : List Char) : Option Target :=
  let cs := cs.takeWhile (· != '#')
  let path := cs.takeWhile (· != '?')
  let behind := cs.dropWhile (· != '?')
  let query := behind.drop 1
  if path.all isPathChar && query.all isQueryChar then
    some {
      path := if path.isEmpty then "/" else String.ofList path
      query := if behind.isEmpty then none else some (String.ofList query) }
  else none

/-! ## §2. Authorities. -/

/-- What has been seen of an authority. -/
structure Authority where
  /-- Colons since the last at sign or closing bracket. -/
  colons : Nat := 0
  opened : Bool := false
  closed : Bool := false
  /-- Whether a percent sign stands where only a name may have one. -/
  escaped : Bool := false
  /-- Whether the last character was an at sign. -/
  atSign : Bool := false
deriving DecidableEq, Repr

namespace Authority

/-- The characters of an authority that mean nothing to its form. -/
def isPlain (c : Char) : Bool := c.isAlphanum || "!$&\x27()*+,-.;=_~".toList.contains c

/-- The most colons in a row of groups. -/
def mostColons : Nat := 8

/-- One character on. -/
def step (seen : Authority) (c : Char) : Option Authority :=
  let seen := { seen with atSign := c == '@' }
  if c = ':' then
    if seen.colons < mostColons then some { seen with colons := seen.colons + 1 } else none
  else if c = '[' then
    if seen.escaped || seen.opened then none else some { seen with opened := true }
  -- Colons inside of brackets and before a user do not count for what follows.
  else if c = ']' then
    if seen.opened && !seen.closed then
      some { seen with closed := true, colons := 0, escaped := false }
    else none
  else if c = '@' then some { seen with colons := 0, escaped := false }
  else if c = '%' then some { seen with escaped := true }
  else if isPlain c then some seen
  else none

/-- Whether an authority may end here: brackets are paired, and behind them or behind the user
stands no more than one colon. -/
def accepts (seen : Authority) : Bool :=
  seen.opened == seen.closed && seen.colons ≤ 1 && !seen.atSign && !seen.escaped

/-- Whether a text is an authority. -/
def isAuthority (cs : List Char) : Bool :=
  !cs.isEmpty && ((cs.foldlM step {}).map accepts).getD false

/-- The characters at which an authority ends. -/
def ends (c : Char) : Bool := c == '/' || c == '?' || c == '#'

end Authority

/-! ## §3. Targets. -/

/-- The characters that may stand in a scheme. -/
def isSchemeChar (c : Char) : Bool := c.isAlphanum || "+-.~".toList.contains c

/-- The most characters that a scheme may have. -/
def longestScheme : Nat := 64

/-- What stands behind a scheme, a colon and two slashes. -/
def behindScheme? (cs : List Char) : Option (List Char) :=
  match cs.dropWhile isSchemeChar with
  | ':' :: '/' :: '/' :: rest =>
    if (cs.takeWhile isSchemeChar).length ≤ longestScheme then some rest else none
  | _ => none

/-- The target that is no path and no asterisk. -/
def ofAuthority? (cs : List Char) : Option Target :=
  match behindScheme? cs with
  | some rest =>
    if Authority.isAuthority (rest.takeWhile (!Authority.ends ·)) then
      ofPath? (rest.dropWhile (!Authority.ends ·))
    else none
  | none => if Authority.isAuthority cs then some ⟨"", none⟩ else none

/-- The most bytes that a target may have. -/
def longest : Nat := 65534

/-- The target of a text. -/
def ofText? (text : String) : Option Target :=
  if longest < text.utf8ByteSize then none
  else
    match text.toList with
    | ['*'] => some ⟨"*", none⟩
    | '/' :: cs => ofPath? ('/' :: cs)
    | cs => ofAuthority? cs

/-- What holds of all of a list is taken off whole. -/
theorem takeWhile_of_all {p : Char → Bool} {cs : List Char} (h : ∀ c ∈ cs, p c = true) :
    cs.takeWhile p = cs ∧ cs.dropWhile p = [] := by
  induction cs with
  | nil => exact ⟨rfl, rfl⟩
  | cons c rest ih =>
    obtain ⟨taken, dropped⟩ := ih fun d mem => h d (List.mem_cons_of_mem _ mem)
    have hc := h c List.mem_cons_self
    exact ⟨by rw [List.takeWhile_cons_of_pos hc, taken],
      by rw [List.dropWhile_cons_of_pos hc, dropped]⟩

/-- A path without marks is a target without a query. -/
theorem ofPath?_plain {cs : List Char} (h : ∀ c ∈ cs, isPathChar c = true) (ne : cs ≠ []) :
    ofPath? cs = some ⟨String.ofList cs, none⟩ := by
  have differ : ∀ mark : Char, isPathChar mark = false → ∀ c ∈ cs, (c != mark) = true := by
    intro mark excluded c mem
    rw [bne_iff_ne]
    rintro rfl
    exact absurd (h c mem) (by simp [excluded])
  have sign := takeWhile_of_all (differ '#' (by decide))
  have question := takeWhile_of_all (differ '?' (by decide))
  have plain : cs.all isPathChar = true := List.all_eq_true.mpr h
  simp only [ofPath?, sign.1, question.1, question.2, plain]
  simp [ne]

/-- A plain path is its own target. -/
theorem ofText?_path {cs : List Char} (h : ∀ c ∈ cs, isPathChar c = true)
    (fits : (String.ofList ('/' :: cs)).utf8ByteSize ≤ longest) :
    ofText? (String.ofList ('/' :: cs)) = some ⟨String.ofList ('/' :: cs), none⟩ := by
  have slash : isPathChar '/' = true := by decide
  rw [ofText?, if_neg (Nat.not_lt.mpr fits), String.toList_ofList]
  exact ofPath?_plain (fun c mem => by
    rcases List.mem_cons.mp mem with rfl | mem
    · exact slash
    · exact h c mem) (by simp)

example : ofText? "*" = some ⟨"*", none⟩ := by decide +kernel

end Target

end Custody.Http
