/-
  Custody.Http.MediaType
  ────────────────────────────────
  **MEDIA TYPES.**

  A media type is a type and a subtype, of which a part behind the last plus
  sign tells the format, and parameters.  Parameters follow after semicolons:
  a name, an equals sign, and a token or a quoted text.

  Main facts:
    * `splitSuffix_append`  — the suffix is what stands behind the last plus
                              sign;
    * `ofLower?_parameters` — parameters do not tell the type.
-/

namespace Custody.Http

/-! ## §1. Tokens. -/

/-- The characters that a token may hold. -/
def isTokenChar (c : Char) : Bool := c.isAlphanum || "!#$%&\x27*+-.^_\x60|~".toList.contains c

/-- Whether a text is a token. -/
def isToken (text : String) : Bool := !text.isEmpty && text.toList.all isTokenChar

/-! ## §2. Parameters. -/

/-- Where the reader of parameters is. -/
inductive ParameterPlace where
  /-- Before a name, where blanks may stand. -/
  | start
  | name
  /-- Behind an equals sign. -/
  | valueStart
  | value
  /-- Behind an opening quote. -/
  | quoteStart
  | quoted
  /-- Behind a closing quote, where blanks may stand. -/
  | quoteEnd
deriving DecidableEq, Repr

namespace ParameterPlace

/-- Whether parameters may end here. -/
def accepts : ParameterPlace → Bool
  | start | valueStart | value | quoteEnd => true
  | name | quoteStart | quoted => false

/-- One character on. -/
def step : ParameterPlace → Char → Option ParameterPlace
  | start, c => if c = ' ' then some start else if isTokenChar c then some name else none
  | name, c => if c = '=' then some valueStart else if isTokenChar c then some name else none
  | valueStart, c => if c = '"' then some quoteStart else if isTokenChar c then some value else none
  | value, c => if c = ';' then some start else if isTokenChar c then some value else none
  | quoteStart, c => if 0x1f < c.toNat ∧ c.toNat ≠ 0x7f then some quoted else none
  | quoted, c =>
    if c = '"' then some quoteEnd
    else if 0x1f < c.toNat ∧ c.toNat ≠ 0x7f then some quoted else none
  | quoteEnd, c => if c = ' ' then some quoteEnd else if c = ';' then some start else none

end ParameterPlace

/-- Whether a text is what may stand behind the first semicolon. -/
def areParameters (text : List Char) : Bool :=
  ((text.foldlM ParameterPlace.step .start).map ParameterPlace.accepts).getD false

/-! ## §3. Types. -/

/-- A media type, in lower case, without its parameters. -/
structure MediaType where
  type : String
  subtype : String
  /-- The part of the subtype that tells the format. -/
  suffix : Option String
deriving DecidableEq, Repr

namespace MediaType

/-- Splits the part behind the last plus sign off, unless nothing stands before it. -/
def splitSuffix (subtype : List Char) : List Char × Option (List Char) :=
  let reversed := subtype.reverse
  let suffix := (reversed.takeWhile (· != '+')).reverse
  match (reversed.dropWhile (· != '+')).drop 1 with
  | [] => (subtype, none)
  | before => (before.reverse, some suffix)

/-- **The suffix is what stands behind the last plus sign.** -/
theorem splitSuffix_append {before suffix : List Char} (some_char : before ≠ [])
    (last : '+' ∉ suffix) : splitSuffix (before ++ '+' :: suffix) = (before, some suffix) := by
  have no_plus : ∀ c ∈ suffix.reverse, (c != '+') = true := by
    intro c mem
    rw [bne_iff_ne]
    rintro rfl
    exact last (List.mem_reverse.mp mem)
  have reversed : (before ++ '+' :: suffix).reverse = suffix.reverse ++ '+' :: before.reverse := by
    simp
  have taken : (suffix.reverse ++ '+' :: before.reverse).takeWhile (· != '+') = suffix.reverse := by
    rw [List.takeWhile_append_of_pos no_plus]
    simp
  have dropped : (suffix.reverse ++ '+' :: before.reverse).dropWhile (· != '+')
      = '+' :: before.reverse := by
    rw [List.dropWhile_append_of_pos no_plus]
    simp
  unfold splitSuffix
  dsimp only
  rw [reversed, taken, dropped, List.drop_succ_cons, List.drop_zero, List.reverse_reverse]
  cases back : before.reverse with
  | nil => exact absurd (List.reverse_eq_nil_iff.mp back) some_char
  | cons c rest =>
    dsimp only
    rw [← back, List.reverse_reverse]

/-- The media type that a text in lower case names. -/
def ofLower? (cs : List Char) : Option MediaType :=
  let type := cs.takeWhile (· != '/')
  let behind := (cs.dropWhile (· != '/')).drop 1
  let subtype := behind.takeWhile (· != ';')
  let parameters := (behind.dropWhile (· != ';')).drop 1
  if isToken (String.ofList type) && isToken (String.ofList subtype) && areParameters parameters
  then
    let (subtype, suffix) := splitSuffix subtype
    some ⟨String.ofList type, String.ofList subtype, suffix.map String.ofList⟩
  else none

/-- **Parameters do not tell the type.** -/
theorem ofLower?_parameters {type behind parameters : List Char} (slash : '/' ∉ type)
    (semicolon : ';' ∉ behind) (readable : areParameters parameters = true) :
    ofLower? (type ++ '/' :: behind ++ ';' :: parameters) = ofLower? (type ++ '/' :: behind) := by
  have first : ∀ c ∈ type, (c != '/') = true := by
    intro c mem
    rw [bne_iff_ne]
    rintro rfl
    exact slash mem
  have second : ∀ c ∈ behind, (c != ';') = true := by
    intro c mem
    rw [bne_iff_ne]
    rintro rfl
    exact semicolon mem
  have alone : behind.takeWhile (· != ';') = behind ∧ behind.dropWhile (· != ';') = [] := by
    have taken : (behind ++ []).takeWhile (· != ';') = behind ++ _ :=
      List.takeWhile_append_of_pos second
    have dropped : (behind ++ []).dropWhile (· != ';') = _ := List.dropWhile_append_of_pos second
    rw [List.append_nil, List.takeWhile_nil, List.append_nil] at taken
    rw [List.append_nil, List.dropWhile_nil] at dropped
    exact ⟨taken, dropped⟩
  have empty : areParameters [] = true := rfl
  unfold ofLower?
  dsimp only
  rw [List.append_assoc, List.takeWhile_append_of_pos first, List.dropWhile_append_of_pos first,
    List.takeWhile_append_of_pos first, List.dropWhile_append_of_pos first]
  simp [List.takeWhile_append_of_pos second, List.dropWhile_append_of_pos second, alone, readable,
    empty]

/-- The media type that a text names. -/
def ofText? (text : String) : Option MediaType := ofLower? (text.toList.map Char.toLower)

/-- Whether content of this type is JSON. -/
def isJson (m : MediaType) : Bool :=
  m.type == "application" && (m.subtype == "json" || m.suffix == some "json")

end MediaType

/-- Whether a text names a type of JSON content. -/
def isJson (text : String) : Bool := ((MediaType.ofText? text).map MediaType.isJson).getD false

example : isJson "Application/JSON; charset=\"utf-8\"" = true := by decide +kernel

example : isJson "application/problem+json" = true := by decide +kernel

example : isJson "text/json" = false := by decide +kernel

end Custody.Http
