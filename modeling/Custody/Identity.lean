/-
  Custody.Identity
  ────────────────────────────────
  **NAMES OF ACCOUNTS, CALLERS AND VAULTS.**

  An identity is any text.  Nothing is reserved: the bridge account and the
  treasury are identities like every other, and a caller may bear their names.
-/

namespace Custody

/-- The name of an account, a caller or a vault. -/
structure Identity where
  name : String
deriving DecidableEq, Inhabited

namespace Identity

instance : Repr Identity := ⟨fun a _ => repr a.name⟩

instance : ToString Identity := ⟨Identity.name⟩

theorem ext {a b : Identity} (h : a.name = b.name) : a = b := by
  cases a; cases b; cases h; rfl

/-- Identities are ordered as their texts are, by code points. -/
instance : Ord Identity where
  compare a b := compare a.name b.name

instance : Std.TransOrd Identity where
  eq_swap {a b} := Std.OrientedOrd.eq_swap (a := a.name) (b := b.name)
  isLE_trans {a b c} := Std.TransOrd.isLE_trans (a := a.name) (b := b.name) (c := c.name)

instance : Std.LawfulEqOrd Identity where
  compare_self {a} := Std.ReflOrd.compare_self (a := a.name)
  eq_of_compare {_ _} h := ext (Std.LawfulEqOrd.eq_of_compare h)

/-- How a message shows an identity that may be absent. -/
def describe : Option Identity → String
  | some identity => s!"Some(Identity({identity.name}))"
  | none => "None"

end Identity

end Custody
