/-!
# ArtifactRelay.Text.Order

The order of texts: code point by code point from the first on, and a text comes
after what it goes on from.
-/

namespace ArtifactRelay.Text

/-- Whether a list of characters comes before another one. -/
def isBefore : List Char → List Char → Bool
  | _, [] => false
  | [], _ :: _ => true
  | c :: cs, d :: ds => Nat.blt c.toNat d.toNat || (c == d && isBefore cs ds)

/-- Whether a text comes before another one. -/
def precedes (s t : String) : Bool := isBefore s.toList t.toList

theorem isBefore_cons_self (c : Char) (cs ds : List Char) :
    isBefore (c :: cs) (c :: ds) = isBefore cs ds := by
  simp [isBefore]

theorem isBefore_self (cs : List Char) : isBefore cs cs = false := by
  induction cs with
  | nil => rfl
  | cons c cs ih => rw [isBefore_cons_self, ih]

/-- What comes before a text comes before all that does not. -/
theorem isBefore_of_isBefore {xs ys zs : List Char} (hxy : isBefore xs ys = true)
    (hzy : isBefore zs ys = false) : isBefore xs zs = true := by
  induction ys generalizing xs zs with
  | nil => simp [isBefore] at hxy
  | cons d ys ih =>
    cases zs with
    | nil => simp [isBefore] at hzy
    | cons e zs =>
      cases xs with
      | nil => rfl
      | cons c xs =>
        simp only [isBefore, Bool.or_eq_true, Bool.and_eq_true, Bool.or_eq_false_iff,
          Bool.and_eq_false_imp, Nat.blt_eq, beq_iff_eq] at hxy hzy ⊢
        have hle : d.toNat ≤ e.toNat := Nat.not_lt.mp fun h => by
          rw [Nat.blt_eq.mpr h] at hzy
          cases hzy.1
        rcases hxy with hlt | ⟨rfl, hxy⟩
        · exact .inl (Nat.lt_of_lt_of_le hlt hle)
        · rcases Nat.lt_or_eq_of_le hle with hlt | heq
          · exact .inl hlt
          · have hsame : c = e := Char.toNat_inj.mp heq
            exact .inr ⟨hsame, ih hxy (hzy.2 hsame.symm)⟩

end ArtifactRelay.Text
