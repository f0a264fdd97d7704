import ArtifactRelay.Proofs.Time.Calendar
import ArtifactRelay.Text.Order
import ArtifactRelay.Time.Written

/-!
# ArtifactRelay.Proofs.Time.Order

The order of instants, and the order of the texts that they are kept as.  Within
the years 0 to 9999 every field of a written instant has its fixed width, so texts
compare field by field, and the fields compare as the instants cut to microseconds
do (`precedes_toMicros_iff`), leap seconds included.
-/

namespace ArtifactRelay

open Text Time

/-! ## Digits -/

namespace Text

theorem toNat_digitChar (n : Nat) : (digitChar n).toNat = 48 + n % 10 := by
  have hn : n % 10 < 10 := Nat.mod_lt n (by decide)
  unfold digitChar
  generalize n % 10 = x at hn
  have hall : ∀ x : Fin 10, (Char.ofNat (48 + x.val)).toNat = 48 + x.val := by decide
  exact hall ⟨x, hn⟩

theorem digitChar_eq_iff (a b : Nat) : digitChar a = digitChar b ↔ a % 10 = b % 10 := by
  constructor
  · intro h
    have hvalue := congrArg digitValue h
    rw [digitValue_digitChar, digitValue_digitChar] at hvalue
    exact Option.some.inj hvalue
  · intro h
    unfold digitChar
    rw [h]

theorem isBefore_digitChar_cons (a b : Nat) (xs ys : List Char) :
    isBefore (digitChar a :: xs) (digitChar b :: ys) = true ↔
      a % 10 < b % 10 ∨ a % 10 = b % 10 ∧ isBefore xs ys = true := by
  simp only [isBefore, Bool.or_eq_true, Bool.and_eq_true, beq_iff_eq, Nat.blt_eq,
    toNat_digitChar, digitChar_eq_iff, Nat.add_lt_add_iff_left]

/-- Texts that start with numbers of one width compare by the numbers first. -/
theorem isBefore_fixedDigits_append (width : Nat) {a b : Nat} (ha : a < pow10 width)
    (hb : b < pow10 width) (xs ys : List Char) :
    isBefore (fixedDigits width a ++ xs) (fixedDigits width b ++ ys) = true ↔
      a < b ∨ a = b ∧ isBefore xs ys = true := by
  induction width generalizing a b xs ys with
  | zero =>
    have ha0 : a = 0 := by simp at ha; exact ha
    have hb0 : b = 0 := by simp at hb; exact hb
    simp [fixedDigits, ha0, hb0]
  | succ width ih =>
    rw [pow10_succ] at ha hb
    simp only [fixedDigits, List.append_assoc, List.singleton_append]
    rw [ih (by omega) (by omega), isBefore_digitChar_cons]
    constructor
    · rintro (h | ⟨h, h' | ⟨h', hxs⟩⟩)
      · exact .inl (by omega)
      · exact .inl (by omega)
      · exact .inr ⟨by omega, hxs⟩
    · rintro (h | ⟨rfl, hxs⟩)
      · by_cases h' : a / 10 < b / 10
        · exact .inl h'
        · exact .inr ⟨by omega, .inl (by omega)⟩
      · exact .inr ⟨rfl, .inr ⟨rfl, hxs⟩⟩

end Text

namespace Time

/-! ## Instants -/

namespace Instant

theorem not_le {a b : Instant} : ¬ a ≤ b ↔ b < a := by
  simp only [lt_def, le_def]; omega

/-- The instant cut down to the microsecond. -/
def cut (t : Instant) : Instant :=
  { t with
    nanos := t.nanos / 1000 * 1000
    nanos_lt := by have := t.nanos_lt; omega
    leap := by have := t.leap; omega }

@[simp] theorem seconds_cut (t : Instant) : t.cut.seconds = t.seconds := rfl

@[simp] theorem nanos_cut (t : Instant) : t.cut.nanos = t.nanos / 1000 * 1000 := rfl

theorem cut_eq_self {t : Instant} (h : t.nanos % 1000 = 0) : t.cut = t := by
  have hnanos : t.nanos / 1000 * 1000 = t.nanos := by omega
  cases t
  simpa [cut] using hnanos

theorem lt_of_cut_lt_cut {a b : Instant} (h : a.cut < b.cut) : a < b := by
  simp only [lt_def, seconds_cut, nanos_cut] at *; omega

/-- The instant of a number of nanoseconds lies outside leap seconds. -/
theorem ofNanos?_eq_some_iff {n : Int} {t : Instant} :
    ofNanos? n = some t ↔ t.toNanos = n ∧ t.nanos < 1000000000 := by
  unfold ofNanos? toNanos
  rw [ofParts?_eq_some_iff]
  omega

/-- The second instant is `n` nanoseconds after the first.  A step that does not leave a leap second
stays in the second before it; one that leaves it is counted on from the end of that second. -/
def IsLater (t : Instant) (n : Nat) (u : Instant) : Prop :=
  if t.nanos < 1000000000 then u.nanos < 1000000000 ∧ u.toNanos = t.toNanos + n
  else if t.nanos + n < 2000000000 then u.seconds = t.seconds ∧ u.nanos = t.nanos + n
  else u.nanos < 1000000000 ∧ u.toNanos = t.toNanos - 1000000000 + n

instance (t : Instant) (n : Nat) (u : Instant) : Decidable (t.IsLater n u) :=
  inferInstanceAs (Decidable (ite _ _ _))

/-- Adding a span that is not negative answers the instant so much later, if the calendar has it. -/
theorem add?_eq_some_iff {t u : Instant} {n : Nat} : t.add? ⟨n⟩ = some u ↔ t.IsLater n u := by
  have hn : (0 : Int) ≤ n := Int.natCast_nonneg n
  have hnanos := t.nanos_lt
  unfold add? IsLater
  rw [Int.tdiv_eq_ediv_of_nonneg hn, Int.tmod_eq_emod_of_nonneg hn]
  dsimp only
  split
  · rw [ofNanos?_eq_some_iff, And.comm]
  · split
    · rw [ofNanos?_eq_some_iff, And.comm, if_neg (by omega)]
    · rw [if_neg (by omega), ofParts?_eq_some_iff, if_pos (by omega)]
      omega

/-- What a span that is not negative adds: its nanoseconds, counted from the end of the leap second
that the step starts in and leaves, or within the one that it stays in. -/
theorem add?_cases {t u : Instant} {d : Span} (hd : 0 ≤ d.nanos) (h : t.add? d = some u) :
    (t.nanos < 1000000000 ∧ u.nanos < 1000000000 ∧ u.toNanos = t.toNanos + d.nanos) ∨
      (1000000000 ≤ t.nanos ∧ u.nanos < 1000000000 ∧ 2000000000 ≤ t.nanos + d.nanos ∧
        u.toNanos = t.toNanos - 1000000000 + d.nanos) ∨
      (1000000000 ≤ t.nanos ∧ u.seconds = t.seconds ∧ (u.nanos : Int) = t.nanos + d.nanos) := by
  obtain ⟨n, hn⟩ := Int.eq_ofNat_of_zero_le hd
  obtain rfl : d = ⟨n⟩ := congrArg Span.mk hn
  have hlater := add?_eq_some_iff.mp h
  unfold IsLater at hlater
  dsimp only
  split at hlater
  · omega
  · split at hlater <;> omega

theorem le_of_add? {t u : Instant} {d : Span} (hd : 0 ≤ d.nanos) (h : t.add? d = some u) :
    t ≤ u := by
  have hcases := add?_cases hd h
  have hleap := t.leap
  have hnanos := t.nanos_lt
  unfold toNanos at hcases
  rw [le_def]
  omega

/-- A microsecond is not lost by the cut. -/
theorem cut_lt_cut_of_add? {t u v : Instant} (h : t.add? ⟨1000⟩ = some u) (hle : u ≤ v) :
    t.cut < v.cut := by
  have hcases := add?_cases (d := ⟨1000⟩) (by decide) h
  have hnanos := t.nanos_lt
  unfold toNanos at hcases
  dsimp only at hcases
  rw [le_def] at hle
  rw [lt_def, seconds_cut, nanos_cut, seconds_cut, nanos_cut]
  omega

/-- An instant of the years 0 to 9999, those that are written with four digits. -/
def IsFourDigit (t : Instant) : Prop := 0 ≤ t.date.year ∧ t.date.year ≤ 9999

instance (t : Instant) : Decidable t.IsFourDigit := inferInstanceAs (Decidable (_ ∧ _))

/-! ## Written instants -/

/-- What is written is cut to the microsecond. -/
theorem toMicros_cut (t : Instant) : t.cut.toMicros = t.toMicros := by
  have hclock : t.cut.clockSecond = t.clockSecond := by
    show t.secondOfDay % 60 + t.nanos / 1000 * 1000 / 1000000000 =
      t.secondOfDay % 60 + t.nanos / 1000000000
    omega
  have hmicros : t.cut.clockNanos / 1000 = t.clockNanos / 1000 := by
    show t.nanos / 1000 * 1000 % 1000000000 / 1000 = t.nanos % 1000000000 / 1000
    omega
  unfold toMicros timeDigits
  rw [hclock, hmicros]
  rfl

/-- Days compare as their dates. -/
theorem date_before_iff (a b : Instant) :
    a.date.Before b.date ↔ a.seconds / 86400 < b.seconds / 86400 := by
  refine ⟨fun h => ?_, dateOfDay_before⟩
  refine Int.not_le.mp fun hle => ?_
  rcases Int.lt_or_le (b.seconds / 86400) (a.seconds / 86400) with hlt | hge
  · have hback := dateOfDay_before hlt
    unfold date Date.Before at *
    omega
  · have hsame : a.date = b.date := congrArg dateOfDay (by omega)
    rw [hsame] at h
    unfold Date.Before at h
    omega

theorem date_eq_iff (a b : Instant) :
    a.date = b.date ↔ a.seconds / 86400 = b.seconds / 86400 :=
  ⟨fun h => dateOfDay_injective h, fun h => congrArg dateOfDay h⟩

/-- The fields of a written instant fit their widths. -/
theorem fields_lt (t : Instant) :
    t.date.month < 100 ∧ t.date.day < 100 ∧ t.secondOfDay / 3600 < 100 ∧
      t.secondOfDay / 60 % 60 < 100 ∧ t.clockSecond < 100 ∧ t.clockNanos / 1000 < 1000000 := by
  have hmonth := month_dateOfDay_bounds (t.seconds / 86400)
  have hday := day_dateOfDay_le (t.seconds / 86400)
  have hnanos := t.nanos_lt
  unfold date clockSecond clockNanos secondOfDay
  omega

theorem toList_toMicros {t : Instant} (ht : t.IsFourDigit) :
    t.toMicros.toList =
      fixedDigits 4 t.date.year.toNat ++ '-' :: (fixedDigits 2 t.date.month ++ '-' ::
        (fixedDigits 2 t.date.day ++ 'T' :: (fixedDigits 2 (t.secondOfDay / 3600) ++ ':' ::
          (fixedDigits 2 (t.secondOfDay / 60 % 60) ++ ':' :: (fixedDigits 2 t.clockSecond ++ '.' ::
            (fixedDigits 6 (t.clockNanos / 1000) ++ ['Z'])))))) := by
  have hyear : yearDigits t.date.year = fixedDigits 4 t.date.year.toNat := if_pos ht
  unfold toMicros dateDigits timeDigits minuteDigits
  rw [String.toList_ofList]
  simp only [hyear, List.append_assoc, List.cons_append]

/-- Written instants compare field by field, from the year to the microsecond. -/
theorem precedes_toMicros_iff_fields {a b : Instant} (ha : a.IsFourDigit) (hb : b.IsFourDigit) :
    precedes a.toMicros b.toMicros = true ↔
      a.date.Before b.date ∨ a.date = b.date ∧
        (a.secondOfDay / 3600 < b.secondOfDay / 3600 ∨
          a.secondOfDay / 3600 = b.secondOfDay / 3600 ∧
            (a.secondOfDay / 60 % 60 < b.secondOfDay / 60 % 60 ∨
              a.secondOfDay / 60 % 60 = b.secondOfDay / 60 % 60 ∧
                (a.clockSecond < b.clockSecond ∨
                  a.clockSecond = b.clockSecond ∧
                    a.clockNanos / 1000 < b.clockNanos / 1000))) := by
  obtain ⟨hma, hda, hha, hia, hsa, hna⟩ := fields_lt a
  obtain ⟨hmb, hdb, hhb, hib, hsb, hnb⟩ := fields_lt b
  have hdate : a.date = b.date ↔ a.date.year.toNat = b.date.year.toNat ∧
      a.date.month = b.date.month ∧ a.date.day = b.date.day := by
    constructor
    · intro h; simp [h]
    · rintro ⟨hy, hm, hd⟩
      have hyear : a.date.year = b.date.year := by unfold IsFourDigit at *; omega
      generalize a.date = x at *
      generalize b.date = y at *
      cases x; cases y; simp_all
  have hbefore : a.date.Before b.date ↔ a.date.year.toNat < b.date.year.toNat ∨
      a.date.year.toNat = b.date.year.toNat ∧ (a.date.month < b.date.month ∨
        a.date.month = b.date.month ∧ a.date.day < b.date.day) := by
    unfold Date.Before IsFourDigit at *; omega
  unfold precedes
  rw [toList_toMicros ha, toList_toMicros hb, hbefore, hdate]
  rw [isBefore_fixedDigits_append 4 (show _ < 10000 by unfold IsFourDigit at ha; omega)
      (show _ < 10000 by unfold IsFourDigit at hb; omega), isBefore_cons_self,
    isBefore_fixedDigits_append 2 hma hmb, isBefore_cons_self,
    isBefore_fixedDigits_append 2 hda hdb, isBefore_cons_self,
    isBefore_fixedDigits_append 2 hha hhb, isBefore_cons_self,
    isBefore_fixedDigits_append 2 hia hib, isBefore_cons_self,
    isBefore_fixedDigits_append 2 hsa hsb, isBefore_cons_self,
    isBefore_fixedDigits_append 6 hna hnb]
  simp only [isBefore_self, Bool.false_eq_true, and_false, or_false, and_or_left, or_assoc,
    and_assoc]

/-- Within the years 0 to 9999 the written instants compare as the instants cut to
microseconds. -/
theorem precedes_toMicros_iff {a b : Instant} (ha : a.IsFourDigit) (hb : b.IsFourDigit) :
    precedes a.toMicros b.toMicros = true ↔ a.cut < b.cut := by
  rw [precedes_toMicros_iff_fields ha hb, date_before_iff, date_eq_iff, lt_def]
  have hla := a.leap
  have hlb := b.leap
  have hna := a.nanos_lt
  have hnb := b.nanos_lt
  simp only [seconds_cut, nanos_cut]
  unfold clockSecond clockNanos secondOfDay
  omega

theorem yearDigits_of_not_fourDigit {y : Int} (hy : ¬ (0 ≤ y ∧ y ≤ 9999)) :
    ∃ sign digits, yearDigits y = sign :: digits ∧ sign.toNat < 48 := by
  unfold yearDigits
  rw [if_neg hy]
  refine ⟨_, _, rfl, ?_⟩
  split
  · decide
  · decide

/-- A year out of 0 to 9999 is written with a sign, and signs come before digits. -/
theorem isFourDigit_of_precedes {a b : Instant} (ha : a.IsFourDigit)
    (h : precedes a.toMicros b.toMicros = true) : b.IsFourDigit := by
  refine Classical.byContradiction fun hb => ?_
  obtain ⟨sign, digits, hyear, hsign⟩ := yearDigits_of_not_fourDigit hb
  obtain ⟨ys, hys⟩ : ∃ ys, b.toMicros.toList = sign :: ys := by
    unfold toMicros dateDigits
    rw [String.toList_ofList]
    simp only [hyear, List.cons_append]
    exact ⟨_, rfl⟩
  obtain ⟨n, xs, hxs⟩ : ∃ n xs, a.toMicros.toList = digitChar n :: xs := by
    rw [toList_toMicros ha]
    simp only [fixedDigits, List.nil_append, List.cons_append]
    exact ⟨_, _, rfl⟩
  have hdigit := toNat_digitChar n
  unfold precedes at h
  rw [hxs, hys] at h
  simp only [isBefore, Bool.or_eq_true, Bool.and_eq_true, Nat.blt_eq, beq_iff_eq] at h
  rcases h with hlt | ⟨heq, -⟩
  · omega
  · rw [heq] at hdigit
    omega

end Instant

end Time

end ArtifactRelay
