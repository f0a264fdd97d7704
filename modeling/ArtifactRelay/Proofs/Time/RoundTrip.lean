import ArtifactRelay.Proofs.Time.Order
import ArtifactRelay.Time.Reading

/-!
# ArtifactRelay.Proofs.Time.RoundTrip

A written instant reads back, cut down to the microsecond (`ofText?_toMicros`),
whatever its year is.  Each reader is shown to take back what the writer of its
field puts in front of any rest that cannot go on with the field.

With the order of the texts this says what a column of written instants keeps: the
value of each to the microsecond and, within the years 0 to 9999, their order
(`toMicros_faithful`).
-/

namespace ArtifactRelay

open Text Time

/-! ## Runs of digits -/

namespace Text

theorem isDigit_digitChar (n : Nat) : isDigit (digitChar n) = true := by
  rw [isDigit, digitValue_digitChar]
  rfl

theorem isDigit_of_mem_fixedDigits {width n : Nat} {c : Char} (h : c ∈ fixedDigits width n) :
    isDigit c = true := by
  induction width generalizing n with
  | zero => cases h
  | succ width ih =>
    rw [fixedDigits, List.mem_append, List.mem_singleton] at h
    rcases h with h | rfl
    · exact ih h
    · exact isDigit_digitChar n

theorem isDigit_of_isDigit {c : Char} (h : c.isDigit = true) : isDigit c = true := by
  simp only [Char.isDigit, Bool.and_eq_true, decide_eq_true_eq] at h
  have hrange : '0' ≤ c ∧ c ≤ '9' := h
  simp [isDigit, digitValue, hrange]

/-- A digit is no blank. -/
theorem isBlank_eq_false_of_isDigit {c : Char} (h : isDigit c = true) : isBlank c = false := by
  have hrange : '0' ≤ c ∧ c ≤ '9' := by
    by_cases hc : '0' ≤ c ∧ c ≤ '9'
    · exact hc
    · simp [isDigit, digitValue, hc] at h
  have hlow : 48 ≤ c.toNat := hrange.1
  have hhigh : c.toNat ≤ 57 := hrange.2
  unfold isBlank
  generalize c.toNat = n at hlow hhigh
  have hall : ∀ k : Fin 58, 48 ≤ k.val → inRanges k.val blankRanges = false := by decide
  exact hall ⟨n, by omega⟩ hlow

/-- The digits that the core library writes denote the number. -/
theorem valueOf_eq_ofDigitChars (acc : Nat) {cs : List Char} (h : ∀ c ∈ cs, c.isDigit = true) :
    valueOf acc cs = Nat.ofDigitChars 10 cs acc := by
  induction cs generalizing acc with
  | nil => simp [valueOf]
  | cons c cs ih =>
    have hc := h c List.mem_cons_self
    simp only [Char.isDigit, Bool.and_eq_true, decide_eq_true_eq] at hc
    have hrange : '0' ≤ c ∧ c ≤ '9' := hc
    rw [valueOf, Nat.ofDigitChars_cons, ih _ fun d hd => h d (List.mem_cons_of_mem _ hd)]
    simp only [digitValue, if_pos hrange, Option.getD_some]
    congr 1
    rw [Nat.mul_comm]
    rfl

end Text

namespace Time

/-! ## Readers -/

namespace Reading

theorem skipBlanks_cons {c : Char} (h : isBlank c = false) (cs : List Char) :
    skipBlanks (c :: cs) = c :: cs := by
  simp [skipBlanks, h]

theorem skipBlanks_digits {ds : List Char} (hds : ∀ c ∈ ds, isDigit c = true) (hne : ds ≠ [])
    (rest : List Char) : skipBlanks (ds ++ rest) = ds ++ rest := by
  cases ds with
  | nil => exact absurd rfl hne
  | cons d ds => exact skipBlanks_cons (isBlank_eq_false_of_isDigit (hds d List.mem_cons_self)) _

/-- A run of digits is read if it is not too long and ends before the rest does. -/
theorem digits_append {most : Nat} {ds : List Char} (hds : ∀ c ∈ ds, isDigit c = true)
    (hne : ds ≠ []) (hlen : ds.length ≤ most) (rest : List Char)
    (hrest : ∀ c, rest.head? = some c → isDigit c = false) :
    digits most (ds ++ rest) = some (ds, rest) := by
  have hends : (rest.take (most - ds.length)).takeWhile isDigit = [] := by
    cases rest with
    | nil => simp
    | cons c rest =>
      cases most - ds.length with
      | zero => rfl
      | succ k => simp [hrest c rfl]
  have htake : ((ds ++ rest).take most).takeWhile isDigit = ds := by
    rw [List.take_append, List.take_of_length_le hlen, List.takeWhile_append_of_pos hds, hends,
      List.append_nil]
  unfold digits
  simp [htake, hne]

theorem number_fixedDigits {width n : Nat} (hwidth : 0 < width) (hn : n < pow10 width)
    (rest : List Char) (hrest : ∀ c, rest.head? = some c → isDigit c = false) :
    number width (fixedDigits width n ++ rest) = some (n, rest) := by
  have hds : ∀ c ∈ fixedDigits width n, isDigit c = true := fun _ => isDigit_of_mem_fixedDigits
  have hne : fixedDigits width n ≠ [] := by
    intro h
    have hlen := congrArg List.length h
    rw [length_fixedDigits, List.length_nil] at hlen
    omega
  unfold number
  rw [skipBlanks_digits hds hne,
    digits_append hds hne (Nat.le_of_eq (length_fixedDigits width n)) rest hrest]
  simp only [Option.map_some, valueOf_fixedDigits, Nat.mod_eq_of_lt hn]

theorem mark_cons {c : Char} (h : isBlank c = false) (rest : List Char) :
    mark c (c :: rest) = some rest := by
  simp [mark, skipBlanks_cons h]

/-- What follows a sign in a written year: the digits of a number, padded with zeros. -/
theorem digits_padded (n width : Nat) (rest : List Char)
    (hrest : ∀ c, rest.head? = some c → isDigit c = false) :
    ∃ ds, digits (List.replicate width '0' ++ (toString n).toList ++ rest).length
        (List.replicate width '0' ++ (toString n).toList ++ rest) = some (ds, rest) ∧
      valueOf 0 ds = n := by
  have hcore : ∀ c ∈ List.replicate width '0' ++ (toString n).toList, c.isDigit = true := by
    intro c hc
    rcases List.mem_append.mp hc with hc | hc
    · rw [(List.mem_replicate.mp hc).2]
      rfl
    · rw [show toString n = n.repr from rfl, Nat.toList_repr] at hc
      exact Nat.isDigit_of_mem_toDigits (by decide) (by decide) hc
  have hne : List.replicate width '0' ++ (toString n).toList ≠ [] := by
    intro h
    have hdigits := (List.append_eq_nil_iff.mp h).2
    rw [show toString n = n.repr from rfl, Nat.toList_repr] at hdigits
    exact Nat.toDigits_ne_nil hdigits
  refine ⟨_, digits_append (fun c hc => isDigit_of_isDigit (hcore c hc)) hne (by simp) rest hrest,
    ?_⟩
  rw [valueOf_eq_ofDigitChars 0 hcore, Nat.ofDigitChars_append, Nat.ofDigitChars_replicate_zero,
    Nat.mul_zero, show toString n = n.repr from rfl, Nat.toList_repr,
    Nat.ofDigitChars_toDigits (by decide) (by decide)]

/-- A written year is read back. -/
theorem year_yearDigits (y : Int) (rest : List Char)
    (hrest : ∀ c, rest.head? = some c → isDigit c = false) :
    year (yearDigits y ++ rest) = some (y, rest) := by
  unfold yearDigits
  split
  · rename_i hy
    have hds : ∀ c ∈ fixedDigits 4 y.toNat, isDigit c = true :=
      fun _ => isDigit_of_mem_fixedDigits
    have hne : fixedDigits 4 y.toNat ≠ [] := by simp [fixedDigits]
    have hread := digits_append hds hne (Nat.le_of_eq (length_fixedDigits 4 _)) rest hrest
    have hvalue : ((valueOf 0 (fixedDigits 4 y.toNat) : Nat) : Int) = y := by
      rw [valueOf_fixedDigits, Nat.mod_eq_of_lt (show y.toNat < pow10 4 by
        show y.toNat < 10000
        omega)]
      omega
    unfold year
    rw [skipBlanks_digits hds hne]
    -- the first character of four digits is no sign
    split
    · rename_i hsign
      have hmem : '-' ∈ fixedDigits 4 y.toNat := by
        simp only [fixedDigits, List.nil_append, List.cons_append] at hsign ⊢
        exact (List.cons.inj hsign).1 ▸ List.mem_cons_self
      exact absurd (hds _ hmem) (by decide)
    · rename_i hsign
      have hmem : '+' ∈ fixedDigits 4 y.toNat := by
        simp only [fixedDigits, List.nil_append, List.cons_append] at hsign ⊢
        exact (List.cons.inj hsign).1 ▸ List.mem_cons_self
      exact absurd (hds _ hmem) (by decide)
    · rw [hread, Option.map_some]
      simp only [hvalue]
  · rename_i hy
    obtain ⟨ds, hread, hvalue⟩ :=
      digits_padded y.natAbs (4 - (toString y.natAbs).toList.length) rest hrest
    by_cases hneg : y < 0
    · have habs : -(y.natAbs : Int) = y := by omega
      simp only [if_pos hneg, List.cons_append]
      unfold year
      rw [skipBlanks_cons (by decide)]
      simp only [hread, Option.map_some, hvalue, habs]
    · have habs : (y.natAbs : Int) = y := by omega
      simp only [if_neg hneg, List.cons_append]
      unfold year
      rw [skipBlanks_cons (by decide)]
      simp only [hread, Option.map_some, hvalue, habs]

/-- A written date is read back. -/
theorem date_dateDigits (t : Instant) (rest : List Char)
    (hrest : ∀ c, rest.head? = some c → isDigit c = false) :
    date (t.dateDigits ++ rest) = some (t.date, rest) := by
  obtain ⟨hmonth, hday, -⟩ := t.fields_lt
  have hdash : ∀ (cs : List Char) (c : Char), ('-' :: cs).head? = some c → isDigit c = false := by
    intro cs c h
    cases h
    decide
  unfold date Instant.dateDigits
  simp only [List.append_assoc, List.cons_append]
  rw [year_yearDigits _ _ (hdash _)]
  simp only [Option.bind_eq_bind, Option.bind_some, mark_cons (c := '-') (by decide)]
  rw [number_fixedDigits (by decide) hmonth _ (hdash _)]
  simp only [Option.bind_some, mark_cons (c := '-') (by decide)]
  rw [number_fixedDigits (by decide) hday _ hrest]
  have hvalid : t.date.isValid = true := isValid_dateOfDay _
  simp only [Option.bind_some, hvalid, if_true]

/-- The written time of day is read back: the second of the day, and the nanoseconds cut down
to microseconds. -/
theorem time_timeDigits (t : Instant) (rest : List Char)
    (hrest : ∀ c, rest.head? = some c → isDigit c = false) :
    time (t.timeDigits ++ '.' :: fixedDigits 6 (t.clockNanos / 1000) ++ rest) =
      some ((t.secondOfDay, t.nanos / 1000 * 1000), rest) := by
  obtain ⟨-, -, hhour, hminute, hsecond, hmicros⟩ := t.fields_lt
  have hcolon : ∀ (cs : List Char) (c : Char), (':' :: cs).head? = some c → isDigit c = false := by
    intro cs c h
    cases h
    decide
  have hpoint : ∀ (cs : List Char) (c : Char), ('.' :: cs).head? = some c → isDigit c = false := by
    intro cs c h
    cases h
    decide
  have hds : ∀ c ∈ fixedDigits 6 (t.clockNanos / 1000), isDigit c = true :=
    fun _ => isDigit_of_mem_fixedDigits
  have hne : fixedDigits 6 (t.clockNanos / 1000) ≠ [] := by simp [fixedDigits]
  have hfraction : fraction ('.' :: (fixedDigits 6 (t.clockNanos / 1000) ++ rest)) =
      some (t.clockNanos / 1000 * 1000, rest) := by
    unfold fraction
    have hlen : (fixedDigits 6 (t.clockNanos / 1000)).length ≤ 9 := by
      rw [length_fixedDigits]
      decide
    simp only [digits_append hds hne hlen rest hrest, Option.bind_eq_bind, Option.bind_some,
      valueOf_fixedDigits, length_fixedDigits]
    have hdrop : (fixedDigits 6 (t.clockNanos / 1000) ++ rest).dropWhile isDigit = rest := by
      rw [List.dropWhile_append_of_pos hds]
      cases rest with
      | nil => rfl
      | cons c rest => simp [hrest c rfl]
    rw [hdrop, Nat.mod_eq_of_lt (show _ < pow10 6 from hmicros)]
    rfl
  have hday : t.secondOfDay < 86400 := by unfold Instant.secondOfDay; omega
  have hnanos := t.nanos_lt
  have hleap := t.leap
  unfold time Instant.timeDigits Instant.minuteDigits
  simp only [List.append_assoc, List.cons_append]
  rw [number_fixedDigits (by decide) hhour _ (hcolon _)]
  simp only [Option.bind_eq_bind, Option.bind_some, mark_cons (c := ':') (by decide)]
  rw [number_fixedDigits (by decide) hminute _ (hcolon _)]
  simp only [Option.bind_some, mark_cons (c := ':') (by decide)]
  rw [number_fixedDigits (by decide) hsecond _ (hpoint _)]
  simp only [Option.bind_some, hfraction]
  have hclock : t.secondOfDay / 3600 ≤ 23 ∧ t.secondOfDay / 60 % 60 ≤ 59 ∧ t.clockSecond ≤ 60 := by
    unfold Instant.clockSecond Instant.secondOfDay at *; omega
  rw [if_pos hclock]
  congr 2
  -- the 60th second of a clock is a leap second, or no second at all
  split
  · rename_i h60
    unfold Instant.clockSecond Instant.clockNanos Instant.secondOfDay at *
    exact Prod.ext (by dsimp only; omega) (by dsimp only; omega)
  · rename_i h60
    unfold Instant.clockSecond Instant.clockNanos Instant.secondOfDay at *
    exact Prod.ext (by dsimp only; omega) (by dsimp only; omega)

end Reading

/-! ## Instants -/

open Reading in
/-- A written instant reads back, cut down to the microsecond. -/
theorem Instant.ofText?_toMicros (t : Instant) : Instant.ofText? t.toMicros = some t.cut := by
  have hzone : ∀ c, (['Z'] : List Char).head? = some c → isDigit c = false := by
    intro c h
    cases h
    decide
  have hlow := t.earliest_le
  have hhigh := t.le_latest
  have hday : dayNumber t.date = t.seconds / 86400 := dayNumber_dateOfDay _
  unfold Instant.ofText? Instant.toMicros
  rw [String.toList_ofList]
  simp only [List.append_assoc, List.cons_append]
  rw [date_dateDigits t _ (by intro c h; cases h; decide)]
  simp only [Option.bind_eq_bind, Option.bind_some]
  have htime := time_timeDigits t ['Z'] hzone
  simp only [List.append_assoc, List.cons_append] at htime
  rw [htime]
  simp only [Option.bind_some, hday, skipBlanks_cons (c := 'Z') (by decide)]
  have hstart : (skipBlanks ([] : List Char)).isEmpty = true ∧
      earliestSecond ≤ t.seconds / 86400 * 86400 ∧ t.seconds / 86400 * 86400 ≤ latestSecond := by
    have he : earliestSecond % 86400 = 0 := by decide
    refine ⟨rfl, ?_, ?_⟩ <;> omega
  have hzoneZ : zone ['Z'] = some (0, []) := rfl
  simp only [hzoneZ, Option.bind_some, if_pos hstart]
  rw [Instant.ofParts?_eq_some_iff]
  refine ⟨?_, rfl⟩
  rw [Instant.seconds_cut]
  unfold Instant.secondOfDay
  omega

/-! ## Order and value -/

namespace Instant

/-- Within the years 0 to 9999 all written instants are equally long. -/
theorem length_toMicros {t : Instant} (ht : t.IsFourDigit) : t.toMicros.length = 27 := by
  rw [← String.length_toList, toList_toMicros ht]
  simp

theorem toMicros_eq_iff {t u : Instant} : t.toMicros = u.toMicros ↔ t.cut = u.cut := by
  constructor
  · intro h
    have hread := ofText?_toMicros t
    rw [h, ofText?_toMicros] at hread
    exact (Option.some.inj hread).symm
  · intro h
    rw [← toMicros_cut t, h, toMicros_cut]

/-- The cut takes off what is less than a microsecond. -/
theorem toNanos_cut (t : Instant) : t.cut.toNanos = t.toNanos / 1000 * 1000 := by
  unfold toNanos
  rw [seconds_cut, nanos_cut]
  omega

/-- Outside leap seconds, instants that are cut compare as their whole microseconds. -/
theorem cut_lt_cut_iff {t u : Instant} (ht : t.nanos < 1000000000) (hu : u.nanos < 1000000000) :
    t.cut < u.cut ↔ t.toNanos / 1000 < u.toNanos / 1000 := by
  rw [lt_def, seconds_cut, nanos_cut, seconds_cut, nanos_cut]
  unfold toNanos
  omega

/-- What a written instant keeps.  Within the years 0 to 9999 all are equally long and compare as
texts as the instants cut to the microsecond do, which outside leap seconds is as their whole
microseconds do.  Of any year, what is read back is the instant, cut down to the microsecond. -/
theorem toMicros_faithful :
    (∀ t u : Instant, t.IsFourDigit → u.IsFourDigit →
      t.toMicros.length = u.toMicros.length ∧
        (precedes t.toMicros u.toMicros = true ↔ t.cut < u.cut) ∧
        (t.toMicros = u.toMicros ↔ t.cut = u.cut)) ∧
    (∀ t u : Instant, t.nanos < 1000000000 → u.nanos < 1000000000 →
      (t.cut < u.cut ↔ t.toNanos / 1000 < u.toNanos / 1000)) ∧
    ∀ t : Instant, ofText? t.toMicros = some t.cut ∧ t.cut.toNanos = t.toNanos / 1000 * 1000 := by
  refine ⟨fun t u ht hu => ⟨?_, precedes_toMicros_iff ht hu, toMicros_eq_iff⟩,
    fun t u => cut_lt_cut_iff, fun t => ⟨ofText?_toMicros t, toNanos_cut t⟩⟩
  rw [length_toMicros ht, length_toMicros hu]

/-- 1969-12-31T23:59:59.999999500Z. -/
def beforeEpoch : Instant :=
  ⟨-1, 999999500, by decide, by decide, by decide, by decide⟩

/-- Half a microsecond before 1970 is kept as the last whole one of 1969, and comes first. -/
theorem toMicros_faithful_before_epoch :
    (beforeEpoch.IsFourDigit ∧ epoch.IsFourDigit) ∧
      beforeEpoch.toMicros.length = epoch.toMicros.length ∧
      precedes beforeEpoch.toMicros epoch.toMicros = true ∧
      ofText? beforeEpoch.toMicros = some beforeEpoch.cut ∧ beforeEpoch.cut.toNanos = -1000 := by
  have hdigits : beforeEpoch.IsFourDigit ∧ epoch.IsFourDigit := by decide
  obtain ⟨horder, hmicros, hvalue⟩ := toMicros_faithful
  obtain ⟨hlength, hprecedes, -⟩ := horder beforeEpoch epoch hdigits.1 hdigits.2
  have hlt := (hmicros beforeEpoch epoch (by decide) (by decide)).mpr (by decide)
  exact ⟨hdigits, hlength, hprecedes.mpr hlt, (hvalue beforeEpoch).1,
    (hvalue beforeEpoch).2.trans (by decide)⟩

end Instant

end Time

end ArtifactRelay
