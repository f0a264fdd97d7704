import ArtifactRelay.Engine.Upload

/-!
# ArtifactRelay.Proofs.Engine.Answers

How an answer of the engine is understood.  The rules are stated on values alone:
which values count as not set (`Json.IsUnset`), what a value decides about the task
number (`Decides`), in which order the places of the number are asked (`Names`), and
what a rejection is explained by (`Explains`).  Each is then met by the function that
computes it.

The rules are complete: an answer that was received in full is accepted, or it is
refused for its status, or it is a rejection with a text that is not empty
(`submit_answered`).
-/

namespace ArtifactRelay

open Text

/-! ## Values -/

namespace Json

/-- The value is a signed whole number of 64 bits. -/
def IsInt64 (v : Json) (n : Int) : Prop :=
  v = .number (.int n) ∧ -9223372036854775808 ≤ n ∧ n ≤ 9223372036854775807

theorem toInt?_eq_some_iff {v : Json} {n : Int} : v.toInt? = some n ↔ v.IsInt64 n := by
  unfold IsInt64
  cases v with
  | number x =>
    cases x with
    | int k =>
      simp only [toInt?, Option.ite_none_right_eq_some, Option.some.injEq, number.injEq,
        Number.int.injEq]
      constructor
      · rintro ⟨hrange, rfl⟩
        exact ⟨rfl, hrange⟩
      · rintro ⟨rfl, hrange⟩
        exact ⟨hrange, rfl⟩
    | float x => simp [toInt?]
  | _ => simp [toInt?]

theorem toInt?_eq_none_iff {v : Json} : v.toInt? = none ↔ ∀ n, ¬ v.IsInt64 n := by
  simp only [← toInt?_eq_some_iff, Option.eq_none_iff_forall_ne_some, ne_eq]

/-- The values that count as not set. -/
inductive IsUnset : Json → Prop
  | null : IsUnset .null
  | no : IsUnset (.bool false)
  | zero : IsUnset (.number (.int 0))
  | zeroFloat {x : Binary64} (h : x.mantissa = 0) : IsUnset (.number (.float x))
  | text : IsUnset (.string "")
  | list : IsUnset (.array [])
  | object : IsUnset (.object [])

theorem isTruthy_iff {v : Json} : v.isTruthy = true ↔ ¬ v.IsUnset := by
  rw [← Bool.not_eq_false]
  refine not_congr ?_
  constructor
  · intro h
    cases v with
    | null => exact .null
    | bool b => cases h; exact .no
    | number x =>
      cases x with
      | int n =>
        have hn : n = 0 := by simpa [isTruthy] using h
        exact hn ▸ .zero
      | float x => exact .zeroFloat (by simpa [isTruthy, Binary64.isZero] using h)
    | string s =>
      have hs : s = "" := by simpa [isTruthy] using h
      exact hs ▸ .text
    | array xs =>
      have hxs : xs = [] := by simpa [isTruthy] using h
      exact hxs ▸ .list
    | object fields =>
      have hfields : fields = [] := by simpa [isTruthy] using h
      exact hfields ▸ .object
  · intro h
    cases h with
    | zeroFloat h => simp [isTruthy, Binary64.isZero, h]
    | _ => rfl

/-- The value at a path of field names. -/
def at? (v : Json) : List String → Option Json
  | [] => some v
  | key :: path => (v.field? key).bind fun x => x.at? path

end Json

/-! ### Values written out -/

theorem toString_nat_ne_empty (n : Nat) : toString n ≠ "" := by
  intro h
  have hdigits : n.toDigits 10 = [] := by
    simpa [Nat.toString_eq_ofList_toDigits] using congrArg String.toList h
  exact Nat.toDigits_ne_nil hdigits

namespace Binary64

theorem Decimal.positional_ne_empty (d : Decimal) : d.positional ≠ "" := by
  unfold Decimal.positional
  have hdigits := toString_nat_ne_empty d.digits
  split
  · split
    · exact hdigits
    · simp
  · simp

theorem scientific_ne_empty (x : Binary64) : x.scientific ≠ "" := by
  have hplaces := (x.shortest .even).positional_ne_empty
  simp only [scientific]
  generalize (if x.negative then "-" else "") = sign
  split
  · simp
  · split
    · simp [hplaces]
    · simp

end Binary64

namespace Json

theorem Number.text_ne_empty (n : Number) : n.text ≠ "" := by
  cases n with
  | int n =>
    cases n with
    | ofNat n => exact toString_nat_ne_empty n
    | negSucc n => simp [Number.text, toString, Int.repr]
  | float x => exact x.scientific_ne_empty

/-- No value is written as nothing. -/
theorem compact_ne_empty (v : Json) : v.compact ≠ "" := by
  cases v with
  | null => simp [compact]
  | bool b => cases b <;> simp [compact]
  | number n => exact n.text_ne_empty
  | string s => simp [compact, quote]
  | array xs => simp [compact]
  | object fields => simp [compact]

end Json

namespace Engine

/-! ## The task number -/

/-- What a value decides about the task number: a list that is not empty decides by its first
element, and a signed whole number of 64 bits by itself. -/
inductive Decides : Json → Option Int → Prop
  | first {x : Json} {xs : List Json} {t : Option Int} (h : ∀ n, t = some n ↔ x.IsInt64 n) :
      Decides (.array (x :: xs)) t
  | scalar {x : Json} {n : Int} (h : x.IsInt64 n) : Decides x (some n)

theorem firstId_eq_some_iff {x : Json} {t : Option Int} :
    firstId x = some t ↔ Decides x t := by
  constructor
  · intro h
    match x, h with
    | .array [], h => cases h
    | .array (x :: xs), h =>
      obtain rfl := Option.some.inj h
      exact .first fun n => Json.toInt?_eq_some_iff
    | .number n, h =>
      obtain ⟨k, hk, rfl⟩ := Option.map_eq_some_iff.mp h
      exact .scalar (Json.toInt?_eq_some_iff.mp hk)
  · intro h
    cases h with
    | @first x xs t h =>
      have ht : x.toInt? = t := Option.ext fun n => by
        rw [Json.toInt?_eq_some_iff, ← h n]
      exact congrArg some ht
    | @scalar x n h =>
      obtain ⟨rfl, hrange⟩ := h
      simp [firstId, Json.toInt?, hrange]

/-- No value at the path decides about the task number. -/
def Silent (v : Json) (path : List String) : Prop :=
  ∀ x t, v.at? path = some x → ¬ Decides x t

/-- The task number of an object, by the first place that decides. -/
inductive Names (v : Json) : Option Int → Prop
  | nested {x : Json} {t : Option Int} (hx : v.at? ["data", "task_ids"] = some x)
      (h : Decides x t) : Names v t
  | flat {x : Json} {t : Option Int} (hnested : Silent v ["data", "task_ids"])
      (hx : v.at? ["task_ids"] = some x) (h : Decides x t) : Names v t
  | number {x : Json} {n : Int} (hnested : Silent v ["data", "task_ids"])
      (hflat : Silent v ["task_ids"]) (hx : v.at? ["task_id"] = some x) (h : x.IsInt64 n) :
      Names v (some n)
  | nothing (hnested : Silent v ["data", "task_ids"]) (hflat : Silent v ["task_ids"])
      (hnumber : ∀ x n, v.at? ["task_id"] = some x → ¬ x.IsInt64 n) : Names v none

theorem bind_firstId_eq_none_iff {v : Json} {path : List String} :
    (v.at? path).bind firstId = none ↔ Silent v path := by
  unfold Silent
  constructor
  · intro h x t hx hdecides
    rw [hx, Option.bind_some, firstId_eq_some_iff.mpr hdecides] at h
    exact Option.some_ne_none t h
  · intro h
    refine Option.bind_eq_none_iff.mpr fun x hx => ?_
    exact Option.eq_none_iff_forall_ne_some.mpr fun t ht => h x t hx (firstId_eq_some_iff.mp ht)

theorem bind_firstId_eq_some_iff {v : Json} {path : List String} {t : Option Int} :
    (v.at? path).bind firstId = some t ↔ ∃ x, v.at? path = some x ∧ Decides x t := by
  simp only [Option.bind_eq_some_iff, firstId_eq_some_iff]

theorem findSome?_rules (v : Json) :
    rules.findSome? (·.find v) =
      ((v.at? ["data", "task_ids"]).bind firstId).or
        (((v.at? ["task_ids"]).bind firstId).or
          (((v.at? ["task_id"]).bind Json.toInt?).map some)) := by
  have hcons (r : Rule) (rs : List Rule) :
      (r :: rs).findSome? (·.find v) = (r.find v).or (rs.findSome? (·.find v)) := by
    rw [List.findSome?_cons]
    cases r.find v <;> rfl
  simp only [rules, hcons, List.findSome?_nil, Option.or_none, Json.at?, Option.bind_assoc,
    Option.bind_some, Option.map_bind]
  rfl

theorem taskRef?_object (fields : List (String × Json)) :
    taskRef? (.object fields) = (rules.findSome? (·.find (.object fields))).join := rfl

/-- The task number of an object is the one that its places name. -/
theorem taskRef?_eq_iff {fields : List (String × Json)} {t : Option Int} :
    taskRef? (.object fields) = t ↔ Names (.object fields) t := by
  rw [taskRef?_object, findSome?_rules]
  generalize Json.object fields = v
  constructor
  · rintro rfl
    cases hnested : (v.at? ["data", "task_ids"]).bind firstId with
    | some t =>
      obtain ⟨x, hx, hdecides⟩ := bind_firstId_eq_some_iff.mp hnested
      exact .nested hx hdecides
    | none =>
      have hnested := bind_firstId_eq_none_iff.mp hnested
      cases hflat : (v.at? ["task_ids"]).bind firstId with
      | some t =>
        obtain ⟨x, hx, hdecides⟩ := bind_firstId_eq_some_iff.mp hflat
        exact .flat hnested hx hdecides
      | none =>
        have hflat := bind_firstId_eq_none_iff.mp hflat
        cases hnumber : (v.at? ["task_id"]).bind Json.toInt? with
        | some n =>
          obtain ⟨x, hx, hn⟩ := Option.bind_eq_some_iff.mp hnumber
          exact .number hnested hflat hx (Json.toInt?_eq_some_iff.mp hn)
        | none =>
          refine .nothing hnested hflat fun x n hx hn => ?_
          rw [hx, Option.bind_some, Json.toInt?_eq_some_iff.mpr hn] at hnumber
          exact Option.some_ne_none n hnumber
  · intro h
    cases h with
    | nested hx hdecides =>
      rw [bind_firstId_eq_some_iff.mpr ⟨_, hx, hdecides⟩]
      rfl
    | flat hnested hx hdecides =>
      rw [bind_firstId_eq_none_iff.mpr hnested, bind_firstId_eq_some_iff.mpr ⟨_, hx, hdecides⟩]
      rfl
    | number hnested hflat hx hn =>
      rw [bind_firstId_eq_none_iff.mpr hnested, bind_firstId_eq_none_iff.mpr hflat, hx,
        Option.bind_some, Json.toInt?_eq_some_iff.mpr hn]
      rfl
    | nothing hnested hflat hnumber =>
      have hnone : (v.at? ["task_id"]).bind Json.toInt? = none :=
        Option.bind_eq_none_iff.mpr fun x hx =>
          Json.toInt?_eq_none_iff.mpr fun n hn => hnumber x n hx hn
      rw [bind_firstId_eq_none_iff.mpr hnested, bind_firstId_eq_none_iff.mpr hflat, hnone]
      rfl

theorem taskRef?_of_not_object {v : Json} (h : ∀ fields, v ≠ .object fields) :
    taskRef? v = none := by
  cases v with
  | object fields => exact absurd rfl (h fields)
  | _ => rfl

/-! ## Rejections -/

/-- An object whose `error` is set. -/
def IsRejection (v : Json) : Prop :=
  ∃ fields x, v = .object fields ∧ Json.lookup "error" fields = some x ∧ ¬ x.IsUnset

theorem any_isTruthy_iff {v : Json} :
    (v.field? "error").any Json.isTruthy = true ↔ IsRejection v := by
  unfold IsRejection
  cases v with
  | object fields => simp [Json.field?, Option.any_eq_true, Json.isTruthy_iff]
  | _ => simp [Json.field?]

/-- What a rejection is explained by: the text that it gives, any other value that is set, written
on one line, or the whole answer. -/
inductive Explains (v : Json) (body : String) : String → Prop
  | text {s : String} (h : v.field? "error_value" = some (.string s)) (hs : s ≠ "") :
      Explains v body s
  | value {x : Json} (h : v.field? "error_value" = some x) (htext : ∀ s, x ≠ .string s)
      (hset : ¬ x.IsUnset) : Explains v body x.compact
  | body (h : ∀ x, v.field? "error_value" = some x → x.IsUnset) : Explains v body body

theorem explains_rejectionDetail (v : Json) (body : String) :
    Explains v body (rejectionDetail v body) := by
  unfold rejectionDetail
  split
  · rename_i s h
    split
    · rename_i hempty
      obtain rfl : s = "" := by simpa using hempty
      exact .body fun x hx => Option.some.inj (h.symm.trans hx) ▸ .text
    · rename_i hs
      exact .text h (by simpa using hs)
  · rename_i x htext h
    split
    · rename_i hset
      exact .value h (fun s hs => htext s (hs ▸ rfl)) (Json.isTruthy_iff.mp hset)
    · rename_i hunset
      refine .body fun y hy => Classical.byContradiction fun hset => ?_
      obtain rfl := Option.some.inj (h.symm.trans hy)
      exact hunset (Json.isTruthy_iff.mpr hset)
  · rename_i h
    exact .body fun x hx => by simp [h] at hx

/-- No rejection of an answer that is not empty is explained by nothing. -/
theorem Explains.ne_empty {v : Json} {body detail : String} (h : Explains v body detail)
    (hbody : body ≠ "") : detail ≠ "" := by
  cases h with
  | text _ hs => exact hs
  | value _ _ _ => exact Json.compact_ne_empty _
  | body _ => exact hbody

/-! ## Answers -/

theorem ne_empty_of_ofText? {text : String} {v : Json} (h : Json.ofText? text = some v) :
    text ≠ "" := by
  rintro rfl
  cases h

/-- What an accepted answer acknowledges. -/
structure Acknowledges (text : String) (a : Acknowledgment) : Prop where
  /-- The answer is kept as it was received. -/
  raw : a.raw = text
  /-- An answer that is no object names no task. -/
  unnamed : (∀ fields, Json.ofText? text ≠ some (.object fields)) → a.taskRef = none
  named : ∀ fields, Json.ofText? text = some (.object fields) →
    ∀ t, a.taskRef = t ↔ Names (.object fields) t

theorem acknowledges_taskRef? (text : String) :
    Acknowledges text ⟨(Json.ofText? text).bind taskRef?, text⟩ where
  raw := rfl
  unnamed h := Option.bind_eq_none_iff.mpr fun v hv =>
    taskRef?_of_not_object fun fields hfields => h fields (hfields ▸ hv)
  named fields hfields t := by
    simp only [hfields, Option.bind_some]
    exact taskRef?_eq_iff

/-- What an answer means by its status and its text: a status that is no success refuses it, a
rejection is explained, and any other answer is accepted with its text and the task number that it
names. -/
structure Means (status : Nat) (text : String) (result : Except Fault Acknowledgment) : Prop where
  /-- What is accepted. -/
  accepted : (∃ a, result = .ok a) ↔
    (200 ≤ status ∧ status < 300) ∧ ∀ v, Json.ofText? text = some v → ¬ IsRejection v
  /-- A status that is no success tells itself and the text, whatever the text says. -/
  refused : ¬ (200 ≤ status ∧ status < 300) → result = .error (.status status text)
  /-- A rejection under a status of success is explained by a text that is not empty. -/
  rejected : 200 ≤ status ∧ status < 300 → ∀ v, Json.ofText? text = some v → IsRejection v →
    ∃ detail, result = .error (.rejected detail) ∧ Explains v text detail ∧ detail ≠ ""
  acknowledged : ∀ a, result = .ok a → Acknowledges text a

/-- An answer that holds no rejection is accepted. -/
theorem ofBody_of_not_isRejection {text : String}
    (h : ∀ v, Json.ofText? text = some v → ¬ IsRejection v) :
    Acknowledgment.ofBody text = .ok ⟨(Json.ofText? text).bind taskRef?, text⟩ := by
  unfold Acknowledgment.ofBody
  cases hv : Json.ofText? text with
  | none => rfl
  | some v => simp [mt any_isTruthy_iff.mp (h v hv)]

theorem ofBody_of_isRejection {text : String} {v : Json} (hv : Json.ofText? text = some v)
    (h : IsRejection v) : Acknowledgment.ofBody text = .error (rejectionDetail v text) := by
  simp [Acknowledgment.ofBody, hv, any_isTruthy_iff.mpr h]

/-- The three ways in which an answer is understood. -/
theorem interpret_cases (status : Nat) (text : String) :
    (¬ (200 ≤ status ∧ status < 300) ∧ interpret status text = .error (.status status text)) ∨
    ((200 ≤ status ∧ status < 300) ∧ (∀ v, Json.ofText? text = some v → ¬ IsRejection v) ∧
      interpret status text = .ok ⟨(Json.ofText? text).bind taskRef?, text⟩) ∨
    ((200 ≤ status ∧ status < 300) ∧ ∃ v, Json.ofText? text = some v ∧ IsRejection v ∧
      interpret status text = .error (.rejected (rejectionDetail v text))) := by
  unfold interpret
  by_cases hstatus : 200 ≤ status ∧ status < 300
  · by_cases hrejection : ∃ v, Json.ofText? text = some v ∧ IsRejection v
    · obtain ⟨v, hv, hrejection⟩ := hrejection
      refine .inr (.inr ⟨hstatus, v, hv, hrejection, ?_⟩)
      rw [if_pos hstatus, ofBody_of_isRejection hv hrejection]
    · have hnone : ∀ v, Json.ofText? text = some v → ¬ IsRejection v :=
        fun v hv h => hrejection ⟨v, hv, h⟩
      refine .inr (.inl ⟨hstatus, hnone, ?_⟩)
      rw [if_pos hstatus, ofBody_of_not_isRejection hnone]
  · exact .inl ⟨hstatus, if_neg hstatus⟩

theorem means_interpret (status : Nat) (text : String) :
    Means status text (interpret status text) := by
  obtain ⟨hstatus, h⟩ | ⟨hstatus, hnone, h⟩ | ⟨hstatus, v, hv, hrejection, h⟩ :=
    interpret_cases status text
  · rw [h]
    exact {
      accepted := ⟨fun ⟨_, hok⟩ => (nomatch hok), fun hok => absurd hok.1 hstatus⟩
      refused := fun _ => rfl
      rejected := fun hok => absurd hok hstatus
      acknowledged := fun _ hok => nomatch hok }
  · rw [h]
    exact {
      accepted := ⟨fun _ => ⟨hstatus, hnone⟩, fun _ => ⟨_, rfl⟩⟩
      refused := fun hnot => absurd hstatus hnot
      rejected := fun _ v hv hrejection => absurd hrejection (hnone v hv)
      acknowledged := fun a hok => Except.ok.inj hok ▸ acknowledges_taskRef? text }
  · rw [h]
    have hexplains := explains_rejectionDetail v text
    exact {
      accepted := ⟨fun ⟨_, hok⟩ => (nomatch hok), fun hok => absurd hrejection (hok.2 v hv)⟩
      refused := fun hnot => absurd hstatus hnot
      rejected := fun _ u hu _ => by
        obtain rfl := Option.some.inj (hv.symm.trans hu)
        exact ⟨_, rfl, hexplains, hexplains.ne_empty (ne_empty_of_ofText? hv)⟩
      acknowledged := fun _ hok => nomatch hok }

/-- **Answers are understood by the rules.**  The submission of an artifact that can be read ends,
when its upload is answered in full, as the answer's status and text mean. -/
theorem submit_answered {s : Settings} {bytes : ByteArray} {displayName : String}
    {exchange : Upload → Reply} {status : Nat} {body : ByteArray}
    (hsent : (s.upload displayName bytes).authorization.all isHeaderValue = true)
    (hreply : exchange (s.upload displayName bytes) = .answer status body) :
    Means status (decodeLossy body) (submit s (.content bytes) displayName exchange) := by
  have hanswer : submit s (.content bytes) displayName exchange =
      interpret status (decodeLossy body) := by
    simp [submit, hsent, hreply, Reply.interpret]
  rw [hanswer]
  exact means_interpret status (decodeLossy body)

/-- An empty list decides nothing, so that the number is asked for in the last place. -/
theorem submit_answered_fallback :
    let s : Settings := ⟨"http://engine", .ofSeconds 30, some "key", "", "", "", ""⟩
    let text := "\x7b\"data\": \x7b\"task_ids\": []\x7d, \"task_id\": 5\x7d"
    let result := submit s (.content ByteArray.empty) "a" fun _ => .answer 200 text.toUTF8
    Means 200 (decodeLossy text.toUTF8) result ∧ result.toOption = some ⟨some 5, text⟩ :=
  ⟨submit_answered (by decide +kernel) rfl, by decide +kernel⟩

end Engine

end ArtifactRelay
