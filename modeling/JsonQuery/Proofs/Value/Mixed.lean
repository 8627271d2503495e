import JsonQuery.Proofs.Outcome
import JsonQuery.Proofs.Value.NumberText
import Mathlib.Tactic

/-!
Comparison across kinds. Two numbers are compared by their places, and any other two sort keys by
the collations of their texts. The two orders disagree: the text of a lesser number can come behind
that of a greater one. A truth value never stands between such texts, because all numbers below
the upper end of the line are written with a sign or a digit at the beginning. So what breaks the
order of a set of sort keys is a text that stands between the texts of two numbers the wrong way
round, and nothing else.
-/

namespace JsonQuery.Value

open Outcome

variable {a b c m n t : Value} {values : List Value}

/-- The collation of the text of a value. -/
def written (v : Value) : List ℕ ×ₗ List ℕ := collation v.plainText

/-- A value compares as less than or equal to another. -/
def AtMost (a b : Value) : Prop := ∃ o, a.compare b = .ok o ∧ o ≠ .gt

section Pairs

theorem compareCollated_swap (s t : String) :
    compareCollated t s = (compareCollated s t).swap :=
  (compareCollated_compares t s).inj
    (Ordering.compares_swap.mpr (compareCollated_compares s t))

theorem place_compare_swap (p q : Place) : q.compare p = (p.compare q).swap :=
  (q.compare_compares p).inj (Ordering.compares_swap.mpr (p.compare_compares q))

theorem compare?_swap (m n : Number) : n.compare? m = (m.compare? n).map Ordering.swap := by
  unfold Number.compare?
  cases m.place? with
  | none => cases n.place? <;> rfl
  | some p =>
      cases n.place? with
      | none => rfl
      | some q => exact congrArg some (place_compare_swap p q)

/-- Values are compared by their texts, unless both are of one kind. -/
def compareTexts (a b : Value) : Except Fault Ordering := do
  return compareCollated (← a.text) (← b.text)

theorem compareTexts_of_fit (ha : a.integersFit = true) (hb : b.integersFit = true) :
    a.compareTexts b = .ok (compareCollated a.plainText b.plainText) := by
  rw [compareTexts, text, text, if_pos ha, if_pos hb]
  rfl

theorem compareTexts_swap (a b : Value) :
    b.compareTexts a = (a.compareTexts b).map Ordering.swap := by
  unfold compareTexts text
  by_cases ha : a.integersFit = true
  · by_cases hb : b.integersFit = true
    · rw [if_pos ha, if_pos hb]
      exact congrArg Except.ok (compareCollated_swap _ _)
    · rw [if_pos ha, if_neg hb]
      rfl
  · by_cases hb : b.integersFit = true
    · rw [if_neg ha, if_pos hb]
      rfl
    · rw [if_neg ha, if_neg hb]
      rfl

/-- Whatever the values are, turning a comparison round turns its outcome round. -/
theorem compare_turned (a b : Value) : b.compare a = (a.compare b).map Ordering.swap := by
  cases a with
  | number m =>
      cases b with
      | number n =>
          change Except.ok _ = Except.ok _
          rw [compare?_swap m n]
          cases m.compare? n <;> rfl
      | null | bool _ | string _ | array _ | object _ => exact compareTexts_swap _ _
  | bool p =>
      cases b with
      | bool q => cases p <;> cases q <;> rfl
      | null | number _ | string _ | array _ | object _ => exact compareTexts_swap _ _
  | string s =>
      cases b with
      | string t => exact congrArg Except.ok (compareCollated_swap s t)
      | null | number _ | bool _ | array _ | object _ => exact compareTexts_swap _ _
  | null | array _ | object _ => cases b <;> exact compareTexts_swap _ _

/-- Unless both are numbers, two values are compared by their texts, truth values among
themselves included. -/
theorem compare_of_fit (ha : a.integersFit = true) (hb : b.integersFit = true)
    (h : a.number? = none ∨ b.number? = none) :
    a.compare b = .ok (compareCollated a.plainText b.plainText) := by
  rw [← compareTexts_of_fit ha hb]
  cases a with
  | number m =>
      cases b with
      | number n => rcases h with h | h <;> cases h
      | null | bool _ | string _ | array _ | object _ => rfl
  | bool p =>
      cases b with
      | bool q => cases p <;> cases q <;> rfl
      | null | number _ | string _ | array _ | object _ => rfl
  | string s =>
      cases b with
      | string t => rfl
      | null | number _ | bool _ | array _ | object _ => rfl
  | null | array _ | object _ => cases b <;> rfl

theorem atMost_iff_of_compares {κ : Type} [LinearOrder κ] {x y : κ} {o : Ordering}
    (hcompare : a.compare b = .ok o) (ho : o.Compares x y) : AtMost a b ↔ x ≤ y := by
  rw [← not_lt, ← ho.eq_gt]
  constructor
  · rintro ⟨o', hother, hne⟩
    rwa [Except.ok.inj (hcompare.symm.trans hother)]
  · exact fun hne => ⟨o, hcompare, hne⟩

end Pairs

section Kinds

theorem exists_number (h : ValueKind.numeric.includes m = true) :
    ∃ n p, m = .number n ∧ n.place? = some p ∧ m.height = p.height ∧
      m.written = collation (placeText p) := by
  cases m with
  | number n =>
      obtain ⟨p, hp⟩ := Option.isSome_iff_exists.mp h
      refine ⟨n, p, rfl, hp, ?_, ?_⟩
      · rw [height, hp]
        rfl
      · rw [written, plainText, numberText_eq_placeText hp]
  | null | bool _ | string _ | array _ | object _ => exact absurd h Bool.false_ne_true

theorem height_injective : Function.Injective Place.height := by
  intro p q h
  have heq : p.compare q = .eq := (p.compare_compares q).eq_eq.mpr h
  cases p <;> cases q <;> simp_all [Place.compare]

/-- Numbers that compare equal have one text. -/
theorem written_eq_of_height_eq (hm : ValueKind.numeric.includes m = true)
    (hn : ValueKind.numeric.includes n = true) (h : m.height = n.height) :
    m.written = n.written := by
  obtain ⟨-, p, -, -, hp, hmwritten⟩ := exists_number hm
  obtain ⟨-, q, -, -, hq, hnwritten⟩ := exists_number hn
  rw [hp, hq] at h
  rw [hmwritten, hnwritten, height_injective h]

/-- A number below another number comes before both truth values. -/
theorem written_lt_truth (hm : ValueKind.numeric.includes m = true)
    (ht : ValueKind.truth.includes t = true) (h : m.height < n.height) :
    m.written < t.written := by
  obtain ⟨k, p, rfl, hplace, hp, -⟩ := exists_number hm
  have hhigh : p ≠ .high := by
    rintro rfl
    rw [hp] at h
    exact absurd h not_top_lt
  have hfalse : collation (numberText k) < collation "false" :=
    collation_lt_of_beginsNumeric (beginsNumeric_numberText hplace hhigh) rfl
  have htrue : collation "false" < collation "true" := compareCollated_compares "false" "true"
  cases t with
  | bool b =>
      cases b with
      | false => exact hfalse
      | true => exact hfalse.trans htrue
  | null | number _ | string _ | array _ | object _ => exact absurd ht Bool.false_ne_true

end Kinds

/-- A text stands between the texts of two numbers the wrong way round: at or behind the text of
the greater one, and at or before the text of the lesser one. -/
structure Inverts (t m n : Value) : Prop where
  text : ValueKind.text.includes t = true
  lesser : ValueKind.numeric.includes m = true
  greater : ValueKind.numeric.includes n = true
  height_lt : m.height < n.height
  written_le : n.written ≤ t.written
  le_written : t.written ≤ m.written

/-- What the order of two numbers and the order of their texts have to do with each other where
no third value stands between the texts the wrong way round. -/
theorem written_lt_of_height_lt (hm : ValueKind.numeric.includes m = true)
    (hn : ValueKind.numeric.includes n = true) {kind : ValueKind}
    (ht : kind.includes t = true) (hkind : kind ≠ .numeric) (hinverts : ¬ Inverts t m n)
    (hlt : m.height < n.height) (hle : n.written ≤ t.written) : m.written < t.written := by
  cases kind with
  | numeric => exact absurd rfl hkind
  | truth => exact written_lt_truth hm ht hlt
  | text => exact lt_of_not_ge fun hge => hinverts ⟨ht, hm, hn, hlt, hle, hge⟩

section Triples

variable {kind : ValueKind} (hm : ValueKind.numeric.includes m = true)
  (hn : ValueKind.numeric.includes n = true) (ht : kind.includes t = true)
  (hkind : kind ≠ .numeric)

include hm hn ht hkind

theorem written_le_of_le_left (hinverts : ¬ Inverts t m n) (hle : m.height ≤ n.height)
    (h : n.written ≤ t.written) : m.written ≤ t.written := by
  rcases hle.lt_or_eq with hlt | heq
  · exact (written_lt_of_height_lt hm hn ht hkind hinverts hlt h).le
  · exact (written_eq_of_height_eq hm hn heq).trans_le h

theorem written_le_of_le_right (hinverts : ¬ Inverts t m n) (hle : m.height ≤ n.height)
    (h : t.written ≤ m.written) : t.written ≤ n.written := by
  rcases hle.lt_or_eq with hlt | heq
  · refine le_of_not_gt fun hgt => ?_
    exact absurd h (written_lt_of_height_lt hm hn ht hkind hinverts hlt hgt.le).not_ge
  · exact h.trans_eq (written_eq_of_height_eq hm hn heq)

theorem height_le_of_between (hinverts : ¬ Inverts t n m) (hmt : m.written ≤ t.written)
    (htn : t.written ≤ n.written) : m.height ≤ n.height := by
  refine le_of_not_gt fun hgt => ?_
  exact absurd htn (written_lt_of_height_lt hn hm ht hkind hinverts hgt hmt).not_ge

end Triples

/-- Values that are sort keys of one column: each is of a kind, and unless they are all numbers,
each has a text to be compared by. -/
structure SortKeys (values : List Value) : Prop where
  kinds : ∀ v ∈ values, ∃ kind : ValueKind, kind.includes v = true
  texts : (∀ v ∈ values, ValueKind.numeric.includes v = true) ∨
    ∀ v ∈ values, v.integersFit = true

/-- Some text among the values stands between two of their numbers the wrong way round. -/
def Inverted (values : List Value) : Prop :=
  ∃ t ∈ values, ∃ m ∈ values, ∃ n ∈ values, Inverts t m n

/-- What is at most something that is at most a third value is at most the third value. -/
def TransitiveOn (values : List Value) : Prop :=
  ∀ a ∈ values, ∀ b ∈ values, ∀ c ∈ values, AtMost a b → AtMost b c → AtMost a c

theorem number?_eq_none {kind : ValueKind} (ht : kind.includes t = true)
    (hkind : kind ≠ .numeric) : t.number? = none := by
  cases t with
  | number n => cases kind <;> first | exact absurd rfl hkind | cases ht
  | null | bool _ | string _ | array _ | object _ => rfl

theorem not_numeric_of_text (ht : ValueKind.text.includes t = true) :
    ¬ ValueKind.numeric.includes t = true := by
  cases t with
  | string s => exact Bool.false_ne_true
  | null | bool _ | number _ | array _ | object _ => exact absurd ht Bool.false_ne_true

namespace SortKeys

variable (h : SortKeys values)

include h

/-- Two sort keys can be compared: two numbers by their places, any other two by their texts. -/
theorem compares (ha : a ∈ values) (hb : b ∈ values) :
    ∃ o, a.compare b = .ok o ∧
      if ValueKind.numeric.includes a = true ∧ ValueKind.numeric.includes b = true then
        o.Compares a.height b.height
      else o.Compares a.written b.written := by
  by_cases hboth : ValueKind.numeric.includes a = true ∧ ValueKind.numeric.includes b = true
  · simp only [if_pos hboth]
    exact comparesBy_height a b hboth.1 hboth.2
  · simp only [if_neg hboth]
    have hfit : ∀ v ∈ values, v.integersFit = true :=
      h.texts.resolve_left fun hall => hboth ⟨hall a ha, hall b hb⟩
    have hnumber : a.number? = none ∨ b.number? = none := by
      obtain ⟨ka, hka⟩ := h.kinds a ha
      obtain ⟨kb, hkb⟩ := h.kinds b hb
      by_cases hkind : ka = .numeric
      · subst hkind
        refine .inr (number?_eq_none hkb ?_)
        rintro rfl
        exact hboth ⟨hka, hkb⟩
      · exact .inl (number?_eq_none hka hkind)
    exact ⟨_, compare_of_fit (hfit a ha) (hfit b hb) hnumber, compareCollated_compares _ _⟩

theorem atMost_iff (ha : a ∈ values) (hb : b ∈ values) :
    AtMost a b ↔
      if ValueKind.numeric.includes a = true ∧ ValueKind.numeric.includes b = true then
        a.height ≤ b.height
      else a.written ≤ b.written := by
  obtain ⟨o, hcompare, ho⟩ := h.compares ha hb
  split at ho
  · rename_i hboth
    rw [if_pos hboth]
    exact atMost_iff_of_compares hcompare ho
  · rename_i hboth
    rw [if_neg hboth]
    exact atMost_iff_of_compares hcompare ho

theorem atMost_trans (hinverted : ¬ Inverted values) (ha : a ∈ values) (hb : b ∈ values)
    (hc : c ∈ values) (hab : AtMost a b) (hbc : AtMost b c) : AtMost a c := by
  rw [h.atMost_iff ha hb] at hab
  rw [h.atMost_iff hb hc] at hbc
  rw [h.atMost_iff ha hc]
  have hnone {t m n : Value} (ht : t ∈ values) (hm : m ∈ values) (hn : n ∈ values) :
      ¬ Inverts t m n := fun hinverts => hinverted ⟨t, ht, m, hm, n, hn, hinverts⟩
  obtain ⟨ka, hka⟩ := h.kinds a ha
  obtain ⟨kb, hkb⟩ := h.kinds b hb
  obtain ⟨kc, hkc⟩ := h.kinds c hc
  -- the two orders meet in one chain only where exactly two of the three are numbers
  by_cases hna : ValueKind.numeric.includes a = true
  · by_cases hnb : ValueKind.numeric.includes b = true
    · rw [if_pos ⟨hna, hnb⟩] at hab
      by_cases hnc : ValueKind.numeric.includes c = true
      · rw [if_pos ⟨hnb, hnc⟩] at hbc
        rw [if_pos ⟨hna, hnc⟩]
        exact hab.trans hbc
      · rw [if_neg fun hboth => hnc hboth.2] at hbc ⊢
        exact written_le_of_le_left hna hnb hkc (fun hk => hnc (hk ▸ hkc)) (hnone hc ha hb) hab hbc
    · rw [if_neg fun hboth => hnb hboth.2] at hab
      rw [if_neg fun hboth => hnb hboth.1] at hbc
      by_cases hnc : ValueKind.numeric.includes c = true
      · rw [if_pos ⟨hna, hnc⟩]
        exact height_le_of_between hna hnc hkb (fun hk => hnb (hk ▸ hkb)) (hnone hb hc ha) hab hbc
      · rw [if_neg fun hboth => hnc hboth.2]
        exact hab.trans hbc
  · rw [if_neg fun hboth => hna hboth.1] at hab ⊢
    by_cases hboth : ValueKind.numeric.includes b = true ∧ ValueKind.numeric.includes c = true
    · rw [if_pos hboth] at hbc
      exact written_le_of_le_right hboth.1 hboth.2 hka (fun hk => hna (hk ▸ hka))
        (hnone ha hb hc) hbc hab
    · rw [if_neg hboth] at hbc
      exact hab.trans hbc

/-- Sort keys are in a transitive order exactly if no text among them is inverted. -/
theorem transitiveOn_iff : TransitiveOn values ↔ ¬ Inverted values := by
  constructor
  · rintro htrans ⟨t, ht, m, hm, n, hn, hinverts⟩
    have hnt := not_numeric_of_text hinverts.text
    have hnm : AtMost n m := htrans n hn t ht m hm
      ((h.atMost_iff hn ht).mpr (by simpa [hnt] using hinverts.written_le))
      ((h.atMost_iff ht hm).mpr (by simpa [hnt] using hinverts.le_written))
    rw [h.atMost_iff hn hm, if_pos ⟨hinverts.greater, hinverts.lesser⟩] at hnm
    exact absurd hnm hinverts.height_lt.not_ge
  · intro hinverted a ha b hb c hc hab hbc
    exact h.atMost_trans hinverted ha hb hc hab hbc

end SortKeys

section Rank

/-- A value compares as less than another. -/
def isBefore (a b : Value) : Bool :=
  match a.compare b with
  | .ok .lt => true
  | _ => false

theorem isBefore_of_compare {o : Ordering} (h : a.compare b = .ok o) :
    isBefore a b = (o == .lt) := by
  rw [isBefore, h]
  cases o <;> rfl

/-- How many of the values come before a value. -/
def rank (values : List Value) (v : Value) : ℕ := values.countP (isBefore · v)

variable (hreturns : ∀ a ∈ values, ∀ b ∈ values, ∃ o, a.compare b = .ok o)
  (htrans : TransitiveOn values)

include hreturns

theorem isBefore_iff_not_atMost (ha : a ∈ values) (hb : b ∈ values) :
    isBefore a b = true ↔ ¬ AtMost b a := by
  obtain ⟨o, ho⟩ := hreturns a ha b hb
  have hturned : b.compare a = .ok o.swap := by
    rw [compare_turned, ho]
    rfl
  rw [isBefore_of_compare ho, AtMost, hturned]
  cases o <;> simp [Ordering.swap]

include htrans

theorem isBefore_of_atMost (hc : c ∈ values) (ha : a ∈ values) (hb : b ∈ values)
    (hab : AtMost a b) (h : isBefore c a = true) : isBefore c b = true := by
  rw [isBefore_iff_not_atMost hreturns hc ha] at h
  rw [isBefore_iff_not_atMost hreturns hc hb]
  exact fun hbc => h (htrans a ha b hb c hc hab hbc)

theorem rank_le (ha : a ∈ values) (hb : b ∈ values) (hab : AtMost a b) :
    rank values a ≤ rank values b :=
  List.countP_mono_left fun _ hc => isBefore_of_atMost hreturns htrans hc ha hb hab

theorem rank_lt (ha : a ∈ values) (hb : b ∈ values) (hab : a.compare b = .ok .lt) :
    rank values a < rank values b := by
  have hself : isBefore a a = false := by
    obtain ⟨o, ho⟩ := hreturns a ha a ha
    have hturned := compare_turned a a
    rw [ho] at hturned
    rw [isBefore_of_compare ho]
    cases o with
    | lt => cases hturned
    | eq | gt => rfl
  have hbefore : isBefore a b = true := isBefore_of_compare hab
  have hle {part : List Value} (hpart : ∀ c ∈ part, c ∈ values) : rank part a ≤ rank part b :=
    List.countP_mono_left fun c hc =>
      isBefore_of_atMost hreturns htrans (hpart c hc) ha hb ⟨.lt, hab, by decide⟩
  obtain ⟨front, back, hvalues⟩ := List.append_of_mem ha
  have hfront : rank front a ≤ rank front b := hle fun c hc => by simp [hvalues, hc]
  have hback : rank back a ≤ rank back b := hle fun c hc => by simp [hvalues, hc]
  have hsplit (v : Value) : rank values v =
      rank front v + (rank back v + if isBefore a v = true then 1 else 0) := by
    rw [rank, hvalues, List.countP_append, List.countP_cons]
    rfl
  rw [hsplit a, hsplit b, if_neg (by simp [hself]), if_pos hbefore]
  omega

/-- Where all comparisons return and are transitive, they are decided by how many values come
before each of the two. -/
theorem comparesBy_rank : ComparesBy (rank values) (· ∈ values) := by
  intro a b ha hb
  obtain ⟨o, hcompare⟩ := hreturns a ha b hb
  have hturned : b.compare a = .ok o.swap := by
    rw [compare_turned, hcompare]
    rfl
  refine ⟨o, hcompare, ?_⟩
  cases o with
  | lt => exact rank_lt hreturns htrans ha hb hcompare
  | gt => exact rank_lt hreturns htrans hb ha hturned
  | eq =>
      exact (rank_le hreturns htrans ha hb ⟨.eq, hcompare, by decide⟩).antisymm
        (rank_le hreturns htrans hb ha ⟨.eq, hturned, by decide⟩)

end Rank

end JsonQuery.Value
