import JsonQuery.Proofs.Dataset.Flat
import JsonQuery.Proofs.Value.NumberText
import JsonQuery.Table.Basic
import Mathlib.Data.List.TakeWhile

/-!
Which texts can be written in UTF-8: those without halves of characters. The text of a number or
a truth value has only characters of ASCII, so the text of a scalar can be written unless the
scalar is itself a text that cannot.
-/

namespace JsonQuery

open Outcome

section Charset

/-- A text can be written exactly if each of its characters can. -/
theorem Text.Charset.unwritable?_eq_none_iff (charset : Charset) (s : String) :
    charset.unwritable? s = none ↔ ∀ c ∈ s.toList, charset.holds c = true := by
  have hdrop : s.toList.drop (s.toList.takeWhile charset.holds).length =
      s.toList.dropWhile charset.holds := by
    conv_lhs => arg 2; rw [← List.takeWhile_append_dropWhile (p := charset.holds) (l := s.toList)]
    exact List.drop_left
  rw [← List.dropWhile_eq_nil_iff, ← hdrop, unwritable?]
  split
  · rename_i hnone
    exact iff_of_true rfl hnone
  · rename_i hsome
    refine iff_of_false nofun ?_
    rw [hsome]
    exact List.cons_ne_nil _ _

/-- Whether a text has no half of a character. -/
def Text.IsWhole (s : String) : Prop := ∀ c ∈ s.toList, isHalf c = false

theorem Text.unwritable?_utf8_eq_none_iff (s : String) :
    Charset.utf8.unwritable? s = none ↔ IsWhole s := by
  rw [Charset.unwritable?_eq_none_iff]
  simp [Charset.holds, IsWhole]

theorem Text.isHalf_eq_false_of_ascii {c : Char} (h : c.toNat < 128) : isHalf c = false := by
  have hoffset : ¬ halfOffset ≤ c.toNat := by
    rw [halfOffset]
    omega
  simp [isHalf, hoffset]

theorem requireWritable_eq_ok_iff {texts : List String} :
    requireWritable texts = .ok () ↔ ∀ s ∈ texts, Text.IsWhole s := by
  simp only [← Text.unwritable?_utf8_eq_none_iff, ← List.findSome?_eq_none_iff, requireWritable]
  split
  · rename_i hnone
    exact iff_of_true rfl hnone
  · rename_i hsome
    rw [hsome]
    exact iff_of_false nofun nofun

end Charset

section Numbers

theorem ascii_of_isDigit {c : Char} (h : c.isDigit = true) : c.toNat < 128 := by
  have hhigh := (Char.isDigit_iff_toNat.mp h).2
  change c.toNat ≤ 57 at hhigh
  omega

theorem ascii_toDigits (k : Nat) : ∀ c ∈ Nat.toDigits 10 k, c.toNat < 128 := fun _ hc =>
  ascii_of_isDigit (Nat.isDigit_of_mem_toDigits (by decide) (by decide) hc)

theorem ascii_toString (n : Int) : ∀ c ∈ (toString n).toList, c.toNat < 128 := by
  have hdigits (k : Nat) : ∀ c ∈ (Nat.repr k).toList, c.toNat < 128 := by
    rw [Nat.toList_repr]
    exact ascii_toDigits k
  cases n with
  | ofNat k => exact hdigits k
  | negSucc k =>
      change ∀ c ∈ ("-" ++ Nat.repr (k + 1)).toList, c.toNat < 128
      rw [String.toList_append, List.forall_mem_append]
      exact ⟨by decide, hdigits (k + 1)⟩

theorem Decimal.Numeric.write_ascii (layout : DecimalLayout) {d : Decimal} (h : d.Numeric) :
    ∀ c ∈ layout.write d, c.toNat < 128 :=
  h.forall_mem_write layout (fun _ => ascii_of_isDigit) (by decide)

/-- The text of a number has only characters of ASCII. -/
theorem ascii_numberText (n : Number) : ∀ c ∈ (Value.numberText n).toList, c.toNat < 128 := by
  cases n with
  | int n => exact ascii_toString n
  | float x =>
      rw [Value.numberText]
      split
      · exact ascii_toString _
      · cases x with
        | nan | spelledNan => decide
        | infinite negative => cases negative <;> decide
        | finite negative units =>
            obtain ⟨d, hd, htext⟩ := exists_toList_dataText negative units
            rw [htext, List.forall_mem_append]
            exact ⟨by cases negative <;> decide, hd.write_ascii _⟩

end Numbers

/-- The text of a scalar has no half of a character unless the scalar is a text that has one. -/
theorem Value.plainText_isWhole_iff {v : Value} (h : v.isScalar = true) :
    Text.IsWhole v.plainText ↔ ∀ s, v = .string s → Text.IsWhole s := by
  have hascii {t : String} (ht : ∀ c ∈ t.toList, c.toNat < 128) : Text.IsWhole t :=
    fun c hc => Text.isHalf_eq_false_of_ascii (ht c hc)
  cases v with
  | null => exact iff_of_true (hascii (by decide)) nofun
  | bool b => exact iff_of_true (hascii (by cases b <;> decide)) nofun
  | number n => exact iff_of_true (hascii (ascii_numberText n)) nofun
  | string s =>
      refine ⟨fun hs t ht => ?_, fun hs => hs s rfl⟩
      cases ht
      exact hs
  | array _ | object _ => cases h

end JsonQuery
