import JsonQuery.Proofs.Outcome
import JsonQuery.Value.Order
import Mathlib.Data.List.Lex
import Mathlib.Data.Prod.Lex
import Mathlib.Order.Compare
import Mathlib.Order.WithBot
import Mathlib.Tactic

/-!
Values of one kind are compared by a key in a linear order. The key of a number is its
place on the line with two ends, the key of a truth value is the truth value, and the key
of a text is the pair of the code points of its folded form and of the text itself.
Comparison is therefore a total preorder on the numbers that have a place, on the truth
values and on the texts. It is none across the kinds, where the texts of the values decide:
the number 9 comes before the number 10, which compares equal to the text `10`, and that
comes before the number 9.
-/

namespace JsonQuery

variable {κ : Type} [LinearOrder κ]

/-- The place of a number in the linear order of integers with two ends. -/
def Place.height : Place → WithBot (WithTop ℤ)
  | .low => ⊥
  | .at units => ((units : WithTop ℤ) : WithBot (WithTop ℤ))
  | .high => ((⊤ : WithTop ℤ) : WithBot (WithTop ℤ))

/-- Places are compared by their heights. -/
theorem Place.compare_compares (p q : Place) : (p.compare q).Compares p.height q.height := by
  cases p with
  | low =>
      cases q with
      | low => exact rfl
      | «at» units => exact WithBot.bot_lt_coe _
      | high => exact WithBot.bot_lt_coe _
  | «at» units =>
      cases q with
      | low => exact WithBot.bot_lt_coe _
      | «at» others =>
          have hcompares : (Ord.compare units others).Compares units others :=
            (compare_iff _ _).mp rfl
          change (Ord.compare units others).Compares (Place.at units).height
            (Place.at others).height
          generalize Ord.compare units others = o at hcompares ⊢
          cases o with
          | lt => exact WithBot.coe_lt_coe.mpr (WithTop.coe_lt_coe.mpr hcompares)
          | eq => exact congrArg (fun u => Place.height (.at u)) hcompares
          | gt => exact WithBot.coe_lt_coe.mpr (WithTop.coe_lt_coe.mpr hcompares)
      | high => exact WithBot.coe_lt_coe.mpr (WithTop.coe_lt_top units)
  | high =>
      cases q with
      | low => exact WithBot.bot_lt_coe _
      | «at» units => exact WithBot.coe_lt_coe.mpr (WithTop.coe_lt_top units)
      | high => exact rfl

theorem beq_lt_of_compares {o : Ordering} {a b : κ} (h : o.Compares a b) :
    (o == .lt) = decide (a < b) := by
  rw [Bool.eq_iff_iff, beq_iff_eq, decide_eq_true_iff]
  exact h.eq_lt

/-- Comparing by one key and then by another is comparing by both in turn. -/
theorem compares_then {κ' : Type} [LinearOrder κ'] {o o' : Ordering} {a b : κ} {a' b' : κ'}
    (h : o.Compares a b) (h' : o'.Compares a' b') :
    (o.then o').Compares (toLex (a, a')) (toLex (b, b')) := by
  cases o with
  | lt => exact Prod.Lex.toLex_lt_toLex.mpr (.inl h)
  | gt => exact Prod.Lex.toLex_lt_toLex.mpr (.inl h)
  | eq =>
      have hsame : a = b := h
      cases o' with
      | lt => exact Prod.Lex.toLex_lt_toLex.mpr (.inr ⟨hsame, h'⟩)
      | gt => exact Prod.Lex.toLex_lt_toLex.mpr (.inr ⟨hsame.symm, h'⟩)
      | eq => exact congrArg toLex (Prod.ext hsame h')

/-- Texts are compared by the lists of their code points. -/
theorem compareChars_compares (as bs : List Char) :
    (Text.compareChars as bs).Compares (as.map Text.codeOf) (bs.map Text.codeOf) := by
  induction as generalizing bs with
  | nil =>
      cases bs with
      | nil => exact rfl
      | cons b bs => exact List.Lex.nil
  | cons a as ih =>
      cases bs with
      | nil => exact List.Lex.nil
      | cons b bs =>
          have hfirst : (Ord.compare (Text.codeOf a) (Text.codeOf b)).Compares
              (Text.codeOf a) (Text.codeOf b) := (compare_iff _ _).mp rfl
          have hrest := ih bs
          rw [Text.compareChars]
          generalize Ord.compare (Text.codeOf a) (Text.codeOf b) = o at hfirst
          generalize Text.compareChars as bs = o' at hrest
          cases o with
          | lt => exact List.cons_lt_cons_iff.mpr (.inl hfirst)
          | gt => exact List.cons_lt_cons_iff.mpr (.inl hfirst)
          | eq =>
              have hsame : Text.codeOf a = Text.codeOf b := hfirst
              cases o' with
              | lt => exact List.cons_lt_cons_iff.mpr (.inr ⟨hsame, hrest⟩)
              | gt => exact List.cons_lt_cons_iff.mpr (.inr ⟨hsame.symm, hrest⟩)
              | eq => exact List.cons_eq_cons.mpr ⟨hsame, hrest⟩

/-- The code points of a text without regard to case, and those of the text itself. -/
def collation (s : String) : List ℕ ×ₗ List ℕ :=
  toLex ((Text.fold s).toList.map Text.codeOf, s.toList.map Text.codeOf)

/-- Texts are compared by their collations. -/
theorem compareCollated_compares (s t : String) :
    (compareCollated s t).Compares (collation s) (collation t) :=
  compares_then (compareChars_compares _ _) (compareChars_compares _ _)

/-- The kinds of values that are ordered among themselves. -/
inductive ValueKind where
  | numeric
  | truth
  | text
  deriving DecidableEq, Repr

/-- Whether a value is of a kind. A number that is none is of no kind. -/
def ValueKind.includes : ValueKind → Value → Bool
  | .numeric, .number n => n.place?.isSome
  | .truth, .bool _ => true
  | .text, .string _ => true
  | _, _ => false

namespace Value

/-- Values that satisfy `S` can all be compared, and the outcome is the order of their
keys. -/
def ComparesBy (key : Value → κ) (S : Value → Prop) : Prop :=
  ∀ a b, S a → S b → ∃ o, a.compare b = .ok o ∧ o.Compares (key a) (key b)

/-- The height of a number that has a place. -/
def height : Value → WithBot (WithTop ℤ)
  | .number n => (n.place?.map Place.height).getD ⊥
  | _ => ⊥

/-- The truth value that a value is. -/
def truth : Value → Bool
  | .bool b => b
  | _ => false

/-- The collation of the text that a value is. -/
def spelling : Value → List ℕ ×ₗ List ℕ
  | .string s => collation s
  | _ => toLex ([], [])

theorem comparesBy_height : ComparesBy height (ValueKind.numeric.includes ·) := by
  intro a b ha hb
  cases a with
  | number m =>
      cases b with
      | number n =>
          obtain ⟨p, hp⟩ := Option.isSome_iff_exists.mp ha
          obtain ⟨q, hq⟩ := Option.isSome_iff_exists.mp hb
          refine ⟨p.compare q, ?_, ?_⟩
          · rw [compare, Number.compare?, hp, hq]
            rfl
          · rw [height, height, hp, hq]
            exact p.compare_compares q
      | null | bool _ | string _ | array _ | object _ => exact absurd hb Bool.false_ne_true
  | null | bool _ | string _ | array _ | object _ => exact absurd ha Bool.false_ne_true

theorem comparesBy_truth : ComparesBy truth (ValueKind.truth.includes ·) := by
  intro a b ha hb
  cases a with
  | bool p =>
      cases b with
      | bool q => exact ⟨Ord.compare p q, rfl, (compare_iff p q).mp rfl⟩
      | null | number _ | string _ | array _ | object _ => exact absurd hb Bool.false_ne_true
  | null | number _ | string _ | array _ | object _ => exact absurd ha Bool.false_ne_true

theorem comparesBy_spelling : ComparesBy spelling (ValueKind.text.includes ·) := by
  intro a b ha hb
  cases a with
  | string s =>
      cases b with
      | string t => exact ⟨compareCollated s t, rfl, compareCollated_compares s t⟩
      | null | bool _ | number _ | array _ | object _ => exact absurd hb Bool.false_ne_true
  | null | bool _ | number _ | array _ | object _ => exact absurd ha Bool.false_ne_true

/-- Comparison is a total preorder on the values of a kind: it is the order of a key. -/
theorem exists_comparesBy (kind : ValueKind) :
    ∃ (κ : Type) (_ : LinearOrder κ) (key : Value → κ), ComparesBy key (kind.includes ·) := by
  cases kind with
  | numeric => exact ⟨_, inferInstance, height, comparesBy_height⟩
  | truth => exact ⟨_, inferInstance, truth, comparesBy_truth⟩
  | text => exact ⟨_, inferInstance, spelling, comparesBy_spelling⟩

end Value

end JsonQuery
