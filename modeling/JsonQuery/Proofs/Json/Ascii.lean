import JsonQuery.Proofs.Json.Lexeme
import Mathlib.Tactic

/-!
Strings in ASCII. Every character is read from its escape, whatever it is, one beyond the first
65536 from the two halves it is written as. So two halves that stand side by side in a string come
back as the one character that they make up, and nothing else is changed.
-/

namespace JsonQuery.Json

open Text

section Units

variable {n : ℕ}

theorem hexDigitValue?_digitChar {d : ℕ} (h : d < 16) : hexDigitValue? d.digitChar = some d := by
  have hall : ∀ d < 16, hexDigitValue? d.digitChar = some d := by decide
  exact hall d h

/-- A code unit has four hexadecimal digits. -/
theorem hexadecimal_four (h : n < 0x10000) :
    hexadecimal 4 n = [(n / 4096).digitChar, (n / 256 % 16).digitChar, (n / 16 % 16).digitChar,
      (n % 16).digitChar] := by
  have hmore {m : ℕ} (hm : 16 ≤ m) :
      Nat.toDigits 16 m = Nat.toDigits 16 (m / 16) ++ [(m % 16).digitChar] :=
    Nat.toDigits_of_base_le (by decide) hm
  have hone {m : ℕ} (hm : m < 16) : Nat.toDigits 16 m = [m.digitChar] := Nat.toDigits_of_lt_base hm
  have hzero {m : ℕ} (hm : m = 0) : m.digitChar = '0' := by
    rw [hm]
    rfl
  have htwice : n / 16 / 16 = n / 256 := Nat.div_div_eq_div_mul n 16 16
  have hthrice : n / 256 / 16 = n / 4096 := Nat.div_div_eq_div_mul n 256 16
  unfold hexadecimal padLeft
  by_cases hfirst : n < 16
  · have hlast : n % 16 = n := Nat.mod_eq_of_lt hfirst
    rw [hone hfirst, hzero (by omega : n / 4096 = 0), hzero (by omega : n / 256 % 16 = 0),
      hzero (by omega : n / 16 % 16 = 0), hlast]
    rfl
  · rw [hmore (Nat.not_lt.mp hfirst)]
    by_cases hsecond : n / 16 < 16
    · have hlast : n / 16 % 16 = n / 16 := Nat.mod_eq_of_lt hsecond
      rw [hone hsecond, hzero (by omega : n / 4096 = 0), hzero (by omega : n / 256 % 16 = 0), hlast]
      rfl
    · rw [hmore (Nat.not_lt.mp hsecond), htwice]
      by_cases hthird : n / 256 < 16
      · have hlast : n / 256 % 16 = n / 256 := Nat.mod_eq_of_lt hthird
        rw [hone hthird, hzero (by omega : n / 4096 = 0), hlast]
        rfl
      · rw [hmore (Nat.not_lt.mp hthird), hthrice, hone (by omega : n / 4096 < 16)]
        rfl

theorem hexQuad?_digitChar (h : n < 0x10000) :
    hexQuad? (n / 4096).digitChar (n / 256 % 16).digitChar (n / 16 % 16).digitChar
      (n % 16).digitChar = some n := by
  simp only [hexQuad?, hexDigitValue?_digitChar (show n / 4096 < 16 by omega),
    hexDigitValue?_digitChar (Nat.mod_lt _ (by decide : 0 < 16))]
  exact congrArg some (by omega)

theorem toNat_lt (c : Char) : c.toNat < 0x110000 := by
  have hvalid : c.toNat < 0xD800 ∨ 0xDFFF < c.toNat ∧ c.toNat < 0x110000 := c.valid
  omega

/-- A character is found by its code point again. -/
theorem charOf_codeOf (c : Char) : charOf (codeOf c) = c := by
  by_cases hhalf : isHalf c = true
  · have hcode := hhalf
    rw [isHalf, Bool.and_eq_true, decide_eq_true_eq] at hcode
    rw [codeOf, if_pos hhalf, charOf, if_pos hcode.2, Nat.add_sub_cancel' hcode.1,
      Char.ofNat_toNat]
  · have hvalid : c.toNat < 0xD800 ∨ 0xDFFF < c.toNat ∧ c.toNat < 0x110000 := c.valid
    have hcode : isHalfCode c.toNat = false := by
      simp only [isHalfCode, Bool.and_eq_false_iff, decide_eq_false_iff_not]
      omega
    rw [codeOf, if_neg hhalf, charOf, hcode, if_neg Bool.false_ne_true, Char.ofNat_toNat]

end Units

section Halves

variable {opening done tail : List Char} {fuel n : ℕ} {next : Char}

/-- A code unit is read from its escape, unless it is a first half, which is joined to what
follows. -/
theorem stringBody_unit (hn : n < 0x10000) (hhigh : isHighSurrogate n = false) :
    stringBody opening (fuel + 1) done (unitEscape n ++ next :: tail) =
      stringBody opening fuel (charOf n :: done) (next :: tail) := by
  rw [unitEscape, hexadecimal_four hn]
  simp only [List.cons_append, List.nil_append, stringBody, hexQuad?_digitChar hn, hhigh]
  rfl

theorem isHighSurrogate_lt (h : isHighSurrogate n = true) : n < 0x10000 := by
  simp only [isHighSurrogate, Bool.and_eq_true, decide_eq_true_eq] at h
  omega

theorem isLowSurrogate_lt (h : isLowSurrogate n = true) : n < 0x10000 := by
  simp only [isLowSurrogate, Bool.and_eq_true, decide_eq_true_eq] at h
  omega

/-- The code point that two halves make up. -/
def pairCode (high low : ℕ) : ℕ := 0x10000 + (high - 0xD800) * 0x400 + (low - 0xDC00)

/-- Two halves are read as the character that they make up. -/
theorem stringBody_pair {high low : ℕ} (hhigh : isHighSurrogate high = true)
    (hlow : isLowSurrogate low = true) :
    stringBody opening (fuel + 1) done (unitEscape high ++ (unitEscape low ++ next :: tail)) =
      stringBody opening fuel (Char.ofNat (pairCode high low) :: done) (next :: tail) := by
  have hfirst := isHighSurrogate_lt hhigh
  have hsecond := isLowSurrogate_lt hlow
  rw [unitEscape, unitEscape, hexadecimal_four hfirst, hexadecimal_four hsecond]
  simp only [List.cons_append, List.nil_append, stringBody, hexQuad?_digitChar hfirst,
    hexQuad?_digitChar hsecond, hhigh, hlow]
  rfl

/-- A first half without a second one is read by itself. -/
theorem stringBody_lone (hn : n < 0x10000)
    (hother : ∀ behind, next :: tail = '\\' :: 'u' :: behind →
      ∃ m rest, m < 0x10000 ∧ isLowSurrogate m = false ∧ behind = hexadecimal 4 m ++ rest) :
    stringBody opening (fuel + 1) done (unitEscape n ++ next :: tail) =
      stringBody opening fuel (charOf n :: done) (next :: tail) := by
  by_cases hhigh : isHighSurrogate n = true
  · rw [unitEscape, hexadecimal_four hn]
    simp only [List.cons_append, List.nil_append, stringBody, hexQuad?_digitChar hn, hhigh,
      if_true]
    split
    · rename_i e f g h after heq
      obtain ⟨m, rest, hm, hlow, hbehind⟩ := hother _ heq
      rw [hexadecimal_four hm] at hbehind
      simp only [List.cons_append, List.nil_append, List.cons.injEq] at hbehind
      obtain ⟨rfl, rfl, rfl, rfl, rfl⟩ := hbehind
      rw [hexQuad?_digitChar hm]
      dsimp only
      rw [hlow, if_neg Bool.false_ne_true, ite_self]
    · rfl
  · exact stringBody_unit hn (Bool.not_eq_true _ ▸ hhigh)

/-- The first unit of an escape is a second half only if the character is. -/
theorem escape_eq_unit {d : Char} (hlow : isLowSurrogate (codeOf d) = false)
    {more behind : List Char} (h : escape true d ++ more = '\\' :: 'u' :: behind) :
    ∃ m rest, m < 0x10000 ∧ isLowSurrogate m = false ∧ behind = hexadecimal 4 m ++ rest := by
  have hunit {m : ℕ} {rest : List Char} (hm : m < 0x10000) (hm' : isLowSurrogate m = false)
      (h : unitEscape m ++ rest = '\\' :: 'u' :: behind) :
      ∃ m rest, m < 0x10000 ∧ isLowSurrogate m = false ∧ behind = hexadecimal 4 m ++ rest :=
    ⟨m, rest, hm, hm', ((List.cons.inj (List.cons.inj h).2).2).symm⟩
  have hsmall {m : ℕ} (hm : m < 0xDC00) : isLowSurrogate m = false := by
    simp only [isLowSurrogate, Bool.and_eq_false_iff, decide_eq_false_iff_not]
    omega
  unfold escape at h
  split_ifs at h with hquoted hnewline hreturn htab hback hfeed hcontrol hplain hbasic
  · simp only [Bool.or_eq_true, beq_iff_eq] at hquoted
    rcases hquoted with rfl | rfl <;> cases h
  · cases h
  · cases h
  · cases h
  · cases h
  · cases h
  · exact hunit (by omega) (hsmall (by omega)) h
  · simp only [Bool.or_eq_true, beq_iff_eq, not_or] at hquoted
    exact absurd (List.cons.inj h).1 hquoted.2
  · exact hunit hbasic hlow h
  · have hlimit := toNat_lt d
    rw [List.append_assoc] at h
    exact hunit (by omega) (hsmall (by omega)) h

/-- The characters of a string with its halves that stand side by side joined. -/
def joinHalves : List Char → List Char
  | c :: d :: cs =>
      if isHighSurrogate (codeOf c) && isLowSurrogate (codeOf d) then
        Char.ofNat (pairCode (codeOf c) (codeOf d)) :: joinHalves cs
      else c :: joinHalves (d :: cs)
  | cs => cs

theorem codeOf_le (c : Char) : codeOf c ≤ c.toNat := by
  unfold codeOf
  split <;> omega

/-- What is no visible character of ASCII is written by its code units. -/
theorem escape_ascii_eq {c : Char} (h : ¬ c.toNat < 0x7F) :
    escape true c = if codeOf c < 0x10000 then unitEscape (codeOf c) else
      unitEscape (0xD800 + (c.toNat - 0x10000) / 0x400) ++
        unitEscape (0xDC00 + (c.toNat - 0x10000) % 0x400) := by
  have hne {d : Char} (hd : d.toNat < 0x7F) : (c == d) = false := by
    rw [beq_eq_false_iff_ne]
    rintro rfl
    exact h hd
  have hcontrol : ¬ c.toNat < 0x20 := by omega
  rw [escape, hne (by decide), hne (by decide), hne (by decide), hne (by decide),
    hne (by decide), hne (by decide), hne (by decide), if_neg hcontrol, decide_eq_false h]
  rfl

/-- A character is read from its escape, unless it is joined to what follows. -/
theorem stringBody_escape_ascii (c : Char)
    (hother : isHighSurrogate (codeOf c) = true →
      ∀ behind, next :: tail = '\\' :: 'u' :: behind →
        ∃ m rest, m < 0x10000 ∧ isLowSurrogate m = false ∧ behind = hexadecimal 4 m ++ rest) :
    stringBody opening (fuel + 1) done (escape true c ++ next :: tail) =
      stringBody opening fuel (c :: done) (next :: tail) := by
  by_cases hplain : c.toNat < 0x7F
  · have hsame : escape true c = escape false c := by
      simp only [escape, hplain, decide_true, Bool.or_true, Bool.not_true, Bool.not_false]
    rw [hsame, stringBody_escape]
  · rw [escape_ascii_eq hplain]
    split
    · rename_i hbasic
      have hread : stringBody opening (fuel + 1) done (unitEscape (codeOf c) ++ next :: tail) =
          stringBody opening fuel (charOf (codeOf c) :: done) (next :: tail) := by
        by_cases hhigh : isHighSurrogate (codeOf c) = true
        · exact stringBody_lone hbasic (hother hhigh)
        · exact stringBody_unit hbasic (Bool.not_eq_true _ ▸ hhigh)
      rwa [charOf_codeOf] at hread
    · rename_i hbeyond
      have hlimit := toNat_lt c
      have hcode := codeOf_le c
      have hpair : pairCode (0xD800 + (c.toNat - 0x10000) / 0x400)
          (0xDC00 + (c.toNat - 0x10000) % 0x400) = c.toNat := by
        unfold pairCode
        omega
      rw [List.append_assoc, stringBody_pair, hpair, Char.ofNat_toNat]
      · simp only [isHighSurrogate, Bool.and_eq_true, decide_eq_true_eq]
        omega
      · simp only [isLowSurrogate, Bool.and_eq_true, decide_eq_true_eq]
        omega

/-- A half is written by its code unit. -/
theorem escape_of_half {c : Char} (hcode : 0xD800 ≤ codeOf c) (hlimit : codeOf c < 0x10000) :
    escape true c = unitEscape (codeOf c) := by
  have hle := codeOf_le c
  rw [escape_ascii_eq (by omega), if_pos hlimit]

theorem length_escape_ascii_pos (c : Char) : 0 < (escape true c).length := by
  unfold escape
  split_ifs
  all_goals exact Nat.succ_pos _

/-- The characters of a string in ASCII are read up to its closing quote. -/
theorem stringBody_quote_ascii (cs : List Char)
    (hfuel : (cs.flatMap (escape true)).length < fuel) (rest : List Char) :
    stringBody opening fuel done (cs.flatMap (escape true) ++ '"' :: rest) =
      .ok (String.ofList (done.reverse ++ joinHalves cs), rest) := by
  have hbehind (cs : List Char) :
      ∃ next tail, cs.flatMap (escape true) ++ '"' :: rest = next :: tail :=
    List.exists_cons_of_ne_nil
      (List.append_ne_nil_of_right_ne_nil _ (List.cons_ne_nil '"' rest))
  fun_induction joinHalves cs generalizing fuel done with
  | case1 c d cs hpair ih =>
      rw [Bool.and_eq_true] at hpair
      obtain ⟨hhigh, hlow⟩ := hpair
      have hfirst : escape true c = unitEscape (codeOf c) := by
        refine escape_of_half ?_ (isHighSurrogate_lt hhigh)
        simp only [isHighSurrogate, Bool.and_eq_true, decide_eq_true_eq] at hhigh
        exact hhigh.1
      have hsecond : escape true d = unitEscape (codeOf d) := by
        refine escape_of_half ?_ (isLowSurrogate_lt hlow)
        simp only [isLowSurrogate, Bool.and_eq_true, decide_eq_true_eq] at hlow
        omega
      obtain ⟨fuel, rfl⟩ := Nat.exists_eq_succ_of_ne_zero (Nat.ne_zero_of_lt hfuel)
      obtain ⟨next, tail, hnext⟩ := hbehind cs
      have hshorter : (cs.flatMap (escape true)).length < fuel := by
        have hpos := length_escape_ascii_pos c
        rw [List.flatMap_cons, List.flatMap_cons, List.length_append, List.length_append] at hfuel
        omega
      rw [List.flatMap_cons, List.flatMap_cons, List.append_assoc, List.append_assoc, hnext, hfirst,
        hsecond, stringBody_pair hhigh hlow, ← hnext, ih hshorter, List.reverse_cons,
        List.append_assoc, List.singleton_append]
  | case2 c d cs hlone ih =>
      obtain ⟨fuel, rfl⟩ := Nat.exists_eq_succ_of_ne_zero (Nat.ne_zero_of_lt hfuel)
      obtain ⟨next, tail, hnext⟩ := hbehind (d :: cs)
      have hshorter : ((d :: cs).flatMap (escape true)).length < fuel := by
        have hpos := length_escape_ascii_pos c
        rw [List.flatMap_cons, List.length_append] at hfuel
        omega
      rw [List.flatMap_cons, List.append_assoc, hnext, stringBody_escape_ascii, ← hnext,
        ih hshorter, List.reverse_cons, List.append_assoc, List.singleton_append]
      intro hhigh behind hunit
      rw [hhigh, Bool.true_and, Bool.not_eq_true] at hlone
      rw [← hnext, List.flatMap_cons, List.append_assoc] at hunit
      exact escape_eq_unit hlone hunit
  | case3 cs hshort =>
      obtain ⟨fuel, rfl⟩ := Nat.exists_eq_succ_of_ne_zero (Nat.ne_zero_of_lt hfuel)
      match cs with
      | [] =>
          rw [List.append_nil]
          rfl
      | [c] =>
          have hpos := length_escape_ascii_pos c
          rw [List.flatMap_singleton] at hfuel ⊢
          obtain ⟨fuel, rfl⟩ : ∃ more, fuel = more + 1 :=
            Nat.exists_eq_succ_of_ne_zero (by omega)
          rw [stringBody_escape_ascii c (fun _ _ h => by cases h), stringBody, List.reverse_cons]
      | c :: d :: cs => exact absurd rfl (hshort c d cs)

/-- A string in ASCII is read with its halves joined. -/
theorem string_quote_ascii (s : String) (rest : List Char) :
    string (quote true s ++ rest) = .ok (String.ofList (joinHalves s.toList), rest) := by
  rw [string, quote, List.append_assoc, List.cons_append, List.singleton_append, List.drop_one,
    List.tail_cons, stringBody_quote_ascii, List.reverse_nil, List.nil_append]
  rw [List.length_cons, List.length_append]
  omega

end Halves

section Visible

/-- The visible characters of ASCII and the space. -/
def IsVisible (c : Char) : Prop := 0x20 ≤ c.toNat ∧ c.toNat < 0x7F

instance : DecidablePred IsVisible := fun _ => inferInstanceAs (Decidable (_ ∧ _))

theorem isVisible_of_isDigit {c : Char} (h : c.isDigit = true) : IsVisible c := by
  obtain ⟨hlow, hhigh⟩ := Char.isDigit_iff_toNat.mp h
  change 48 ≤ c.toNat at hlow
  change c.toNat ≤ 57 at hhigh
  exact ⟨by omega, by omega⟩

theorem unitEscape_visible {n : ℕ} (h : n < 0x10000) : ∀ c ∈ unitEscape n, IsVisible c := by
  have hdigit : ∀ d < 16, IsVisible d.digitChar := by decide
  rw [unitEscape, hexadecimal_four h]
  simp only [List.forall_mem_cons]
  exact ⟨by decide, by decide, hdigit _ (by omega), hdigit _ (by omega), hdigit _ (by omega),
    hdigit _ (by omega), List.forall_mem_nil _⟩

theorem escape_visible (c : Char) : ∀ d ∈ escape true c, IsVisible d := by
  by_cases hplain : c.toNat < 0x7F
  · unfold escape
    split_ifs with hquoted hnewline hreturn htab hback hfeed hcontrol hraw hbasic
    · simp only [Bool.or_eq_true, beq_iff_eq] at hquoted
      rcases hquoted with rfl | rfl <;> decide
    · decide
    · decide
    · decide
    · decide
    · decide
    · exact unitEscape_visible (by omega)
    · exact List.forall_mem_singleton.mpr ⟨Nat.not_lt.mp hcontrol, hplain⟩
    · simp [hplain] at hraw
    · simp [hplain] at hraw
  · have hlimit := toNat_lt c
    rw [escape_ascii_eq hplain]
    split
    · rename_i hbasic
      exact unitEscape_visible hbasic
    · rw [List.forall_mem_append]
      exact ⟨unitEscape_visible (by omega), unitEscape_visible (by omega)⟩

theorem quote_visible (s : String) : ∀ c ∈ quote true s, IsVisible c := by
  have hbody : ∀ c ∈ s.toList.flatMap (escape true), IsVisible c := by
    intro c hc
    obtain ⟨d, -, hd⟩ := List.mem_flatMap.mp hc
    exact escape_visible d c hd
  rw [quote, List.forall_mem_append, List.forall_mem_cons]
  exact ⟨⟨by decide, hbody⟩, by decide⟩

theorem numberText_visible (n : Number) : ∀ c ∈ (numberText n).toList, IsVisible c := by
  cases n with
  | int n =>
      have hdigits (k : ℕ) : ∀ c ∈ (Nat.repr k).toList, IsVisible c := by
        rw [Nat.toList_repr]
        exact fun c hc => isVisible_of_isDigit
          (Nat.isDigit_of_mem_toDigits (by decide) (by decide) hc)
      cases n with
      | ofNat k => exact hdigits k
      | negSucc k =>
          change ∀ c ∈ ("-" ++ Nat.repr (k + 1)).toList, IsVisible c
          rw [String.toList_append, List.forall_mem_append]
          exact ⟨by decide, hdigits (k + 1)⟩
  | float x =>
      cases x with
      | nan | spelledNan => decide
      | infinite negative => cases negative <;> decide
      | finite negative units =>
          obtain ⟨d, hd, htext⟩ := exists_toList_dataText negative units
          change ∀ c ∈ (Binary64.finite negative units).dataText.toList, IsVisible c
          rw [htext, List.forall_mem_append]
          exact ⟨by cases negative <;> decide,
            hd.forall_mem_write _ (fun _ => isVisible_of_isDigit) (by decide)⟩

/-- Nothing stands between the parts of a text of one line. -/
theorem lineBreak_asciiLine (depth : ℕ) : lineBreak .asciiLine depth = [] := rfl

mutual

/-- A text on one line of ASCII has only visible characters and spaces, however deep its values are
nested and whatever their texts hold. -/
theorem write_visible (v : Value) (depth : ℕ) : ∀ c ∈ write .asciiLine depth v, IsVisible c := by
  match v with
  | .null | .bool true | .bool false | .array [] | .object [] =>
      rw [write]
      decide
  | .number n => exact numberText_visible n
  | .string s => exact quote_visible s
  | .array (item :: items) =>
      simp only [write, lineBreak_asciiLine, List.append_nil, List.forall_mem_append,
        List.forall_mem_cons]
      exact ⟨⟨⟨⟨by decide, List.forall_mem_nil _⟩, write_visible item _⟩,
        writeItems_visible items _⟩, by decide, List.forall_mem_nil _⟩
  | .object ((key, item) :: members) =>
      simp only [write, lineBreak_asciiLine, List.append_nil, List.forall_mem_append,
        List.forall_mem_cons]
      exact ⟨⟨⟨⟨⟨⟨by decide, List.forall_mem_nil _⟩, quote_visible key⟩, by decide⟩,
        write_visible item _⟩, writeMembers_visible members _⟩, by decide, List.forall_mem_nil _⟩

theorem writeItems_visible (items : List Value) (depth : ℕ) :
    ∀ c ∈ writeItems .asciiLine depth items, IsVisible c := by
  match items with
  | [] => exact List.forall_mem_nil _
  | item :: items =>
      simp only [writeItems, lineBreak_asciiLine, List.append_nil, List.forall_mem_append]
      exact ⟨⟨by decide, write_visible item _⟩, writeItems_visible items _⟩

theorem writeMembers_visible (members : List (String × Value)) (depth : ℕ) :
    ∀ c ∈ writeMembers .asciiLine depth members, IsVisible c := by
  match members with
  | [] => exact List.forall_mem_nil _
  | (key, item) :: members =>
      simp only [writeMembers, lineBreak_asciiLine, List.append_nil, List.forall_mem_append]
      exact ⟨⟨⟨⟨by decide, quote_visible key⟩, by decide⟩, write_visible item _⟩,
        writeMembers_visible members _⟩

end

end Visible

end JsonQuery.Json
