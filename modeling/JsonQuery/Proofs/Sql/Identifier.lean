import JsonQuery.Proofs.Sql.Ends
import JsonQuery.Proofs.Sql.Excerpt
import Mathlib.Tactic

/-!
Plain identifiers in a query text. An identifier is a word to every rule. Only two rules reach
from a word into what stands behind it: a batch separator takes the number behind it, and a time
zone clause the quoted zone. Where neither follows, an identifier is read as itself, and keywords
of several words are cut into their words again. The name of division alone is an operator, and
parts the words around it.
-/

namespace JsonQuery.Sql

open Text

/-- A character that an identifier may begin with. -/
def beginsIdentifier (c : Char) : Bool := isAsciiLetter c || c == '_'

/-- A letter or an underscore, and any number of letters, digits and underscores behind it. -/
def isIdentifier : List Char → Bool
  | [] => false
  | c :: cs => beginsIdentifier c && cs.all fun c => beginsIdentifier c || isAsciiDigit c

section Identifiers

variable {c : Char} {w : List Char}

theorem isWord_of_beginsIdentifier (h : beginsIdentifier c = true) : isWord c = true := by
  rcases Bool.or_eq_true_iff.mp h with hletter | hunderscore
  · exact isWord_of_isAsciiLetter hletter
  · rw [beq_iff_eq.mp hunderscore]
    decide

theorem isDecimal_of_beginsIdentifier (h : beginsIdentifier c = true) : isDecimal c = false := by
  rcases Bool.or_eq_true_iff.mp h with hletter | hunderscore
  · exact isDecimal_of_isAsciiLetter hletter
  · rw [beq_iff_eq.mp hunderscore]
    decide

theorem isWord_of_isAsciiDigit (h : isAsciiDigit c = true) : isWord c = true := by
  have hascii : c.toNat < 128 := by
    simp only [isAsciiDigit, Bool.and_eq_true, decide_eq_true_eq] at h
    omega
  rw [isWord, if_pos hascii, h, Bool.or_true]
  rfl

theorem exists_of_isIdentifier (h : isIdentifier w = true) :
    ∃ c cs, w = c :: cs ∧ beginsIdentifier c = true ∧
      ∀ d ∈ w, beginsIdentifier d = true ∨ isAsciiDigit d = true := by
  cases w with
  | nil => exact absurd h Bool.false_ne_true
  | cons c cs =>
      obtain ⟨hfirst, hlater⟩ := Bool.and_eq_true_iff.mp h
      refine ⟨c, cs, rfl, hfirst, List.forall_mem_cons.mpr ⟨.inl hfirst, fun d hd => ?_⟩⟩
      exact Bool.or_eq_true_iff.mp (List.all_eq_true.mp hlater d hd)

theorem isWord_of_isIdentifier (h : isIdentifier w = true) : ∀ d ∈ w, isWord d = true := by
  obtain ⟨-, -, -, -, hall⟩ := exists_of_isIdentifier h
  exact fun d hd => (hall d hd).elim isWord_of_beginsIdentifier isWord_of_isAsciiDigit

theorem toNat_lt_of_isIdentifier (h : isIdentifier w = true) : ∀ d ∈ w, d.toNat < 128 := by
  obtain ⟨-, -, -, -, hall⟩ := exists_of_isIdentifier h
  intro d hd
  have hcases := hall d hd
  simp only [beginsIdentifier, isAsciiLetter, isAsciiDigit, Bool.or_eq_true, Bool.and_eq_true,
    decide_eq_true_eq, beq_iff_eq] at hcases
  rcases hcases with (hletter | rfl) | hdigit
  · omega
  · decide
  · omega

end Identifiers

/-- A text in front of which a word ends: neither a number nor a quoted zone stands there that a
batch separator or a time zone clause could draw to it. -/
structure Clear (rest : List Char) : Prop where
  ends : endsOr isSeparator rest = true
  batch : goesOn isDecimal (rest.drop 1) = false
  zone : ∀ words behind, dropBlanks? rest = some words →
    dropPhrase? ["TIME", "ZONE"] words = some behind → '\'' ∉ behind

section Clear

variable {c : Char} {w rest : List Char}

theorem clear_nil : Clear [] := ⟨rfl, rfl, fun _ _ h => nomatch h⟩

/-- A sign parts a word from all that follows, if there is no digit right behind it. -/
theorem clear_sign (hc : isSeparator c = true) (hblank : isBlank c = false)
    (hrest : goesOn isDecimal rest = false) : Clear (c :: rest) := by
  refine ⟨hc, hrest, ?_⟩
  intro words behind hwords
  rw [dropBlanks?, goesOn, hblank, if_neg Bool.false_ne_true] at hwords
  exact absurd hwords.symm (Option.some_ne_none words)

/-- Behind one space, a text that begins with neither a digit nor a form of the first letter of a
time zone clause is out of reach. -/
theorem clear_space (hblank : isBlank c = false) (hdigit : isDecimal c = false)
    (hzone : isLetter 'T' c = false) : Clear (' ' :: c :: rest) := by
  refine ⟨rfl, hdigit, ?_⟩
  intro words behind hwords hphrase
  have hdrop : dropBlanks? (' ' :: c :: rest) = some (c :: rest) := by
    simp [dropBlanks?, goesOn, hblank, show isBlank ' ' = true from rfl]
  obtain rfl := Option.some.inj (hdrop.symm.trans hwords)
  obtain ⟨later, hkeyword, -⟩ := Option.bind_eq_some_iff.mp hphrase
  have hnone : dropKeyword? ['T', 'I', 'M', 'E'] (c :: rest) = none := by
    rw [dropKeyword?, hzone, if_neg Bool.false_ne_true]
  exact absurd (hnone.symm.trans hkeyword).symm (Option.some_ne_none later)

/-- Blanks and words without a quote are out of reach. -/
theorem clear_of_not_mem (hends : endsOr isSeparator rest = true)
    (hbatch : goesOn isDecimal (rest.drop 1) = false) (hquote : '\'' ∉ rest) : Clear rest := by
  refine ⟨hends, hbatch, ?_⟩
  intro words behind hwords hphrase hmem
  have hspelled : WellSpelled ["TIME", "ZONE"] := ⟨List.cons_ne_nil _ _, by decide⟩
  obtain ⟨c, hsuffix, -⟩ := hspelled.exists_last hphrase
  have hbehind : '\'' ∈ words := hsuffix.subset (List.mem_cons_of_mem c hmem)
  exact hquote ((suffix_of_dropBlanks? hwords).subset hbehind)

theorem standsAsWord_of_isIdentifier (hw : isIdentifier w = true) (hsign : isDivision w = false)
    (hrest : Clear rest) : StandsAsWord w rest := by
  obtain ⟨c, cs, hcons, hfirst, -⟩ := exists_of_isIdentifier hw
  have hword := isWord_of_isIdentifier hw
  refine ⟨?_, hword, ?_, hsign, hrest.ends, ?_, ?_⟩
  · rw [hcons]
    exact List.cons_ne_nil c cs
  · rw [hcons]
    exact isDecimal_of_beginsIdentifier hfirst
  · exact batchLength?_eq_none hword hrest.ends fun _ => hrest.batch
  · exact zoneLength?_eq_none hword hrest.ends fun _ => hrest.zone

end Clear

section Division

variable {w rest : List Char} {before : Option Char}

/-- The word that names division, in any case of its letters. -/
def divisionWords : List (List Char) :=
  ['D', 'd'].flatMap fun d => ['I', 'i'].flatMap fun i => ['V', 'v'].map fun v => [d, i, v]

theorem mem_divisionWords (hw : ∀ c ∈ w, c.toNat < 128) (h : isDivision w = true) :
    w ∈ divisionWords := by
  have hmap : w.flatMap upperChar = w.map Char.toUpper := by
    clear h
    induction w with
    | nil => rfl
    | cons c w ih =>
        obtain ⟨hc, hw⟩ := List.forall_mem_cons.mp hw
        rw [List.flatMap_cons, upperChar, if_pos hc, ih hw]
        rfl
  have hupper : w.map Char.toUpper = ['D', 'I', 'V'] := by
    have htext := congrArg String.toList (beq_iff_eq.mp h)
    rw [upper, String.toList_ofList, String.toList_ofList, hmap] at htext
    exact htext
  have hforms : ∀ n < 128, ∀ form ∈ [('D', 'd'), ('I', 'i'), ('V', 'v')],
      (Char.ofNat n).toUpper = form.1 → Char.ofNat n ∈ [form.1, form.2] := by
    decide +kernel
  have hletter {c : Char} (hc : c ∈ w) (form : Char × Char)
      (hform : form ∈ [('D', 'd'), ('I', 'i'), ('V', 'v')]) (hcapital : c.toUpper = form.1) :
      c ∈ [form.1, form.2] := by
    have hmem := hforms c.toNat (hw c hc) form hform
    rw [Char.ofNat_toNat] at hmem
    exact hmem hcapital
  obtain ⟨d, w₁, rfl, hd, hupper⟩ := List.map_eq_cons_iff.mp hupper
  obtain ⟨i, w₂, rfl, hi, hupper⟩ := List.map_eq_cons_iff.mp hupper
  obtain ⟨v, w₃, rfl, hv, hupper⟩ := List.map_eq_cons_iff.mp hupper
  obtain rfl := List.map_eq_nil_iff.mp hupper
  have hd := hletter (by simp) ('D', 'd') (by decide) hd
  have hi := hletter (by simp) ('I', 'i') (by decide) hi
  have hv := hletter (by simp) ('V', 'v') (by decide) hv
  exact List.mem_flatMap.mpr ⟨d, hd, List.mem_flatMap.mpr ⟨i, hi, List.mem_map_of_mem hv⟩⟩

theorem isDivision_eq_true {name : String} (h : upper name = "DIV") :
    isDivision name.toList = true := by
  rw [isDivision, String.ofList_toList, h]
  rfl

theorem isDivision_eq_false {name : String} (h : upper name ≠ "DIV") :
    isDivision name.toList = false := by
  rw [isDivision, String.ofList_toList, beq_false_of_ne h]

theorem toList_mem_divisionWords {name : String} (hname : isIdentifier name.toList = true)
    (h : upper name = "DIV") : name.toList ∈ divisionWords :=
  mem_divisionWords (toNat_lt_of_isIdentifier hname) (isDivision_eq_true h)

/-- No phrase goes on with the name of division. -/
theorem divisionWords_facts (h : w ∈ divisionWords) :
    w ≠ [] ∧ (∀ c ∈ w, isWord c = true) ∧ goesOn extendsPhrase w = false := by
  have hall : ∀ w ∈ divisionWords,
      w ≠ [] ∧ (∀ c ∈ w, isWord c = true) ∧ goesOn extendsPhrase w = false := by
    decide +kernel
  exact hall w h

/-- The name of division is read as an operator, unless a point makes a part of a longer name of
it. -/
theorem classify_division (hw : w ∈ divisionWords) (hsign : isDivision w = true)
    (hrest : endsOr isBlank rest = true) (hpoint : pointFollows rest = false)
    (hbefore : behind (· == '.') before = false) :
    classify before (w ++ rest) = (.operator, w.length) := by
  obtain ⟨hne, hword, -⟩ := divisionWords_facts hw
  have hends : endsOr isSeparator rest = true := by
    cases rest with
    | nil => rfl
    | cons c rest => exact Bool.or_eq_true_iff.mpr (.inl hrest)
  have hparen : goesOn (· == '(') rest = false := goesOn_eq_false_of_endsOr (fun c hc => by
    rw [beq_eq_false_iff_ne]
    rintro rfl
    exact absurd hc (by decide)) hrest
  have hqualified : qualifiedLength? before (w ++ rest) = none := by
    rw [qualifiedLength?]
    cases hlength : nameLength? (w ++ rest) with
    | none => rfl
    | some n =>
        obtain rfl := eq_length_of_nameLength? hne hword hends hlength
        simp [hpoint, hbefore, hparen]
  have hdivision : divisionLength? before (w ++ rest) = some w.length := by
    rw [divisionLength?, wordLength?_append hne hword hends]
    simp [hsign]
  simp only [divisionWords, List.flatMap_cons, List.flatMap_nil, List.map_cons, List.map_nil,
    List.append_nil, List.cons_append, List.nil_append, List.mem_cons, List.not_mem_nil,
    or_false] at hw
  clear hne hword hsign
  unfold classify rules
  rcases hw with rfl | rfl | rfl | rfl | rfl | rfl | rfl | rfl
  all_goals
    simp only [List.findSome?, hqualified, hdivision]
    rfl

end Division

/-- Names behind one another, each with the gap in front of it. -/
def spaced (items : List (String × String)) : String :=
  String.join (items.map fun (gap, name) => gap ++ name)

/-- The pieces of names behind one another. -/
def spacedPieces (items : List (String × String)) : List Piece :=
  items.flatMap fun (gap, name) => gap.toList.map .blank ++ [.word name.toList]

/-- A token of some kind for each of the names, with its spelling and its place. -/
def nameTokens (kind : String → TokenKind) (start : Nat) : List (String × String) → List Token
  | [] => []
  | (gap, name) :: later =>
      ⟨kind name, name, start + gap.length, start + gap.length + name.length⟩ ::
        nameTokens kind (start + gap.length + name.length) later

/-- The kind of token that a name makes: division alone is no word. -/
def nameKind (name : String) : TokenKind := if upper name = "DIV" then .operator else .word

/-- All names are identifiers, and all gaps are blanks, with at least one between two names. -/
structure Identifiers (items : List (String × String)) : Prop where
  name : ∀ item ∈ items, isIdentifier item.2.toList = true
  blank : ∀ item ∈ items, ∀ c ∈ item.1.toList, isBlank c = true
  apart : ∀ item ∈ items.tail, item.1 ≠ ""

section Spaced

variable {gap name : String} {items front back : List (String × String)}
  {kind : String → TokenKind} {before : Option Char} {start : Nat}

theorem render_blanks (cs : List Char) : render (cs.map .blank) = cs := by
  induction cs with
  | nil => rfl
  | cons c cs ih => rw [List.map_cons, render_cons, ih, Piece.raw, List.singleton_append]

theorem place_blanks (start : Nat) (cs : List Char) : place start (cs.map .blank) = [] := by
  induction cs generalizing start with
  | nil => rfl
  | cons c cs ih => rw [List.map_cons, place, ih, Piece.tokens, List.nil_append]

theorem placed_blanks {cs rest : List Char} (h : ∀ c ∈ cs, isBlank c = true) :
    Placed (cs.map .blank) rest := by
  induction cs with
  | nil => trivial
  | cons c cs ih =>
      obtain ⟨hc, hcs⟩ := List.forall_mem_cons.mp h
      exact ⟨.blank hc, ih hcs⟩

theorem spaced_cons : spaced ((gap, name) :: items) = gap ++ (name ++ spaced items) := by
  simp [spaced, String.append_assoc]

theorem spaced_append : spaced (front ++ back) = spaced front ++ spaced back := by
  simp [spaced]

theorem toList_spaced_cons :
    (spaced ((gap, name) :: items)).toList =
      gap.toList ++ (name.toList ++ (spaced items).toList) := by
  rw [spaced_cons, String.toList_append, String.toList_append]

theorem spacedPieces_cons :
    spacedPieces ((gap, name) :: items) =
      gap.toList.map .blank ++ .word name.toList :: spacedPieces items := by
  simp [spacedPieces]

theorem render_spacedPieces (items : List (String × String)) :
    render (spacedPieces items) = (spaced items).toList := by
  induction items with
  | nil => rfl
  | cons item items ih =>
      obtain ⟨gap, name⟩ := item
      rw [spacedPieces_cons, render_append, render_blanks, render_cons, ih, toList_spaced_cons]
      rfl

theorem place_spacedPieces (start : Nat) (items : List (String × String)) :
    place start (spacedPieces items) = nameTokens (fun _ => .word) start items := by
  induction items generalizing start with
  | nil => rfl
  | cons item items ih =>
      obtain ⟨gap, name⟩ := item
      rw [spacedPieces_cons, place_append, place_blanks, render_blanks, place, ih, Piece.tokens,
        Piece.raw, String.ofList_toList, String.length_toList, String.length_toList]
      rfl

theorem nameTokens_append :
    nameTokens kind start (front ++ back) =
      nameTokens kind start front ++ nameTokens kind (start + (spaced front).length) back := by
  induction front generalizing start with
  | nil => rfl
  | cons item front ih =>
      obtain ⟨gap, name⟩ := item
      rw [List.cons_append, nameTokens, ih, nameTokens, spaced_cons, String.length_append,
        String.length_append, List.cons_append, Nat.add_assoc, Nat.add_assoc, Nat.add_assoc]

/-- Tokens tell the kinds apart. -/
theorem nameTokens_inj {kind' : String → TokenKind} :
    nameTokens kind start items = nameTokens kind' start items ↔
      ∀ item ∈ items, kind item.2 = kind' item.2 := by
  induction items generalizing start with
  | nil => simp [nameTokens]
  | cons item items ih =>
      rw [nameTokens, nameTokens, List.cons.injEq, ih, List.forall_mem_cons, Token.mk.injEq]
      simp

theorem nameKind_eq_word : nameKind name = .word ↔ upper name ≠ "DIV" := by
  rw [nameKind]
  split <;> simp_all

theorem Identifiers.of_suffix (h : Identifiers items) (hsuffix : back <:+ items) :
    Identifiers back where
  name item hitem := h.name item (hsuffix.subset hitem)
  blank item hitem := h.blank item (hsuffix.subset hitem)
  apart item hitem := by
    obtain ⟨front, rfl⟩ := hsuffix
    cases front with
    | nil => exact h.apart item hitem
    | cons first front => exact h.apart item (List.mem_append_right _ (List.mem_of_mem_tail hitem))

theorem Identifiers.isWord_or_isBlank (h : Identifiers items) (hpart : front ⊆ items) :
    ∀ c ∈ (spaced front).toList, isWord c = true ∨ isBlank c = true := by
  intro c hc
  rw [spaced, String.toList_join, List.mem_flatMap] at hc
  obtain ⟨text, htext, hc⟩ := hc
  obtain ⟨⟨gap, name⟩, hitem, rfl⟩ := List.mem_map.mp htext
  rw [String.toList_append] at hc
  rcases List.mem_append.mp hc with hgap | hname
  · exact .inr (h.blank _ (hpart hitem) c hgap)
  · exact .inl (isWord_of_isIdentifier (h.name _ (hpart hitem)) c hname)

/-- Neither a quote nor a point is part of names behind one another. -/
theorem Identifiers.not_mem {mark : Char} (h : Identifiers items) (hpart : front ⊆ items)
    (hword : isWord mark = false) (hblank : isBlank mark = false) :
    mark ∉ (spaced front).toList := by
  intro hmem
  rcases h.isWord_or_isBlank hpart mark hmem with hmark | hmark
  · exact Bool.false_ne_true (hword.symm.trans hmark)
  · exact Bool.false_ne_true (hblank.symm.trans hmark)

/-- The names behind a name begin with a blank, behind which there is no digit. -/
theorem Identifiers.ends {item : String × String} (h : Identifiers (item :: items)) :
    endsOr isBlank (spaced items).toList = true ∧
      goesOn isDecimal ((spaced items).toList.drop 1) = false := by
  cases items with
  | nil => exact ⟨rfl, rfl⟩
  | cons next items =>
      obtain ⟨gap, name⟩ := next
      have hne : gap ≠ "" := h.apart (gap, name) List.mem_cons_self
      obtain ⟨b, blanks, hgap⟩ := List.exists_cons_of_ne_nil (mt String.toList_eq_nil_iff.mp hne)
      have hmem : (gap, name) ∈ item :: (gap, name) :: items := .tail _ List.mem_cons_self
      have hblank : ∀ c ∈ gap.toList, isBlank c = true := h.blank _ hmem
      obtain ⟨c, cs, hname, hbegins, -⟩ := exists_of_isIdentifier (h.name _ hmem)
      rw [toList_spaced_cons, hgap, hname]
      rw [hgap] at hblank
      refine ⟨hblank b List.mem_cons_self, ?_⟩
      rw [List.cons_append, List.drop_one, List.tail_cons]
      cases blanks with
      | nil => exact isDecimal_of_beginsIdentifier hbegins
      | cons d blanks =>
          have hd : isBlank d = true := hblank d (.tail _ List.mem_cons_self)
          exact Bool.eq_false_iff.mpr fun hdecimal =>
            Bool.false_ne_true ((isBlank_eq_false_of_isDecimal hdecimal).symm.trans hd)

/-- The names behind a name are out of its reach. -/
theorem Identifiers.clear {item : String × String} (h : Identifiers (item :: items)) :
    Clear (spaced items).toList := by
  obtain ⟨hends, hdigit⟩ := h.ends
  refine clear_of_not_mem ?_ hdigit ?_
  · cases htext : (spaced items).toList with
    | nil => rfl
    | cons c cs =>
        rw [htext] at hends
        exact Bool.or_eq_true_iff.mpr (.inl hends)
  · exact h.not_mem (List.subset_cons_self item items) (by decide) (by decide)

theorem Identifiers.placed (h : Identifiers (front ++ back))
    (hwords : ∀ item ∈ front, upper item.2 ≠ "DIV") :
    Placed (spacedPieces front) (spaced back).toList := by
  induction front with
  | nil => trivial
  | cons item front ih =>
      obtain ⟨gap, name⟩ := item
      obtain ⟨hsign, hlater⟩ := List.forall_mem_cons.mp hwords
      have hmem : (gap, name) ∈ (gap, name) :: (front ++ back) := List.mem_cons_self
      have htext : render (spacedPieces front) ++ (spaced back).toList =
          (spaced (front ++ back)).toList := by
        rw [render_spacedPieces, spaced_append, String.toList_append]
      rw [spacedPieces_cons]
      refine placed_append.mpr ⟨placed_blanks (h.blank _ hmem), ?_, ?_⟩
      · rw [htext]
        exact standsAsWord_of_isIdentifier (h.name _ hmem) (isDivision_eq_false hsign)
          (Identifiers.clear h)
      · exact ih (h.of_suffix (List.suffix_cons (gap, name) (front ++ back))) hlater

theorem behind_getLast? {p : Char → Bool} {cs : List Char} (hcs : ∀ c ∈ cs, p c = false)
    (hbefore : behind p before = false) : behind p (cs.getLast?.or before) = false := by
  cases hlast : cs.getLast? with
  | none => exact hbefore
  | some c => exact hcs c (List.mem_of_getLast? hlast)

theorem pointFollows_eq_false {cs : List Char} (h : '.' ∉ cs) : pointFollows cs = false := by
  unfold pointFollows
  split
  · rename_i heq
    have hmem : '.' ∈ cs.dropWhile isBlank := by
      rw [heq]
      exact List.mem_cons_self
    exact absurd ((List.dropWhile_suffix _).subset hmem) h
  · rfl

/-- Names none of which is division are words. -/
theorem place_eq_nameTokens (start : Nat) (hwords : ∀ item ∈ front, upper item.2 ≠ "DIV") :
    place start (spacedPieces front) = nameTokens nameKind start front := by
  rw [place_spacedPieces]
  exact nameTokens_inj.mpr fun item hitem => (nameKind_eq_word.mpr (hwords item hitem)).symm

/-- The name of division that stands behind a gap and in front of other names is an operator. -/
theorem Identifiers.tokensAt_division (h : Identifiers (front ++ (gap, name) :: back))
    (hwords : ∀ item ∈ front, upper item.2 ≠ "DIV") (hdivision : upper name = "DIV")
    (hbefore : behind (· == '.') before = false) :
    tokensAt before start
        (render (spacedPieces front) ++ (spaced ((gap, name) :: back)).toList) =
      nameTokens nameKind start (front ++ [(gap, name)]) ++
        tokensAt name.toList.getLast? (start + (spaced (front ++ [(gap, name)])).length)
          (spaced back).toList := by
  have hmem : (gap, name) ∈ front ++ (gap, name) :: back :=
    List.mem_append_right _ List.mem_cons_self
  have hgap : ∀ c ∈ gap.toList, isBlank c = true := h.blank _ hmem
  have hname : isIdentifier name.toList = true := h.name _ hmem
  have hw := toList_mem_divisionWords hname hdivision
  obtain ⟨hne, -, hphrase⟩ := divisionWords_facts hw
  -- The pieces up to the name, and where they end.
  have hraw : render (spacedPieces front ++ gap.toList.map .blank) =
      (spaced front).toList ++ gap.toList := by
    rw [render_append, render_spacedPieces, render_blanks]
  have htext : render (spacedPieces front) ++ (spaced ((gap, name) :: back)).toList =
      render (spacedPieces front ++ gap.toList.map .blank) ++
        (name.toList ++ (spaced back).toList) := by
    rw [hraw, render_spacedPieces, toList_spaced_cons, List.append_assoc]
  have hplaced : Placed (spacedPieces front ++ gap.toList.map .blank)
      (name.toList ++ (spaced back).toList) := by
    refine placed_append.mpr ⟨?_, placed_blanks hgap⟩
    rw [render_blanks, ← toList_spaced_cons]
    exact h.placed hwords
  have hends : goesOn extendsPhrase (name.toList ++ (spaced back).toList) = false := by
    obtain ⟨c, cs, hcons⟩ := List.exists_cons_of_ne_nil hne
    rw [hcons] at hphrase ⊢
    exact hphrase
  have hpoint : '.' ∉ (spaced front).toList ++ gap.toList := by
    intro hpoint
    rcases List.mem_append.mp hpoint with hfront | hblank
    · exact h.not_mem (List.subset_append_left _ _) (by decide) (by decide) hfront
    · exact absurd (hgap _ hblank) (by decide)
  have hlast : behind (· == '.') (((spaced front).toList ++ gap.toList).getLast?.or before) = false :=
    behind_getLast? (fun c hc => beq_false_of_ne fun heq => hpoint (heq ▸ hc)) hbefore
  have hback : back ⊆ front ++ (gap, name) :: back :=
    fun item hitem => List.mem_append_right _ (.tail _ hitem)
  have hclassify := classify_division hw (isDivision_eq_true hdivision)
    (Identifiers.ends (h.of_suffix (List.suffix_append front _))).1
    (pointFollows_eq_false (h.not_mem hback (by decide) (by decide))) hlast
  have hplace : start + ((spaced front).toList ++ gap.toList).length =
      start + (spaced front).length + gap.length := by
    rw [List.length_append, String.length_toList, String.length_toList, Nat.add_assoc]
  have hstop : start + (spaced (front ++ [(gap, name)])).length =
      start + (spaced front).length + gap.length + name.length := by
    simp [spaced, Nat.add_assoc]
  rw [htext, tokensAt_render before start hplaced hends, hraw, tokensAt_append hne hclassify,
    place_append, place_eq_nameTokens start hwords, place_blanks, List.append_nil,
    nameTokens_append, hplace, hstop, Lexeme.tokens]
  simp [nameTokens, nameKind, hdivision, String.length_toList]

/-- Names with blanks between them are read one by one, whatever keywords they make. The words
up to the next division are read at once, since phrases reach over some of them. -/
theorem Identifiers.tokensAt (h : Identifiers (front ++ back))
    (hwords : ∀ item ∈ front, upper item.2 ≠ "DIV") (hbefore : behind (· == '.') before = false) :
    tokensAt before start (render (spacedPieces front) ++ (spaced back).toList) =
      nameTokens nameKind start (front ++ back) := by
  induction back generalizing front before start with
  | nil =>
      rw [tokensAt_render before start (h.placed hwords) rfl, place_eq_nameTokens start hwords,
        List.append_nil]
      exact List.append_nil _
  | cons item back ih =>
      obtain ⟨gap, name⟩ := item
      by_cases hdivision : upper name = "DIV"
      · have hname : behind (· == '.') (name.toList.getLast?.or none) = false := by
          have hword := isWord_of_isIdentifier
            (h.name (gap, name) (List.mem_append_right _ List.mem_cons_self))
          exact behind_getLast? (fun c hc => beq_false_of_ne (ne_of_isWord (hword c hc) rfl)) rfl
        rw [Option.or_none] at hname
        have hback : Identifiers ([] ++ back) :=
          h.of_suffix ((List.suffix_cons (gap, name) back).trans (List.suffix_append front _))
        have hlater : tokensAt name.toList.getLast?
            (start + (spaced (front ++ [(gap, name)])).length) (spaced back).toList =
              nameTokens nameKind (start + (spaced (front ++ [(gap, name)])).length) back :=
          ih hback (fun item hitem => absurd hitem List.not_mem_nil) hname
        rw [h.tokensAt_division hwords hdivision hbefore, hlater, ← nameTokens_append,
          List.append_assoc, List.singleton_append]
      · have hfront : render (spacedPieces front) ++ (spaced ((gap, name) :: back)).toList =
            render (spacedPieces (front ++ [(gap, name)])) ++ (spaced back).toList := by
          simp only [render_spacedPieces, ← String.toList_append, ← spaced_append]
          simp
        have hsplit : front ++ (gap, name) :: back = front ++ [(gap, name)] ++ back := by simp
        rw [hsplit] at h ⊢
        rw [hfront]
        refine ih h ?_ hbefore
        intro item hitem
        rcases List.mem_append.mp hitem with hmem | hmem
        · exact hwords item hmem
        · rw [List.mem_singleton.mp hmem]
          exact hdivision

/-- Names with blanks between them are read as one token each, with its own spelling and place. -/
theorem Identifiers.tokenize_spaced (h : Identifiers items) :
    tokenize (spaced items) = nameTokens nameKind 0 items := by
  have hitems : Identifiers ([] ++ items) := h
  rw [tokenize_eq]
  exact hitems.tokensAt (fun _ hitem => absurd hitem List.not_mem_nil) rfl

/-- The tokens are words exactly where no name is division. -/
theorem Identifiers.tokenize_spaced_eq_words (h : Identifiers items) :
    tokenize (spaced items) = nameTokens (fun _ => .word) 0 items ↔
      ∀ item ∈ items, upper item.2 ≠ "DIV" := by
  rw [h.tokenize_spaced, nameTokens_inj]
  exact forall₂_congr fun _ _ => nameKind_eq_word

end Spaced

end JsonQuery.Sql
