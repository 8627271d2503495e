import JsonQuery.Proofs.Sql.Lexing

/-!
Texts between quotes. A text is written with each quote in it twice, and reading gives the text
back, unless a quote in it stands behind a backslash: such a quote does not count, so the one
written after it ends the text early.
-/

namespace JsonQuery.Sql

/-- The characters with each quote written twice. -/
def double (quote : Char) (cs : List Char) : List Char :=
  cs.flatMap fun c => if c == quote then [c, c] else [c]

/-- A text between quotes, with each quote in it written twice. -/
def enquote (quote : Char) (cs : List Char) : List Char := quote :: (double quote cs ++ [quote])

variable {quote : Char} {cs rest : List Char}

@[simp] theorem double_nil : double quote [] = [] := rfl

theorem double_cons_self : double quote (quote :: cs) = quote :: quote :: double quote cs := by
  simp [double]

theorem double_cons_of_ne {c : Char} (h : c ≠ quote) :
    double quote (c :: cs) = c :: double quote cs := by
  simp [double, h]

theorem double_eq_self (h : quote ∉ cs) : double quote cs = cs := by
  induction cs with
  | nil => rfl
  | cons c cs ih =>
      have hc : c ≠ quote := fun hc => h (hc ▸ List.mem_cons_self)
      rw [double_cons_of_ne hc, ih fun hmem => h (List.mem_cons_of_mem c hmem)]

theorem double_append (front back : List Char) :
    double quote (front ++ back) = double quote front ++ double quote back :=
  List.flatMap_append

theorem undouble_cons_of_ne {c : Char} (h : c ≠ quote) :
    undouble quote (c :: cs) = c :: undouble quote cs := by
  cases cs with
  | nil => rfl
  | cons d cs => simp [undouble, h]

/-- Writing each quote twice is undone exactly. -/
theorem undouble_double_append : undouble quote (double quote cs ++ rest) =
    cs ++ undouble quote rest := by
  induction cs with
  | nil => rfl
  | cons c cs ih =>
      by_cases hc : c = quote
      · subst hc
        rw [double_cons_self, List.cons_append, List.cons_append, undouble, BEq.rfl,
          Bool.and_self, if_pos rfl, ih, List.cons_append]
      · rw [double_cons_of_ne hc, List.cons_append, undouble_cons_of_ne hc, ih, List.cons_append]

theorem undouble_double : undouble quote (double quote cs) = cs := by
  have h : undouble quote (double quote cs ++ []) = cs ++ [] := undouble_double_append
  rwa [List.append_nil, List.append_nil] at h

theorem unquote_enquote : unquote (enquote quote cs) = cs := by
  rw [enquote, unquote, List.getLast?_concat, BEq.rfl, if_pos rfl, List.dropLast_concat,
    undouble_double]

/-- A text of which no quote stands behind a backslash. -/
def Unescaped (quote : Char) (cs : List Char) : Prop := ¬ ['\\', quote] <:+: cs

theorem Unescaped.of_cons {c : Char} (h : Unescaped quote (c :: cs)) : Unescaped quote cs :=
  fun hwithin => h (hwithin.trans (List.suffix_cons c cs).isInfix)

theorem Unescaped.ne_of_cons {d : Char} (h : Unescaped quote ('\\' :: d :: cs)) : d ≠ quote := by
  rintro rfl
  exact h ⟨[], cs, rfl⟩

section Closing

variable {escapes : Bool}

/-- A doubled quote belongs to the text if the text is closed behind it. -/
theorem closingLength?_doubled {n : Nat} (h : closingLength? quote escapes cs = some n) :
    closingLength? quote escapes (quote :: quote :: cs) = some (n + 2) := by
  rw [closingLength?, BEq.rfl, if_pos rfl, if_pos rfl, h]

theorem closingLength?_quote (hrest : rest.head? ≠ some quote) :
    closingLength? quote escapes (quote :: rest) = some 1 := by
  rw [closingLength?.eq_def]
  simp only [BEq.rfl, if_true]
  cases rest with
  | nil => rfl
  | cons d rest =>
      have hd : (d == quote) = false := beq_false_of_ne fun hd => hrest (congrArg some hd)
      simp only [hd, Bool.false_eq_true, if_false]

theorem closingLength?_cons {c : Char} (hc : c ≠ quote)
    (hescape : c = '\\' → cs.head? ≠ some quote) :
    closingLength? quote escapes (c :: cs) = (closingLength? quote escapes cs).map (· + 1) := by
  rw [closingLength?.eq_def]
  simp only [beq_false_of_ne hc, Bool.false_eq_true, if_false]
  split
  · rename_i hslash
    have hc : c = '\\' := by simpa using (Bool.and_eq_true_iff.mp hslash).2
    cases cs with
    | nil => rfl
    | cons d cs =>
        have hd : (d == quote) = false :=
          beq_false_of_ne fun hd => hescape hc (congrArg some hd)
        simp only [hd, Bool.false_eq_true, if_false]
  · rfl

/-- A quote behind a backslash is part of the text if the text is closed behind it. -/
theorem closingLength?_escaped {n : Nat} (hquote : quote ≠ '\\')
    (h : closingLength? quote true cs = some n) :
    closingLength? quote true ('\\' :: quote :: cs) = some (n + 2) := by
  rw [closingLength?.eq_def]
  simp [Ne.symm hquote, h]

theorem closingLength?_eq_none (h : quote ∉ cs) : closingLength? quote escapes cs = none := by
  induction cs with
  | nil => rfl
  | cons c cs ih =>
      have hc : c ≠ quote := fun hc => h (hc ▸ List.mem_cons_self)
      have hlater : quote ∉ cs := fun hmem => h (List.mem_cons_of_mem c hmem)
      have hhead : cs.head? ≠ some quote := fun hhead => hlater (List.mem_of_mem_head? hhead)
      rw [closingLength?_cons hc fun _ => hhead, ih hlater]
      rfl

/-- Quotes that are written twice do not end a text. -/
theorem closingLength?_double_append {n : Nat} (hcs : Unescaped quote cs)
    (hnext : cs.getLast? = some '\\' → rest.head? ≠ some quote)
    (hrest : closingLength? quote escapes rest = some n) :
    closingLength? quote escapes (double quote cs ++ rest) =
      some ((double quote cs).length + n) := by
  induction cs with
  | nil => simpa using hrest
  | cons c cs ih =>
      have hlater : cs.getLast? = some '\\' → rest.head? ≠ some quote := by
        intro hlast
        refine hnext ?_
        rw [List.getLast?_cons, hlast]
        rfl
      have ih := ih hcs.of_cons hlater
      by_cases hc : c = quote
      · subst hc
        rw [double_cons_self, List.cons_append, List.cons_append, closingLength?_doubled ih]
        simp only [List.length_cons, Option.some.injEq]
        omega
      · have hescape : c = '\\' → (double quote cs ++ rest).head? ≠ some quote := by
          rintro rfl
          cases cs with
          | nil => exact hnext rfl
          | cons d cs =>
              have hd := hcs.ne_of_cons
              rw [double_cons_of_ne hd]
              exact fun hhead => hd (Option.some.inj hhead)
        rw [double_cons_of_ne hc, List.cons_append, closingLength?_cons hc hescape, ih]
        simp only [List.length_cons, Option.map_some, Option.some.injEq]
        omega

/-- A quote behind a backslash closes the text if no other quote does. -/
theorem closingLength?_escaped_last (hquote : quote ≠ '\\')
    (h : closingLength? quote true rest = none) :
    closingLength? quote true ('\\' :: quote :: rest) = some 2 := by
  rw [closingLength?.eq_def]
  simp [Ne.symm hquote, h]

end Closing

/-- What stands between quotes, each quote in it written twice, ends at the quote before the
rest: no quote in it is behind a backslash, none follows, and if its last character is a
backslash there is no other quote to end it. -/
structure Encloses (quote : Char) (cs rest : List Char) : Prop where
  unescaped : Unescaped quote cs
  closed : rest.head? ≠ some quote
  last : cs.getLast? = some '\\' → quote ∉ rest

instance (quote : Char) (cs rest : List Char) : Decidable (Encloses quote cs rest) :=
  decidable_of_iff
    (¬ ['\\', quote] <:+: cs ∧ rest.head? ≠ some quote ∧
      (cs.getLast? = some '\\' → quote ∉ rest))
    ⟨fun ⟨h₁, h₂, h₃⟩ => ⟨h₁, h₂, h₃⟩, fun h => ⟨h.unescaped, h.closed, h.last⟩⟩

theorem Encloses.closingLength? (h : Encloses quote cs rest) (hquote : quote ≠ '\\') :
    closingLength? quote true (double quote cs ++ quote :: rest) =
      some ((double quote cs).length + 1) := by
  by_cases hlast : cs.getLast? = some '\\'
  · obtain ⟨front, rfl⟩ := List.getLast?_eq_some_iff.mp hlast
    have hfront : Unescaped quote front :=
      fun hwithin => h.unescaped (hwithin.trans (List.prefix_append front ['\\']).isInfix)
    have hnone : JsonQuery.Sql.closingLength? quote true rest = none :=
      closingLength?_eq_none (h.last hlast)
    have hescaped := closingLength?_escaped_last hquote hnone
    rw [double_append, double_cons_of_ne (Ne.symm hquote), double_nil, List.append_assoc,
      List.cons_append, List.nil_append, closingLength?_double_append hfront _ hescaped,
      List.length_append]
    · rfl
    · exact fun _ hhead => hquote (Option.some.inj hhead).symm
  · exact closingLength?_double_append h.unescaped (absurd · hlast)
      (closingLength?_quote h.closed)

/-- What an enclosed text makes is one lexeme. -/
theorem Encloses.quotedLength? (h : Encloses quote cs rest) (hquote : quote ≠ '\\') :
    quotedLength? quote true (enquote quote cs ++ rest) = some (enquote quote cs).length := by
  rw [enquote, List.cons_append, List.append_assoc, List.cons_append, List.nil_append,
    JsonQuery.Sql.quotedLength?, if_pos BEq.rfl, h.closingLength? hquote]
  simp

/-- The two quotes behind whose texts backslashes have a meaning. -/
def IsQuote (c : Char) : Prop := c = '\'' ∨ c = '"'

instance (c : Char) : Decidable (IsQuote c) := inferInstanceAs (Decidable (c = '\'' ∨ c = '"'))

theorem IsQuote.ne_backslash (h : IsQuote quote) : quote ≠ '\\' := by
  rcases h with rfl | rfl <;> decide

/-- A text behind a quote is what its closing quote says. -/
theorem classify_quoted {before : Option Char} {n : Nat} (hquote : IsQuote quote)
    (h : quotedLength? quote true (quote :: rest) = some n) :
    classify before (quote :: rest) = (.quoted, n) := by
  rcases hquote with rfl | rfl
  · unfold classify rules
    simp only [List.findSome?]
    rw [h]
    rfl
  · unfold classify rules
    simp only [List.findSome?]
    rw [h]
    rfl

theorem enquote_ne_nil : enquote quote cs ≠ [] := List.cons_ne_nil _ _

theorem Encloses.lexemesAt {before : Option Char} (hquote : IsQuote quote)
    (h : Encloses quote cs rest) (start : Nat) :
    lexemesAt before start (enquote quote cs ++ rest) =
      ⟨.quoted, enquote quote cs, start⟩ ::
        lexemesAt (some quote) (start + (enquote quote cs).length) rest := by
  have hlast : (enquote quote cs).getLast? = some quote := by
    rw [enquote, ← List.cons_append, List.getLast?_concat]
  have hlength := h.quotedLength? hquote.ne_backslash
  rw [lexemesAt_append enquote_ne_nil (classify_quoted hquote hlength),
    hlast]

/-- The token of a text between quotes. -/
def tokenOf (quote : Char) (cs : List Char) (start : Nat) : Token :=
  ⟨if quote = '\'' then .string else .quotedName, String.ofList cs, start,
    start + (enquote quote cs).length⟩

theorem quotedToken_enquote (start : Nat) :
    quotedToken (enquote quote cs) start = tokenOf quote cs start := by
  rw [quotedToken, unquote_enquote, tokenOf]
  congr 1
  simp [enquote]

theorem Encloses.tokensAt {before : Option Char} (hquote : IsQuote quote)
    (h : Encloses quote cs rest) (start : Nat) :
    tokensAt before start (enquote quote cs ++ rest) =
      tokenOf quote cs start ::
        tokensAt (some quote) (start + (enquote quote cs).length) rest := by
  rw [JsonQuery.Sql.tokensAt, h.lexemesAt hquote, List.flatMap_cons, Lexeme.tokens]
  dsimp only
  rw [quotedToken_enquote]
  rfl

/-- A text between quotes at the place of a lexeme is the token there. -/
theorem Encloses.mem_tokensAt {before : Option Char} {start : Nat} {front text : List Char}
    (hquote : IsQuote quote) (h : Encloses quote cs rest)
    (htext : text = front ++ (enquote quote cs ++ rest))
    (hlexeme : ∃ l ∈ JsonQuery.Sql.lexemesAt before start text, l.start = start + front.length) :
    tokenOf quote cs (start + front.length) ∈ JsonQuery.Sql.tokensAt before start text := by
  obtain ⟨l, hl, hstart⟩ := hlexeme
  obtain ⟨behind, front', rest', htext', -, hstart', hfirst⟩ := eq_firstLexeme_of_mem hl
  have hlength : front'.length = front.length := by omega
  obtain ⟨-, rfl⟩ := List.append_inj (htext'.symm.trans htext) hlength
  have hclassify : classify behind (enquote quote cs ++ rest) =
      (.quoted, (enquote quote cs).length) :=
    classify_quoted hquote (h.quotedLength? hquote.ne_backslash)
  have hpositive : max 1 (enquote quote cs).length = (enquote quote cs).length :=
    Nat.max_eq_right (List.length_pos_iff.mpr enquote_ne_nil)
  rw [firstLexeme, hclassify, hpositive, List.take_left, hstart] at hfirst
  refine List.mem_flatMap.mpr ⟨l, hl, ?_⟩
  rw [hfirst, Lexeme.tokens, List.mem_singleton]
  exact (quotedToken_enquote _).symm

section Broken

theorem unescaped_cons_iff {c : Char} :
    Unescaped quote (c :: cs) ↔ ¬ (c = '\\' ∧ cs.head? = some quote) ∧ Unescaped quote cs := by
  have hfront : ['\\', quote] <+: c :: cs ↔ c = '\\' ∧ cs.head? = some quote := by
    rw [List.cons_prefix_cons, eq_comm]
    cases cs with
    | nil => simp
    | cons d cs => simp [List.cons_prefix_cons, eq_comm]
  rw [Unescaped, Unescaped, List.infix_cons_iff, hfront, not_or]

theorem exists_replicate (quote : Char) (cs : List Char) :
    ∃ m back, cs = List.replicate m quote ++ back ∧ back.head? ≠ some quote := by
  induction cs with
  | nil => exact ⟨0, [], rfl, Option.some_ne_none quote ∘ Eq.symm⟩
  | cons c cs ih =>
      by_cases hc : c = quote
      · obtain ⟨m, back, hcs, hback⟩ := ih
        exact ⟨m + 1, back, by rw [hc, hcs]; rfl, hback⟩
      · exact ⟨0, c :: cs, rfl, fun hhead => hc (Option.some.inj hhead)⟩

/-- A text in which a quote stands behind a backslash, cut at the first such place: behind the
backslash and all quotes that follow it. -/
theorem exists_escape (h : ¬ Unescaped quote cs) :
    ∃ front m back, cs = front ++ '\\' :: (List.replicate (m + 1) quote ++ back) ∧
      Unescaped quote front ∧ back.head? ≠ some quote := by
  induction cs with
  | nil => exact absurd (fun hwithin => by simpa using List.eq_nil_of_infix_nil hwithin) h
  | cons c cs ih =>
      rw [unescaped_cons_iff] at h
      by_cases hhere : c = '\\' ∧ cs.head? = some quote
      · obtain ⟨rfl, hhead⟩ := hhere
        obtain ⟨cs, rfl⟩ := List.head?_eq_some_iff.mp hhead
        obtain ⟨m, back, rfl, hback⟩ := exists_replicate quote cs
        exact ⟨[], m, back, rfl, by simp [Unescaped], hback⟩
      · obtain ⟨front, m, back, rfl, hfront, hback⟩ := ih fun hlater => h ⟨hhere, hlater⟩
        refine ⟨c :: front, m, back, rfl, unescaped_cons_iff.mpr ⟨?_, hfront⟩, hback⟩
        rintro ⟨hc, hhead⟩
        refine hhere ⟨hc, ?_⟩
        rw [List.head?_append, hhead]
        rfl

/-- Of an odd number of quotes the last one ends the text, if one quote would. -/
theorem closingLength?_replicate (m : Nat)
    (h : closingLength? quote true (quote :: rest) = some 1) :
    closingLength? quote true (List.replicate (2 * m + 1) quote ++ rest) = some (2 * m + 1) := by
  induction m with
  | zero => exact h
  | succ m ih => exact closingLength?_doubled ih

theorem undouble_replicate (m : Nat) :
    undouble quote (List.replicate (2 * m + 1) quote) = List.replicate (m + 1) quote := by
  induction m with
  | zero => rfl
  | succ m ih =>
      have hpair : List.replicate (2 * (m + 1) + 1) quote =
          quote :: quote :: List.replicate (2 * m + 1) quote := rfl
      rw [hpair, undouble, BEq.rfl, Bool.and_self, if_pos rfl, ih]
      rfl

/-- The text of a quoted lexeme that ends early: it goes on behind a backslash and an odd number
of quotes. -/
def brokenRaw (quote : Char) (front : List Char) (m : Nat) : List Char :=
  quote :: (double quote front ++ '\\' :: quote :: List.replicate (2 * m + 1) quote)

/-- What is read of a text that ends early: the backslash and the quotes behind it, and nothing
of what follows them. -/
theorem unquote_brokenRaw {front : List Char} (hquote : quote ≠ '\\') (m : Nat) :
    unquote (brokenRaw quote front m) = front ++ '\\' :: List.replicate (m + 1) quote := by
  have hraw : brokenRaw quote front m =
      quote :: (double quote front ++ '\\' :: List.replicate (2 * m + 1) quote ++ [quote]) := by
    have hpower : quote :: List.replicate (2 * m + 1) quote =
        List.replicate (2 * m + 1) quote ++ [quote] := by
      rw [← List.replicate_succ, List.replicate_succ']
    rw [brokenRaw, hpower, List.append_assoc, List.cons_append]
  rw [hraw, unquote, List.getLast?_concat, BEq.rfl, if_pos rfl, List.dropLast_concat,
    undouble_double_append, undouble_cons_of_ne (Ne.symm hquote), undouble_replicate]

theorem double_replicate (n : Nat) :
    double quote (List.replicate n quote) = List.replicate (2 * n) quote := by
  induction n with
  | zero => rfl
  | succ n ih => rw [List.replicate_succ, double_cons_self, ih]; rfl

theorem enquote_broken {front back : List Char} (hquote : quote ≠ '\\') (m : Nat) :
    enquote quote (front ++ '\\' :: (List.replicate (m + 1) quote ++ back)) =
      brokenRaw quote front m ++ (double quote back ++ [quote]) := by
  rw [enquote, double_append, double_cons_of_ne (Ne.symm hquote), double_append, double_replicate,
    brokenRaw]
  simp [List.replicate_succ, Nat.mul_add]

/-- The quotes behind the backslash are read in pairs with the escaped one left over, so the
text ends at the last of them. -/
theorem quotedLength?_broken {front back : List Char} (hquote : quote ≠ '\\')
    (hfront : Unescaped quote front) (hback : back.head? ≠ some quote) (m : Nat) :
    quotedLength? quote true (brokenRaw quote front m ++ (double quote back ++ [quote])) =
      some (brokenRaw quote front m).length := by
  have hone : closingLength? quote true (quote :: (double quote back ++ [quote])) = some 1 := by
    cases back with
    | nil => simp [closingLength?.eq_def]
    | cons d back =>
        have hd : d ≠ quote := fun hd => hback (congrArg some hd)
        rw [double_cons_of_ne hd]
        exact closingLength?_quote fun hhead => hd (Option.some.inj hhead)
  have hescaped := closingLength?_escaped hquote (closingLength?_replicate m hone)
  rw [brokenRaw, List.cons_append, quotedLength?, if_pos BEq.rfl, List.append_assoc,
    List.cons_append, List.cons_append, closingLength?_double_append hfront _ hescaped]
  · simp
  · exact fun _ hhead => hquote (Option.some.inj hhead).symm

end Broken

end JsonQuery.Sql
