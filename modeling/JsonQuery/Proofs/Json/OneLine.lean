import JsonQuery.Proofs.Json.Ascii
import Mathlib.Tactic

/-!
Values through their text on one line, whatever white space stands behind its separators. Each part
is read where it stands, and what stands behind it is left. What is read is the value itself but
for three things: in a text of ASCII halves that stand side by side are joined, what is no number
is what the text spells, and of the members under one key the last one counts.
-/

namespace JsonQuery

open Json

namespace Json

/-- A string as it is read from its text. -/
def rejoined (asciiOnly : Bool) (s : String) : String :=
  if asciiOnly then String.ofList (joinHalves s.toList) else s

end Json

/-- A number as it is read from its text: what is no number is spelled there. -/
def Binary64.spelled : Binary64 → Binary64
  | .nan => .spelledNan
  | x => x

mutual

/-- A value as it is read from its text. -/
def Value.reread (asciiOnly : Bool) : Value → Value
  | .number (.float x) => .ofFloat x.spelled
  | .string s => .string (rejoined asciiOnly s)
  | .array items => .array (rereadAll asciiOnly items)
  | .object members => .object (Record.putAll [] (rereadMembers asciiOnly members))
  | .number (.int n) => .ofInt n
  | .bool b => .bool b
  | .null => .null

def rereadAll (asciiOnly : Bool) : List Value → List Value
  | [] => []
  | item :: items => item.reread asciiOnly :: rereadAll asciiOnly items

def rereadMembers (asciiOnly : Bool) : List (String × Value) → List (String × Value)
  | [] => []
  | (key, item) :: members =>
      (rejoined asciiOnly key, item.reread asciiOnly) :: rereadMembers asciiOnly members

end

mutual

/-- A value whose text can be read: every integer has few enough digits, and every float is read
back. -/
def Value.IsLegible : Value → Prop
  | .number (.int n) => Value.integerFits n = true
  | .number (.float x) => ReadsBack x.spelled
  | .array items => AllLegible items
  | .object members => MembersLegible members
  | .null | .bool _ | .string _ => True

def AllLegible : List Value → Prop
  | [] => True
  | item :: items => item.IsLegible ∧ AllLegible items

def MembersLegible : List (String × Value) → Prop
  | [] => True
  | (_, item) :: members => item.IsLegible ∧ MembersLegible members

end

namespace Json

section OneLine

variable {style : Style} {depth : Nat}

/-- A style that keeps a text on one line, with white space behind separators at most. -/
structure Style.OnOneLine (style : Style) : Prop where
  together : style.indent = none
  items : ∃ blanks, style.itemSeparator.toList = ',' :: blanks ∧ ∀ c ∈ blanks, isSpace c = true
  keys : ∃ blanks, style.keySeparator.toList = ':' :: blanks ∧ ∀ c ∈ blanks, isSpace c = true

theorem Style.compact_onOneLine : Style.compact.OnOneLine where
  together := rfl
  items := ⟨[], rfl, List.forall_mem_nil _⟩
  keys := ⟨[], rfl, List.forall_mem_nil _⟩

theorem Style.asciiLine_onOneLine : Style.asciiLine.OnOneLine where
  together := rfl
  items := ⟨[' '], rfl, by decide⟩
  keys := ⟨[' '], rfl, by decide⟩

theorem skipSpace_blanks {blanks : List Char} (h : ∀ c ∈ blanks, isSpace c = true)
    (cs : List Char) : skipSpace (blanks ++ cs) = skipSpace cs := List.dropWhile_append_of_pos h

/-- The items of an array as they stand between its brackets. -/
def itemTexts (style : Style) (depth : Nat) : List Value → List Char
  | [] => []
  | item :: items => write style depth item ++ writeItems style depth items

/-- The members of an object as they stand between its braces. -/
def memberTexts (style : Style) (depth : Nat) : List (String × Value) → List Char
  | [] => []
  | (key, item) :: members =>
      quote style.asciiOnly key ++ (style.keySeparator.toList ++
        (write style depth item ++ writeMembers style depth members))

/-- Nothing is spread over lines. -/
theorem Style.OnOneLine.lineBreak (h : style.OnOneLine) (depth : Nat) :
    Json.lineBreak style depth = [] := by
  rw [Json.lineBreak, h.together]

theorem Style.OnOneLine.writeItems_cons (h : style.OnOneLine) (item : Value) (items : List Value) :
    writeItems style depth (item :: items) =
      style.itemSeparator.toList ++ itemTexts style depth (item :: items) := by
  rw [writeItems, itemTexts, h.lineBreak, List.append_nil, List.append_assoc]

theorem Style.OnOneLine.writeMembers_cons (h : style.OnOneLine) (key : String) (item : Value)
    (members : List (String × Value)) :
    writeMembers style depth ((key, item) :: members) =
      style.itemSeparator.toList ++ memberTexts style depth ((key, item) :: members) := by
  simp only [writeMembers, memberTexts, h.lineBreak, List.append_nil, List.append_assoc]

theorem Style.OnOneLine.write_array (h : style.OnOneLine) (depth : Nat) (item : Value)
    (items : List Value) (rest : List Char) :
    write style depth (.array (item :: items)) ++ rest =
      '[' :: (itemTexts style (depth + 1) (item :: items) ++ ']' :: rest) := by
  simp only [write, itemTexts, h.lineBreak, List.append_nil, List.nil_append, List.append_assoc,
    List.cons_append]

theorem Style.OnOneLine.write_object (h : style.OnOneLine) (depth : Nat) (key : String)
    (item : Value) (members : List (String × Value)) (rest : List Char) :
    write style depth (.object ((key, item) :: members)) ++ rest =
      '\x7b' :: (memberTexts style (depth + 1) ((key, item) :: members) ++ '\x7d' :: rest) := by
  simp only [write, memberTexts, h.lineBreak, List.append_nil, List.nil_append, List.append_assoc,
    List.cons_append]

/-- What a value can begin with. -/
def valueMarks : List Char := numericMarks ++ ['N', 'I', '"', '[', '\x7b', 'n', 't', 'f']

theorem valueMarks_facts : ∀ c ∈ valueMarks, isSpace c = false ∧ c ≠ ']' ∧ c ≠ '\uFEFF' := by
  decide

theorem exists_head_write (style : Style) (v : Value) (depth : Nat) :
    ∃ c cs, write style depth v = c :: cs ∧ c ∈ valueMarks := by
  have hmark {c : Char} {cs : List Char} (hc : c ∈ valueMarks) :
      ∃ d ds, c :: cs = d :: ds ∧ d ∈ valueMarks := ⟨c, cs, rfl, hc⟩
  cases v with
  | null => exact hmark (by decide)
  | bool b => cases b <;> exact hmark (by decide)
  | number n =>
      obtain ⟨c, cs, hn, hc⟩ := exists_head_numberText n
      have hsub : ∀ c ∈ numericMarks ++ ['N', 'I'], c ∈ valueMarks := by decide
      exact ⟨c, cs, by rw [write, hn], hsub c hc⟩
  | string s =>
      rw [write]
      exact hmark (by decide)
  | array items => cases items <;> exact hmark (by decide)
  | object members => cases members <;> exact hmark (by decide)

/-- There is no white space before a value. -/
theorem skipSpace_write (style : Style) (v : Value) (depth : Nat) (rest : List Char) :
    skipSpace (write style depth v ++ rest) = write style depth v ++ rest := by
  obtain ⟨c, cs, hwrite, hc⟩ := exists_head_write style v depth
  rw [hwrite, List.cons_append, skipSpace, List.dropWhile_cons, (valueMarks_facts c hc).1,
    if_neg Bool.false_ne_true]

end OneLine

section Reading

variable {style : Style} {depth fuel : Nat} {rest : List Char}

theorem delimited_cons {c : Char} (hc : c ∈ [',', ']', '\x7d']) : Delimited (c :: rest) :=
  fun _ hd => Option.some.inj hd ▸ hc

theorem delimited_nil : Delimited [] := fun c hc => absurd hc (Option.not_mem_none c)

theorem Style.OnOneLine.delimited (h : style.OnOneLine) :
    Delimited (style.itemSeparator.toList ++ rest) := by
  obtain ⟨blanks, hblanks, -⟩ := h.items
  rw [hblanks]
  exact delimited_cons (by decide)

theorem quote_head (asciiOnly : Bool) (s : String) (rest : List Char) :
    ∃ behind, quote asciiOnly s ++ rest = '"' :: behind := ⟨_, rfl⟩

/-- A string is read from its text, and what stands behind it is left. -/
theorem string_quote_rejoined (asciiOnly : Bool) (s : String) (rest : List Char) :
    string (quote asciiOnly s ++ rest) = .ok (rejoined asciiOnly s, rest) := by
  cases asciiOnly with
  | false => exact string_quote s rest
  | true => exact string_quote_ascii s rest

/-- A number is read from its text, and what stands behind it is left. -/
theorem value_write_number {n : Number} (hn : (Value.number n).IsLegible) (hrest : Delimited rest) :
    value (fuel + 1) (write style depth (.number n) ++ rest) =
      .ok ((Value.number n).reread style.asciiOnly, rest) := by
  obtain ⟨c, cs, htext, hc⟩ := exists_head_numberText n
  have hother : ∀ c ∈ numericMarks ++ ['N', 'I'], c ≠ '"' ∧ c ≠ '[' ∧ c ≠ '\x7b' := by decide
  obtain ⟨hquote, hbracket, hbrace⟩ := hother c hc
  rw [write, htext, List.cons_append, value_scalar fuel hquote hbracket hbrace,
    ← List.cons_append, ← htext]
  cases n with
  | int n =>
      rw [Value.IsLegible] at hn
      exact hrest.scalar_append (beginsNumeric_toString n) (scalar_toString hn) nofun
  | float x =>
      rw [Value.IsLegible] at hn
      have hspelled : floatText x = floatText x.spelled := by cases x <;> rfl
      rw [numberText, hspelled]
      exact hn.scalar_append hrest

theorem value_write_string (s : String) (rest : List Char) :
    value (fuel + 1) (write style depth (.string s) ++ rest) =
      .ok ((Value.string s).reread style.asciiOnly, rest) := by
  obtain ⟨behind, hbehind⟩ := quote_head style.asciiOnly s rest
  rw [write, hbehind, value, ← hbehind, string_quote_rejoined]
  rfl

theorem exists_head_itemTexts (style : Style) (item : Value) (items : List Value) (depth : Nat) :
    ∃ c cs, itemTexts style depth (item :: items) = c :: cs ∧ c ∈ valueMarks := by
  obtain ⟨c, cs, hwrite, hc⟩ := exists_head_write style item depth
  exact ⟨c, _, by rw [itemTexts, hwrite, List.cons_append], hc⟩

theorem memberTexts_append (style : Style) (key : String) (item : Value)
    (members : List (String × Value)) (depth : Nat) (rest : List Char) :
    memberTexts style depth ((key, item) :: members) ++ rest =
      quote style.asciiOnly key ++ (style.keySeparator.toList ++
        (write style depth item ++ (writeMembers style depth members ++ rest))) := by
  simp only [memberTexts, List.append_assoc]

/-- Behind the bracket of an array that is not empty its items are read. -/
theorem Style.OnOneLine.value_array (h : style.OnOneLine) (item : Value) (items : List Value)
    (depth fuel : Nat) (rest : List Char) :
    value (fuel + 1) (write style depth (.array (item :: items)) ++ rest) =
      (Json.items fuel (itemTexts style (depth + 1) (item :: items) ++ ']' :: rest)).map
        fun read => (.array read.1, read.2) := by
  obtain ⟨c, cs, htexts, hc⟩ := exists_head_itemTexts style item items (depth + 1)
  obtain ⟨hspace, hbracket, -⟩ := valueMarks_facts c hc
  rw [h.write_array, value, htexts, List.cons_append, skipSpace, List.dropWhile_cons, hspace,
    if_neg Bool.false_ne_true]
  split
  · rename_i hclosed
    exact absurd (List.cons_eq_cons.mp hclosed).1 hbracket
  · rfl

/-- Behind the brace of an object that is not empty its members are read. -/
theorem Style.OnOneLine.value_object (h : style.OnOneLine) (key : String) (item : Value)
    (members : List (String × Value)) (depth fuel : Nat) (rest : List Char) :
    value (fuel + 1) (write style depth (.object ((key, item) :: members)) ++ rest) =
      (Json.members fuel
        (memberTexts style (depth + 1) ((key, item) :: members) ++ '\x7d' :: rest)).map
        fun read => (.object (Record.putAll [] read.1), read.2) := by
  rw [h.write_object, value, memberTexts_append]
  rfl

theorem skipSpace_itemTexts (style : Style) (item : Value) (items : List Value) (depth : Nat)
    (rest : List Char) :
    skipSpace (itemTexts style depth (item :: items) ++ rest) =
      itemTexts style depth (item :: items) ++ rest := by
  rw [itemTexts, List.append_assoc, skipSpace_write]

/-- An item is read first, and then the items behind it if there are any. -/
theorem Style.OnOneLine.items_cons (h : style.OnOneLine) {item : Value} {items : List Value}
    {found : Value} {others : List Value} {depth fuel : Nat} {rest : List Char}
    (hitem : ∀ behind, Delimited behind →
      value fuel (write style depth item ++ behind) = .ok (found, behind))
    (hnone : items = [] → others = [])
    (hitems : items ≠ [] →
      Json.items fuel (itemTexts style depth items ++ ']' :: rest) = .ok (others, rest)) :
    Json.items (fuel + 1) (itemTexts style depth (item :: items) ++ ']' :: rest) =
      .ok (found :: others, rest) := by
  rw [itemTexts, List.append_assoc, Json.items]
  cases items with
  | nil =>
      rw [writeItems, List.nil_append, hitem _ (delimited_cons (by decide)), Outcome.ok_bind,
        hnone rfl]
      rfl
  | cons next more =>
      obtain ⟨blanks, hseparator, hblanks⟩ := h.items
      rw [h.writeItems_cons, List.append_assoc, hitem _ h.delimited, Outcome.ok_bind, hseparator,
        List.cons_append]
      change (Json.items fuel
        (skipSpace (blanks ++ (itemTexts style depth (next :: more) ++ ']' :: rest))) >>=
          fun read => pure (found :: read.1, read.2)) = _
      rw [skipSpace_blanks hblanks, skipSpace_itemTexts, hitems (List.cons_ne_nil _ _)]
      rfl

theorem skipSpace_memberTexts (style : Style) (member : String × Value)
    (members : List (String × Value)) (depth : Nat) (rest : List Char) :
    skipSpace (memberTexts style depth (member :: members) ++ rest) =
      memberTexts style depth (member :: members) ++ rest := by
  rw [memberTexts_append]
  rfl

/-- A member is read by its key and its value, and then what stands behind them. -/
theorem Style.OnOneLine.members_quote (h : style.OnOneLine) (key : String) (item : Value)
    (depth fuel : Nat) (behind : List Char) :
    Json.members (fuel + 1) (quote style.asciiOnly key ++
        (style.keySeparator.toList ++ (write style depth item ++ behind))) =
      (do
        let (item, rest) ← value fuel (write style depth item ++ behind)
        match skipSpace rest with
        | '\x7d' :: rest => return ([(rejoined style.asciiOnly key, item)], rest)
        | ',' :: rest =>
            let (others, rest) ← Json.members fuel (skipSpace rest)
            return ((rejoined style.asciiOnly key, item) :: others, rest)
        | rest => .error (.malformed .expectedComma rest)) := by
  obtain ⟨blanks, hseparator, hblanks⟩ := h.keys
  have hskip : skipSpace (blanks ++ (write style depth item ++ behind)) =
      write style depth item ++ behind := by
    rw [skipSpace_blanks hblanks, skipSpace_write]
  obtain ⟨quoted, hquoted⟩ := quote_head style.asciiOnly key
    (style.keySeparator.toList ++ (write style depth item ++ behind))
  rw [hquoted, Json.members, ← hquoted, string_quote_rejoined, Outcome.ok_bind, hseparator]
  exact congrArg (fun cs => value fuel cs >>= _) hskip

/-- A member is read first, and then the members behind it if there are any. -/
theorem Style.OnOneLine.members_cons (h : style.OnOneLine) {key : String} {item found : Value}
    {members others : List (String × Value)} {depth fuel : Nat} {rest : List Char}
    (hitem : ∀ behind, Delimited behind →
      value fuel (write style depth item ++ behind) = .ok (found, behind))
    (hnone : members = [] → others = [])
    (hmembers : members ≠ [] →
      Json.members fuel (memberTexts style depth members ++ '\x7d' :: rest) =
        .ok (others, rest)) :
    Json.members (fuel + 1) (memberTexts style depth ((key, item) :: members) ++ '\x7d' :: rest) =
      .ok ((rejoined style.asciiOnly key, found) :: others, rest) := by
  rw [memberTexts_append, h.members_quote]
  cases members with
  | nil =>
      rw [writeMembers, List.nil_append, hitem _ (delimited_cons (by decide)), Outcome.ok_bind,
        hnone rfl]
      rfl
  | cons next more =>
      obtain ⟨blanks, hseparator, hblanks⟩ := h.items
      rw [h.writeMembers_cons, List.append_assoc, hitem _ h.delimited, Outcome.ok_bind, hseparator,
        List.cons_append]
      change (Json.members fuel
        (skipSpace (blanks ++ (memberTexts style depth (next :: more) ++ '\x7d' :: rest))) >>=
          fun read => pure ((rejoined style.asciiOnly key, found) :: read.1, read.2)) = _
      rw [skipSpace_blanks hblanks, skipSpace_memberTexts, hmembers (List.cons_ne_nil _ _)]
      rfl

mutual

/-- A value is read from what is written for it, and what stands behind it is left. -/
theorem Style.OnOneLine.value_write (h : style.OnOneLine) (v : Value) {depth fuel : Nat}
    {rest : List Char} (hv : v.IsLegible) (hfuel : (write style depth v).length ≤ fuel)
    (hrest : Delimited rest) :
    value fuel (write style depth v ++ rest) = .ok (v.reread style.asciiOnly, rest) := by
  obtain ⟨fuel, rfl⟩ : ∃ more, fuel = more + 1 := by
    obtain ⟨c, cs, hwrite, -⟩ := exists_head_write style v depth
    rw [hwrite, List.length_cons] at hfuel
    exact Nat.exists_eq_succ_of_ne_zero (by omega)
  match v with
  | .null => rfl
  | .bool b => cases b <;> rfl
  | .number n => exact value_write_number hv hrest
  | .string s => exact value_write_string s rest
  | .array [] => rfl
  | .array (item :: items) =>
      rw [Value.IsLegible] at hv
      have hlength := congrArg List.length (h.write_array depth item items [])
      rw [List.append_nil, List.length_cons, List.length_append, List.length_singleton] at hlength
      rw [h.value_array, h.items_write (item :: items) (List.cons_ne_nil _ _) hv (by omega)]
      rfl
  | .object [] => rfl
  | .object ((key, item) :: members) =>
      rw [Value.IsLegible] at hv
      have hlength := congrArg List.length (h.write_object depth key item members [])
      rw [List.append_nil, List.length_cons, List.length_append, List.length_singleton] at hlength
      rw [h.value_object,
        h.members_write ((key, item) :: members) (List.cons_ne_nil _ _) hv (by omega)]
      rfl

/-- The items of an array are read up to its closing bracket. -/
theorem Style.OnOneLine.items_write (h : style.OnOneLine) (items : List Value) {depth fuel : Nat}
    (hne : items ≠ []) (hitems : AllLegible items)
    (hfuel : (itemTexts style depth items).length < fuel) (rest : List Char) :
    Json.items fuel (itemTexts style depth items ++ ']' :: rest) =
      .ok (rereadAll style.asciiOnly items, rest) := by
  match items with
  | [] => exact absurd rfl hne
  | item :: items =>
      obtain ⟨fuel, rfl⟩ := Nat.exists_eq_succ_of_ne_zero (Nat.ne_zero_of_lt hfuel)
      rw [AllLegible] at hitems
      rw [itemTexts, List.length_append] at hfuel
      refine h.items_cons (fun behind => h.value_write item hitems.1 (by omega))
        (fun hnone => by rw [hnone, rereadAll]) fun hnext => ?_
      refine h.items_write items hnext hitems.2 ?_ rest
      obtain ⟨next, more, rfl⟩ := List.exists_cons_of_ne_nil hnext
      obtain ⟨blanks, hseparator, -⟩ := h.items
      rw [h.writeItems_cons, hseparator, List.length_append, List.length_cons] at hfuel
      omega

/-- The members of an object are read up to its closing brace. -/
theorem Style.OnOneLine.members_write (h : style.OnOneLine) (members : List (String × Value))
    {depth fuel : Nat} (hne : members ≠ []) (hmembers : MembersLegible members)
    (hfuel : (memberTexts style depth members).length < fuel) (rest : List Char) :
    Json.members fuel (memberTexts style depth members ++ '\x7d' :: rest) =
      .ok (rereadMembers style.asciiOnly members, rest) := by
  match members with
  | [] => exact absurd rfl hne
  | (key, item) :: members =>
      obtain ⟨fuel, rfl⟩ := Nat.exists_eq_succ_of_ne_zero (Nat.ne_zero_of_lt hfuel)
      rw [MembersLegible] at hmembers
      rw [memberTexts, List.length_append, List.length_append, List.length_append] at hfuel
      refine h.members_cons (fun behind => h.value_write item hmembers.1 (by omega))
        (fun hnone => by rw [hnone, rereadMembers]) fun hnext => ?_
      refine h.members_write members hnext hmembers.2 ?_ rest
      obtain ⟨⟨next, value⟩, more, rfl⟩ := List.exists_cons_of_ne_nil hnext
      obtain ⟨blanks, hseparator, -⟩ := h.items
      rw [h.writeMembers_cons, hseparator, List.length_append, List.length_cons] at hfuel
      omega

end

end Reading

end Json

/-- A value is read from its text on one line. -/
theorem Value.read_print {style : Style} (h : style.OnOneLine) {v : Value} (hv : v.IsLegible) :
    Json.read (Json.print style v) = .ok (v.reread style.asciiOnly) := by
  obtain ⟨c, cs, hwrite, hc⟩ := exists_head_write style v 0
  obtain ⟨-, -, hmark⟩ := valueMarks_facts c hc
  rw [read_eq_ok_iff, Json.print, String.toList_ofList]
  apply readChars_of_value
  · rw [hwrite]
    exact fun hfirst => hmark (Option.some.inj hfirst)
  · have hfuel : (write style 0 v).length ≤ 2 * (write style 0 v).length + 2 := by omega
    have hread := h.value_write v hv hfuel delimited_nil
    have hskip := skipSpace_write style v 0 []
    rw [List.append_nil] at hread hskip
    rw [hskip, hread]

end JsonQuery
