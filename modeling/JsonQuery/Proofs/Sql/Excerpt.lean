import JsonQuery.Proofs.Sql.Piece
import Mathlib.Tactic

/-!
Parts of a text made of pieces. The tokens of a part depend on where it stands by their places
only, and what is read of it does not change when other text follows it, as long as its last
piece still ends there. Tokens that stand side by side in a text are those of a part of it that
neither begins nor ends with a blank.
-/

namespace JsonQuery.Sql

open Text

/-- The token as it stands further behind in a text. -/
def Token.moved (d : Nat) (t : Token) : Token := { t with start := t.start + d, stop := t.stop + d }

/-- Whether the piece makes no token. -/
def Piece.isSpace : Piece → Bool
  | .blank _ => true
  | _ => false

section Places

variable {ps : List Piece} {p : Piece} {start : Nat}

theorem Piece.tokens_add (start d : Nat) :
    p.tokens (start + d) = (p.tokens start).map (Token.moved d) := by
  have hstop (n : Nat) : start + d + n = start + n + d := Nat.add_right_comm _ _ _
  cases p <;> simp [Piece.tokens, tokenOf, Token.moved, hstop]

theorem place_add (start d : Nat) :
    place (start + d) ps = (place start ps).map (Token.moved d) := by
  induction ps generalizing start with
  | nil => rfl
  | cons p ps ih =>
      rw [place, place, List.map_append, Piece.tokens_add, Nat.add_right_comm, ih]

theorem place_eq_map (start : Nat) : place start ps = (place 0 ps).map (Token.moved start) := by
  rw [← place_add, Nat.zero_add]

/-- A piece that is no blank makes one token, from its first to its last character. -/
theorem Piece.tokens_of_not_space (start : Nat) (h : p.isSpace = false) :
    ∃ t, p.tokens start = [t] ∧ t.start = start ∧ t.stop = start + p.raw.length := by
  cases p with
  | blank c => exact absurd h.symm Bool.false_ne_true
  | word | number | sign | operator | quoted => exact ⟨_, rfl, rfl, rfl⟩

theorem exists_piece_of_mem {t : Token} (h : t ∈ place start ps) :
    ∃ p ∈ ps, ∃ s, p.tokens s = [t] := by
  induction ps generalizing start with
  | nil => exact absurd h List.not_mem_nil
  | cons p ps ih =>
      rcases List.mem_append.mp h with hfirst | hlater
      · refine ⟨p, List.mem_cons_self, start, ?_⟩
        cases p with
        | blank c => exact absurd hfirst List.not_mem_nil
        | word | number | sign | operator | quoted =>
            exact (List.mem_singleton.mp hfirst).symm ▸ rfl
      · obtain ⟨q, hq, htokens⟩ := ih hlater
        exact ⟨q, List.mem_cons_of_mem _ hq, htokens⟩

theorem Piece.eq_star {t : Token} (h : p.tokens start = [t]) (ht : t.kind = .star) :
    p = .sign '*' := by
  cases p with
  | blank c => exact absurd h (List.cons_ne_nil _ _).symm
  | word | number | operator =>
      rw [← List.singleton_inj.mp h] at ht
      cases ht
  | quoted quote cs =>
      rw [← List.singleton_inj.mp h, tokenOf] at ht
      dsimp only at ht
      split at ht <;> cases ht
  | sign c =>
      rw [← List.singleton_inj.mp h] at ht
      dsimp only at ht
      unfold signKind at ht
      split at ht
      · rfl
      all_goals cases ht

/-- The piece that makes a token, between those that make the tokens before and behind it. -/
theorem exists_of_place_eq {before after : List Token} {t : Token}
    (h : place start ps = before ++ t :: after) :
    ∃ front p back, ps = front ++ p :: back ∧ p.isSpace = false ∧ place start front = before ∧
      p.tokens (start + (render front).length) = [t] ∧
      place (start + (render front).length + p.raw.length) back = after := by
  induction ps generalizing start before with
  | nil => exact absurd h.symm (List.append_ne_nil_of_right_ne_nil _ (List.cons_ne_nil _ _))
  | cons p ps ih =>
      rw [place] at h
      -- a piece without a token, or with one before the token, stands in front of the others
      have hbehind {before' : List Token} (hplace : place (start + p.raw.length) ps =
          before' ++ t :: after) (hbefore : p.tokens start ++ before' = before) :
          ∃ front q back, p :: ps = front ++ q :: back ∧ q.isSpace = false ∧
            place start front = before ∧ q.tokens (start + (render front).length) = [t] ∧
            place (start + (render front).length + q.raw.length) back = after := by
        obtain ⟨front, q, back, rfl, hq, hfront, htoken, hback⟩ := ih hplace
        have hlength : start + (render (p :: front)).length =
            start + p.raw.length + (render front).length := by
          rw [render_cons, List.length_append, Nat.add_assoc]
        refine ⟨p :: front, q, back, rfl, hq, ?_, ?_, ?_⟩
        · rw [place, hfront, hbefore]
        · rw [hlength, htoken]
        · rw [hlength, hback]
      cases hspace : p.isSpace with
      | true =>
          cases p with
          | blank c => exact hbehind h rfl
          | word | number | sign | operator | quoted => exact absurd hspace Bool.false_ne_true
      | false =>
          obtain ⟨u, htokens, -, -⟩ := Piece.tokens_of_not_space start hspace
          rw [htokens, List.singleton_append] at h
          cases before with
          | cons v before =>
              obtain ⟨rfl, hplace⟩ := List.cons.inj h
              exact hbehind hplace (by rw [htokens, List.singleton_append])
          | nil =>
              obtain ⟨rfl, hafter⟩ := List.cons.inj h
              exact ⟨[], p, ps, rfl, hspace, rfl, htokens, hafter⟩

end Places

/-- The tokens are those of a part of some pieces that stand at a place. -/
def Stands (ps : List Piece) (start : Nat) (part : List Piece) (tokens : List Token) : Prop :=
  ∃ front back, ps = front ++ (part ++ back) ∧ tokens = place (start + (render front).length) part

theorem Stands.self {part : List Piece} {start : Nat} : Stands part start part (place start part) :=
  ⟨[], [], (List.append_nil _).symm, rfl⟩

theorem Stands.behind {front ps part : List Piece} {start : Nat} {tokens : List Token}
    (h : Stands ps (start + (render front).length) part tokens) :
    Stands (front ++ ps) start part tokens := by
  obtain ⟨before, behind, rfl, rfl⟩ := h
  refine ⟨front ++ before, behind, by simp, ?_⟩
  rw [render_append, List.length_append, Nat.add_assoc]

theorem Stands.ahead {ps part back : List Piece} {start : Nat} {tokens : List Token}
    (h : Stands ps start part tokens) : Stands (ps ++ back) start part tokens := by
  obtain ⟨before, behind, rfl, rfl⟩ := h
  exact ⟨before, behind ++ back, by simp, rfl⟩

/-- Pieces that do not end with a blank. -/
def EndsSolid (ps : List Piece) : Prop := ∃ before p, ps = before ++ [p] ∧ p.isSpace = false

theorem EndsSolid.behind {ps : List Piece} (h : EndsSolid ps) (front : List Piece) :
    EndsSolid (front ++ ps) := by
  obtain ⟨before, p, rfl, hp⟩ := h
  exact ⟨front ++ before, p, (List.append_assoc _ _ _).symm, hp⟩

/-- Pieces that neither begin nor end with a blank. -/
structure Trimmed (ps : List Piece) : Prop where
  first : ∃ p later, ps = p :: later ∧ p.isSpace = false
  last : EndsSolid ps

theorem Trimmed.head? {part : List Piece} (h : Trimmed part) (start : Nat) :
    ∃ t, (place start part).head? = some t ∧ t.start = start := by
  obtain ⟨p, later, rfl, hp⟩ := h.first
  obtain ⟨t, htokens, hstart, -⟩ := Piece.tokens_of_not_space start hp
  refine ⟨t, ?_, hstart⟩
  rw [place, htokens]
  rfl

theorem Trimmed.getLast? {part : List Piece} (h : Trimmed part) (start : Nat) :
    ∃ t, (place start part).getLast? = some t ∧ t.stop = start + (render part).length := by
  obtain ⟨before, p, rfl, hp⟩ := h.last
  obtain ⟨t, htokens, -, hstop⟩ :=
    Piece.tokens_of_not_space (start + (render before).length) hp
  refine ⟨t, ?_, ?_⟩
  · rw [place_append, place, htokens, place, List.append_nil, List.getLast?_concat]
  · rw [hstop, render_append, render_cons, render_nil, List.append_nil, List.length_append,
      Nat.add_assoc]

theorem Trimmed.eq_singleton {part : List Piece} {start : Nat} {t : Token} (h : Trimmed part)
    (ht : place start part = [t]) : ∃ p, part = [p] ∧ p.tokens start = [t] := by
  obtain ⟨p, later, rfl, hp⟩ := h.first
  obtain ⟨u, hu, -⟩ := Piece.tokens_of_not_space start hp
  rw [place, hu, List.singleton_append] at ht
  obtain ⟨rfl, hlater⟩ := List.cons.inj ht
  rcases List.eq_nil_or_concat' later with rfl | ⟨others, q, rfl⟩
  · exact ⟨p, rfl, hu⟩
  · obtain ⟨before, q', hlast, hq⟩ := h.last
    rw [← List.cons_append] at hlast
    obtain ⟨-, hsame⟩ := List.append_inj' hlast rfl
    obtain ⟨v, hv, -⟩ := Piece.tokens_of_not_space
      (start + p.raw.length + (render others).length) (List.singleton_inj.mp hsame ▸ hq)
    rw [place_append, place, hv, place, List.append_nil] at hlater
    exact absurd hlater (List.append_ne_nil_of_right_ne_nil _ (List.cons_ne_nil _ _))

/-- Tokens that stand side by side are those of a part of the text. -/
theorem exists_excerpt {ps : List Piece} {start : Nat} {before segment after : List Token}
    (h : place start ps = before ++ (segment ++ after)) (hne : segment ≠ []) :
    ∃ mid, Stands ps start mid segment ∧ Trimmed mid := by
  obtain ⟨t, segment, rfl⟩ := List.exists_cons_of_ne_nil hne
  obtain ⟨front, p, back, rfl, hp, -, htoken, hback⟩ := exists_of_place_eq h
  rcases List.eq_nil_or_concat segment with rfl | ⟨others, u, rfl⟩
  · refine ⟨[p], ⟨front, back, rfl, ?_⟩, ⟨p, [], rfl, hp⟩, ⟨[], p, rfl, hp⟩⟩
    rw [place, htoken, place, List.append_nil]
  · have hlast : place (start + (render front).length + p.raw.length) back =
        others ++ u :: after := by
      rw [hback, List.concat_eq_append]
      simp
    obtain ⟨mid, q, back, rfl, hq, hmid, hq', -⟩ := exists_of_place_eq hlast
    refine ⟨p :: (mid ++ [q]), ⟨front, back, by simp, ?_⟩, ⟨p, _, rfl, hp⟩, ⟨p :: mid, q, rfl, hq⟩⟩
    rw [place, htoken, place_append, hmid, place, hq', place, List.append_nil]
    simp

section Rest

variable {ps : List Piece} {p : Piece} {rest rest' : List Char}

/-- A text is at its end or goes on with a space or a comma, where every piece ends. -/
def breaks (rest : List Char) : Bool := endsOr (fun c => c == ' ' || c == ',') rest

/-- No text between quotes ends with a backslash, so none of them needs the rest of the text
to be without its quote. -/
def Closed (ps : List Piece) : Prop :=
  ∀ quote cs, .quoted quote cs ∈ ps → cs.getLast? ≠ some '\\'

theorem cases_of_breaks (h : breaks rest = true) :
    rest = [] ∨ ∃ c later, rest = c :: later ∧ (c = ' ' ∨ c = ',') := by
  cases rest with
  | nil => exact .inl rfl
  | cons c rest => exact .inr ⟨c, rest, rfl, by simpa [breaks, endsOr] using h⟩

theorem endsOr_of_breaks {q : Char → Bool} (hspace : q ' ' = true) (hcomma : q ',' = true)
    (h : breaks rest = true) : endsOr q rest = true := by
  rcases cases_of_breaks h with rfl | ⟨c, later, rfl, rfl | rfl⟩
  · rfl
  · exact hspace
  · exact hcomma

/-- What holds at the end of a text and of its next character holds where another one goes on
alike, and at a break. -/
theorem endsOr_change {q : Char → Bool} (hspace : q ' ' = true) (hcomma : q ',' = true)
    (hrest : rest'.head? = rest.head? ∨ breaks rest' = true) (h : endsOr q rest = true) :
    endsOr q rest' = true := by
  rcases hrest with hhead | hbreaks
  · cases rest with
    | nil =>
        rw [List.head?_eq_none_iff.mp hhead]
        rfl
    | cons c rest =>
        obtain ⟨later, rfl⟩ := List.head?_eq_some_iff.mp hhead
        exact h
  · exact endsOr_of_breaks hspace hcomma hbreaks

theorem goesOn_eq_false_iff {q : Char → Bool} :
    goesOn q rest = false ↔ endsOr (fun c => !q c) rest = true := by
  cases rest <;> simp [goesOn, endsOr]

theorem head?_ne_iff {quote : Char} :
    rest.head? ≠ some quote ↔ endsOr (fun c => c != quote) rest = true := by
  cases rest <;> simp [endsOr]

/-- A piece that ends before some text ends before any other that begins alike, and at a
break. -/
theorem Piece.Fits.change (h : p.Fits rest) (hclosed : Closed [p])
    (hrest : rest'.head? = rest.head? ∨ breaks rest' = true) : p.Fits rest' := by
  cases h with
  | word hw hends => exact .word hw (endsOr_change rfl rfl hrest hends)
  | number hcs hends => exact .number hcs (endsOr_change rfl rfl hrest hends)
  | blank hc => exact .blank hc
  | star => exact .star
  | punctuation hc => exact .punctuation hc
  | operator hne hcs hends =>
      refine .operator hne hcs (goesOn_eq_false_iff.mpr ?_)
      exact endsOr_change rfl rfl hrest (goesOn_eq_false_iff.mp hends)
  | @quoted quote cs _ hquote hencloses =>
      have hlast : cs.getLast? ≠ some '\\' := hclosed quote cs List.mem_cons_self
      refine .quoted hquote ⟨hencloses.unescaped, ?_, fun h => absurd h hlast⟩
      refine head?_ne_iff.mpr (endsOr_change ?_ ?_ hrest (head?_ne_iff.mp hencloses.closed))
      · rcases hquote with rfl | rfl <;> rfl
      · rcases hquote with rfl | rfl <;> rfl

theorem WellPlaced.change (h : WellPlaced ps rest) (hclosed : Closed ps)
    (hrest : breaks rest' = true) : WellPlaced ps rest' := by
  induction ps with
  | nil => trivial
  | cons p ps ih =>
      have hlater : WellPlaced ps rest' := by
        refine ih h.2 fun quote cs hmem => hclosed quote cs (List.mem_cons_of_mem _ hmem)
      have hfirst : Closed [p] := by
        intro quote cs hmem
        rw [List.mem_singleton] at hmem
        exact hclosed quote cs (hmem ▸ List.mem_cons_self)
      refine ⟨h.1.change hfirst ?_, hlater⟩
      cases ps with
      | nil => exact .inr hrest
      | cons q ps =>
          obtain ⟨c, cs, hraw⟩ := List.exists_cons_of_ne_nil h.2.1.stays.raw_ne_nil
          rw [render_cons, hraw]
          exact .inl rfl

end Rest

section Facts

variable {ps : List Piece} {p : Piece} {rest : List Char} {start : Nat} {t : Token}

/-- What a token is read of: a lone word, a number, a sign, or a text between quotes. -/
inductive ReadOf (ps : List Piece) : Token → Prop
  | word {w : List Char} {s e : Nat} (hw : IsLone w) : ReadOf ps ⟨.word, String.ofList w, s, e⟩
  | number {cs : List Char} {s e : Nat} (hcs : IsNumeral cs) :
      ReadOf ps ⟨.number, String.ofList cs, s, e⟩
  | sign {kind : TokenKind} {value : String} {s e : Nat}
      (hkind : kind ∈ [.star, .comma, .leftParen, .rightParen, .operator]) :
      ReadOf ps ⟨kind, value, s, e⟩
  | quoted {kind : TokenKind} {quote : Char} {cs : List Char} {s e : Nat}
      (hkind : kind = .string ∨ kind = .quotedName) (hmem : .quoted quote cs ∈ ps) :
      ReadOf ps ⟨kind, String.ofList cs, s, e⟩

theorem ne_other_of_mem (h : t ∈ place start ps) : t.kind ≠ .other := by
  obtain ⟨p, -, s, htokens⟩ := exists_piece_of_mem h
  have hkind : ∀ u ∈ p.tokens s, u.kind ≠ .other := by
    cases p with
    | blank c => exact fun u hu => absurd hu List.not_mem_nil
    | word | number | operator =>
        exact List.forall_mem_singleton.mpr fun hkind => nomatch hkind
    | sign c =>
        refine List.forall_mem_singleton.mpr ?_
        dsimp only [Piece.signKind]
        split <;> exact fun hkind => nomatch hkind
    | quoted quote cs =>
        refine List.forall_mem_singleton.mpr ?_
        dsimp only [tokenOf]
        split <;> exact fun hkind => nomatch hkind
  exact hkind t (htokens ▸ List.mem_cons_self)

theorem WellPlaced.exists_fits (h : WellPlaced ps rest) (hp : p ∈ ps) : ∃ cs, p.Fits cs := by
  induction ps with
  | nil => exact absurd hp List.not_mem_nil
  | cons q ps ih =>
      rcases List.mem_cons.mp hp with rfl | hlater
      · exact ⟨_, h.1⟩
      · exact ih h.2 hlater

theorem WellPlaced.readOf (h : WellPlaced ps rest) (ht : t ∈ place start ps) : ReadOf ps t := by
  obtain ⟨p, hp, s, htokens⟩ := exists_piece_of_mem ht
  obtain ⟨cs, hfits⟩ := h.exists_fits hp
  cases hfits with
  | blank => exact absurd htokens (List.cons_ne_nil _ _).symm
  | word hw =>
      rw [← List.singleton_inj.mp htokens]
      exact .word hw
  | number hcs =>
      rw [← List.singleton_inj.mp htokens]
      exact .number hcs
  | star | operator =>
      rw [← List.singleton_inj.mp htokens]
      exact .sign (by decide)
  | @punctuation c _ hc =>
      have hall : ∀ c ∈ [',', '(', ')'], Piece.signKind c ∈
          [.star, .comma, .leftParen, .rightParen, .operator] := by decide
      rw [← List.singleton_inj.mp htokens]
      exact .sign (hall c hc)
  | @quoted quote cs =>
      rw [← List.singleton_inj.mp htokens, tokenOf]
      refine .quoted ?_ hp
      split
      · exact .inl rfl
      · exact .inr rfl

theorem Piece.Stays.exists_last (h : p.Stays rest) (hspace : p.isSpace = false) :
    ∃ front c, p.raw = front ++ [c] ∧ isBlank c = false := by
  cases p with
  | word w =>
      obtain ⟨front, c, rfl⟩ := (List.eq_nil_or_concat' w).resolve_left h.nonempty
      exact ⟨front, c, rfl, isBlank_eq_false_of_isWord (h.word c (by simp))⟩
  | number cs =>
      obtain ⟨front, c, rfl, hc⟩ := (fits_number.mp h).1.exists_last
      exact ⟨front, c, rfl, isBlank_eq_false_of_isDecimal hc⟩
  | operator cs =>
      obtain ⟨hne, hcs, -⟩ := fits_operator.mp h
      obtain ⟨front, c, rfl⟩ := (List.eq_nil_or_concat' cs).resolve_left hne
      exact ⟨front, c, rfl, isBlank_eq_false_of_isComparator (hcs c (by simp))⟩
  | blank c => exact absurd hspace.symm Bool.false_ne_true
  | sign c =>
      have hall : ∀ c ∈ ['*', ',', '(', ')'], isBlank c = false := by decide
      exact ⟨[], c, rfl, hall c (List.mem_cons.mpr (fits_sign.mp h))⟩
  | quoted quote cs =>
      refine ⟨quote :: double quote cs, quote, rfl, ?_⟩
      rcases (fits_quoted.mp h).1 with rfl | rfl <;> rfl

theorem Placed.exists_stays (h : Placed ps rest) (hp : p ∈ ps) : ∃ cs, p.Stays cs := by
  induction ps with
  | nil => exact absurd hp List.not_mem_nil
  | cons q ps ih =>
      rcases List.mem_cons.mp hp with rfl | hlater
      · exact ⟨_, h.1⟩
      · exact ih h.2 hlater

theorem stripWhere_render (h : Placed ps rest) (htrimmed : Trimmed ps) :
    stripWhere isBlank (render ps) = render ps := by
  obtain ⟨⟨p, later, hfirst, hp⟩, ⟨before, q, hlast, hq⟩⟩ := htrimmed
  obtain ⟨cs, hpstays⟩ := h.exists_stays (hfirst ▸ List.mem_cons_self)
  obtain ⟨ds, hqstays⟩ := h.exists_stays (p := q) (by rw [hlast]; simp)
  have hnoBlank : ∀ c, p ≠ .blank c := by
    rintro c rfl
    exact Bool.false_ne_true hp.symm
  obtain ⟨c, raw, hraw, hc⟩ := hpstays.exists_head hnoBlank
  obtain ⟨front, d, hraw', hd⟩ := hqstays.exists_last hq
  have hhead : render ps = c :: (raw ++ render later) := by
    rw [hfirst, render_cons, hraw, List.cons_append]
  have hend : (render ps).getLast? = some d := by
    rw [hlast, render_append, render_cons, render_nil, List.append_nil, hraw', ← List.append_assoc,
      List.getLast?_concat]
  exact stripWhere_eq_self hhead hc hend hd

end Facts

end JsonQuery.Sql
