import JsonQuery.Export.Rows
import JsonQuery.Proofs.Dataset.Flat
import JsonQuery.Proofs.Json.OneLine
import Mathlib.Tactic

/-!
Arrays and objects through their text. An array or an object is shown as JSON on one line without
spaces, and what is shown is read as the array or the object again, with its keys in their order.
So two arrays with one text are one array, and an array that was put into a row for export as a
text is told by it.
-/

namespace JsonQuery

open Json

mutual

/-- A value as JSON has it and as it can be written: no key stands twice in an object, every
integer has few enough digits, and the text of every float is read as the same float. -/
def Value.IsReadable : Value → Prop
  | .number (.int n) => Value.integerFits n = true
  | .number (.float x) => ReadsBack x
  | .array items => AllReadable items
  | .object members => (Record.keys members).Nodup ∧ MembersReadable members
  | .null | .bool _ | .string _ => True

def AllReadable : List Value → Prop
  | [] => True
  | item :: items => item.IsReadable ∧ AllReadable items

def MembersReadable : List (String × Value) → Prop
  | [] => True
  | (_, item) :: members => item.IsReadable ∧ MembersReadable members

end

mutual

theorem Value.integersFit_of_readable (v : Value) (h : v.IsReadable) : v.integersFit = true := by
  match v with
  | .null | .bool _ | .string _ | .number (.float _) => rfl
  | .number (.int n) =>
      rw [Value.IsReadable] at h
      exact h
  | .array items =>
      rw [Value.IsReadable] at h
      exact allIntegersFit_of_readable items h
  | .object members =>
      rw [Value.IsReadable] at h
      exact memberIntegersFit_of_readable members h.2

theorem allIntegersFit_of_readable (items : List Value) (h : AllReadable items) :
    Value.allIntegersFit items = true := by
  match items with
  | [] => rfl
  | item :: items =>
      rw [AllReadable] at h
      rw [Value.allIntegersFit, item.integersFit_of_readable h.1, allIntegersFit_of_readable items h.2]
      rfl

theorem memberIntegersFit_of_readable (members : List (String × Value))
    (h : MembersReadable members) : Value.memberIntegersFit members = true := by
  match members with
  | [] => rfl
  | (_, item) :: members =>
      rw [MembersReadable] at h
      rw [Value.memberIntegersFit, item.integersFit_of_readable h.1,
        memberIntegersFit_of_readable members h.2]
      rfl

end

/-- Members under keys of their own are written one behind the other. -/
theorem Record.putAll_of_nodup {row members : Record} (h : (keys (row ++ members)).Nodup) :
    row.putAll members = row ++ members := by
  induction members generalizing row with
  | nil => exact (List.append_nil row).symm
  | cons m members ih =>
      have hkey : m.1 ∉ keys row := by
        intro hmem
        rw [keys, List.map_append, List.map_cons] at h
        exact (List.nodup_append.mp h).2.2 m.1 hmem m.1 List.mem_cons_self rfl
      rw [List.append_cons] at h ⊢
      rw [putAll_cons, put_of_not_mem hkey]
      exact ih h

theorem Record.putAll_nil {members : Record} (h : (keys members).Nodup) :
    putAll [] members = members := by
  have hkeys : (keys ([] ++ members)).Nodup := h
  exact putAll_of_nodup hkeys

/-- What is read back is not spelled otherwise. -/
theorem Json.ReadsBack.spelled {x : Binary64} (h : ReadsBack x) : x.spelled = x := by
  cases x with
  | nan =>
      have hword : read "NaN" = .ok (.ofFloat .spelledNan) := rfl
      cases hword.symm.trans h
  | spelledNan | infinite _ | finite _ _ => rfl

mutual

theorem Value.isLegible_of_readable (v : Value) (h : v.IsReadable) : v.IsLegible := by
  match v with
  | .null | .bool _ | .string _ =>
      rw [Value.IsLegible]
      trivial
  | .number (.int n) =>
      rw [Value.IsReadable] at h
      rwa [Value.IsLegible]
  | .number (.float x) =>
      rw [Value.IsReadable] at h
      rwa [Value.IsLegible, h.spelled]
  | .array items =>
      rw [Value.IsReadable] at h
      rw [Value.IsLegible]
      exact allLegible_of_readable items h
  | .object members =>
      rw [Value.IsReadable] at h
      rw [Value.IsLegible]
      exact membersLegible_of_readable members h.2

theorem allLegible_of_readable (items : List Value) (h : AllReadable items) :
    AllLegible items := by
  match items with
  | [] => trivial
  | item :: items =>
      rw [AllReadable] at h
      exact ⟨item.isLegible_of_readable h.1, allLegible_of_readable items h.2⟩

theorem membersLegible_of_readable (members : List (String × Value))
    (h : MembersReadable members) : MembersLegible members := by
  match members with
  | [] => trivial
  | (_, item) :: members =>
      rw [MembersReadable] at h
      exact ⟨item.isLegible_of_readable h.1, membersLegible_of_readable members h.2⟩

end

mutual

/-- A value in whose texts no first half stands directly before a second one. -/
def Value.Unpaired : Value → Prop
  | .string s => joinHalves s.toList = s.toList
  | .array items => AllUnpaired items
  | .object members => MembersUnpaired members
  | .null | .bool _ | .number _ => True

def AllUnpaired : List Value → Prop
  | [] => True
  | item :: items => item.Unpaired ∧ AllUnpaired items

def MembersUnpaired : List (String × Value) → Prop
  | [] => True
  | (key, item) :: members =>
      joinHalves key.toList = key.toList ∧ item.Unpaired ∧ MembersUnpaired members

end

theorem Json.rejoined_eq_self {asciiOnly : Bool} {s : String}
    (h : asciiOnly = true → joinHalves s.toList = s.toList) : rejoined asciiOnly s = s := by
  cases asciiOnly with
  | false => rfl
  | true =>
      rw [rejoined, if_pos rfl, h rfl]
      exact String.ofList_toList

mutual

/-- A value comes back as it was. -/
theorem Value.reread_eq_self {asciiOnly : Bool} (v : Value) (hv : v.IsReadable)
    (htexts : asciiOnly = true → v.Unpaired) : v.reread asciiOnly = v := by
  match v with
  | .null | .bool _ | .number (.int _) => rfl
  | .number (.float x) =>
      rw [Value.IsReadable] at hv
      rw [Value.reread, hv.spelled]
      rfl
  | .string s =>
      rw [Value.reread, Json.rejoined_eq_self]
      intro hascii
      have hs := htexts hascii
      rwa [Value.Unpaired] at hs
  | .array items =>
      rw [Value.IsReadable] at hv
      rw [Value.reread, rereadAll_eq_self items hv fun hascii => ?_]
      have hitems := htexts hascii
      rwa [Value.Unpaired] at hitems
  | .object members =>
      rw [Value.IsReadable] at hv
      rw [Value.reread, rereadMembers_eq_self members hv.2 fun hascii => ?_,
        Record.putAll_nil hv.1]
      have hmembers := htexts hascii
      rwa [Value.Unpaired] at hmembers

theorem rereadAll_eq_self {asciiOnly : Bool} (items : List Value) (hitems : AllReadable items)
    (htexts : asciiOnly = true → AllUnpaired items) : rereadAll asciiOnly items = items := by
  match items with
  | [] => rfl
  | item :: items =>
      rw [AllReadable] at hitems
      rw [rereadAll, item.reread_eq_self hitems.1 fun hascii => (htexts hascii).1,
        rereadAll_eq_self items hitems.2 fun hascii => (htexts hascii).2]

theorem rereadMembers_eq_self {asciiOnly : Bool} (members : List (String × Value))
    (hmembers : MembersReadable members) (htexts : asciiOnly = true → MembersUnpaired members) :
    rereadMembers asciiOnly members = members := by
  match members with
  | [] => rfl
  | (key, item) :: members =>
      rw [MembersReadable] at hmembers
      rw [rereadMembers, Json.rejoined_eq_self fun hascii => (htexts hascii).1,
        item.reread_eq_self hmembers.1 fun hascii => (htexts hascii).2.1,
        rereadMembers_eq_self members hmembers.2 fun hascii => (htexts hascii).2.2]

end

/-- An array or an object is read from its text. -/
theorem Value.read_plainText {v : Value} (hv : v.IsReadable) (hnested : v.isScalar = false) :
    Json.read v.plainText = .ok v := by
  have htext : v.plainText = Json.print .compact v := by
    cases v with
    | array items => rfl
    | object members => rfl
    | null | bool _ | number _ | string _ => cases hnested
  have hraw : Style.compact.asciiOnly = false := rfl
  rw [htext, Value.read_print Style.compact_onOneLine (v.isLegible_of_readable hv), hraw,
    @Value.reread_eq_self false v hv nofun]

/-- An array or an object of JSON is read from its text, with its keys in their order, and the text
is that of no other array or object. It is what an export writes for a nested array that is not
empty. -/
theorem Value.read_text {v : Value} (hv : v.IsReadable) (hnested : v.isScalar = false) :
    ∃ t, v.text = .ok t ∧ Json.read t = .ok v ∧
      (∀ w : Value, w.IsReadable → w.isScalar = false → w.text = .ok t → w = v) ∧
      ∀ items row path, v = .array items → items ≠ [] →
        v.exportInto row path = .ok (row.put path (.string t)) := by
  have htext {w : Value} (hw : w.IsReadable) : w.text = .ok w.plainText := by
    rw [Value.text, if_pos (w.integersFit_of_readable hw)]
  refine ⟨v.plainText, htext hv, v.read_plainText hv hnested, ?_, ?_⟩
  · intro w hw hwnested hsame
    have hread := w.read_plainText hw hwnested
    rw [Except.ok.inj ((htext hw).symm.trans hsame), v.read_plainText hv hnested] at hread
    exact (Except.ok.inj hread).symm
  · rintro items row path rfl hne
    obtain ⟨item, more, rfl⟩ := List.exists_cons_of_ne_nil hne
    rw [Value.exportInto, htext hv]
    rfl

/-- Quotes, line breaks, a fraction and an empty object come through. -/
theorem Value.read_text_nested :
    let half : Binary64 := .finite false (5 * 2 ^ 1073)
    let v : Value := .array [.object [("b", .string "say \"a\"\n"), ("a", .array [.ofFloat half])],
      .ofInt (-30), .object []]
    ∃ t, v.text = .ok t ∧ Json.read t = .ok v ∧
      v.exportInto [] "tags" = .ok [("tags", .string t)] := by
  intro half v
  have hhalf : ReadsBack half := by
    have htext : floatText half = "2.5" := by decide +kernel
    have hvalue : Binary64.ofDecimal false 25 (-1) = half := by decide +kernel
    rw [ReadsBack, htext, ← hvalue]
    rfl
  have hv : v.IsReadable := by
    simp only [v, Value.IsReadable, AllReadable, MembersReadable, Value.ofFloat, Value.ofInt]
    exact ⟨⟨by decide, trivial, ⟨hhalf, trivial⟩, trivial⟩, by decide +kernel,
      ⟨List.nodup_nil, trivial⟩, trivial⟩
  obtain ⟨t, htext, hread, -, hexport⟩ := Value.read_text hv rfl
  exact ⟨t, htext, hread, hexport _ [] "tags" rfl (List.cons_ne_nil _ _)⟩

end JsonQuery
