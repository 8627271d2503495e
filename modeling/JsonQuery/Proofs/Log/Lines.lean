import JsonQuery.Log.Setup
import JsonQuery.Proofs.Json.FloatText
import JsonQuery.Proofs.Json.Roundtrip
import JsonQuery.Proofs.Outcome
import JsonQuery.Proofs.Value.Record
import Mathlib.Tactic

/-!
A structured log, line by line. Every record that is heard and can be told has one line, in the
order of the records, and nothing else is written. No line feed gets into a line whatever the
record holds, because every text in it is written in visible ASCII. What is read from a line is the
object of the standard members, updated by the context of the record.
-/

namespace JsonQuery

open Outcome

section Splitting

variable {sep : Char}

theorem splitOn_append_sep {line : List Char} (h : sep ∉ line) (rest : List Char) :
    Text.splitOn sep (line ++ sep :: rest) = line :: Text.splitOn sep rest := by
  induction line with
  | nil => rw [List.nil_append, Text.splitOn, if_pos BEq.rfl]
  | cons c line ih =>
      rw [List.mem_cons, not_or] at h
      rw [List.cons_append, Text.splitOn, ih h.2, if_neg (by simpa using Ne.symm h.1)]

/-- Lines that do not hold the separator come back, and an empty rest behind the last one. -/
theorem splitOn_lines (lines : List (List Char)) (h : ∀ line ∈ lines, sep ∉ line) :
    Text.splitOn sep (lines.flatMap (· ++ [sep])) = lines ++ [[]] := by
  induction lines with
  | nil => rfl
  | cons line lines ih =>
      rw [List.forall_mem_cons] at h
      rw [List.flatMap_cons, List.append_assoc, List.singleton_append, splitOn_append_sep h.1,
        ih h.2, List.cons_append]

end Splitting

/-- What is made of some items stands in their order. -/
theorem forall₂_filterMap {α β : Type} {f : α → Option β} {P : α → β → Prop} {p : α → Bool}
    {items : List α} (hnone : ∀ a ∈ items, p a = false → f a = none)
    (hsome : ∀ a ∈ items, p a = true → ∃ b, f a = some b ∧ P a b) :
    List.Forall₂ P (items.filter p) (items.filterMap f) := by
  induction items with
  | nil => exact .nil
  | cons a items ih =>
      rw [List.forall_mem_cons] at hnone hsome
      have hlater := ih hnone.2 hsome.2
      cases hp : p a with
      | false =>
          rwa [List.filter_cons_of_neg (by simp [hp]), List.filterMap_cons_none (hnone.1 hp)]
      | true =>
          obtain ⟨b, hb, hab⟩ := hsome.1 hp
          rw [List.filter_cons_of_pos hp, List.filterMap_cons_some hb]
          exact .cons hab hlater

namespace LogRecord

variable {r : LogRecord} {timestamp message line : String}

/-- The members of a record: the standard ones, updated by its context. -/
def members (r : LogRecord) (timestamp message : String) : Record :=
  (r.standardMembers timestamp message).putAll r.context

/-- A record that can be told: its message can be made, its time lies in a year of four digits, and
no integer that it tells is too long. -/
structure IsTellable (r : LogRecord) : Prop where
  message : r.message?.isSome = true
  time : ∃ moment, Moment.nearest? r.created = some moment ∧ 1 ≤ moment.day.year ∧
    moment.day.year ≤ 9999
  context : ∀ key v, Record.get? r.context.reverse key = some v → v.integersFit = true
  line : Record.get? r.context.reverse "line" = none → r.line.integersFit = true

/-- Whether all floats in a record are doubles. -/
def doublesOnly (r : LogRecord) : Bool := r.line.doublesOnly && memberDoubles r.context

/-- A line that tells a record: some visible characters and spaces, which are read as the object
with the standard members of the record, each with the value that its context gives under the same
key, and behind them the other members of its context in order. -/
structure IsToldBy (r : LogRecord) (line : String) : Prop where
  nonempty : line ≠ ""
  visible : ∀ c ∈ line.toList, Json.IsVisible c
  object : ∃ timestamp message members,
    (Moment.nearest? r.created).bind Moment.isoText? = some timestamp ∧
    r.message? = some message ∧
    Record.keys members = Record.keys (r.standardMembers timestamp message) ++
      ((Record.keys r.context).filter
        (· ∉ Record.keys (r.standardMembers timestamp message))).eraseDups ∧
    (∀ key, Record.get? members key = (Record.get? r.context.reverse key).or
      (Record.get? (r.standardMembers timestamp message) key)) ∧
    Json.read line = .ok ((Value.object members).reread true) ∧
    ((Value.object members).IsReadable → (Value.object members).Unpaired →
      Json.read line = .ok (.object members))

theorem structuredLine?_eq_some_iff :
    r.structuredLine? = some line ↔ ∃ timestamp message,
      (Moment.nearest? r.created).bind Moment.isoText? = some timestamp ∧
      r.message? = some message ∧ (Value.object (r.members timestamp message)).integersFit = true ∧
      line = Json.print .asciiLine (.object (r.members timestamp message)) := by
  have htext (v : Value) : (v.toJson .asciiLine).toOption = some line ↔
      v.integersFit = true ∧ line = Json.print .asciiLine v := by
    rw [toOption_eq_some, Value.toJson]
    split
    · rename_i hfit
      rw [Except.ok.injEq, eq_comm, and_iff_right hfit]
    · rename_i hfit
      exact iff_of_false nofun fun h => hfit h.1
  have hline : r.structuredLine? = ((Moment.nearest? r.created).bind Moment.isoText?).bind
      fun timestamp => r.message?.bind fun message =>
        ((Value.object (r.members timestamp message)).toJson .asciiLine).toOption := by
    rw [Option.bind_assoc]
    rfl
  rw [hline]
  simp only [Option.bind_eq_some_iff (x := (Moment.nearest? r.created).bind Moment.isoText?),
    Option.bind_eq_some_iff (x := r.message?), htext]
  constructor
  · rintro ⟨timestamp, htime, message, hmessage, hrest⟩
    exact ⟨timestamp, message, htime, hmessage, hrest⟩
  · rintro ⟨timestamp, message, htime, hmessage, hrest⟩
    exact ⟨timestamp, htime, message, hmessage, hrest⟩

theorem isoText?_isSome_iff {moment : Moment} :
    moment.isoText?.isSome = true ↔ 1 ≤ moment.day.year ∧ moment.day.year ≤ 9999 := by
  unfold Moment.isoText?
  dsimp only
  split
  · rename_i hyear
    simpa using hyear
  · rename_i hyear
    simpa using hyear

theorem nodup_keys_standardMembers (r : LogRecord) (timestamp message : String) :
    (Record.keys (r.standardMembers timestamp message)).Nodup := by
  rw [standardMembers]
  cases r.exception with
  | none => exact (by decide : ["timestamp", "level", "logger", "message", "module", "function",
      "line"].Nodup)
  | some e => exact (by decide : ["timestamp", "level", "logger", "message", "module", "function",
      "line", "exception"].Nodup)

/-- Among the standard members only the line can be something else than a text or null. -/
theorem standardMembers_cases {key : String} {v : Value}
    (h : Record.get? (r.standardMembers timestamp message) key = some v) :
    key = "line" ∧ v = r.line ∨ v = .null ∨ ∃ text, v = .string text := by
  have hmem := Record.mem_of_get? h
  have hfunction : (r.function.map Value.string).getD .null = .null ∨
      ∃ text, (r.function.map Value.string).getD .null = .string text := by
    cases r.function with
    | none => exact .inl rfl
    | some text => exact .inr ⟨text, rfl⟩
  rw [standardMembers, List.mem_append] at hmem
  rcases hmem with hmem | hmem
  · simp only [List.mem_cons, Prod.mk.injEq, List.not_mem_nil, or_false] at hmem
    rcases hmem with ⟨-, rfl⟩ | ⟨-, rfl⟩ | ⟨-, rfl⟩ | ⟨-, rfl⟩ | ⟨-, rfl⟩ | ⟨-, rfl⟩ | hline
    · exact .inr (.inr ⟨_, rfl⟩)
    · exact .inr (.inr ⟨_, rfl⟩)
    · exact .inr (.inr ⟨_, rfl⟩)
    · exact .inr (.inr ⟨_, rfl⟩)
    · exact .inr (.inr ⟨_, rfl⟩)
    · exact .inr hfunction
    · exact .inl hline
  · obtain ⟨e, -, hexception⟩ := List.mem_map.mp hmem
    cases hexception
    exact .inr (.inr ⟨_, rfl⟩)

theorem get?_line_standardMembers (r : LogRecord) (timestamp message : String) :
    Record.get? (r.standardMembers timestamp message) "line" = some r.line := rfl

theorem nodup_keys_members (r : LogRecord) (timestamp message : String) :
    (r.members timestamp message).keys.Nodup :=
  Record.nodup_keys_putAll (nodup_keys_standardMembers r timestamp message) r.context

/-- What holds of null and of texts holds of all members of a record if it does of what the context
gives, and of the line unless the context gives another one. -/
theorem forall_members_iff {P : Value → Prop} (hnull : P .null) (htext : ∀ text, P (.string text)) :
    (∀ m ∈ r.members timestamp message, P m.2) ↔
      (∀ key v, Record.get? r.context.reverse key = some v → P v) ∧
      (Record.get? r.context.reverse "line" = none → P r.line) := by
  have hall : (∀ m ∈ r.members timestamp message, P m.2) ↔
      ∀ key v, (r.members timestamp message).get? key = some v → P v :=
    ⟨fun h key v hv => h (key, v) (Record.mem_of_get? hv),
      fun h m hm => h m.1 m.2 (Record.get?_of_mem (nodup_keys_members r _ _) hm)⟩
  rw [hall]
  simp only [members, Record.get?_putAll, Option.or_eq_some_iff]
  constructor
  · intro h
    exact ⟨fun key v hv => h key v (.inl hv),
      fun hnone => h "line" r.line (.inr ⟨hnone, get?_line_standardMembers r _ _⟩)⟩
  · rintro ⟨hcontext, hline⟩ key v (hv | ⟨hnone, hv⟩)
    · exact hcontext key v hv
    · rcases standardMembers_cases hv with ⟨rfl, rfl⟩ | rfl | ⟨text, rfl⟩
      · exact hline hnone
      · exact hnull
      · exact htext text

theorem integersFit_members_iff :
    (Value.object (r.members timestamp message)).integersFit = true ↔
      (∀ key v, Record.get? r.context.reverse key = some v → v.integersFit = true) ∧
      (Record.get? r.context.reverse "line" = none → r.line.integersFit = true) := by
  rw [Value.integersFit, memberIntegersFit_iff]
  exact forall_members_iff (P := fun v => v.integersFit = true) rfl fun _ => rfl

theorem memberDoubles_members (h : r.doublesOnly = true) :
    memberDoubles (r.members timestamp message) = true := by
  rw [doublesOnly, Bool.and_eq_true, memberDoubles_iff] at h
  rw [memberDoubles_iff]
  refine (forall_members_iff (P := fun v => v.doublesOnly = true) rfl fun _ => rfl).mpr
    ⟨fun key v hv => ?_, fun _ => h.1⟩
  exact h.2 (key, v) (List.mem_reverse.mp (Record.mem_of_get? hv))

/-- The records that can be told are those that a line is made of. -/
theorem isSome_structuredLine?_iff : r.structuredLine?.isSome = true ↔ r.IsTellable := by
  rw [Option.isSome_iff_exists]
  simp only [structuredLine?_eq_some_iff, integersFit_members_iff]
  constructor
  · rintro ⟨line, timestamp, message, htime, hmessage, ⟨hcontext, hline⟩, -⟩
    obtain ⟨moment, hmoment, hiso⟩ := Option.bind_eq_some_iff.mp htime
    exact ⟨Option.isSome_of_mem hmessage,
      ⟨moment, hmoment, isoText?_isSome_iff.mp (Option.isSome_of_mem hiso)⟩, hcontext, hline⟩
  · rintro ⟨hmessage, ⟨moment, hmoment, hyear⟩, hcontext, hline⟩
    obtain ⟨message, hmessage⟩ := Option.isSome_iff_exists.mp hmessage
    obtain ⟨timestamp, hiso⟩ := Option.isSome_iff_exists.mp (isoText?_isSome_iff.mpr hyear)
    exact ⟨_, timestamp, message, Option.bind_eq_some_iff.mpr ⟨moment, hmoment, hiso⟩, hmessage,
      ⟨hcontext, hline⟩, rfl⟩

instance : DecidablePred IsTellable := fun _ => decidable_of_iff _ isSome_structuredLine?_iff

/-- Whatever a record holds, its line has visible characters and spaces only. -/
theorem structuredLine?_visible (h : r.structuredLine? = some line) :
    ∀ c ∈ line.toList, Json.IsVisible c := by
  obtain ⟨timestamp, message, -, -, -, rfl⟩ := structuredLine?_eq_some_iff.mp h
  rw [Json.print, String.toList_ofList]
  exact Json.write_visible _ 0

/-- The line that is made of a record tells it. -/
theorem isToldBy_structuredLine? (hdoubles : r.doublesOnly = true)
    (h : r.structuredLine? = some line) : r.IsToldBy line := by
  have hvisible := structuredLine?_visible h
  obtain ⟨timestamp, message, htime, hmessage, hfit, rfl⟩ := structuredLine?_eq_some_iff.mp h
  have hread := Value.read_print Json.Style.asciiLine_onOneLine
    (Value.isLegible_of_doubles _ hfit (memberDoubles_members hdoubles))
  refine ⟨?_, hvisible, timestamp, message, r.members timestamp message, htime, hmessage,
    Record.keys_putAll _ _, Record.get?_putAll _ _, hread, ?_⟩
  · intro hempty
    rw [hempty] at hread
    cases hread
  · intro hreadable hunpaired
    rw [hread, Value.reread_eq_self _ hreadable fun _ => hunpaired]

end LogRecord

namespace LogSetup

variable {s : LogSetup} {records : List LogRecord}

theorem lines_structured (hlayout : s.layout = .structured) (records : List LogRecord) :
    s.lines records = (records.filter s.hears).filterMap LogRecord.structuredLine? := by
  rw [lines, hlayout]
  rfl

/-- What is written for some records is split into their lines and an empty rest. -/
theorem splitOn_output (hlayout : s.layout = .structured) (records : List LogRecord) :
    Text.splitOn '\n' (s.output records).toList = (s.lines records).map String.toList ++ [[]] := by
  have hplain : ∀ line ∈ (s.lines records).map String.toList, '\n' ∉ line := by
    rw [List.forall_mem_map, lines_structured hlayout]
    intro line hline hbreak
    obtain ⟨r, -, hmade⟩ := List.mem_filterMap.mp hline
    exact absurd (LogRecord.structuredLine?_visible hmade '\n' hbreak) (by decide)
  rw [← splitOn_lines _ hplain, output, String.toList_join, List.flatMap_map, List.flatMap_map]
  simp only [String.toList_append]
  rfl

end LogSetup

end JsonQuery
