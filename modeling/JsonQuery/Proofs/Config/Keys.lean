import JsonQuery.Proofs.Outcome
import JsonQuery.Yaml.Reader
import Mathlib.Tactic

/-!
The keys of mappings. Of two entries under one key the later one is written in the place of the
earlier one, so a mapping that was read has no text twice among its keys.
-/

namespace JsonQuery

open Outcome

theorem YamlScalar.text?_eq_some {key : YamlScalar} {name : String} :
    key.text? = some name ↔ key = .value (.string name) := by
  constructor
  · intro h
    unfold text? at h
    split at h
    · rw [Option.some.inj h]
    · cases h
  · rintro rfl
    rfl

theorem YamlScalar.same_text (name : String) :
    same (.value (.string name)) (.value (.string name)) = true :=
  beq_self_eq_true name

namespace Yaml

variable {entries : List (YamlScalar × Yaml)} {names : List String} {d : Document}

/-- No text stands twice among the keys. -/
def NamesOnce (entries : List (YamlScalar × Yaml)) : Prop :=
  ((entries.map (·.1)).filterMap YamlScalar.text?).Nodup

/-- A write keeps the keys and adds its own at the end if it is the same as none of them. -/
theorem keys_put (entries : List (YamlScalar × Yaml)) (key : YamlScalar) (value : Yaml) :
    (put entries key value).map (·.1) =
      if entries.any (·.1.same key) then entries.map (·.1) else entries.map (·.1) ++ [key] := by
  induction entries with
  | nil => rfl
  | cons e entries ih =>
      obtain ⟨k, old⟩ := e
      rw [put, List.any_cons]
      by_cases hk : k.same key = true
      · rw [if_pos hk, hk, Bool.true_or, if_pos rfl]
        rfl
      · rw [if_neg hk, Bool.eq_false_iff.mpr hk, Bool.false_or, List.map_cons, ih]
        split
        · rfl
        · rfl

/-- Each value is one that was there or the one written. -/
theorem mem_put {key : YamlScalar} {value : Yaml} {e : YamlScalar × Yaml}
    (h : e ∈ put entries key value) : e ∈ entries ∨ e.2 = value := by
  induction entries with
  | nil => exact .inr (congrArg Prod.snd (List.mem_singleton.mp h))
  | cons first entries ih =>
      obtain ⟨k, old⟩ := first
      rw [put] at h
      split at h
      · rcases List.mem_cons.mp h with rfl | hlater
        · exact .inr rfl
        · exact .inl (List.mem_cons_of_mem _ hlater)
      · rcases List.mem_cons.mp h with rfl | hlater
        · exact .inl List.mem_cons_self
        · exact (ih hlater).imp_left (List.mem_cons_of_mem _)

theorem NamesOnce.put (h : NamesOnce entries) (key : YamlScalar) (value : Yaml) :
    NamesOnce (put entries key value) := by
  rw [NamesOnce, keys_put]
  split
  · exact h
  · rename_i hnew
    rw [List.filterMap_append]
    refine List.nodup_append.mpr ⟨h, ?_, ?_⟩
    · rw [List.filterMap_cons]
      cases key.text? with
      | none => exact List.nodup_nil
      | some name => exact List.nodup_singleton name
    · rintro name hname _ hkey rfl
      obtain ⟨k, hk, hkname⟩ := List.mem_filterMap.mp hname
      obtain ⟨e, hmem, rfl⟩ := List.mem_map.mp hk
      obtain ⟨_, hsingle, hkey⟩ := List.mem_filterMap.mp hkey
      rw [List.mem_singleton.mp hsingle, YamlScalar.text?_eq_some] at hkey
      refine hnew (List.any_eq_true.mpr ⟨e, hmem, ?_⟩)
      rw [YamlScalar.text?_eq_some.mp hkname, hkey]
      exact YamlScalar.same_text name

/-- Entries written one after the other. -/
def putAll (made : List (YamlScalar × Yaml)) : List (YamlScalar × Yaml) :=
  made.foldl (fun entries (k, v) => put entries k v) []

theorem putAll_concat (made : List (YamlScalar × Yaml)) (e : YamlScalar × Yaml) :
    putAll (made ++ [e]) = put (putAll made) e.1 e.2 := List.foldl_concat ..

theorem namesOnce_putAll (made : List (YamlScalar × Yaml)) : NamesOnce (putAll made) := by
  induction made using List.reverseRecOn with
  | nil => exact List.nodup_nil
  | append_singleton made e ih =>
      rw [putAll_concat]
      exact ih.put e.1 e.2

theorem exists_of_mem_putAll {made : List (YamlScalar × Yaml)} {e : YamlScalar × Yaml}
    (h : e ∈ putAll made) : ∃ m ∈ made, e.2 = m.2 := by
  induction made using List.reverseRecOn with
  | nil => exact absurd h List.not_mem_nil
  | append_singleton made last ih =>
      rw [putAll_concat] at h
      rcases mem_put h with hearlier | hlast
      · obtain ⟨m, hm, hvalue⟩ := ih hearlier
        exact ⟨m, List.mem_append_left _ hm, hvalue⟩
      · exact ⟨last, List.mem_append_right _ List.mem_cons_self, hlast⟩

/-- What has become a mapping was one in the document, and has no text twice among its keys. -/
theorem Document.data_mapping {bound : Nat} {node : Node}
    (h : d.data bound node = .ok (.mapping entries)) :
    d.kindOf node = .ok .mapping ∧ NamesOnce entries := by
  cases bound with
  | zero => cases h
  | succ bound =>
      obtain ⟨kind, hkind, h⟩ := bind_eq_ok.mp h
      cases kind with
      | scalar kind =>
          obtain ⟨made, -, h⟩ := bind_eq_ok.mp h
          cases made with
          | complete s => cases h
          | waiting => cases h
      | sequence =>
          obtain ⟨items, -, h⟩ := bind_eq_ok.mp h
          obtain ⟨values, -, h⟩ := bind_eq_ok.mp h
          cases h
      | mapping =>
          obtain ⟨parts, -, h⟩ := bind_eq_ok.mp h
          obtain ⟨made, -, h⟩ := bind_eq_ok.mp h
          cases h
          exact ⟨hkind, namesOnce_putAll made⟩
      | set | pairs =>
          obtain ⟨parts, -, h⟩ := bind_eq_ok.mp h
          obtain ⟨made, -, h⟩ := bind_eq_ok.mp h
          cases h

/-- What stands under a name of a document is the data of one of its nodes. -/
theorem Document.exists_of_mem_select {e : YamlScalar × Yaml}
    (h : d.select names = .ok (.mapping entries)) (he : e ∈ entries) :
    ∃ node, d.data d.bound node = .ok e.2 := by
  obtain ⟨kind, hkind, h⟩ := bind_eq_ok.mp h
  have hother (hne : kind ≠ .mapping) (hdata : d.data d.bound d.root = .ok (.mapping entries)) :
      False := by
    rw [(data_mapping hdata).1, Except.ok.injEq] at hkind
    exact hne hkind.symm
  cases kind with
  | mapping =>
      obtain ⟨parts, -, h⟩ := bind_eq_ok.mp h
      obtain ⟨made, hmade, h⟩ := bind_eq_ok.mp h
      cases h
      obtain ⟨m, hm, hvalue⟩ := exists_of_mem_putAll he
      obtain ⟨⟨k, v⟩, -, hmake⟩ := exists_of_mem_filterMapM hmade hm
      obtain ⟨key, -, hmake⟩ := bind_eq_ok.mp hmake
      rw [hvalue]
      split at hmake
      · split at hmake
        · obtain ⟨data, hdata, hmake⟩ := bind_eq_ok.mp hmake
          cases hmake
          exact ⟨v, hdata⟩
        · cases hmake
      · cases hmake
  | scalar kind => exact (hother nofun h).elim
  | sequence => exact (hother nofun h).elim
  | set => exact (hother nofun h).elim
  | pairs => exact (hother nofun h).elim

/-- In the mappings that a text has under its names no text stands twice among the keys. -/
theorem read_namesOnce {text : String} {e : YamlScalar × Yaml} {sub : List (YamlScalar × Yaml)}
    (h : read names text = .ok (.mapping entries)) (he : e ∈ entries) (hsub : e.2 = .mapping sub) :
    NamesOnce sub := by
  unfold read at h
  dsimp only at h
  split at h
  · cases h
  · obtain ⟨tokens, -, h⟩ := bind_eq_ok.mp h
    split at h
    · cases h
    · cases h
    · rename_i d _
      obtain ⟨_, -, h⟩ := bind_eq_ok.mp h
      obtain ⟨node, hdata⟩ := d.exists_of_mem_select h he
      rw [hsub] at hdata
      exact (Document.data_mapping hdata).2

/-- What stands under a name stands there as an entry, or it is nothing. -/
theorem member_cases (entries : List (YamlScalar × Yaml)) (name : String) :
    member entries name = .scalar (.value .null) ∨ ∃ e ∈ entries, e.2 = member entries name := by
  unfold member
  split
  · rename_i k v hfound
    exact .inr ⟨(k, v), List.mem_of_find?_eq_some hfound, rfl⟩
  · exact .inl rfl

end Yaml

end JsonQuery
