import JsonQuery.Config.Settings
import JsonQuery.Proofs.Config.Keys
import JsonQuery.Proofs.Sorting.Failing
import JsonQuery.Proofs.Sorting.Stability
import JsonQuery.Proofs.Value.Order
import JsonQuery.Proofs.Value.Record

/-!
Settings as a file gives them. A section takes nothing at all, or a mapping whose keys are names
of its settings; what is given counts, and everything else has its default. The first section in
order that does not take what is given for it is refused, and its unknown keys are told in their
order. Only texts can be told: with a key of another kind among them the refusal is no longer that
of a malformed file.
-/

namespace JsonQuery

open Outcome Sorting

/-- The faults that a malformed file of settings is refused with. -/
def Fault.IsMalformedSettings : Fault → Prop
  | .settingsNotMapping | .sectionNotMapping _ | .unknownSettings .. => True
  | _ => False

namespace Section

variable {sec : Section} {given : Yaml} {entries : List (YamlScalar × Yaml)}
  {unknown : List YamlScalar}

/-- The names of the settings of a section. -/
def names (sec : Section) : List String := Record.keys sec.defaults

/-- What a section takes: nothing, or a mapping whose keys are names of its settings. -/
inductive Takes (sec : Section) : Yaml → Prop where
  | nothing : sec.Takes (.scalar (.value .null))
  | mapping {entries : List (YamlScalar × Yaml)}
      (hknown : ∀ e ∈ entries, ∃ name ∈ sec.names, e.1 = .value (.string name)) :
      sec.Takes (.mapping entries)

/-- Settings of a section by name: those that are given, and the defaults of the others. -/
structure Follows (sec : Section) (given : Yaml) (r : Record) : Prop where
  keys : r.keys = sec.names
  values : ∀ entries, given = .mapping entries →
    ∀ name value, (.value (.string name), value) ∈ entries → r.get? name = some value.toValue
  defaults : ∀ name ∈ sec.names,
    (∀ entries, given = .mapping entries → ∀ e ∈ entries, e.1 ≠ .value (.string name)) →
      r.get? name = sec.defaults.get? name

/-- How a section refuses what it does not take: it tells its name, and of a mapping the keys
that are no settings of it, in their order and each with the name of the section. Among keys that
are not all texts it comes upon one of a wrong kind. -/
inductive Refuses (sec : Section) : Yaml → Fault → Prop where
  | notMapping {given : Yaml} (hnothing : given ≠ .scalar (.value .null))
      (hmapping : ∀ entries, given ≠ .mapping entries) :
      sec.Refuses given (.sectionNotMapping sec.name)
  | unknown {entries : List (YamlScalar × Yaml)} {told : List String}
      (htexts : ∀ e ∈ entries, e.1.text?.isSome = true) (hne : told ≠ [])
      (htold : told.Perm
        (((entries.map (·.1)).filterMap YamlScalar.text?).filter (· ∉ sec.names)))
      (horder : told.Pairwise fun s t => Text.compareText s t ≠ .gt) :
      sec.Refuses (.mapping entries) (.unknownSettings sec.name told)
  | untold {entries : List (YamlScalar × Yaml)} (hkey : ∃ e ∈ entries, e.1.text? = none)
      (message : String) : sec.Refuses (.mapping entries) (.wrongKind message)

theorem knows_iff {key : YamlScalar} :
    sec.knows key = true ↔ ∃ name ∈ sec.names, key = .value (.string name) := by
  simp only [knows, Option.any_eq_true, Record.hasKey, YamlScalar.text?_eq_some,
    Record.isSome_get?_iff, names]
  exact ⟨fun ⟨name, hkey, hname⟩ => ⟨name, hname, hkey⟩,
    fun ⟨name, hname, hkey⟩ => ⟨name, hkey, hname⟩⟩

/-- The keys of a mapping that are no settings of the section. -/
def strangers (sec : Section) (entries : List (YamlScalar × Yaml)) : List YamlScalar :=
  (entries.map (·.1)).filter fun key => !sec.knows key

theorem build_mapping (sec : Section) (entries : List (YamlScalar × Yaml)) :
    sec.build (.mapping entries) =
      if (sec.strangers entries).isEmpty then
        .ok (sec.defaults.putAll (entries.filterMap fun (key, value) =>
          key.text?.map fun name => (name, value.toValue)))
      else .error (sec.refuse (sec.strangers entries)) := rfl

section Order

/-- The code points of a key that is a text. -/
def keyCodes (key : YamlScalar) : List ℕ := (key.text?.getD "").toList.map Text.codeOf

theorem decides_keyBefore (htexts : ∀ key ∈ unknown, key.text?.isSome = true) :
    Decides keyBefore keyCodes (· ∈ unknown) := by
  intro a b ha hb
  obtain ⟨s, hs⟩ := Option.isSome_iff_exists.mp (htexts a ha)
  obtain ⟨t, ht⟩ := Option.isSome_iff_exists.mp (htexts b hb)
  rw [YamlScalar.text?_eq_some] at hs ht
  subst hs ht
  exact congrArg Except.ok (beq_lt_of_compares (compareChars_compares s.toList t.toList))

theorem keyBefore_failsWith (a b : YamlScalar) :
    FailsWith (fun fault => ∃ message, fault = .wrongKind message) (keyBefore a b) := by
  unfold keyBefore
  split
  · exact .ok _
  · split
    · exact .ok _
    · exact .ok _
    · exact .ok _
    · exact .ok _
    · exact .error ⟨_, rfl⟩

/-- Keys that are texts are told in their order. -/
theorem refuse_of_texts (sec : Section) (htexts : ∀ key ∈ unknown, key.text?.isSome = true) :
    ∃ told : List String, told.Perm (unknown.filterMap YamlScalar.text?) ∧
      (told.Pairwise fun s t => Text.compareText s t ≠ .gt) ∧
      sec.refuse unknown = .unknownSettings sec.name told := by
  obtain ⟨sorted, hsort, hup, hties⟩ := sort_stable (decides_keyBefore htexts)
  have hperm : sorted.Perm unknown := hties.perm.symm
  have hnone : sorted.findIdx? (fun key => key.text?.isNone) = none := by
    rw [List.findIdx?_eq_none_iff]
    intro key hkey
    rw [Option.isNone_eq_false_iff]
    exact htexts key (hperm.mem_iff.mp hkey)
  refine ⟨sorted.filterMap YamlScalar.text?, hperm.filterMap _, ?_, ?_⟩
  · refine List.pairwise_filterMap.mpr (List.Pairwise.imp ?_ hup)
    intro a b hle s hs t ht hgt
    rw [keyCodes, keyCodes, hs, ht] at hle
    exact absurd ((compareChars_compares s.toList t.toList).eq_gt.mp hgt) (not_lt.mpr hle)
  · rw [refuse, hsort]
    dsimp only
    rw [hnone]

/-- A key that is no text cannot be told. -/
theorem refuse_of_untold (sec : Section) (hkey : ∃ key ∈ unknown, key.text? = none) :
    ∃ message, sec.refuse unknown = .wrongKind message := by
  unfold refuse
  split
  · rename_i fault hsort
    exact sort_failsWith keyBefore_failsWith unknown fault hsort
  · rename_i sorted hsort
    obtain ⟨key, hmem, hnone⟩ := hkey
    have hfound : (sorted.findIdx? fun key => key.text?.isNone) ≠ none := by
      rw [ne_eq, List.findIdx?_eq_none_iff]
      intro hall
      have htext := hall key ((sort_perm hsort).mem_iff.mpr hmem)
      rw [hnone] at htext
      cases htext
    split
    · rename_i habsent
      exact absurd habsent hfound
    · exact ⟨_, rfl⟩

end Order

/-- The values that a mapping gives by name. -/
def givenValues (entries : List (YamlScalar × Yaml)) : Record :=
  entries.filterMap fun (key, value) => key.text?.map fun name => (name, value.toValue)

theorem mem_givenValues_iff {name : String} {v : Value} :
    (name, v) ∈ givenValues entries ↔
      ∃ value : Yaml, (.value (.string name), value) ∈ entries ∧ value.toValue = v := by
  simp only [givenValues, List.mem_filterMap, Option.map_eq_some_iff, Prod.mk.injEq,
    YamlScalar.text?_eq_some]
  constructor
  · rintro ⟨⟨key, value⟩, hmem, name, rfl, rfl, rfl⟩
    exact ⟨value, hmem, rfl⟩
  · rintro ⟨value, hmem, rfl⟩
    exact ⟨_, hmem, name, rfl, rfl, rfl⟩

theorem keys_givenValues (entries : List (YamlScalar × Yaml)) :
    (givenValues entries).keys = (entries.map (·.1)).filterMap YamlScalar.text? := by
  rw [Record.keys, givenValues, List.map_filterMap, List.filterMap_map]
  congr 1
  funext e
  rw [Option.map_map]
  exact Option.map_id'

theorem strangers_eq_nil_iff : sec.strangers entries = [] ↔ sec.Takes (.mapping entries) := by
  rw [strangers, List.filter_eq_nil_iff, List.forall_mem_map]
  simp only [Bool.not_eq_true', Bool.not_eq_false, knows_iff]
  constructor
  · exact .mapping
  · rintro ⟨⟩
    assumption

/-- What a section takes counts, and everything else has its default. -/
theorem Takes.follows (h : sec.Takes given)
    (honce : ∀ entries, given = .mapping entries → Yaml.NamesOnce entries) :
    ∃ r, sec.build given = .ok r ∧ sec.Follows given r := by
  cases h with
  | nothing => exact ⟨sec.defaults, rfl, rfl, nofun, fun _ _ _ => rfl⟩
  | @mapping entries hknown =>
      have hnone : sec.strangers entries = [] := strangers_eq_nil_iff.mpr (.mapping hknown)
      have hdistinct : (Record.keys (givenValues entries).reverse).Nodup := by
        rw [Record.keys, List.map_reverse, List.nodup_reverse, ← Record.keys, keys_givenValues]
        exact honce entries rfl
      refine ⟨sec.defaults.putAll (givenValues entries), ?_, ?_, ?_, ?_⟩
      · rw [build_mapping, hnone]
        rfl
      · have hold : (givenValues entries).keys.filter (· ∉ sec.defaults.keys) = [] := by
          rw [List.filter_eq_nil_iff]
          intro name hname
          obtain ⟨⟨_, v⟩, hmem, rfl⟩ := List.mem_map.mp hname
          obtain ⟨value, hentry, -⟩ := mem_givenValues_iff.mp hmem
          obtain ⟨other, hother, hkey⟩ := hknown _ hentry
          cases hkey
          simpa [names] using hother
        rw [Record.keys_putAll, hold]
        exact List.append_nil _
      · intro others heq name value hmem
        cases heq
        have hgiven : (name, value.toValue) ∈ (givenValues entries).reverse :=
          List.mem_reverse.mpr (mem_givenValues_iff.mpr ⟨value, hmem, rfl⟩)
        rw [Record.get?_putAll, Record.get?_of_mem hdistinct hgiven]
        rfl
      · intro name _ habsent
        have hnone : Record.get? (givenValues entries).reverse name = none := by
          rw [← Option.not_isSome_iff_eq_none, Record.isSome_get?_iff, Record.keys,
            List.map_reverse, List.mem_reverse]
          intro hname
          obtain ⟨⟨_, v⟩, hmem, rfl⟩ := List.mem_map.mp hname
          obtain ⟨value, hentry, -⟩ := mem_givenValues_iff.mp hmem
          exact habsent entries rfl _ hentry rfl
        rw [Record.get?_putAll, hnone]
        rfl

/-- The texts among the strangers are the names that are none of a setting. -/
theorem filterMap_strangers (sec : Section) (entries : List (YamlScalar × Yaml)) :
    (sec.strangers entries).filterMap YamlScalar.text? =
      ((entries.map (·.1)).filterMap YamlScalar.text?).filter (· ∉ sec.names) := by
  unfold strangers
  induction entries.map (·.1) with
  | nil => rfl
  | cons key keys ih =>
      cases hkey : key.text? with
      | none =>
          rw [List.filterMap_cons_none hkey, ← ih, List.filter_cons]
          split
          · exact List.filterMap_cons_none hkey
          · rfl
      | some name =>
          have hknows : sec.knows key = decide (name ∈ sec.names) := by
            rw [Bool.eq_iff_iff, decide_eq_true_iff, knows_iff, YamlScalar.text?_eq_some.mp hkey]
            constructor
            · rintro ⟨_, hname, ⟨⟩⟩
              exact hname
            · exact fun hname => ⟨name, hname, rfl⟩
          rw [List.filterMap_cons_some hkey, List.filter_cons, List.filter_cons, hknows]
          by_cases hname : name ∈ sec.names
          · simpa [hname] using ih
          · simpa [hname, List.filterMap_cons_some hkey] using ih

/-- A mapping with an unknown key is refused. -/
theorem exists_refuses_mapping (h : ¬ sec.Takes (.mapping entries)) :
    ∃ fault, sec.Refuses (.mapping entries) fault ∧
      sec.build (.mapping entries) = .error fault := by
  have hstrangers : sec.strangers entries ≠ [] := mt strangers_eq_nil_iff.mp h
  have hbuild : sec.build (.mapping entries) = .error (sec.refuse (sec.strangers entries)) := by
    rw [build_mapping, if_neg (by simpa using hstrangers)]
  by_cases htexts : ∀ e ∈ entries, e.1.text?.isSome = true
  · have hall : ∀ key ∈ sec.strangers entries, key.text?.isSome = true := by
      intro key hkey
      obtain ⟨e, he, rfl⟩ := List.mem_map.mp (List.mem_of_mem_filter hkey)
      exact htexts e he
    obtain ⟨told, htold, horder, hrefuse⟩ := sec.refuse_of_texts hall
    have hne : told ≠ [] := by
      obtain ⟨key, hkey⟩ := List.exists_mem_of_ne_nil _ hstrangers
      obtain ⟨name, hname⟩ := Option.isSome_iff_exists.mp (hall key hkey)
      exact List.ne_nil_of_mem (htold.mem_iff.mpr (List.mem_filterMap.mpr ⟨key, hkey, hname⟩))
    rw [filterMap_strangers] at htold
    exact ⟨_, .unknown htexts hne htold horder, hbuild.trans (congrArg _ hrefuse)⟩
  · push Not at htexts
    obtain ⟨e, he, hkey⟩ := htexts
    replace hkey := Option.not_isSome_iff_eq_none.mp hkey
    have hstranger : e.1 ∈ sec.strangers entries := by
      refine List.mem_filter.mpr ⟨List.mem_map_of_mem he, ?_⟩
      rw [knows, hkey]
      rfl
    obtain ⟨message, hrefuse⟩ := sec.refuse_of_untold ⟨e.1, hstranger, hkey⟩
    exact ⟨_, .untold ⟨e, he, hkey⟩ message, hbuild.trans (congrArg _ hrefuse)⟩

/-- A section refuses what it does not take. -/
theorem exists_refuses (h : ¬ sec.Takes given) :
    ∃ fault, sec.Refuses given fault ∧ sec.build given = .error fault := by
  have hother (hnothing : given ≠ .scalar (.value .null))
      (hmapping : ∀ entries, given ≠ .mapping entries)
      (hbuild : sec.build given = .error (.sectionNotMapping sec.name)) :
      ∃ fault, sec.Refuses given fault ∧ sec.build given = .error fault :=
    ⟨_, .notMapping hnothing hmapping, hbuild⟩
  cases given with
  | mapping entries => exact exists_refuses_mapping h
  | scalar s =>
      have hnothing : s ≠ .value .null := fun hs => h (hs ▸ .nothing)
      refine hother (fun heq => hnothing (Yaml.scalar.inj heq)) nofun ?_
      unfold build
      split
      · rename_i heq
        exact absurd (Yaml.scalar.inj heq) hnothing
      · rename_i heq
        cases heq
      · rfl
  | sequence items => exact hother nofun nofun rfl
  | keySet keys => exact hother nofun nofun rfl
  | pairs items => exact hother nofun nofun rfl

theorem Takes.not_refuses (h : sec.Takes given) (fault : Fault) : ¬ sec.Refuses given fault := by
  intro hrefuses
  cases hrefuses with
  | notMapping hnothing hmapping =>
      cases h with
      | nothing => exact hnothing rfl
      | mapping _ => exact hmapping _ rfl
  | @unknown entries told _ hne htold _ =>
      have hnone := filterMap_strangers sec entries
      rw [strangers_eq_nil_iff.mpr h, List.filterMap_nil] at hnone
      rw [← hnone] at htold
      exact hne (List.perm_nil.mp htold)
  | untold hkey _ =>
      cases h with
      | mapping hknown =>
          obtain ⟨e, he, hnone⟩ := hkey
          obtain ⟨name, -, hkey⟩ := hknown e he
          rw [hkey] at hnone
          cases hnone

/-- What a section refuses is of a wrong kind exactly if it has a key that is no text. -/
theorem Refuses.wrongKind_iff {fault : Fault} (h : sec.Refuses given fault) :
    (∃ message, fault = .wrongKind message) ↔
      ∃ entries, given = .mapping entries ∧ ∃ e ∈ entries, e.1.text? = none := by
  cases h with
  | notMapping _ hmapping =>
      refine iff_of_false nofun ?_
      rintro ⟨entries, heq, -⟩
      exact hmapping entries heq
  | unknown htexts =>
      refine iff_of_false nofun ?_
      rintro ⟨_, ⟨⟩, e, he, hnone⟩
      have htext := htexts e he
      rw [hnone] at htext
      cases htext
  | @untold entries hkey message => exact iff_of_true ⟨message, rfl⟩ ⟨entries, rfl, hkey⟩

/-- Everything else is refused as malformed. -/
theorem Refuses.isMalformedSettings_iff {fault : Fault} (h : sec.Refuses given fault) :
    fault.IsMalformedSettings ↔ ¬ ∃ message, fault = .wrongKind message := by
  cases h with
  | notMapping => exact iff_of_true trivial nofun
  | unknown => exact iff_of_true trivial nofun
  | untold _ message => exact iff_of_false id (not_not_intro ⟨message, rfl⟩)

/-- What a document gives for a section. -/
def givenIn (sec : Section) : Yaml → Yaml
  | .mapping entries => Yaml.member entries sec.name
  | _ => .scalar (.value .null)

/-- A section does not take a mapping with a key that is no text. -/
theorem not_takes_of_untold {document : Yaml} (hgiven : sec.givenIn document = .mapping entries)
    (hkey : ∃ e ∈ entries, e.1.text? = none) : ¬ sec.Takes (sec.givenIn document) := by
  rw [hgiven]
  exact fun h => h.not_refuses _ (.untold hkey "")

end Section

namespace Settings

variable {document : Yaml}

/-- A document that settings are taken from: nothing, or a mapping with what its sections take. -/
structure TakenFrom (document : Yaml) : Prop where
  top : document = .scalar (.value .null) ∨ ∃ entries, document = .mapping entries
  sections : ∀ sec : Section, sec.Takes (sec.givenIn document)

/-- The first section in order that does not take what is given for it is given a mapping with a
key that is no text. -/
def MeetsUntold (document : Yaml) : Prop :=
  ∃ before sec after entries, Section.all = before ++ sec :: after ∧
    (∀ earlier ∈ before, earlier.Takes (earlier.givenIn document)) ∧
    sec.givenIn document = .mapping entries ∧ ∃ e ∈ entries, e.1.text? = none

/-- Settings are made of what the sections make of what is given for them, and the first section
that makes nothing of it decides otherwise. -/
theorem build_cases (given : Section → Yaml) :
    (∃ s, build given = .ok s ∧ ∀ sec : Section, ∃ r, sec.build (given sec) = .ok r ∧
      s.toRecord.get? sec.name =
        some (.object (sec.names.map fun name => (name, Record.get r name)))) ∨
    ∃ before sec after fault, Section.all = before ++ sec :: after ∧
      (∀ earlier ∈ before, ∃ r, earlier.build (given earlier) = .ok r) ∧
      sec.build (given sec) = .error fault ∧ build given = .error fault := by
  unfold build FetchSettings.build QuerySettings.build ExportSettings.build LogSettings.build
  cases hfetch : Section.fetch.build (given .fetch) with
  | error fault => exact .inr ⟨[], .fetch, _, fault, rfl, by simp, hfetch, rfl⟩
  | ok fetch =>
      cases hquery : Section.query.build (given .query) with
      | error fault =>
          exact .inr ⟨[.fetch], .query, _, fault, rfl, by simp [hfetch], hquery, rfl⟩
      | ok query =>
          cases hexports : Section.exports.build (given .exports) with
          | error fault =>
              exact .inr ⟨[.fetch, .query], .exports, _, fault, rfl, by simp [hfetch, hquery],
                hexports, rfl⟩
          | ok exports =>
              cases hlogging : Section.logging.build (given .logging) with
              | error fault =>
                  exact .inr ⟨[.fetch, .query, .exports], .logging, [], fault, rfl,
                    by simp [hfetch, hquery, hexports], hlogging, rfl⟩
              | ok logging =>
                  refine .inl ⟨_, rfl, fun sec => ?_⟩
                  cases sec with
                  | fetch => exact ⟨fetch, hfetch, rfl⟩
                  | query => exact ⟨query, hquery, rfl⟩
                  | exports => exact ⟨exports, hexports, rfl⟩
                  | logging => exact ⟨logging, hlogging, rfl⟩

theorem ofYaml_eq_build
    (htop : document = .scalar (.value .null) ∨ ∃ entries, document = .mapping entries) :
    ofYaml document = build fun sec => sec.givenIn document := by
  rcases htop with rfl | ⟨entries, rfl⟩
  · rfl
  · rfl

theorem ofYaml_eq_error (hnothing : document ≠ .scalar (.value .null))
    (hmapping : ∀ entries, document ≠ .mapping entries) :
    ofYaml document = .error .settingsNotMapping := by
  unfold ofYaml
  split
  · exact absurd rfl hnothing
  · exact absurd rfl (hmapping _)
  · rfl

/-- Settings are taken from a document, or it is no mapping, or the first section that does not
take what is given for it refuses it. -/
theorem ofYaml_cases (honce : ∀ (sec : Section) entries, sec.givenIn document = .mapping entries →
      Yaml.NamesOnce entries) :
    (∃ s, ofYaml document = .ok s ∧ TakenFrom document ∧ ∀ sec : Section, ∃ r,
      s.toRecord.get? sec.name = some (.object r) ∧ sec.Follows (sec.givenIn document) r) ∨
    (ofYaml document = .error .settingsNotMapping ∧ document ≠ .scalar (.value .null) ∧
      ∀ entries, document ≠ .mapping entries) ∨
    ∃ before sec after fault, Section.all = before ++ sec :: after ∧
      (∀ earlier ∈ before, earlier.Takes (earlier.givenIn document)) ∧
      sec.Refuses (sec.givenIn document) fault ∧ ofYaml document = .error fault := by
  by_cases htop : document = .scalar (.value .null) ∨ ∃ entries, document = .mapping entries
  · rw [ofYaml_eq_build htop]
    rcases build_cases fun sec => sec.givenIn document with ⟨s, hbuild, hsections⟩ |
      ⟨before, sec, after, fault, hall, hbefore, hsec, hbuild⟩
    · have htaken (sec : Section) : sec.Takes (sec.givenIn document) := by
        by_contra hrefused
        obtain ⟨fault, -, hfault⟩ := Section.exists_refuses hrefused
        obtain ⟨r, hr, -⟩ := hsections sec
        cases hr.symm.trans hfault
      refine .inl ⟨s, hbuild, ⟨htop, htaken⟩, fun sec => ?_⟩
      obtain ⟨r, hr, hfound⟩ := hsections sec
      obtain ⟨r', hr', hfollows⟩ := (htaken sec).follows (honce sec)
      obtain rfl : r = r' := Except.ok.inj (hr.symm.trans hr')
      have hdistinct : r.keys.Nodup := by
        rw [hfollows.keys]
        cases sec <;> decide
      rw [← hfollows.keys, Record.map_get_keys hdistinct] at hfound
      exact ⟨r, hfound, hfollows⟩
    · refine .inr (.inr ⟨before, sec, after, fault, hall, fun earlier hearlier => ?_, ?_, hbuild⟩)
      · by_contra hrefused
        obtain ⟨_, -, hfault⟩ := Section.exists_refuses hrefused
        obtain ⟨r, hr⟩ := hbefore earlier hearlier
        cases hr.symm.trans hfault
      · have hrefused : ¬ sec.Takes (sec.givenIn document) := by
          intro htakes
          obtain ⟨r, hr, -⟩ := htakes.follows (honce sec)
          cases hr.symm.trans hsec
        obtain ⟨fault', hrefuses, hfault⟩ := Section.exists_refuses hrefused
        rwa [Except.error.inj (hsec.symm.trans hfault)]
  · rw [not_or, not_exists] at htop
    exact .inr (.inl ⟨ofYaml_eq_error htop.1 htop.2, htop⟩)

theorem TakenFrom.exists_ofYaml (h : TakenFrom document)
    (honce : ∀ (sec : Section) entries, sec.givenIn document = .mapping entries →
      Yaml.NamesOnce entries) : ∃ s, ofYaml document = .ok s := by
  rcases ofYaml_cases honce with ⟨s, hs, -⟩ | ⟨-, hnothing, hmapping⟩ |
    ⟨before, sec, after, fault, -, -, hrefuses, -⟩
  · exact ⟨s, hs⟩
  · rcases h.top with hnull | ⟨entries, hentries⟩
    · exact absurd hnull hnothing
    · exact absurd hentries (hmapping entries)
  · exact absurd hrefuses ((h.sections sec).not_refuses fault)

/-- There is one first section that does not take what is given for it. -/
theorem first_refused_unique {before after before' after' : List Section} {sec sec' : Section}
    (hall : Section.all = before ++ sec :: after)
    (hbefore : ∀ earlier ∈ before, earlier.Takes (earlier.givenIn document))
    (hsec : ¬ sec.Takes (sec.givenIn document)) (hall' : Section.all = before' ++ sec' :: after')
    (hbefore' : ∀ earlier ∈ before', earlier.Takes (earlier.givenIn document))
    (hsec' : ¬ sec'.Takes (sec'.givenIn document)) : sec = sec' := by
  classical
  have hfirst {before after : List Section} {sec : Section}
      (hall : Section.all = before ++ sec :: after)
      (hbefore : ∀ earlier ∈ before, earlier.Takes (earlier.givenIn document))
      (hsec : ¬ sec.Takes (sec.givenIn document)) :
      Section.all.find? (fun sec => ¬ sec.Takes (sec.givenIn document)) = some sec :=
    List.find?_eq_some_iff_append.mpr
      ⟨by simpa using hsec, before, after, hall, fun earlier h => by simpa using hbefore earlier h⟩
  exact Option.some.inj ((hfirst hall hbefore hsec).symm.trans (hfirst hall' hbefore' hsec'))

/-- What the first section at fault refuses with tells whether an untold key is met. -/
theorem meetsUntold_iff {before after : List Section} {sec : Section} {fault : Fault}
    (hall : Section.all = before ++ sec :: after)
    (hbefore : ∀ earlier ∈ before, earlier.Takes (earlier.givenIn document))
    (hrefuses : sec.Refuses (sec.givenIn document) fault) :
    MeetsUntold document ↔ ∃ message, fault = .wrongKind message := by
  rw [hrefuses.wrongKind_iff]
  constructor
  · rintro ⟨before', sec', after', entries, hall', hbefore', hgiven, hkey⟩
    have hsec : ¬ sec.Takes (sec.givenIn document) := fun h => h.not_refuses fault hrefuses
    have hsec' := Section.not_takes_of_untold hgiven hkey
    obtain rfl := first_refused_unique hall hbefore hsec hall' hbefore' hsec'
    exact ⟨entries, hgiven, hkey⟩
  · rintro ⟨entries, hgiven, hkey⟩
    exact ⟨before, sec, after, entries, hall, hbefore, hgiven, hkey⟩

end Settings

/-- A file that was read gives a section each name once. -/
theorem Yaml.namesOnce_givenIn {text : String} {document : Yaml}
    (hread : Yaml.read (Section.all.map Section.name) text = .ok document) (sec : Section)
    (entries : List (YamlScalar × Yaml)) (hgiven : sec.givenIn document = .mapping entries) :
    NamesOnce entries := by
  cases document with
  | mapping given =>
      rcases member_cases given sec.name with hnone | ⟨e, he, hvalue⟩
      · cases hnone.symm.trans hgiven
      · exact read_namesOnce hread he (hvalue.trans hgiven)
  | scalar _ | sequence _ | keySet _ | pairs _ => cases hgiven

theorem Settings.ofFile_eq {path text : String} {document : Yaml}
    (hread : Yaml.read (Section.all.map Section.name) text = .ok document) :
    ofFile path (some text) = ofYaml document := by
  change (Yaml.read (Section.all.map Section.name) text >>= ofYaml) = _
  rw [hread, ok_bind]

/-- A file that is read gives settings exactly if its top is nothing or a mapping and each section
is nothing or a mapping whose keys are names of its settings: each setting has the value that is
given for it, or its default. Every other file is refused as malformed, unless the first section
that is at fault is a mapping with a key that is no text. Such a file is refused as well, but as
something of a wrong kind. -/
theorem Settings.ofFile_outcome {path text : String} {document : Yaml}
    (hread : Yaml.read (Section.all.map Section.name) text = .ok document) :
    ((∃ s, ofFile path (some text) = .ok s) ↔ TakenFrom document) ∧
    (∀ s, ofFile path (some text) = .ok s → ∀ sec : Section, ∃ r,
      s.toRecord.get? sec.name = some (.object r) ∧ sec.Follows (sec.givenIn document) r) ∧
    ((∃ fault, ofFile path (some text) = .error fault ∧ fault.IsMalformedSettings) ↔
      ¬ TakenFrom document ∧ ¬ MeetsUntold document) ∧
    ((∃ message, ofFile path (some text) = .error (.wrongKind message)) ↔
      MeetsUntold document) ∧
    ∀ fault, ofFile path (some text) = .error fault →
      fault = .settingsNotMapping ∨
        ∃ sec : Section, sec.Refuses (sec.givenIn document) fault := by
  rw [ofFile_eq hread]
  have honce := Yaml.namesOnce_givenIn hread
  have hfails {fault : Fault} (herror : ofYaml document = .error fault) :
      ¬ TakenFrom document := by
    intro htaken
    obtain ⟨s, hs⟩ := htaken.exists_ofYaml honce
    cases hs.symm.trans herror
  have hnotTaken : MeetsUntold document → ¬ TakenFrom document := by
    rintro ⟨before, sec, after, entries, -, -, hgiven, hkey⟩ htaken
    exact (Section.not_takes_of_untold hgiven hkey) (htaken.sections sec)
  rcases ofYaml_cases honce with ⟨s, hs, htaken, hfollows⟩ |
    ⟨herror, hnothing, hmapping⟩ | ⟨before, sec, after, fault, hall, hbefore, hrefuses, herror⟩
  · rw [hs]
    have hmeets : ¬ MeetsUntold document := fun h => hnotTaken h htaken
    refine ⟨iff_of_true ⟨s, rfl⟩ htaken, ?_, iff_of_false nofun ?_, iff_of_false nofun hmeets,
      nofun⟩
    · rintro _ ⟨⟩
      exact hfollows
    · exact fun h => h.1 htaken
  · have htaken := hfails herror
    rw [herror]
    have hmeets : ¬ MeetsUntold document := by
      rintro ⟨before, sec, after, entries, -, -, hgiven, -⟩
      cases document with
      | mapping entries => exact hmapping entries rfl
      | scalar _ | sequence _ | keySet _ | pairs _ => cases hgiven
    refine ⟨iff_of_false nofun htaken, nofun, iff_of_true ⟨_, rfl, trivial⟩ ⟨htaken, hmeets⟩,
      iff_of_false nofun hmeets, ?_⟩
    rintro _ ⟨⟩
    exact .inl rfl
  · have htaken := hfails herror
    have hmeets := meetsUntold_iff hall hbefore hrefuses
    rw [herror]
    refine ⟨iff_of_false nofun htaken, nofun, ?_, ?_, ?_⟩
    · rw [hmeets, ← hrefuses.isMalformedSettings_iff]
      constructor
      · rintro ⟨_, ⟨⟩, hmalformed⟩
        exact ⟨htaken, hmalformed⟩
      · exact fun h => ⟨fault, rfl, h.2⟩
    · rw [hmeets]
      simp only [Except.error.injEq]
    · rintro _ ⟨⟩
      exact .inr ⟨sec, hrefuses⟩

/-- What is given for one section counts, and a section that is left empty takes nothing. -/
theorem Settings.ofFile_outcome_fetch :
    ∃ document s r, Yaml.read (Section.all.map Section.name)
        "fetch:\n  history_size: 7\nquery:\n" = .ok document ∧
      ofFile "config.yaml" (some "fetch:\n  history_size: 7\nquery:\n") = .ok s ∧
      TakenFrom document ∧ s.toRecord.get? "fetch" = some (.object r) ∧
      Section.fetch.Follows (Section.fetch.givenIn document) r := by
  have hreads : (Yaml.read (Section.all.map Section.name)
      "fetch:\n  history_size: 7\nquery:\n").toOption.isSome = true := by decide +kernel
  have hsettings : (ofFile "config.yaml"
      (some "fetch:\n  history_size: 7\nquery:\n")).toOption.isSome = true := by decide +kernel
  obtain ⟨document, hread⟩ := Option.isSome_iff_exists.mp hreads
  obtain ⟨s, hs⟩ := Option.isSome_iff_exists.mp hsettings
  rw [toOption_eq_some] at hread hs
  have houtcome := @ofFile_outcome "config.yaml" _ _ hread
  obtain ⟨r, hfound, hfollows⟩ := houtcome.2.1 s hs .fetch
  exact ⟨document, s, r, hread, hs, houtcome.1.mp ⟨s, hs⟩, hfound, hfollows⟩

/-- A section with a number for a key is not taken, and the file that has it is not refused as
malformed: the number cannot be told among the unknown keys. -/
theorem Settings.ofFile_number_key :
    ∃ document, Yaml.read (Section.all.map Section.name) "fetch:\n  1: x\n" = .ok document ∧
      ¬ TakenFrom document ∧
      ofFile "config.yaml" (some "fetch:\n  1: x\n") =
        .error (.wrongKind "sequence item 0: expected str instance, int found") ∧
      ¬ ∃ fault, ofFile "config.yaml" (some "fetch:\n  1: x\n") = .error fault ∧
        fault.IsMalformedSettings := by
  have hreads : (Yaml.read (Section.all.map Section.name) "fetch:\n  1: x\n").toOption.isSome =
      true := by decide +kernel
  have hfile : (ofFile "config.yaml" (some "fetch:\n  1: x\n")).map (fun _ => ()) =
      .error (.wrongKind "sequence item 0: expected str instance, int found") := by
    decide +kernel
  obtain ⟨document, hread⟩ := Option.isSome_iff_exists.mp hreads
  rw [toOption_eq_some] at hread
  rw [map_eq_error] at hfile
  have hoff : ¬ ∃ fault, ofFile "config.yaml" (some "fetch:\n  1: x\n") = .error fault ∧
      fault.IsMalformedSettings := by
    rintro ⟨fault, hfault, hmalformed⟩
    obtain rfl := Except.error.inj (hfile.symm.trans hfault)
    exact hmalformed
  have hnotTaken : ¬ TakenFrom document := by
    intro htaken
    obtain ⟨s, hs⟩ := htaken.exists_ofYaml (Yaml.namesOnce_givenIn hread)
    have hread' : ofFile "config.yaml" (some "fetch:\n  1: x\n") = .ok s := by
      rw [ofFile_eq hread, hs]
    cases hread'.symm.trans hfile
  exact ⟨document, hread, hnotTaken, hfile, hoff⟩

end JsonQuery
