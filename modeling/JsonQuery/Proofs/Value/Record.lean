import JsonQuery.Value.Basic
import Mathlib.Tactic

/-!
Records as maps. A write is seen under its own key and nowhere else. It keeps the other keys in
their places, and its own too if that is there already. So writing the members of one record into
another is writing them one after the other, also when the first record was written that way
itself.
-/

namespace JsonQuery.Record

variable {r members : Record} {k j : String} {v : Value}

@[simp] theorem get?_nil (key : String) : get? [] key = none := rfl

theorem get?_cons (k : String) (v : Value) (r : Record) (key : String) :
    get? ((k, v) :: r) key = if k = key then some v else get? r key := by
  unfold get?
  rw [List.lookup_cons]
  by_cases hk : k = key
  · rw [if_pos hk, hk, BEq.rfl]
  · rw [if_neg hk, beq_false_of_ne (Ne.symm hk)]

/-- What is found under a key stands there as a member. -/
theorem mem_of_get? (h : r.get? k = some v) : (k, v) ∈ r := by
  induction r with
  | nil => cases h
  | cons m r ih =>
      obtain ⟨first, old⟩ := m
      rw [get?_cons] at h
      split at h
      · rename_i hfirst
        rw [hfirst, Option.some.inj h]
        exact List.mem_cons_self
      · exact List.mem_cons_of_mem _ (ih h)

theorem isSome_get?_iff : (r.get? k).isSome = true ↔ k ∈ r.keys := by
  induction r with
  | nil => exact iff_of_false Bool.false_ne_true List.not_mem_nil
  | cons m r ih =>
      have hkeys : keys (m :: r) = m.1 :: keys r := rfl
      rw [get?_cons, hkeys, List.mem_cons]
      split
      · rename_i hk
        exact iff_of_true rfl (.inl hk.symm)
      · rename_i hk
        rw [ih, or_iff_right (Ne.symm hk)]

/-- A member is found under its key if no key stands twice. -/
theorem get?_of_mem (hdistinct : r.keys.Nodup) (h : (k, v) ∈ r) : r.get? k = some v := by
  induction r with
  | nil => exact absurd h List.not_mem_nil
  | cons m r ih =>
      obtain ⟨hfirst, hlater⟩ := List.nodup_cons.mp hdistinct
      rw [get?_cons]
      rcases List.mem_cons.mp h with rfl | hmem
      · exact if_pos rfl
      · have hk : m.1 ≠ k := by
          rintro rfl
          exact hfirst (List.mem_map.mpr ⟨_, hmem, rfl⟩)
        rw [if_neg hk]
        exact ih hlater hmem

/-- A record in which no key stands twice is told by its keys and what is found under them. -/
theorem map_get_keys (hdistinct : r.keys.Nodup) : (r.keys.map fun key => (key, r.get key)) = r := by
  rw [keys, List.map_map]
  refine (List.map_congr_left fun m hm => ?_).trans (List.map_id r)
  have hvalue : r.get m.1 = m.2 := by
    rw [get, get?_of_mem hdistinct hm]
    rfl
  exact Prod.ext rfl hvalue

/-- Under a key is null or one of the values of the members. -/
theorem get_of_forall {P : Value → Prop} (hnull : P .null) (h : ∀ m ∈ r, P m.2) (k : String) :
    P (r.get k) := by
  rw [get]
  cases hv : r.get? k with
  | none => exact hnull
  | some v => exact h (k, v) (mem_of_get? hv)

/-- A write is seen under its own key and nowhere else. -/
theorem get?_put (r : Record) (k : String) (v : Value) (key : String) :
    (r.put k v).get? key = if k = key then some v else r.get? key := by
  induction r with
  | nil => rw [put, get?_cons]
  | cons m r ih =>
      obtain ⟨first, old⟩ := m
      rw [put]
      by_cases hfirst : first = k
      · rw [if_pos (beq_iff_eq.mpr hfirst), get?_cons, get?_cons, hfirst]
        by_cases hkey : k = key
        · rw [if_pos hkey, if_pos hkey]
        · rw [if_neg hkey, if_neg hkey, if_neg hkey]
      · rw [if_neg (by simpa using hfirst), get?_cons, get?_cons, ih]
        by_cases hkey : first = key
        · have hother : k ≠ key := fun heq => hfirst (hkey.trans heq.symm)
          rw [if_pos hkey, if_neg hother, if_pos hkey]
        · rw [if_neg hkey, if_neg hkey]

/-- A write keeps the keys in their places and adds its own at the end if it is not among them. -/
theorem keys_put (r : Record) (k : String) (v : Value) :
    (r.put k v).keys = if k ∈ r.keys then r.keys else r.keys ++ [k] := by
  induction r with
  | nil => rfl
  | cons m r ih =>
      obtain ⟨first, old⟩ := m
      rw [put]
      by_cases hfirst : first = k
      · rw [if_pos (beq_iff_eq.mpr hfirst), hfirst]
        exact (if_pos List.mem_cons_self).symm
      · rw [if_neg (by simpa using hfirst)]
        change first :: keys (put r k v) = if k ∈ first :: keys r then first :: keys r else _
        rw [ih]
        by_cases hk : k ∈ keys r
        · rw [if_pos hk, if_pos (List.mem_cons_of_mem _ hk)]
        · rw [if_neg hk, if_neg (by simp [hk, Ne.symm hfirst])]
          rfl

theorem mem_keys_put_iff : j ∈ (r.put k v).keys ↔ j = k ∨ j ∈ r.keys := by
  rw [keys_put]
  split
  · rename_i hk
    exact ⟨.inr, fun h => h.elim (fun heq => heq ▸ hk) id⟩
  · rw [List.mem_append, List.mem_singleton, or_comm]

/-- Of two writes under one key the later one counts. -/
theorem put_put_self (r : Record) (k : String) (v w : Value) : (r.put k v).put k w = r.put k w := by
  induction r with
  | nil => simp [put]
  | cons m r ih =>
      obtain ⟨first, old⟩ := m
      by_cases hfirst : first = k
      · simp [put, hfirst]
      · simp [put, hfirst, ih]

/-- A write under a key that is there already may come before or behind a write under another
key. -/
theorem put_put_comm (hk : k ∈ r.keys) (hne : j ≠ k) (v w : Value) :
    (r.put j w).put k v = (r.put k v).put j w := by
  induction r with
  | nil => exact absurd hk List.not_mem_nil
  | cons m r ih =>
      obtain ⟨first, old⟩ := m
      by_cases hfirst : first = k
      · have hj : ¬ k = j := Ne.symm hne
        simp [put, hfirst, hj]
      · have hlater : k ∈ keys r := (List.mem_cons.mp hk).resolve_left (Ne.symm hfirst)
        by_cases hother : first = j
        · simp [put, hother, hne]
        · simp [put, hfirst, hother, ih hlater]

theorem putAll_cons (r : Record) (m : String × Value) (members : Record) :
    r.putAll (m :: members) = (r.put m.1 m.2).putAll members := rfl

theorem putAll_append (r first later : Record) :
    r.putAll (first ++ later) = (r.putAll first).putAll later := List.foldl_append

/-- A write under a key that is there already may come before or behind writes under other
keys. -/
theorem put_putAll (hk : k ∈ r.keys) (hother : k ∉ members.keys) (v : Value) :
    (r.putAll members).put k v = (r.put k v).putAll members := by
  induction members generalizing r with
  | nil => rfl
  | cons m members ih =>
      have hsplit : m.1 ≠ k ∧ k ∉ keys members := by
        rw [keys, List.map_cons, List.mem_cons, not_or] at hother
        exact ⟨Ne.symm hother.1, hother.2⟩
      rw [putAll_cons, putAll_cons, ih (mem_keys_put_iff.mpr (.inr hk)) hsplit.2,
        put_put_comm hk hsplit.1]

/-- Merging in a record into which a value was written is merging it in and writing then. -/
theorem putAll_put (hdistinct : members.keys.Nodup) (row : Record) (k : String) (v : Value) :
    row.putAll (members.put k v) = (row.putAll members).put k v := by
  induction members generalizing row with
  | nil => rfl
  | cons m members ih =>
      obtain ⟨first, old⟩ := m
      obtain ⟨hfirst, hlater⟩ := List.nodup_cons.mp hdistinct
      by_cases hk : first = k
      · subst hk
        have hmem : first ∈ (row.put first old).keys := mem_keys_put_iff.mpr (.inl rfl)
        rw [put, if_pos BEq.rfl, putAll_cons, putAll_cons, put_putAll hmem hfirst, put_put_self]
      · rw [put, if_neg (by simpa using hk), putAll_cons, putAll_cons, ih hlater]

theorem nodup_keys_put (hdistinct : r.keys.Nodup) (k : String) (v : Value) :
    (r.put k v).keys.Nodup := by
  rw [keys_put]
  split
  · exact hdistinct
  · rename_i hk
    exact List.nodup_append.mpr ⟨hdistinct, List.nodup_singleton k, by
      rintro a ha b hb rfl
      exact hk (List.mem_singleton.mp hb ▸ ha)⟩

theorem nodup_keys_putAll (hdistinct : r.keys.Nodup) (entries : Record) :
    (r.putAll entries).keys.Nodup := by
  induction entries generalizing r with
  | nil => exact hdistinct
  | cons e entries ih => exact ih (nodup_keys_put hdistinct e.1 e.2)

/-- Merging in a record that was itself written member by member is writing these members. -/
theorem putAll_putAll (hdistinct : members.keys.Nodup) (row entries : Record) :
    row.putAll (members.putAll entries) = (row.putAll members).putAll entries := by
  induction entries generalizing members with
  | nil => rfl
  | cons e entries ih =>
      rw [putAll_cons, putAll_cons, ih (nodup_keys_put hdistinct _ _), putAll_put hdistinct]

theorem putAll_putAll_nil (row entries : Record) :
    row.putAll (putAll [] entries) = row.putAll entries :=
  @putAll_putAll [] List.nodup_nil row entries

/-- Under a key stands what was written there last. -/
theorem get?_putAll (r entries : Record) (key : String) :
    (r.putAll entries).get? key = (get? entries.reverse key).or (r.get? key) := by
  induction entries generalizing r with
  | nil => rfl
  | cons e entries ih =>
      obtain ⟨k, v⟩ := e
      rw [putAll_cons, ih, get?_put, List.reverse_cons]
      have happend : get? (entries.reverse ++ [(k, v)]) key =
          (get? entries.reverse key).or (if k = key then some v else none) := by
        rw [get?, List.lookup_append]
        rw [← get?, ← get?, get?_cons, get?_nil]
      rw [happend, Option.or_assoc]
      congr 1
      split <;> rfl

/-- The keys of a record into which members were written: those it had, and behind them the
others in the order in which they were written first. -/
theorem keys_putAll (r entries : Record) :
    (r.putAll entries).keys =
      r.keys ++ (entries.keys.filter fun k => k ∉ r.keys).eraseDups := by
  induction entries generalizing r with
  | nil => exact (List.append_nil _).symm
  | cons e entries ih =>
      obtain ⟨k, v⟩ := e
      have hkeys : keys ((k, v) :: entries) = k :: keys entries := rfl
      rw [putAll_cons, ih, hkeys, keys_put]
      by_cases hk : k ∈ r.keys
      · rw [if_pos hk, List.filter_cons_of_neg (by simpa using hk)]
      · rw [if_neg hk, List.filter_cons_of_pos (by simpa using hk), List.eraseDups_cons,
          List.filter_filter, List.append_assoc]
        have hsame : (keys entries).filter (fun l => decide (l ∉ r.keys ++ [k])) =
            (keys entries).filter fun l => !l == k && decide (l ∉ r.keys) := by
          apply List.filter_congr
          intro l _
          by_cases hl : l = k <;> simp [hl]
        rw [hsame]
        rfl

end JsonQuery.Record
