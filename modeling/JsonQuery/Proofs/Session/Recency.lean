import JsonQuery.Proofs.Session.Operation
import Mathlib.Data.List.Nodup

/-!
The history of a workspace as the list of the places used most recently. A load from a place puts
it first and drops it further behind, and the list is cut each time. Nothing is lost by that: one
place at most is dropped, and it makes room for the one put first, so no place that was cut off
could have come back without being loaded again.
-/

namespace JsonQuery

open Outcome

section Recency

variable {visits urls : List String}

/-- The places of some visits, given from the latest to the first: each once, and those visited
later before the others. -/
structure ByLatestVisit (visits urls : List String) : Prop where
  mem_iff : ∀ url, url ∈ urls ↔ url ∈ visits
  newestFirst : urls.Pairwise fun a b => visits.idxOf a < visits.idxOf b

theorem ByLatestVisit.nil : ByLatestVisit [] [] := ⟨fun _ => Iff.rfl, .nil⟩

theorem ByLatestVisit.nodup (h : ByLatestVisit visits urls) : urls.Nodup := by
  refine h.newestFirst.imp ?_
  rintro a _ hless rfl
  exact absurd hless (lt_irrefl _)

theorem ByLatestVisit.visit (h : ByLatestVisit visits urls) (url : String) :
    ByLatestVisit (url :: visits) (url :: urls.filter (· != url)) where
  mem_iff other := by
    by_cases heq : other = url <;> simp [heq, h.mem_iff]
  newestFirst := by
    rw [List.pairwise_cons]
    constructor
    · intro other hother
      have hne : url ≠ other := (bne_iff_ne.mp (List.mem_filter.mp hother).2).symm
      simp [List.idxOf_cons_ne _ hne]
    · refine List.Pairwise.imp_of_mem ?_ (h.newestFirst.sublist List.filter_sublist)
      intro a b ha hb hless
      have hane : url ≠ a := (bne_iff_ne.mp (List.mem_filter.mp ha).2).symm
      have hbne : url ≠ b := (bne_iff_ne.mp (List.mem_filter.mp hb).2).symm
      rw [List.idxOf_cons_ne _ hane, List.idxOf_cons_ne _ hbne]
      omega

/-- Dropping one of distinct elements from a front part one longer than needed leaves enough. -/
theorem take_filter_take (h : urls.Nodup) (url : String) (n : ℕ) :
    ((urls.take (n + 1)).filter (· != url)).take n = (urls.filter (· != url)).take n := by
  induction urls generalizing n with
  | nil => rfl
  | cons first urls ih =>
      obtain ⟨hfirst, hurls⟩ := List.nodup_cons.mp h
      rw [List.take_succ_cons]
      by_cases heq : first = url
      · -- no other element is dropped
        have hkept (front : List String) (hfront : ∀ other ∈ front, other ∈ urls) :
            front.filter (· != url) = front := by
          apply List.filter_eq_self.mpr
          intro other hother
          have hne : other ≠ url := fun hsame => hfirst (heq ▸ hsame ▸ hfront other hother)
          simpa using hne
        rw [List.filter_cons_of_neg (by simp [heq]), List.filter_cons_of_neg (by simp [heq]),
          hkept _ fun _ => List.mem_of_mem_take, hkept _ fun _ => id, List.take_take,
          Nat.min_self]
      · rw [List.filter_cons_of_pos (by simpa using heq),
          List.filter_cons_of_pos (by simpa using heq)]
        cases n with
        | zero => rfl
        | succ n => rw [List.take_succ_cons, List.take_succ_cons, ih hurls]

/-- The entry of a place, under the name it is listed by. -/
def Endpoint.ofUrl (url : String) : Endpoint := ⟨url, endpointName url⟩

/-- Remembering a place in a cut history is remembering it in the whole one and cutting then. -/
theorem remember_take (h : urls.Nodup) (size : ℕ) (url : String) :
    remember (Value.ofInt size) ((urls.map Endpoint.ofUrl).take size) url =
      .ok (((url :: urls.filter (· != url)).map Endpoint.ofUrl).take size) := by
  have hkeep (entries : List Endpoint) :
      keepEntries (Value.ofInt size) entries = .ok (entries.take size) := by
    have hsize : ¬ (size : ℤ) < 0 := by omega
    simp [keepEntries, Value.ofInt, hsize]
  have hdropped : ((urls.map Endpoint.ofUrl).take size).filter (fun e => e.url != url) =
      ((urls.take size).filter (· != url)).map Endpoint.ofUrl := by
    rw [← List.map_take, List.filter_map]
    rfl
  rw [remember, hkeep, hdropped]
  congr 1
  cases size with
  | zero => rfl
  | succ n =>
      rw [List.map_cons, List.take_succ_cons, List.take_succ_cons, ← List.map_take, ← List.map_take,
        take_filter_take h]
      rfl

end Recency

namespace Workspace

/-- The runs of a workspace from its start, each operation with its answer, the latest first. -/
inductive Course (settings : Settings) : List (Operation × Answer) → Workspace → Prop where
  | start : Course settings [] (start settings)
  | step {past : List (Operation × Answer)} {w : Workspace} (course : Course settings past w)
      {operation : Operation} {answer : Answer}
      (answered : (w.operate operation).outcome = .ok answer) :
      Course settings ((operation, answer) :: past) (w.operate operation).workspace

/-- The place that a URL is remembered as. The empty one is remembered as none. -/
def placeOf? : Option String → Option String
  | none | some "" => none
  | some url => some url

/-- The place that an operation loaded data from, as it answered. -/
def placeLoaded? : Operation × Answer → Option String
  | (.load _ url, .loaded _) => placeOf? url
  | (.fetch _ (.string url), .fetched (.ok _)) => placeOf? (some url)
  | _ => none

/-- The workspace after a step has the settings of the one before, and its history with the place
that data were loaded from, if any. -/
def Follows (w : Workspace) (place : Option String) (after : Workspace) : Prop :=
  after.settings = w.settings ∧
    match place with
    | none => after.history = w.history
    | some url => remember w.settings.fetch.historySize w.history url = .ok after.history

variable {settings : Settings} {past : List (Operation × Answer)} {w : Workspace}

theorem placeOf?_of_ne {url : String} (h : url ≠ "") : placeOf? (some url) = some url := by
  unfold placeOf?
  split <;> simp_all

theorem load_follows {data : Value} {url : Option String} {d : Dataset} :
    (w.load data url).outcome = .ok d →
      w.Follows (placeOf? url) (w.load data url).workspace := by
  unfold load
  cases Dataset.ofValue data url with
  | error fault => exact nofun
  | ok dataset =>
      dsimp only
      split
      · exact nofun
      · rename_i history hremembered
        intro _
        refine ⟨rfl, ?_⟩
        split at hremembered
        · exact (Except.ok.inj hremembered).symm
        · exact (Except.ok.inj hremembered).symm
        · rename_i hgiven _
          rw [placeOf?_of_ne fun hempty => hgiven hempty]
          exact hremembered

/-- Data that make a dataset are loaded if the length of the history is a number. -/
theorem load_answers {data : Value} {url : Option String} {d : Dataset} {size : ℕ}
    (hdata : Dataset.ofValue data url = .ok d)
    (hsize : w.settings.fetch.historySize = Value.ofInt size) :
    (w.load data url).outcome = .ok d := by
  unfold load
  rw [hdata]
  dsimp only
  split
  · rename_i fault hremembered
    split at hremembered
    · nomatch hremembered
    · nomatch hremembered
    · rw [hsize] at hremembered
      nomatch hremembered
  · rfl

theorem fetch_follows {network : Network} {url : Value} {result : Except FetchProblem Fetched} :
    (w.fetch network url).outcome = .ok result →
      w.Follows (placeLoaded? (.fetch network url, .fetched result))
        (w.fetch network url).workspace := by
  unfold fetch
  dsimp only
  cases (JsonQuery.fetch w.settings.fetch network url).outcome with
  | error fault => exact nofun
  | ok fetched =>
      intro hanswer
      cases fetched with
      | error problem =>
          rw [← Except.ok.inj hanswer]
          exact ⟨rfl, by cases url <;> rfl⟩
      | ok fetched =>
          obtain ⟨d, hd, rfl⟩ := map_eq_ok.mp hanswer
          cases url with
          | string text => exact load_follows hd
          | null | bool _ | number _ | array _ | object _ => exact load_follows hd

/-- Whatever a step answers, it changes the history by the place that data were loaded from. -/
theorem operate_follows {operation : Operation} {answer : Answer}
    (hanswer : (w.operate operation).outcome = .ok answer) :
    w.Follows (placeLoaded? (operation, answer)) (w.operate operation).workspace := by
  cases operation with
  | load data url =>
      obtain ⟨d, hd, rfl⟩ := WorkspaceStep.map_eq_ok.mp hanswer
      exact load_follows hd
  | fetch network url =>
      obtain ⟨result, hresult, rfl⟩ := WorkspaceStep.map_eq_ok.mp hanswer
      exact fetch_follows hresult
  | filter rules =>
      change w.Follows none (w.filter rules).workspace
      obtain ⟨_, hkept, -⟩ | ⟨-, hkept, -⟩ | ⟨_, -, hkept, -⟩ := w.filter_cases rules
      all_goals
        rw [hkept]
        exact ⟨rfl, rfl⟩
  | query text => exact ⟨rfl, rfl⟩
  | reset => exact ⟨rfl, rfl⟩
  | exportDisplayed format today =>
      change w.Follows none (w.exportDisplayed format today).workspace
      rw [w.exportDisplayed_workspace format today]
      exact ⟨rfl, rfl⟩
  | clear => exact ⟨rfl, rfl⟩

theorem Course.settings_eq (course : Course settings past w) : w.settings = settings := by
  induction course with
  | start => rfl
  | step _ hanswer ih => exact (operate_follows hanswer).1.trans ih

/-- After every run, the history is the front part of all places that data were loaded from, each
once and those loaded from later first, of the length that is set. -/
theorem history_of_course (course : Course settings past w) {size : ℕ}
    (hsize : settings.fetch.historySize = Value.ofInt size) :
    ∃ urls, ByLatestVisit (past.filterMap placeLoaded?) urls ∧
      w.history = (urls.map Endpoint.ofUrl).take size := by
  induction course with
  | start => exact ⟨[], .nil, List.take_nil.symm⟩
  | @step past w course operation answer hanswer ih =>
      obtain ⟨urls, hurls, hhistory⟩ := ih
      obtain ⟨-, hplace⟩ := operate_follows hanswer
      cases hloaded : placeLoaded? (operation, answer) with
      | none =>
          rw [hloaded] at hplace
          refine ⟨urls, ?_, hplace.trans hhistory⟩
          rw [List.filterMap_cons_none hloaded]
          exact hurls
      | some url =>
          rw [hloaded] at hplace
          refine ⟨url :: urls.filter (· != url), ?_, ?_⟩
          · rw [List.filterMap_cons_some hloaded]
            exact hurls.visit url
          · dsimp only at hplace
            rw [course.settings_eq, hsize, hhistory, remember_take hurls.nodup] at hplace
            exact (Except.ok.inj hplace).symm

/-- A place is cut off and loaded from again, with a fetch in between that has a problem. -/
theorem history_of_course_again :
    let settings := { Settings.default with
      fetch := { FetchSettings.default with historySize := Value.ofInt 2 } }
    let a := "https://a.example.com/one"
    let b := "https://b.example.com/two"
    let c := "https://c.example.com/three"
    ∃ past w, Course settings past w ∧ past.filterMap placeLoaded? = [a, c, b, a] ∧
      ∃ urls, ByLatestVisit [a, c, b, a] urls ∧
        w.history = (urls.map Endpoint.ofUrl).take 2 := by
  intro settings a b c
  let loaded (url : String) : Answer := .loaded ⟨.null, some url, .error .notArray⟩
  have hload {past : List (Operation × Answer)} {w : Workspace} (course : Course settings past w)
      (url : String) : (w.operate (.load .null (some url))).outcome = .ok (loaded url) := by
    have hsize : w.settings.fetch.historySize = Value.ofInt (2 : ℕ) := by
      rw [course.settings_eq]
      rfl
    exact WorkspaceStep.map_eq_ok.mpr ⟨_, load_answers rfl hsize, rfl⟩
  have hfetch (w : Workspace) : (w.operate (.fetch (fun _ => .timeout) (.string ""))).outcome =
      .ok (.fetched (.error .noUrl)) := rfl
  have hfirst := Course.start.step (hload .start a)
  have hsecond := hfirst.step (hload hfirst b)
  have hthird := hsecond.step (hload hsecond c)
  have hfailed := hthird.step (hfetch _)
  have hlast := hfailed.step (hload hfailed a)
  exact ⟨_, _, hlast, rfl, history_of_course hlast rfl⟩

end Workspace

end JsonQuery
