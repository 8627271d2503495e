import JsonQuery.Fetch.Basic
import JsonQuery.Proofs.Outcome
import Mathlib.Data.List.Chain

/-!
The requests that a fetch sends. The text of a URL is judged once, before anything is
requested, and a text that is refused is never requested. What is requested after that is
settled by the answers: every further request goes where the answer before it sends it, and
where that is, is not judged.
-/

namespace JsonQuery

open Outcome

/-- A text of a URL whose scheme is allowed and whose host, in lower case, begins in none of the
ways that are blocked. -/
def FetchSettings.Permits (settings : FetchSettings) (text : String) : Prop :=
  ∃ parts starts, UrlParts.ofText? text = some parts ∧ parts.scheme ≠ "" ∧ parts.host ≠ "" ∧
    settings.allowsScheme parts.scheme = .ok true ∧ settings.blockedStarts = .ok starts ∧
    ∀ start ∈ starts, ∃ s, start = .string s ∧
      Text.startsWith s.toList (Text.lower parts.host).toList = false

/-- The answer to a request for one URL sends it on to another. -/
def LeadsTo (network : Network) (u v : RequestUrl) : Prop :=
  ∃ response location, network (String.ofList u.print) = .answer response ∧
    response.location? = some location ∧ u.redirect location.toList = .ok v

variable {settings : FetchSettings}

/-- A host begins in none of some ways exactly if each of them is a text and not how the host
begins. -/
theorem beginsWithAny_eq_false {host : String} {starts : List Value} :
    beginsWithAny host starts = .ok false ↔
      ∀ start ∈ starts, ∃ s, start = .string s ∧ Text.startsWith s.toList host.toList = false := by
  induction starts with
  | nil => simp [beginsWithAny]
  | cons start starts ih =>
      cases start with
      | string s =>
          rw [beginsWithAny, List.forall_mem_cons, ← ih]
          cases hstart : Text.startsWith s.toList host.toList with
          | true => simp [hstart]
          | false => simp [hstart]
      | null | bool _ | number _ | array _ | object _ => simp [beginsWithAny]

theorem permits_of_permittedUrl {url : Value} {text : String}
    (h : permittedUrl settings url = .ok text) : url = .string text ∧ settings.Permits text := by
  unfold permittedUrl at h
  cases url with
  | string typed =>
      obtain ⟨-, h⟩ := unless_throw_eq_ok.mp h
      cases hparts : UrlParts.ofText? typed with
      | none => rw [hparts] at h; nomatch h
      | some parts =>
          rw [hparts] at h
          obtain ⟨hnamed, h⟩ := unless_throw_eq_ok.mp h
          obtain ⟨allowed, hallowed, h⟩ := bind_eq_ok.mp h
          obtain ⟨hscheme, h⟩ := unless_throw_eq_ok.mp h
          obtain ⟨starts, hstarts, h⟩ := bind_eq_ok.mp h
          obtain ⟨blocked, hblocked, h⟩ := bind_eq_ok.mp h
          obtain ⟨rfl, h⟩ := unless_throw_eq_ok.mp h
          obtain rfl := pure_eq_ok.mp h
          obtain rfl : allowed = true := by simpa using hscheme
          refine ⟨rfl, parts, starts, hparts, ?_, ?_, hallowed, hstarts,
            beginsWithAny_eq_false.mp hblocked⟩
          · rintro hempty
            simp [hempty] at hnamed
          · rintro hempty
            simp [hempty] at hnamed
  | null | bool _ | number _ | array _ | object _ => nomatch h

theorem follow_cases (timeLimit : Except Fault String) (network : Network) (redirects : Nat)
    (url : RequestUrl) :
    (follow timeLimit network redirects url).urls = [String.ofList url.print] ∨
    ∃ left next, redirects = left + 1 ∧ LeadsTo network url next ∧
      (follow timeLimit network redirects url).urls =
        String.ofList url.print :: (follow timeLimit network left next).urls := by
  -- every branch requests the URL, and only the innermost one requests anything behind it
  rw [follow]
  dsimp only
  split
  · exact .inl rfl
  · exact .inl rfl
  · exact .inl rfl
  next response hreply =>
    split
    · exact .inl rfl
    split
    · exact .inl rfl
    split
    · exact .inl rfl
    next location hlocation =>
      split
      · exact .inl rfl
      next next hnext =>
        split
        · exact .inl rfl
        next left =>
          exact .inr ⟨left, next, rfl, ⟨response, location, hreply, hlocation, hnext⟩, rfl⟩

/-- What is requested is a chain of URLs, each the one that the answer before it leads to. -/
theorem follow_urls (timeLimit : Except Fault String) (network : Network) (redirects : Nat)
    (url : RequestUrl) :
    ∃ later, (url :: later).IsChain (LeadsTo network) ∧ later.length ≤ redirects ∧
      (follow timeLimit network redirects url).urls =
        (url :: later).map fun u => String.ofList u.print := by
  induction redirects generalizing url with
  | zero =>
      obtain hurls | ⟨_, _, hzero, -⟩ := follow_cases timeLimit network 0 url
      · exact ⟨[], .singleton url, Nat.le_refl 0, hurls⟩
      · nomatch hzero
  | succ redirects ih =>
      obtain hurls | ⟨left, next, hleft, hleads, hurls⟩ :=
        follow_cases timeLimit network (redirects + 1) url
      · exact ⟨[], .singleton url, Nat.zero_le _, hurls⟩
      · obtain rfl : redirects = left := by omega
        obtain ⟨later, hchain, hlength, hlater⟩ := ih next
        refine ⟨next :: later, hchain.cons_cons hleads, Nat.succ_le_succ hlength, ?_⟩
        rw [hurls, hlater]
        rfl

theorem sendRequest_requests (settings : FetchSettings) (network : Network) (text : String) :
    (sendRequest settings network text).1 = [] ∨
    ∃ first agent later, firstUrl text = .ok first ∧ settings.agent = .ok agent ∧
      (first :: later).IsChain (LeadsTo network) ∧ later.length ≤ redirectLimit ∧
      (sendRequest settings network text).1 =
        (first :: later).map fun u => ⟨String.ofList u.print, agent⟩ := by
  unfold sendRequest
  dsimp only
  split
  · exact .inl rfl
  next first agent hprepared =>
    obtain ⟨first', hfirst, hrest⟩ := bind_eq_ok.mp hprepared
    obtain ⟨agent', hagent, hrest⟩ := bind_eq_ok.mp hrest
    obtain ⟨name, -, hrest⟩ := bind_eq_ok.mp hrest
    -- whether the host has a name to tell decides only if the rest is reached
    have hsame : (first', agent') = (first, agent) := by
      split at hrest
      · obtain ⟨_, -, hrest⟩ := bind_eq_ok.mp hrest
        exact pure_eq_ok.mp hrest
      · exact pure_eq_ok.mp hrest
    obtain ⟨rfl, rfl⟩ := Prod.mk.inj hsame
    obtain ⟨later, hchain, hlength, hurls⟩ :=
      follow_urls settings.timeLimit network redirectLimit first'
    refine .inr ⟨first', agent', later, hfirst, hagent, hchain, hlength, ?_⟩
    rw [hurls, List.map_map]
    rfl

/-- A fetch either requests nothing, or it was given a text that the settings permit, and
requests the URL that the text denotes and then, a number of times that is limited, the URL that
the last answer leads to. -/
theorem fetch_requests (settings : FetchSettings) (network : Network) (url : Value) :
    (fetch settings network url).requests = [] ∨
    ∃ text first agent later, url = .string text ∧ settings.Permits text ∧
      firstUrl text = .ok first ∧ settings.agent = .ok agent ∧
      (first :: later).IsChain (LeadsTo network) ∧ later.length ≤ redirectLimit ∧
      (fetch settings network url).requests =
        (first :: later).map fun u => ⟨String.ofList u.print, agent⟩ := by
  cases hpermitted : permittedUrl settings url with
  | error fault =>
      refine .inl ?_
      unfold fetch
      rw [hpermitted]
      cases fault <;> rfl
  | ok text =>
      have hrequests : (fetch settings network url).requests =
          (sendRequest settings network text).1 := by
        unfold fetch
        rw [hpermitted]
        dsimp only
        split <;> rfl
      obtain ⟨hurl, hpermits⟩ := permits_of_permittedUrl hpermitted
      rw [hrequests]
      obtain hnone | ⟨first, agent, later, hparts⟩ := sendRequest_requests settings network text
      · exact .inl hnone
      · exact .inr ⟨text, first, agent, later, hurl, hpermits, hparts⟩

/-- An answer from a host that may be requested sends a fetch on to a host that may not. -/
theorem fetch_requests_localhost :
    let location := [("Location", "http://localhost/admin")]
    let network : Network := fun url =>
      if url = "https://api.example.com/items" then .answer ⟨302, location, []⟩
      else .failure "no network"
    let url : Value := .string "https://api.example.com/items"
    ∃ request ∈ (fetch .default network url).requests,
      request.url = "http://localhost/admin" ∧ ¬ FetchSettings.default.Permits request.url := by
  intro location network url
  have hurls : (fetch .default network url).requests.map Request.url =
      ["https://api.example.com/items", "http://localhost/admin"] := by
    decide +kernel
  have hsent : "http://localhost/admin" ∈
      (fetch .default network url).requests.map Request.url := by
    rw [hurls]
    exact List.mem_cons_of_mem _ List.mem_cons_self
  obtain ⟨request, hrequest, hurl⟩ := List.mem_map.mp hsent
  refine ⟨request, hrequest, hurl, ?_⟩
  rw [hurl]
  rintro ⟨parts, starts, hparts, -, -, -, hstarts, hnone⟩
  have hhost : parts.host = "localhost" := by
    have hhosts : (UrlParts.ofText? "http://localhost/admin").map UrlParts.host =
        some "localhost" := by
      decide +kernel
    rw [hparts] at hhosts
    exact Option.some.inj hhosts
  obtain rfl := Except.ok.inj hstarts
  obtain ⟨_, ⟨⟩, hstart⟩ := hnone (.string "localhost") List.mem_cons_self
  rw [hhost] at hstart
  exact absurd hstart (by decide +kernel)

end JsonQuery
