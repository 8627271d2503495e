import JsonQuery.Proofs.Fetch.Requests
import JsonQuery.Proofs.Session.Operation

/-!
What a fetch comes to. It brings data, or it reports a problem, or it breaks off with a fault that
is no problem of a fetch. It breaks off exactly if the permitted text is none that a request can be
prepared for, or if the last of the requests that follow each other is interrupted: by an address
that cannot be requested, a header that is not ASCII, a body that is nested too deeply, or a time
limit that cannot be told. A workspace loses its data over a problem and keeps them when the fetch
breaks off.
-/

namespace JsonQuery

open Outcome

/-- Whether a fault is a problem that a fetch reports. -/
def Fault.IsReported (fault : Fault) : Prop := ∃ problem, fault = .fetch problem

section Judging

variable {settings : FetchSettings}

/-- Settings of the kinds they are meant to have: a number of seconds, a name, and texts for the
schemes that are allowed and the hosts that are not. -/
structure FetchSettings.IsTyped (settings : FetchSettings) : Prop where
  timeout : ∃ n, settings.timeoutSeconds = .number n
  agent : ∃ name, settings.userAgent = .string name
  schemes : ∃ schemes : List String, settings.allowedSchemes = .array (schemes.map .string)
  hosts : ∃ hosts : List String, settings.blockedHosts = .array (hosts.map .string)

/-- The texts that may be requested are those that the settings permit. -/
theorem permittedUrl_eq_ok_iff {text : String} :
    permittedUrl settings (.string text) = .ok text ↔ settings.Permits text := by
  constructor
  · intro h
    exact (permits_of_permittedUrl h).2
  · rintro ⟨parts, starts, hparts, hscheme, hhost, hallowed, hstarts, hbegins⟩
    have hgiven : text.isEmpty = false := by
      by_contra hempty
      obtain rfl : text = "" := by simpa using hempty
      have hnone : (UrlParts.ofText? "").map UrlParts.scheme = some "" := by decide +kernel
      rw [hparts] at hnone
      exact hscheme (Option.some.inj hnone)
    have hnamed : (parts.scheme.isEmpty || parts.host.isEmpty) = false := by
      simp [hscheme, hhost]
    have hblocked := beginsWithAny_eq_false.mpr hbegins
    simp [permittedUrl, hgiven, hparts, hnamed, hallowed, hstarts, hblocked]

/-- Trying texts as beginnings of a host does not break off. -/
theorem exists_beginsWithAny (host : String) (starts : List String) :
    ∃ blocked, beginsWithAny host (starts.map .string) = .ok blocked := by
  induction starts with
  | nil => exact ⟨false, rfl⟩
  | cons start starts ih =>
      rw [List.map_cons, beginsWithAny]
      split
      · exact ⟨true, rfl⟩
      · exact ih

/-- A text that is refused is refused with a problem that is reported. -/
theorem permittedUrl_failsWith (h : settings.IsTyped) (url : Value) :
    FailsWith Fault.IsReported (permittedUrl settings url) := by
  obtain ⟨schemes, hschemes⟩ := h.schemes
  obtain ⟨hosts, hhosts⟩ := h.hosts
  have hstarts : settings.blockedStarts = .ok (hosts.map .string) := by
    rw [FetchSettings.blockedStarts, hhosts]
  unfold permittedUrl
  cases url with
  | string text =>
      refine .unless_throw ⟨_, rfl⟩ ?_
      cases UrlParts.ofText? text with
      | none => exact .error ⟨_, rfl⟩
      | some parts =>
          refine .unless_throw ⟨_, rfl⟩ ?_
          rw [FetchSettings.allowsScheme, hschemes]
          refine .unless_throw ⟨_, rfl⟩ ?_
          obtain ⟨blocked, hblocked⟩ := exists_beginsWithAny (Text.lower parts.host) hosts
          rw [hstarts, ok_bind, hblocked]
          exact .unless_throw ⟨_, rfl⟩ (.ok text)
  | null | bool _ | number _ | array _ | object _ => exact .error ⟨_, rfl⟩

end Judging

section Requests

variable {settings : FetchSettings} {network : Network} {u v : RequestUrl} {fault : Fault}
  {redirects : Nat}

/-- A request for a URL with a scheme is answered, and its answer is received. -/
def Receives (network : Network) (u : RequestUrl) (response : Response) (answer : Answer) : Prop :=
  network (String.ofList u.print) = .answer response ∧ response.receive = .ok answer ∧
    namesKind u.print = true

/-- The answer to a request for one URL is received and sends it on to another. -/
def SendsOn (network : Network) (u v : RequestUrl) : Prop :=
  ∃ response answer location, Receives network u response answer ∧
    response.location? = some location ∧ u.redirect location.toList = .ok v

/-- What interrupts a fetch at the request for a URL, in the order in which it is noticed. -/
inductive Interrupts (settings : FetchSettings) (network : Network) (u : RequestUrl) : Fault → Prop
  /-- No answer came in time, and the time allowed cannot be told. -/
  | untold {fault : Fault} (hreply : network (String.ofList u.print) = .timeout)
      (htime : settings.timeLimit = .error fault) : Interrupts settings network u fault
  /-- The URL cannot be requested. -/
  | refused {reason : String} (hreply : network (String.ofList u.print) = .refusal reason) :
      Interrupts settings network u (.url (.refused reason))
  /-- A header of the answer is not ASCII. -/
  | header {response : Response} {place : Text.Unwritable}
      (hreply : network (String.ofList u.print) = .answer response)
      (hheader : response.foreignHeader? = some place) :
      Interrupts settings network u (.unwritable place)
  /-- The URL that was answered has no scheme. -/
  | unnamed {response : Response} {answer : Answer}
      (hreply : network (String.ofList u.print) = .answer response)
      (hreceive : response.receive = .ok answer) (hkind : namesKind u.print = false) :
      Interrupts settings network u (.unknownUrlKind (String.ofList u.print))
  /-- The answer sends the request on to what is no URL beside this one. -/
  | astray {response : Response} {answer : Answer} {location : String} {fault : Fault}
      (hreceives : Receives network u response answer)
      (hlocation : response.location? = some location)
      (hnext : u.redirect location.toList = .error fault) (hother : ¬ fault.IsReported) :
      Interrupts settings network u fault
  /-- The body of the answer is nested too deeply. -/
  | nested {response : Response} {answer : Answer} {isObject : Bool}
      (hreceives : Receives network u response answer) (hlocation : response.location? = none)
      (hdata : answer.data = .error (.tooNested isObject)) :
      Interrupts settings network u (.tooNested isObject)

/-- The data that come of requesting a URL and following redirects. -/
def followedData (settings : FetchSettings) (network : Network) (redirects : Nat)
    (u : RequestUrl) : Except Fault Fetched :=
  (follow settings.timeLimit network redirects u).outcome.bind Answer.data

theorem timeLimit_failsWith (settings : FetchSettings) :
    FailsWith (fun fault => ¬ fault.IsReported) settings.timeLimit := by
  rw [FetchSettings.timeLimit]
  split
  · split
    · exact .ok _
    · exact .error nofun
  · exact .ok _
  · exact .error nofun
  · exact .error nofun

theorem Interrupts.not_isReported (h : Interrupts settings network u fault) :
    ¬ fault.IsReported := by
  cases h with
  | untold _ htime => exact timeLimit_failsWith settings fault htime
  | astray _ _ _ hother => exact hother
  | refused _ | header _ _ | unnamed _ _ _ | nested _ _ _ => nofun

/-- What interrupts a fetch at the request for a URL is what comes of requesting it. -/
theorem Interrupts.followedData_eq (h : Interrupts settings network u fault) (redirects : Nat) :
    followedData settings network redirects u = .error fault := by
  rw [followedData, follow]
  cases h with
  | untold hreply htime => simp [hreply, htime, follow.timeoutFault, Except.bind]
  | refused hreply => simp [hreply, Except.bind]
  | header hreply hheader => simp [hreply, Response.receive, hheader, Except.bind]
  | unnamed hreply hreceive hkind => simp [hreply, hreceive, hkind, Except.bind]
  | astray hreceives hlocation hnext _ =>
      obtain ⟨hreply, hreceive, hkind⟩ := hreceives
      simp [hreply, hreceive, hkind, hlocation, hnext, Except.bind]
  | nested hreceives hlocation hdata =>
      obtain ⟨hreply, hreceive, hkind⟩ := hreceives
      simp [hreply, hreceive, hkind, hlocation, hdata, Except.bind]

/-- A request that is sent on comes to what the next one comes to. -/
theorem SendsOn.followedData_eq (h : SendsOn network u v) :
    followedData settings network (redirects + 1) u =
      followedData settings network redirects v := by
  obtain ⟨response, answer, location, ⟨hreply, hreceive, hkind⟩, hlocation, hnext⟩ := h
  rw [followedData, follow]
  simp [hreply, hreceive, hkind, hlocation, hnext, followedData]

/-- The data of an answer are what it says, or there is a problem to report, or its body is nested
too deeply. -/
theorem Answer.data_failsWith (a : Answer) :
    FailsWith (fun fault => fault.IsReported ∨ ∃ isObject, fault = .tooNested isObject) a.data := by
  rw [Answer.data]
  split
  · exact .error (.inl ⟨_, rfl⟩)
  split
  · exact .error (.inl ⟨_, rfl⟩)
  split
  · exact .error (.inl ⟨_, rfl⟩)
  · exact .ok _
  · exact .error (.inr ⟨_, rfl⟩)
  · exact .error (.inl ⟨_, rfl⟩)

/-- What one request comes to: it interrupts the fetch, or it ends the fetch with data or a problem
to report, or it is sent on. -/
theorem followedData_step (settings : FetchSettings) (network : Network) (redirects : Nat)
    (u : RequestUrl) :
    (∃ fault, Interrupts settings network u fault) ∨
    FailsWith Fault.IsReported (followedData settings network redirects u) ∨
    ∃ left v, redirects = left + 1 ∧ SendsOn network u v := by
  rw [followedData, follow]
  dsimp only
  split
  next hreply =>
    cases htime : settings.timeLimit with
    | ok seconds => exact .inr (.inl (.error ⟨_, rfl⟩))
    | error fault => exact .inl ⟨fault, .untold hreply htime⟩
  · exact .inr (.inl (.error ⟨_, rfl⟩))
  next hreply => exact .inl ⟨_, .refused hreply⟩
  next response hreply =>
    split
    next fault hreceive =>
      rw [Response.receive] at hreceive
      split at hreceive
      next place hheader =>
        cases hreceive
        exact .inl ⟨_, .header hreply hheader⟩
      · split at hreceive
        · cases hreceive
        · cases hreceive
          exact .inr (.inl (.error ⟨_, rfl⟩))
    next answer hreceive =>
      split
      next hkind => exact .inl ⟨_, .unnamed hreply hreceive (by simpa using hkind)⟩
      next hkind =>
        have hreceives : Receives network u response answer :=
          ⟨hreply, hreceive, by simpa using hkind⟩
        split
        next hlocation =>
          cases hdata : answer.data with
          | ok fetched =>
              refine .inr (.inl ?_)
              rw [Except.bind, hdata]
              exact .ok fetched
          | error fault =>
              rcases answer.data_failsWith fault hdata with hreported | ⟨isObject, rfl⟩
              · refine .inr (.inl ?_)
                rw [Except.bind, hdata]
                exact .error hreported
              · exact .inl ⟨_, .nested hreceives hlocation hdata⟩
        next location hlocation =>
          split
          next fault hnext =>
            by_cases hreported : fault.IsReported
            · exact .inr (.inl (.error hreported))
            · exact .inl ⟨_, .astray hreceives hlocation hnext hreported⟩
          next v hnext =>
            split
            · exact .inr (.inl (.error ⟨_, rfl⟩))
            next left =>
              exact .inr (.inr ⟨left, v, rfl, response, answer, location, hreceives, hlocation,
                hnext⟩)

/-- A fetch breaks off exactly if one of the requests that follow each other interrupts it. -/
theorem followedData_breaksOff_iff :
    followedData settings network redirects u = .error fault ∧ ¬ fault.IsReported ↔
      ∃ later, (u :: later).IsChain (SendsOn network) ∧ later.length ≤ redirects ∧
        Interrupts settings network ((u :: later).getLast (List.cons_ne_nil u later)) fault := by
  constructor
  · rintro ⟨hbroken, hother⟩
    -- a request that is sent on uses up one of the redirects that are left
    induction redirects generalizing u with
    | zero =>
        rcases followedData_step settings network 0 u with ⟨noticed, hnoticed⟩ | hreported |
          ⟨_, _, ⟨⟩, -⟩
        · cases (hnoticed.followedData_eq 0).symm.trans hbroken
          exact ⟨[], .singleton u, Nat.le_refl 0, hnoticed⟩
        · exact absurd (hreported fault hbroken) hother
    | succ redirects ih =>
        rcases followedData_step settings network (redirects + 1) u with ⟨noticed, hnoticed⟩ |
          hreported | ⟨left, v, hleft, hsends⟩
        · cases (hnoticed.followedData_eq (redirects + 1)).symm.trans hbroken
          exact ⟨[], .singleton u, Nat.zero_le _, hnoticed⟩
        · exact absurd (hreported fault hbroken) hother
        · rw [hsends.followedData_eq] at hbroken
          obtain ⟨later, hchain, hlength, hlast⟩ := ih hbroken
          refine ⟨v :: later, hchain.cons_cons hsends, Nat.succ_le_succ hlength, ?_⟩
          rwa [List.getLast_cons]
  · rintro ⟨later, hchain, hlength, hlast⟩
    refine ⟨?_, hlast.not_isReported⟩
    induction later generalizing u redirects with
    | nil => exact hlast.followedData_eq redirects
    | cons v later ih =>
        obtain ⟨hsends, hrest⟩ := List.isChain_cons_cons.mp hchain
        cases redirects with
        | zero => exact absurd hlength (Nat.not_succ_le_zero _)
        | succ left =>
            rw [hsends.followedData_eq]
            rw [List.getLast_cons (List.cons_ne_nil v later)] at hlast
            exact ih hrest (Nat.le_of_succ_le_succ hlength) hlast

end Requests

section Preparing

variable {settings : FetchSettings} {network : Network} {text : String} {fault : Fault}

/-- The URL that is requested first, with the name that is told in requests: the text has to denote
a URL, the name has to be ASCII, and the host needs a name and an address in ASCII. -/
def prepareRequest (settings : FetchSettings) (text : String) :
    Except Fault (RequestUrl × String) := do
  let url ← firstUrl text
  let agent ← settings.agent
  let name ← Except.mapError Fault.label url.hostName
  if !name.isEmpty then
    let _ ← headerText (String.ofList url.address)
  return (url, agent)

/-- Why no request can be prepared for a text, in the order in which it is noticed. -/
inductive Unprepared (settings : FetchSettings) (text : String) : Fault → Prop
  /-- The text denotes no URL. -/
  | url {problem : UrlProblem} (hurl : firstUrl text = .error (.url problem)) :
      Unprepared settings text (.url problem)
  /-- The name that is told in requests is not ASCII, or no text. -/
  | agent {u : RequestUrl} {fault : Fault} (hurl : firstUrl text = .ok u)
      (hagent : settings.agent = .error fault) : Unprepared settings text fault
  /-- The host has no name. -/
  | label {u : RequestUrl} {agent : String} {problem : LabelProblem}
      (hurl : firstUrl text = .ok u) (hagent : settings.agent = .ok agent)
      (hname : u.hostName = .error problem) : Unprepared settings text (.label problem)
  /-- The address of the host is not ASCII. -/
  | address {u : RequestUrl} {agent : String} {name : List Char} {fault : Fault}
      (hurl : firstUrl text = .ok u) (hagent : settings.agent = .ok agent)
      (hname : u.hostName = .ok name) (hgiven : name ≠ [])
      (haddress : headerText (String.ofList u.address) = .error fault) :
      Unprepared settings text fault

theorem prepareRequest_eq_error_iff : prepareRequest settings text = .error fault ↔
    Unprepared settings text fault := by
  constructor
  · intro h
    rcases bind_eq_error.mp h with hurl | ⟨u, hurl, h⟩
    · obtain ⟨problem, -, rfl⟩ := mapError_eq_error.mp hurl
      exact .url hurl
    rcases bind_eq_error.mp h with hagent | ⟨agent, hagent, h⟩
    · exact .agent hurl hagent
    rcases bind_eq_error.mp h with hname | ⟨name, hname, h⟩
    · obtain ⟨problem, hlabel, rfl⟩ := mapError_eq_error.mp hname
      exact .label hurl hagent hlabel
    split at h
    next hgiven =>
      rcases bind_eq_error.mp h with haddress | ⟨_, _, h⟩
      · exact .address hurl hagent (mapError_eq_ok.mp hname) (by simpa using hgiven) haddress
      · cases h
    · cases h
  · intro h
    cases h with
    | url hurl => exact bind_eq_error.mpr (.inl hurl)
    | agent hurl hagent =>
        exact bind_eq_error.mpr (.inr ⟨_, hurl, bind_eq_error.mpr (.inl hagent)⟩)
    | label hurl hagent hname =>
        simp [prepareRequest, hurl, hagent, hname, Except.mapError, bind, Except.bind]
    | address hurl hagent hname hgiven haddress =>
        simp [prepareRequest, hurl, hagent, hname, hgiven, haddress, Except.mapError, bind,
          Except.bind]

theorem sendRequest_data (settings : FetchSettings) (network : Network) (text : String) :
    (sendRequest settings network text).2.bind Answer.data =
      (prepareRequest settings text).bind fun ready =>
        followedData settings network redirectLimit ready.1 := by
  unfold sendRequest
  dsimp only
  split
  next fault hprepared =>
    have hready : prepareRequest settings text = .error fault := hprepared
    rw [hready]
    rfl
  next url agent hprepared =>
    have hready : prepareRequest settings text = .ok (url, agent) := hprepared
    rw [hready]
    rfl

end Preparing

/-- How a fetch of a permitted text breaks off: no request can be prepared, or the last of the
requests that are sent on one to the next interrupts it. -/
inductive FetchSettings.BreaksOff (settings : FetchSettings) (network : Network) (text : String) :
    Fault → Prop
  | unprepared {fault : Fault} (h : Unprepared settings text fault) :
      BreaksOff settings network text fault
  | interrupted {first : RequestUrl} {agent : String} {later : List RequestUrl} {fault : Fault}
      (hready : prepareRequest settings text = .ok (first, agent))
      (hchain : (first :: later).IsChain (SendsOn network))
      (hlength : later.length ≤ redirectLimit)
      (hlast : Interrupts settings network ((first :: later).getLast (List.cons_ne_nil first later))
        fault) :
      BreaksOff settings network text fault

section Outcomes

variable {settings : FetchSettings} {network : Network} {text : String} {fault : Fault}

theorem headerText_failsWith (text : String) :
    FailsWith (fun fault => ∃ place, fault = .unwritable place) (headerText text) := by
  rw [headerText]
  split
  · exact .ok _
  · exact .error ⟨_, rfl⟩

theorem FetchSettings.agent_failsWith (settings : FetchSettings) :
    FailsWith (fun fault => ¬ fault.IsReported) settings.agent := by
  rw [agent]
  split
  next name _ =>
    refine (headerText_failsWith name).mono ?_
    rintro _ ⟨place, rfl⟩
    nofun
  · exact .error nofun

theorem Unprepared.not_isReported (h : Unprepared settings text fault) : ¬ fault.IsReported := by
  cases h with
  | url _ | label _ _ _ => nofun
  | agent _ hagent => exact settings.agent_failsWith fault hagent
  | address _ _ _ _ haddress =>
      obtain ⟨place, rfl⟩ := headerText_failsWith _ fault haddress
      nofun

/-- A permitted text makes the fetch break off exactly as its preparation and its requests tell. -/
theorem FetchSettings.breaksOff_iff :
    ((sendRequest settings network text).2.bind Answer.data = .error fault ∧ ¬ fault.IsReported) ↔
      settings.BreaksOff network text fault := by
  rw [sendRequest_data]
  constructor
  · rintro ⟨hbroken, hother⟩
    cases hready : prepareRequest settings text with
    | error noticed =>
        rw [hready] at hbroken
        cases hbroken
        exact .unprepared (prepareRequest_eq_error_iff.mp hready)
    | ok ready =>
        rw [hready] at hbroken
        obtain ⟨later, hchain, hlength, hlast⟩ :=
          followedData_breaksOff_iff.mp ⟨hbroken, hother⟩
        exact .interrupted hready hchain hlength hlast
  · intro h
    cases h with
    | unprepared h =>
        rw [prepareRequest_eq_error_iff.mpr h]
        exact ⟨rfl, h.not_isReported⟩
    | interrupted hready hchain hlength hlast =>
        rw [hready]
        exact followedData_breaksOff_iff.mpr ⟨_, hchain, hlength, hlast⟩

/-- What is fetched, where a problem to report is an outcome too. -/
def reporting (x : Except Fault Fetched) : Except Fault (Except FetchProblem Fetched) :=
  match x with
  | .error (.fetch problem) => .ok (.error problem)
  | .error fault => .error fault
  | .ok fetched => .ok (.ok fetched)

theorem reporting_eq_error {x : Except Fault Fetched} :
    reporting x = .error fault ↔ x = .error fault ∧ ¬ fault.IsReported := by
  unfold reporting
  split
  · refine iff_of_false nofun ?_
    rintro ⟨⟨⟩, hother⟩
    exact hother ⟨_, rfl⟩
  next noticed hother =>
    constructor
    · rintro ⟨⟩
      refine ⟨rfl, ?_⟩
      rintro ⟨problem, rfl⟩
      exact hother problem rfl
    · rintro ⟨h, -⟩
      rw [Except.error.inj h]
  · exact iff_of_false nofun nofun

theorem reporting_eq_ok {x : Except Fault Fetched} {fetched : Fetched} :
    reporting x = .ok (.ok fetched) ↔ x = .ok fetched := by
  unfold reporting
  split
  · exact iff_of_false nofun nofun
  · exact iff_of_false nofun nofun
  · simp

/-- The URL of a fetch is refused, or it is requested, and then what comes of that is answered. -/
theorem fetch_outcome (settings : FetchSettings) (network : Network) (url : Value) :
    (fetch settings network url).outcome =
      reporting ((permittedUrl settings url).bind fun text =>
        (sendRequest settings network text).2.bind Answer.data) := by
  unfold fetch
  cases permittedUrl settings url with
  | error fault => cases fault <;> rfl
  | ok text =>
      change _ = reporting ((sendRequest settings network text).2.bind Answer.data)
      dsimp only
      cases (sendRequest settings network text).2.bind Answer.data with
      | error fault => cases fault <;> rfl
      | ok fetched => rfl

theorem fetch_eq_error_iff (h : settings.IsTyped) :
    (fetch settings network (.string text)).outcome = .error fault ↔
      settings.Permits text ∧ settings.BreaksOff network text fault := by
  rw [fetch_outcome, reporting_eq_error, ← permittedUrl_eq_ok_iff, ← FetchSettings.breaksOff_iff]
  cases hpermitted : permittedUrl settings (.string text) with
  | error noticed =>
      obtain ⟨problem, rfl⟩ := permittedUrl_failsWith h _ noticed hpermitted
      refine iff_of_false ?_ nofun
      rintro ⟨⟨⟩, hother⟩
      exact hother ⟨problem, rfl⟩
  | ok permitted =>
      obtain ⟨hsame, -⟩ := permits_of_permittedUrl hpermitted
      obtain rfl := Value.string.inj hsame
      exact (and_iff_right rfl).symm

/-- Data that are fetched are not null, and come with a status that tells of success. -/
theorem Answer.data_eq_ok {a : Answer} {fetched : Fetched} (h : a.data = .ok fetched) :
    fetched.data.isNull = false ∧ 200 ≤ fetched.status ∧ fetched.status ≤ 299 := by
  rw [Answer.data] at h
  split at h
  · cases h
  next hsuccess =>
    split at h
    · cases h
    split at h
    · cases h
    next data hnull _ =>
      obtain rfl := Except.ok.inj h
      have hstatus : 200 ≤ a.response.status ∧ a.response.status ≤ 299 := by
        simpa [Response.isSuccess] using hsuccess
      refine ⟨?_, hstatus⟩
      cases data with
      | null => exact (hnull rfl).elim
      | bool _ | number _ | string _ | array _ | object _ => rfl
    · cases h
    · cases h

theorem FetchProblem.message_ne_empty (problem : FetchProblem) : problem.message ≠ "" := by
  have hbegins {s t : String} (hs : s ≠ "") : s ++ t ≠ "" := fun h =>
    hs (String.append_eq_empty_iff.mp h).1
  cases problem with
  | noUrl | malformedUrl | schemeNotAllowed | privateHost | notJson | invalidJson | noValue =>
      decide
  | status _ _ => exact hbegins (hbegins (hbegins (by decide)))
  | timedOut _ => exact hbegins (hbegins (by decide))
  | noAnswer _ => exact hbegins (by decide)

end Outcomes

/-- Faults that are no problem of a fetch and still come of one. -/
def Fault.interruptsFetch : Fault → Bool
  | .url _ | .authority _ | .label _ | .unwritable _ | .unknownUrlKind _ | .integerExceedsFloat
  | .tooNested _ => true
  | _ => false

section Kinds

variable {settings : FetchSettings} {network : Network} {text : String} {fault : Fault}

theorem RequestUrl.join_failsWith (base target : RequestUrl) :
    FailsWith (fun fault => fault.interruptsFetch = true) (base.join target) := by
  have hread (text : List Char) :
      FailsWith (fun fault => fault.interruptsFetch = true) ((read text).mapError Fault.url) :=
    .mapError fun _ => rfl
  rw [join]
  dsimp only
  split
  · exact hread _
  · split
    · exact hread _
    · exact FailsWith.bind (.mapError fun _ => rfl) hread

theorem RequestUrl.withHostOf_failsWith (u other : RequestUrl) :
    FailsWith (fun fault => fault.interruptsFetch = true) (u.withHostOf other) :=
  FailsWith.bind (.mapError fun _ => rfl) fun _ => .mapError fun _ => rfl

/-- A redirect that leads nowhere is a problem to report if its location is no URL, and otherwise
it is not. -/
theorem RequestUrl.redirect_failsWith (u : RequestUrl) (location : List Char) :
    FailsWith (fun fault => fault.IsReported ∨ fault.interruptsFetch = true)
      (u.redirect location) := by
  rw [redirect]
  split
  · exact .error (.inl ⟨_, rfl⟩)
  · refine .mono (fun _ => .inr) ?_
    dsimp only
    have hkept (target : RequestUrl) :
        FailsWith (fun fault => fault.interruptsFetch = true) (do
          let target ← Except.mapError Fault.url (target.keepFragment u.fragment)
          let _ ← Except.mapError Fault.label target.hostName
          pure target) :=
      FailsWith.bind (.mapError fun _ => rfl) fun kept =>
        FailsWith.bind (.mapError fun _ => rfl) fun _ => .ok kept
    have hjoined (target : RequestUrl) :
        FailsWith (fun fault => fault.interruptsFetch = true) (do
          let target ← if target.isRelative then u.join target else pure target
          let target ← Except.mapError Fault.url (target.keepFragment u.fragment)
          let _ ← Except.mapError Fault.label target.hostName
          pure target) := by
      dsimp only
      split
      · exact (u.join_failsWith target).bind hkept
      · exact hkept target
    split
    · exact hjoined _
    · refine FailsWith.bind (.mapError fun _ => rfl) fun name => ?_
      split
      · exact (withHostOf_failsWith _ u).bind hjoined
      · exact hjoined _

theorem FetchSettings.BreaksOff.interruptsFetch (htyped : settings.IsTyped)
    (h : settings.BreaksOff network text fault) : fault.interruptsFetch = true := by
  obtain ⟨name, hname⟩ := htyped.agent
  obtain ⟨seconds, hseconds⟩ := htyped.timeout
  cases h with
  | unprepared h =>
      cases h with
      | url _ | label _ _ _ => rfl
      | agent _ hagent =>
          rw [agent, hname] at hagent
          obtain ⟨place, rfl⟩ := headerText_failsWith name fault hagent
          rfl
      | address _ _ _ _ haddress =>
          obtain ⟨place, rfl⟩ := headerText_failsWith _ fault haddress
          rfl
  | interrupted _ _ _ hlast =>
      cases hlast with
      | untold _ htime =>
          rw [timeLimit, hseconds] at htime
          dsimp only at htime
          split at htime
          · cases htime
          · cases htime
            rfl
      | astray _ _ hnext hother =>
          exact (RequestUrl.redirect_failsWith _ _ fault hnext).resolve_left hother
      | refused _ | header _ _ | unnamed _ _ _ | nested _ _ _ => rfl

end Kinds

namespace Workspace

variable {w : Workspace} {network : Network} {url : Value}

/-- A problem that is reported takes the data from a workspace. -/
theorem fetch_of_problem {problem : FetchProblem}
    (h : (JsonQuery.fetch w.settings.fetch network url).outcome = .ok (.error problem)) :
    (w.fetch network url).workspace =
      { w.publish none with fetchError := some problem.message } := by
  unfold fetch
  dsimp only
  rw [h]

/-- A fetch that breaks off leaves a workspace as it was. -/
theorem fetch_of_fault {fault : Fault}
    (h : (JsonQuery.fetch w.settings.fetch network url).outcome = .error fault) :
    (w.fetch network url).workspace = w := by
  unfold fetch
  dsimp only
  rw [h]

end Workspace

/-- With settings of the kinds they are meant to have, a fetch brings data that are not null with a
status that tells of success, or it reports a problem in words, or it breaks off. It breaks off
exactly over a permitted text that no request can be prepared for or whose requests are
interrupted, and with a fault of those kinds only. Over a problem no data are left in a workspace,
and when the fetch breaks off they all are. -/
theorem fetch_reports_unless_breaksOff {settings : FetchSettings} (h : settings.IsTyped)
    (network : Network) (text : String) :
    let outcome := (fetch settings network (.string text)).outcome
    (∀ fetched, outcome = .ok (.ok fetched) →
      fetched.data.isNull = false ∧ 200 ≤ fetched.status ∧ fetched.status ≤ 299) ∧
    (∀ problem, outcome = .ok (.error problem) → problem.message ≠ "") ∧
    (∀ fault, outcome = .error fault ↔
      settings.Permits text ∧ settings.BreaksOff network text fault) ∧
    (∀ fault, outcome = .error fault → fault.interruptsFetch = true) ∧
    ∀ w : Workspace, w.settings.fetch = settings →
      let after := (w.fetch network (.string text)).workspace
      (∀ problem, outcome = .ok (.error problem) →
        after.dataset = none ∧ after.displayed = .null ∧
          after.fetchError = some problem.message) ∧
      ∀ fault, outcome = .error fault → after = w := by
  intro outcome
  refine ⟨fun fetched hfetched => ?_, fun problem _ => problem.message_ne_empty,
    fun fault => fetch_eq_error_iff h, fun fault hfault => ?_, ?_⟩
  · have hdata := reporting_eq_ok.mp ((fetch_outcome settings network _).symm.trans hfetched)
    obtain ⟨permitted, -, hdata⟩ := bind_eq_ok.mp hdata
    obtain ⟨answer, -, hdata⟩ := bind_eq_ok.mp hdata
    exact Answer.data_eq_ok hdata
  · exact ((fetch_eq_error_iff h).mp hfault).2.interruptsFetch h
  · rintro w rfl
    dsimp only
    refine ⟨fun problem hproblem => ?_, fun fault hfault => Workspace.fetch_of_fault hfault⟩
    rw [Workspace.fetch_of_problem hproblem]
    exact ⟨rfl, rfl, rfl⟩

theorem FetchSettings.default_isTyped : FetchSettings.default.IsTyped :=
  ⟨⟨_, rfl⟩, ⟨_, rfl⟩, ⟨["http", "https"], rfl⟩, ⟨defaultBlockedHosts, rfl⟩⟩

/-- An address where there is nothing takes the data from a workspace. -/
theorem fetch_reports_unless_breaksOff_missing :
    let network : Network := fun _ => .answer ⟨404, [], []⟩
    let w := ((Workspace.start .default).load (.array [.object [("a", .ofInt 1)]]) none).workspace
    let after := (w.fetch network (.string "https://api.example.com/n")).workspace
    FetchSettings.default.IsTyped ∧ w.dataset.isSome = true ∧ after.dataset = none ∧
      after.displayed = .null ∧ after.fetchError = some "HTTP 404: Not Found" := by
  intro network w after
  let url : Value := .string "https://api.example.com/n"
  have hreported : (fetch .default network url).outcome.map (fun result =>
      result.map fun _ => ()) = .ok (.error (.status 404 "Not Found")) := by
    decide +kernel
  obtain ⟨result, houtcome, hproblem⟩ := map_eq_ok.mp hreported
  obtain rfl := map_eq_error.mp hproblem
  obtain ⟨-, -, -, -, hworkspace⟩ := fetch_reports_unless_breaksOff
    FetchSettings.default_isTyped network "https://api.example.com/n"
  obtain ⟨hdataset, hdisplayed, herror⟩ := (hworkspace w rfl).1 _ houtcome
  exact ⟨FetchSettings.default_isTyped, rfl, hdataset, hdisplayed,
    herror.trans (by decide +kernel)⟩

/-- A URL that may be requested and has no port where one should be makes a fetch break off, and a
workspace keeps the data of another place. -/
theorem fetch_breaksOff_port :
    let network : Network := fun _ => .failure "no network"
    let url : Value := .string "https://x.com:abc/"
    let w := ((Workspace.start .default).load (.array [.object [("a", .ofInt 1)]]) none).workspace
    FetchSettings.default.IsTyped ∧
      (fetch .default network url).outcome = .error (.url (.port "abc")) ∧
      w.dataset.isSome = true ∧ (w.fetch network url).workspace = w := by
  intro network url w
  have hpermitted : permittedUrl .default url = .ok "https://x.com:abc/" := by decide +kernel
  have hurl : firstUrl "https://x.com:abc/" = .error (.url (.port "abc")) := by decide +kernel
  have hbroken : (fetch .default network url).outcome = .error (.url (.port "abc")) :=
    (fetch_eq_error_iff FetchSettings.default_isTyped).mpr
      ⟨permittedUrl_eq_ok_iff.mp hpermitted, .unprepared (.url hurl)⟩
  exact ⟨FetchSettings.default_isTyped, hbroken, rfl, Workspace.fetch_of_fault hbroken⟩

end JsonQuery
