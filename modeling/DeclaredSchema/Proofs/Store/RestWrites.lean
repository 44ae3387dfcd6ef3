import DeclaredSchema.Proofs.Http.SharedFront
import DeclaredSchema.Proofs.Store.Ledger
import DeclaredSchema.Store.Rest

/-! # Writing to a server

All requests of one store go to one server, so once a page of its collections could be asked for,
every write can be sent too. Only its URL may be too long: the creation of a collection goes to the
path of the pages, but other paths hold an id or a key that can have any length.
-/

namespace DeclaredSchema

/-- The server takes every write: it answers with a JSON value under a status of success, and
gives a collection that is created an id. -/
structure HttpServer.TakesWrites {σ : Type} (server : HttpServer σ) : Prop where
  answers : ∀ r s, r.method ≠ .get → ∃ reply v, (server.answer r s).1 = some reply ∧
    reply.isSuccess = true ∧ Json.ofText? reply.content = some v ∧
    ∀ body, r.body = some body → (body.field? "collectionId").isSome = true →
      ∃ id, (v.field? "$id").bind (·.str?) = some id

namespace RestStore

variable {c : Credentials}

/-! ## URLs of one store -/

theorem toList_url (c : Credentials) (path : String) : (url c path).toList =
    (baseUrl c).toList ++ Url.rootPath ++ '/' :: (c.databaseId.toList ++ '/' :: path.toList) := by
  have hroot : "/databases/".toList = Url.rootPath ++ ['/'] := by decide
  have hslash : "/".toList = ['/'] := by decide
  simp only [url, String.toList_append, hroot, hslash, List.append_assoc, List.cons_append,
    List.nil_append]

end RestStore

/-- More names and values change nothing but the query. -/
theorem Url.addQuery_eq (u : Url) (pairs : List (String × String)) :
    ∃ q, u.addQuery pairs = { u with query := q } ∧
      (u.query.elim "" ("?" ++ ·)).utf8ByteSize ≤ (q.elim "" ("?" ++ ·)).utf8ByteSize := by
  unfold addQuery
  split
  · exact ⟨u.query, rfl, Nat.le_refl _⟩
  · next hq =>
      refine ⟨_, rfl, ?_⟩
      rw [hq]
      exact Nat.zero_le _
  · next q hq =>
      refine ⟨_, rfl, ?_⟩
      rw [hq]
      simp only [Option.elim, String.utf8ByteSize_append]
      split
      · next h =>
          rw [String.isEmpty_iff.mp h]
          simp
      · simp only [String.utf8ByteSize_append]
        omega

theorem Url.utf8ByteSize_text_addQuery (u : Url) (pairs : List (String × String)) :
    u.text.utf8ByteSize ≤ (u.addQuery pairs).text.utf8ByteSize := by
  obtain ⟨q, hq, hsize⟩ := u.addQuery_eq pairs
  rw [hq]
  simp only [text, frontText, String.utf8ByteSize_append]
  omega

namespace RestStore

/-- A request to a path that can be read, of a store whose other settings are in order. -/
theorem request_eq {method : HttpMethod} {path : String} {query : List (String × String)}
    {body : Option Json} {u : Url} {hs : List (String × String)}
    (read : Url.ofText (url c path) = .ok u) (host : u.hasHost = true) (hh : headers c = .ok hs)
    (scheme : u.scheme = "http" ∨ u.scheme = "https") :
    request c method path query body =
      if (u.withoutCredentials.addQuery query).isSendable then
        .ok ⟨method, u.path, (u.query.elim [] Percent.formPairs) ++ query, hs, body⟩
      else .error (.unsendable (u.withoutCredentials.addQuery query).text) := by
  have hscheme : (u.scheme ≠ "http" && u.scheme ≠ "https") = false := by
    rcases scheme with h | h <;> simp [h]
  rw [request, read, hh]
  simp only [Except.mapError, bind, Except.bind, host, hscheme]
  cases (u.withoutCredentials.addQuery query).isSendable <;> rfl

/-- What a request that was made shows. -/
theorem request_ok {method : HttpMethod} {path : String} {query : List (String × String)}
    {body : Option Json} {r : HttpRequest} (h : request c method path query body = .ok r) :
    ∃ u hs, Url.ofText (url c path) = .ok u ∧ u.hasHost = true ∧ headers c = .ok hs ∧
      (u.scheme = "http" ∨ u.scheme = "https") ∧
      (u.withoutCredentials.addQuery query).isSendable = true ∧ r.method = method := by
  cases hread : Url.ofText (url c path) with
  | error e =>
      rw [request, hread] at h
      cases h
  | ok u =>
      by_cases hhost : u.hasHost = true
      case neg => simp [request, hread, hhost, Except.mapError, bind, Except.bind] at h
      cases hh : headers c with
      | error e => simp [request, hread, hhost, hh, Except.mapError, bind, Except.bind] at h
      | ok hs =>
          by_cases hscheme : u.scheme = "http" ∨ u.scheme = "https"
          case neg =>
            rw [not_or] at hscheme
            simp [request, hread, hhost, hh, hscheme, Except.mapError, bind, Except.bind] at h
          rw [request_eq hread hhost hh hscheme] at h
          by_cases hsend : (u.withoutCredentials.addQuery query).isSendable = true
          case neg => simp [hsend] at h
          rw [if_pos hsend] at h
          exact ⟨u, hs, rfl, hhost, rfl, hscheme, hsend, (Except.ok.inj h) ▸ rfl⟩

/-- Requests of the store can be made. -/
structure Reachable (c : Credentials) (u : Url) : Prop where
  read : Url.ofText (url c "collections") = .ok u
  host : u.hasHost = true
  headers : ∃ hs, headers c = .ok hs
  scheme : u.scheme = "http" ∨ u.scheme = "https"
  quotable : (u.withoutCredentials.authority.elim "" (·.host.text)).toList.all
    (· ∉ ['"', '\x60', '\x7b', '\x7d']) = true
  short : u.withoutCredentials.text.utf8ByteSize < 0xffff

/-- One request for collections shows it. -/
theorem Reachable.of_request {method : HttpMethod} {query : List (String × String)}
    {body : Option Json} {r : HttpRequest}
    (h : request c method "collections" query body = .ok r) : ∃ u, Reachable c u := by
  obtain ⟨u, hs, hread, hhost, hh, hscheme, hsend, -⟩ := request_ok h
  rw [Url.isSendable, Bool.and_eq_true, decide_eq_true_eq] at hsend
  obtain ⟨q, hq, -⟩ := u.withoutCredentials.addQuery_eq query
  refine ⟨u, hread, hhost, ⟨hs, hh⟩, hscheme, ?_, ?_⟩
  · rw [hq] at hsend
    exact hsend.2
  · exact Nat.lt_of_le_of_lt (Url.utf8ByteSize_text_addQuery _ query) hsend.1

/-- The error of a write to a path, if its URL is too long. -/
def tooLong? (c : Credentials) (path : String) : Option Fault :=
  match Url.ofText (url c path) with
  | .ok u =>
    if u.withoutCredentials.text.utf8ByteSize < 0xffff then none
    else some (.unsendable u.withoutCredentials.text)
  | .error _ => none

namespace Reachable

variable {u : Url}

/-- Whether a write can be sent depends on the length of its URL only. -/
theorem request_eq_ite (h : Reachable c u) (method : HttpMethod) (path : String)
    (body : Json) : ∃ v r, Url.ofText (url c path) = .ok v ∧ r.method = method ∧
      r.body = some body ∧ request c method path [] (some body) =
        if v.withoutCredentials.text.utf8ByteSize < 0xffff then .ok r
        else .error (.unsendable v.withoutCredentials.text) := by
  have server : Url.formOf u.scheme = .server := by
    rcases h.scheme with h | h <;> rw [h] <;> rfl
  obtain ⟨v, hv, hscheme, hauthority⟩ :=
    Url.ofText_of_sameFront (toList_url c "collections") (toList_url c path) h.read server
  obtain ⟨hs, hh⟩ := h.headers
  have hhost : v.hasHost = true := by
    rw [Url.hasHost, hauthority]
    exact h.host
  have hsame : v.withoutCredentials.authority = u.withoutCredentials.authority := by
    rw [Url.withoutCredentials, Url.withoutCredentials, hauthority]
  have hsend : v.withoutCredentials.isSendable =
      decide (v.withoutCredentials.text.utf8ByteSize < 0xffff) := by
    rw [Url.isSendable, hsame, h.quotable, Bool.and_true]
  refine ⟨v, ⟨method, v.path, (v.query.elim [] Percent.formPairs) ++ [], hs, some body⟩, hv, rfl,
    rfl, ?_⟩
  rw [request_eq hv hhost hh (hscheme ▸ h.scheme), Url.addQuery, hsend]
  simp only [decide_eq_true_eq]

/-- A write can be sent, unless its URL is too long. -/
theorem request_eq_elim (h : Reachable c u) (method : HttpMethod) (path : String) (body : Json) :
    ∃ r, r.method = method ∧
      request c method path [] (some body) = (tooLong? c path).elim (.ok r) .error := by
  obtain ⟨v, r, hv, hmethod, -, hr⟩ := h.request_eq_ite method path body
  refine ⟨r, hmethod, ?_⟩
  rw [hr, tooLong?, hv]
  by_cases hshort : v.withoutCredentials.text.utf8ByteSize < 0xffff <;> simp [hshort]

/-- The creation of a collection can be sent. -/
theorem request_collections (h : Reachable c u) (method : HttpMethod) (body : Json) :
    ∃ r, request c method "collections" [] (some body) = .ok r ∧ r.method = method ∧
      r.body = some body := by
  obtain ⟨v, r, hv, hmethod, hbody, hr⟩ := h.request_eq_ite method "collections" body
  obtain rfl : u = v := Except.ok.inj (h.read.symm.trans hv)
  rw [if_pos h.short] at hr
  exact ⟨r, hr, hmethod, hbody⟩

end Reachable

/-! ## Writes that are taken -/

section Writes

variable {σ : Type} {server : HttpServer σ} {u : Url}

/-- A write that could be made is answered. -/
theorem send_write (takes : server.TakesWrites) {r : HttpRequest} (write : r.method ≠ .get)
    (s : State σ) : ∃ v, (send server (.ok r) s).1 = .ok v ∧
      ∀ body, r.body = some body → (body.field? "collectionId").isSome = true →
        ∃ id, (v.field? "$id").bind (·.str?) = some id := by
  obtain ⟨reply, v, hreply, hsuccess, hv, hid⟩ := takes.answers r s.server write
  refine ⟨v, ?_, hid⟩
  simp [send, read, hreply, hsuccess, hv]

/-- A collection can always be created. -/
theorem createCollection_ok (takes : server.TakesWrites) (h : Reachable c u) (ids : Nat → String)
    (name : String) (s : State σ) : ∃ id, (createCollection server ids c name s).1 = .ok id := by
  obtain ⟨r, hr, hmethod, hbody⟩ :=
    h.request_collections .post (collectionBody (ids s.idsUsed) name)
  have hcreates : ((collectionBody (ids s.idsUsed) name).field? "collectionId").isSome = true := rfl
  obtain ⟨v, hv, hid⟩ := send_write takes (by rw [hmethod]; decide)
    { s with idsUsed := s.idsUsed + 1 }
  obtain ⟨id, hid⟩ := hid _ hbody hcreates
  refine ⟨id, ?_⟩
  rw [createCollection, hr]
  cases hsend : send server (.ok r) { s with idsUsed := s.idsUsed + 1 } with
  | mk answer t =>
      rw [hsend] at hv
      obtain rfl : answer = .ok v := hv
      simp [createdId, hid]

/-- An attribute is written, unless the URL is too long. -/
theorem fst_change (takes : server.TakesWrites) (h : Reachable c u) {method : HttpMethod}
    (write : method ≠ .get) (path : String) (body : Json) (s : State σ) :
    (change server (request c method path [] (some body)) s).1 =
      (tooLong? c path).elim (.ok ()) .error := by
  obtain ⟨r, hmethod, hr⟩ := h.request_eq_elim method path body
  rw [hr]
  cases tooLong? c path with
  | some e => rfl
  | none =>
      obtain ⟨v, hv, -⟩ := send_write takes (hmethod ▸ write) s
      rw [Option.elim_none, change]
      cases hsend : send server (.ok r) s with
      | mk answer t =>
          rw [hsend] at hv
          obtain rfl : answer = .ok v := hv
          rfl

theorem fst_createAttribute (takes : server.TakesWrites) (h : Reachable c u) (id : String)
    (a : ConcreteAttribute) (s : State σ) : (createAttribute server c id a s).1 =
      (tooLong? c (attributesPath id a.kind.name)).elim (.ok ()) .error :=
  fst_change takes h (by decide) _ _ s

theorem fst_updateAttribute (takes : server.TakesWrites) (h : Reachable c u) (id : String)
    (a : ConcreteAttribute) (s : State σ) : (updateAttribute server c id a s).1 =
      (tooLong? c (attributesPath id (a.kind.updatePath a.key))).elim (.ok ()) .error :=
  fst_change takes h (by decide) _ _ s

end Writes

/-! ## Requests of a conversation -/

section Conversation

variable {σ : Type} (server : HttpServer σ)

/-- Sending adds the request, if there is one. -/
theorem requests_send (r : Except Fault HttpRequest) (s : State σ) :
    (send server r s).2.requests = s.requests ++ r.toOption.toList := by
  cases r with
  | error e => simp [send, Except.toOption]
  | ok r => simp [send, State.requests, Except.toOption]

/-- Listing asks for pages and nothing else. -/
theorem requests_pagesFrom (c : Credentials) (offset : Nat) (s : State σ) :
    ∃ pages, (pagesFrom (fun offset => send server (pageRequest c offset)) offset s).2.requests =
        s.requests ++ pages ∧ ∀ r ∈ pages, ∃ offset, pageRequest c offset = .ok r := by
  have hpage (offset : Nat) (s : State σ) {answer : Except Fault Json} {t : State σ}
      (h : send server (pageRequest c offset) s = (answer, t)) : ∃ pages,
      t.requests = s.requests ++ pages ∧ ∀ r ∈ pages, ∃ offset, pageRequest c offset = .ok r := by
    have hrequests := requests_send server (pageRequest c offset) s
    rw [h] at hrequests
    refine ⟨_, hrequests, fun r hr => ⟨offset, ?_⟩⟩
    cases hp : pageRequest c offset with
    | error e => simp [hp, Except.toOption] at hr
    | ok p =>
        rw [hp] at hr
        rw [List.mem_singleton.mp hr]
  have hmore (offset : Nat) (s : State σ) {answer : Except Fault Json} {t v : State σ}
      (h : send server (pageRequest c offset) s = (answer, t)) (ih : ∃ pages,
        v.requests = t.requests ++ pages ∧ ∀ r ∈ pages, ∃ offset, pageRequest c offset = .ok r) :
      ∃ pages, v.requests = s.requests ++ pages ∧
        ∀ r ∈ pages, ∃ offset, pageRequest c offset = .ok r := by
    obtain ⟨first, hfirst, hf⟩ := hpage offset s h
    obtain ⟨rest, hrest, hr⟩ := ih
    refine ⟨first ++ rest, by rw [hrest, hfirst, List.append_assoc], ?_⟩
    exact fun r hm => (List.mem_append.mp hm).elim (hf r) (hr r)
  fun_induction pagesFrom (fun offset => send server (pageRequest c offset)) offset s with
  | case1 offset s e t h => exact hpage offset s h
  | case2 offset s page t h last => exact hpage offset s h
  | case3 offset s page t h notLast pages v hpages ih =>
      rw [hpages] at ih
      exact hmore offset s h ih
  | case4 offset s page t h notLast e v hpages ih =>
      rw [hpages] at ih
      exact hmore offset s h ih

theorem requests_list (c : Credentials) (s : State σ) :
    ∃ pages, (list server c s).2.requests = s.requests ++ pages ∧
      ∀ r ∈ pages, ∃ offset, pageRequest c offset = .ok r := by
  obtain ⟨pages, hpages, hall⟩ := requests_pagesFrom server c 0 s
  refine ⟨pages, ?_, hall⟩
  rw [← hpages, list]
  split <;> simp_all

/-- A list that was answered has asked for at least one page. -/
theorem Reachable.of_list {c : Credentials} {s t : State σ} {snapshot : Snapshot}
    (h : list server c s = (.ok snapshot, t)) : ∃ u, Reachable c u := by
  cases hp : pageRequest c 0 with
  | error e =>
      rw [list, pagesFrom] at h
      simp [hp, send] at h
  | ok r => exact Reachable.of_request hp

theorem snd_createCollection (ids : Nat → String) (c : Credentials) (name : String) (s : State σ) :
    (createCollection server ids c name s).2 =
      (send server (request c .post "collections" [] (some (collectionBody (ids s.idsUsed) name)))
        { s with idsUsed := s.idsUsed + 1 }).2 := by
  rw [createCollection]
  split <;> simp_all

theorem snd_change (r : Except Fault HttpRequest) (s : State σ) :
    (change server r s).2 = (send server r s).2 := by
  rw [change]
  split <;> simp_all

/-- A call of a run sends nothing but writes. -/
theorem requests_takes (ids : Nat → String) (c : Credentials) {deed : Deed Fault} {s t : State σ}
    (h : deed.Takes (store server ids c) s t) :
    ∃ writes, t.requests = s.requests ++ writes ∧ ∀ r ∈ writes, r.method ≠ .get := by
  have hsend {method : HttpMethod} (write : method ≠ .get) (path : String) (body : Json)
      (s : State σ) : ∃ writes, (send server (request c method path [] (some body)) s).2.requests =
        s.requests ++ writes ∧ ∀ r ∈ writes, r.method ≠ .get := by
    refine ⟨_, requests_send server _ s, fun r hr => ?_⟩
    cases hreq : request c method path [] (some body) with
    | error e => simp [hreq, Except.toOption] at hr
    | ok q =>
        obtain ⟨-, -, -, -, -, -, -, hmethod⟩ := request_ok hreq
        rw [hreq] at hr
        rwa [List.mem_singleton.mp hr, hmethod]
  cases deed with
  | collectionCreated name answer =>
      have ht : (createCollection server ids c name s).2 = t := congrArg Prod.snd h
      rw [← ht, snd_createCollection]
      exact hsend (by decide) _ _ { s with idsUsed := s.idsUsed + 1 }
  | attributeCreated id sent answer =>
      have ht : (createAttribute server c id sent s).2 = t := congrArg Prod.snd h
      rw [← ht, createAttribute, snd_change]
      exact hsend (by decide) _ _ s
  | attributeUpdated id sent answer =>
      have ht : (updateAttribute server c id sent s).2 = t := congrArg Prod.snd h
      rw [← ht, updateAttribute, snd_change]
      exact hsend (by decide) _ _ s
  | leftOut reason =>
      obtain rfl : t = s := h
      exact ⟨[], by simp, by simp⟩

/-- A whole run sends nothing but writes. -/
theorem requests_answers (ids : Nat → String) (c : Credentials) {l : Ledger Fault} {s t : State σ}
    (h : l.Answers (store server ids c) s t) :
    ∃ writes, t.requests = s.requests ++ writes ∧ ∀ r ∈ writes, r.method ≠ .get := by
  induction h with
  | nil s => exact ⟨[], by simp, by simp⟩
  | cons call _ ih =>
      obtain ⟨first, hfirst, hf⟩ := requests_takes server ids c call
      obtain ⟨rest, hrest, hr⟩ := ih
      refine ⟨first ++ rest, by rw [hrest, hfirst, List.append_assoc], ?_⟩
      exact fun r hm => (List.mem_append.mp hm).elim (hf r) (hr r)

end Conversation

end RestStore

end DeclaredSchema
