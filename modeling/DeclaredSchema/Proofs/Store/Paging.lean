import DeclaredSchema.Proofs.Store.DryRun
import Mathlib.Algebra.Order.Floor.Div

/-! # Listing in pages

Collections are asked for page by page, each time for the place behind all that has come so far. A
server that shows a slice of its collections at a time is asked as often as there are slices, and
what is read is what the whole list would give in one document. Whatever the server does, one
question that fails and one page without a list make the whole list fail.
-/

namespace DeclaredSchema

namespace RestStore

/-! ## Questions and what comes of them -/

/-- The items that came with a page, whatever they are. -/
def fetched : Except Fault Json → List Json
  | .ok page => ((page.field? "collections").bind (·.arr?)).getD []
  | .error _ => []

/-- A page came, and it holds a list of collections. -/
def HoldsList (outcome : Except Fault Json) : Prop :=
  ∃ page items, outcome = .ok page ∧ Snapshot.items? page = some items

/-- Questions for pages with what came of each. The first is for the place `offset`, every other one
for the place behind the items that came before. -/
inductive Asked {τ : Type} (ask : Nat → τ → Except Fault Json × τ) :
    Nat → τ → List (Nat × Except Fault Json) → τ → Prop where
  | nil (offset : Nat) (s : τ) : Asked ask offset s [] s
  | cons {offset : Nat} {s t u : τ} {outcome : Except Fault Json}
      {others : List (Nat × Except Fault Json)} (asked : ask offset s = (outcome, t))
      (more : Asked ask (offset + (fetched outcome).length) t others u) :
      Asked ask offset s ((offset, outcome) :: others) u

section Outcomes

variable {τ : Type} {ask : Nat → τ → Except Fault Json × τ}

/-- Listing asks until a question fails or a page ends the list. -/
theorem exists_asked (ask : Nat → τ → Except Fault Json × τ) (offset : Nat) (s : τ) :
    ∃ trace, Asked ask offset s trace (pagesFrom ask offset s).2 ∧
      ((∃ pages, (pagesFrom ask offset s).1 = .ok pages ∧ trace.map (·.2) = pages.map .ok) ∨
        ∃ e, (pagesFrom ask offset s).1 = .error e ∧ .error e ∈ trace.map (·.2)) := by
  fun_induction pagesFrom ask offset s with
  | case1 offset s e t h =>
      exact ⟨[(offset, .error e)], .cons h (.nil _ t), .inr ⟨e, rfl, List.mem_singleton_self _⟩⟩
  | case2 offset s page t h last =>
      exact ⟨[(offset, .ok page)], .cons h (.nil _ t), .inl ⟨[page], rfl, rfl⟩⟩
  | case3 offset s page t h notLast pages u hpages ih =>
      rw [hpages] at ih
      obtain ⟨trace, hasked, ⟨_, ⟨⟩, htrace⟩ | ⟨e, ⟨⟩, -⟩⟩ := ih
      exact ⟨_, .cons h hasked, .inl ⟨page :: pages, rfl, by rw [List.map_cons, htrace]; rfl⟩⟩
  | case4 offset s page t h notLast e u hpages ih =>
      rw [hpages] at ih
      obtain ⟨trace, hasked, ⟨pages, ⟨⟩, -⟩ | ⟨_, ⟨⟩, he⟩⟩ := ih
      exact ⟨_, .cons h hasked, .inr ⟨e, rfl, List.mem_cons_of_mem _ he⟩⟩

/-- The collections of pages that hold lists are those of the lists in a row. -/
theorem snapshotOf_eq {pages : List Json} {lists : List (List Json)}
    (h : pages.map Snapshot.items? = lists.map some) :
    snapshotOf pages = .ok (lists.flatten.filterMap Snapshot.collectionOfJson?) := by
  induction pages generalizing lists with
  | nil =>
      obtain rfl : lists = [] := by simpa using h.symm
      rfl
  | cons page pages ih =>
      cases lists with
      | nil => cases h
      | cons items lists =>
          obtain ⟨hpage, hpages⟩ := List.cons.inj h
          rw [snapshotOf, Snapshot.ofJson, hpage, ih hpages, List.flatten_cons,
            List.filterMap_append]
          rfl

theorem snapshotOf_error {pages : List Json} {page : Json} (hpage : page ∈ pages)
    (h : Snapshot.items? page = none) : ∃ e, snapshotOf pages = .error e := by
  induction pages with
  | nil => cases hpage
  | cons first pages ih =>
      rw [snapshotOf, Snapshot.ofJson]
      cases hfirst : Snapshot.items? first with
      | none => exact ⟨_, rfl⟩
      | some items =>
          rcases List.mem_cons.mp hpage with rfl | hpage
          · rw [h] at hfirst
            cases hfirst
          · obtain ⟨e, he⟩ := ih hpage
            exact ⟨e, by rw [he]; rfl⟩

end Outcomes

section List

variable {σ : Type} {server : HttpServer σ} {c : Credentials} {s : State σ}

/-- The questions for the pages of a list. -/
abbrev askPage (server : HttpServer σ) (c : Credentials) (offset : Nat) :
    State σ → Except Fault Json × State σ := send server (pageRequest c offset)

theorem list_of_pages {pages : List Json}
    (h : (pagesFrom (askPage server c) 0 s).1 = .ok pages) :
    list server c s = (snapshotOf pages, (pagesFrom (askPage server c) 0 s).2) := by
  rw [list]
  split <;> simp_all

theorem list_of_error {e : Fault} (h : (pagesFrom (askPage server c) 0 s).1 = .error e) :
    list server c s = (.error e, (pagesFrom (askPage server c) 0 s).2) := by
  rw [list]
  split <;> simp_all

/-- The list fails if a question fails or a page holds no list, and in no other case. -/
theorem list_error_iff (server : HttpServer σ) (c : Credentials) (s : State σ) :
    ∃ trace, Asked (askPage server c) 0 s trace (list server c s).2 ∧
      ((∃ e, (list server c s).1 = .error e) ↔ ∃ o ∈ trace.map (·.2), ¬ HoldsList o) := by
  obtain ⟨trace, hasked, ⟨pages, hpages, htrace⟩ | ⟨e, he, hmem⟩⟩ :=
    exists_asked (askPage server c) 0 s
  · refine ⟨trace, by rwa [list_of_pages hpages], ?_⟩
    rw [list_of_pages hpages, htrace]
    by_cases hall : ∀ page ∈ pages, (Snapshot.items? page).isSome
    · have hlists : pages.map Snapshot.items? =
          (pages.map fun page => (Snapshot.items? page).getD []).map some := by
        rw [List.map_map]
        refine List.map_congr_left fun page hpage => ?_
        obtain ⟨items, hitems⟩ := Option.isSome_iff_exists.mp (hall page hpage)
        simp [hitems]
      rw [snapshotOf_eq hlists]
      refine ⟨by rintro ⟨e, ⟨⟩⟩, ?_⟩
      rintro ⟨o, ho, hnot⟩
      obtain ⟨page, hpage, rfl⟩ := List.mem_map.mp ho
      obtain ⟨items, hitems⟩ := Option.isSome_iff_exists.mp (hall page hpage)
      exact absurd ⟨page, items, rfl, hitems⟩ hnot
    · push Not at hall
      obtain ⟨page, hpage, hnone⟩ := hall
      have hitems : Snapshot.items? page = none := by simpa using hnone
      refine ⟨fun _ => ⟨.ok page, List.mem_map_of_mem hpage, ?_⟩,
        fun _ => snapshotOf_error hpage hitems⟩
      rintro ⟨_, items, ⟨⟩, h⟩
      rw [hitems] at h
      cases h
  · refine ⟨trace, by rwa [list_of_error he], ?_⟩
    rw [list_of_error he]
    refine ⟨fun _ => ⟨.error e, hmem, ?_⟩, fun _ => ⟨e, rfl⟩⟩
    rintro ⟨_, _, ⟨⟩, -⟩

/-- Listing sends the questions that can be sent and nothing else. -/
theorem Asked.requests {offset : Nat} {t : State σ} {trace : List (Nat × Except Fault Json)}
    (h : Asked (askPage server c) offset s trace t) :
    t.requests = s.requests ++
      (trace.map (·.1)).filterMap fun offset => (pageRequest c offset).toOption := by
  induction h with
  | nil => simp
  | @cons offset s t u outcome others asked _ ih =>
      have hsend := requests_send server (pageRequest c offset) s
      rw [show send server (pageRequest c offset) s = (outcome, t) from asked] at hsend
      rw [ih, hsend, List.append_assoc, List.map_cons, List.filterMap_cons]
      cases (pageRequest c offset).toOption <;> rfl

end List

end RestStore

/-! ## A server that shows slices -/

/-- The server holds the items and shows at most `cap` of them at a time. Asked for at most `limit`
items from `offset` on, it answers with a document that tells how many there are in all. -/
structure HttpServer.ServesPages {σ : Type} (server : HttpServer σ) (items : List Json)
    (cap : Nat) : Prop where
  answers : ∀ r s limit offset, r.method = .get →
    [RestStore.restriction "limit" limit, RestStore.restriction "offset" offset] <:+ r.query →
    ∃ reply page, (server.answer r s).1 = some reply ∧ reply.isSuccess = true ∧
      Json.ofText? reply.content = some page ∧
      (page.field? "total").bind (·.nat?) = some items.length ∧
      page.field? "collections" = some (.arr ((items.drop offset).take (min limit cap)))

namespace RestStore

/-- As many slices as there are of a list, and one for the empty list. -/
def sliceCount (items : List Json) (size : Nat) : Nat := max 1 (items.length ⌈/⌉ size)

section Slices

variable {τ : Type} {ask : Nat → τ → Except Fault Json × τ} {items : List Json} {size : Nat}

theorem succ_lt_sliceCount (items : List Json) (positive : 0 < size) {k : Nat} :
    k + 1 < sliceCount items size ↔ (k + 1) * size < items.length := by
  have hceil := ceilDiv_le_iff_le_mul (b := items.length) (c := k + 1) positive
  rw [sliceCount, Nat.mul_comm, ← not_le, ← not_le, ← hceil]
  omega

/-- Every question for a slice is answered with it. -/
def AnswersSlices (ask : Nat → τ → Except Fault Json × τ) (items : List Json) (size : Nat) : Prop :=
  ∀ k < sliceCount items size, ∀ s, ∃ page t, ask (k * size) s = (.ok page, t) ∧
    totalOf page = items.length ∧
    page.field? "collections" = some (.arr ((items.drop (k * size)).take size))

/-- From the slice of a number on, one question is asked for every slice that is left, and together
they give all items that are left. -/
theorem pagesFrom_slices (positive : 0 < size) (answers : AnswersSlices ask items size)
    {left k : Nat} (hk : k < sliceCount items size) (hleft : sliceCount items size - k = left)
    (s : τ) :
    ∃ (pages : List Json) (lists : List (List Json)) (trace : List (Nat × Except Fault Json)),
      (pagesFrom ask (k * size) s).1 = .ok pages ∧
      Asked ask (k * size) s trace (pagesFrom ask (k * size) s).2 ∧
      trace.map (·.1) = (List.range' k left).map (· * size) ∧
      trace.map (fetched ·.2) = lists ∧ pages.map Snapshot.items? = lists.map some ∧
      lists.flatten = items.drop (k * size) := by
  induction left generalizing k s with
  | zero => omega
  | succ left ih =>
      obtain ⟨page, t, hask, htotal, hitems⟩ := answers k hk s
      have hfetched : fetched (.ok page) = (items.drop (k * size)).take size := by
        simp [fetched, hitems, Json.arr?]
      have hcount : countOf page = min size (items.length - k * size) := by
        rw [show countOf page = (fetched (.ok page)).length from rfl, hfetched,
          List.length_take, List.length_drop]
      have hlist : Snapshot.items? page = some ((items.drop (k * size)).take size) := by
        simp [Snapshot.items?, hitems, Json.arr?]
      have hnext : (k + 1) * size = k * size + size := Nat.succ_mul k size
      have hmore := succ_lt_sliceCount items positive (k := k)
      rw [pagesFrom, hask]
      dsimp only
      by_cases hlast : k + 1 < sliceCount items size
      · have hroom := hmore.mp hlast
        rw [if_neg (by omega)]
        have hplace : k * size + countOf page = (k + 1) * size := by omega
        obtain ⟨pages, lists, trace, hpages, hasked, hoffsets, hfetches, hlists, hall⟩ :=
          ih hlast (by omega) t
        rw [← hplace] at hpages hasked
        cases hrest : pagesFrom ask (k * size + countOf page) t with
        | mk answer u =>
            rw [hrest] at hpages hasked
            obtain rfl : answer = .ok pages := hpages
            refine ⟨page :: pages, (items.drop (k * size)).take size :: lists,
              (k * size, .ok page) :: trace, rfl, .cons hask hasked, ?_, ?_, ?_, ?_⟩
            · rw [List.map_cons, hoffsets, List.range'_succ, List.map_cons]
            · rw [List.map_cons, hfetches, hfetched]
            · rw [List.map_cons, hlist, hlists, List.map_cons]
            · rw [List.flatten_cons, hall, hnext, ← List.drop_drop, List.take_append_drop]
      · have hroom : ¬ (k + 1) * size < items.length := fun h => hlast (hmore.mpr h)
        obtain rfl : left = 0 := by omega
        rw [if_pos (by omega)]
        refine ⟨[page], [(items.drop (k * size)).take size], [(k * size, .ok page)], rfl,
          .cons hask (.nil _ t), rfl, ?_, by rw [List.map_cons, hlist]; rfl, ?_⟩
        · rw [List.map_cons, hfetched, List.map_nil]
        · rw [List.flatten_singleton, List.take_of_length_le]
          rw [List.length_drop]
          omega

end Slices

/-! ## A list from slices -/

section Serving

variable {σ : Type} {server : HttpServer σ} {c : Credentials} {items : List Json} {cap : Nat}

/-- How a question for a page looks to the server. -/
theorem pageRequest_eq_ok {offset : Nat} {r : HttpRequest} (h : pageRequest c offset = .ok r) :
    r.method = .get ∧
      [restriction "limit" pageSize, restriction "offset" offset] <:+ r.query := by
  obtain ⟨u, hs, hread, hhost, hh, hscheme, hsend, hmethod⟩ := request_ok h
  refine ⟨hmethod, ?_⟩
  rw [pageRequest, request_eq hread hhost hh hscheme, if_pos hsend] at h
  obtain rfl := Except.ok.inj h
  exact List.suffix_append _ _

theorem answersSlices_of_servesPages (serves : server.ServesPages items cap)
    (sendable : ∀ k < sliceCount items (min pageSize cap),
      ∃ r, pageRequest c (k * min pageSize cap) = .ok r) :
    AnswersSlices (askPage server c) items (min pageSize cap) := by
  intro k hk s
  obtain ⟨r, hr⟩ := sendable k hk
  obtain ⟨hmethod, hquery⟩ := pageRequest_eq_ok hr
  obtain ⟨reply, page, hreply, hsuccess, hpage, htotal, hitems⟩ :=
    serves.answers r s.server _ _ hmethod hquery
  refine ⟨page, ⟨(server.answer r s.server).2, r :: s.sent, s.idsUsed⟩, ?_, ?_, hitems⟩
  · simp [askPage, send, hr, hreply, read, hsuccess, hpage]
  · rw [totalOf, htotal, Option.getD_some]

/-- The requests of questions that can all be sent. -/
theorem map_filterMap_toOption {ε α β : Type} {f : α → Except ε β} {xs : List α}
    (h : ∀ x ∈ xs, ∃ r, f x = .ok r) :
    (xs.filterMap fun x => (f x).toOption).map .ok = xs.map f := by
  induction xs with
  | nil => rfl
  | cons x xs ih =>
      obtain ⟨⟨r, hr⟩, hxs⟩ := List.forall_mem_cons.mp h
      rw [List.filterMap_cons, hr, List.map_cons, hr, ← ih hxs]
      rfl

/-- Listing asks one page after another, each time for the place behind all items that have come,
and fails if and only if a question fails or a page holds no list. From a server that shows slices
it asks for each slice once, and reads what the items would give in one document. -/
theorem list_in_pages (server : HttpServer σ) (c : Credentials) (s : State σ) :
    (∃ trace, Asked (askPage server c) 0 s trace (list server c s).2 ∧
      ((∃ e, (list server c s).1 = .error e) ↔ ∃ o ∈ trace.map (·.2), ¬ HoldsList o)) ∧
    ∀ items cap size, 0 < cap → server.ServesPages items cap → size = min pageSize cap →
      (∀ k < sliceCount items size, ∃ r, pageRequest c (k * size) = .ok r) →
      ∃ trace requests snapshot, Asked (askPage server c) 0 s trace (list server c s).2 ∧
        trace.map (·.1) = (List.range (sliceCount items size)).map (· * size) ∧
        trace.flatMap (fetched ·.2) = items ∧
        (list server c s).2.requests = s.requests ++ requests ∧
        requests.map .ok =
          (List.range (sliceCount items size)).map (fun k => pageRequest c (k * size)) ∧
        (list server c s).1 = .ok snapshot ∧
        ∀ document, Snapshot.items? document = some items →
          Snapshot.ofJson document = .ok snapshot := by
  refine ⟨list_error_iff server c s, ?_⟩
  rintro items cap size positive serves rfl sendable
  have hsize : 0 < min pageSize cap := Nat.lt_min.mpr ⟨by decide, positive⟩
  have hcount : 0 < sliceCount items (min pageSize cap) :=
    Nat.lt_of_lt_of_le Nat.zero_lt_one (Nat.le_max_left _ _)
  obtain ⟨pages, lists, trace, hpages, hasked, hoffsets, hfetches, hlists, hall⟩ :=
    pagesFrom_slices hsize (answersSlices_of_servesPages serves sendable) hcount rfl s
  rw [Nat.zero_mul] at hpages hasked hall
  rw [Nat.sub_zero, ← List.range_eq_range'] at hoffsets
  have hsent : ∀ k ∈ List.range (sliceCount items (min pageSize cap)),
      ∃ r, pageRequest c (k * min pageSize cap) = .ok r :=
    fun k hk => sendable k (List.mem_range.mp hk)
  refine ⟨trace, _, items.filterMap Snapshot.collectionOfJson?, ?_, hoffsets, ?_, ?_,
    map_filterMap_toOption hsent, ?_, ?_⟩
  · rw [list_of_pages hpages]
    exact hasked
  · rw [List.flatMap_def, hfetches, hall, List.drop_zero]
  · rw [list_of_pages hpages, hasked.requests, hoffsets, List.filterMap_map,
      Function.comp_def]
  · rw [list_of_pages hpages, snapshotOf_eq hlists, hall, List.drop_zero]
  · intro document hdocument
    rw [Snapshot.ofJson, hdocument]

end Serving

/-! ### Two items, one at a time -/

theorem restriction_inj {method : String} {m n : Nat} :
    restriction method m = restriction method n ↔ m = n := by
  have htext (k : Nat) : (restriction method k).2.toList =
      '\x7b' :: (Json.writeString "method" ++ ':' :: Json.writeString method ++ ',' ::
        (Json.writeString "values" ++ ':' :: '[' :: (Nat.toDigits 10 k ++ [']', '\x7d']))) := by
    have hfields : Json.ofFields [("method", .str method), ("values", .arr [.ofNat k])] =
        .obj [("method", .str method), ("values", .arr [.int k])] := rfl
    have hdigits : (k : Int).repr.toList = Nat.toDigits 10 k := String.toList_ofList
    rw [restriction, Json.compact, String.toList_ofList, hfields]
    simp [Json.write, Json.writeFields, Json.writeItems, Json.writeScalar, hdigits]
  constructor
  · intro h
    have hlists := congrArg (·.2.toList) h
    simp only [htext, List.cons.injEq, List.append_cancel_left_eq, List.append_cancel_right_eq,
      true_and] at hlists
    rw [← Nat.ofDigitChars_ten_toDigits (n := m), hlists, Nat.ofDigitChars_ten_toDigits]
  · rintro rfl
    rfl

/-- An item that is no collection, and a collection. -/
def mixedItems : List Json := [.null, .obj [("$id", .str "a"), ("name", .str "A")]]

/-- A page of the mixed items, and its text. -/
def mixedPage (shown : List Json) : Json := .obj [("collections", .arr shown), ("total", .int 2)]

def mixedText (shown : String) : String :=
  "\x7b\"total\":2,\"collections\":[" ++ shown ++ "]\x7d"

/-- Shows the mixed items one at a time. -/
def oneByOne : HttpServer Unit where
  answer r s :=
    let shown := match r.query.reverse with
      | place :: bound :: _ =>
        if bound = restriction "limit" 0 then ""
        else if place = restriction "offset" 0 then "null"
        else if place = restriction "offset" 1 then "\x7b\"$id\":\"a\",\"name\":\"A\"\x7d"
        else ""
      | _ => ""
    (some ⟨200, mixedText shown⟩, s)

theorem ofText?_mixedText : Json.ofText? (mixedText "") = some (mixedPage []) ∧
    Json.ofText? (mixedText "null") = some (mixedPage [.null]) ∧
    Json.ofText? (mixedText "\x7b\"$id\":\"a\",\"name\":\"A\"\x7d") =
      some (mixedPage [.obj [("$id", .str "a"), ("name", .str "A")]]) :=
  ⟨rfl, rfl, rfl⟩

theorem servesPages_oneByOne : oneByOne.ServesPages mixedItems 1 := by
  constructor
  rintro r s limit offset - ⟨front, hquery⟩
  have hreverse : r.query.reverse =
      restriction "offset" offset :: restriction "limit" limit :: front.reverse := by
    rw [← hquery]
    simp
  have hpage (shown : String) (slice : List Json)
      (hanswer : (oneByOne.answer r s).1 = some ⟨200, mixedText shown⟩)
      (hread : Json.ofText? (mixedText shown) = some (mixedPage slice))
      (hslice : (mixedItems.drop offset).take (min limit 1) = slice) :
      ∃ reply page, (oneByOne.answer r s).1 = some reply ∧ reply.isSuccess = true ∧
        Json.ofText? reply.content = some page ∧
        (page.field? "total").bind (·.nat?) = some mixedItems.length ∧
        page.field? "collections" = some (.arr ((mixedItems.drop offset).take (min limit 1))) :=
    ⟨_, _, hanswer, rfl, hread, rfl, by rw [hslice]; rfl⟩
  obtain ⟨hempty, hfirst, hsecond⟩ := ofText?_mixedText
  by_cases hlimit : limit = 0
  · exact hpage "" [] (by simp [oneByOne, hreverse, hlimit]) hempty (by simp [hlimit])
  have hbound : restriction "limit" limit ≠ restriction "limit" 0 :=
    fun h => hlimit (restriction_inj.mp h)
  have hone : min limit 1 = 1 := Nat.min_eq_right (Nat.one_le_iff_ne_zero.mpr hlimit)
  have hplace (k : Nat) (hk : offset ≠ k) : restriction "offset" offset ≠ restriction "offset" k :=
    fun h => hk (restriction_inj.mp h)
  by_cases hzero : offset = 0
  · subst hzero
    exact hpage "null" [.null] (by simp [oneByOne, hreverse, hbound]) hfirst (by rw [hone]; rfl)
  by_cases hsucc : offset = 1
  · subst hsucc
    exact hpage _ _ (by simp [oneByOne, hreverse, hbound, hplace 0]) hsecond (by rw [hone]; rfl)
  · refine hpage "" [] (by simp [oneByOne, hreverse, hbound, hplace 0 hzero, hplace 1 hsucc])
      hempty ?_
    rw [List.drop_eq_nil_of_le, List.take_nil]
    change 2 ≤ offset
    omega

theorem pageRequest_localCredentials_one : ∃ r, pageRequest localCredentials 1 = .ok r := by
  have hsend : (localUrl.withoutCredentials.addQuery
      [restriction "limit" pageSize, restriction "offset" 1]).isSendable = true := by
    decide +kernel
  obtain ⟨r, hr⟩ := pageRequest_localCredentials
  obtain ⟨_, hs, -, -, hh, -⟩ := request_ok hr
  rw [pageRequest, request_eq ofText_collections (by decide) hh (.inl rfl), if_pos hsend]
  exact ⟨_, rfl⟩

theorem list_in_pages_mixed :
    let listed := list oneByOne localCredentials ⟨(), [], 0⟩
    oneByOne.ServesPages mixedItems 1 ∧
    (∀ k < sliceCount mixedItems 1, ∃ r, pageRequest localCredentials (k * 1) = .ok r) ∧
    listed.2.requests.map .ok =
      [pageRequest localCredentials 0, pageRequest localCredentials 1] ∧
    listed.1 = .ok [⟨"a", "A", []⟩] := by
  have hcount : sliceCount mixedItems 1 = 2 := by decide
  have sendable : ∀ k < sliceCount mixedItems 1,
      ∃ r, pageRequest localCredentials (k * 1) = .ok r := by
    rw [hcount]
    intro k hk
    obtain rfl | rfl : k = 0 ∨ k = 1 := by omega
    · exact pageRequest_localCredentials
    · exact pageRequest_localCredentials_one
  obtain ⟨trace, requests, snapshot, -, -, -, hrequests, hsent, hlist, hwhole⟩ :=
    (list_in_pages oneByOne localCredentials ⟨(), [], 0⟩).2 mixedItems 1 1 Nat.zero_lt_one
      servesPages_oneByOne rfl sendable
  have hsnapshot : [⟨"a", "A", []⟩] = snapshot := Except.ok.inj (hwhole (.arr mixedItems) rfl)
  refine ⟨servesPages_oneByOne, sendable, ?_, hlist.trans (congrArg Except.ok hsnapshot.symm)⟩
  rw [hrequests, State.requests, List.reverse_nil, List.nil_append, hsent, hcount]
  rfl

end RestStore

end DeclaredSchema
