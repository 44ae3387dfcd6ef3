import DeclaredSchema.Command
import DeclaredSchema.Proofs.Store.Rehearsal
import DeclaredSchema.Proofs.Store.RestWrites

/-! # A dry run predicts the run

A dry run carries a plan out on a copy in memory of what was fetched, and everything is done there.
A server that takes every write does the same, except for attributes whose URL is too long to be
sent. The two runs begin with the same requests, and the dry run sends no others.
-/

namespace DeclaredSchema

open Apply

/-! ## Books without a missing collection -/

namespace Ledger

variable {ε : Type} {start : Clock} {l : Ledger ε}

theorem Justified.follows (h : l.Justified start) {entry : LedgerEntry ε} (he : entry ∈ l) :
    ∃ before after, l = before ++ entry :: after ∧ Follows start before entry := by
  obtain ⟨before, after, hl⟩ := List.append_of_mem he
  exact ⟨before, after, hl, h before entry after hl⟩

theorem Answers.takes {σ : Type} {store : SchemaStore σ ε} {s t : σ} (h : l.Answers store s t)
    {entry : LedgerEntry ε} (he : entry ∈ l) : ∃ u v, entry.deed.Takes store u v := by
  induction h with
  | nil s => cases he
  | cons call _ ih =>
      rcases List.mem_cons.mp he with rfl | he
      · exact ⟨_, _, call⟩
      · exact ih he

theorem Follows.creation?_eq_none_iff {before : Ledger ε} {entry : LedgerEntry ε}
    (follows : Follows start before entry) (name : String) :
    entry.deed.creation? name = none ↔ Plan.creation? entry.operation ≠ some name := by
  cases follows with
  | collection c answer =>
      by_cases hname : c.name = name <;> simp [Deed.creation?, Plan.creation?, hname]
  | _ => simp [Deed.creation?, Plan.creation?]

/-- Of a part of the books: the collections that were created, or were to be, are those planned. -/
theorem latest?_eq_none_iff (h : l.Justified start) {part : Ledger ε} (sub : part ⊆ l)
    (name : String) :
    part.latest? name = none ↔ name ∉ Plan.creations (part.map (·.operation)) := by
  simp only [latest?, List.findSome?_eq_none_iff, List.mem_reverse, Plan.creations,
    List.filterMap_map, List.mem_filterMap, Function.comp_apply, not_exists, not_and]
  refine forall₂_congr fun entry he => ?_
  obtain ⟨_, _, -, follows⟩ := h.follows (sub he)
  exact follows.creation?_eq_none_iff name

/-- A collection that is planned once is created once. -/
theorem latest?_eq_of_nodup (h : l.Justified start)
    (once : (Plan.creations (l.map (·.operation))).Nodup) {before after : Ledger ε}
    (hl : l = before ++ after) {name : String} {answer : Except ε String}
    (latest : before.latest? name = some answer) : l.latest? name = some answer := by
  have hbefore : before ⊆ l := hl ▸ List.subset_append_left before after
  have hafter : after ⊆ l := hl ▸ List.subset_append_right before after
  have hplanned : name ∈ Plan.creations (before.map (·.operation)) := by
    by_contra hname
    rw [← latest?_eq_none_iff h hbefore, latest] at hname
    cases hname
  have hnone : after.latest? name = none := by
    rw [latest?_eq_none_iff h hafter]
    rw [hl, List.map_append, Plan.creations_append] at once
    exact fun hagain => (List.nodup_append.mp once).2.2 name hplanned name hagain rfl
  rw [latest?] at latest hnone
  rw [hl, latest?, List.reverse_append, List.findSome?_append, hnone, latest]
  rfl

/-- When no creation of a collection fails and each stands before its attributes, nothing is left
out. -/
theorem skip?_eq_none (h : l.Justified start) (ordered : Plan.Ordered (l.map (·.operation)))
    (created : ∀ entry ∈ l, ∀ name e, entry.deed ≠ .collectionCreated name (.error e))
    {entry : LedgerEntry ε} (he : entry ∈ l) : entry.skip? = none := by
  obtain ⟨before, after, hl, hf⟩ := h.follows he
  cases hf with
  | @refused name e a refused =>
      obtain ⟨x, hx, hcreation⟩ := List.exists_of_findSome?_eq_some refused
      have hmem : x ∈ l := by
        rw [hl]
        exact List.mem_append_left _ (List.mem_reverse.mp hx)
      rw [Deed.creation?.eq_def] at hcreation
      split at hcreation
      · next n answer hdeed =>
          split at hcreation
          · obtain rfl : answer = .error e := Option.some.inj hcreation
            exact absurd hdeed (created x hmem n e)
          · cases hcreation
      · cases hcreation
  | @unplanned name a unplanned =>
      have hat : (l.map (·.operation))[before.length]? =
          some (.createAttribute (.pending name) a) := by simp [hl]
      have hname := ordered _ name a hat
      rw [← List.map_take, hl, List.take_left] at hname
      have hbefore : before ⊆ l := hl ▸ List.subset_append_left before _
      exact absurd hname ((latest?_eq_none_iff h hbefore name).mp unplanned)
  | _ => rfl

end Ledger

/-- The report of a plan that was carried out, apart from some operations that have failed. -/
def ApplyReport.ofPlan {ε : Type} (p : Plan) (failures : List (Operation × ε)) : ApplyReport ε where
  collectionsCreated := p.collectionsToCreate - failures.countP (·.1.createsCollection)
  attributesCreated := p.attributesToCreate - failures.countP (·.1.createsAttribute)
  attributesUpdated := p.attributesToUpdate - failures.countP (·.1.updatesAttribute)
  failures

/-- How an operation counts when it is done. -/
def Operation.verdict : Operation → Verdict
  | createCollection _ => .collectionCreated
  | createAttribute _ _ => .attributeCreated
  | updateAttribute _ _ _ _ => .attributeUpdated

theorem Operation.createsCollection_eq (op : Operation) :
    op.createsCollection = decide (op.verdict = .collectionCreated) := by cases op <;> rfl

theorem Operation.createsAttribute_eq (op : Operation) :
    op.createsAttribute = decide (op.verdict = .attributeCreated) := by cases op <;> rfl

theorem Operation.updatesAttribute_eq (op : Operation) :
    op.updatesAttribute = decide (op.verdict = .attributeUpdated) := by cases op <;> rfl

namespace Ledger

variable {ε : Type} {start : Clock} {l : Ledger ε}

/-- An operation that was not left out has failed or is done. -/
theorem Follows.verdict_eq {before : Ledger ε} {entry : LedgerEntry ε}
    (follows : Follows start before entry) (hskip : entry.skip? = none) :
    (∃ f, entry.failure? = some f ∧ f.1 = entry.operation ∧ entry.verdict = .failed) ∨
      entry.failure? = none ∧ entry.verdict = entry.operation.verdict := by
  cases follows with
  | collection c answer | existing id name a answer | pending a answer
  | update id name a e answer =>
      cases answer with
      | error e => exact Or.inl ⟨_, rfl, rfl, rfl⟩
      | ok done => exact Or.inr ⟨rfl, rfl⟩
  | refused a | unplanned a => cases hskip

/-- Of the operations of one kind those that have not failed are done. -/
theorem tally_add_failures (h : l.Justified start) (complete : ∀ entry ∈ l, entry.skip? = none)
    (verdict : Verdict) (counted : verdict ≠ .failed) :
    l.tally verdict + l.report.failures.countP (·.1.verdict = verdict) =
      (l.map (·.operation)).countP (·.verdict = verdict) := by
  have hentries (entry : LedgerEntry ε) (he : entry ∈ l) :
      (∃ f, entry.failure? = some f ∧ f.1 = entry.operation ∧ entry.verdict = .failed) ∨
        entry.failure? = none ∧ entry.verdict = entry.operation.verdict := by
    obtain ⟨_, _, -, follows⟩ := h.follows he
    exact follows.verdict_eq (complete entry he)
  simp only [tally, report]
  clear h complete
  induction l with
  | nil => rfl
  | cons entry rest ih =>
      have ih := ih fun e he => hentries e (List.mem_cons_of_mem _ he)
      rw [List.countP_cons, List.map_cons, List.countP_cons, ← ih]
      rcases hentries entry List.mem_cons_self with ⟨f, hf, hop, hv⟩ | ⟨hf, hv⟩
      · have hne : (Verdict.failed = verdict) = False := by simp [Ne.symm counted]
        simp only [List.filterMap_cons, hf, List.countP_cons, hv, hop, hne, decide_false,
          Bool.false_eq_true, if_false]
        omega
      · simp only [List.filterMap_cons, hf, hv]
        omega

/-- The report of books without anything left out. -/
theorem report_eq_ofPlan (h : l.Justified start) (p : Plan)
    (hp : l.map (·.operation) = p.operations) (complete : ∀ entry ∈ l, entry.skip? = none) :
    l.report = .ofPlan p l.report.failures := by
  have hcollections := tally_add_failures h complete .collectionCreated (by decide)
  have hattributes := tally_add_failures h complete .attributeCreated (by decide)
  have hupdates := tally_add_failures h complete .attributeUpdated (by decide)
  have hskipped : l.report.skipped = [] := by
    rw [report, List.filterMap_eq_nil_iff]
    exact complete
  rw [hp] at hcollections hattributes hupdates
  have hreport : l.report = ⟨l.tally .collectionCreated, l.tally .attributeCreated,
    l.tally .attributeUpdated, l.report.failures, l.report.skipped⟩ := rfl
  rw [hreport, hskipped, ApplyReport.ofPlan, Plan.collectionsToCreate, Plan.attributesToCreate,
    Plan.attributesToUpdate]
  simp only [Operation.createsCollection_eq, Operation.createsAttribute_eq,
    Operation.updatesAttribute_eq, ApplyReport.mk.injEq, and_true]
  omega

end Ledger

/-! ## The run on a server -/

namespace LedgerEntry

variable {ε : Type} (op : Operation) (id : String) (sent : ConcreteAttribute)

theorem failure?_attributeCreated (error? : Option ε) :
    failure? ⟨op, .attributeCreated id sent (error?.elim (.ok ()) .error)⟩ =
      error?.map (op, ·) := by cases error? <;> rfl

theorem failure?_attributeUpdated (error? : Option ε) :
    failure? ⟨op, .attributeUpdated id sent (error?.elim (.ok ()) .error)⟩ =
      error?.map (op, ·) := by cases error? <;> rfl

end LedgerEntry

namespace RestStore

variable {σ : Type} {server : HttpServer σ} {c : Credentials}

/-- Where an attribute is written, once it is known which ids the new collections got. -/
def writePath? (created : List (String × Option String)) : Operation → Option String
  | .createCollection _ => none
  | .createAttribute ref a => (target? created ref).toOption.map (attributesPath · a.kind.name)
  | .updateAttribute id _ a _ => some (attributesPath id (a.kind.updatePath a.key))

/-- The failure of an operation whose request has too long a URL. -/
def tooLongFor? (c : Credentials) (created : List (String × Option String)) (op : Operation) :
    Option (Operation × Fault) :=
  ((writePath? created op).bind (tooLong? c)).map (op, ·)

theorem tooLongFor?_createAttribute {created : List (String × Option String)} {ref : CollectionRef}
    {id : String} (target : target? created ref = .ok id) (a : Attribute) :
    tooLongFor? c created (.createAttribute ref a) =
      (tooLong? c (attributesPath id a.kind.name)).map (.createAttribute ref a, ·) := by
  rw [tooLongFor?, writePath?, target, Except.toOption, Option.map_some, Option.bind_some]

theorem tooLongFor?_updateAttribute (created : List (String × Option String)) (id name : String)
    (a : Attribute) (e : RemoteAttribute) :
    tooLongFor? c created (.updateAttribute id name a e) =
      (tooLong? c (attributesPath id (a.kind.updatePath a.key))).map
        (.updateAttribute id name a e, ·) := by
  rw [tooLongFor?, writePath?, Option.bind_some]

/-- A server that takes every write refuses no collection. -/
theorem Reachable.creation_ne_error {u : Url} (h : Reachable c u) (takes : server.TakesWrites)
    (ids : Nat → String) {deed : Deed Fault} {s t : State σ}
    (call : deed.Takes (store server ids c) s t) (name : String) (e : Fault) :
    deed ≠ .collectionCreated name (.error e) := by
  rintro rfl
  obtain ⟨id, hid⟩ := createCollection_ok takes h ids name s
  have herror : (createCollection server ids c name s).1 = .error e := congrArg Prod.fst call
  cases hid.symm.trans herror

/-- On a server that takes every write the length of the URL tells what fails. -/
theorem Reachable.failure?_eq {u : Url} (h : Reachable c u) (takes : server.TakesWrites)
    (ids : Nat → String) {start : Clock} {before : Ledger Fault} {entry : LedgerEntry Fault}
    (follows : Ledger.Follows start before entry) {s t : State σ}
    (call : entry.deed.Takes (store server ids c) s t) (hskip : entry.skip? = none)
    {created : List (String × Option String)}
    (hcreated : ∀ name id, before.latest? name = some (.ok id) →
      created.lookup name = some (some id)) :
    entry.failure? = tooLongFor? c created entry.operation := by
  cases follows with
  | collection d answer =>
      cases answer with
      | ok id => rfl
      | error e => exact absurd rfl (h.creation_ne_error takes ids call d.name e)
  | existing id name a answer =>
      let sent := a.concrete (before.clock start).now
      have hanswer : (createAttribute server c id sent s).1 = answer := congrArg Prod.fst call
      rw [fst_createAttribute takes h] at hanswer
      rw [← hanswer, LedgerEntry.failure?_attributeCreated]
      exact (tooLongFor?_createAttribute rfl a).symm
  | @pending name id a answer latest =>
      let sent := a.concrete (before.clock start).now
      have hanswer : (createAttribute server c id sent s).1 = answer := congrArg Prod.fst call
      have htarget : target? created (.pending name) = .ok id := by
        rw [target?, hcreated name id latest]
      rw [fst_createAttribute takes h] at hanswer
      rw [← hanswer, LedgerEntry.failure?_attributeCreated]
      exact (tooLongFor?_createAttribute htarget a).symm
  | update id name a existing answer =>
      let sent := a.mergeInto existing (before.clock start).now
      have hanswer : (updateAttribute server c id sent s).1 = answer := congrArg Prod.fst call
      rw [fst_updateAttribute takes h] at hanswer
      rw [← hanswer, LedgerEntry.failure?_attributeUpdated]
      exact (tooLongFor?_updateAttribute created id name a existing).symm
  | refused a | unplanned a => cases hskip

/-- The report of a plan on a server that takes every write. -/
theorem report_apply (takes : server.TakesWrites) {u : Url} (h : Reachable c u) (ids : Nat → String)
    {p : Plan} (ordered : Plan.Ordered p.operations) (once : (Plan.creations p.operations).Nodup)
    (clock : Clock) (s : State σ) :
    let run := apply (store server ids c) p.operations clock s
    run.report = .ofPlan p (p.operations.filterMap (tooLongFor? c run.created)) := by
  intro run
  obtain ⟨l, hl, hbooks⟩ := Books.run (store server ids c) clock s p.operations.length p.operations
  have hcomplete : ∀ entry ∈ l, entry.skip? = none := by
    refine fun entry he => Ledger.skip?_eq_none hbooks.justified (hl.symm ▸ ordered) ?_ he
    intro entry he
    obtain ⟨_, _, call⟩ := hbooks.answers.takes he
    exact h.creation_ne_error takes ids call
  have hfailures : l.report.failures = p.operations.filterMap (tooLongFor? c run.created) := by
    rw [← hl, List.filterMap_map]
    refine List.filterMap_congr fun entry he => ?_
    obtain ⟨before, after, hsplit, follows⟩ := hbooks.justified.follows he
    obtain ⟨_, _, call⟩ := hbooks.answers.takes he
    refine h.failure?_eq takes ids follows call (hcomplete entry he) fun name id latest => ?_
    have hlatest := Ledger.latest?_eq_of_nodup hbooks.justified (hl.symm ▸ once) hsplit latest
    exact (hbooks.created name).trans (by rw [hlatest]; rfl)
  rw [← hfailures]
  exact hbooks.report.trans (Ledger.report_eq_ofPlan hbooks.justified p hl hcomplete)

end RestStore

/-! ## Conversations of a dry run -/

namespace Workspace

variable {σ : Type} (w : Workspace σ)

/-- What a dry run and the run ask for: both the same pages, and the run its writes. -/
structure Requests (dry real : RestStore.State σ) (s : RestStore.State σ)
    (pages writes : List HttpRequest) : Prop where
  dry : dry.requests = s.requests ++ pages
  real : real.requests = s.requests ++ pages ++ writes
  listed : ∀ r ∈ pages, r.method = .get ∧ ∃ c offset, w.config.store.credentials = .ok c ∧
    RestStore.pageRequest c offset = .ok r
  written : ∀ r ∈ writes, r.method ≠ .get

theorem requests_runApply (mode : PlanMode) (root : String) (s : RestStore.State σ) :
    ∃ pages writes, w.Requests (w.runApply mode true root s).conversation
      (w.runApply mode false root s).conversation s pages writes := by
  have hnothing : w.Requests s s s [] [] := ⟨by simp, by simp, by simp, by simp⟩
  rw [runApply, runApply]
  cases w.prepare root with
  | error e => exact ⟨[], [], hnothing⟩
  | ok p =>
      rw [Workspace.store]
      cases hc : w.config.store.credentials with
      | error m => exact ⟨[], [], hnothing⟩
      | ok c =>
          obtain ⟨pages, hpages, hlisted⟩ := RestStore.requests_list w.server c s
          have hlisted : ∀ r ∈ pages, r.method = .get ∧ ∃ d offset,
              w.config.store.credentials = .ok d ∧ RestStore.pageRequest d offset = .ok r := by
            intro r hr
            obtain ⟨offset, h⟩ := hlisted r hr
            obtain ⟨_, _, _, _, _, _, _, hget⟩ := RestStore.request_ok h
            exact ⟨hget, c, offset, hc, h⟩
          dsimp only [Except.map, RestStore.store]
          cases hlist : RestStore.list w.server c s with
          | mk answer t =>
              rw [hlist] at hpages
              cases answer with
              | error e => exact ⟨pages, [], hpages, by simp [hpages], hlisted, by simp⟩
              | ok snapshot =>
                  let ops := (plan p.collections snapshot mode).operations
                  obtain ⟨l, -, hbooks⟩ := Books.run (RestStore.store w.server w.ids c) w.clock t
                    ops.length ops
                  obtain ⟨writes, hwrites, hwritten⟩ :=
                    RestStore.requests_answers w.server w.ids c hbooks.answers
                  refine ⟨pages, writes, hpages, ?_, hlisted, hwritten⟩
                  rw [← hpages]
                  exact hwrites

end Workspace

/-- A dry run predicts the run. On a copy of what was fetched, whatever the clock says, every
operation of a plan is done. A server that takes every write comes to the same report, but for
attributes whose URL no request can name, because it is longer than 65534 bytes: each of these
fails, and nothing is left out. The commands ask for the same pages in both runs, and a dry run asks
for nothing else. -/
theorem dry_run_predicts (classes : List Collection) (mode : PlanMode) {snapshot : Snapshot}
    (distinct : snapshot.ids.Nodup) (unused : ∀ n, MemoryStore.generatedId n ∉ snapshot.ids)
    (rehearsalClock clock : Clock) {σ : Type} {server : HttpServer σ} (takes : server.TakesWrites)
    (ids : Nat → String) (c : Credentials) {s t : RestStore.State σ}
    (fetched : (RestStore.store server ids c).list s = (.ok snapshot, t)) :
    let p := plan classes snapshot mode
    let rehearsal := apply MemoryStore.store p.operations rehearsalClock (.ofSnapshot snapshot)
    let performance := apply (RestStore.store server ids c) p.operations clock t
    rehearsal.report =
      ⟨p.collectionsToCreate, p.attributesToCreate, p.attributesToUpdate, [], []⟩ ∧
    performance.report =
      .ofPlan p (p.operations.filterMap (RestStore.tooLongFor? c performance.created)) ∧
    ∀ (w : Workspace σ) (command : Bool → Command) (root : String) (s : RestStore.State σ),
      command = .create ∨ command = .update → ∃ pages writes,
        w.Requests (w.run (command true) root s).conversation
          (w.run (command false) root s).conversation s pages writes := by
  intro p rehearsal performance
  obtain ⟨u, hu⟩ := RestStore.Reachable.of_list server fetched
  refine ⟨?_, RestStore.report_apply takes hu ids (Plan.ordered_plan classes snapshot mode)
    (Plan.nodup_creations_plan classes snapshot mode) clock t, ?_⟩
  · exact report_apply_ofSnapshot classes mode rehearsalClock distinct unused
  · rintro w command root s (rfl | rfl)
    · exact w.requests_runApply .createOnly root s
    · exact w.requests_runApply .update root s

/-! ## Ids of a given length -/

theorem String.length_le_utf8ByteSize_ofList (cs : List Char) :
    cs.length ≤ (String.ofList cs).utf8ByteSize := by
  induction cs with
  | nil => exact Nat.zero_le _
  | cons c rest ih =>
      have hc := c.utf8Size_pos
      rw [String.ofList_cons, String.utf8ByteSize_append, String.utf8ByteSize_singleton]
      simp only [List.length_cons]
      omega

namespace RestStore

def letters (n : Nat) : List Char := List.replicate n 'c'

theorem eq_of_mem_letters {n : Nat} {c : Char} (h : c ∈ letters n) : c = 'c' :=
  List.eq_of_mem_replicate h

theorem plain_letters (n : Nat) : UrlPath.Plain (letters n) := by
  have hkept : (letters n).all (fun c => !UrlPath.isSlash true c && Percent.keptInPath c) = true :=
    List.all_eq_true.mpr fun c hc => eq_of_mem_letters hc ▸ by decide
  refine .of_all (Bool.and_eq_true_iff.mpr ⟨?_, hkept⟩)
  cases n with
  | zero => decide
  | succ n =>
      have hdots : UrlPath.plainDots (letters (n + 1)) = 'c' :: UrlPath.plainDots (letters n) := by
        rw [letters, List.replicate_succ, UrlPath.plainDots]
        · rfl
        · simp
      simp [hdots]

/-- A server without collections that gives every new one an id of the given length. -/
def spelling (n : Nat) : HttpServer Unit where
  answer r s := (some ⟨200, if r.method = .get then "\x7b\"total\":0,\"collections\":[]\x7d"
    else "\x7b\"$id\":\"" ++ String.ofList (letters n) ++ "\"\x7d"⟩, s)

theorem readCharsFuel_letters (n fuel : Nat) (done rest : List Char) :
    Json.readCharsFuel (fuel + n + 1) done (letters n ++ '"' :: rest) =
      some (String.ofList (done.reverse ++ letters n), rest) := by
  induction n generalizing done with
  | zero => simp [letters, Json.readCharsFuel]
  | succ n ih =>
      have hcons : letters (n + 1) ++ '"' :: rest = 'c' :: (letters n ++ '"' :: rest) := rfl
      have hfuel : fuel + (n + 1) + 1 = fuel + n + 1 + 1 := by omega
      rw [hcons, hfuel, Json.readCharsFuel, if_neg (by decide), ih]
      · simp [letters, List.replicate_succ]
      · decide
      · decide

/-- What every write is answered. -/
theorem ofText?_id (n : Nat) :
    Json.ofText? ("\x7b\"$id\":\"" ++ String.ofList (letters n) ++ "\"\x7d") =
      some (.obj [("$id", .str (String.ofList (letters n)))]) := by
  have htext : ("\x7b\"$id\":\"" ++ String.ofList (letters n) ++ "\"\x7d").toList =
      ['\x7b', '"', '$', 'i', 'd', '"', ':', '"'] ++ (letters n ++ ['"', '\x7d']) := by
    simp
  have hchars : Json.readChars (letters n ++ ['"', '\x7d']) =
      some (String.ofList (letters n), ['\x7d']) := by
    have hlength : (letters n ++ ['"', '\x7d']).length + 1 = 2 + n + 1 := by
      simp [letters, Nat.add_comm]
    rw [Json.readChars, hlength]
    exact readCharsFuel_letters n 2 [] ['\x7d']
  have hvalue : Json.readValue 126 ('"' :: (letters n ++ ['"', '\x7d'])) =
      some (.str (String.ofList (letters n)), ['\x7d']) := by
    change (Json.readChars _).map _ = _
    rw [hchars]
    rfl
  have hname : Json.readChars ('$' :: 'i' :: 'd' :: '"' :: ':' :: '"' ::
      (letters n ++ ['"', '\x7d'])) =
        some ("$id", ':' :: '"' :: (letters n ++ ['"', '\x7d'])) := rfl
  have hfields (fuel : Nat) : Json.readFieldsFuel (Json.readValue 126) (fuel + 1)
      ('"' :: '$' :: 'i' :: 'd' :: '"' :: ':' :: '"' :: (letters n ++ ['"', '\x7d'])) =
        some ([("$id", .str (String.ofList (letters n)))], []) := by
    simp [Json.readFieldsFuel, Json.skipBlanks, Json.isJsonBlank, hname, hvalue]
  have hobject : Json.readValue 127 ('\x7b' :: '"' :: '$' :: 'i' :: 'd' :: '"' :: ':' :: '"' ::
      (letters n ++ ['"', '\x7d'])) =
        some (.obj [("$id", .str (String.ofList (letters n)))], []) := by
    change (Json.readFieldsFuel (Json.readValue 126) _ _).map _ = _
    rw [hfields]
    rfl
  have hblanks : Json.skipBlanks
      (['\x7b', '"', '$', 'i', 'd', '"', ':', '"'] ++ (letters n ++ ['"', '\x7d'])) =
        '\x7b' :: '"' :: '$' :: 'i' :: 'd' :: '"' :: ':' :: '"' ::
          (letters n ++ ['"', '\x7d']) := rfl
  rw [Json.ofText?, htext, hblanks, Json.maxDepth, hobject]
  rfl

theorem takesWrites_spelling (n : Nat) : (spelling n).TakesWrites := by
  constructor
  intro r s write
  refine ⟨_, .obj [("$id", .str (String.ofList (letters n)))], rfl, rfl, ?_, ?_⟩
  · rw [HttpReply.content, if_neg (by simp), if_neg write]
    exact ofText?_id n
  · intro body _ _
    exact ⟨_, rfl⟩

/-- Settings of a server on the same machine. -/
def localCredentials : Credentials := ⟨"http://[::1]", "project", "d", "key", 30⟩

def localAuthority : UrlAuthority := ⟨none, .ipv6 ⟨[0, 0, 0, 0, 0, 0, 0, 1], by decide⟩, none⟩

/-- Where its collections are. -/
def localUrl : Url := ⟨"http", some localAuthority, "/databases/d/collections", none, none⟩

theorem baseUrl_localCredentials : baseUrl localCredentials = "http://[::1]" := by
  have h : localCredentials.endpoint.toSlice.endsWith (· == '/') = false := by
    simp [localCredentials, String.endsWith_bool_eq_getLast?]
  rw [baseUrl, String.dropEndWhile, String.Slice.dropEndWhile_eq_self h]
  simp [localCredentials]

theorem ofText_collections : Url.ofText (url localCredentials "collections") = .ok localUrl := by
  rw [url, baseUrl_localCredentials]
  decide +kernel

theorem pageRequest_localCredentials : ∃ r, pageRequest localCredentials 0 = .ok r := by
  have hsend : (localUrl.withoutCredentials.addQuery
      [restriction "limit" pageSize, restriction "offset" 0]).isSendable = true := by
    decide +kernel
  have hheaders : ∃ hs, headers localCredentials = .ok hs := ⟨_, if_pos (by decide +kernel)⟩
  obtain ⟨hs, hh⟩ := hheaders
  rw [pageRequest, request_eq ofText_collections (by decide) hh (.inl rfl), if_pos hsend]
  exact ⟨_, rfl⟩

theorem list_spelling (n : Nat) (ids : Nat → String) (s : State Unit) :
    ((store (spelling n) ids localCredentials).list s).1 = .ok [] := by
  obtain ⟨r, hr⟩ := pageRequest_localCredentials
  obtain ⟨_, _, _, _, _, _, _, hmethod⟩ := request_ok hr
  have hpage : Json.ofText? "\x7b\"total\":0,\"collections\":[]\x7d" =
      some (.obj [("collections", .arr []), ("total", .int 0)]) := rfl
  have hsend : send (spelling n) (pageRequest localCredentials 0) s =
      (.ok (.obj [("collections", .arr []), ("total", .int 0)]),
        { s with sent := r :: s.sent }) := by
    simp [hr, send, spelling, hmethod, read, HttpReply.isSuccess, HttpReply.content, hpage]
  change (list (spelling n) localCredentials s).1 = _
  rw [list, pagesFrom, hsend]
  rfl

theorem createCollection_spelling (n : Nat) (ids : Nat → String) (name : String) (s : State Unit) :
    (createCollection (spelling n) ids localCredentials name s).1 =
      .ok (String.ofList (letters n)) := by
  obtain ⟨r, hr⟩ := pageRequest_localCredentials
  obtain ⟨u, hu⟩ := Reachable.of_request hr
  obtain ⟨q, hq, hmethod, -⟩ :=
    hu.request_collections .post (collectionBody (ids s.idsUsed) name)
  rw [createCollection, hq]
  simp only [send, spelling, hmethod, read, HttpReply.isSuccess, HttpReply.content]
  simp [ofText?_id, createdId]
  rfl

/-- The path of a collection's attributes has the collection's id in it. -/
theorem path_attributes (n : Nat) :
    ∃ v, Url.ofText (url localCredentials (attributesPath (String.ofList (letters n)) "string")) =
      .ok v ∧ n ≤ v.path.toList.length := by
  let segments := [Url.rootPath.tail, ['d'], "collections".toList, letters n, "attributes".toList]
  let back := ['d', '/'] ++ "collections/".toList ++ letters n ++ "/attributes/string".toList
  have htext : (url localCredentials (attributesPath (String.ofList (letters n)) "string")).toList =
      "http://[::1]".toList ++ Url.rootPath ++ '/' :: back := by
    rw [toList_url, baseUrl_localCredentials]
    simp [attributesPath, localCredentials, back]
  have hback : ∀ c ∈ back, (!Url.isTrimmed c && Url.isWritten c && !Url.startsTail c) = true := by
    rw [← List.all_eq_true, List.all_append, List.all_append, List.all_append]
    have hletters : (letters n).all (fun c => !Url.isTrimmed c && Url.isWritten c &&
        !Url.startsTail c) = true :=
      List.all_eq_true.mpr fun c hc => eq_of_mem_letters hc ▸ by decide
    rw [hletters]
    decide +kernel
  simp only [Bool.and_eq_true, Bool.not_eq_true'] at hback
  have hplain : ∀ s ∈ segments, UrlPath.Plain s := by
    simp only [segments, List.forall_mem_cons]
    refine ⟨.of_all ?_, .of_all ?_, .of_all ?_, plain_letters n, .of_all ?_, by simp⟩
    all_goals decide +kernel
  have hlast : UrlPath.Plain "string".toList := .of_all (by decide +kernel)
  have hpath : Url.rootPath ++ '/' :: back =
      '/' :: (segments.flatMap (· ++ ['/']) ++ "string".toList) := by
    simp [Url.rootPath, back, segments]
  have hscheme : Url.splitScheme? (Url.cleanedFront "http://[::1]".toList) =
      some ("http", "//[::1]".toList) := by decide +kernel
  have hauthority : Url.readAuthority "http" true
      (("//[::1]".toList ++ Url.rootPath).dropWhile (UrlPath.isSlash true)) =
        .ok (localAuthority, Url.rootPath) := by decide +kernel
  rw [Url.ofText_rootPath htext hscheme rfl, hauthority]
  refine ⟨_, rfl, ?_⟩
  have hall : ∀ c ∈ Url.rootPath ++ '/' :: back, (!Url.startsTail c) = true := by
    intro c hc
    rcases List.mem_append.mp hc with hc | hc
    · exact List.all_eq_true.mp (by decide : Url.rootPath.all (!Url.startsTail ·) = true) c hc
    rcases List.mem_cons.mp hc with rfl | hc
    · decide
    · simp [hback c hc]
  rw [Url.cleanedBack_eq_self fun c hc => (hback c hc).1]
  simp only [Url.complete, List.span_eq_takeWhile_dropWhile, List.takeWhile_eq_self_iff.mpr hall]
  rw [hpath, UrlPath.ofText_segments hplain hlast]
  simp [segments, letters]
  omega

/-- With a long id no request can name the path of the attributes. -/
theorem tooLong?_long {n : Nat} (long : 0xffff ≤ n) : ∃ e,
    tooLong? localCredentials (attributesPath (String.ofList (letters n)) "string") = some e := by
  obtain ⟨v, hv, hlength⟩ := path_attributes n
  have hlong : ¬ v.withoutCredentials.text.utf8ByteSize < 0xffff := by
    have hpath := String.length_le_utf8ByteSize_ofList v.path.toList
    rw [String.ofList_toList] at hpath
    simp only [Url.text, String.utf8ByteSize_append, Url.withoutCredentials]
    omega
  rw [tooLong?, hv]
  exact ⟨_, if_neg hlong⟩

/-- With a short id the path of the attributes can be named. -/
theorem tooLong?_short :
    tooLong? localCredentials (attributesPath (String.ofList (letters 4)) "string") = none := by
  have hread : Url.ofText (url localCredentials
      (attributesPath (String.ofList (letters 4)) "string")) =
        .ok { localUrl with path := "/databases/d/collections/cccc/attributes/string" } := by
    rw [url, baseUrl_localCredentials]
    decide +kernel
  rw [tooLong?, hread]
  decide +kernel

end RestStore

/-- A class with one text. -/
def noteClass : Collection := ⟨"Note", "note.py", [{ key := "body", kind := .string }]⟩

/-- A clock that stands still. -/
def stoppedClock : Clock := ⟨fun _ => ⟨0, 0⟩, 0⟩

theorem operations_noteClass : (plan [noteClass] [] .createOnly).operations =
    [.createCollection noteClass, .createAttribute (.pending "Note")
      { key := "body", kind := .string }] := rfl

/-- The collection has the id that the server gave it. -/
theorem target?_noteClass (n : Nat) (s : RestStore.State Unit) :
    target? (apply (RestStore.store (RestStore.spelling n) toString RestStore.localCredentials)
      (plan [noteClass] [] .createOnly).operations stoppedClock s).created (.pending "Note") =
        .ok (String.ofList (RestStore.letters n)) := by
  have hcollection := RestStore.createCollection_spelling n toString "Note" s
  rw [operations_noteClass]
  cases hafter : RestStore.createCollection (RestStore.spelling n) toString
      RestStore.localCredentials "Note" s with
  | mk answer after =>
      rw [hafter] at hcollection
      obtain rfl : answer = .ok (String.ofList (RestStore.letters n)) := hcollection
      simp [apply, Apply.step, Apply.announce, Apply.perform, RestStore.store, noteClass, hafter,
        Apply.target?]

/-- With short ids both operations are done in both runs. -/
theorem dry_run_predicts_note :
    let server := RestStore.spelling 4
    let store := RestStore.store server toString RestStore.localCredentials
    let fetched := store.list ⟨(), [], 0⟩
    let p := plan [noteClass] [] .createOnly
    let performance := apply store p.operations stoppedClock fetched.2
    server.TakesWrites ∧ fetched.1 = .ok [] ∧
    (apply MemoryStore.store p.operations stoppedClock (.ofSnapshot [])).report =
      ⟨1, 1, 0, [], []⟩ ∧
    performance.report = .ofPlan p (p.operations.filterMap
      (RestStore.tooLongFor? RestStore.localCredentials performance.created)) ∧
    performance.report = ⟨1, 1, 0, [], []⟩ := by
  intro server store fetched p performance
  have hfetched : fetched.1 = .ok [] := RestStore.list_spelling 4 _ _
  have hlist : store.list ⟨(), [], 0⟩ = (.ok [], fetched.2) := Prod.ext hfetched rfl
  have h := dry_run_predicts [noteClass] .createOnly (by decide) (by simp [Snapshot.ids])
    stoppedClock stoppedClock (RestStore.takesWrites_spelling 4) toString
    RestStore.localCredentials hlist
  have hfailures : p.operations.filterMap
      (RestStore.tooLongFor? RestStore.localCredentials performance.created) = [] := by
    rw [operations_noteClass, List.filterMap_eq_nil_iff]
    simp only [List.forall_mem_cons]
    refine ⟨rfl, ?_, by simp⟩
    rw [RestStore.tooLongFor?_createAttribute (target?_noteClass 4 fetched.2)]
    exact congrArg (Option.map _) RestStore.tooLong?_short
  refine ⟨RestStore.takesWrites_spelling 4, hfetched, h.1, h.2.1, h.2.1.trans ?_⟩
  rw [hfailures]
  rfl

/-- With long ids the attribute fails. -/
theorem failures_noteClass {n : Nat} (long : 0xffff ≤ n) {s t : RestStore.State Unit}
    (fetched : (RestStore.store (RestStore.spelling n) toString RestStore.localCredentials).list s =
      (.ok [], t)) :
    (apply (RestStore.store (RestStore.spelling n) toString RestStore.localCredentials)
      (plan [noteClass] [] .createOnly).operations stoppedClock t).report.failures ≠ [] := by
  obtain ⟨u, hu⟩ := RestStore.Reachable.of_list _ fetched
  have hreport := RestStore.report_apply (RestStore.takesWrites_spelling n) hu toString
    (Plan.ordered_plan [noteClass] [] .createOnly)
    (Plan.nodup_creations_plan [noteClass] [] .createOnly) stoppedClock t
  obtain ⟨e, he⟩ := RestStore.tooLong?_long long
  intro hnil
  rw [hreport] at hnil
  have hnone := List.filterMap_eq_nil_iff.mp hnil (.createAttribute (.pending "Note")
    { key := "body", kind := .string }) (by rw [operations_noteClass]; simp)
  rw [RestStore.tooLongFor?_createAttribute (target?_noteClass n t)] at hnone
  exact Option.some_ne_none e (he.symm.trans (Option.map_eq_none_iff.mp hnone))

/-- An attribute of a collection with a long id is not created, although a dry run counts it. -/
theorem dry_run_overlooks_long_id :
    ¬ ∀ (classes : List Collection) (mode : PlanMode) (snapshot : Snapshot), snapshot.ids.Nodup →
      (∀ n, MemoryStore.generatedId n ∉ snapshot.ids) →
      ∀ (clock : Clock) (server : HttpServer Unit), server.TakesWrites →
      ∀ (ids : Nat → String) (c : Credentials) (s t : RestStore.State Unit),
      (RestStore.store server ids c).list s = (.ok snapshot, t) →
      let p := plan classes snapshot mode
      (apply (RestStore.store server ids c) p.operations clock t).report =
        ⟨p.collectionsToCreate, p.attributesToCreate, p.attributesToUpdate, [], []⟩ := by
  intro h
  let server := RestStore.spelling 0xffff
  let c := RestStore.localCredentials
  let s : RestStore.State Unit := ⟨(), [], 0⟩
  let t := ((RestStore.store server toString c).list s).2
  have hlist : (RestStore.store server toString c).list s = (.ok [], t) :=
    Prod.ext (RestStore.list_spelling 0xffff _ _) rfl
  have hreport := h [noteClass] .createOnly [] (by decide) (by simp [Snapshot.ids]) stoppedClock
    server (RestStore.takesWrites_spelling 0xffff) toString c s t hlist
  refine failures_noteClass (Nat.le_refl 0xffff) hlist ?_
  rw [hreport]

end DeclaredSchema
