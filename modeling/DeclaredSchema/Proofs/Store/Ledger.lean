import DeclaredSchema.Apply
import Mathlib.Data.List.Induction

/-! # The books of a run

A run on any store keeps books: one entry for each operation, in the order of the plan, that says
which call was made and what the store answered, or why no call was made. `Follows` tells what an
entry has to be from the entries before it alone, and `Answers` that the store has been through
these calls and no others. Report, clock and announcements are read off the books.
-/

namespace DeclaredSchema

open Apply

variable {σ ε : Type}

/-- What was done about an operation: a call with its answer, or nothing for a reason. -/
inductive Deed (ε : Type) where
  | collectionCreated (name : String) (answer : Except ε String)
  | attributeCreated (id : String) (sent : ConcreteAttribute) (answer : Except ε Unit)
  | attributeUpdated (id : String) (sent : ConcreteAttribute) (answer : Except ε Unit)
  | leftOut (reason : ApplySkip)

namespace Deed

/-- The call takes the store from one state to another with this answer. -/
def Takes (store : SchemaStore σ ε) (s : σ) (d : Deed ε) (t : σ) : Prop :=
  match d with
  | collectionCreated name answer => store.createCollection name s = (answer, t)
  | attributeCreated id sent answer => store.createAttribute id sent s = (answer, t)
  | attributeUpdated id sent answer => store.updateAttribute id sent s = (answer, t)
  | leftOut _ => t = s

/-- An attribute was sent. -/
def sendsAttribute : Deed ε → Bool
  | attributeCreated _ _ _ | attributeUpdated _ _ _ => true
  | collectionCreated _ _ | leftOut _ => false

/-- The answer to the creation of a collection of the name. -/
def creation? (name : String) : Deed ε → Option (Except ε String)
  | collectionCreated n answer => if n = name then some answer else none
  | _ => none

end Deed

structure LedgerEntry (ε : Type) where
  operation : Operation
  deed : Deed ε

/-- How an operation counts. -/
inductive Verdict where
  | collectionCreated
  | attributeCreated
  | attributeUpdated
  | failed
  | skipped
  deriving DecidableEq

namespace LedgerEntry

def failure? (e : LedgerEntry ε) : Option (Operation × ε) :=
  match e.deed with
  | .collectionCreated _ (.error f) | .attributeCreated _ _ (.error f)
  | .attributeUpdated _ _ (.error f) => some (e.operation, f)
  | _ => none

def skip? (e : LedgerEntry ε) : Option (Operation × ApplySkip) :=
  match e.deed with
  | .leftOut reason => some (e.operation, reason)
  | _ => none

def verdict (e : LedgerEntry ε) : Verdict :=
  match e.deed with
  | .collectionCreated _ (.ok _) => .collectionCreated
  | .attributeCreated _ _ (.ok _) => .attributeCreated
  | .attributeUpdated _ _ (.ok _) => .attributeUpdated
  | .leftOut _ => .skipped
  | _ => .failed

/-- What the operation came to. -/
def outcome (e : LedgerEntry ε) : Outcome ε :=
  match e.deed with
  | .collectionCreated _ (.ok _) => .done
  | .collectionCreated _ (.error f) => .failed f
  | .attributeCreated _ _ answer | .attributeUpdated _ _ answer => Apply.outcome answer
  | .leftOut reason => .skipped reason

theorem isSome_failure? (e : LedgerEntry ε) :
    e.failure?.isSome = decide (e.verdict = .failed) := by
  obtain ⟨op, ⟨_, _ | _⟩ | ⟨_, _, _ | _⟩ | ⟨_, _, _ | _⟩ | _⟩ := e <;> rfl

theorem isSome_skip? (e : LedgerEntry ε) : e.skip?.isSome = decide (e.verdict = .skipped) := by
  obtain ⟨op, ⟨_, _ | _⟩ | ⟨_, _, _ | _⟩ | ⟨_, _, _ | _⟩ | _⟩ := e <;> rfl

end LedgerEntry

/-- The books of a run, one entry for each operation. -/
abbrev Ledger (ε : Type) := List (LedgerEntry ε)

namespace Ledger

/-- What came of the latest creation of a collection of the name. -/
def latest? (l : Ledger ε) (name : String) : Option (Except ε String) :=
  l.reverse.findSome? (·.deed.creation? name)

/-- How many attributes were sent. -/
def attributesSent (l : Ledger ε) : Nat := l.countP (·.deed.sendsAttribute)

/-- The clock that was `start` at the beginning, after its readings. -/
def clock (start : Clock) (l : Ledger ε) : Clock :=
  { start with count := start.count + l.attributesSent }

def tally (l : Ledger ε) (v : Verdict) : Nat := l.countP (·.verdict = v)

def report (l : Ledger ε) : ApplyReport ε where
  collectionsCreated := l.tally .collectionCreated
  attributesCreated := l.tally .attributeCreated
  attributesUpdated := l.tally .attributeUpdated
  failures := l.filterMap (·.failure?)
  skipped := l.filterMap (·.skip?)

/-- The announcement of each operation, with its number from one on. -/
def announcements (total : Nat) (operations : List Operation) : List ProgressEvent :=
  operations.mapIdx fun i op => .applying op.text (i + 1) total

theorem announcements_take (total : Nat) (operations : List Operation) (n : Nat) :
    announcements total (operations.take n) = (announcements total operations).take n := by
  apply List.ext_getElem?
  intro i
  by_cases hi : i < n <;> simp [announcements, List.getElem?_take, hi]

/-- The entry is what the operation calls for after the entries before it, with `start` the clock
at the beginning. What the store answers is left open. -/
inductive Follows (start : Clock) (before : Ledger ε) : LedgerEntry ε → Prop where
  | collection (c : Collection) (answer : Except ε String) :
      Follows start before ⟨.createCollection c, .collectionCreated c.name answer⟩
  | existing (id name : String) (a : Attribute) (answer : Except ε Unit) :
      Follows start before ⟨.createAttribute (.existing id name) a,
        .attributeCreated id (a.concrete (before.clock start).now) answer⟩
  | pending {name id : String} (a : Attribute) (answer : Except ε Unit)
      (created : before.latest? name = some (.ok id)) :
      Follows start before ⟨.createAttribute (.pending name) a,
        .attributeCreated id (a.concrete (before.clock start).now) answer⟩
  | refused {name : String} {e : ε} (a : Attribute)
      (refused : before.latest? name = some (.error e)) :
      Follows start before ⟨.createAttribute (.pending name) a, .leftOut .collectionNotCreated⟩
  | unplanned {name : String} (a : Attribute) (unplanned : before.latest? name = none) :
      Follows start before ⟨.createAttribute (.pending name) a, .leftOut .collectionNotPlanned⟩
  | update (id name : String) (a : Attribute) (e : RemoteAttribute) (answer : Except ε Unit) :
      Follows start before ⟨.updateAttribute id name a e,
        .attributeUpdated id (a.mergeInto e (before.clock start).now) answer⟩

/-- Every entry follows from those before it. -/
def Justified (start : Clock) (l : Ledger ε) : Prop :=
  ∀ before entry after, l = before ++ entry :: after → Follows start before entry

/-- The calls of the books, one after the other, take the store from one state to another. -/
inductive Answers (store : SchemaStore σ ε) : σ → Ledger ε → σ → Prop where
  | nil (s : σ) : Answers store s [] s
  | cons {s t u : σ} {entry : LedgerEntry ε} {rest : Ledger ε}
      (call : entry.deed.Takes store s t) (more : Answers store t rest u) :
      Answers store s (entry :: rest) u

theorem Answers.concat {store : SchemaStore σ ε} {s t u : σ} {l : Ledger ε}
    {entry : LedgerEntry ε} (h : Answers store s l t) (call : entry.deed.Takes store t u) :
    Answers store s (l ++ [entry]) u := by
  induction h with
  | nil s => exact .cons call (.nil u)
  | cons first _ ih => exact .cons first (ih call)

theorem Justified.concat {start : Clock} {l : Ledger ε} {entry : LedgerEntry ε}
    (h : Justified start l) (follows : Follows start l entry) : Justified start (l ++ [entry]) := by
  intro before e after hsplit
  rcases List.eq_nil_or_concat after with rfl | ⟨after, last, rfl⟩
  · obtain ⟨rfl, he⟩ := List.append_inj' hsplit rfl
    obtain rfl : entry = e := by simpa using he
    exact follows
  · rw [List.concat_eq_append, ← List.cons_append, ← List.append_assoc] at hsplit
    exact h before e after (List.append_inj' hsplit rfl).1

@[simp] theorem latest?_concat (l : Ledger ε) (entry : LedgerEntry ε) (name : String) :
    latest? (l ++ [entry]) name = (entry.deed.creation? name).or (l.latest? name) := by
  rw [latest?, List.reverse_append, List.reverse_singleton, List.singleton_append,
    List.findSome?_cons, latest?]
  cases entry.deed.creation? name <;> rfl

theorem length_failures (l : Ledger ε) : l.report.failures.length = l.tally .failed := by
  rw [report, List.length_filterMap_eq_countP, tally]
  congr 1
  funext entry
  exact entry.isSome_failure?

theorem length_skipped (l : Ledger ε) : l.report.skipped.length = l.tally .skipped := by
  rw [report, List.length_filterMap_eq_countP, tally]
  congr 1
  funext entry
  exact entry.isSome_skip?

/-- Each entry counts once. -/
theorem tally_add (l : Ledger ε) :
    l.report.collectionsCreated + l.report.attributesCreated + l.report.attributesUpdated +
      l.report.failures.length + l.report.skipped.length = l.length := by
  rw [length_failures, length_skipped]
  simp only [report, tally]
  induction l with
  | nil => rfl
  | cons entry rest ih =>
      simp only [List.countP_cons, List.length_cons, ← ih]
      cases entry.verdict <;> simp <;> omega

/-- The report goes on with what one more operation came to. -/
theorem report_concat (l : Ledger ε) {start : Clock} {entry : LedgerEntry ε}
    (follows : Follows start l entry) :
    report (l ++ [entry]) = note entry.operation entry.outcome l.report := by
  simp only [report, tally, List.countP_append, List.filterMap_append]
  cases follows with
  | collection c answer => cases answer <;> simp [note, LedgerEntry.outcome, LedgerEntry.verdict,
      LedgerEntry.failure?, LedgerEntry.skip?]
  | existing id name a answer | pending a answer | update id name a e answer =>
      cases answer <;> simp [note, LedgerEntry.outcome, Apply.outcome, LedgerEntry.verdict,
        LedgerEntry.failure?, LedgerEntry.skip?]
  | refused a | unplanned a => simp [note, LedgerEntry.outcome, LedgerEntry.verdict,
      LedgerEntry.failure?, LedgerEntry.skip?]

end Ledger

/-! ## Keeping the books -/

/-- A run of `total` operations that began on `s` has come to `u`, and these are its books. -/
structure Books (store : SchemaStore σ ε) (start : Clock) (s : σ) (total : Nat) (l : Ledger ε)
    (u : Apply.State σ ε) : Prop where
  justified : l.Justified start
  answers : l.Answers store s u.store
  created : ∀ name, u.created.lookup name = (l.latest? name).map Except.toOption
  clock : u.clock = l.clock start
  report : u.report = l.report
  announced : u.announced = Ledger.announcements total (l.map (·.operation))

namespace Books

variable {store : SchemaStore σ ε} {start : Clock} {s : σ} {total : Nat} {l : Ledger ε}
  {u : Apply.State σ ε}

theorem nil (store : SchemaStore σ ε) (start : Clock) (s : σ) (total : Nat) :
    Books store start s total [] { store := s, clock := start } where
  justified before entry after h := by simp at h
  answers := .nil s
  created _ := rfl
  clock := rfl
  report := rfl
  announced := rfl

theorem announced_announce (h : Books store start s total l u) (op : Operation) :
    (announce total op u).announced =
      Ledger.announcements total (l.map (·.operation) ++ [op]) := by
  simp [announce, h.announced, Ledger.announcements, List.mapIdx_append]

/-- The target of an attribute, as the books tell it. -/
theorem target?_pending (h : Books store start s total l u) (name : String) :
    target? u.created (.pending name) = match l.latest? name with
      | some (.ok id) => .ok id
      | some (.error _) => .error .collectionNotCreated
      | none => .error .collectionNotPlanned := by
  rw [target?, h.created name]
  rcases l.latest? name with _ | _ | _ <;> rfl

/-- Books that go on with one entry. -/
theorem concat (h : Books store start s total l u) {entry : LedgerEntry ε} {v : Apply.State σ ε}
    (follows : Ledger.Follows start l entry) (call : entry.deed.Takes store u.store v.store)
    (created : ∀ name, v.created.lookup name =
      ((entry.deed.creation? name).map Except.toOption).or (u.created.lookup name))
    (clock : v.clock = if entry.deed.sendsAttribute then u.clock.advance else u.clock)
    (report : v.report = note entry.operation entry.outcome u.report)
    (announced : v.announced = (announce total entry.operation u).announced) :
    Books store start s total (l ++ [entry]) v where
  justified := h.justified.concat follows
  answers := h.answers.concat call
  created name := by
    rw [created, Ledger.latest?_concat, h.created]
    cases entry.deed.creation? name <;> rfl
  clock := by
    rw [clock, h.clock]
    cases hsent : entry.deed.sendsAttribute <;>
      simp [Ledger.clock, Ledger.attributesSent, Clock.advance, hsent, Nat.add_assoc]
  report := by rw [report, h.report, Ledger.report_concat l follows]
  announced := by rw [announced, h.announced_announce, List.map_append, List.map_singleton]

theorem createCollection (h : Books store start s total l u) (c : Collection) :
    ∃ deed, Books store start s total (l ++ [⟨.createCollection c, deed⟩])
      (Apply.step store total u (.createCollection c)) := by
  cases hcall : store.createCollection c.name u.store with
  | mk answer t =>
      refine ⟨.collectionCreated c.name answer, h.concat (.collection c answer) ?call ?created ?clock ?report ?announced⟩
      case created =>
        intro name
        by_cases hn : c.name = name
        · subst hn
          cases answer <;>
            simp [Apply.step, perform, announce, hcall, Deed.creation?, Except.toOption]
        · have hne : (name == c.name) = false := beq_false_of_ne (Ne.symm hn)
          cases answer <;>
            simp [Apply.step, perform, announce, hcall, Deed.creation?, hn, hne, List.lookup_cons]
      all_goals
        cases answer <;>
          simp [Apply.step, perform, announce, hcall, Deed.Takes, Deed.sendsAttribute,
            LedgerEntry.outcome]

/-- An attribute whose collection has an id is sent. -/
theorem createAttribute_of_ok (h : Books store start s total l u) {ref : CollectionRef}
    {a : Attribute} {id : String} (target : target? u.created ref = .ok id)
    (follows : ∀ answer, Ledger.Follows start l
      ⟨.createAttribute ref a, .attributeCreated id (a.concrete u.clock.now) answer⟩) :
    ∃ deed, Books store start s total (l ++ [⟨.createAttribute ref a, deed⟩])
      (Apply.step store total u (.createAttribute ref a)) := by
  cases hcall : store.createAttribute id (a.concrete u.clock.now) u.store with
  | mk answer t =>
      refine ⟨.attributeCreated id (a.concrete u.clock.now) answer,
        h.concat (follows answer) ?_ ?_ ?_ ?_ ?_⟩
      all_goals
        simp [Apply.step, perform, announce, target, hcall, Deed.Takes, Deed.creation?,
          Deed.sendsAttribute, LedgerEntry.outcome]

/-- An attribute whose collection has none is left out. -/
theorem createAttribute_of_error (h : Books store start s total l u) {ref : CollectionRef}
    {a : Attribute} {reason : ApplySkip} (target : target? u.created ref = .error reason)
    (follows : Ledger.Follows start l ⟨.createAttribute ref a, .leftOut reason⟩) :
    ∃ deed, Books store start s total (l ++ [⟨.createAttribute ref a, deed⟩])
      (Apply.step store total u (.createAttribute ref a)) := by
  refine ⟨.leftOut reason, h.concat follows ?_ ?_ ?_ ?_ ?_⟩
  all_goals
    simp [Apply.step, perform, announce, target, Deed.Takes, Deed.creation?, Deed.sendsAttribute,
      LedgerEntry.outcome]

theorem updateAttribute (h : Books store start s total l u) (id name : String) (a : Attribute)
    (e : RemoteAttribute) :
    ∃ deed, Books store start s total (l ++ [⟨.updateAttribute id name a e, deed⟩])
      (Apply.step store total u (.updateAttribute id name a e)) := by
  have hnow : (l.clock start).now = u.clock.now := congrArg Clock.now h.clock.symm
  cases hcall : store.updateAttribute id (a.mergeInto e u.clock.now) u.store with
  | mk answer t =>
      refine ⟨.attributeUpdated id (a.mergeInto e u.clock.now) answer,
        h.concat (hnow ▸ .update id name a e answer) ?_ ?_ ?_ ?_ ?_⟩
      all_goals
        simp [Apply.step, perform, announce, hcall, Deed.Takes, Deed.creation?,
          Deed.sendsAttribute, LedgerEntry.outcome]

/-- Carrying out one more operation adds one entry. -/
theorem step (h : Books store start s total l u) (op : Operation) :
    ∃ deed, Books store start s total (l ++ [⟨op, deed⟩]) (Apply.step store total u op) := by
  have hnow : (l.clock start).now = u.clock.now := congrArg Clock.now h.clock.symm
  cases op with
  | createCollection c => exact h.createCollection c
  | updateAttribute id name a e => exact h.updateAttribute id name a e
  | createAttribute ref a =>
      cases ref with
      | existing id name =>
          exact h.createAttribute_of_ok rfl fun answer => hnow ▸ .existing id name a answer
      | pending name =>
          have target := h.target?_pending name
          cases hlatest : l.latest? name with
          | none =>
              rw [hlatest] at target
              exact h.createAttribute_of_error target (.unplanned a hlatest)
          | some answer =>
              rw [hlatest] at target
              cases answer with
              | error e => exact h.createAttribute_of_error target (.refused a hlatest)
              | ok id =>
                  exact h.createAttribute_of_ok target fun answer =>
                    hnow ▸ .pending a answer hlatest

/-- The books of a run that has carried out some operations, whatever it is still to carry out. -/
theorem run (store : SchemaStore σ ε) (start : Clock) (s : σ) (total : Nat)
    (operations : List Operation) :
    ∃ l : Ledger ε, l.map (·.operation) = operations ∧
      Books store start s total l
        (operations.foldl (Apply.step store total) { store := s, clock := start }) := by
  induction operations using List.reverseRecOn with
  | nil => exact ⟨[], rfl, .nil store start s total⟩
  | append_singleton operations op ih =>
      obtain ⟨l, rfl, hl⟩ := ih
      obtain ⟨deed, hdeed⟩ := hl.step op
      refine ⟨l ++ [⟨op, deed⟩], by simp, ?_⟩
      rw [List.foldl_append]
      exact hdeed

end Books

/-- The run of a plan that has carried out its first `n` operations. -/
def Apply.upTo (store : SchemaStore σ ε) (operations : List Operation) (clock : Clock) (s : σ)
    (n : Nat) : Apply.State σ ε :=
  (operations.take n).foldl (Apply.step store operations.length) { store := s, clock }

theorem Apply.upTo_length (store : SchemaStore σ ε) (operations : List Operation) (clock : Clock)
    (s : σ) : upTo store operations clock s operations.length = apply store operations clock s := by
  rw [upTo, List.take_length]
  rfl

/-- Before an operation is carried out, it is announced and nothing else changes. -/
theorem Apply.upTo_succ (store : SchemaStore σ ε) {operations : List Operation} (clock : Clock)
    (s : σ) {n : Nat} {op : Operation} (h : operations[n]? = some op) :
    upTo store operations clock s (n + 1) =
      perform store op { upTo store operations clock s n with
        announced := (Ledger.announcements operations.length operations).take (n + 1) } := by
  obtain ⟨l, hl, hbooks⟩ := Books.run store clock s operations.length (operations.take n)
  have hannounced := hbooks.announced_announce op
  have htake : operations.take n ++ [op] = operations.take (n + 1) := by
    rw [List.take_add_one, h, Option.toList_some]
  rw [hl, htake, Ledger.announcements_take] at hannounced
  rw [← hannounced, upTo, ← htake, List.foldl_append]
  rfl

/-- The books of a whole run, with any plan and any store. One entry stands for each operation, in
their order. It follows from the entries before it: an attribute of a collection to be created is
sent if and only if the latest creation of that name came to an id, and with that id; the next
attribute that is sent gets the next reading of the clock. The store has answered the calls of the
books and no others, and the report counts every entry once. Each operation is announced with its
number before it is carried out. -/
theorem apply_keeps_books (store : SchemaStore σ ε) (operations : List Operation) (clock : Clock)
    (s : σ) :
    let run := apply store operations clock s
    let upTo := Apply.upTo store operations clock s
    let announcements := Ledger.announcements operations.length operations
    (∃ l : Ledger ε, l.map (·.operation) = operations ∧ l.Justified clock ∧
      l.Answers store s run.store ∧ run.clock = l.clock clock ∧ run.report = l.report) ∧
    run.report.collectionsCreated + run.report.attributesCreated + run.report.attributesUpdated +
      run.report.failures.length + run.report.skipped.length = operations.length ∧
    run.announced = announcements ∧ upTo operations.length = run ∧
    ∀ n op, operations[n]? = some op → upTo (n + 1) =
      Apply.perform store op { upTo n with announced := announcements.take (n + 1) } := by
  intro run upTo announcements
  obtain ⟨l, hl, hbooks⟩ := Books.run store clock s operations.length operations
  have hlength : l.length = operations.length := by rw [← hl, List.length_map]
  refine ⟨⟨l, hl, hbooks.justified, hbooks.answers, hbooks.clock, hbooks.report⟩, ?_, ?_, ?_, ?_⟩
  · have hreport : run.report = l.report := hbooks.report
    rw [hreport, l.tally_add, hlength]
  · have hannounced := hbooks.announced
    rwa [hl] at hannounced
  · exact Apply.upTo_length store operations clock s
  · exact fun n op h => Apply.upTo_succ store clock s h

end DeclaredSchema
