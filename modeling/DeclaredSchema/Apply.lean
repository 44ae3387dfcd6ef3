import DeclaredSchema.Plan.Merge
import DeclaredSchema.Plan
import DeclaredSchema.Progress
import DeclaredSchema.Store

/-!
# Carrying out a plan

The operations are sent to a store in the order of the plan. A failed call is noted and the rest
goes on; nothing is rolled back. Attributes of a collection that could not be created are left out.
The clock is read once for each attribute that is sent.
-/

namespace DeclaredSchema

/-- A clock is what its readings answer, one after the other, and how often it has been read. -/
structure Clock where
  reading : Nat → Instant
  count : Nat := 0

namespace Clock

/-- The instant of the next reading. -/
def now (c : Clock) : Instant := c.reading c.count

def advance (c : Clock) : Clock := { c with count := c.count + 1 }

/-- A clock that answers `start` first and `tick` milliseconds more on every further reading. -/
def ticking (start : Instant) (tick : Int) : Clock where
  reading n := start.addMillis (tick * n)

end Clock

/-- Why an operation was not attempted. -/
inductive ApplySkip where
  | collectionNotCreated
  | collectionNotPlanned
  deriving DecidableEq, Repr

def ApplySkip.reason : ApplySkip → String
  | .collectionNotCreated => "collection was not created"
  | .collectionNotPlanned => "collection is not part of this plan"

structure ApplyReport (ε : Type) where
  collectionsCreated : Nat := 0
  attributesCreated : Nat := 0
  attributesUpdated : Nat := 0
  failures : List (Operation × ε) := []
  skipped : List (Operation × ApplySkip) := []

namespace ApplyReport

def isClean {ε : Type} (r : ApplyReport ε) : Bool := r.failures.isEmpty

def skippedText (s : Operation × ApplySkip) : String := s.1.text ++ ": " ++ s.2.reason

def failureText {ε : Type} (message : ε → String) (f : Operation × ε) : String :=
  f.1.text ++ " failed: " ++ message f.2

end ApplyReport

namespace Apply

/-- The state of a run. -/
structure State (σ ε : Type) where
  store : σ
  clock : Clock
  /-- The operations that were announced. -/
  announced : List ProgressEvent := []
  /-- The ids of the collections created so far, latest first; nothing for one whose creation
  failed. -/
  created : List (String × Option String) := []
  report : ApplyReport ε := {}

/-- What one operation came to. -/
inductive Outcome (ε : Type) where
  | done
  | failed (error : ε)
  | skipped (reason : ApplySkip)

/-- The id of the collection that an attribute goes into. -/
def target? (created : List (String × Option String)) : CollectionRef → Except ApplySkip String
  | .existing id _ => .ok id
  | .pending name => match created.lookup name with
    | some (some id) => .ok id
    | some none => .error .collectionNotCreated
    | none => .error .collectionNotPlanned

def outcome {ε : Type} : Except ε Unit → Outcome ε
  | .ok () => .done
  | .error e => .failed e

/-- Notes what an operation came to. -/
def note {ε : Type} (op : Operation) (o : Outcome ε) (r : ApplyReport ε) : ApplyReport ε :=
  match o with
  | .failed e => { r with failures := r.failures ++ [(op, e)] }
  | .skipped reason => { r with skipped := r.skipped ++ [(op, reason)] }
  | .done => match op with
    | .createCollection _ => { r with collectionsCreated := r.collectionsCreated + 1 }
    | .createAttribute _ _ => { r with attributesCreated := r.attributesCreated + 1 }
    | .updateAttribute _ _ _ _ => { r with attributesUpdated := r.attributesUpdated + 1 }

/-- Announces the next of `total` operations. -/
def announce {σ ε : Type} (total : Nat) (op : Operation) (s : State σ ε) : State σ ε :=
  { s with announced := s.announced ++ [.applying op.text (s.announced.length + 1) total] }

/-- Carries out one operation. -/
def perform {σ ε : Type} (store : SchemaStore σ ε) (op : Operation) (s : State σ ε) : State σ ε :=
  match op with
  | .createCollection c =>
    match store.createCollection c.name s.store with
    | (.ok id, t) =>
      { s with
        store := t
        created := (c.name, some id) :: s.created
        report := note op .done s.report }
    | (.error e, t) =>
      { s with
        store := t
        created := (c.name, none) :: s.created
        report := note op (.failed e) s.report }
  | .createAttribute ref a =>
    match target? s.created ref with
    | .error reason => { s with report := note op (.skipped reason) s.report }
    | .ok id =>
      let (result, t) := store.createAttribute id (a.concrete s.clock.now) s.store
      { s with
        store := t
        clock := s.clock.advance
        report := note op (outcome result) s.report }
  | .updateAttribute id _ a existing =>
    let (result, t) := store.updateAttribute id (a.mergeInto existing s.clock.now) s.store
    { s with
      store := t
      clock := s.clock.advance
      report := note op (outcome result) s.report }

/-- Announces one of `total` operations and then carries it out. -/
def step {σ ε : Type} (store : SchemaStore σ ε) (total : Nat) (s : State σ ε) (op : Operation) :
    State σ ε :=
  perform store op (announce total op s)

end Apply

/-- Carries out a plan. -/
def apply {σ ε : Type} (store : SchemaStore σ ε) (operations : List Operation) (clock : Clock)
    (s : σ) : Apply.State σ ε :=
  operations.foldl (Apply.step store operations.length) { store := s, clock }

end DeclaredSchema
