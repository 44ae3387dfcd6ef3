import DeclaredSchema.Declaration.Build
import DeclaredSchema.Proofs.Plan.Collapse
import DeclaredSchema.Proofs.Plan.Planned
import DeclaredSchema.Proofs.Store.Ledger
import DeclaredSchema.Proofs.Store.SameButDefaults

/-! # What the clock reaches

Two runs of one plan on one store that differ only in the clock. Entry by entry their books agree
but for the defaults that a declaration leaves to the instant of sending, and the stores they end in
agree but for those that such an entry was the last to write.
-/

namespace DeclaredSchema

/-! ## Defaults that the clock fills in -/

/-- The declared default stands for the instant at which the attribute is sent. -/
def Attribute.defaultsToNow (a : Attribute) : Bool :=
  match a.default with
  | some .now => true
  | some (.literal _) | none => false

namespace Operation

/-- The attributes that an operation holds as they are declared. -/
def declared : Operation → List Attribute
  | createCollection c => c.attributes
  | createAttribute _ a | updateAttribute _ _ a _ => [a]

/-- The operation sends an attribute whose default stands for the instant of sending. -/
def sendsNow : Operation → Bool
  | createCollection _ => false
  | createAttribute _ a | updateAttribute _ _ a _ => a.defaultsToNow

end Operation

namespace Attribute

theorem sameBut_concrete (a : Attribute) (now now' : Instant) :
    (a.concrete now).SameBut a.defaultsToNow (a.concrete now') where
  rest := rfl
  default h := by
    rcases hd : a.default with _ | _ | _
    · simp [concrete, hd]
    · simp [concrete, hd, DefaultValue.resolve]
    · simp [defaultsToNow, hd] at h

theorem sameBut_mergeInto (a : Attribute) (e : RemoteAttribute) (now now' : Instant) :
    (a.mergeInto e now).SameBut a.defaultsToNow (a.mergeInto e now') where
  rest := rfl
  default h := by
    rcases hd : a.default with _ | _ | _
    · simp [mergeInto, hd]
    · simp [mergeInto, hd, DefaultValue.resolve]
    · simp [defaultsToNow, hd] at h

end Attribute

/-! ## Deeds that differ in some defaults -/

namespace Deed

variable {ε : Type}

/-- The same call with the same answer, except for the default sent if that may differ. -/
inductive SameBut (mayDiffer : Bool) : Deed ε → Deed ε → Prop
  | collectionCreated (name : String) (answer : Except ε String) :
      SameBut mayDiffer (.collectionCreated name answer) (.collectionCreated name answer)
  | attributeCreated (id : String) {a b : ConcreteAttribute} (answer : Except ε Unit)
      (sent : a.SameBut mayDiffer b) :
      SameBut mayDiffer (.attributeCreated id a answer) (.attributeCreated id b answer)
  | attributeUpdated (id : String) {a b : ConcreteAttribute} (answer : Except ε Unit)
      (sent : a.SameBut mayDiffer b) :
      SameBut mayDiffer (.attributeUpdated id a answer) (.attributeUpdated id b answer)
  | leftOut (reason : ApplySkip) : SameBut mayDiffer (.leftOut reason) (.leftOut reason)

/-- The call as a store notes it. -/
def call? : Deed ε → Option StoreCall
  | collectionCreated name _ => some (.createCollection name)
  | attributeCreated id sent _ => some (.createAttribute id sent)
  | attributeUpdated id sent _ => some (.updateAttribute id sent)
  | leftOut _ => none

/-- The collection id and the key of an attribute that was written. -/
def written? : Deed ε → Option (String × String)
  | attributeCreated id sent (.ok ()) | attributeUpdated id sent (.ok ()) => some (id, sent.key)
  | _ => none

end Deed

/-- The same operation and the same deed, except for a default that the operation leaves to the
instant of sending. -/
def LedgerEntry.SameBut {ε : Type} (e f : LedgerEntry ε) : Prop :=
  e.operation = f.operation ∧ e.deed.SameBut e.operation.sendsNow f.deed

namespace Ledger

variable {ε : Type}

/-- The calls that were made. -/
def calls (l : Ledger ε) : List StoreCall := l.filterMap (·.deed.call?)

/-- The entry of the latest call that wrote the attribute of a key in the collection of an id. -/
def lastWrite? (l : Ledger ε) (id key : String) : Option (LedgerEntry ε) :=
  l.reverse.find? (·.deed.written? == some (id, key))

/-- The latest call that wrote an attribute left its default to the instant of sending. -/
def leftNow (l : Ledger ε) (id key : String) : Bool :=
  (l.lastWrite? id key).any (·.operation.sendsNow)

theorem leftNow_concat (l : Ledger ε) (entry : LedgerEntry ε) :
    leftNow (l ++ [entry]) = match entry.deed.written? with
      | some (id, key) => settle l.leftNow id key entry.operation.sendsNow
      | none => l.leftNow := by
  have hlast (id key : String) : leftNow (l ++ [entry]) id key =
      if entry.deed.written? = some (id, key) then entry.operation.sendsNow
      else l.leftNow id key := by
    rw [leftNow, lastWrite?, List.reverse_append, List.reverse_singleton, List.singleton_append,
      List.find?_cons]
    by_cases h : entry.deed.written? = some (id, key)
    · simp [h]
    · rw [beq_false_of_ne h, if_neg h]
      rfl
  funext id key
  rw [hlast]
  rcases hw : entry.deed.written? with _ | ⟨i, k⟩
  · rw [if_neg (by simp)]
  · by_cases hi : id = i
    · subst hi
      by_cases hk : key = k
      · simp [settle, hk]
      · simp [settle, hk, Ne.symm hk]
    · simp [settle, hi, Ne.symm hi]

/-- Books of two runs that agree entry by entry. -/
abbrev SameBut (l l' : Ledger ε) : Prop := List.Forall₂ LedgerEntry.SameBut l l'

end Ledger

namespace LedgerEntry.SameBut

variable {ε : Type} {e f : LedgerEntry ε}

theorem creation?_eq (h : e.SameBut f) (name : String) :
    e.deed.creation? name = f.deed.creation? name := by
  obtain ⟨op, deed⟩ := e
  obtain ⟨op', deed'⟩ := f
  obtain ⟨-, hdeed⟩ := h
  cases hdeed <;> rfl

theorem verdict_eq (h : e.SameBut f) : e.verdict = f.verdict := by
  obtain ⟨op, deed⟩ := e
  obtain ⟨op', deed'⟩ := f
  obtain ⟨-, hdeed⟩ := h
  cases hdeed with
  | collectionCreated | leftOut => rfl
  | attributeCreated _ answer | attributeUpdated _ answer => cases answer <;> rfl

theorem failure?_eq (h : e.SameBut f) : e.failure? = f.failure? := by
  obtain ⟨op, deed⟩ := e
  obtain ⟨op', deed'⟩ := f
  obtain ⟨hop, hdeed⟩ := h
  obtain rfl : op = op' := hop
  cases hdeed with
  | collectionCreated | leftOut => rfl
  | attributeCreated _ answer | attributeUpdated _ answer => cases answer <;> rfl

end LedgerEntry.SameBut

namespace Ledger.SameBut

variable {ε : Type} {l l' : Ledger ε}

theorem map_eq {α : Type} {f : LedgerEntry ε → α}
    (hf : ∀ {e e' : LedgerEntry ε}, e.SameBut e' → f e = f e') (h : SameBut l l') :
    l.map f = l'.map f := by
  induction h with
  | nil => rfl
  | cons head _ ih => rw [List.map_cons, List.map_cons, hf head, ih]

theorem latest?_eq (h : SameBut l l') (name : String) : l.latest? name = l'.latest? name := by
  have hread (k : Ledger ε) : k.latest? name =
      (k.map (·.deed.creation? name)).reverse.findSome? id := by
    rw [latest?, ← List.map_reverse, List.findSome?_map]
    rfl
  rw [hread, hread, h.map_eq fun head => head.creation?_eq name]

end Ledger.SameBut

/-! ## Both runs, call by call -/

namespace MemoryStore.SameBut

variable (op : Operation) {s s' t t' : MemoryStore} {a b : ConcreteAttribute}
  {before : Ledger Fault}

theorem of_collectionCreated (h : SameBut before.leftNow s s') {name : String}
    {answer answer' : Except Fault String}
    (call : (Deed.collectionCreated name answer).Takes store s t)
    (call' : (Deed.collectionCreated name answer').Takes store s' t') :
    answer = answer' ∧
      SameBut (Ledger.leftNow (before ++ [⟨op, .collectionCreated name answer⟩])) t t' := by
  have hboth := h.createCollection name
  simp only [Deed.Takes, store] at call call'
  rw [call, call'] at hboth
  rwa [Ledger.leftNow_concat]

/-- What was answered alike leaves stores that differ in one more default or in one fewer. -/
theorem of_sent {id : String} {answer answer' : Except Fault Unit} {deed : Deed Fault}
    (written : deed.written? = if answer = .ok () then some (id, a.key) else none)
    (h : answer = answer' ∧ SameBut (if answer = .ok ()
      then settle before.leftNow id a.key op.sendsNow else before.leftNow) t t') :
    answer = answer' ∧ SameBut (Ledger.leftNow (before ++ [⟨op, deed⟩])) t t' := by
  refine ⟨h.1, ?_⟩
  rw [Ledger.leftNow_concat, written]
  by_cases hok : answer = .ok ()
  · simpa only [if_pos hok] using h.2
  · simpa only [if_neg hok] using h.2

theorem of_attributeCreated (h : SameBut before.leftNow s s') (sent : a.SameBut op.sendsNow b)
    {id : String} {answer answer' : Except Fault Unit}
    (call : (Deed.attributeCreated id a answer).Takes store s t)
    (call' : (Deed.attributeCreated id b answer').Takes store s' t') :
    answer = answer' ∧
      SameBut (Ledger.leftNow (before ++ [⟨op, .attributeCreated id a answer⟩])) t t' := by
  have hboth := h.createAttribute id sent
  simp only [Deed.Takes, store] at call call'
  rw [call, call'] at hboth
  exact of_sent op (by rcases answer with _ | _ <;> rfl) hboth

theorem of_attributeUpdated (h : SameBut before.leftNow s s') (sent : a.SameBut op.sendsNow b)
    {id : String} {answer answer' : Except Fault Unit}
    (call : (Deed.attributeUpdated id a answer).Takes store s t)
    (call' : (Deed.attributeUpdated id b answer').Takes store s' t') :
    answer = answer' ∧
      SameBut (Ledger.leftNow (before ++ [⟨op, .attributeUpdated id a answer⟩])) t t' := by
  have hboth := h.updateAttribute id sent
  simp only [Deed.Takes, store] at call call'
  rw [call, call'] at hboth
  exact of_sent op (by rcases answer with _ | _ <;> rfl) hboth

variable {op}

/-- One operation after books that agree: the deeds agree, and so do the stores. -/
theorem step (h : SameBut before.leftNow s s') {before' : Ledger Fault} {start start' : Clock}
    {deed deed' : Deed Fault} (books : Ledger.SameBut before before')
    (follows : Ledger.Follows start before ⟨op, deed⟩)
    (follows' : Ledger.Follows start' before' ⟨op, deed'⟩)
    (call : deed.Takes store s t) (call' : deed'.Takes store s' t') :
    deed.SameBut op.sendsNow deed' ∧ SameBut (Ledger.leftNow (before ++ [⟨op, deed⟩])) t t' := by
  cases follows with
  | collection c answer =>
      cases follows' with
      | collection =>
          obtain ⟨rfl, ht⟩ := h.of_collectionCreated _ call call'
          exact ⟨.collectionCreated c.name answer, ht⟩
  | existing id name a answer =>
      cases follows' with
      | existing =>
          have sent := a.sameBut_concrete (before.clock start).now (before'.clock start').now
          obtain ⟨rfl, ht⟩ := h.of_attributeCreated (.createAttribute _ a) sent call call'
          exact ⟨.attributeCreated id answer sent, ht⟩
  | update id name a e answer =>
      cases follows' with
      | update =>
          have sent := a.sameBut_mergeInto e (before.clock start).now (before'.clock start').now
          obtain ⟨rfl, ht⟩ := h.of_attributeUpdated (.updateAttribute id name a e) sent call call'
          exact ⟨.attributeUpdated id answer sent, ht⟩
  | @pending name id a answer created =>
      rw [books.latest?_eq] at created
      cases follows' with
      | pending _ _ created' =>
          obtain rfl : id = _ := Except.ok.inj (Option.some.inj (created.symm.trans created'))
          have sent := a.sameBut_concrete (before.clock start).now (before'.clock start').now
          obtain ⟨rfl, ht⟩ := h.of_attributeCreated (.createAttribute _ a) sent call call'
          exact ⟨.attributeCreated id answer sent, ht⟩
      | refused _ refused' => simp [refused'] at created
      | unplanned _ unplanned' => simp [unplanned'] at created
  | refused a refused =>
      rw [books.latest?_eq] at refused
      obtain rfl : t = s := call
      cases follows' with
      | pending _ _ created' => simp [created'] at refused
      | refused =>
          obtain rfl : t' = s' := call'
          exact ⟨.leftOut _, by rwa [Ledger.leftNow_concat]⟩
      | unplanned _ unplanned' => simp [unplanned'] at refused
  | unplanned a unplanned =>
      rw [books.latest?_eq] at unplanned
      obtain rfl : t = s := call
      cases follows' with
      | pending _ _ created' => simp [created'] at unplanned
      | refused _ refused' => simp [refused'] at unplanned
      | unplanned =>
          obtain rfl : t' = s' := call'
          exact ⟨.leftOut _, by rwa [Ledger.leftNow_concat]⟩

/-- Two runs of the same operations, from books that agree on. -/
theorem run {after after' before' : Ledger Fault} {start start' : Clock} {u u' : MemoryStore}
    (h : SameBut before.leftNow s s') (books : Ledger.SameBut before before')
    (operations : after.map (·.operation) = after'.map (·.operation))
    (justified : (before ++ after).Justified start)
    (justified' : (before' ++ after').Justified start')
    (answers : after.Answers store s u) (answers' : after'.Answers store s' u') :
    Ledger.SameBut (before ++ after) (before' ++ after') ∧
      SameBut (Ledger.leftNow (before ++ after)) u u' := by
  induction after generalizing before before' after' s s' with
  | nil =>
      obtain rfl : after' = [] := List.map_eq_nil_iff.mp operations.symm
      cases answers
      cases answers'
      simpa using ⟨books, h⟩
  | cons entry rest ih =>
      cases after' with
      | nil => simp at operations
      | cons entry' rest' =>
          obtain ⟨op, deed⟩ := entry
          obtain ⟨op', deed'⟩ := entry'
          rw [List.map_cons, List.map_cons, List.cons.injEq] at operations
          obtain ⟨hop, operations⟩ := operations
          obtain rfl : op = op' := hop
          cases answers with
          | cons call more =>
              cases answers' with
              | cons call' more' =>
                  obtain ⟨hdeed, ht⟩ := h.step books (justified before _ rest rfl)
                    (justified' before' _ rest' rfl) call call'
                  have hbooks :
                      Ledger.SameBut (before ++ [⟨op, deed⟩]) (before' ++ [⟨op, deed'⟩]) :=
                    List.rel_append books (.cons ⟨rfl, hdeed⟩ .nil)
                  rw [List.append_cons] at justified justified' ⊢
                  rw [List.append_cons before']
                  exact ih ht hbooks operations justified justified' more more'

end MemoryStore.SameBut

/-! ## The calls in the log -/

namespace MemoryStore

end MemoryStore

/-! ## Plans hold what is declared -/

end DeclaredSchema
