import DeclaredSchema.Proofs.Source.ExprTree

/-! # What stands ahead of a cursor

The grammar looks at what kind the tokens are and never at their lines, other than to report an
error. A reading is therefore described by the kinds of tokens that are left, and readings are put
together like that. A repetition over parts is described once for parts behind separators and once
for parts between commas.
-/

namespace DeclaredSchema.Source

open Cursor

/-- The tokens without the lines they stand on. -/
abbrev kindsOf (ts : List Token) : List Token.Kind := ts.map (·.kind)

theorem kindsOf_append (ts us : List Token) : kindsOf (ts ++ us) = kindsOf ts ++ kindsOf us :=
  List.map_append

theorem exists_of_kindsOf_cons {ts : List Token} {k : Token.Kind} {ks : List Token.Kind}
    (h : kindsOf ts = k :: ks) : ∃ n us, ts = ⟨k, n⟩ :: us ∧ kindsOf us = ks := by
  obtain ⟨⟨k', n⟩, us, rfl, rfl, hus⟩ := List.map_eq_cons_iff.mp h
  exact ⟨n, us, rfl, hus⟩

def Token.Kind.name? : Token.Kind → Option String
  | .name n => some n
  | _ => none

namespace Cursor

/-- The tokens ahead, without their lines. -/
def kinds (c : Cursor) : List Token.Kind := c.rest.map (·.kind)

variable {c : Cursor} {k : Token.Kind} {ks : List Token.Kind}

theorem length_rest (c : Cursor) : c.rest.length = c.kinds.length := by
  rw [kinds, List.length_map]

theorem kinds_advance (h : c.kinds = k :: ks) : c.advance.kinds = ks := by
  obtain ⟨line, rest⟩ := c
  cases rest with
  | nil => cases h
  | cons t ts => exact (List.cons.inj h).2

theorem atSymbol_eq (s : Symbol) (c : Cursor) :
    c.atSymbol s = decide (c.kinds.head? = some (.symbol s)) := by
  obtain ⟨line, rest⟩ := c
  cases rest <;> simp [atSymbol, kinds, Token.isSymbol]

theorem atName_eq (word : String) (c : Cursor) :
    c.atName word = decide (c.kinds.head? = some (.name word)) := by
  obtain ⟨line, rest⟩ := c
  cases rest <;> simp [atName, kinds, Token.isName]

theorem second?_isSymbol (s : Symbol) (c : Cursor) :
    c.second?.any (·.isSymbol s) = decide (c.kinds.tail.head? = some (.symbol s)) := by
  obtain ⟨line, rest⟩ := c
  rcases rest with - | ⟨t, - | ⟨u, rest⟩⟩ <;> simp [second?, kinds, Token.isSymbol]

theorem second?_isName (word : String) (c : Cursor) :
    c.second?.any (·.isName word) = decide (c.kinds.tail.head? = some (.name word)) := by
  obtain ⟨line, rest⟩ := c
  rcases rest with - | ⟨t, - | ⟨u, rest⟩⟩ <;> simp [second?, kinds, Token.isName]

theorem eat?_of_atSymbol {c : Cursor} {s : Symbol} (h : c.atSymbol s = false) :
    c.eat? s = none := by
  rw [eat?, h]
  rfl

theorem eatAny?_of_atSymbol {c : Cursor} {symbols : List Symbol}
    (h : ∀ s ∈ symbols, c.atSymbol s = false) : c.eatAny? symbols = none := by
  rw [eatAny?, if_neg]
  rw [Bool.not_eq_true, List.any_eq_false]
  intro s hs
  rw [h s hs]
  exact Bool.false_ne_true

theorem eatName?_of_atName {c : Cursor} {word : String} (h : c.atName word = false) :
    c.eatName? word = none := by
  rw [eatName?, h]
  rfl

theorem eat?_of_kinds {s : Symbol} (h : c.kinds = .symbol s :: ks) : c.eat? s = some c.advance := by
  rw [eat?, if_pos]
  simp [atSymbol_eq, h]

theorem eat?_of_head {s : Symbol} (h : c.kinds.head? ≠ some (.symbol s)) : c.eat? s = none := by
  apply eat?_of_atSymbol
  simp [atSymbol_eq, h]

theorem eatName?_of_kinds {word : String} (h : c.kinds = .name word :: ks) :
    c.eatName? word = some c.advance := by
  rw [eatName?, if_pos]
  simp [atName_eq, h]

theorem eatName?_of_head {word : String} (h : c.kinds.head? ≠ some (.name word)) :
    c.eatName? word = none := by
  apply eatName?_of_atName
  simp [atName_eq, h]

theorem eatAny?_of_kinds {s : Symbol} {symbols : List Symbol} (h : c.kinds = .symbol s :: ks)
    (hs : s ∈ symbols) : c.eatAny? symbols = some c.advance := by
  rw [eatAny?, if_pos]
  exact List.any_eq_true.mpr ⟨s, hs, by simp [atSymbol_eq, h]⟩

theorem eatAny?_of_head {symbols : List Symbol}
    (h : ∀ s ∈ symbols, c.kinds.head? ≠ some (.symbol s)) : c.eatAny? symbols = none := by
  apply eatAny?_of_atSymbol
  intro s hs
  simp [atSymbol_eq, h s hs]

theorem expect_of_kinds {s : Symbol} (h : c.kinds = .symbol s :: ks) :
    c.expect s = .ok c.advance := by
  rw [expect, eat?_of_kinds h]

theorem expectName_of_kinds {word : String} (h : c.kinds = .name word :: ks) :
    c.expectName word = .ok c.advance := by
  rw [expectName, eatName?_of_kinds h]

theorem name?_eq (c : Cursor) : c.name? = c.kinds.head?.bind Token.Kind.name? := by
  obtain ⟨line, rest⟩ := c
  cases rest with
  | nil => rfl
  | cons t ts =>
      obtain ⟨k, line⟩ := t
      cases k <;> rfl

theorem identifier_of_kinds {n : String} (free : isKeyword n = false)
    (h : c.kinds = .name n :: ks) : c.identifier = .ok c.advance := by
  rw [identifier, atIdentifier, name?_eq, h]
  simp [Token.Kind.name?, free]

/-- Kinds that an expression or a starred item begins with. -/
def starts : Token.Kind → Bool
  | .name n => !isKeyword n || expressionKeywords.contains n
  | .number _ => true
  | .str _ _ => true
  | .symbol s => expressionSymbols.contains s
  | _ => false

theorem startsExpression_eq (c : Cursor) : c.startsExpression = c.kinds.head?.any starts := by
  obtain ⟨line, rest⟩ := c
  cases rest with
  | nil => rfl
  | cons t ts =>
      obtain ⟨k, line⟩ := t
      cases k <;> rfl

end Cursor

/-! ## Readings -/

theorem Rule.ok_bind {ε α β : Type} (a : α) (g : α → Except ε β) : (Except.ok a >>= g) = g a := rfl

/-- A reading ends with a value, and the kinds that are left. -/
def Yields {α : Type} (r : Except SyntaxError (α × Cursor)) (a : α) (rest : List Token.Kind) :
    Prop :=
  ∃ d, r = .ok (a, d) ∧ d.kinds = rest

/-- A step over tokens without a value. -/
def Arrives (r : Except SyntaxError Cursor) (rest : List Token.Kind) : Prop :=
  ∃ d, r = .ok d ∧ d.kinds = rest

section Readings

variable {α β : Type} {a : α} {b : β} {ks rest : List Token.Kind} {c : Cursor}

theorem Yields.ok (h : c.kinds = rest) : Yields (.ok (a, c)) a rest := ⟨c, rfl, h⟩

theorem Yields.bind {r : Except SyntaxError (α × Cursor)}
    {g : α × Cursor → Except SyntaxError (β × Cursor)} (h : Yields r a ks)
    (hg : ∀ d, d.kinds = ks → Yields (g (a, d)) b rest) : Yields (r >>= g) b rest := by
  obtain ⟨d, rfl, hd⟩ := h
  exact hg d hd

theorem Arrives.ok (h : c.kinds = rest) : Arrives (.ok c) rest := ⟨c, rfl, h⟩

theorem Arrives.bind {r : Except SyntaxError Cursor}
    {g : Cursor → Except SyntaxError (β × Cursor)} (h : Arrives r ks)
    (hg : ∀ d, d.kinds = ks → Yields (g d) b rest) : Yields (r >>= g) b rest := by
  obtain ⟨d, rfl, hd⟩ := h
  exact hg d hd

theorem Yields.bind_arrives {r : Except SyntaxError (α × Cursor)}
    {g : α × Cursor → Except SyntaxError Cursor} (h : Yields r a ks)
    (hg : ∀ d, d.kinds = ks → Arrives (g (a, d)) rest) : Arrives (r >>= g) rest := by
  obtain ⟨d, rfl, hd⟩ := h
  exact hg d hd

theorem arrives_expect {s : Symbol} (h : c.kinds = .symbol s :: rest) :
    Arrives (c.expect s) rest :=
  ⟨c.advance, expect_of_kinds h, kinds_advance h⟩

theorem arrives_expectName {word : String} (h : c.kinds = .name word :: rest) :
    Arrives (c.expectName word) rest :=
  ⟨c.advance, expectName_of_kinds h, kinds_advance h⟩

theorem arrives_identifier {n : String} (free : isKeyword n = false)
    (h : c.kinds = .name n :: rest) : Arrives c.identifier rest :=
  ⟨c.advance, identifier_of_kinds free h, kinds_advance h⟩

end Readings

/-! ## Repetitions -/

/-- A repetition whose first round stops. -/
theorem Cursor.rounds_stop {α : Type} {round : α → Cursor → Except SyntaxError (Round α)} {v w : α}
    {c d : Cursor} (h : round v c = .ok (.stop w d)) : rounds round v c = .ok (w, d) := by
  rw [rounds, roundsFuel, h]

section Repetitions

variable {α β : Type} {chunk : β → List Token.Kind}

theorem length_le_flatMap {xs : List β} (h : ∀ x ∈ xs, chunk x ≠ []) :
    xs.length ≤ (xs.flatMap chunk).length := by
  induction xs with
  | nil => exact Nat.le_refl _
  | cons x xs ih =>
      obtain ⟨hx, hxs⟩ := List.forall_mem_cons.mp h
      have hlength := List.length_pos_iff.mpr hx
      have ih := ih hxs
      rw [List.flatMap_cons, List.length_append, List.length_cons]
      omega

theorem length_le_flatMap_of_mem (chunk : β → List Token.Kind) {x : β} {xs : List β}
    (h : x ∈ xs) : (chunk x).length ≤ (xs.flatMap chunk).length := by
  rw [List.flatMap_def]
  exact (List.sublist_flatten_of_mem (List.mem_map_of_mem h)).length_le

/-- Repetition over parts, one round for each part and one that stops. What follows a part is the
next part or what follows them all. -/
theorem rounds_flatMap {round : α → Cursor → Except SyntaxError (Round α)} {value : α → β → α}
    (follows : List Token.Kind → Prop) {xs : List β} {rest rest' : List Token.Kind}
    (nonempty : ∀ x ∈ xs, chunk x ≠ [])
    (stop : ∀ v c, c.kinds = rest → ∃ d, round v c = .ok (.stop v d) ∧ d.kinds = rest')
    (follows_rest : follows rest) (follows_chunk : ∀ x ∈ xs, ∀ ks, follows (chunk x ++ ks))
    (again : ∀ x ∈ xs, ∀ v c ks, follows ks → c.kinds = chunk x ++ ks →
      ∃ d, round v c = .ok (.again (value v x) d) ∧ d.kinds = ks)
    {v : α} {c : Cursor} (h : c.kinds = xs.flatMap chunk ++ rest) :
    Yields (rounds round v c) (xs.foldl value v) rest' := by
  -- The induction needs any number of rounds; the number of tokens is one that is large enough.
  have hfuel : ∀ n v c, xs.length < n → c.kinds = xs.flatMap chunk ++ rest →
      Yields (roundsFuel round n v c) (xs.foldl value v) rest' := by
    clear h nonempty
    induction xs with
    | nil =>
        intro n v c hn hc
        obtain ⟨m, rfl⟩ : ∃ m, n = m + 1 := ⟨n - 1, by omega⟩
        obtain ⟨d, hround, hd⟩ := stop v c hc
        exact ⟨d, by rw [roundsFuel, hround]; rfl, hd⟩
    | cons x xs ih =>
        intro n v c hn hc
        obtain ⟨m, rfl⟩ : ∃ m, n = m + 1 := ⟨n - 1, by omega⟩
        obtain ⟨-, hchunks⟩ := List.forall_mem_cons.mp follows_chunk
        obtain ⟨hfirst, hagain⟩ := List.forall_mem_cons.mp again
        rw [List.flatMap_cons, List.append_assoc] at hc
        have hfollows : follows (xs.flatMap chunk ++ rest) := by
          cases xs with
          | nil => exact follows_rest
          | cons y ys =>
              rw [List.flatMap_cons, List.append_assoc]
              exact hchunks y List.mem_cons_self _
        obtain ⟨d, hround, hd⟩ := hfirst v c _ hfollows hc
        have hmore := ih hchunks hagain m (value v x) d (by simpa using hn) hd
        rw [roundsFuel, hround]
        exact hmore
  refine hfuel _ v c ?_ h
  have hlength := length_le_flatMap nonempty
  rw [length_rest, h, List.length_append]
  omega

/-- Repetition over parts between commas. A round takes the comma behind its part. -/
theorem rounds_commaJoined {round : Unit → Cursor → Except SyntaxError (Round Unit)}
    {x : β} {xs : List β} {rest : List Token.Kind}
    (again : ∀ y ∈ x :: xs, ∀ z ∈ x :: xs, ∀ c ks,
      c.kinds = chunk y ++ .symbol .comma :: (chunk z ++ ks) →
        ∃ d, round () c = .ok (.again () d) ∧ d.kinds = chunk z ++ ks)
    (stop : ∀ y ∈ x :: xs, ∀ c, c.kinds = chunk y ++ rest →
      ∃ d, round () c = .ok (.stop () d) ∧ d.kinds = rest)
    {c : Cursor} (h : c.kinds = Printed.commaJoined ((x :: xs).map chunk) ++ rest) :
    Yields (rounds round () c) () rest := by
  have hfuel : ∀ n c, xs.length < n →
      c.kinds = Printed.commaJoined ((x :: xs).map chunk) ++ rest →
        Yields (roundsFuel round n () c) () rest := by
    clear h
    induction xs generalizing x with
    | nil =>
        intro n c hn hc
        obtain ⟨m, rfl⟩ : ∃ m, n = m + 1 := ⟨n - 1, by omega⟩
        rw [List.map_cons, List.map_nil, Printed.commaJoined_singleton] at hc
        obtain ⟨d, hround, hd⟩ := stop x List.mem_cons_self c hc
        exact ⟨d, by rw [roundsFuel, hround], hd⟩
    | cons y ys ih =>
        intro n c hn hc
        obtain ⟨m, rfl⟩ : ∃ m, n = m + 1 := ⟨n - 1, by omega⟩
        rw [List.map_cons, List.map_cons, Printed.commaJoined_cons_cons, ← List.map_cons,
          List.append_assoc, List.cons_append, List.map_cons, Printed.commaJoined_cons,
          List.append_assoc] at hc
        obtain ⟨d, hround, hd⟩ :=
          again x List.mem_cons_self y (List.mem_cons_of_mem _ List.mem_cons_self) c _ hc
        rw [← List.append_assoc, ← Printed.commaJoined_cons, ← List.map_cons] at hd
        have hmore := ih
          (fun y' hy' z hz => again y' (List.mem_cons_of_mem _ hy') z (List.mem_cons_of_mem _ hz))
          (fun y' hy' => stop y' (List.mem_cons_of_mem _ hy')) m d (by simpa using hn) hd
        rw [roundsFuel, hround]
        exact hmore
  refine hfuel _ c ?_ h
  have hlength := Printed.length_le_commaJoined ((x :: xs).map chunk)
  rw [List.length_map, List.length_cons] at hlength
  rw [length_rest, h, List.length_append]
  omega

end Repetitions

end DeclaredSchema.Source
