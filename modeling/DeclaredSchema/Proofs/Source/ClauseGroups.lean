import DeclaredSchema.Source.Statement

/-! # Complete statements as sequences of clauses

The check of a block remembers the clause of the last line only. What it accepts is given here
without that memory, as a sequence of complete statements, each of them the clauses it is written
with. `Rest` is what may still come of a statement whose last clause is known; it stands between the
two.
-/

namespace DeclaredSchema.Source

open ClauseOrder (mayFollow)

/-- The clause that each line of a block begins with. -/
abbrev Clauses := List (Option Clause)

/-! ## Complete statements -/

/-- What may come behind the branches of a condition or a loop. In the loose form a cleanup may
stand behind the `else`, as it does behind the one of a `try`. -/
inductive Otherwise : Bool → Clauses → Prop where
  | nothing {loose : Bool} : Otherwise loose []
  | orElse {loose : Bool} : Otherwise loose [some .orElse]
  | strayCleanup : Otherwise true [some .orElse, some .cleanup]

/-- What may come behind the handlers of a `try`. -/
inductive HandledEnd : Clauses → Prop where
  | nothing : HandledEnd []
  | orElse : HandledEnd [some .orElse]
  | cleanup : HandledEnd [some .cleanup]
  | both : HandledEnd [some .orElse, some .cleanup]

/-- The clauses of one statement. The strict form is Python's. -/
inductive Complete (loose : Bool) : Clauses → Prop where
  | simple : Complete loose [none]
  | scope {k : Clause} (hk : k ∈ [Clause.withScope, .function, .classBody]) :
      Complete loose [some k]
  | condition (n : Nat) {last : Clauses} (hlast : Otherwise loose last) :
      Complete loose (some .ifThen :: (List.replicate n (some .elseIf) ++ last))
  | loop {k : Clause} (hk : k ∈ [Clause.forLoop, .whileLoop]) {last : Clauses}
      (hlast : Otherwise loose last) : Complete loose (some k :: last)
  | handled (n : Nat) {last : Clauses} (hlast : HandledEnd last) :
      Complete loose (some .tryBlock :: (List.replicate (n + 1) (some .handler) ++ last))
  | cleaned : Complete loose [some .tryBlock, some .cleanup]

/-- One complete statement after another. -/
inductive Sequenced (loose : Bool) : Clauses → Prop where
  | nil : Sequenced loose []
  | append {group others : Clauses} (hgroup : Complete loose group)
      (hothers : Sequenced loose others) : Sequenced loose (group ++ others)

/-! ## The check of one line after another -/

/-- A line of the second clause may come behind a line of the first. -/
def Follows (previous clause : Option Clause) : Bool :=
  (previous ≠ some .tryBlock || clause = some .handler || clause = some .cleanup) &&
    clause.all fun k => (mayFollow k).isEmpty || previous.any ((mayFollow k).contains ·)

/-- The lines of a block behind a line of the given clause. -/
inductive Accepts : Option Clause → Clauses → Prop where
  | finish {previous : Option Clause} (h : previous ≠ some .tryBlock) : Accepts previous []
  | next {previous clause : Option Clause} {others : Clauses} (h : Follows previous clause)
      (hothers : Accepts clause others) : Accepts previous (clause :: others)

theorem accepts_nil_iff {previous : Option Clause} :
    Accepts previous [] ↔ previous ≠ some .tryBlock := by
  constructor
  · intro h
    cases h with
    | finish h => exact h
  · exact .finish

theorem accepts_cons_iff {previous clause : Option Clause} {others : Clauses} :
    Accepts previous (clause :: others) ↔ Follows previous clause ∧ Accepts clause others := by
  constructor
  · intro h
    cases h with
    | next h hothers => exact ⟨h, hothers⟩
  · exact fun h => .next h.1 h.2

namespace ClauseOrder

theorem next_eq_ok {order next : ClauseOrder} {tokens : List Token} {line : Nat} :
    order.next tokens line = .ok next ↔
      Follows order.previous (clauseOf? tokens) ∧ ⟨clauseOf? tokens, line⟩ = next := by
  obtain ⟨previous, at_⟩ := order
  unfold ClauseOrder.next Follows
  generalize clauseOf? tokens = clause
  by_cases htry : previous = some .tryBlock
  · subst htry
    cases clause with
    | none => simp
    | some k => cases k <;> simp [mayFollow]
  · cases clause with
    | none => simp [htry]
    | some k =>
        dsimp only
        split
        · simp_all
        · split <;> simp_all

theorem finish_eq_ok {order : ClauseOrder} :
    order.finish = .ok () ↔ order.previous ≠ some .tryBlock := by
  unfold ClauseOrder.finish
  split <;> simp_all

end ClauseOrder

/-- A line of the clause begins a statement. -/
def Begins (clause : Option Clause) : Bool := clause.all fun k => (mayFollow k).isEmpty

theorem follows_of_begins {previous clause : Option Clause} (h : previous ≠ some .tryBlock)
    (begins : Begins clause) : Follows previous clause := by
  cases clause with
  | none => simp [Follows, h]
  | some k =>
      have hempty : (mayFollow k).isEmpty = true := begins
      simp [Follows, h, hempty]

theorem follows_of_mem {p k : Clause} (h : p ∈ mayFollow k) : Follows (some p) (some k) := by
  cases p <;> cases k <;> first | rfl | exact absurd h (by decide)

/-- A line goes on with the statement before it or begins another one. -/
theorem begins_or_mem_of_follows {previous clause : Option Clause} (h : Follows previous clause) :
    (previous ≠ some .tryBlock ∧ Begins clause) ∨
      ∃ p k, previous = some p ∧ clause = some k ∧ p ∈ mayFollow k := by
  rw [Follows, Bool.and_eq_true] at h
  obtain ⟨htry, hfollows⟩ := h
  cases clause with
  | none => exact Or.inl ⟨by simpa using htry, rfl⟩
  | some k =>
      rw [Option.all_some, Bool.or_eq_true] at hfollows
      rcases hfollows with hempty | hafter
      · refine Or.inl ⟨?_, hempty⟩
        rintro rfl
        cases k <;> simp [mayFollow] at htry hempty
      · obtain ⟨p, rfl, hp⟩ := (Option.any_eq_true _ _).mp hafter
        exact Or.inr ⟨p, k, rfl, rfl, by simpa using hp⟩

/-! ## What may still come of a statement -/

/-- What may still come of a statement whose last clause is known. -/
inductive Rest : Option Clause → Clauses → Prop where
  | ends {previous : Option Clause} (h : previous ≠ some .tryBlock) : Rest previous []
  | goesOn {p k : Clause} {rest : Clauses} (h : p ∈ mayFollow k) (more : Rest (some k) rest) :
      Rest (some p) (some k :: rest)

section Rest

variable {p : Clause} {rest : Clauses}

theorem exists_of_rest_cons {clause : Option Clause} (h : Rest (some p) (clause :: rest)) :
    ∃ k, clause = some k ∧ p ∈ mayFollow k ∧ Rest (some k) rest := by
  cases h with
  | goesOn h more => exact ⟨_, rfl, h, more⟩

theorem rest_iff_nil (hp : p ≠ .tryBlock) (never : ∀ k, p ∉ mayFollow k) :
    Rest (some p) rest ↔ rest = [] := by
  constructor
  · intro h
    cases rest with
    | nil => rfl
    | cons clause more =>
        obtain ⟨k, -, hk, -⟩ := exists_of_rest_cons h
        exact absurd hk (never k)
  · rintro rfl
    exact .ends (by simpa using hp)

theorem rest_scope (hp : p ∈ [Clause.withScope, .function, .classBody]) :
    Rest (some p) rest ↔ rest = [] := by
  obtain rfl | rfl | rfl : p = .withScope ∨ p = .function ∨ p = .classBody := by simpa using hp
  all_goals exact rest_iff_nil (by decide) fun k => by cases k <;> decide

theorem rest_cleanup : Rest (some .cleanup) rest ↔ rest = [] :=
  rest_iff_nil (by decide) fun k => by cases k <;> decide

theorem rest_orElse : Rest (some .orElse) rest ↔ rest = [] ∨ rest = [some .cleanup] := by
  constructor
  · intro h
    cases rest with
    | nil => exact Or.inl rfl
    | cons clause more =>
        obtain ⟨k, rfl, hk, hmore⟩ := exists_of_rest_cons h
        obtain rfl : k = .cleanup := by cases k <;> first | rfl | exact absurd hk (by decide)
        rw [rest_cleanup.mp hmore]
        exact Or.inr rfl
  · rintro (rfl | rfl)
    · exact .ends (by decide)
    · exact .goesOn (by decide) (rest_cleanup.mpr rfl)

theorem otherwise_of_rest (h : Rest (some .orElse) rest) :
    Otherwise true (some .orElse :: rest) := by
  rcases rest_orElse.mp h with rfl | rfl
  · exact .orElse
  · exact .strayCleanup

theorem rest_of_otherwise (hp : p ≠ .tryBlock) (helse : p ∈ mayFollow .orElse)
    (h : Otherwise true rest) : Rest (some p) rest := by
  cases h with
  | nothing => exact .ends (by simpa using hp)
  | orElse => exact .goesOn helse (rest_orElse.mpr (Or.inl rfl))
  | strayCleanup => exact .goesOn helse (rest_orElse.mpr (Or.inr rfl))

theorem rest_loop (hp : p ∈ [Clause.forLoop, .whileLoop]) :
    Rest (some p) rest ↔ Otherwise true rest := by
  obtain rfl | rfl : p = .forLoop ∨ p = .whileLoop := by simpa using hp
  all_goals
    refine ⟨fun h => ?_, rest_of_otherwise (by decide) (by decide)⟩
    cases rest with
    | nil => exact .nothing
    | cons clause more =>
        obtain ⟨k, rfl, hk, hmore⟩ := exists_of_rest_cons h
        obtain rfl : k = .orElse := by cases k <;> first | rfl | exact absurd hk (by decide)
        exact otherwise_of_rest hmore

theorem rest_condition (hp : p ∈ [Clause.ifThen, .elseIf]) : Rest (some p) rest ↔
    ∃ n last, Otherwise true last ∧ rest = List.replicate n (some .elseIf) ++ last := by
  constructor
  · intro h
    induction rest generalizing p with
    | nil => exact ⟨0, [], .nothing, rfl⟩
    | cons clause more ih =>
        obtain ⟨k, rfl, hk, hmore⟩ := exists_of_rest_cons h
        have hcase : k = .elseIf ∨ k = .orElse := by
          obtain rfl | rfl : p = .ifThen ∨ p = .elseIf := by simpa using hp
          all_goals cases k <;> first | decide | exact absurd hk (by decide)
        rcases hcase with rfl | rfl
        · obtain ⟨n, last, hlast, rfl⟩ := ih (by decide) hmore
          exact ⟨n + 1, last, hlast, rfl⟩
        · exact ⟨0, _, otherwise_of_rest hmore, rfl⟩
  · rintro ⟨n, last, hlast, rfl⟩
    induction n generalizing p with
    | zero =>
        obtain rfl | rfl : p = .ifThen ∨ p = .elseIf := by simpa using hp
        all_goals exact rest_of_otherwise (by decide) (by decide) hlast
    | succ n ih => exact .goesOn hp (ih (by decide))

theorem rest_handler : Rest (some .handler) rest ↔
    ∃ n last, HandledEnd last ∧ rest = List.replicate n (some .handler) ++ last := by
  constructor
  · intro h
    induction rest with
    | nil => exact ⟨0, [], .nothing, rfl⟩
    | cons clause more ih =>
        obtain ⟨k, rfl, hk, hmore⟩ := exists_of_rest_cons h
        have hcase : k = .handler ∨ k = .orElse ∨ k = .cleanup := by
          cases k <;> first | decide | exact absurd hk (by decide)
        rcases hcase with rfl | rfl | rfl
        · obtain ⟨n, last, hlast, rfl⟩ := ih hmore
          exact ⟨n + 1, last, hlast, rfl⟩
        · rcases rest_orElse.mp hmore with rfl | rfl
          · exact ⟨0, _, .orElse, rfl⟩
          · exact ⟨0, _, .both, rfl⟩
        · rw [rest_cleanup.mp hmore]
          exact ⟨0, _, .cleanup, rfl⟩
  · rintro ⟨n, last, hlast, rfl⟩
    induction n with
    | zero =>
        cases hlast with
        | nothing => exact .ends (by decide)
        | orElse => exact .goesOn (by decide) (rest_orElse.mpr (Or.inl rfl))
        | cleanup => exact .goesOn (by decide) (rest_cleanup.mpr rfl)
        | both => exact .goesOn (by decide) (rest_orElse.mpr (Or.inr rfl))
    | succ n ih => exact .goesOn (by decide) ih

theorem rest_tryBlock : Rest (some .tryBlock) rest ↔
    (∃ more, Rest (some .handler) more ∧ rest = some .handler :: more) ∨
      rest = [some .cleanup] := by
  constructor
  · intro h
    cases rest with
    | nil =>
        cases h with
        | ends h => exact absurd rfl h
    | cons clause more =>
        obtain ⟨k, rfl, hk, hmore⟩ := exists_of_rest_cons h
        have hcase : k = .handler ∨ k = .cleanup := by
          cases k <;> first | decide | exact absurd hk (by decide)
        rcases hcase with rfl | rfl
        · exact Or.inl ⟨more, hmore, rfl⟩
        · rw [rest_cleanup.mp hmore]
          exact Or.inr rfl
  · rintro (⟨more, hmore, rfl⟩ | rfl)
    · exact .goesOn (by decide) hmore
    · exact .goesOn (by decide) (rest_cleanup.mpr rfl)

end Rest

/-! ## Blocks -/

/-- A complete statement is the line that begins it and what comes of it. -/
theorem complete_iff {group : Clauses} : Complete true group ↔
    ∃ first rest, Begins first ∧ Rest first rest ∧ group = first :: rest := by
  constructor
  · intro h
    cases h with
    | simple => exact ⟨none, [], rfl, .ends (by decide), rfl⟩
    | @scope k hk =>
        refine ⟨some k, [], ?_, (rest_scope hk).mpr rfl, rfl⟩
        obtain rfl | rfl | rfl : k = .withScope ∨ k = .function ∨ k = .classBody := by
          simpa using hk
        all_goals rfl
    | condition n hlast =>
        exact ⟨_, _, rfl, (rest_condition (by decide)).mpr ⟨n, _, hlast, rfl⟩, rfl⟩
    | @loop k hk last hlast =>
        refine ⟨some k, last, ?_, (rest_loop hk).mpr hlast, rfl⟩
        obtain rfl | rfl : k = .forLoop ∨ k = .whileLoop := by simpa using hk
        all_goals rfl
    | handled n hlast =>
        have hrest := rest_handler.mpr ⟨n, _, hlast, rfl⟩
        exact ⟨_, _, rfl, rest_tryBlock.mpr (Or.inl ⟨_, hrest, rfl⟩), rfl⟩
    | cleaned => exact ⟨_, _, rfl, rest_tryBlock.mpr (Or.inr rfl), rfl⟩
  · rintro ⟨first, rest, hfirst, hrest, rfl⟩
    cases first with
    | none =>
        cases hrest with
        | ends => exact .simple
    | some k =>
        cases k with
        | ifThen =>
            obtain ⟨n, last, hlast, rfl⟩ := (rest_condition (by decide)).mp hrest
            exact .condition n hlast
        | forLoop | whileLoop => exact .loop (by decide) ((rest_loop (by decide)).mp hrest)
        | tryBlock =>
            rcases rest_tryBlock.mp hrest with ⟨more, hmore, rfl⟩ | rfl
            · obtain ⟨n, last, hlast, rfl⟩ := rest_handler.mp hmore
              exact .handled n hlast
            · exact .cleaned
        | withScope | function | classBody =>
            rw [(rest_scope (by decide)).mp hrest]
            exact .scope (by decide)
        | elseIf | orElse | handler | cleanup => exact absurd hfirst (by decide)

theorem accepts_append {previous : Option Clause} {rest others : Clauses} (h : Rest previous rest)
    (hothers : ∀ p, p ≠ some .tryBlock → Accepts p others) : Accepts previous (rest ++ others) := by
  induction h with
  | ends h => exact hothers _ h
  | goesOn h more ih => exact .next (follows_of_mem h) ih

theorem accepts_of_sequenced {clauses : Clauses} (h : Sequenced true clauses)
    {previous : Option Clause} (hp : previous ≠ some .tryBlock) : Accepts previous clauses := by
  induction h generalizing previous with
  | nil => exact .finish hp
  | append hgroup _ ih =>
      obtain ⟨first, rest, hfirst, hrest, rfl⟩ := complete_iff.mp hgroup
      exact .next (follows_of_begins hp hfirst) (accepts_append hrest fun _ => ih)

/-- Behind a clause come the rest of its statement and further statements. -/
theorem Accepts.split {previous : Option Clause} {clauses : Clauses}
    (h : Accepts previous clauses) :
    ∃ rest others, Rest previous rest ∧ Sequenced true others ∧ clauses = rest ++ others := by
  induction h with
  | finish h => exact ⟨[], [], .ends h, .nil, rfl⟩
  | next h _ ih =>
      obtain ⟨rest, others, hrest, hothers, rfl⟩ := ih
      rcases begins_or_mem_of_follows h with ⟨hp, hbegins⟩ | ⟨p, k, rfl, rfl, hp⟩
      · have hgroup := complete_iff.mpr ⟨_, _, hbegins, hrest, rfl⟩
        exact ⟨[], _, .ends hp, .append hgroup hothers, rfl⟩
      · exact ⟨_, others, .goesOn hp hrest, hothers, rfl⟩

/-- From its start a block accepts complete statements in the loose form. -/
theorem accepts_iff_sequenced {clauses : Clauses} :
    Accepts none clauses ↔ Sequenced true clauses := by
  constructor
  · intro h
    obtain ⟨rest, others, hrest, hothers, rfl⟩ := h.split
    cases hrest with
    | ends => exact hothers
  · exact fun h => accepts_of_sequenced h (by decide)

/-! ## Stray cleanups -/

/-- Somewhere a cleanup stands behind the `else` of a condition or a loop. -/
def HasStrayCleanup (clauses : Clauses) : Prop :=
  ∃ before k n after, k ∈ [Clause.ifThen, .forLoop, .whileLoop] ∧ clauses = before ++
    (some k :: (List.replicate n (some .elseIf) ++ [some .orElse, some .cleanup])) ++ after

theorem Otherwise.loosen {loose : Bool} {last : Clauses} (h : Otherwise loose last) :
    Otherwise true last := by
  cases h with
  | nothing => exact .nothing
  | orElse => exact .orElse
  | strayCleanup => exact .strayCleanup

theorem Complete.loosen {loose : Bool} {group : Clauses} (h : Complete loose group) :
    Complete true group := by
  cases h with
  | simple => exact .simple
  | scope hk => exact .scope hk
  | condition n hlast => exact .condition n hlast.loosen
  | loop hk hlast => exact .loop hk hlast.loosen
  | handled n hlast => exact .handled n hlast
  | cleaned => exact .cleaned

theorem Sequenced.loosen {loose : Bool} {clauses : Clauses} (h : Sequenced loose clauses) :
    Sequenced true clauses := by
  induction h with
  | nil => exact .nil
  | append hgroup _ ih => exact .append hgroup.loosen ih

/-- A statement that is complete in the loose form only has a stray cleanup. -/
theorem Complete.strict {group : Clauses} (h : Complete true group)
    (tidy : ¬ HasStrayCleanup group) : Complete false group := by
  cases h with
  | simple => exact .simple
  | scope hk => exact .scope hk
  | condition n hlast =>
      cases hlast with
      | nothing => exact .condition n .nothing
      | orElse => exact .condition n .orElse
      | strayCleanup => exact absurd ⟨[], .ifThen, n, [], by decide, by simp⟩ tidy
  | @loop k hk last hlast =>
      cases hlast with
      | nothing => exact .loop hk .nothing
      | orElse => exact .loop hk .orElse
      | strayCleanup => exact absurd ⟨[], k, 0, [], List.mem_cons_of_mem _ hk, by simp⟩ tidy
  | handled n hlast => exact .handled n hlast
  | cleaned => exact .cleaned

theorem Sequenced.strict {clauses : Clauses} (h : Sequenced true clauses)
    (tidy : ¬ HasStrayCleanup clauses) : Sequenced false clauses := by
  induction h with
  | nil => exact .nil
  | @append group others hgroup _ ih =>
      refine .append (hgroup.strict fun hstray => tidy ?_) (ih fun hstray => tidy ?_)
      · obtain ⟨before, k, n, after, hk, rfl⟩ := hstray
        exact ⟨before, k, n, after ++ others, hk, by simp⟩
      · obtain ⟨before, k, n, after, hk, rfl⟩ := hstray
        exact ⟨group ++ before, k, n, after, hk, by simp⟩

theorem begins_of_sequenced {loose : Bool} {first : Option Clause} {rest : Clauses}
    (h : Sequenced loose (first :: rest)) : Begins first := by
  have hfollows := (accepts_cons_iff.mp (accepts_iff_sequenced.mpr h.loosen)).1
  rcases begins_or_mem_of_follows hfollows with ⟨-, hbegins⟩ | ⟨p, k, hp, -⟩
  · exact hbegins
  · cases hp

theorem not_begins_of_rest {previous : Option Clause} {rest : Clauses} (h : Rest previous rest) :
    ∀ clause ∈ rest, ¬ Begins clause := by
  induction h with
  | ends => simp
  | @goesOn p k rest hk _ ih =>
      rintro clause hclause hbegins
      rcases List.mem_cons.mp hclause with rfl | hclause
      · have hempty : mayFollow k = [] := List.isEmpty_iff.mp hbegins
        rw [hempty] at hk
        cases hk
      · exact ih clause hclause hbegins

/-- Behind the branches of a condition, what ends it leaves no room for a stray cleanup. -/
theorem branches_ne {m n : Nat} {last others after : Clauses} (hlast : Otherwise false last)
    (hothers : Sequenced false others) : List.replicate m (some .elseIf) ++ last ++ others ≠
      List.replicate n (some .elseIf) ++ some .orElse :: some .cleanup :: after := by
  intro h
  induction m generalizing n with
  | zero =>
      cases hlast with
      | nothing =>
          obtain rfl : others = _ := h
          cases n with
          | zero => exact absurd (begins_of_sequenced hothers) (by decide)
          | succ n => exact absurd (begins_of_sequenced hothers) (by decide)
      | orElse =>
          cases n with
          | zero =>
              obtain rfl : others = some .cleanup :: after := (List.cons.inj h).2
              exact absurd (begins_of_sequenced hothers) (by decide)
          | succ n => exact absurd (List.cons.inj h).1 (by decide)
  | succ m ih =>
      cases n with
      | zero => exact absurd (List.cons.inj h).1 (by decide)
      | succ n => exact ih (List.cons.inj h).2

theorem exists_branches {k : Clause} (hk : k ∈ [Clause.ifThen, .forLoop, .whileLoop])
    {rest : Clauses} (h : Complete false (some k :: rest)) :
    ∃ m last, Otherwise false last ∧ rest = List.replicate m (some .elseIf) ++ last := by
  cases h with
  | scope hscope =>
      cases k <;> first | exact absurd hk (by decide) | exact absurd hscope (by decide)
  | condition m hlast => exact ⟨m, _, hlast, rfl⟩
  | loop _ hlast => exact ⟨0, _, hlast, rfl⟩
  | handled => exact absurd hk (by decide)
  | cleaned => exact absurd hk (by decide)

/-- Python's statements have no stray cleanup. -/
theorem Sequenced.tidy {clauses : Clauses} (h : Sequenced false clauses) :
    ¬ HasStrayCleanup clauses := by
  induction h with
  | nil =>
      rintro ⟨before, k, n, after, -, h⟩
      simp at h
  | @append group others hgroup hothers ih =>
      rintro ⟨before, k, n, after, hk, h⟩
      rw [List.append_assoc] at h
      rcases List.append_eq_append_iff.mp h with ⟨inside, -, hinside⟩ | ⟨inside, hbefore, hinside⟩
      · exact ih ⟨inside, k, n, after, hk, by rw [hinside, List.append_assoc]⟩
      · -- The condition or loop begins in the first statement, so it is that statement.
        obtain ⟨first, rest, -, hrest, hfirst⟩ := complete_iff.mp hgroup.loosen
        have hbegins : Begins (some k) := by
          obtain rfl | rfl | rfl : k = .ifThen ∨ k = .forLoop ∨ k = .whileLoop := by simpa using hk
          all_goals rfl
        cases inside with
        | nil => exact ih ⟨[], k, n, after, hk, by simpa using hinside.symm⟩
        | cons clause inside =>
            obtain ⟨hclause, hbehind⟩ := List.cons.inj hinside
            subst hclause
            cases before with
            | cons b before =>
                obtain ⟨rfl, rfl⟩ := List.cons.inj (hfirst.symm.trans hbefore)
                exact not_begins_of_rest hrest (some k) (by simp) hbegins
            | nil =>
                subst hbefore
                obtain ⟨m, last, hlast, rfl⟩ := exists_branches hk hgroup
                have hends : List.replicate m (some .elseIf) ++ last ++ others =
                    List.replicate n (some .elseIf) ++
                      some .orElse :: some .cleanup :: after := by simpa using hbehind.symm
                exact branches_ne hlast hothers hends

end DeclaredSchema.Source
