import DeclaredSchema.Proofs.Source.Lists

/-! # Arguments, slices and parameters

Three more lists between commas, each with its own kinds of parts: the arguments of a call, the
slices of a subscript and the parameters of a lambda. A part is read up to the comma or the closing
symbol behind it.
-/

namespace DeclaredSchema.Source.Tree

open Cursor Strength

/-! ## Parts between commas -/

/-- Goes on behind a comma, and stops where there is none. -/
def pastComma (c : Cursor) : Except SyntaxError (Round Unit) :=
  match c.eat? .comma with
  | some c => .ok (.again () c)
  | none => .ok (.stop () c)

/-- The tokens are a part that one round reads, with the comma behind it. -/
def PartReads (round : Unit → Cursor → Except SyntaxError (Round Unit)) (close : Symbol)
    (ks : List Token.Kind) : Prop :=
  ∀ c y tail, c.kinds = ks ++ .symbol y :: tail → y = .comma ∨ y = close →
    ∃ d, d.kinds = .symbol y :: tail ∧ round () c = pastComma d

theorem rounds_parts {round : Unit → Cursor → Except SyntaxError (Round Unit)} {close : Symbol}
    (hclose : close ≠ .comma) {β : Type} {chunk : β → List Token.Kind} {x : β} {xs : List β}
    (h : ∀ y ∈ x :: xs, PartReads round close (chunk y)) {c : Cursor} {rest : List Token.Kind}
    (hc : c.kinds = Printed.commaJoined ((x :: xs).map chunk) ++ .symbol close :: rest) :
    Yields (rounds round () c) () (.symbol close :: rest) := by
  refine rounds_commaJoined ?_ ?_ hc
  · intro y hy z _ d ks hd
    obtain ⟨e, he, hround⟩ := h y hy d .comma _ hd (Or.inl rfl)
    exact ⟨e.advance, by rw [hround, pastComma, eat?_of_kinds he], kinds_advance he⟩
  · intro y hy d hd
    obtain ⟨e, he, hround⟩ := h y hy d close _ hd (Or.inr rfl)
    have hcomma : e.eat? .comma = none := eat?_of_head (by rw [he]; simpa using hclose)
    exact ⟨e, by rw [hround, pastComma, hcomma], he⟩

/-! ## Arguments -/

/-- One more argument of a call, if there is one. -/
def nextArgument (fuel : Nat) (_ : Unit) (c : Cursor) : Except SyntaxError (Round Unit) :=
  if c.atSymbol .closeParen then .ok (.stop () c)
  else do
    let (_, c) ← match c.eatAny? [.star, .power] with
      | some c => Rule.read fuel .expression c
      | none =>
        if c.name?.isSome && c.second?.any (·.isSymbol .assign) then do
          let c ← c.identifier
          Rule.read fuel .expression c.advance
        else do
          let (shape, c) ← Rule.read fuel .named c
          if c.atComprehension then Rule.read fuel .comprehension c else .ok (shape, c)
    match c.eat? .comma with
    | some c => .ok (.again () c)
    | none => .ok (.stop () c)

theorem read_arguments_eq (fuel : Nat) (c : Cursor) :
    Rule.read (fuel + 1) .arguments c = (do
      let (_, c) ← rounds (nextArgument fuel) () c
      let c ← c.expect .closeParen
      .ok (.value, c)) := rfl

/-- The tokens are an argument of a call. -/
def ArgumentReads (ks : List Token.Kind) : Prop :=
  ∀ fuel, 24 * ks.length ≤ fuel + 7 → PartReads (nextArgument fuel) .closeParen ks

theorem Phrase.second_ne_assign {n : Nat} {ks rest : List Token.Kind} (h : Phrase n ks)
    (hrest : rest.head? ≠ some (.symbol .assign)) {c : Cursor} (hc : c.kinds = ks ++ rest) :
    c.second?.any (·.isSymbol .assign) = false := by
  rw [second?_isSymbol, hc, decide_eq_false_iff_not]
  obtain ⟨k, tail, rfl, -⟩ := h.opens
  cases tail with
  | nil => exact hrest
  | cons j tail =>
      intro hj
      obtain rfl : j = .symbol .assign := Option.some.inj hj
      rcases h.second k _ tail rfl with hconnects | ⟨-, hid⟩
      · cases hconnects
      · cases hid

section Arguments

variable {ks ls : List Token.Kind} {s : Shape}

/-- An argument that begins with an expression is taken for nothing else. -/
theorem argument_named (h : Reads .expression ks s) {c : Cursor} {rest : List Token.Kind}
    (hc : c.kinds = ks ++ rest) (hassign : rest.head? ≠ some (.symbol .assign)) :
    c.atSymbol .closeParen = false ∧ c.eatAny? [.star, .power] = none ∧
      (c.name?.isSome && c.second?.any (·.isSymbol .assign)) = false := by
  refine ⟨?_, ?_, ?_⟩
  · rw [atSymbol_eq, hc, decide_eq_false_iff_not]
    exact h.toPhrase.head_ne rest (by decide)
  · apply eatAny?_of_head
    intro y hy
    simp only [List.mem_cons, List.not_mem_nil, or_false] at hy
    rcases hy with rfl | rfl <;> exact hc ▸ h.toPhrase.head_ne rest (by decide)
  · rw [h.toPhrase.second_ne_assign hassign hc, Bool.and_false]

theorem argumentReads_positional (h : Reads .expression ks s) : ArgumentReads ks := by
  intro fuel hfuel c y tail hc hy
  have hstops : Stops expression.rank (.symbol y :: tail) := by
    rcases hy with rfl | rfl <;> exact .cons (by decide) _
  obtain ⟨hclose, hstar, hkeyword⟩ :=
    argument_named h hc (by rcases hy with rfl | rfl <;> simp)
  obtain ⟨d, hnamed, hd⟩ : Yields (Rule.read fuel .named c) s (.symbol y :: tail) :=
    h.named hc hstops (by omega)
  refine ⟨d, hd, ?_⟩
  rw [nextArgument]
  simp only [hclose, hstar, hkeyword, Bool.false_eq_true, if_false, hnamed, Rule.ok_bind,
    not_atComprehension hd]
  rfl

theorem argumentReads_generator (h : Reads .expression ks s) (hl : Loops ls) :
    ArgumentReads (ks ++ ls) := by
  intro fuel hfuel c y tail hc hy
  rw [List.append_assoc] at hc
  rw [List.length_append] at hfuel
  have hpos := h.length_pos
  have hassign : (ls ++ Token.Kind.symbol y :: tail).head? ≠ some (.symbol .assign) := by
    obtain ⟨isAsync, rest, rfl⟩ := hl.opens
    cases isAsync <;> simp [loopWords]
  obtain ⟨hclose, hstar, hkeyword⟩ := argument_named h hc hassign
  obtain ⟨d, hnamed, hd⟩ : Yields (Rule.read fuel .named c) s (ls ++ .symbol y :: tail) :=
    h.named hc (hl.stops (by decide) _) (by omega)
  obtain ⟨e, hloops, he⟩ := hl.yields fuel d y tail hd
    (by rcases hy with rfl | rfl <;> decide) (by omega)
  refine ⟨e, he, ?_⟩
  rw [nextArgument]
  simp only [hclose, hstar, hkeyword, Bool.false_eq_true, if_false, hnamed, Rule.ok_bind,
    hl.atComprehension hd, if_true, hloops]
  rfl

theorem argumentReads_keyword (n : Identifier) (h : Reads .expression ks s) :
    ArgumentReads (.name n.text :: .symbol .assign :: ks) := by
  intro fuel hfuel c y tail hc hy
  simp only [List.length_cons] at hfuel
  have hclose : c.atSymbol .closeParen = false := by
    rw [atSymbol_eq, hc]
    simp
  have hstar : c.eatAny? [.star, .power] = none :=
    eatAny?_of_head fun y _ => by rw [hc]; simp
  have hkeyword : (c.name?.isSome && c.second?.any (·.isSymbol .assign)) = true := by
    rw [name?_eq, second?_isSymbol, hc]
    rfl
  obtain ⟨d, hname, hd⟩ := arrives_identifier n.free hc
  obtain ⟨e, hvalue, he⟩ : Yields (Rule.read fuel .expression d.advance) s (.symbol y :: tail) :=
    h.yields (kinds_advance hd) (by rcases hy with rfl | rfl <;> exact .cons (by decide) _)
      (by simp only [rank]; omega)
  refine ⟨e, he, ?_⟩
  rw [nextArgument]
  simp only [hclose, hstar, hkeyword, Bool.false_eq_true, if_false, if_true, hname, Rule.ok_bind,
    hvalue]
  rfl

/-- An argument behind one or two stars. -/
theorem argumentReads_spread {stars : Symbol} (hstars : stars ∈ [Symbol.star, Symbol.power])
    (h : Reads .expression ks s) : ArgumentReads (.symbol stars :: ks) := by
  intro fuel hfuel c y tail hc hy
  simp only [List.length_cons] at hfuel
  have hclose : c.atSymbol .closeParen = false := by
    simp only [List.mem_cons, List.not_mem_nil, or_false] at hstars
    rw [atSymbol_eq, hc]
    rcases hstars with rfl | rfl <;> rfl
  obtain ⟨d, hvalue, hd⟩ : Yields (Rule.read fuel .expression c.advance) s (.symbol y :: tail) :=
    h.yields (kinds_advance hc) (by rcases hy with rfl | rfl <;> exact .cons (by decide) _)
      (by simp only [rank]; omega)
  refine ⟨d, hd, ?_⟩
  rw [nextArgument]
  simp only [hclose, eatAny?_of_kinds hc hstars, Bool.false_eq_true, if_false, hvalue, Rule.ok_bind]
  rfl

end Arguments

theorem fills_arguments {β : Type} {chunk : β → List Token.Kind} {xs : List β}
    (h : ∀ x ∈ xs, ArgumentReads (chunk x)) :
    Fills .arguments .closeParen (Printed.commaJoined (xs.map chunk)) .value := by
  refine .of_succ fun f c rest hc hfuel => ?_
  have hrounds :
      Yields (rounds (nextArgument f) () c) () (.symbol .closeParen :: rest) := by
    cases xs with
    | nil =>
        have hclose : c.atSymbol .closeParen = true := by
          rw [atSymbol_eq, hc]
          rfl
        have hround : nextArgument f () c = .ok (.stop () c) := by
          rw [nextArgument, if_pos hclose]
        exact ⟨c, rounds_stop hround, hc⟩
    | cons x xs =>
        refine rounds_parts (by decide) (fun y hy => h y hy f ?_) hc
        have := Printed.length_le_commaJoined_of_mem (List.mem_map_of_mem (f := chunk) hy)
        omega
  rw [read_arguments_eq]
  refine hrounds.bind fun d hd => ?_
  exact (arrives_expect hd).bind fun e he => .ok he

/-! ## Slices -/

/-- One more index or slice, with the comma behind it. -/
def nextSlice (fuel : Nat) (_ : Unit) (c : Cursor) : Except SyntaxError (Round Unit) := do
  let c ← match c.eat? .star with
    | some c => do
      let (_, c) ← Rule.read fuel (.chain .bitOr) c
      .ok c
    | none => do
      let c ←
        if c.atSymbol .colon then .ok c
        else do
          let (_, c) ← Rule.read fuel .named c
          .ok c
      match c.eat? .colon with
      | none => .ok c
      | some c => do
        let c ← Rule.optionalExpression (Rule.read fuel .expression) c
        match c.eat? .colon with
        | none => .ok c
        | some c => Rule.optionalExpression (Rule.read fuel .expression) c
  match c.eat? .comma with
  | none => .ok (.stop () c)
  | some c => if c.atSymbol .closeSquare then .ok (.stop () c) else .ok (.again () c)

theorem read_slices_eq (fuel : Nat) (c : Cursor) :
    Rule.read (fuel + 1) .slices c = (do
      let (_, c) ← rounds (nextSlice fuel) () c
      let c ← c.expect .closeSquare
      .ok (.value, c)) := rfl

/-- Goes on behind a comma, unless it is the last one. -/
def pastSlice (c : Cursor) : Except SyntaxError (Round Unit) :=
  match c.eat? .comma with
  | none => .ok (.stop () c)
  | some c => if c.atSymbol .closeSquare then .ok (.stop () c) else .ok (.again () c)

/-- The tokens are an index or a slice. -/
structure SliceReads (ks : List Token.Kind) : Prop where
  opens : ∃ k tail, ks = k :: tail ∧ k ≠ .symbol .closeSquare
  goes : ∀ fuel c y tail, c.kinds = ks ++ .symbol y :: tail → y = .comma ∨ y = .closeSquare →
    24 * ks.length ≤ fuel + 7 → ∃ d, d.kinds = .symbol y :: tail ∧
      nextSlice fuel () c = pastSlice d

/-- The tokens are an expression, or there are none. -/
def OptionReads (ks : List Token.Kind) : Prop := ks = [] ∨ ∃ s, Reads .expression ks s

theorem OptionReads.arrives {ks : List Token.Kind} (h : OptionReads ks) (fuel : Nat) {c : Cursor}
    {y : Symbol} {tail : List Token.Kind} (hc : c.kinds = ks ++ .symbol y :: tail)
    (joins : joinRank (.symbol y) < expression.rank) (opens : openRank (.symbol y) = 0)
    (hfuel : 24 * ks.length ≤ fuel + 7) :
    Arrives (Rule.optionalExpression (Rule.read fuel .expression) c) (.symbol y :: tail) := by
  rcases h with rfl | ⟨s, h⟩
  · have hstart : c.startsExpression = false := by
      rw [startsExpression_eq, hc]
      exact starts_eq_false opens
    rw [Rule.optionalExpression, hstart]
    exact .ok hc
  · have hstart : c.startsExpression = true := by
      obtain ⟨k, more, rfl, hopen⟩ := h.toPhrase.opens
      rw [startsExpression_eq, hc]
      exact starts_of_openRank (Nat.lt_of_lt_of_le (by decide) hopen)
    have hvalue : Yields (Rule.read fuel .expression c) s (.symbol y :: tail) :=
      h.yields hc (.cons joins _) (by simp only [rank]; omega)
    rw [Rule.optionalExpression, hstart]
    exact hvalue.bind_arrives fun d hd => .ok hd

section Slices

variable {ks lower upper step : List Token.Kind} {s : Shape}

theorem sliceReads_index (h : Reads .expression ks s) : SliceReads ks where
  opens := by
    obtain ⟨k, tail, rfl, hk⟩ := h.toPhrase.opens
    refine ⟨k, tail, rfl, ?_⟩
    rintro rfl
    exact absurd hk (by decide)
  goes fuel c y tail hc hy hfuel := by
    have hstar : c.eat? .star = none := eat?_of_head (hc ▸ h.toPhrase.head_ne _ (by decide))
    have hcolon : c.atSymbol .colon = false := by
      rw [atSymbol_eq, hc, decide_eq_false_iff_not]
      exact h.toPhrase.head_ne _ (by decide)
    obtain ⟨d, hnamed, hd⟩ : Yields (Rule.read fuel .named c) s (.symbol y :: tail) :=
      h.named hc (by rcases hy with rfl | rfl <;> exact .cons (by decide) _) (by omega)
    have hbehind : d.eat? .colon = none :=
      eat?_of_head (by rw [hd]; rcases hy with rfl | rfl <;> simp)
    refine ⟨d, hd, ?_⟩
    rw [nextSlice, hstar]
    simp only [hcolon, Bool.false_eq_true, if_false, hnamed, Rule.ok_bind, hbehind]
    rfl

theorem sliceReads_star (h : Reads (.chain .bitOr) ks s) : SliceReads (.symbol .star :: ks) where
  opens := ⟨_, _, rfl, by simp⟩
  goes fuel c y tail hc hy hfuel := by
    simp only [List.length_cons] at hfuel
    obtain ⟨d, hvalue, hd⟩ : Yields (Rule.read fuel (.chain .bitOr) c.advance) s
        (.symbol y :: tail) :=
      h.yields (kinds_advance hc) (by rcases hy with rfl | rfl <;> exact .cons (by decide) _)
        (by simp only [rank]; omega)
    refine ⟨d, hd, ?_⟩
    rw [nextSlice, eat?_of_kinds hc]
    simp only [hvalue, Rule.ok_bind]
    rfl

/-- A slice behind its first colon. -/
def upperSlice (fuel : Nat) (c : Cursor) : Except SyntaxError (Round Unit) := do
  let c ← Rule.optionalExpression (Rule.read fuel .expression) c
  match c.eat? .colon with
  | none => pastSlice c
  | some c => do
    let c ← Rule.optionalExpression (Rule.read fuel .expression) c
    pastSlice c

theorem OptionReads.nextSlice_eq (h : OptionReads lower) (fuel : Nat) {c : Cursor}
    {rest : List Token.Kind} (hc : c.kinds = lower ++ .symbol .colon :: rest)
    (hfuel : 24 * lower.length ≤ fuel + 7) :
    ∃ d, d.kinds = rest ∧ nextSlice fuel () c = upperSlice fuel d := by
  rcases h with rfl | ⟨s, h⟩
  · have hstar : c.eat? .star = none := eat?_of_head (by rw [hc]; simp)
    have hcolon : c.atSymbol .colon = true := by
      rw [atSymbol_eq, hc]
      rfl
    refine ⟨c.advance, kinds_advance hc, ?_⟩
    rw [nextSlice, hstar]
    simp only [hcolon, if_true, Rule.ok_bind]
    rw [eat?_of_kinds hc]
    rfl
  · have hstar : c.eat? .star = none := eat?_of_head (hc ▸ h.toPhrase.head_ne _ (by decide))
    have hcolon : c.atSymbol .colon = false := by
      rw [atSymbol_eq, hc, decide_eq_false_iff_not]
      exact h.toPhrase.head_ne _ (by decide)
    obtain ⟨d, hnamed, hd⟩ : Yields (Rule.read fuel .named c) s (.symbol .colon :: rest) :=
      h.named hc (.cons (by decide) _) (by omega)
    refine ⟨d.advance, kinds_advance hd, ?_⟩
    rw [nextSlice, hstar]
    simp only [hcolon, Bool.false_eq_true, if_false, hnamed, Rule.ok_bind]
    rw [eat?_of_kinds hd]
    rfl

theorem OptionReads.opens_slice (h : OptionReads lower) (rest : List Token.Kind) :
    ∃ k tail, lower ++ .symbol .colon :: rest = k :: tail ∧ k ≠ .symbol .closeSquare := by
  rcases h with rfl | ⟨s, h⟩
  · exact ⟨_, _, rfl, by simp⟩
  · obtain ⟨k, tail, rfl, hk⟩ := h.toPhrase.opens
    refine ⟨k, _, rfl, ?_⟩
    rintro rfl
    exact absurd hk (by decide)

theorem sliceReads_range (hl : OptionReads lower) (hu : OptionReads upper) :
    SliceReads (lower ++ .symbol .colon :: upper) where
  opens := hl.opens_slice upper
  goes fuel c y tail hc hy hfuel := by
    rw [List.append_assoc, List.cons_append] at hc
    simp only [List.length_append, List.length_cons] at hfuel
    obtain ⟨d, hd, hslice⟩ := hl.nextSlice_eq fuel hc (by omega)
    obtain ⟨e, hupper, he⟩ := hu.arrives fuel hd
      (by rcases hy with rfl | rfl <;> decide) (by rcases hy with rfl | rfl <;> rfl) (by omega)
    have hcolon : e.eat? .colon = none :=
      eat?_of_head (by rw [he]; rcases hy with rfl | rfl <;> simp)
    exact ⟨e, he, by simp only [hslice, upperSlice, hupper, Rule.ok_bind, hcolon]⟩

theorem sliceReads_stepped (hl : OptionReads lower) (hu : OptionReads upper)
    (hs : OptionReads step) :
    SliceReads (lower ++ .symbol .colon :: (upper ++ .symbol .colon :: step)) where
  opens := hl.opens_slice _
  goes fuel c y tail hc hy hfuel := by
    simp only [List.append_assoc, List.cons_append] at hc
    simp only [List.length_append, List.length_cons] at hfuel
    obtain ⟨d, hd, hslice⟩ := hl.nextSlice_eq fuel hc (by omega)
    obtain ⟨e, hupper, he⟩ := hu.arrives fuel hd (by decide) rfl (by omega)
    obtain ⟨f, hstep, hf⟩ := hs.arrives fuel (kinds_advance he)
      (by rcases hy with rfl | rfl <;> decide) (by rcases hy with rfl | rfl <;> rfl) (by omega)
    refine ⟨f, hf, ?_⟩
    simp only [hslice, upperSlice, hupper, Rule.ok_bind, eat?_of_kinds he, hstep]

end Slices

theorem fills_slices {β : Type} {chunk : β → List Token.Kind} {x : β} {xs : List β}
    (h : ∀ y ∈ x :: xs, SliceReads (chunk y)) :
    Fills .slices .closeSquare (Printed.commaJoined ((x :: xs).map chunk)) .value := by
  refine .of_succ fun f c rest hc hfuel => ?_
  have hlength : ∀ y ∈ x :: xs, 24 * (chunk y).length ≤ f + 7 := by
    intro y hy
    have := Printed.length_le_commaJoined_of_mem (List.mem_map_of_mem (f := chunk) hy)
    omega
  have hrounds : Yields (rounds (nextSlice f) () c) () (.symbol .closeSquare :: rest) := by
    refine rounds_commaJoined ?_ ?_ hc
    · intro y hy z hz d ks hd
      obtain ⟨e, he, hslice⟩ := (h y hy).goes f d .comma _ hd (Or.inl rfl) (hlength y hy)
      have hclose : e.advance.atSymbol .closeSquare = false := by
        obtain ⟨k, tail, hchunk, hk⟩ := (h z hz).opens
        rw [atSymbol_eq, kinds_advance he, hchunk]
        simpa using hk
      refine ⟨e.advance, ?_, kinds_advance he⟩
      rw [hslice, pastSlice, eat?_of_kinds he]
      simp only [hclose, Bool.false_eq_true, if_false]
    · intro y hy d hd
      obtain ⟨e, he, hslice⟩ := (h y hy).goes f d .closeSquare _ hd (Or.inr rfl) (hlength y hy)
      have hcomma : e.eat? .comma = none := eat?_of_head (by rw [he]; simp)
      exact ⟨e, by rw [hslice, pastSlice, hcomma], he⟩
  rw [read_slices_eq]
  refine hrounds.bind fun d hd => ?_
  exact (arrives_expect hd).bind fun e he => .ok he

/-! ## Parameters -/

/-- One more parameter of a lambda, with the comma behind it. -/
def nextParameter (fuel : Nat) (_ : Unit) (c : Cursor) : Except SyntaxError (Round Unit) :=
  if c.atSymbol .colon then .ok (.stop () c)
  else do
    let c ← match c.eat? .slash with
      | some c => .ok c
      | none => match c.eat? .power with
        | some c => do
          let c ← c.identifier
          Rule.typeHint false (Rule.read fuel .expression) c
        | none => match c.eat? .star with
          | some c =>
            if c.atSymbol .comma || c.atSymbol .colon then .ok c
            else do
              let c ← c.identifier
              Rule.typeHint false (Rule.read fuel .expression) c
          | none => do
            let c ← c.identifier
            let c ← Rule.typeHint false (Rule.read fuel .expression) c
            match c.eat? .assign with
            | none => .ok c
            | some c => do
              let (_, c) ← Rule.read fuel .expression c
              .ok c
    match c.eat? .comma with
    | some c => .ok (.again () c)
    | none => .ok (.stop () c)

theorem read_parameters_eq (fuel : Nat) (c : Cursor) :
    Rule.read (fuel + 1) (.parameters .colon false) c = (do
      let (_, c) ← rounds (nextParameter fuel) () c
      .ok (.value, c)) := rfl

theorem typeHint_false (expression : Cursor → Rule.Reading) (c : Cursor) :
    Rule.typeHint false expression c = .ok c := rfl

/-- The tokens are a parameter of a lambda. -/
structure ParameterReads (ks : List Token.Kind) : Prop where
  opens : ∃ k tail, ks = k :: tail ∧ Leads k
  part : ∀ fuel, 24 * ks.length ≤ fuel + 7 → PartReads (nextParameter fuel) .colon ks

section Parameters

variable {ks : List Token.Kind} {s : Shape}

/-- A parameter that begins with its name is taken for nothing else. -/
theorem parameter_named (n : Identifier) {c : Cursor} {rest : List Token.Kind}
    (hc : c.kinds = .name n.text :: rest) : c.atSymbol .colon = false ∧ c.eat? .slash = none ∧
      c.eat? .power = none ∧ c.eat? .star = none := by
  refine ⟨?_, ?_, ?_, ?_⟩
  · rw [atSymbol_eq, hc]
    simp
  all_goals exact eat?_of_head (by rw [hc]; simp)

theorem Identifier.isIdentifier (n : Identifier) : isIdentifier (.name n.text) = true := by
  simp [Tree.isIdentifier, n.free]

theorem parameterReads_plain (n : Identifier) : ParameterReads [.name n.text] where
  opens := ⟨_, _, rfl, Or.inr n.isIdentifier⟩
  part fuel _ c y tail hc hy := by
    obtain ⟨hcolon, hslash, hpower, hstar⟩ := parameter_named n hc
    obtain ⟨d, hname, hd⟩ := arrives_identifier n.free hc
    have hassign : d.eat? .assign = none :=
      eat?_of_head (by rw [hd]; rcases hy with rfl | rfl <;> simp)
    refine ⟨d, hd, ?_⟩
    rw [nextParameter]
    simp only [hcolon, hslash, hpower, hstar, Bool.false_eq_true, if_false, hname, Rule.ok_bind,
      typeHint_false, hassign]
    rfl

theorem parameterReads_default (n : Identifier) (h : Reads .expression ks s) :
    ParameterReads (.name n.text :: .symbol .assign :: ks) where
  opens := ⟨_, _, rfl, Or.inr n.isIdentifier⟩
  part fuel hfuel c y tail hc hy := by
    simp only [List.length_cons] at hfuel
    obtain ⟨hcolon, hslash, hpower, hstar⟩ := parameter_named n hc
    obtain ⟨d, hname, hd⟩ := arrives_identifier n.free hc
    obtain ⟨e, hvalue, he⟩ : Yields (Rule.read fuel .expression d.advance) s (.symbol y :: tail) :=
      h.yields (kinds_advance hd) (by rcases hy with rfl | rfl <;> exact .cons (by decide) _)
        (by simp only [rank]; omega)
    refine ⟨e, he, ?_⟩
    rw [nextParameter]
    simp only [hcolon, hslash, hpower, hstar, Bool.false_eq_true, if_false, hname, Rule.ok_bind,
      typeHint_false, eat?_of_kinds hd, hvalue]
    rfl

theorem parameterReads_star (n : Identifier) : ParameterReads [.symbol .star, .name n.text] where
  opens := ⟨_, _, rfl, Or.inl rfl⟩
  part fuel _ c y tail hc hy := by
    have hcolon : c.atSymbol .colon = false := by
      rw [atSymbol_eq, hc]
      rfl
    have hslash : c.eat? .slash = none := eat?_of_head (by rw [hc]; simp)
    have hpower : c.eat? .power = none := eat?_of_head (by rw [hc]; simp)
    have hmark : (c.advance.atSymbol .comma || c.advance.atSymbol .colon) = false := by
      rw [atSymbol_eq, atSymbol_eq, kinds_advance hc]
      simp
    obtain ⟨d, hname, hd⟩ := arrives_identifier n.free (kinds_advance hc)
    refine ⟨d, hd, ?_⟩
    rw [nextParameter]
    simp only [hcolon, hslash, hpower, eat?_of_kinds hc, hmark, Bool.false_eq_true, if_false, hname,
      Rule.ok_bind, typeHint_false]
    rfl

theorem parameterReads_doubleStar (n : Identifier) :
    ParameterReads [.symbol .power, .name n.text] where
  opens := ⟨_, _, rfl, Or.inl rfl⟩
  part fuel _ c y tail hc hy := by
    have hcolon : c.atSymbol .colon = false := by
      rw [atSymbol_eq, hc]
      rfl
    have hslash : c.eat? .slash = none := eat?_of_head (by rw [hc]; simp)
    obtain ⟨d, hname, hd⟩ := arrives_identifier n.free (kinds_advance hc)
    refine ⟨d, hd, ?_⟩
    rw [nextParameter]
    simp only [hcolon, hslash, eat?_of_kinds hc, Bool.false_eq_true, if_false, hname,
      Rule.ok_bind, typeHint_false]
    rfl

/-- A star by itself. -/
theorem parameterReads_keywordOnly : ParameterReads [.symbol .star] where
  opens := ⟨_, _, rfl, Or.inl rfl⟩
  part fuel _ c y tail hc hy := by
    have hcolon : c.atSymbol .colon = false := by
      rw [atSymbol_eq, hc]
      rfl
    have hslash : c.eat? .slash = none := eat?_of_head (by rw [hc]; simp)
    have hpower : c.eat? .power = none := eat?_of_head (by rw [hc]; simp)
    have hmark : (c.advance.atSymbol .comma || c.advance.atSymbol .colon) = true := by
      rw [atSymbol_eq, atSymbol_eq, kinds_advance hc]
      rcases hy with rfl | rfl <;> rfl
    refine ⟨c.advance, kinds_advance hc, ?_⟩
    rw [nextParameter]
    simp only [hcolon, hslash, hpower, eat?_of_kinds hc, hmark, Bool.false_eq_true, if_false,
      if_true, Rule.ok_bind]
    rfl

/-- A slash by itself. -/
theorem parameterReads_positionalOnly : ParameterReads [.symbol .slash] where
  opens := ⟨_, _, rfl, Or.inl rfl⟩
  part fuel _ c y tail hc hy := by
    have hcolon : c.atSymbol .colon = false := by
      rw [atSymbol_eq, hc]
      rfl
    refine ⟨c.advance, kinds_advance hc, ?_⟩
    rw [nextParameter]
    simp only [hcolon, eat?_of_kinds hc, Bool.false_eq_true, if_false, Rule.ok_bind]
    rfl

end Parameters

/-- The parameters of a lambda, up to its colon. -/
theorem parameters_read {β : Type} {chunk : β → List Token.Kind} {xs : List β}
    (h : ∀ x ∈ xs, ParameterReads (chunk x)) {fuel : Nat} {c : Cursor} {rest : List Token.Kind}
    (hc : c.kinds = Printed.commaJoined (xs.map chunk) ++ .symbol .colon :: rest)
    (hfuel : 24 * (Printed.commaJoined (xs.map chunk)).length < fuel) :
    Yields (Rule.read fuel (.parameters .colon false) c) .value (.symbol .colon :: rest) := by
  obtain ⟨f, rfl⟩ : ∃ f, fuel = f + 1 := ⟨fuel - 1, by omega⟩
  have hrounds : Yields (rounds (nextParameter f) () c) () (.symbol .colon :: rest) := by
    cases xs with
    | nil =>
        have hcolon : c.atSymbol .colon = true := by
          rw [atSymbol_eq, hc]
          rfl
        have hround : nextParameter f () c = .ok (.stop () c) := by
          rw [nextParameter, if_pos hcolon]
        exact ⟨c, rounds_stop hround, hc⟩
    | cons x xs =>
        refine rounds_parts (by decide) (fun y hy => (h y hy).part f ?_) hc
        have := Printed.length_le_commaJoined_of_mem (List.mem_map_of_mem (f := chunk) hy)
        omega
  rw [read_parameters_eq]
  exact hrounds.bind fun d hd => .ok hd

theorem Reads.lambda {β : Type} {chunk : β → List Token.Kind} {xs : List β}
    (h : ∀ x ∈ xs, ParameterReads (chunk x)) {ks : List Token.Kind} {s : Shape}
    (hbody : Reads .expression ks s) :
    Reads .expression
      (.name "lambda" :: (Printed.commaJoined (xs.map chunk) ++ .symbol .colon :: ks)) .value where
  opens := ⟨_, _, rfl, by decide⟩
  second k j tail heq := by
    obtain ⟨rfl, htail⟩ := List.cons.inj heq
    cases xs with
    | nil =>
        obtain ⟨rfl, -⟩ := List.cons.inj htail
        exact Or.inl rfl
    | cons x xs =>
        obtain ⟨i, more, hx, hi⟩ := (h x List.mem_cons_self).opens
        rw [List.map_cons, Printed.commaJoined_cons, hx] at htail
        obtain ⟨rfl, -⟩ := List.cons.inj htail
        exact hi.imp_right fun hi => ⟨by decide, hi⟩
  closes := by
    rw [List.append_cons, ← List.cons_append]
    exact hbody.toPhrase.closes_append _
  reaches fuel c rest hc stops hfuel := by
    simp only [List.append_assoc, List.cons_append] at hc
    simp only [List.length_append, List.length_cons, rank] at hfuel
    obtain ⟨f, rfl⟩ : ∃ f, fuel = f + 1 := ⟨fuel - 1, by omega⟩
    have hparameters : Yields (Rule.read f (.parameters .colon false) c.advance) .value
        (.symbol .colon :: (ks ++ rest)) :=
      parameters_read h (kinds_advance hc) (by omega)
    change Yields (Rule.read (f + 1) .expression c) .value rest
    rw [Rule.read, eatName?_of_kinds hc]
    refine hparameters.bind fun d hd => ?_
    refine (arrives_expect hd).bind fun e he => ?_
    have hvalue : Yields (Rule.read f .expression e) s rest :=
      hbody.yields he stops (by simp only [rank]; omega)
    exact hvalue.bind fun g hg => .ok hg

end DeclaredSchema.Source.Tree
