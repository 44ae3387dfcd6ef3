import DeclaredSchema.Proofs.Source.PlacedCuts

/-! # Expressions read by places

The reader of expressions with places for what it has read. Each part is cut out as a slice before
it is read, single tokens are looked at by their places, and what stands behind a bracket is told by
the place behind it. A part is always shorter than what it is cut from, so with a step for each
token the reader never runs out of them, and the expression is the one that the tokens stand for
(`ofTokensAt_eq`).
-/

namespace DeclaredSchema.Source.ByPlace

open Source.Expr

/-- A way to read tokens by places. -/
abbrev PlacedReading := List Token → Checked Expr

/-! ## The reader -/

/-- The base of a number that begins with two such characters. -/
def baseOf? : List Char → Option Nat
  | ['0', 'x'] => some 16
  | ['0', 'o'] => some 8
  | ['0', 'b'] => some 2
  | _ => none

/-- The value of a number, whose digits stand behind two characters if these tell a base. -/
def numberLiteralAt (text : String) : Checked (Option Literal) :=
  let cs := (text.toList.filter (· != '_')).map Text.asciiLower
  if cs.getLast? = some 'j' then some none
  else match baseOf? (cs.take 2) with
    | some base => do
      let digits ← slice? cs 2 cs.length
      some ((natOfRadix? base digits).bind fun n => (int64? n).map .int)
    | none => some <|
      if cs.contains '.' || cs.contains 'e' then (Binary64.ofDecimalText? cs).map .float
      else (natOfRadix? 10 cs).bind fun n => (int64? n).map .int

/-- An argument. A keyword stands at the first place, with its sign at the second. -/
def argumentAt (sub : PlacedReading) (part : List Token) : Checked (Option String × Expr) := do
  let named ← if part.length > 2 then (at? part 1).map (·.isSymbol .assign) else some false
  let first ← at? part 0
  match first.name?.filter fun _ => named with
  | some word =>
    let value ← slice? part 2 part.length
    (sub value).map (some word, ·)
  | none => (sub part).map (none, ·)

def argumentsAt (sub : PlacedReading) (tokens : List Token) :
    Checked (List (Option String × Expr)) := do
  let parts ← partsAt .comma tokens
  (parts.filter (!·.isEmpty)).mapM (argumentAt sub)

def listAt (sub : PlacedReading) (inside : List Token) : Checked Expr :=
  if anyTopLevel (·.isName "for") inside then some .unmodelled
  else do
    let parts ← partsAt .comma inside
    ((parts.filter (!·.isEmpty)).mapM sub).map .list

/-- What is read of tokens, unless there are none. -/
def emptyOr (empty : Expr) (read : PlacedReading) (inside : List Token) : Checked Expr :=
  if inside.isEmpty then some empty else read inside

/-- What is read of the brackets that open at a place, and the place behind them. -/
def readGroupAt {α : Type} (read : List Token → Checked α) (tokens : List Token) (opening : Nat) :
    Checked (Option (α × Nat)) :=
  whenFound (groupAt tokens opening) fun (inside, behind) =>
    (read inside).map fun a => some (a, behind)

/-- The expression at the front of some tokens and the place behind it. -/
def atomAt (sub : PlacedReading) (tokens : List Token) : Checked (Option (Expr × Nat)) :=
  match tokens[0]? with
  | none => some none
  | some t => match t.kind with
    | .name "None" => some (some (.literal .null, 1))
    | .name "True" => some (some (.literal (.bool true), 1))
    | .name "False" => some (some (.literal (.bool false), 1))
    | .name n => some (some (.name n, 1))
    | .number text => (numberLiteralAt text).map fun l =>
      some ((l.map .literal).getD .unmodelled, 1)
    | .str value plain => some (some (if plain then .literal (.str value) else .unmodelled, 1))
    | .symbol .openParen => readGroupAt (emptyOr (.tuple []) sub) tokens 0
    | .symbol .openSquare => readGroupAt (emptyOr (.list []) (listAt sub)) tokens 0
    | .symbol .openBrace => (closingAt tokens 0).map (·.map fun close => (.unmodelled, close + 1))
    | _ => some none

/-- Calls, subscripts and attribute access from a place on. -/
def postfixAt (sub : PlacedReading) (tokens : List Token) :
    Nat → Expr → Nat → Checked (Option Expr)
  | 0, _, _ => none
  | fuel + 1, e, place =>
    if place < tokens.length then do
      let t ← at? tokens place
      match t.kind with
      | .symbol .openParen =>
        whenFound (readGroupAt (argumentsAt sub) tokens place) fun (args, behind) =>
          postfixAt sub tokens fuel (.call e args) behind
      | .symbol .openSquare =>
        whenFound (readGroupAt sub tokens place) fun (index, behind) =>
          postfixAt sub tokens fuel (.subscript e index) behind
      | .symbol .dot => match tokens[place + 1]?.bind (·.name?) with
        | some word => postfixAt sub tokens fuel (.member e word) (place + 2)
        | none => some none
      | _ => some none
    else some (some e)

def operandAt (sub : PlacedReading) (tokens : List Token) : Checked Expr :=
  (whenFound (atomAt sub tokens) fun (e, behind) =>
    postfixAt sub tokens (tokens.length + 1) e behind).map (·.getD .unmodelled)

/-- The parts of a tuple, without an empty last one. -/
def tuplePartsAt (parts : List (List Token)) : Checked (List (List Token)) :=
  if parts.getLast?.any (·.isEmpty) then do
    let last ← less? parts.length 1
    slice? parts 0 last
  else some parts

def negated : Expr → Expr
  | .unmodelled => .unmodelled
  | e => .negate e

/-- One step of reading, which leaves the smaller expressions to `sub`. -/
def readWithAt (sub : PlacedReading) (tokens : List Token) : Checked Expr :=
  if tokens.isEmpty || anyTopLevel isOperatorKeyword tokens then some .unmodelled
  else do
    let items ← partsAt .comma tokens
    if items.length > 1 then
      let items ← tuplePartsAt items
      (items.mapM sub).map .tuple
    else
      let members ← partsAt .bar tokens
      if members.length > 1 then (members.mapM sub).map .union
      else
        let first ← at? tokens 0
        if first.isSymbol .minus then
          let rest ← slice? tokens 1 tokens.length
          (sub rest).map negated
        else if first.isSymbol .plus then
          let rest ← slice? tokens 1 tokens.length
          sub rest
        else operandAt sub tokens

/-- Reads an expression in less than `fuel` steps within each other. -/
def readFuelAt : Nat → PlacedReading
  | 0, _ => none
  | fuel + 1, tokens => readWithAt (readFuelAt fuel) tokens

/-- The expression that some tokens stand for, read by their places. -/
def ofTokensAt (tokens : List Token) : Checked Expr := readFuelAt (tokens.length + 1) tokens

/-! ## The same expressions -/

/-- Tokens of less than some length have a value, which is the one of another reading. -/
def Answers {α : Type} (n : Nat) (sub : List Token → Checked α) (f : List Token → α) : Prop :=
  ∀ ts : List Token, ts.length < n → sub ts = some (f ts)

section Steps

variable {α : Type} {sub : PlacedReading} {f : List Token → Expr} {tokens part rest : List Token}
  {t : Token} {place n : Nat}

theorem Answers.mono {read : List Token → Checked α} {g : List Token → α} {m : Nat}
    (h : Answers n read g) (hm : m ≤ n) : Answers m read g :=
  fun ts hts => h ts (Nat.lt_of_lt_of_le hts hm)

theorem radix?_eq (cs : List Char) : radix? cs = (baseOf? (cs.take 2)).map (·, cs.drop 2) := by
  unfold radix?
  split
  · rfl
  · rfl
  · rfl
  · next hx ho hb =>
    have hnone : baseOf? (cs.take 2) = none := by
      unfold baseOf?
      split
      · next h => exact absurd (List.take_append_drop 2 cs).symm (h ▸ hx (cs.drop 2))
      · next h => exact absurd (List.take_append_drop 2 cs).symm (h ▸ ho (cs.drop 2))
      · next h => exact absurd (List.take_append_drop 2 cs).symm (h ▸ hb (cs.drop 2))
      · rfl
    rw [hnone]
    rfl

theorem length_of_baseOf? {cs : List Char} {base : Nat} (h : baseOf? (cs.take 2) = some base) :
    2 ≤ cs.length := by
  have htwo : (cs.take 2).length = 2 := by
    unfold baseOf? at h
    split at h
    case h_4 => cases h
    all_goals
      rename_i heq
      rw [heq]
      rfl
  rw [List.length_take] at htwo
  omega

theorem numberLiteralAt_eq (text : String) :
    numberLiteralAt text = some (numberLiteral? text) := by
  unfold numberLiteralAt numberLiteral?
  dsimp only
  generalize (text.toList.filter (· != '_')).map Text.asciiLower = cs
  rw [radix?_eq]
  split
  · rfl
  cases hbase : baseOf? (cs.take 2) with
  | some base =>
      have hslice : slice? cs 2 cs.length = some (cs.drop 2) :=
        slice?_to_end rfl (length_of_baseOf? hbase)
      dsimp only [Option.map_some]
      rw [hslice]
      cases hvalue : natOfRadix? base (cs.drop 2) with
      | none => simp [hvalue]
      | some n => cases hint : int64? n <;> simp [hvalue, hint]
  | none =>
      dsimp only [Option.map_none]
      split
      · rfl
      · cases hvalue : natOfRadix? 10 cs with
        | none => rfl
        | some n => cases hint : int64? n <;> simp [hint]

theorem argumentAt_eq (h : Answers n sub f) (part : List Token) :
    part ≠ [] → part.length < n → argumentAt sub part = some (match part with
      | ⟨.name n, _⟩ :: ⟨.symbol .assign, _⟩ :: v :: value => (some n, f (v :: value))
      | _ => (none, f part)) := by
  intro hne hlength
  have hpart := h part hlength
  match part, hne, hlength, hpart with
  | [t], _, _, hpart => simp [argumentAt, at?, hpart]
  | [t, u], _, _, hpart => simp [argumentAt, at?, hpart]
  | ⟨kind, l⟩ :: ⟨sign, l'⟩ :: v :: value, _, hlength, hpart =>
      have hvalue : sub (v :: value) = some (f (v :: value)) := by
        simp only [List.length_cons] at hlength
        exact h (v :: value) (by simp only [List.length_cons]; omega)
      have hslice : slice? (⟨kind, l⟩ :: ⟨sign, l'⟩ :: v :: value) 2
          (value.length + 1 + 1 + 1) = some (v :: value) :=
        slice?_to_end rfl (by simp)
      have hread : argumentAt sub (⟨kind, l⟩ :: ⟨sign, l'⟩ :: v :: value) =
          match (Token.mk kind l).name?.filter fun _ => Token.isSymbol ⟨sign, l'⟩ .assign with
          | some word => some (some word, f (v :: value))
          | none => some (none, f (⟨kind, l⟩ :: ⟨sign, l'⟩ :: v :: value)) := by
        rw [argumentAt, if_pos (by simp)]
        simp [at?, hslice, hvalue, hpart]
      rw [hread]
      by_cases hsign : sign = .symbol .assign
      · subst hsign
        cases kind with
        | name word => rfl
        | _ => rfl
      · have hplain : (Token.mk kind l).name?.filter
            (fun _ => Token.isSymbol ⟨sign, l'⟩ .assign) = none := by
          simp [Token.isSymbol, hsign]
        rw [hplain]
        dsimp only
        split
        · next heq =>
          cases heq
          exact absurd rfl hsign
        · rfl

theorem argumentsAt_eq (h : Answers (tokens.length + 1) sub f) :
    argumentsAt sub tokens = some (argsWith f tokens) := by
  rw [argumentsAt, partsAt_eq, argsWith]
  refine mapM_eq_some fun part hpart => ?_
  have hlength : part.length < tokens.length + 1 :=
    Nat.lt_succ_of_le (length_le_of_mem_filter hpart)
  have hne : part ≠ [] := by
    rintro rfl
    simp at hpart
  exact argumentAt_eq h part hne hlength

theorem listAt_eq (h : Answers (tokens.length + 1) sub f) :
    listAt sub tokens = some (listWith f tokens) := by
  rw [listAt, listWith]
  split
  · rfl
  · have hparts : ((splitTopLevel .comma tokens).filter (!·.isEmpty)).mapM sub =
        some (((splitTopLevel .comma tokens).filter (!·.isEmpty)).map f) :=
      mapM_eq_some fun part hpart => h part (Nat.lt_succ_of_le (length_le_of_mem_filter hpart))
    rw [partsAt_eq]
    simp only [Option.bind_eq_bind, Option.bind_some, hparts]
    rfl

theorem Answers.emptyOr {read : PlacedReading} {g : List Token → Expr} (h : Answers n read g)
    (empty : Expr) : Answers n (emptyOr empty read)
      fun inside => if inside.isEmpty then empty else g inside := by
  intro inside hinside
  rw [ByPlace.emptyOr, h inside hinside]
  dsimp only
  split <;> rfl

/-- Brackets from a place on are read as brackets at the front of what is left there. -/
theorem readGroupAt_eq {read : List Token → Checked α} {g : List Token → α}
    (hrest : tokens.drop place = t :: rest) (hopens : t.opens = true)
    (h : Answers rest.length read g) : ∃ group, readGroupAt read tokens place = some group ∧
      (bracketed? rest).map (fun (inside, behind) => (g inside, behind)) =
        group.map (fun (a, behind) => (a, tokens.drop behind)) ∧
      ∀ a behind, group = some (a, behind) → place < behind ∧ behind ≤ tokens.length := by
  obtain ⟨group, hgroup, hbracketed, hbounds⟩ := groupAt_eq hrest hopens
  rw [readGroupAt, hgroup]
  cases group with
  | none => exact ⟨none, rfl, by rw [hbracketed]; rfl, nofun⟩
  | some group =>
      obtain ⟨inside, behind⟩ := group
      have hread := h inside (length_lt_of_bracketed? hbracketed).1
      refine ⟨some (g inside, behind), ?_, by rw [hbracketed]; rfl, ?_⟩
      · simp [whenFound, hread]
      · rintro a last ⟨⟩
        exact hbounds inside behind rfl

/-- Reading goes on behind brackets where it goes on behind the place that closes them. -/
theorem readGroupAt_bind {β : Type} {read : List Token → Checked α} {g : List Token → α}
    (hrest : tokens.drop place = t :: rest) (hopens : t.opens = true)
    (h : Answers rest.length read g) (next : α → Nat → Checked (Option β))
    (goOn : α → List Token → Option β)
    (hnext : ∀ a behind, place < behind → behind ≤ tokens.length →
      next a behind = some (goOn a (tokens.drop behind))) :
    whenFound (readGroupAt read tokens place) (fun (a, behind) => next a behind) =
      some ((bracketed? rest).bind fun (inside, behind) => goOn (g inside) behind) := by
  obtain ⟨group, hgroup, hview, hbounds⟩ := readGroupAt_eq hrest hopens h
  rw [hgroup]
  cases group with
  | none =>
      rw [Option.map_none, Option.map_eq_none_iff] at hview
      rw [hview]
      rfl
  | some group =>
      obtain ⟨a, behind⟩ := group
      obtain ⟨⟨inside, left⟩, hbracketed, heq⟩ := Option.map_eq_some_iff.mp hview
      cases heq
      obtain ⟨hfirst, hlast⟩ := hbounds (g inside) behind rfl
      rw [hbracketed]
      exact hnext (g inside) behind hfirst hlast

/-- The expression at the front, and what is behind it at the place that is told. -/
theorem atomAt_eq (h : Answers tokens.length sub f) :
    ∃ read, atomAt sub tokens = some read ∧
      atomWith f tokens = read.map (fun (e, behind) => (e, tokens.drop behind)) ∧
      ∀ e behind, read = some (e, behind) → behind ≤ tokens.length := by
  cases tokens with
  | nil => exact ⟨none, rfl, rfl, nofun⟩
  | cons t ts =>
      have hfront : (t :: ts).drop 0 = t :: ts := rfl
      have hgroup {read : PlacedReading} {g : List Token → Expr} (hopens : t.opens = true)
          (hread : Answers ts.length read g) :
          ∃ group, readGroupAt read (t :: ts) 0 = some group ∧
            (bracketed? ts).map (fun (inside, behind) => (g inside, behind)) =
              group.map (fun (e, behind) => (e, (t :: ts).drop behind)) ∧
            ∀ e behind, group = some (e, behind) → behind ≤ (t :: ts).length := by
        obtain ⟨group, hgroup, hview, hbounds⟩ := readGroupAt_eq hfront hopens hread
        exact ⟨group, hgroup, hview, fun e behind h => (hbounds e behind h).2⟩
      have hone (e : Expr) : ∃ read, some (some (e, 1)) = some read ∧
          some (e, ts) = read.map (fun (e, behind) => (e, (t :: ts).drop behind)) ∧
          ∀ e behind, read = some (e, behind) → behind ≤ (t :: ts).length :=
        ⟨some (e, 1), rfl, rfl, fun _ _ h => by cases h; exact Nat.le_add_left 1 ts.length⟩
      have hsub := h.mono (Nat.le_succ ts.length)
      obtain ⟨kind, l⟩ := t
      cases kind with
      | name n =>
          by_cases hnone : n = "None"
          · subst hnone
            exact hone _
          by_cases htrue : n = "True"
          · subst htrue
            exact hone _
          by_cases hfalse : n = "False"
          · subst hfalse
            exact hone _
          · have hname := hone (.name n)
            simpa only [atomAt, atomWith, List.getElem?_cons_zero, hnone, htrue, hfalse] using hname
      | number text =>
          rw [atomAt, atomWith]
          dsimp only [List.getElem?_cons_zero]
          rw [numberLiteralAt_eq]
          cases hvalue : numberLiteral? text with
          | none => exact hone .unmodelled
          | some value => exact hone (.literal value)
      | str value plain => exact hone _
      | symbol s =>
          cases s with
          | openParen =>
              exact hgroup rfl (hsub.emptyOr (.tuple []))
          | openSquare =>
              have hlist : Answers ts.length (listAt sub) (listWith f) :=
                fun inside hinside => listAt_eq (hsub.mono hinside)
              exact hgroup rfl (hlist.emptyOr (.list []))
          | openBrace =>
              obtain ⟨close, hclose, hcut⟩ := closingAt_eq hfront rfl
              refine ⟨close.map fun last => (.unmodelled, last + 1), ?_, ?_, ?_⟩
              · rw [atomAt]
                dsimp only [List.getElem?_cons_zero]
                rw [hclose]
                rfl
              · rw [atomWith]
                dsimp only
                rw [hcut.cut_eq, Option.map_map, Option.map_map]
                rfl
              · intro e behind h
                obtain ⟨last, hlast, heq⟩ := Option.map_eq_some_iff.mp h
                cases heq
                exact (hcut.within last hlast).2
          | _ => exact ⟨none, rfl, rfl, nofun⟩
      | _ => exact ⟨none, rfl, rfl, nofun⟩

/-- By induction on the number of steps, of which each goes on to a later place. -/
theorem postfixAt_eq (h : Answers tokens.length sub f) {fuel : Nat} {e : Expr}
    (hplace : place ≤ tokens.length) (enough : tokens.length - place < fuel) :
    postfixAt sub tokens fuel e place = some (postfixWith f e (tokens.drop place)) := by
  induction fuel generalizing place e with
  | zero => omega
  | succ fuel ih =>
      rw [postfixAt]
      cases hrest : tokens.drop place with
      | nil =>
          have hend : tokens.length ≤ place := List.drop_eq_nil_iff.mp hrest
          rw [if_neg (Nat.not_lt.mpr hend), postfixWith.eq_def]
      | cons t ts =>
          have hlt : place < tokens.length := lt_length_of_drop hrest
          have hlength : ts.length < tokens.length := by
            rw [← drop_succ_of_drop hrest, List.length_drop]
            omega
          have hat : at? tokens place = some t := getElem?_of_drop hrest
          have hsub := h.mono (Nat.le_of_lt hlength)
          rw [if_pos hlt, hat, postfixWith_cons]
          obtain ⟨kind, l⟩ := t
          cases kind with
          | symbol s =>
              cases s with
              | openParen =>
                  have hargs : Answers ts.length (argumentsAt sub) (argsWith f) :=
                    fun inside hinside => argumentsAt_eq (hsub.mono hinside)
                  exact readGroupAt_bind hrest rfl hargs
                    (fun args => postfixAt sub tokens fuel (.call e args))
                    (fun args => postfixWith f (.call e args))
                    fun args behind hfirst hlast => ih hlast (by omega)
              | openSquare =>
                  exact readGroupAt_bind hrest rfl hsub
                    (fun index => postfixAt sub tokens fuel (.subscript e index))
                    (fun index => postfixWith f (.subscript e index))
                    fun index behind hfirst hlast => ih hlast (by omega)
              | dot =>
                  have hnext : tokens.drop (place + 1) = ts := drop_succ_of_drop hrest
                  have hword : tokens[place + 1]? = ts.head? := by rw [← List.head?_drop, hnext]
                  simp only [Option.bind_eq_bind, Option.bind_some, hword]
                  cases ts with
                  | nil => rfl
                  | cons u rest =>
                      obtain ⟨kind, l⟩ := u
                      cases kind with
                      | name word =>
                          have hlt := lt_length_of_drop hnext
                          have hread := ih (e := .member e word) hlt (by omega)
                          rwa [drop_succ_of_drop hnext] at hread
                      | _ => rfl
              | _ => rfl
          | _ => rfl

theorem operandAt_eq (h : Answers tokens.length sub f) :
    operandAt sub tokens = some (operandWith f tokens) := by
  obtain ⟨read, hread, hatom, hbounds⟩ := atomAt_eq h
  rw [operandAt, operandWith, hread, hatom]
  cases read with
  | none => rfl
  | some read =>
      obtain ⟨e, behind⟩ := read
      have hpostfix : postfixAt sub tokens (tokens.length + 1) e behind =
          some (postfixWith f e (tokens.drop behind)) :=
        postfixAt_eq h (hbounds e behind rfl) (by omega)
      simp [whenFound, hpostfix]

theorem tuplePartsAt_eq {parts : List (List Token)} (hparts : parts ≠ []) :
    tuplePartsAt parts = some (tupleParts parts) := by
  rw [tuplePartsAt, tupleParts]
  split
  · have hlength := List.length_pos_iff.mpr hparts
    rw [less?_of_le hlength]
    simp only [Option.bind_eq_bind, Option.bind_some]
    rw [slice?_of_le (Nat.zero_le _) (Nat.sub_le _ _), List.drop_zero, List.dropLast_eq_take]
  · rfl

/-- One step by places is one step, where the parts are read alike. -/
theorem readWithAt_eq (h : Answers tokens.length sub f) :
    readWithAt sub tokens = some (readWith f tokens) := by
  have hparts {separator : Symbol} {parts : List (List Token)}
      (hsubset : parts ⊆ splitTopLevel separator tokens)
      (hseveral : (splitTopLevel separator tokens).length > 1) :
      parts.mapM sub = some (parts.map f) := by
    refine mapM_eq_some fun part hpart => h part ?_
    have := length_le_of_mem_splitTopLevel (hsubset hpart)
    omega
  unfold readWithAt readWith
  dsimp only
  split
  · rfl
  next hplain =>
  rw [partsAt_eq, partsAt_eq]
  simp only [Option.bind_eq_bind, Option.bind_some]
  split
  · next hseveral =>
    have hitems : tuplePartsAt (splitTopLevel .comma tokens) =
        some (tupleParts (splitTopLevel .comma tokens)) := tuplePartsAt_eq splitFrom_ne_nil
    rw [hitems]
    simp only [Option.bind_some]
    rw [hparts (fun part => mem_of_mem_tupleParts) hseveral]
    rfl
  split
  · next hseveral =>
    rw [hparts (List.Subset.refl _) hseveral]
    rfl
  · have hoperand := operandAt_eq h
    cases tokens with
    | nil => exact absurd rfl hplain
    | cons t ts =>
        have hrest : slice? (t :: ts) 1 (t :: ts).length = some ts :=
          slice?_to_end rfl (by simp)
        have hsub : sub ts = some (f ts) := h ts (Nat.lt_succ_self ts.length)
        obtain ⟨kind, l⟩ := t
        simp only [at?, List.getElem?_cons_zero, Option.bind_some, hrest, hsub, hoperand]
        by_cases hminus : kind = .symbol .minus
        · subst hminus
          cases hvalue : f ts <;> simp [Token.isSymbol, hvalue, negated]
        by_cases hplus : kind = .symbol .plus
        · subst hplus
          rfl
        · simp [Token.isSymbol, hminus, hplus]

end Steps

/-- By induction on the number of steps: the parts of tokens are shorter than they are. -/
theorem readFuelAt_eq {tokens : List Token} {fuel : Nat} (enough : tokens.length < fuel) :
    readFuelAt fuel tokens = some (ofTokens tokens) := by
  induction fuel generalizing tokens with
  | zero => omega
  | succ fuel ih =>
      rw [readFuelAt, ofTokens_eq]
      exact readWithAt_eq fun ts hts => ih (by omega)

/-- Of all tokens the expression is read without a look, a slice or a difference that fails. -/
theorem ofTokensAt_eq (tokens : List Token) : ofTokensAt tokens = some (ofTokens tokens) :=
  readFuelAt_eq (Nat.lt_succ_self tokens.length)

end DeclaredSchema.Source.ByPlace
