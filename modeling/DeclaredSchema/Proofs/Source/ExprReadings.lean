import DeclaredSchema.Proofs.Source.LiteralCuts
import Mathlib.Algebra.Order.BigOperators.Group.List

/-! # What the reading of an expression depends on

Reading an expression looks at the kinds of its tokens and passes only shorter parts on. So the
lines of the tokens do not matter (`ofTokens_of_kinds`), and one step of reading tells what any
tokens stand for, however many steps there are left (`ofTokens_eq`).
-/

namespace DeclaredSchema.Source

/-- The token on another line. -/
def Token.on (line : Nat) (t : Token) : Token := ⟨t.kind, line⟩

section Cuts

variable {separator : Symbol} {line depth : Nat} {ts part inside rest : List Token}

/-! ## Cuts of tokens on another line -/

theorem anyFrom_on {p : Token → Bool} (hp : ∀ t : Token, p (t.on line) = p t) (depth : Nat)
    (ts : List Token) : anyFrom p depth (ts.map (Token.on line)) = anyFrom p depth ts := by
  induction ts generalizing depth with
  | nil => rfl
  | cons t ts ih =>
      have hopens : (t.on line).opens = t.opens := rfl
      have hcloses : (t.on line).closes = t.closes := rfl
      simp only [List.map_cons, anyFrom, hopens, hcloses, hp, ih]

theorem consToFirst_on (t : Token) (parts : List (List Token)) :
    consToFirst (t.on line) (parts.map (List.map (Token.on line))) =
      (consToFirst t parts).map (List.map (Token.on line)) := by
  cases parts <;> rfl

theorem splitFrom_on (separator : Symbol) (line depth : Nat) (ts : List Token) :
    splitFrom separator depth (ts.map (Token.on line)) =
      (splitFrom separator depth ts).map (List.map (Token.on line)) := by
  induction ts generalizing depth with
  | nil => rfl
  | cons t ts ih =>
      have hopens : (t.on line).opens = t.opens := rfl
      have hcloses : (t.on line).closes = t.closes := rfl
      have hsymbol : (t.on line).isSymbol separator = t.isSymbol separator := rfl
      simp only [List.map_cons, splitFrom, hopens, hcloses, hsymbol, ih, consToFirst_on]
      split
      · rfl
      split
      · rfl
      split
      · rfl
      · rfl

theorem splitTopLevel_on (separator : Symbol) (line : Nat) (ts : List Token) :
    splitTopLevel separator (ts.map (Token.on line)) =
      (splitTopLevel separator ts).map (List.map (Token.on line)) :=
  splitFrom_on separator line 0 ts

theorem bracketedFrom?_on (line depth : Nat) (ts : List Token) :
    bracketedFrom? depth (ts.map (Token.on line)) = (bracketedFrom? depth ts).map
      fun (inside, rest) => (inside.map (Token.on line), rest.map (Token.on line)) := by
  induction ts generalizing depth with
  | nil => rfl
  | cons t ts ih =>
      have hopens : (t.on line).opens = t.opens := rfl
      have hcloses : (t.on line).closes = t.closes := rfl
      have hcons (o : Option (List Token × List Token)) :
          (o.map fun (a, b) => (a.map (Token.on line), b.map (Token.on line))).map
              (fun (a, b) => (t.on line :: a, b)) =
            (o.map fun (a, b) => (t :: a, b)).map
              fun (a, b) => (a.map (Token.on line), b.map (Token.on line)) := by
        cases o <;> rfl
      simp only [List.map_cons, bracketedFrom?, hopens, hcloses, ih, hcons]
      split
      · rfl
      split
      · split <;> rfl
      · rfl

theorem bracketed?_on (line : Nat) (ts : List Token) :
    bracketed? (ts.map (Token.on line)) = (bracketed? ts).map
      fun group => (group.1.map (Token.on line), group.2.map (Token.on line)) :=
  bracketedFrom?_on line 0 ts

/-! ## Parts are shorter -/

theorem splitFrom_ne_nil : splitFrom separator depth ts ≠ [] := by
  obtain ⟨first, others, hparts⟩ := exists_splitFrom separator depth ts
  rw [hparts]
  exact List.cons_ne_nil first others

theorem length_consToFirst (t : Token) {parts : List (List Token)} (hne : parts ≠ []) {n : Nat}
    (h : (parts.map List.length).sum + parts.length = n) :
    ((consToFirst t parts).map List.length).sum + (consToFirst t parts).length = n + 1 := by
  cases parts with
  | nil => exact absurd rfl hne
  | cons part parts =>
      simp only [consToFirst, List.map_cons, List.sum_cons, List.length_cons] at h ⊢
      omega

/-- The tokens of the parts and the separators between them are all tokens. -/
theorem length_splitFrom (separator : Symbol) (depth : Nat) (ts : List Token) :
    ((splitFrom separator depth ts).map List.length).sum + (splitFrom separator depth ts).length =
      ts.length + 1 := by
  fun_induction splitFrom separator depth ts with
  | case1 => rfl
  | case4 depth t ts hopens hcloses hseparator ih =>
      simp only [List.map_cons, List.sum_cons, List.length_nil, List.length_cons]
      omega
  | case2 _ t _ _ ih | case3 _ t _ _ _ ih | case5 _ t _ _ _ _ ih =>
      exact length_consToFirst t splitFrom_ne_nil ih

theorem length_le_of_mem_splitTopLevel (h : part ∈ splitTopLevel separator ts) :
    part.length + (splitTopLevel separator ts).length ≤ ts.length + 1 := by
  have hsum := length_splitFrom separator 0 ts
  have hpart : part.length ≤ ((splitTopLevel separator ts).map List.length).sum :=
    List.single_le_sum (fun _ _ => Nat.zero_le _) _ (List.mem_map_of_mem h)
  rw [splitTopLevel] at hpart ⊢
  omega

/-! ## Cuts of two texts with a separator between them -/

theorem foldr_consToFirst_append (ts : List Token) {parts : List (List Token)} (hne : parts ≠ [])
    (others : List (List Token)) :
    ts.foldr consToFirst (parts ++ others) = ts.foldr consToFirst parts ++ others := by
  cases parts with
  | nil => exact absurd rfl hne
  | cons part parts =>
      rw [List.cons_append, foldr_consToFirst, foldr_consToFirst, List.cons_append]

/-- Tokens with matching brackets are cut apart from what is behind a separator. -/
theorem Balanced.splitTopLevel_append {P : Token → Prop} (h : Balanced P ts) {t : Token}
    (hopens : t.opens = false) (hcloses : t.closes = false) (ht : t.isSymbol separator = true)
    (us : List Token) :
    splitTopLevel separator (ts ++ t :: us) =
      splitTopLevel separator ts ++ splitTopLevel separator us := by
  simp only [splitTopLevel]
  induction h with
  | nil =>
      rw [List.nil_append, splitFrom.eq_2, hopens, hcloses, ht]
      rfl
  | @plain P u ts huopens hucloses _ _ _ ih =>
      rw [List.cons_append, splitFrom, splitFrom, huopens, hucloses, ih]
      by_cases hu : u.isSymbol separator = true
      · simp [hu]
      · simpa [hu] using foldr_consToFirst_append [u] splitFrom_ne_nil _
  | @group P Q first last inside ts hfirst hlast hinside _ _ ih =>
      have hgroup (us : List Token) : splitFrom separator 0 (first :: (inside ++ last :: us)) =
          (first :: (inside ++ [last])).foldr consToFirst (splitFrom separator 0 us) := by
        have hinside := hinside.depthBehind?_eq 0
        have hclosed : depthBehind? 0 (first :: (inside ++ [last])) = some 0 :=
          depthBehind?_group hfirst hlast hinside 0 []
        have hnone : anyFrom (·.isSymbol separator) 0 (first :: (inside ++ [last])) = false :=
          anyFrom_group hfirst hlast hinside []
        have hsplit := splitFrom_append hclosed hnone us
        rwa [List.cons_append, List.append_assoc, List.singleton_append] at hsplit
      rw [List.cons_append, List.append_assoc, List.cons_append, hgroup, hgroup, ih,
        foldr_consToFirst_append _ splitFrom_ne_nil]

theorem length_lt_of_bracketed? (h : bracketed? ts = some (inside, rest)) :
    inside.length < ts.length ∧ rest.length < ts.length := by
  obtain ⟨close, rfl, -⟩ := exists_of_bracketedFrom? h
  rw [List.length_append, List.length_cons]
  omega

end Cuts

namespace Expr

variable {sub sub' : List Token → Expr} {line : Nat} {ts : List Token}

/-! ## One step on another line -/

/-- Two ways to read the parts of tokens that give the same on two lines. -/
def AgreeBelow (n line : Nat) (sub sub' : List Token → Expr) : Prop :=
  ∀ as : List Token, as.length < n → sub' (as.map (Token.on line)) = sub as

theorem AgreeBelow.mono {n m : Nat} (h : AgreeBelow n line sub sub') (hm : m ≤ n) :
    AgreeBelow m line sub sub' := fun as has => h as (Nat.lt_of_lt_of_le has hm)

theorem AgreeBelow.map {n : Nat} (h : AgreeBelow n line sub sub') {parts : List (List Token)}
    (hparts : ∀ part ∈ parts, part.length < n) :
    (parts.map (List.map (Token.on line))).map sub' = parts.map sub := by
  rw [List.map_map]
  exact List.map_congr_left fun part hpart => h part (hparts part hpart)

theorem filter_isEmpty_on (parts : List (List Token)) :
    (parts.map (List.map (Token.on line))).filter (!·.isEmpty) =
      (parts.filter (!·.isEmpty)).map (List.map (Token.on line)) := by
  rw [List.filter_map]
  congr 1
  exact List.filter_congr fun part _ => by simp

theorem length_le_of_mem_filter {separator : Symbol} {part : List Token}
    (h : part ∈ (splitTopLevel separator ts).filter (!·.isEmpty)) : part.length ≤ ts.length := by
  have hmem := List.mem_of_mem_filter h
  have := length_le_of_mem_splitTopLevel hmem
  have := List.length_pos_of_mem hmem
  omega

theorem argsWith_on (h : AgreeBelow (ts.length + 1) line sub sub') :
    argsWith sub' (ts.map (Token.on line)) = argsWith sub ts := by
  rw [argsWith, argsWith, splitTopLevel_on, filter_isEmpty_on, List.map_map]
  refine List.map_congr_left fun part hpart => ?_
  have hlength : part.length < ts.length + 1 := Nat.lt_succ_of_le (length_le_of_mem_filter hpart)
  dsimp only [Function.comp_apply]
  split
  · next n l l' v value hkeyword =>
      match part, hkeyword, hlength with
      | ⟨_, _⟩ :: ⟨_, _⟩ :: w :: more, hkeyword, hlength =>
          simp only [List.map_cons, Token.on, List.cons.injEq, Token.mk.injEq] at hkeyword
          obtain ⟨⟨rfl, -⟩, ⟨rfl, -⟩, rfl, rfl⟩ := hkeyword
          have hshorter : (w :: more).length < ts.length + 1 :=
            Nat.lt_of_le_of_lt (Nat.le_add_right _ 2) hlength
          exact congrArg (Prod.mk (some n)) (h (w :: more) hshorter)
  · next hplain =>
      rw [h part hlength]
      split
      · next n l l' v value => exact absurd rfl (hplain n line line (v.on line) _)
      · rfl

theorem listWith_on (h : AgreeBelow (ts.length + 1) line sub sub') :
    listWith sub' (ts.map (Token.on line)) = listWith sub ts := by
  have hfor : anyTopLevel (·.isName "for") (ts.map (Token.on line)) =
      anyTopLevel (·.isName "for") ts := anyFrom_on (fun _ => rfl) 0 ts
  rw [listWith, listWith, hfor, splitTopLevel_on, filter_isEmpty_on,
    h.map fun part hpart => Nat.lt_succ_of_le (length_le_of_mem_filter hpart)]

/-- A group at the front of tokens is the group on another line. -/
theorem group_on {f g : List Token → Expr}
    (h : ∀ inside : List Token, inside.length < ts.length →
      g (inside.map (Token.on line)) = f inside) :
    (bracketed? (ts.map (Token.on line))).map (fun group => (g group.1, group.2)) =
      ((bracketed? ts).map fun group => (f group.1, group.2)).map
        fun read => (read.1, read.2.map (Token.on line)) := by
  rw [bracketed?_on]
  cases hgroup : bracketed? ts with
  | none => rfl
  | some group => simp [h group.1 (length_lt_of_bracketed? hgroup).1]

theorem atomWith_on (h : AgreeBelow ts.length line sub sub') :
    atomWith sub' (ts.map (Token.on line)) =
      (atomWith sub ts).map fun (e, rest) => (e, rest.map (Token.on line)) := by
  cases ts with
  | nil => rfl
  | cons t ts =>
      obtain ⟨kind, l⟩ := t
      have hlater {inside : List Token} (hlength : inside.length < ts.length) :
          inside.length < (⟨kind, l⟩ :: ts : List Token).length := Nat.lt_succ_of_lt hlength
      rw [List.map_cons, atomWith, atomWith]
      dsimp only [Token.on]
      split
      · rfl
      · rfl
      · rfl
      · rfl
      · split <;> rfl
      · rfl
      · refine group_on (f := fun inside => if inside.isEmpty then .tuple [] else sub inside)
          (g := fun inside => if inside.isEmpty then .tuple [] else sub' inside)
          fun inside hinside => ?_
        rw [List.isEmpty_map, h inside (hlater hinside)]
      · refine group_on
          (f := fun inside => if inside.isEmpty then .list [] else listWith sub inside)
          (g := fun inside => if inside.isEmpty then .list [] else listWith sub' inside)
          fun inside hinside => ?_
        rw [List.isEmpty_map, listWith_on (h.mono (Nat.succ_le_of_lt (hlater hinside)))]
      · exact group_on (f := fun _ => .unmodelled) (g := fun _ => .unmodelled) fun _ _ => rfl
      · rfl

/-- What follows an expression, by its first token. -/
theorem postfixWith_cons (sub : List Token → Expr) (e : Expr) (t : Token) (ts : List Token) :
    postfixWith sub e (t :: ts) = match t.kind with
      | .symbol .openParen => (bracketed? ts).bind fun (inside, rest) =>
          postfixWith sub (.call e (argsWith sub inside)) rest
      | .symbol .openSquare => (bracketed? ts).bind fun (inside, rest) =>
          postfixWith sub (.subscript e (sub inside)) rest
      | .symbol .dot => match ts with
          | ⟨.name n, _⟩ :: rest => postfixWith sub (.member e n) rest
          | _ => none
      | _ => none := by
  obtain ⟨kind, l⟩ := t
  rw [postfixWith.eq_def]
  cases kind with
  | symbol s =>
      cases s with
      | openParen | openSquare =>
          dsimp only
          split
          · next hgroup =>
              rw [hgroup]
              rfl
          · next hgroup =>
              rw [hgroup]
              rfl
      | _ => rfl
  | _ => rfl

theorem postfixWith_on (h : AgreeBelow ts.length line sub sub') (e : Expr) :
    postfixWith sub' e (ts.map (Token.on line)) = postfixWith sub e ts := by
  induction hn : ts.length using Nat.strong_induction_on generalizing ts e with
  | _ n ih =>
      subst hn
      cases ts with
      | nil => rw [List.map_nil, postfixWith, postfixWith]
      | cons t ts =>
          obtain ⟨kind, l⟩ := t
          have hrest {rest : List Token} (hlength : rest.length < (⟨kind, l⟩ :: ts).length)
              (e : Expr) : postfixWith sub' e (rest.map (Token.on line)) =
                postfixWith sub e rest :=
            ih rest.length hlength (h.mono (Nat.le_of_lt hlength)) e rfl
          have hgroup (f g : List Token → Expr) (hfg : ∀ inside : List Token,
              inside.length < ts.length → g (inside.map (Token.on line)) = f inside) :
              ((bracketed? (ts.map (Token.on line))).bind fun group =>
                  postfixWith sub' (g group.1) group.2) =
                (bracketed? ts).bind fun group => postfixWith sub (f group.1) group.2 := by
            rw [bracketed?_on]
            cases hbracketed : bracketed? ts with
            | none => rfl
            | some group =>
                obtain ⟨hinside, hbehind⟩ := length_lt_of_bracketed? hbracketed
                simp [hfg group.1 hinside, hrest (Nat.lt_succ_of_lt hbehind)]
          rw [List.map_cons, postfixWith_cons, postfixWith_cons]
          dsimp only [Token.on]
          split
          · refine hgroup (fun inside => .call e (argsWith sub inside))
              (fun inside => .call e (argsWith sub' inside)) fun inside hinside => ?_
            rw [argsWith_on (h.mono (Nat.succ_le_of_lt (Nat.lt_succ_of_lt hinside)))]
          · refine hgroup (fun inside => .subscript e (sub inside))
              (fun inside => .subscript e (sub' inside)) fun inside hinside => ?_
            rw [h inside (Nat.lt_succ_of_lt hinside)]
          · cases ts with
            | nil => rfl
            | cons u us =>
                obtain ⟨kind', l'⟩ := u
                cases kind' with
                | name n => exact hrest (Nat.lt_succ_of_lt (Nat.lt_succ_self us.length)) _
                | _ => rfl
          · rfl

/-- What is read of a group at the front leaves what stands behind the group. -/
theorem bracketed?_of_map {f : List Token × List Token → Expr × List Token}
    (hf : ∀ group, (f group).2 = group.2) {e : Expr} {rest : List Token}
    (h : (bracketed? ts).map f = some (e, rest)) :
    ∃ inside, bracketed? ts = some (inside, rest) ∧ (f (inside, rest)).1 = e := by
  obtain ⟨⟨inside, behind⟩, hbracketed, heq⟩ := Option.map_eq_some_iff.mp h
  obtain rfl : behind = rest := (hf (inside, behind)).symm.trans (congrArg Prod.snd heq)
  exact ⟨inside, hbracketed, congrArg Prod.fst heq⟩

theorem length_lt_of_atomWith {e : Expr} {rest : List Token}
    (h : atomWith sub ts = some (e, rest)) : rest.length < ts.length := by
  cases ts with
  | nil => cases h
  | cons t ts =>
      refine Nat.lt_succ_of_le ?_
      rw [atomWith] at h
      split at h
      case h_7 | h_8 | h_9 =>
        obtain ⟨_, hbracketed, -⟩ := bracketed?_of_map (fun _ => rfl) h
        exact Nat.le_of_lt (length_lt_of_bracketed? hbracketed).2
      case h_5 => split at h <;> cases h <;> exact Nat.le_refl _
      case h_10 => cases h
      all_goals
        cases h
        exact Nat.le_refl _

theorem operandWith_on (h : AgreeBelow ts.length line sub sub') :
    operandWith sub' (ts.map (Token.on line)) = operandWith sub ts := by
  rw [operandWith, operandWith, atomWith_on h]
  cases hatom : atomWith sub ts with
  | none => rfl
  | some read =>
      have hrest := Nat.le_of_lt (length_lt_of_atomWith hatom)
      simp only [Option.map_some, postfixWith_on (h.mono hrest)]

theorem tupleParts_on (parts : List (List Token)) :
    tupleParts (parts.map (List.map (Token.on line))) =
      (tupleParts parts).map (List.map (Token.on line)) := by
  simp only [tupleParts, List.getLast?_map, Option.any_map, List.isEmpty_map]
  split
  · rw [List.map_dropLast]
  · rfl

theorem mem_of_mem_tupleParts {parts : List (List Token)} {part : List Token}
    (h : part ∈ tupleParts parts) : part ∈ parts := by
  rw [tupleParts] at h
  split at h
  · exact List.dropLast_subset parts h
  · exact h

/-- Reading on another line is reading. -/
theorem readWith_on (h : AgreeBelow ts.length line sub sub') :
    readWith sub' (ts.map (Token.on line)) = readWith sub ts := by
  have hkeyword : anyTopLevel isOperatorKeyword (ts.map (Token.on line)) =
      anyTopLevel isOperatorKeyword ts := anyFrom_on (fun _ => rfl) 0 ts
  have hshorter {separator : Symbol} {part : List Token}
      (hpart : part ∈ splitTopLevel separator ts)
      (hseveral : (splitTopLevel separator ts).length > 1) : part.length < ts.length := by
    have := length_le_of_mem_splitTopLevel hpart
    omega
  unfold readWith
  dsimp only
  rw [List.isEmpty_map, hkeyword, splitTopLevel_on, splitTopLevel_on, List.length_map,
    List.length_map]
  split
  · rfl
  split
  · next hseveral =>
      rw [tupleParts_on, h.map fun part hpart => hshorter (mem_of_mem_tupleParts hpart) hseveral]
  split
  · next hseveral => rw [h.map fun part hpart => hshorter hpart hseveral]
  · have hoperand := operandWith_on h
    cases ts with
    | nil => exact hoperand
    | cons t ts =>
        obtain ⟨kind, l⟩ := t
        have htail := h ts (Nat.lt_succ_self ts.length)
        rw [List.map_cons] at hoperand ⊢
        split
        · next heq =>
            cases heq
            rw [htail]
        · next heq =>
            cases heq
            exact htail
        · next hminus hplus =>
            rw [hoperand]
            split
            · next heq =>
                cases heq
                exact absurd rfl (hminus _ _)
            · next heq =>
                cases heq
                exact absurd rfl (hplus _ _)
            · rfl

/-! ## Whole readings -/

/-- The lines do not matter, and neither do steps beyond the number of tokens. -/
theorem readFuel_on {n m : Nat} (hn : ts.length ≤ n) (hm : ts.length ≤ m) :
    readFuel m (ts.map (Token.on line)) = readFuel n ts := by
  induction n generalizing m ts with
  | zero =>
      obtain rfl : ts = [] := List.length_eq_zero_iff.mp (Nat.le_zero.mp hn)
      cases m <;> rfl
  | succ n ih =>
      cases m with
      | zero =>
          obtain rfl : ts = [] := List.length_eq_zero_iff.mp (Nat.le_zero.mp hm)
          rfl
      | succ m =>
          exact readWith_on fun as has => ih (by omega) (by omega)

/-- Steps beyond the number of tokens do not matter. -/
theorem readFuel_eq {n : Nat} (hn : ts.length ≤ n) : readFuel n ts = ofTokens ts := by
  have hmany : readFuel ts.length (ts.map (Token.on 0)) = readFuel n ts :=
    readFuel_on hn (Nat.le_refl ts.length)
  have hfew : readFuel ts.length (ts.map (Token.on 0)) = ofTokens ts :=
    readFuel_on (Nat.le_refl ts.length) (Nat.le_refl ts.length)
  rw [← hmany, hfew]

theorem ofTokens_on (line : Nat) (ts : List Token) :
    ofTokens (ts.map (Token.on line)) = ofTokens ts := by
  rw [ofTokens, List.length_map]
  exact readFuel_on (Nat.le_refl ts.length) (Nat.le_refl ts.length)

/-- An expression stands for its kinds of tokens, whatever lines they are on. -/
theorem ofTokens_of_kinds {us : List Token} (h : kindsOf us = kindsOf ts) :
    ofTokens us = ofTokens ts := by
  have hon (ts : List Token) : ts.map (Token.on 0) = (kindsOf ts).map (⟨·, 0⟩) := by
    rw [kindsOf, List.map_map]
    rfl
  rw [← ofTokens_on 0 us, ← ofTokens_on 0 ts, hon, hon, h]

/-- What tokens stand for, by what their parts stand for. -/
theorem ofTokens_eq (ts : List Token) : ofTokens ts = readWith ofTokens ts := by
  calc ofTokens ts
      = readFuel (ts.length + 1) ts := (readFuel_eq (Nat.le_succ ts.length)).symm
    _ = readWith ofTokens (ts.map (Token.on 0)) := by
        refine (readWith_on fun as has => ?_).symm
        rw [ofTokens_on, readFuel_eq (Nat.le_of_lt has)]
    _ = readWith ofTokens ts := readWith_on fun as _ => ofTokens_on 0 as

end Expr

end DeclaredSchema.Source
