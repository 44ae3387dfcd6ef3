import DeclaredSchema.Proofs.Source.Ahead
import DeclaredSchema.Proofs.Source.LiteralTokens
import DeclaredSchema.Proofs.Source.PrintedExprs
import DeclaredSchema.Proofs.Source.Separators

/-! # What is cut out as a literal

An expression is read by cutting its tokens at commas outside of brackets and at the bracket that
ends a group, whatever bracket that is and whether anything stands between two commas or not. What
is a literal to such a reading is told here for all tokens, be they an expression or not.
-/

namespace DeclaredSchema.Source

open Printed (commaJoined commaTail)

/-! ## Parts and groups -/

section Parts

variable {separator : Symbol} {depth : Nat} {t : Token} {ts part : List Token}

theorem exists_consToFirst (t : Token) (parts : List (List Token)) :
    ∃ part others, consToFirst t parts = part :: others := by
  cases parts <;> exact ⟨_, _, rfl⟩

theorem exists_splitFrom (separator : Symbol) (depth : Nat) (ts : List Token) :
    ∃ part others, splitFrom separator depth ts = part :: others := by
  fun_induction splitFrom separator depth ts with
  | case1 => exact ⟨_, _, rfl⟩
  | case4 => exact ⟨_, _, rfl⟩
  | _ => exact exists_consToFirst _ _

/-- Parts with commas between them are what they were cut from. -/
theorem commaJoined_splitFrom (depth : Nat) (ts : List Token) :
    commaJoined ((splitFrom .comma depth ts).map kindsOf) = kindsOf ts := by
  obtain ⟨separators, h⟩ := exists_interleaves_splitFrom .comma depth ts
  exact h.intercalate_kindsOf

theorem exists_of_consToFirst {others : List (List Token)}
    (h : consToFirst t (splitFrom separator depth ts) = part :: others) :
    ∃ first, splitFrom separator depth ts = first :: others ∧ part = t :: first := by
  obtain ⟨first, rest, hparts⟩ := exists_splitFrom separator depth ts
  rw [hparts] at h ⊢
  cases h
  exact ⟨first, rfl, rfl⟩

/-- A part is not cut again. -/
theorem splitFrom_of_parts {others : List (List Token)}
    (h : splitFrom separator depth ts = part :: others) :
    splitFrom separator depth part = [part] ∧ ∀ p ∈ others, splitFrom separator 0 p = [p] := by
  fun_induction splitFrom separator depth ts generalizing part others with
  | case1 depth =>
      cases h
      exact ⟨rfl, List.forall_mem_nil _⟩
  | case2 depth t ts hopens ih =>
      obtain ⟨first, hparts, rfl⟩ := exists_of_consToFirst h
      obtain ⟨hfirst, hothers⟩ := ih hparts
      exact ⟨by rw [splitFrom, if_pos hopens, hfirst, consToFirst], hothers⟩
  | case3 depth t ts hopens hcloses ih =>
      obtain ⟨first, hparts, rfl⟩ := exists_of_consToFirst h
      obtain ⟨hfirst, hothers⟩ := ih hparts
      exact ⟨by rw [splitFrom, if_neg hopens, if_pos hcloses, hfirst, consToFirst], hothers⟩
  | case4 depth t ts hopens hcloses hseparator ih =>
      cases h
      obtain ⟨first, others, hparts⟩ := exists_splitFrom separator 0 ts
      obtain ⟨hfirst, hothers⟩ := ih hparts
      rw [hparts]
      exact ⟨rfl, List.forall_mem_cons.mpr ⟨hfirst, hothers⟩⟩
  | case5 depth t ts hopens hcloses hplain ih =>
      obtain ⟨first, hparts, rfl⟩ := exists_of_consToFirst h
      obtain ⟨hfirst, hothers⟩ := ih hparts
      exact ⟨by rw [splitFrom, if_neg hopens, if_neg hcloses, if_neg hplain, hfirst, consToFirst],
        hothers⟩

/-- A single part is all that there was to cut. -/
theorem eq_of_splitFrom (h : splitFrom separator depth ts = [part]) : part = ts := by
  obtain ⟨separators, hbetween, -, hjoined⟩ := exists_interleaves_splitFrom separator depth ts
  rw [h] at hbetween hjoined
  obtain rfl : separators = [] := List.length_eq_zero_iff.mp (Nat.succ.inj hbetween)
  simpa [interleaved] using hjoined

theorem splitTopLevel_of_length (h : ¬ (splitTopLevel separator ts).length > 1) :
    splitTopLevel separator ts = [ts] := by
  obtain ⟨first, others, hparts⟩ := exists_splitFrom separator 0 ts
  rw [splitTopLevel, hparts] at h ⊢
  obtain rfl : others = [] := by simpa using h
  rw [eq_of_splitFrom hparts]

/-- A token in front that is cut from nothing. -/
theorem splitTopLevel_tail (h : splitTopLevel separator (t :: ts) = [t :: ts])
    (hopens : t.opens = false) (hcloses : t.closes = false)
    (hseparator : t.isSymbol separator = false) : splitTopLevel separator ts = [ts] := by
  rw [splitTopLevel, splitFrom, hopens, hcloses, hseparator] at h
  obtain ⟨first, hparts, hfirst⟩ := exists_of_consToFirst h
  rw [splitTopLevel, hparts, (List.cons.inj hfirst).2]

theorem splitTopLevel_of_mem (h : part ∈ splitTopLevel separator ts) :
    splitTopLevel separator part = [part] := by
  obtain ⟨first, others, hparts⟩ := exists_splitFrom separator 0 ts
  obtain ⟨hfirst, hothers⟩ := splitFrom_of_parts hparts
  rw [splitTopLevel, hparts] at h
  rcases List.mem_cons.mp h with rfl | h
  · exact hfirst
  · exact hothers part h

/-- A group ends with a closing bracket. -/
theorem exists_of_bracketedFrom? {inside rest : List Token}
    (h : bracketedFrom? depth ts = some (inside, rest)) :
    ∃ close, ts = inside ++ close :: rest ∧ close.closes = true := by
  induction ts generalizing depth inside with
  | nil => cases h
  | cons t ts ih =>
      have step {d : Nat} {f : List Token × List Token → List Token × List Token}
          (hf : ∀ a b, f (a, b) = (t :: a, b))
          (h : (bracketedFrom? d ts).map f = some (inside, rest)) :
          ∃ close, t :: ts = inside ++ close :: rest ∧ close.closes = true := by
        obtain ⟨⟨a, b⟩, hab, he⟩ := Option.map_eq_some_iff.mp h
        rw [hf] at he
        cases he
        obtain ⟨close, rfl, hcloses⟩ := ih hab
        exact ⟨close, rfl, hcloses⟩
      unfold bracketedFrom? at h
      split at h
      · exact step (fun _ _ => rfl) h
      · split at h
        · next hcloses =>
          split at h
          · cases h
            exact ⟨t, rfl, hcloses⟩
          · exact step (fun _ _ => rfl) h
        · exact step (fun _ _ => rfl) h

end Parts

/-! ## Literals by their parts -/

/-- The tokens are cut out as a literal with that value. Any bracket closes a group, and nothing at
all may stand between the commas of a list. -/
inductive Taken : List Token.Kind → Literal → Prop
  | token {k : Token.Kind} {l : Literal} (h : k.literal? = some l) : Taken [k] l
  | minus {ks : List Token.Kind} {l m : Literal} (h : Taken ks l) (opposite : l.negate? = some m) :
      Taken (.symbol .minus :: ks) m
  | plus {ks : List Token.Kind} {l : Literal} (h : Taken ks l) : Taken (.symbol .plus :: ks) l
  | enclosed {ks : List Token.Kind} {l : Literal} {close : Symbol} (h : Taken ks l)
      (closes : close.closes?.isSome) : Taken (.symbol .openParen :: (ks ++ [.symbol close])) l
  | tuple {items : List LiteralItem} {trailing : Bool} {close : Symbol}
      (h : ∀ i ∈ items, Taken i.kinds i.value) (alone : items.length = 1 → trailing = true)
      (behind : trailing = true → items ≠ []) (closes : close.closes?.isSome) :
      Taken (.symbol .openParen :: (series items trailing ++ [.symbol close])) (listed items)
  | list {parts : List (List Token.Kind)} {items : List LiteralItem} {close : Symbol}
      (h : ∀ i ∈ items, Taken i.kinds i.value)
      (hparts : parts.filter (!·.isEmpty) = items.map (·.kinds)) (closes : close.closes?.isSome) :
      Taken (.symbol .openSquare :: (commaJoined parts ++ [.symbol close])) (listed items)

theorem Taken.emptyTuple {close : Symbol} (closes : close.closes?.isSome) :
    Taken [.symbol .openParen, .symbol close] (.list []) := by
  have hall : ∀ i ∈ ([] : List LiteralItem), Taken i.kinds i.value := nofun
  have htrailing : false = true → ([] : List LiteralItem) ≠ [] := nofun
  exact .tuple hall nofun htrailing closes

theorem Taken.emptyList {close : Symbol} (closes : close.closes?.isSome) :
    Taken [.symbol .openSquare, .symbol close] (.list []) := by
  have hall : ∀ i ∈ ([] : List LiteralItem), Taken i.kinds i.value := nofun
  have hparts : ([] : List (List Token.Kind)).filter (!·.isEmpty) =
      ([] : List LiteralItem).map (·.kinds) := rfl
  exact .list hall hparts closes

/-- What is behind an operand makes something else than a literal of it. -/
theorem Expr.postfixWith_literal {sub : List Token → Expr} {e f : Expr} {ts : List Token}
    (h : Expr.postfixWith sub e ts = some f) (hf : f.literal?.isSome) : ts = [] ∧ e = f := by
  fun_induction Expr.postfixWith sub e ts with
  | case1 e => exact ⟨rfl, Option.some.inj h⟩
  | case2 _ _ _ _ _ _ _ ih | case4 _ _ _ _ _ _ _ ih | case6 _ _ _ _ _ _ ih =>
      obtain ⟨-, rfl⟩ := ih h
      cases hf
  | _ => cases h

/-- A reading takes only such tokens for literals: single parts, or bare tuples of several. -/
def Sound (sub : List Token → Expr) : Prop :=
  ∀ ts l, (sub ts).literal? = some l →
    splitTopLevel .comma ts = [ts] ∧ Taken (kindsOf ts) l ∨
      splitTopLevel .comma ts ≠ [ts] ∧ BareTuple Taken (kindsOf ts) l

namespace Sound

variable {sub : List Token → Expr} {ts : List Token} {l : Literal}

theorem part (h : Sound sub) (hl : (sub ts).literal? = some l)
    (hpart : splitTopLevel .comma ts = [ts]) : Taken (kindsOf ts) l := by
  rcases h ts l hl with ⟨-, htaken⟩ | ⟨hparts, -⟩
  · exact htaken
  · exact absurd hpart hparts

/-- Parts that are literals. -/
theorem items (h : Sound sub) {parts : List (List Token)} {ls : List Literal}
    (hls : Expr.literals? (parts.map sub) = some ls)
    (hparts : ∀ part ∈ parts, splitTopLevel .comma part = [part]) :
    ∃ items : List LiteralItem, parts.map kindsOf = items.map (·.kinds) ∧
      ls = items.map (·.value) ∧ ∀ i ∈ items, Taken i.kinds i.value := by
  induction parts generalizing ls with
  | nil =>
      cases hls
      exact ⟨[], rfl, rfl, nofun⟩
  | cons part parts ih =>
      obtain ⟨hpart, hparts⟩ := List.forall_mem_cons.mp hparts
      rw [List.map_cons, Expr.literals?] at hls
      split at hls
      · next l hl =>
        obtain ⟨rest, hrest, rfl⟩ := Option.map_eq_some_iff.mp hls
        obtain ⟨items, hkinds, rfl, hitems⟩ := ih hrest hparts
        refine ⟨⟨kindsOf part, l⟩ :: items, by rw [List.map_cons, hkinds]; rfl, rfl, ?_⟩
        exact List.forall_mem_cons.mpr ⟨h.part hl hpart, hitems⟩
      · cases hls

/-- The tokens of a group, with what closes it. -/
theorem kinds_group {inside : List Token} (hgroup : bracketed? ts = some (inside, [])) :
    ∃ close : Symbol, close.closes?.isSome ∧ kindsOf ts = kindsOf inside ++ [.symbol close] := by
  obtain ⟨⟨kind, line⟩, rfl, hcloses⟩ := exists_of_bracketedFrom? hgroup
  cases kind with
  | symbol close => exact ⟨close, hcloses, kindsOf_append inside _⟩
  | _ => cases hcloses

/-- A tuple of several parts. -/
theorem tuple (h : Sound sub) (hseveral : (splitTopLevel .comma ts).length > 1)
    (hl : (Expr.tuple ((Expr.tupleParts (splitTopLevel .comma ts)).map sub)).literal? = some l) :
    BareTuple Taken (kindsOf ts) l := by
  rw [Expr.literal?] at hl
  obtain ⟨ls, hls, rfl⟩ := Option.map_eq_some_iff.mp hl
  have hkinds := commaJoined_splitFrom 0 ts
  have hpart : ∀ part ∈ splitTopLevel .comma ts, splitTopLevel .comma part = [part] :=
    fun part hmem => splitTopLevel_of_mem hmem
  change commaJoined ((splitTopLevel .comma ts).map kindsOf) = kindsOf ts at hkinds
  generalize splitTopLevel .comma ts = parts at hseveral hls hkinds hpart
  rw [Expr.tupleParts] at hls
  split at hls
  · next hlast =>
    obtain ⟨last, hmem, hempty⟩ := (Option.any_eq_true _ _).mp hlast
    obtain rfl := List.isEmpty_iff.mp hempty
    obtain ⟨front, rfl⟩ := List.getLast?_eq_some_iff.mp hmem
    rw [List.dropLast_concat] at hls
    obtain ⟨items, hfront, rfl, hitems⟩ := h.items hls fun part hmem =>
      hpart part (List.mem_append_left _ hmem)
    have hsome : items ≠ [] := by
      rintro rfl
      simp at hfront
      simp [hfront] at hseveral
    have hseries : commaJoined ((front ++ [[]]).map kindsOf) = series items true := by
      rw [series_eq fun _ => hsome, List.map_append, hfront]
      rfl
    rw [← hkinds, hseries]
    exact .mk hitems hsome fun _ => rfl
  · next hlast =>
    obtain ⟨items, hfront, rfl, hitems⟩ := h.items hls hpart
    have hlength : parts.length = items.length := by
      simpa using congrArg List.length hfront
    have hseries : commaJoined (parts.map kindsOf) = series items false := by
      rw [hfront, series_false]
    rw [← hkinds, hseries]
    exact .mk hitems (List.ne_nil_of_length_pos (by omega)) (by omega)

/-- What stands in a group: one literal, or items with commas. -/
theorem inside (h : Sound sub) {inside : List Token} (hl : (sub inside).literal? = some l)
    {close : Symbol} (closes : close.closes?.isSome) :
    Taken (.symbol .openParen :: (kindsOf inside ++ [.symbol close])) l := by
  rcases h inside l hl with ⟨-, htaken⟩ | ⟨-, htuple⟩
  · exact .enclosed htaken closes
  · generalize kindsOf inside = ks at htuple
    obtain ⟨hitems, some, alone⟩ := htuple
    exact .tuple hitems alone (fun _ => some) closes

theorem list (h : Sound sub) {inside : List Token}
    (hl : (Expr.listWith sub inside).literal? = some l) {close : Symbol}
    (closes : close.closes?.isSome) :
    Taken (.symbol .openSquare :: (kindsOf inside ++ [.symbol close])) l := by
  rw [Expr.listWith] at hl
  split at hl
  · cases hl
  · rw [Expr.literal?] at hl
    obtain ⟨ls, hls, rfl⟩ := Option.map_eq_some_iff.mp hl
    obtain ⟨items, hkinds, rfl, hitems⟩ := h.items hls fun part hpart =>
      splitTopLevel_of_mem (List.mem_filter.mp hpart).1
    rw [← commaJoined_splitFrom 0 inside]
    refine .list hitems ?_ closes
    rw [← hkinds, splitTopLevel, List.filter_map]
    simp [Function.comp_def]

/-- A token that is an operand by itself. -/
theorem taken_single {t : Token} {k : Token.Kind} {e : Expr} {l' : Literal} (hkind : t.kind = k)
    (hk : k.literal? = some l') (hone : (Expr.literal l', ts) = (e, []))
    (hl : e.literal? = some l) : Taken (kindsOf (t :: ts)) l := by
  cases hone
  cases hl
  rw [kindsOf, List.map_cons, hkind]
  exact .token hk

theorem taken_group {t : Token} {s : Symbol} {inside : List Token} (hkind : t.kind = .symbol s)
    (hgroup : bracketed? ts = some (inside, []))
    (hread : ∀ close : Symbol, close.closes?.isSome →
      Taken (.symbol s :: (kindsOf inside ++ [.symbol close])) l) : Taken (kindsOf (t :: ts)) l := by
  obtain ⟨close, hcloses, hkinds⟩ := kinds_group hgroup
  rw [kindsOf, List.map_cons, hkind, ← kindsOf, hkinds]
  exact hread close hcloses

/-- The literals that an operand begins with. -/
theorem atom (h : Sound sub) {t : Token} {e : Expr}
    (hatom : Expr.atomWith sub (t :: ts) = some (e, [])) (hl : e.literal? = some l) :
    Taken (kindsOf (t :: ts)) l := by
  rw [Expr.atomWith] at hatom
  split at hatom
  · next hkind => exact taken_single hkind rfl (Option.some.inj hatom) hl
  · next hkind => exact taken_single hkind rfl (Option.some.inj hatom) hl
  · next hkind => exact taken_single hkind rfl (Option.some.inj hatom) hl
  · cases hatom
    cases hl
  · next text hkind =>
    split at hatom
    · next hnumber => exact taken_single hkind hnumber (Option.some.inj hatom) hl
    · cases hatom
      cases hl
  · next value plain hkind =>
    cases plain with
    | false =>
        cases hatom
        cases hl
    | true => exact taken_single hkind rfl (Option.some.inj hatom) hl
  · next hkind =>
    obtain ⟨⟨inside, rest⟩, hgroup, he⟩ := Option.map_eq_some_iff.mp hatom
    obtain ⟨rfl, rfl⟩ := Prod.mk.inj he
    refine taken_group hkind hgroup fun close hcloses => ?_
    split at hl
    · next hempty =>
      obtain rfl := List.isEmpty_iff.mp hempty
      cases hl
      exact .emptyTuple hcloses
    · exact h.inside hl hcloses
  · next hkind =>
    obtain ⟨⟨inside, rest⟩, hgroup, he⟩ := Option.map_eq_some_iff.mp hatom
    obtain ⟨rfl, rfl⟩ := Prod.mk.inj he
    refine taken_group hkind hgroup fun close hcloses => ?_
    split at hl
    · next hempty =>
      obtain rfl := List.isEmpty_iff.mp hempty
      cases hl
      exact .emptyList hcloses
    · exact h.list hl hcloses
  · obtain ⟨⟨inside, rest⟩, -, he⟩ := Option.map_eq_some_iff.mp hatom
    cases he
    cases hl
  · cases hatom

theorem readWith (h : Sound sub) : Sound (Expr.readWith sub) := by
  intro ts l hl
  unfold Expr.readWith at hl
  dsimp only at hl
  split at hl
  · cases hl
  next hplain =>
  split at hl
  · next hseveral =>
    refine .inr ⟨fun hpart => ?_, h.tuple hseveral hl⟩
    rw [hpart] at hseveral
    exact absurd hseveral (by simp)
  next hseveral =>
  split at hl
  · cases hl
  next hmembers =>
  have hpart := splitTopLevel_of_length hseveral
  refine .inl ⟨hpart, ?_⟩
  split at hl
  · next line rest =>
    have hrest := splitTopLevel_tail hpart rfl rfl rfl
    have hnegated : (sub rest).literal?.bind Literal.negate? = some l := by
      rw [← hl]
      cases sub rest <;> rfl
    obtain ⟨l', hl', hopposite⟩ := Option.bind_eq_some_iff.mp hnegated
    exact .minus (h.part hl' hrest) hopposite
  · next line rest => exact .plus (h.part hl (splitTopLevel_tail hpart rfl rfl rfl))
  · rw [Expr.operandWith] at hl
    split at hl
    · next e rest hatom =>
      cases hbehind : Expr.postfixWith sub e rest with
      | none =>
          rw [hbehind] at hl
          cases hl
      | some f =>
          rw [hbehind] at hl
          obtain ⟨rfl, rfl⟩ := Expr.postfixWith_literal hbehind (Option.isSome_of_mem hl)
          cases ts with
          | nil => cases hatom
          | cons t ts => exact h.atom hatom hl
    · cases hl

end Sound

theorem sound_readFuel (n : Nat) : Sound (Expr.readFuel n) := by
  induction n with
  | zero => exact fun _ _ hl => nomatch hl
  | succ n ih => exact ih.readWith

/-! ## Parts by their kinds -/

/-- Brackets match or not whatever lines the tokens stand on. -/
theorem Balanced.of_kinds {P : Token → Prop} {ts us : List Token} (h : Balanced P ts)
    (hus : kindsOf us = kindsOf ts) : Balanced (fun u => ∃ t, P t ∧ u.kind = t.kind) us := by
  induction h generalizing us with
  | nil =>
      rw [List.map_eq_nil_iff.mp hus]
      exact .nil
  | @plain P t ts hopens hcloses hlayout ht _ ih =>
      obtain ⟨line, more, rfl, hmore⟩ := exists_of_kindsOf_cons hus
      exact .plain hopens hcloses hlayout ⟨t, ht, rfl⟩ (ih hmore)
  | @group P Q first last inside ts hopens hcloses _ _ ihinside ih =>
      rw [kindsOf, kindsOf, List.map_cons, List.map_append] at hus
      obtain ⟨line, more, rfl, hmore⟩ := exists_of_kindsOf_cons hus
      obtain ⟨inner, others, rfl, hinner, hothers⟩ := List.map_eq_append_iff.mp hmore
      obtain ⟨line', rest, rfl, hrest⟩ := exists_of_kindsOf_cons hothers
      exact .group hopens hcloses (ihinside hinner) (ih hrest)

section Kinds

variable {symbols : List Symbol} {ks : List Token.Kind} {ts : List Token}

theorem balanced_of_matched (h : Printed.Matched symbols ks) (hts : kindsOf ts = ks) :
    Balanced (Printed.Plain symbols) ts := by
  have hkinds : kindsOf ts = kindsOf (Printed.onLine 0 ks) := by
    rw [hts, kindsOf, Printed.onLine, List.map_map]
    exact (List.map_id ks).symm
  refine ((h 0).of_kinds hkinds).mono ?_
  rintro u ⟨t, ht, hkind⟩
  rw [Printed.Plain] at ht ⊢
  rw [hkind]
  exact ht

/-- Tokens of parts with commas between them are cut into these parts. -/
theorem splitTopLevel_kinds {parts : List (List Token.Kind)} (hne : parts ≠ [])
    (h : ∀ part ∈ parts, Printed.Matched symbols part) (hcomma : .comma ∉ symbols)
    (hts : kindsOf ts = commaJoined parts) :
    (splitTopLevel .comma ts).map kindsOf = parts := by
  have hnone : ∀ t, Printed.Plain symbols t → t.isSymbol .comma = false :=
    fun t ht => ht.isSymbol hcomma
  induction parts generalizing ts with
  | nil => exact absurd rfl hne
  | cons part parts ih =>
      obtain ⟨hpart, hparts⟩ := List.forall_mem_cons.mp h
      cases parts with
      | nil =>
          rw [Printed.commaJoined_singleton] at hts
          rw [(balanced_of_matched hpart hts).splitTopLevel_eq hnone, List.map_singleton, hts]
      | cons next parts =>
          rw [Printed.commaJoined_cons_cons] at hts
          obtain ⟨first, more, rfl, hfirst, hmore⟩ := List.map_eq_append_iff.mp hts
          obtain ⟨line, others, rfl, hothers⟩ := exists_of_kindsOf_cons hmore
          rw [(balanced_of_matched hpart hfirst).splitTopLevel_separator hnone rfl rfl rfl,
            List.map_cons, ih (List.cons_ne_nil _ _) hparts hothers]
          exact congrArg (· :: _) hfirst

end Kinds

/-! ## Literals are read -/

theorem series_matched {items : List LiteralItem} {symbols : List Symbol}
    (h : ∀ i ∈ items, Printed.Matched symbols i.kinds) (trailing : Bool) :
    Printed.Matched (.comma :: symbols) (series items trailing) := by
  have hitems : Printed.Matched (.comma :: symbols) (commaJoined (items.map (·.kinds))) :=
    .commaJoined (List.forall_mem_map.mpr h)
  refine hitems.append ?_
  cases trailing with
  | false => exact .nil
  | true => exact .symbol List.mem_cons_self rfl rfl .nil

/-- The signs of numbers. -/
def signs : List Symbol := [.plus, .minus]

theorem matched_of_literal? {k : Token.Kind} {l : Literal} (h : k.literal? = some l) :
    Printed.Matched signs [k] := by
  rw [Token.Kind.literal?.eq_def] at h
  split at h <;> first
    | exact .word (by decide) .nil
    | exact fun line => .plain rfl rfl rfl trivial .nil
    | cases h

/-- Every part of a list is empty or an item. -/
theorem mem_items {parts : List (List Token.Kind)} {items : List LiteralItem}
    (hparts : parts.filter (!·.isEmpty) = items.map (·.kinds)) {part : List Token.Kind}
    (hpart : part ∈ parts) (hne : part ≠ []) : ∃ i ∈ items, i.kinds = part := by
  have hmem : part ∈ parts.filter (!·.isEmpty) := by simp [List.mem_filter, hpart, hne]
  rw [hparts] at hmem
  exact List.mem_map.mp hmem

theorem kinds_mem_parts {parts : List (List Token.Kind)} {items : List LiteralItem}
    (hparts : parts.filter (!·.isEmpty) = items.map (·.kinds)) {i : LiteralItem} (hi : i ∈ items) :
    i.kinds ∈ parts := by
  have hmem := List.mem_map_of_mem (f := LiteralItem.kinds) hi
  rw [← hparts] at hmem
  exact (List.mem_filter.mp hmem).1

theorem matched_parts {parts : List (List Token.Kind)} {items : List LiteralItem}
    (hparts : parts.filter (!·.isEmpty) = items.map (·.kinds))
    (h : ∀ i ∈ items, Printed.Matched signs i.kinds) :
    ∀ part ∈ parts, Printed.Matched signs part := by
  intro part hpart
  by_cases hne : part = []
  · rw [hne]
    exact .nil
  · obtain ⟨i, hi, rfl⟩ := mem_items hparts hpart hne
    exact h i hi

namespace Taken

variable {ks : List Token.Kind} {l : Literal}

/-- No comma, no bar and no word between operands stands outside the brackets of a literal. -/
theorem matched (h : Taken ks l) : Printed.Matched signs ks := by
  induction h with
  | token h => exact matched_of_literal? h
  | minus _ _ ih => exact .symbol (by decide) rfl rfl ih
  | plus _ ih => exact .symbol (by decide) rfl rfl ih
  | enclosed _ closes ih => exact .group rfl closes ih .nil
  | tuple _ _ _ closes ih => exact .group rfl closes (series_matched ih _) .nil
  | list _ hparts closes ih =>
      exact .group rfl closes (.commaJoined (matched_parts hparts ih)) .nil

theorem ne_nil (h : Taken ks l) : ks ≠ [] := by
  cases h <;> exact List.cons_ne_nil _ _

end Taken

section Reads

variable {sub : List Token → Expr} {ts : List Token} {line : Nat}

theorem readWith_minus (h : Balanced (Printed.Plain signs) (⟨.symbol .minus, line⟩ :: ts)) :
    (Expr.readWith sub (⟨.symbol .minus, line⟩ :: ts)).literal? =
      (sub ts).literal?.bind Literal.negate? := by
  rw [Printed.readWith_undivided (List.cons_ne_nil _ _) h (by decide) (by decide)]
  dsimp only
  cases sub ts <;> rfl

theorem readWith_plus (h : Balanced (Printed.Plain signs) (⟨.symbol .plus, line⟩ :: ts)) :
    Expr.readWith sub (⟨.symbol .plus, line⟩ :: ts) = sub ts :=
  Printed.readWith_undivided (List.cons_ne_nil _ _) h (by decide) (by decide)

/-- An operand with nothing behind it. -/
theorem readWith_atom {t : Token} {e : Expr} (h : Balanced (Printed.Plain signs) (t :: ts))
    (hminus : t.kind ≠ .symbol .minus) (hplus : t.kind ≠ .symbol .plus)
    (hatom : Expr.atomWith sub (t :: ts) = some (e, [])) : Expr.readWith sub (t :: ts) = e := by
  rw [Printed.readWith_undivided (List.cons_ne_nil _ _) h (by decide) (by decide)]
  split
  · next heq => exact absurd (congrArg Token.kind (List.cons.inj heq).1) hminus
  · next heq => exact absurd (congrArg Token.kind (List.cons.inj heq).1) hplus
  · exact Printed.operandWith_atom hatom

end Reads

/-- Whatever tokens of these kinds are read as a literal with that value. -/
def ReadBy (sub : List Token → Expr) (ks : List Token.Kind) (l : Literal) : Prop :=
  ∀ ts, kindsOf ts = ks → (sub ts).literal? = some l

section Several

variable {sub : List Token → Expr} {items : List LiteralItem}

theorem literals?_items {parts : List (List Token)}
    (hkinds : parts.map kindsOf = items.map (·.kinds))
    (h : ∀ i ∈ items, ReadBy sub i.kinds i.value) :
    Expr.literals? (parts.map sub) = some (items.map (·.value)) := by
  induction items generalizing parts with
  | nil =>
      rw [List.map_eq_nil_iff.mp hkinds]
      rfl
  | cons i items ih =>
      obtain ⟨part, parts, rfl, hpart, hparts⟩ := List.map_eq_cons_iff.mp hkinds
      obtain ⟨hi, hitems⟩ := List.forall_mem_cons.mp h
      rw [List.map_cons, Expr.literals?, hi part hpart, ih hparts hitems]
      rfl

theorem tupleParts_kinds {parts : List (List Token)} {trailing : Bool}
    (hparts : parts.map kindsOf = items.map (·.kinds) ++ if trailing then [[]] else [])
    (nonempty : ∀ i ∈ items, i.kinds ≠ []) :
    (Expr.tupleParts parts).map kindsOf = items.map (·.kinds) := by
  cases trailing with
  | true =>
      obtain ⟨front, last, rfl, hfront, hlast⟩ := List.map_eq_append_iff.mp hparts
      obtain ⟨part, rfl, hpart⟩ := List.map_eq_singleton_iff.mp hlast
      obtain rfl := List.map_eq_nil_iff.mp hpart
      simpa [Expr.tupleParts] using hfront
  | false =>
      rw [if_neg Bool.false_ne_true, List.append_nil] at hparts
      rw [Expr.tupleParts, if_neg, hparts]
      intro hlast
      obtain ⟨part, hmem, hempty⟩ := (Option.any_eq_true _ _).mp hlast
      have hkinds := List.mem_map_of_mem (f := kindsOf) (List.mem_of_getLast? hmem)
      rw [hparts] at hkinds
      obtain ⟨i, hi, hkinds⟩ := List.mem_map.mp hkinds
      rw [List.isEmpty_iff.mp hempty] at hkinds
      exact nonempty i hi hkinds

variable (hmatched : ∀ i ∈ items, Printed.Matched signs i.kinds)
  (h : ∀ i ∈ items, ReadBy sub i.kinds i.value)
include hmatched h

/-- Several items between commas, or one with a comma. -/
theorem readWith_series {trailing : Bool} (nonempty : ∀ i ∈ items, i.kinds ≠ [])
    (some : items ≠ []) (alone : items.length = 1 → trailing = true) :
    ReadBy (Expr.readWith sub) (series items trailing) (listed items) := by
  intro ts hts
  have hbalanced := balanced_of_matched (series_matched hmatched trailing) hts
  have hkeyword := hbalanced.anyTopLevel_eq_false fun t ht => ht.isOperatorKeyword
  have hparts : (splitTopLevel .comma ts).map kindsOf =
      items.map (·.kinds) ++ if trailing then [[]] else [] := by
    rw [series_eq fun _ => some] at hts
    refine splitTopLevel_kinds (by simp [some]) ?_ (show Symbol.comma ∉ signs by decide) hts
    refine List.forall_mem_append.mpr ⟨List.forall_mem_map.mpr hmatched, ?_⟩
    cases trailing with
    | false => exact nofun
    | true => exact List.forall_mem_singleton.mpr .nil
  have hseveral : (splitTopLevel .comma ts).length > 1 := by
    have hlength := congrArg List.length hparts
    have hpos := List.length_pos_iff.mpr some
    rw [List.length_map, List.length_append, List.length_map] at hlength
    rw [hlength]
    cases trailing with
    | false =>
        have hne : items.length ≠ 1 := fun hone => nomatch alone hone
        rw [if_neg Bool.false_ne_true, List.length_nil]
        omega
    | true =>
        rw [if_pos rfl, List.length_singleton]
        omega
  have hempty : ts.isEmpty = false := by
    cases ts with
    | nil => exact absurd hseveral (by decide)
    | cons t ts => rfl
  unfold Expr.readWith
  rw [hempty, hkeyword]
  simp only [Bool.or_self, Bool.false_eq_true, if_false, if_pos hseveral]
  rw [Expr.literal?, literals?_items (tupleParts_kinds hparts nonempty) h]
  rfl

/-- What stands in square brackets. -/
theorem listWith_parts {parts : List (List Token.Kind)}
    (hparts : parts.filter (!·.isEmpty) = items.map (·.kinds)) (some : parts ≠ []) :
    ReadBy (Expr.listWith sub) (commaJoined parts) (listed items) := by
  intro ts hts
  have hall := matched_parts hparts hmatched
  have hbalanced := balanced_of_matched (.commaJoined hall) hts
  have hfor : anyTopLevel (·.isName "for") ts = false :=
    hbalanced.anyTopLevel_eq_false fun t ht => ht.isName (by decide)
  have hsplit : (splitTopLevel .comma ts).map kindsOf = parts :=
    splitTopLevel_kinds some hall (show Symbol.comma ∉ signs by decide) hts
  have hitems : ((splitTopLevel .comma ts).filter (!·.isEmpty)).map kindsOf =
      items.map (·.kinds) := by
    rw [← hparts, ← hsplit, List.filter_map]
    simp [Function.comp_def]
  rw [Expr.listWith, hfor]
  simp only [Bool.false_eq_true, if_false]
  rw [Expr.literal?, literals?_items hitems h]
  rfl

end Several

theorem readFuel_token {k : Token.Kind} {l : Literal} (h : k.literal? = some l) (n : Nat) :
    ReadBy (Expr.readFuel (n + 1)) [k] l := by
  intro ts hts
  obtain ⟨line, rest, rfl, hrest⟩ := exists_of_kindsOf_cons hts
  obtain rfl := List.map_eq_nil_iff.mp hrest
  have hminus : k ≠ .symbol .minus := by
    rintro rfl
    cases h
  have hplus : k ≠ .symbol .plus := by
    rintro rfl
    cases h
  have hatom : Expr.atomWith (Expr.readFuel n) [⟨k, line⟩] = some (.literal l, []) := by
    rw [Token.Kind.literal?.eq_def] at h
    split at h <;> first
      | cases h; rfl
      | cases h
      | simp only [Expr.atomWith, h]
  have hbalanced : Balanced (Printed.Plain signs) [⟨k, line⟩] := matched_of_literal? h line
  rw [Expr.readFuel, readWith_atom hbalanced hminus hplus hatom]
  rfl

theorem bracketed?_kinds {ks : List Token.Kind} {close : Symbol} {ts : List Token}
    {symbols : List Symbol} (hmatched : Printed.Matched symbols ks) (closes : close.closes?.isSome)
    (hts : kindsOf ts = ks ++ [.symbol close]) :
    ∃ inside, kindsOf inside = ks ∧ bracketed? ts = some (inside, []) := by
  obtain ⟨inside, last, rfl, hinside, hlast⟩ := List.map_eq_append_iff.mp hts
  obtain ⟨⟨kind, m⟩, rfl, rfl⟩ := List.map_eq_singleton_iff.mp hlast
  have hcloses : Token.closes ⟨.symbol close, m⟩ = true := closes
  exact ⟨inside, hinside, (balanced_of_matched hmatched hinside).bracketed?_close hcloses []⟩

/-- A group is read by what stands in it, be it nothing. -/
theorem readWith_group {sub read : List Token → Expr} {empty : Expr} {s close : Symbol}
    {ks : List Token.Kind} {l : Literal} {symbols : List Symbol} (opens : s.opens?.isSome)
    (closes : close.closes?.isSome) (hmatched : Printed.Matched symbols ks)
    (hatom : ∀ line ts inside, bracketed? ts = some (inside, []) →
      Expr.atomWith sub (⟨.symbol s, line⟩ :: ts) =
        some (if inside.isEmpty then empty else read inside, []))
    (hempty : ks = [] → empty.literal? = some l) (h : ks ≠ [] → ReadBy read ks l) :
    ReadBy (Expr.readWith sub) (.symbol s :: (ks ++ [.symbol close])) l := by
  intro ts hts
  have hbalanced : Balanced (Printed.Plain signs) ts :=
    balanced_of_matched (.group opens closes hmatched .nil) hts
  obtain ⟨line, more, rfl, hmore⟩ := exists_of_kindsOf_cons hts
  obtain ⟨inside, hinside, hgroup⟩ := bracketed?_kinds hmatched closes hmore
  have hminus : Token.Kind.symbol s ≠ .symbol .minus := by
    rintro ⟨⟩
    cases opens
  have hplus : Token.Kind.symbol s ≠ .symbol .plus := by
    rintro ⟨⟩
    cases opens
  rw [readWith_atom hbalanced hminus hplus (hatom line more inside hgroup)]
  split
  · next hnone =>
    obtain rfl := List.isEmpty_iff.mp hnone
    exact hempty hinside.symm
  · next hsome =>
    refine h ?_ inside hinside
    rintro rfl
    rw [List.map_eq_nil_iff.mp hinside] at hsome
    exact hsome rfl

theorem atomWith_paren (sub : List Token → Expr) (line : Nat) (ts inside : List Token)
    (h : bracketed? ts = some (inside, [])) :
    Expr.atomWith sub (⟨.symbol .openParen, line⟩ :: ts) =
      some (if inside.isEmpty then .tuple [] else sub inside, []) := by
  simp only [Expr.atomWith, h, Option.map_some]

theorem atomWith_square (sub : List Token → Expr) (line : Nat) (ts inside : List Token)
    (h : bracketed? ts = some (inside, [])) :
    Expr.atomWith sub (⟨.symbol .openSquare, line⟩ :: ts) =
      some (if inside.isEmpty then .list [] else Expr.listWith sub inside, []) := by
  simp only [Expr.atomWith, h, Option.map_some]

theorem length_lt_series {items : List LiteralItem} {trailing : Bool}
    (alone : items.length = 1 → trailing = true) {i : LiteralItem} (hi : i ∈ items) :
    i.kinds.length < (series items trailing).length := by
  have hle := Printed.length_le_commaJoined_of_mem (List.mem_map_of_mem (f := (·.kinds)) hi)
  rw [series, List.length_append]
  cases trailing with
  | true =>
      rw [if_pos rfl, List.length_singleton]
      omega
  | false =>
      obtain ⟨first, others, rfl⟩ := List.exists_cons_of_ne_nil (List.ne_nil_of_mem hi)
      have hpos : others ≠ [] := by
        rintro rfl
        cases alone rfl
      have htail := Printed.length_le_commaTail (others.map (·.kinds))
      have hsome := List.length_pos_iff.mpr hpos
      rw [List.map_cons, Printed.commaJoined_cons, List.length_append]
      rw [List.length_map] at htail
      rcases List.mem_cons.mp hi with rfl | hi
      · omega
      · have := Printed.length_lt_commaTail (List.mem_map_of_mem (f := (·.kinds)) hi)
        omega

theorem series_ne_nil {items : List LiteralItem} {trailing : Bool}
    (nonempty : ∀ i ∈ items, i.kinds ≠ []) (some : items ≠ []) : series items trailing ≠ [] := by
  obtain ⟨i, items, rfl⟩ := List.exists_cons_of_ne_nil some
  rw [series, List.map_cons, Printed.commaJoined_cons]
  simp [nonempty i List.mem_cons_self]

theorem exists_step {k : Token.Kind} {ks : List Token.Kind} {n : Nat} (hn : (k :: ks).length ≤ n) :
    ∃ m, n = m + 1 ∧ ks.length ≤ m := by
  obtain ⟨m, rfl⟩ := Nat.exists_eq_add_one.mpr (Nat.lt_of_lt_of_le (Nat.succ_pos _) hn)
  exact ⟨m, rfl, Nat.le_of_succ_le_succ hn⟩

/-- A tuple is read if its items are. -/
theorem readFuel_series {items : List LiteralItem} {trailing : Bool} {n : Nat}
    (h : ∀ i ∈ items, Taken i.kinds i.value)
    (hreads : ∀ i ∈ items, ∀ m, i.kinds.length ≤ m → ReadBy (Expr.readFuel m) i.kinds i.value)
    (some : items ≠ []) (alone : items.length = 1 → trailing = true)
    (hn : (series items trailing).length ≤ n) :
    ReadBy (Expr.readFuel n) (series items trailing) (listed items) := by
  have nonempty : ∀ i ∈ items, i.kinds ≠ [] := fun i hi => (h i hi).ne_nil
  have hpos : 0 < (series items trailing).length :=
    List.length_pos_iff.mpr (series_ne_nil nonempty some)
  obtain ⟨m, rfl⟩ := Nat.exists_eq_add_one.mpr (Nat.lt_of_lt_of_le hpos hn)
  refine readWith_series (fun i hi => (h i hi).matched) (fun i hi => hreads i hi m ?_)
    nonempty some alone
  have := length_lt_series alone hi
  omega

section Steps

variable {ks : List Token.Kind} {l m : Literal} {n : Nat}

theorem readFuel_minus (h : ReadBy (Expr.readFuel n) ks l)
    (hmatched : Printed.Matched signs (.symbol .minus :: ks)) (opposite : l.negate? = some m) :
    ReadBy (Expr.readFuel (n + 1)) (.symbol .minus :: ks) m := by
  intro ts hts
  obtain ⟨line, rest, rfl, hrest⟩ := exists_of_kindsOf_cons hts
  rw [Expr.readFuel, readWith_minus (balanced_of_matched hmatched hts), h rest hrest]
  exact opposite

theorem readFuel_plus (h : ReadBy (Expr.readFuel n) ks l)
    (hmatched : Printed.Matched signs (.symbol .plus :: ks)) :
    ReadBy (Expr.readFuel (n + 1)) (.symbol .plus :: ks) l := by
  intro ts hts
  obtain ⟨line, rest, rfl, hrest⟩ := exists_of_kindsOf_cons hts
  rw [Expr.readFuel, readWith_plus (balanced_of_matched hmatched hts)]
  exact h rest hrest

/-- A tuple in parentheses, be it empty. -/
theorem readFuel_tuple {items : List LiteralItem} {trailing : Bool} {close : Symbol}
    (h : ∀ i ∈ items, Taken i.kinds i.value)
    (hreads : ∀ i ∈ items, ∀ m, i.kinds.length ≤ m → ReadBy (Expr.readFuel m) i.kinds i.value)
    (alone : items.length = 1 → trailing = true) (behind : trailing = true → items ≠ [])
    (closes : close.closes?.isSome) (hn : (series items trailing).length ≤ n) :
    ReadBy (Expr.readFuel (n + 1))
      (.symbol .openParen :: (series items trailing ++ [.symbol close])) (listed items) := by
  have hitems := series_matched (fun i hi => (h i hi).matched) trailing
  refine readWith_group rfl closes hitems (atomWith_paren _) (fun hempty => ?_) fun hsome => ?_
  · by_cases hnone : items = []
    · rw [hnone]
      rfl
    · exact absurd hempty (series_ne_nil (fun i hi => (h i hi).ne_nil) hnone)
  · refine readFuel_series h hreads ?_ alone hn
    rintro rfl
    cases trailing with
    | false => exact hsome rfl
    | true => exact behind rfl rfl

theorem length_le_of_parts {parts : List (List Token.Kind)} {items : List LiteralItem}
    (hparts : parts.filter (!·.isEmpty) = items.map (·.kinds)) {i : LiteralItem} (hi : i ∈ items) :
    i.kinds.length ≤ (commaJoined parts).length :=
  Printed.length_le_commaJoined_of_mem (kinds_mem_parts hparts hi)

theorem readFuel_list {parts : List (List Token.Kind)} {items : List LiteralItem} {close : Symbol}
    (h : ∀ i ∈ items, Taken i.kinds i.value)
    (hreads : ∀ i ∈ items, ReadBy (Expr.readFuel n) i.kinds i.value)
    (hparts : parts.filter (!·.isEmpty) = items.map (·.kinds)) (closes : close.closes?.isSome) :
    ReadBy (Expr.readFuel (n + 1))
      (.symbol .openSquare :: (commaJoined parts ++ [.symbol close])) (listed items) := by
  have hmatched : ∀ i ∈ items, Printed.Matched signs i.kinds := fun i hi => (h i hi).matched
  refine readWith_group rfl closes (.commaJoined (matched_parts hparts hmatched))
    (atomWith_square _) (fun hempty => ?_) fun hsome => ?_
  · cases items with
    | nil => rfl
    | cons i items =>
        have hi := length_le_of_parts hparts (List.mem_cons_self (a := i))
        rw [hempty] at hi
        exact absurd (List.length_eq_zero_iff.mp (Nat.le_zero.mp hi))
          (h i List.mem_cons_self).ne_nil
  · refine listWith_parts hmatched hreads hparts ?_
    rintro rfl
    exact hsome rfl

end Steps

/-- Enough steps within each other read a literal. By induction on how it is cut: behind a sign and
in a group stand fewer tokens. -/
theorem Taken.reads {ks : List Token.Kind} {l : Literal} (h : Taken ks l) {n : Nat}
    (hn : ks.length ≤ n) : ReadBy (Expr.readFuel n) ks l := by
  have hmatched := h.matched
  induction h generalizing n with
  | token h =>
      obtain ⟨m, rfl, -⟩ := exists_step hn
      exact readFuel_token h m
  | minus h opposite ih =>
      obtain ⟨m, rfl, hm⟩ := exists_step hn
      exact readFuel_minus (ih hm h.matched) hmatched opposite
  | plus h ih =>
      obtain ⟨m, rfl, hm⟩ := exists_step hn
      exact readFuel_plus (ih hm h.matched) hmatched
  | enclosed h closes ih =>
      obtain ⟨m, rfl, hm⟩ := exists_step hn
      rw [List.length_append] at hm
      exact readWith_group rfl closes h.matched (atomWith_paren _)
        (fun hempty => absurd hempty h.ne_nil) fun _ => ih (Nat.le_of_add_right_le hm) h.matched
  | tuple h alone behind closes ih =>
      obtain ⟨m, rfl, hm⟩ := exists_step hn
      rw [List.length_append] at hm
      exact readFuel_tuple h (fun i hi _ hm => ih i hi hm (h i hi).matched) alone behind closes
        (Nat.le_of_add_right_le hm)
  | list h hparts closes ih =>
      obtain ⟨m, rfl, hm⟩ := exists_step hn
      rw [List.length_append] at hm
      exact readFuel_list h
        (fun i hi => ih i hi ((length_le_of_parts hparts hi).trans (Nat.le_of_add_right_le hm))
          (h i hi).matched) hparts closes

/-- Which tokens are read as a literal, whether they are an expression or not. -/
theorem literal?_ofTokens_iff {ts : List Token} {l : Literal} :
    (Expr.ofTokens ts).literal? = some l ↔
      Taken (kindsOf ts) l ∨ BareTuple Taken (kindsOf ts) l := by
  constructor
  · intro hl
    exact (sound_readFuel ts.length ts l hl).imp (·.2) (·.2)
  · have hlength : (kindsOf ts).length ≤ ts.length := by rw [List.length_map]
    rintro (h | h)
    · exact h.reads hlength ts rfl
    · generalize hks : kindsOf ts = ks at h hlength
      obtain ⟨hitems, some, alone⟩ := h
      exact readFuel_series hitems (fun i hi _ => (hitems i hi).reads) some alone hlength ts hks

end DeclaredSchema.Source
