import DeclaredSchema.Source.Expr

/-! # Tokens with matching brackets

Whatever looks for a token outside of all brackets counts those that are open. It passes over tokens
that close no bracket too many, if none of those that stand outside of brackets is the one that is
looked for.
-/

namespace DeclaredSchema.Source

theorem Token.opens_of_closes {t : Token} (h : t.closes = true) : t.opens = false := by
  obtain ⟨kind, line⟩ := t
  cases kind with
  | symbol s => cases s <;> first | rfl | cases h
  | _ => rfl

theorem Token.not_isLayout_of_opens {t : Token} (h : t.opens = true) : t.isLayout = false := by
  obtain ⟨kind, line⟩ := t
  cases kind with
  | symbol s => rfl
  | _ => cases h

theorem Token.not_isLayout_of_closes {t : Token} (h : t.closes = true) : t.isLayout = false := by
  obtain ⟨kind, line⟩ := t
  cases kind with
  | symbol s => rfl
  | _ => cases h

/-! ## Open brackets -/

/-- The number of open brackets behind a token; nothing if it closes one that is not open. -/
def Token.depthBehind? (depth : Nat) (t : Token) : Option Nat :=
  if t.opens then some (depth + 1)
  else if t.closes then match depth with
    | 0 => none
    | outer + 1 => some outer
  else some depth

namespace Token

variable {t : Token}

theorem opens_of_symbol {s : Symbol} (h : t.kind = .symbol s) : t.opens = s.opens?.isSome := by
  rw [opens, opens?, h]

theorem closes_of_symbol {s : Symbol} (h : t.kind = .symbol s) : t.closes = s.closes?.isSome := by
  rw [closes, closes?, h]

theorem depthBehind?_of_opens (h : t.opens = true) (depth : Nat) :
    t.depthBehind? depth = some (depth + 1) := if_pos h

section Closes

variable (hopens : ¬ t.opens = true)
include hopens

theorem depthBehind?_of_closes (h : t.closes = true) (depth : Nat) :
    t.depthBehind? (depth + 1) = some depth := (if_neg hopens).trans (if_pos h)

theorem depthBehind?_zero_of_closes (h : t.closes = true) : t.depthBehind? 0 = none :=
  (if_neg hopens).trans (if_pos h)

theorem depthBehind?_of_not (h : ¬ t.closes = true) (depth : Nat) :
    t.depthBehind? depth = some depth := (if_neg hopens).trans (if_neg h)

end Closes

/-- What a token does that closes no bracket too many. -/
theorem depthBehind?_cases {a b : Nat} (h : t.depthBehind? a = some b) :
    (t.opens = true ∧ b = a + 1) ∨ (t.opens = false ∧ t.closes = true ∧ a = b + 1) ∨
      (t.opens = false ∧ t.closes = false ∧ b = a) := by
  by_cases hopens : t.opens = true
  · rw [depthBehind?_of_opens hopens] at h
    exact .inl ⟨hopens, (Option.some.inj h).symm⟩
  by_cases hcloses : t.closes = true
  · cases a with
    | zero =>
        rw [depthBehind?_zero_of_closes hopens hcloses] at h
        cases h
    | succ outer =>
        rw [depthBehind?_of_closes hopens hcloses] at h
        exact .inr (.inl ⟨Bool.eq_false_iff.mpr hopens, hcloses, by rw [Option.some.inj h]⟩)
  · rw [depthBehind?_of_not hopens hcloses] at h
    exact .inr (.inr ⟨Bool.eq_false_iff.mpr hopens, Bool.eq_false_iff.mpr hcloses,
      (Option.some.inj h).symm⟩)

/-- More brackets may be open around. -/
theorem depthBehind?_add {a b : Nat} (h : t.depthBehind? a = some b) (k : Nat) :
    t.depthBehind? (a + k) = some (b + k) := by
  obtain ⟨hopens, rfl⟩ | ⟨hopens, hcloses, rfl⟩ | ⟨hopens, hcloses, rfl⟩ := depthBehind?_cases h
  · rw [depthBehind?_of_opens hopens, Nat.add_right_comm]
  · rw [Nat.add_right_comm, depthBehind?_of_closes (Bool.eq_false_iff.mp hopens) hcloses]
  · rw [depthBehind?_of_not (Bool.eq_false_iff.mp hopens) (Bool.eq_false_iff.mp hcloses)]

end Token

/-- The number of open brackets behind some tokens. -/
def depthBehind? (depth : Nat) (ts : List Token) : Option Nat := ts.foldlM Token.depthBehind? depth

theorem depthBehind?_cons (depth : Nat) (t : Token) (ts : List Token) :
    depthBehind? depth (t :: ts) = (t.depthBehind? depth).bind (depthBehind? · ts) := rfl

theorem depthBehind?_append (depth : Nat) (ts us : List Token) :
    depthBehind? depth (ts ++ us) = (depthBehind? depth ts).bind (depthBehind? · us) :=
  List.foldlM_append

theorem depthBehind?_add {ts : List Token} {a b : Nat} (h : depthBehind? a ts = some b) (k : Nat) :
    depthBehind? (a + k) ts = some (b + k) := by
  induction ts generalizing a with
  | nil =>
      obtain rfl := Option.some.inj h
      rfl
  | cons t ts ih =>
      rw [depthBehind?_cons, Option.bind_eq_some_iff] at h
      obtain ⟨d, ht, hts⟩ := h
      rw [depthBehind?_cons, t.depthBehind?_add ht]
      exact ih hts

/-- Inside a bracket no prefix closes it. -/
theorem depthBehind?_ne_zero {opening : Token} (hopens : opening.opens = true)
    {body ts : List Token} {a : Nat} (h : depthBehind? 0 body = some a)
    (hts : ts <+: opening :: body) (hne : ts ≠ []) : depthBehind? 0 ts ≠ some 0 := by
  obtain ⟨t, ts, rfl⟩ := List.exists_cons_of_ne_nil hne
  obtain ⟨rfl, us, rfl⟩ := List.cons_prefix_cons.mp hts
  rw [depthBehind?_append, Option.bind_eq_some_iff] at h
  obtain ⟨b, hb, -⟩ := h
  rw [depthBehind?_cons, Token.depthBehind?_of_opens hopens]
  change depthBehind? (0 + 1) ts ≠ some 0
  rw [depthBehind?_add hb]
  simp

/-- A group in brackets leaves as many open as before. -/
theorem depthBehind?_group {first last : Token} {inside : List Token} (hopens : first.opens = true)
    (hcloses : last.closes = true) (h : depthBehind? 0 inside = some 0) (a : Nat)
    (us : List Token) : depthBehind? a (first :: (inside ++ last :: us)) = depthBehind? a us := by
  have hlast : ¬ last.opens = true := by simp [Token.opens_of_closes hcloses]
  have hinside : depthBehind? (a + 1) inside = some (a + 1) := by
    simpa using depthBehind?_add h (a + 1)
  rw [depthBehind?_cons, Token.depthBehind?_of_opens hopens, Option.bind_some, depthBehind?_append,
    hinside, Option.bind_some, depthBehind?_cons, Token.depthBehind?_of_closes hlast hcloses]
  rfl

/-! ## Looking outside of brackets -/

section Outside

variable {p : Token → Bool} {separator : Symbol} {ts : List Token} {a b : Nat}

theorem anyFrom_append (h : depthBehind? a ts = some b) (us : List Token) :
    anyFrom p a (ts ++ us) = (anyFrom p a ts || anyFrom p b us) := by
  induction ts generalizing a with
  | nil =>
      obtain rfl := Option.some.inj h
      rfl
  | cons t ts ih =>
      rw [depthBehind?_cons, Option.bind_eq_some_iff] at h
      obtain ⟨next, ht, hts⟩ := h
      rw [List.cons_append, anyFrom, anyFrom]
      obtain ⟨hopens, rfl⟩ | ⟨hopens, hcloses, rfl⟩ | ⟨hopens, hcloses, rfl⟩ :=
        Token.depthBehind?_cases ht
      · rw [if_pos hopens, if_pos hopens, ih hts]
      · rw [hopens, hcloses, Nat.add_sub_cancel]
        exact ih hts
      · rw [hopens, hcloses, ih hts]
        exact (Bool.or_assoc _ _ _).symm

/-- Inside of a bracket nothing is found. -/
theorem anyFrom_inside (h : depthBehind? a ts = some b) : anyFrom p (a + 1) ts = false := by
  induction ts generalizing a with
  | nil => rfl
  | cons t ts ih =>
      rw [depthBehind?_cons, Option.bind_eq_some_iff] at h
      obtain ⟨next, ht, hts⟩ := h
      rw [anyFrom]
      obtain ⟨hopens, rfl⟩ | ⟨hopens, hcloses, rfl⟩ | ⟨hopens, hcloses, rfl⟩ :=
        Token.depthBehind?_cases ht
      · rw [if_pos hopens]
        exact ih hts
      · rw [hopens, hcloses, Nat.add_sub_cancel]
        exact ih hts
      · rw [hopens, hcloses, ih hts, decide_eq_false (Nat.succ_ne_zero _)]
        rfl

theorem anyFrom_group {first last : Token} {inside : List Token} (hopens : first.opens = true)
    (hcloses : last.closes = true) (h : depthBehind? 0 inside = some 0) (us : List Token) :
    anyFrom p 0 (first :: (inside ++ last :: us)) = anyFrom p 0 us := by
  have hinside : depthBehind? 1 inside = some 1 := depthBehind?_add h 1
  rw [anyFrom, if_pos hopens, anyFrom_append hinside, anyFrom_inside h, anyFrom,
    Token.opens_of_closes hcloses, hcloses]
  rfl

/-- A group goes on over tokens that do not close it. -/
theorem bracketedFrom?_append (h : depthBehind? a ts = some b) (us : List Token) :
    bracketedFrom? a (ts ++ us) =
      (bracketedFrom? b us).map fun (inside, rest) => (ts ++ inside, rest) := by
  induction ts generalizing a with
  | nil =>
      obtain rfl := Option.some.inj h
      simp
  | cons t ts ih =>
      rw [depthBehind?_cons, Option.bind_eq_some_iff] at h
      obtain ⟨next, ht, hts⟩ := h
      rw [List.cons_append, bracketedFrom?]
      obtain ⟨hopens, rfl⟩ | ⟨hopens, hcloses, rfl⟩ | ⟨hopens, hcloses, rfl⟩ :=
        Token.depthBehind?_cases ht
      · rw [if_pos hopens]
        simp [ih hts, Function.comp_def]
      · rw [hopens, hcloses, if_neg (Nat.succ_ne_zero next), Nat.add_sub_cancel]
        simp [ih hts, Function.comp_def]
      · rw [hopens, hcloses]
        simp [ih hts, Function.comp_def]

/-- A group ends at the bracket that closes one more than are open inside. -/
theorem bracketedFrom?_of_depth (h : depthBehind? a ts = some 0) {close : Token}
    (hclose : close.closes = true) (rest : List Token) :
    bracketedFrom? a (ts ++ close :: rest) = some (ts, rest) := by
  rw [bracketedFrom?_append h, bracketedFrom?, Token.opens_of_closes hclose, hclose]
  simp

/-- A cut is made behind tokens that have no separator. -/
theorem cutFrom?_append {separator : Symbol} (h : depthBehind? a ts = some b)
    (hnone : anyFrom (·.isSymbol separator) a ts = false) (us : List Token) :
    cutFrom? separator a (ts ++ us) =
      (cutFrom? separator b us).map fun (before, after) => (ts ++ before, after) := by
  induction ts generalizing a with
  | nil =>
      obtain rfl := Option.some.inj h
      simp
  | cons t ts ih =>
      rw [depthBehind?_cons, Option.bind_eq_some_iff] at h
      obtain ⟨next, ht, hts⟩ := h
      rw [anyFrom] at hnone
      rw [List.cons_append, cutFrom?]
      obtain ⟨hopens, rfl⟩ | ⟨hopens, hcloses, rfl⟩ | ⟨hopens, hcloses, rfl⟩ :=
        Token.depthBehind?_cases ht
      · rw [if_pos hopens] at hnone ⊢
        simp [ih hts hnone, Function.comp_def]
      · rw [hopens, hcloses, Nat.add_sub_cancel] at hnone
        rw [hopens, hcloses, Nat.add_sub_cancel]
        simp [ih hts hnone, Function.comp_def]
      · rw [hopens, hcloses] at hnone
        obtain ⟨hplain, hnone⟩ := Bool.or_eq_false_iff.mp hnone
        rw [hopens, hcloses, hplain]
        simp [ih hts hnone, Function.comp_def]

/-- A part goes on over tokens that have no separator. -/
theorem splitFrom_append (h : depthBehind? a ts = some b)
    (hnone : anyFrom (·.isSymbol separator) a ts = false) (us : List Token) :
    splitFrom separator a (ts ++ us) = ts.foldr consToFirst (splitFrom separator b us) := by
  induction ts generalizing a with
  | nil =>
      obtain rfl := Option.some.inj h
      rfl
  | cons t ts ih =>
      rw [depthBehind?_cons, Option.bind_eq_some_iff] at h
      obtain ⟨next, ht, hts⟩ := h
      rw [anyFrom] at hnone
      rw [List.cons_append, splitFrom, List.foldr_cons]
      obtain ⟨hopens, rfl⟩ | ⟨hopens, hcloses, rfl⟩ | ⟨hopens, hcloses, rfl⟩ :=
        Token.depthBehind?_cases ht
      · rw [if_pos hopens] at hnone ⊢
        rw [ih hts hnone]
      · rw [hopens, hcloses, Nat.add_sub_cancel] at hnone
        rw [hopens, hcloses, Nat.add_sub_cancel, ← ih hts hnone]
        rfl
      · rw [hopens, hcloses] at hnone
        obtain ⟨hplain, hnone⟩ := Bool.or_eq_false_iff.mp hnone
        rw [hopens, hcloses, hplain, ← ih hts hnone]
        rfl

theorem foldr_consToFirst (ts part : List Token) (parts : List (List Token)) :
    ts.foldr consToFirst (part :: parts) = (ts ++ part) :: parts := by
  induction ts with
  | nil => rfl
  | cons t ts ih => rw [List.foldr_cons, ih, consToFirst, List.cons_append]

section Whole

variable (h : depthBehind? 0 ts = some 0)
  (hnone : anyTopLevel (·.isSymbol separator) ts = false)
include h hnone

theorem cutTopLevel?_none : cutTopLevel? separator ts = none := by
  have hcut := cutFrom?_append h hnone []
  rwa [List.append_nil] at hcut

/-- Tokens without a separator are one part. -/
theorem splitTopLevel_whole : splitTopLevel separator ts = [ts] := by
  have hsplit := splitFrom_append h hnone []
  rw [List.append_nil, splitFrom, foldr_consToFirst, List.append_nil] at hsplit
  exact hsplit

variable {t : Token} (hopens : t.opens = false) (hcloses : t.closes = false)
  (ht : t.isSymbol separator = true) (us : List Token)
include hopens hcloses ht

/-- The first separator is the one behind tokens that hold none. -/
theorem cutTopLevel?_first : cutTopLevel? separator (ts ++ t :: us) = some (ts, us) := by
  rw [cutTopLevel?, cutFrom?_append h hnone, cutFrom?, hopens, hcloses, ht]
  simp

theorem splitTopLevel_first :
    splitTopLevel separator (ts ++ t :: us) = ts :: splitTopLevel separator us := by
  rw [splitTopLevel, splitFrom_append h hnone, splitFrom, hopens, hcloses, ht]
  simp [foldr_consToFirst, splitTopLevel]

end Whole

end Outside

/-! ## What stands outside of brackets -/

/-- Tokens within a line whose brackets match, where every token that stands outside of them has the
property. -/
inductive Balanced : (Token → Prop) → List Token → Prop where
  | nil {P : Token → Prop} : Balanced P []
  | plain {P : Token → Prop} {t : Token} {ts : List Token} (hopens : t.opens = false)
      (hcloses : t.closes = false) (hlayout : t.isLayout = false) (ht : P t)
      (hts : Balanced P ts) : Balanced P (t :: ts)
  | group {P Q : Token → Prop} {first last : Token} {inside ts : List Token}
      (hopens : first.opens = true) (hcloses : last.closes = true) (hinside : Balanced Q inside)
      (hts : Balanced P ts) : Balanced P (first :: (inside ++ last :: ts))

namespace Balanced

variable {P Q : Token → Prop} {ts us : List Token}

theorem mono (h : Balanced P ts) (hPQ : ∀ t, P t → Q t) : Balanced Q ts := by
  induction h with
  | nil => exact .nil
  | plain hopens hcloses hlayout ht _ ih =>
      exact .plain hopens hcloses hlayout (hPQ _ ht) (ih hPQ)
  | group hopens hcloses hinside _ _ ih => exact .group hopens hcloses hinside (ih hPQ)

theorem append (h : Balanced P ts) (hus : Balanced P us) : Balanced P (ts ++ us) := by
  induction h with
  | nil => exact hus
  | plain hopens hcloses hlayout ht _ ih => exact .plain hopens hcloses hlayout ht (ih hus)
  | group hopens hcloses hinside _ _ ih =>
      rw [List.cons_append, List.append_assoc]
      exact .group hopens hcloses hinside (ih hus)

theorem not_isLayout (h : Balanced P ts) {t : Token} (ht : t ∈ ts) : t.isLayout = false := by
  induction h with
  | nil => cases ht
  | plain _ _ hlayout _ _ ih =>
      rcases List.mem_cons.mp ht with rfl | ht
      · exact hlayout
      · exact ih ht
  | group hopens hcloses _ _ ihinside ih =>
      rcases List.mem_cons.mp ht with rfl | ht
      · exact Token.not_isLayout_of_opens hopens
      rcases List.mem_append.mp ht with ht | ht
      · exact ihinside ht
      rcases List.mem_cons.mp ht with rfl | ht
      · exact Token.not_isLayout_of_closes hcloses
      · exact ih ht

theorem depthBehind?_eq (h : Balanced P ts) (a : Nat) : depthBehind? a ts = some a := by
  induction h generalizing a with
  | nil => rfl
  | plain hopens hcloses _ _ _ ih =>
      rw [depthBehind?_cons, Token.depthBehind?_of_not (by simp [hopens]) (by simp [hcloses])]
      exact ih a
  | group hopens hcloses _ _ ihinside ih =>
      rw [depthBehind?_group hopens hcloses (ihinside 0)]
      exact ih a

theorem anyTopLevel_eq_false (h : Balanced P ts) {p : Token → Bool}
    (hp : ∀ t, P t → p t = false) : anyTopLevel p ts = false := by
  rw [anyTopLevel]
  induction h with
  | nil => rfl
  | plain hopens hcloses _ ht _ ih =>
      rw [anyFrom, hopens, hcloses, hp _ ht]
      exact ih hp
  | group hopens hcloses hinside _ _ ih =>
      rw [anyFrom_group hopens hcloses (hinside.depthBehind?_eq 0)]
      exact ih hp

/-- What stands before the bracket that closes a group. -/
theorem bracketed?_close (h : Balanced P ts) {last : Token} (hcloses : last.closes = true)
    (us : List Token) : bracketed? (ts ++ last :: us) = some (ts, us) :=
  bracketedFrom?_of_depth (h.depthBehind?_eq 0) hcloses us

section Separators

variable {separator : Symbol} (h : Balanced P ts) (hp : ∀ t, P t → t.isSymbol separator = false)
include h hp

theorem splitTopLevel_eq : splitTopLevel separator ts = [ts] :=
  splitTopLevel_whole (h.depthBehind?_eq 0) (h.anyTopLevel_eq_false hp)

variable {t : Token} (hopens : t.opens = false) (hcloses : t.closes = false)
  (ht : t.isSymbol separator = true) (us : List Token)
include hopens hcloses ht

theorem cutTopLevel?_separator : cutTopLevel? separator (ts ++ t :: us) = some (ts, us) :=
  cutTopLevel?_first (h.depthBehind?_eq 0) (h.anyTopLevel_eq_false hp) hopens hcloses ht us

theorem splitTopLevel_separator :
    splitTopLevel separator (ts ++ t :: us) = ts :: splitTopLevel separator us :=
  splitTopLevel_first (h.depthBehind?_eq 0) (h.anyTopLevel_eq_false hp) hopens hcloses ht us

end Separators

end Balanced

end DeclaredSchema.Source
