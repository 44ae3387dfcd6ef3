import DeclaredSchema.Proofs.Source.Ahead
import DeclaredSchema.Proofs.Source.Brackets

/-! # Readings over a change of the text

A reading does not depend on everything in the text: not on the numbers of the lines, and not on
what stands behind the place where it ends, as long as a colon or the end of a statement is between.
A `Crossing` is such a change. `Crossing.Carries` says of one reading what it becomes in the changed
text. It also counts brackets, of which a reading closes none that it has not opened. Outside of
them it ends in front of a semicolon.
-/

namespace DeclaredSchema.Source

open Cursor

theorem bind_eq_ok {ε α β : Type} {x : Except ε α} {f : α → Except ε β} {b : β} :
    (x >>= f) = .ok b ↔ ∃ a, x = .ok a ∧ f a = .ok b := by
  cases x with
  | error e => simp [bind, Except.bind]
  | ok a => simp [bind, Except.bind]

/-! ## Inside a statement -/

/-- As `depthBehind?`, but a semicolon that stands outside of all brackets is not gone over. -/
def Token.depthWithin? (depth : Nat) (t : Token) : Option Nat :=
  if t.kind = .symbol .semicolon ∧ depth = 0 then none else t.depthBehind? depth

namespace Token

variable {t : Token} {a b : Nat}

theorem depthWithin?_of_ne (h : t.kind ≠ .symbol .semicolon) (depth : Nat) :
    t.depthWithin? depth = t.depthBehind? depth := if_neg fun hs => h hs.1

theorem depthWithin?_succ (t : Token) (depth : Nat) :
    t.depthWithin? (depth + 1) = t.depthBehind? (depth + 1) :=
  if_neg fun hs => Nat.succ_ne_zero depth hs.2

theorem depthWithin?_eq_some : t.depthWithin? a = some b ↔
    ¬ (t.kind = .symbol .semicolon ∧ a = 0) ∧ t.depthBehind? a = some b := by
  simp [depthWithin?]

end Token

/-- The number of open brackets behind tokens of one statement. -/
def depthWithin? (depth : Nat) (ts : List Token) : Option Nat := ts.foldlM Token.depthWithin? depth

theorem depthWithin?_cons (depth : Nat) (t : Token) (ts : List Token) :
    depthWithin? depth (t :: ts) = (t.depthWithin? depth).bind (depthWithin? · ts) := rfl

theorem depthWithin?_append (depth : Nat) (ts us : List Token) :
    depthWithin? depth (ts ++ us) = (depthWithin? depth ts).bind (depthWithin? · us) :=
  List.foldlM_append

theorem depthBehind?_of_within {ts : List Token} {a b : Nat} (h : depthWithin? a ts = some b) :
    depthBehind? a ts = some b := by
  induction ts generalizing a with
  | nil => exact h
  | cons t ts ih =>
      rw [depthWithin?_cons, Option.bind_eq_some_iff] at h
      obtain ⟨d, ht, hts⟩ := h
      rw [depthBehind?_cons, (Token.depthWithin?_eq_some.mp ht).2]
      exact ih hts

/-- From one place of a statement to a later one, with `before` open brackets at first and `after`
at last. -/
def Passes (before after : Nat) (c d : Cursor) : Prop :=
  ∃ ts, c.rest = ts ++ d.rest ∧ depthWithin? before ts = some after

namespace Passes

variable {a b e : Nat} {c d f : Cursor}

theorem refl (a : Nat) (c : Cursor) : Passes a a c c := ⟨[], rfl, rfl⟩

theorem trans (h : Passes a b c d) (g : Passes b e d f) : Passes a e c f := by
  obtain ⟨ts, hts, hdepth⟩ := h
  obtain ⟨us, hus, hdepth'⟩ := g
  refine ⟨ts ++ us, by rw [hts, hus, List.append_assoc], ?_⟩
  rw [depthWithin?_append, hdepth]
  exact hdepth'

theorem suffix (h : Passes a b c d) : d.rest <:+ c.rest := by
  obtain ⟨ts, hts, -⟩ := h
  exact ⟨ts, hts.symm⟩

theorem length_le (h : Passes a b c d) : d.rest.length ≤ c.rest.length := h.suffix.length_le

theorem advance {t : Token} {ts : List Token} (hc : c.rest = t :: ts)
    (ht : t.depthWithin? a = some b) : Passes a b c c.advance := by
  refine ⟨[t], ?_, ?_⟩
  · rw [Cursor.advance, hc]
    rfl
  · rw [depthWithin?_cons, ht]
    rfl

end Passes

/-! ## What a reading gives -/

/-- A result with the place behind what was read. It may ask for another round. -/
class Reached (ρ : Type) where
  cursor : ρ → Cursor
  move : (Cursor → Cursor) → ρ → ρ
  goesOn : ρ → Bool

instance : Reached Cursor := ⟨id, fun f c => f c, fun _ => false⟩

instance {α : Type} : Reached (α × Cursor) := ⟨Prod.snd, fun f r => (r.1, f r.2), fun _ => false⟩

instance {α : Type} : Reached (Round α) where
  cursor
    | .stop _ c => c
    | .again _ c => c
  move
    | f, .stop v c => .stop v (f c)
    | f, .again v c => .again v (f c)
  goesOn
    | .stop _ _ => false
    | .again _ _ => true

/-- The next token is the same, or the statement ends: the one line ends here, and in the other a
semicolon comes next. -/
def SameHead (ks ls : List Token.Kind) : Prop :=
  ls.head? = ks.head? ∨ ks = [] ∧ ls.head? = some (.symbol .semicolon)

namespace SameHead

variable {ks ls : List Token.Kind}

/-- A question about the next token that a semicolon is no answer to. -/
theorem any (h : SameHead ks ls) {p : Token.Kind → Bool} (hp : p (.symbol .semicolon) = false) :
    ls.head?.any p = ks.head?.any p := by
  obtain hhead | ⟨rfl, hhead⟩ := h
  · rw [hhead]
  · rw [hhead, Option.any_some, hp]
    rfl

theorem eq_some_iff (h : SameHead ks ls) {k : Token.Kind} (hk : k ≠ .symbol .semicolon) :
    ls.head? = some k ↔ ks.head? = some k := by
  obtain hhead | ⟨rfl, hhead⟩ := h
  · rw [hhead]
  · rw [hhead]
    exact ⟨fun h => absurd (Option.some.inj h).symm hk, nofun⟩

theorem bind {α : Type} (h : SameHead ks ls) {f : Token.Kind → Option α}
    (hf : f (.symbol .semicolon) = none) : ls.head?.bind f = ks.head?.bind f := by
  obtain hhead | ⟨rfl, hhead⟩ := h
  · rw [hhead]
  · rw [hhead, Option.bind_some, hf]
    rfl

end SameHead

/-- A change of a text that is not noticed. -/
structure Crossing where
  /-- The places of the text. -/
  Within : Cursor → Prop
  /-- The places in front of what is changed. -/
  Ahead : Cursor → Prop
  /-- The same place in the other text. -/
  cross : Cursor → Cursor
  /-- The numbers of tokens that are taken away and that stand in their place. -/
  lost : Nat
  gained : Nat
  within_later {c d : Cursor} : Within c → d.rest <:+ c.rest → Within d
  ahead_earlier {c d : Cursor} : Ahead d → d.rest <:+ c.rest → Ahead c
  lost_le {c : Cursor} : Ahead c → lost ≤ c.rest.length
  length_cross {c : Cursor} :
    Within c → Ahead c → (cross c).rest.length + lost = c.rest.length + gained
  advance_cross {c : Cursor} :
    Within c → c.rest ≠ [] → Ahead c.advance → (cross c).advance = cross c.advance
  head_cross {c : Cursor} : Within c → Ahead c → SameHead c.kinds (cross c).kinds
  /-- Behind a symbol the next token need not be the same. -/
  second_cross {c : Cursor} {n : String} : Within c → Ahead c →
    c.kinds.head? = some (.name n) → SameHead c.kinds.tail (cross c).kinds.tail

namespace Crossing

/-- From a place of the text to one in front of the change. -/
structure Spans (j : Crossing) (c d : Cursor) : Prop where
  within : j.Within c
  ahead : j.Ahead d

variable {j : Crossing} {c d e : Cursor} {a b : Nat}

theorem Spans.earlier (h : j.Spans c e) (hp : Passes a b d e) : j.Spans c d :=
  ⟨h.within, j.ahead_earlier h.ahead hp.suffix⟩

theorem Spans.later (h : j.Spans c e) (hp : Passes a b c d) : j.Spans d e :=
  ⟨j.within_later h.within hp.suffix, h.ahead⟩

theorem cross_advance (h : j.Spans c c.advance) (hne : c.rest ≠ []) :
    (j.cross c).advance = j.cross c.advance :=
  j.advance_cross h.within hne h.ahead

/-! ## Questions about what is ahead -/

section Questions

variable (h : j.Spans c c)
include h

theorem head?_cross : SameHead c.kinds (j.cross c).kinds := j.head_cross h.within h.ahead

theorem exists_head_cross {t : Token} {ts : List Token} (hc : c.rest = t :: ts) :
    ∃ u us, (j.cross c).rest = u :: us ∧ u.kind = t.kind := by
  obtain hhead | ⟨hend, -⟩ := head?_cross h
  · rw [kinds, kinds, hc] at hhead
    cases hcross : (j.cross c).rest with
    | nil => simp [hcross] at hhead
    | cons u us => exact ⟨u, us, rfl, by simpa [hcross] using hhead⟩
  · rw [kinds, hc] at hend
    cases hend

theorem atSymbol_cross (s : Symbol) (hs : s ≠ .semicolon) :
    (j.cross c).atSymbol s = c.atSymbol s := by
  rw [atSymbol_eq, atSymbol_eq]
  exact decide_eq_decide.mpr ((head?_cross h).eq_some_iff (by simpa using hs))

theorem atSymbol_cross_of_ne_nil (hne : c.rest ≠ []) (s : Symbol) :
    (j.cross c).atSymbol s = c.atSymbol s := by
  rw [atSymbol_eq, atSymbol_eq]
  obtain hhead | ⟨hend, -⟩ := head?_cross h
  · rw [hhead]
  · exact absurd (List.map_eq_nil_iff.mp hend) hne

theorem atName_cross (word : String) : (j.cross c).atName word = c.atName word := by
  rw [atName_eq, atName_eq]
  exact decide_eq_decide.mpr ((head?_cross h).eq_some_iff nofun)

theorem name?_cross : (j.cross c).name? = c.name? := by
  rw [name?_eq, name?_eq]
  exact (head?_cross h).bind rfl

theorem atIdentifier_cross : (j.cross c).atIdentifier = c.atIdentifier := by
  rw [atIdentifier, atIdentifier, name?_cross h]

theorem startsExpression_cross : (j.cross c).startsExpression = c.startsExpression := by
  rw [startsExpression_eq, startsExpression_eq]
  exact (head?_cross h).any rfl

/-- Behind a name the second token is the same. -/
theorem second_cross_of_name {n : String} (hn : c.name? = some n) :
    SameHead c.kinds.tail (j.cross c).kinds.tail := by
  rw [name?_eq] at hn
  obtain ⟨k, hk, hname⟩ := Option.bind_eq_some_iff.mp hn
  obtain ⟨_, rfl⟩ : ∃ m, k = .name m := by
    cases k with
    | name m => exact ⟨m, rfl⟩
    | _ => cases hname
  exact j.second_cross h.within h.ahead hk

/-- A second token that is looked at behind a name only. -/
theorem and_second?_cross {p q : Bool} (same : q = p) (name : p = true → ∃ n, c.name? = some n)
    {f : Token → Bool} {k : Token.Kind}
    (hf : ∀ c : Cursor, c.second?.any f = decide (c.kinds.tail.head? = some k))
    (hk : k ≠ .symbol .semicolon) :
    (q && (j.cross c).second?.any f) = (p && c.second?.any f) := by
  subst same
  cases q with
  | false => rfl
  | true =>
      obtain ⟨n, hn⟩ := name rfl
      rw [hf, hf, decide_eq_decide.mpr ((second_cross_of_name h hn).eq_some_iff hk)]

end Questions

theorem name?_of_atName {word : String} (h : c.atName word = true) : c.name? = some word := by
  obtain ⟨line, rest⟩ := c
  cases rest with
  | nil => cases h
  | cons t ts =>
      have ht : t.kind = .name word := by simpa [atName, Token.isName] using h
      simp [name?, Token.name?, ht]

theorem exists_name_of_atName {word : String} (h : c.atName word = true) :
    ∃ n, c.name? = some n := ⟨word, name?_of_atName h⟩

theorem exists_name_of_atIdentifier (h : c.atIdentifier = true) : ∃ n, c.name? = some n := by
  obtain ⟨n, hn, -⟩ := (Option.any_eq_true _ _).mp h
  exact ⟨n, hn⟩

theorem atComprehension_cross (h : j.Spans c c) :
    (j.cross c).atComprehension = c.atComprehension := by
  rw [atComprehension, atComprehension, atName_cross h,
    and_second?_cross h (atName_cross h "async") exists_name_of_atName (second?_isName "for") nofun]

/-! ## Readings that carry over -/

/-- A step that is made or not, where one may be made. -/
structure Steps (j : Crossing) (a b : Nat) (c : Cursor) (o o' : Option Cursor) : Prop where
  taken : ∀ d, o = some d →
    Passes a b c d ∧ d.rest.length < c.rest.length ∧ (j.Spans c d → o' = some (j.cross d))
  stay : o = none → j.Spans c c → o' = none

/-- What is done behind a step, and what is done without it. -/
abbrev afterStep {β : Type} (f : Cursor → β) (x : β) (o : Option Cursor) : β :=
  match o with
  | some d => f d
  | none => x

/-- What is done without a step, and what is done behind it. -/
abbrev orAfterStep {β : Type} (x : β) (f : Cursor → β) (o : Option Cursor) : β :=
  match o with
  | none => x
  | some d => f d

/-- A reading from `c`, and the same reading when other tokens stand behind the colon. Where it asks
for another round, fewer than `limit` tokens are left. -/
def Carries {ρ : Type} [Reached ρ] (j : Crossing) (limit a b : Nat) (c : Cursor)
    (x y : Except SyntaxError ρ) : Prop :=
  ∀ r, x = .ok r → Passes a b c (Reached.cursor r) ∧
    (Reached.goesOn r → (Reached.cursor r).rest.length < limit) ∧
    (j.Spans c (Reached.cursor r) → y = .ok (Reached.move j.cross r))

/-- A change that leaves as many tokens behind every place as there were. -/
def even (Within : Cursor → Prop) (cross : Cursor → Cursor)
    (later : ∀ {c d : Cursor}, Within c → d.rest <:+ c.rest → Within d)
    (kinds : ∀ {c : Cursor}, Within c → (cross c).kinds = c.kinds)
    (advance : ∀ {c : Cursor}, Within c → (cross c).advance = cross c.advance) : Crossing where
  Within := Within
  Ahead _ := True
  cross := cross
  lost := 0
  gained := 0
  within_later := later
  ahead_earlier _ _ := trivial
  lost_le _ := Nat.zero_le _
  length_cross hc _ := by
    have hlength := congrArg List.length (kinds hc)
    rwa [← length_rest, ← length_rest] at hlength
  advance_cross hc _ _ := advance hc
  head_cross hc _ := .inl (by rw [kinds hc])
  second_cross hc _ _ := .inl (by rw [kinds hc])

/-- No change at all. -/
def refl : Crossing :=
  even (fun _ => True) (fun c => c) (fun _ _ => trivial) (fun _ => rfl) fun _ => rfl

section Carries

variable {ρ σ : Type} [Reached ρ] [Reached σ] {l l' e : Nat} {x y y' : Except SyntaxError ρ}
  {α : Type}

theorem Carries.passes (h : j.Carries l a b c x y) {r : ρ} (hr : x = .ok r) :
    Passes a b c (Reached.cursor r) := (h r hr).1

theorem Carries.crosses (h : j.Carries l a b c x y) {r : ρ} (hr : x = .ok r)
    (hs : j.Spans c (Reached.cursor r)) : y = .ok (Reached.move j.cross r) := (h r hr).2.2 hs

theorem Carries.error (err : SyntaxError) :
    j.Carries l a b c (.error err : Except SyntaxError ρ) y := by
  rintro r ⟨⟩

theorem Carries.read (v : α) : j.Carries l a a c (.ok (v, c)) (.ok (v, j.cross c)) := by
  rintro _ ⟨⟩
  exact ⟨.refl a c, nofun, fun _ => rfl⟩

theorem Carries.here : j.Carries l a a c (.ok c) (.ok (j.cross c)) := by
  rintro _ ⟨⟩
  exact ⟨.refl a c, nofun, fun _ => rfl⟩

theorem Carries.stop (v : α) :
    j.Carries l a a c (.ok (Round.stop v c)) (.ok (.stop v (j.cross c))) := by
  rintro _ ⟨⟩
  exact ⟨.refl a c, nofun, fun _ => rfl⟩

theorem Carries.again (v : α) (h : c.rest.length < l) :
    j.Carries l a a c (.ok (Round.again v c)) (.ok (.again v (j.cross c))) := by
  rintro _ ⟨⟩
  exact ⟨.refl a c, fun _ => h, fun _ => rfl⟩

theorem Carries.congr (h : j.Carries l a b c x y) (same : j.Spans c c → y' = y) :
    j.Carries l a b c x y' := by
  intro r hr
  obtain ⟨hp, hl, hy⟩ := h r hr
  exact ⟨hp, hl, fun hs => (same (hs.earlier hp)).trans (hy hs)⟩

/-- A reading that begins later. -/
theorem Carries.after (hp : Passes a b c d) (h : j.Carries l b e d x y)
    (same : j.Spans c d → y' = y) : j.Carries l a e c x y' := by
  intro r hr
  obtain ⟨hq, hl, hy⟩ := h r hr
  exact ⟨hp.trans hq, hl, fun hs => (same (hs.earlier hq)).trans (hy (hs.later hp))⟩

/-- One reading after another. -/
theorem Carries.bind (h : j.Carries 0 a b c x y) {f g : ρ → Except SyntaxError σ}
    (hf : ∀ r, Passes a b c (Reached.cursor r) →
      j.Carries l b e (Reached.cursor r) (f r) (g (Reached.move j.cross r))) :
    j.Carries l a e c (x >>= f) (y >>= g) := by
  intro s hs
  cases x with
  | error err => cases hs
  | ok r =>
      obtain ⟨hp, -, hy⟩ := h r rfl
      obtain ⟨hq, hl, hy'⟩ := hf r hp s hs
      refine ⟨hp.trans hq, hl, fun hspans => ?_⟩
      rw [hy (hspans.earlier hq)]
      exact hy' (hspans.later hp)

theorem Carries.check {ok : Bool} {f g : Unit → Except SyntaxError ρ}
    (h : j.Carries l a b c (f ()) (g ())) :
    j.Carries l a b c (checkTarget ok d >>= f) (checkTarget ok (j.cross d) >>= g) := by
  cases ok with
  | true => exact h
  | false => exact .error _

theorem Carries.readBind {x y : Except SyntaxError (α × Cursor)} (h : j.Carries 0 a b c x y)
    {f g : α × Cursor → Except SyntaxError σ}
    (hf : ∀ v d, Passes a b c d → j.Carries l b e d (f (v, d)) (g (v, j.cross d))) :
    j.Carries l a e c (x >>= f) (y >>= g) :=
  h.bind fun r => hf r.1 r.2

theorem Carries.hereBind {x y : Except SyntaxError Cursor} (h : j.Carries 0 a b c x y)
    {f g : Cursor → Except SyntaxError σ}
    (hf : ∀ d, Passes a b c d → j.Carries l b e d (f d) (g (j.cross d))) :
    j.Carries l a e c (x >>= f) (y >>= g) :=
  h.bind hf

theorem Carries.ite {p p' : Bool} (same : j.Spans c c → p' = p) {u u' : Except SyntaxError ρ}
    (hpos : p = true → j.Carries l a b c x y) (hneg : p = false → j.Carries l a b c u u') :
    j.Carries l a b c (if p then x else u) (if p' then y else u') := by
  cases p with
  | true => exact (hpos rfl).congr fun hs => by rw [same hs]; rfl
  | false => exact (hneg rfl).congr fun hs => by rw [same hs]; rfl

theorem Carries.given {p : Prop} [Decidable p] {u u' : Except SyntaxError ρ}
    (hpos : p → j.Carries l a b c x y) (hneg : ¬ p → j.Carries l a b c u u') :
    j.Carries l a b c (if p then x else u) (if p then y else u') := by
  split
  · next hp => exact hpos hp
  · next hp => exact hneg hp

theorem Carries.step {o o' : Option Cursor} (h : j.Steps a b c o o')
    {f g : Cursor → Except SyntaxError ρ}
    (taken : ∀ d, Passes a b c d → d.rest.length < c.rest.length →
      j.Carries l b e d (f d) (g (j.cross d)))
    (stay : j.Carries l a e c x y) :
    j.Carries l a e c (afterStep f x o) (afterStep g y o') := by
  cases o with
  | none => exact stay.congr fun hs => by rw [h.stay rfl hs]
  | some d =>
      obtain ⟨hp, hlt, ho⟩ := h.taken d rfl
      intro r hr
      obtain ⟨hq, hl, hy⟩ := taken d hp hlt r hr
      refine ⟨hp.trans hq, hl, fun hs => ?_⟩
      rw [ho (hs.earlier hq)]
      exact hy (hs.later hp)

theorem Carries.orStep {o o' : Option Cursor} (h : j.Steps a b c o o')
    {f g : Cursor → Except SyntaxError ρ} (stay : j.Carries l a e c x y)
    (taken : ∀ d, Passes a b c d → d.rest.length < c.rest.length →
      j.Carries l b e d (f d) (g (j.cross d))) :
    j.Carries l a e c (orAfterStep x f o) (orAfterStep y g o') := by
  have hstep := Carries.step h taken stay
  cases o <;> cases o' <;> exact hstep

end Carries

/-! ## Repetitions -/

theorem Spans.length_cross (h : j.Spans c c) :
    (j.cross c).rest.length + j.lost = c.rest.length + j.gained := j.length_cross h.within h.ahead

/-- A repetition, if its rounds carry over. Every round that asks for another one reads a token, so
both repetitions end with a round that stops. -/
theorem Carries.rounds {α : Type} {round round' : α → Cursor → Except SyntaxError (Round α)}
    (h : ∀ v e, Passes a a c e →
      j.Carries e.rest.length a a e (round v e) (round' v (j.cross e))) {l : Nat} (v : α) :
    j.Carries l a a c (rounds round v c) (rounds round' v (j.cross c)) := by
  have hfuel : ∀ n n' v e, Passes a a c e → e.rest.length < n →
      (j.Spans e e → (j.cross e).rest.length < n') →
        j.Carries l a a e (roundsFuel round n v e) (roundsFuel round' n' v (j.cross e)) := by
    intro n
    induction n with
    | zero => exact fun _ _ _ _ hn => absurd hn (Nat.not_lt_zero _)
    | succ n ih =>
        intro n' v e he hn hn' r hr
        rw [roundsFuel] at hr
        cases hround : round v e with
        | error err =>
            rw [hround] at hr
            cases hr
        | ok outcome =>
            obtain ⟨hp, hl, hcross⟩ := h v e he outcome hround
            rw [hround] at hr
            have hpositive (hs : j.Spans e e) : ∃ m, n' = m + 1 :=
              ⟨n' - 1, by have := hn' hs; omega⟩
            cases outcome with
            | stop w d =>
                cases hr
                refine ⟨hp, fun hagain => absurd hagain Bool.false_ne_true, fun hs => ?_⟩
                obtain ⟨m, rfl⟩ := hpositive (hs.earlier hp)
                rw [roundsFuel, hcross hs]
                rfl
            | again w d =>
                have hless : d.rest.length < e.rest.length := hl rfl
                -- The second repetition may begin only where both texts are read.
                have hmore (m : Nat) (hm : j.Spans d d → (j.cross d).rest.length < m) :=
                  ih m w d (he.trans hp) (by omega) hm r hr
                have hd (hs : j.Spans e d) : (j.cross d).rest.length < n' - 1 := by
                  have hp : Passes a a e d := hp
                  have := (hs.earlier hp).length_cross
                  have := (hs.later hp).length_cross
                  have := hn' (hs.earlier hp)
                  omega
                obtain ⟨hq, hl', -⟩ := hmore ((j.cross d).rest.length + 1) fun _ =>
                  Nat.lt_succ_self _
                refine ⟨hp.trans hq, hl', fun hs => ?_⟩
                obtain ⟨m, rfl⟩ := hpositive (hs.earlier (hp.trans hq))
                rw [roundsFuel, hcross (hs.earlier hq)]
                exact (hmore m fun _ => hd (hs.earlier hq)).2.2 (hs.later hp)
  exact hfuel _ _ v c (.refl a c) (Nat.lt_succ_self _) fun _ => Nat.lt_succ_self _

end Crossing

/-! ## Steps -/

namespace Crossing

variable {j : Crossing} {c : Cursor} {a b : Nat}

/-- Stepping over a token that is looked at alone. -/
theorem Steps.of_head {p p' : Bool} (same : j.Spans c c → p' = p)
    (turn : p = true → ∃ t ts, c.rest = t :: ts ∧ t.depthWithin? a = some b) :
    j.Steps a b c (if p then some c.advance else none)
      (if p' then some (j.cross c).advance else none) := by
  constructor
  · intro d hd
    cases p with
    | false => cases hd
    | true =>
        obtain rfl : c.advance = d := Option.some.inj hd
        obtain ⟨t, ts, hc, ht⟩ := turn rfl
        have hp : Passes a b c c.advance := .advance hc ht
        refine ⟨hp, ?_, fun hs => ?_⟩
        · rw [Cursor.advance, hc]
          exact Nat.lt_succ_self _
        · rw [same (hs.earlier hp), if_pos rfl, cross_advance hs (hc ▸ List.cons_ne_nil t ts)]
  · intro hn hs
    cases p with
    | true => cases hn
    | false => rw [same hs]; rfl

theorem exists_of_atSymbol {s : Symbol} (h : c.atSymbol s = true) :
    ∃ t ts, c.rest = t :: ts ∧ t.kind = .symbol s := by
  obtain ⟨line, rest⟩ := c
  cases rest with
  | nil => cases h
  | cons t ts => exact ⟨t, ts, rfl, by simpa [atSymbol, Token.isSymbol] using h⟩

theorem exists_of_name? {n : String} (h : c.name? = some n) :
    ∃ t ts, c.rest = t :: ts ∧ t.kind = .name n := by
  obtain ⟨line, rest⟩ := c
  cases rest with
  | nil => cases h
  | cons t ts =>
      obtain ⟨k, line⟩ := t
      cases k <;> simp [name?, Token.name?] at h ⊢
      exact h

theorem depthBehind?_of_name {t : Token} {n : String} (h : t.kind = .name n) (a : Nat) :
    t.depthBehind? a = some a := by
  simp [Token.depthBehind?, Token.opens, Token.opens?, Token.closes, Token.closes?, h]

theorem depthWithin?_of_name {t : Token} {n : String} (h : t.kind = .name n) (a : Nat) :
    t.depthWithin? a = some a := by
  rw [Token.depthWithin?_of_ne (by simp [h]), depthBehind?_of_name h]

/-- What a symbol does to the number of open brackets. -/
def turn (s : Symbol) (a : Nat) : Option Nat := (Token.mk (.symbol s) 0).depthWithin? a

/-- A semicolon opens and closes nothing. -/
theorem ne_semicolon_of_turn {s : Symbol} {a b : Nat} (h : turn s a = some b) (hab : b ≠ a) :
    s ≠ .semicolon := by
  rintro rfl
  cases a with
  | zero => cases h
  | succ a => exact hab (Option.some.inj h).symm

theorem depthWithin?_of_symbol {t : Token} {s : Symbol} (h : t.kind = .symbol s) (a : Nat) :
    t.depthWithin? a = turn s a := by
  obtain ⟨k, line⟩ := t
  obtain rfl : k = .symbol s := h
  rfl

theorem Steps.of_symbol (s : Symbol) (same : j.Spans c c → (j.cross c).atSymbol s = c.atSymbol s)
    (h : turn s a = some b) : j.Steps a b c (c.eat? s) ((j.cross c).eat? s) := by
  refine .of_head same fun hs => ?_
  obtain ⟨t, ts, hc, ht⟩ := exists_of_atSymbol hs
  exact ⟨t, ts, hc, (depthWithin?_of_symbol ht a).trans h⟩

/-- As `turn`, for the symbols that do not separate statements. -/
def turnWithin (s : Symbol) (a : Nat) : Option Nat := if s = .semicolon then none else turn s a

theorem turnWithin_eq_some {s : Symbol} :
    turnWithin s a = some b ↔ s ≠ .semicolon ∧ turn s a = some b := by
  simp [turnWithin]

theorem turnWithin_of_turn {s : Symbol} (h : turn s a = some b) (hab : b ≠ a) :
    turnWithin s a = some b := turnWithin_eq_some.mpr ⟨ne_semicolon_of_turn h hab, h⟩

theorem steps_eat? (s : Symbol) (h : turnWithin s a = some b) :
    j.Steps a b c (c.eat? s) ((j.cross c).eat? s) := by
  obtain ⟨hs, h⟩ := turnWithin_eq_some.mp h
  exact .of_symbol s (fun h => atSymbol_cross h s hs) h

/-- Symbols that are no brackets and do not separate statements. -/
abbrev Plain (symbols : List Symbol) : Prop :=
  ∀ s ∈ symbols, s ≠ .semicolon ∧ s.opens? = none ∧ s.closes? = none

theorem steps_eatAny? {symbols : List Symbol} (hplain : Plain symbols) :
    j.Steps a a c (c.eatAny? symbols) ((j.cross c).eatAny? symbols) := by
  refine .of_head (fun h => ?_) fun hs => ?_
  · rw [Bool.eq_iff_iff, List.any_eq_true, List.any_eq_true]
    refine exists_congr fun s => and_congr_right fun hs => ?_
    rw [atSymbol_cross h s (hplain s hs).1]
  · obtain ⟨s, hmem, hs⟩ := List.any_eq_true.mp hs
    obtain ⟨t, ts, hc, ht⟩ := exists_of_atSymbol hs
    obtain ⟨hsemicolon, hopens, hcloses⟩ := hplain s hmem
    have hturn : turn s a = some a := by
      simp [turn, Token.depthWithin?, Token.depthBehind?, Token.opens, Token.opens?, Token.closes,
        Token.closes?, hsemicolon, hopens, hcloses]
    exact ⟨t, ts, hc, (depthWithin?_of_symbol ht a).trans hturn⟩

theorem steps_eatName? (word : String) : j.Steps a a c (c.eatName? word)
    ((j.cross c).eatName? word) := by
  refine .of_head (fun h => atName_cross h word) fun hs => ?_
  obtain ⟨n, hn⟩ := exists_name_of_atName hs
  obtain ⟨t, ts, hc, ht⟩ := exists_of_name? hn
  exact ⟨t, ts, hc, depthWithin?_of_name ht a⟩

theorem Steps.or {o o' u u' : Option Cursor} (h : j.Steps a b c o o') (g : j.Steps a b c u u') :
    j.Steps a b c (o.or u) (o'.or u') := by
  cases o with
  | some d =>
      obtain ⟨hp, hlt, ho⟩ := h.taken d rfl
      refine ⟨fun e he => ?_, nofun⟩
      obtain rfl : d = e := Option.some.inj he
      exact ⟨hp, hlt, fun hs => by rw [ho hs]; rfl⟩
  | none =>
      refine ⟨fun e he => ?_, fun hn hs => ?_⟩
      · obtain ⟨hp, hlt, hu⟩ := g.taken e he
        exact ⟨hp, hlt, fun hs => by rw [h.stay rfl (hs.earlier hp), hu hs]; rfl⟩
      · rw [h.stay rfl hs, g.stay hn hs]
        rfl

theorem passes_name (h : ∃ w, c.name? = some w) (k : Nat) :
    Passes k k c c.advance ∧ c.advance.rest.length < c.rest.length := by
  obtain ⟨w, hw⟩ := h
  obtain ⟨t, ts, hc, ht⟩ := exists_of_name? hw
  refine ⟨.advance hc (depthWithin?_of_name ht k), ?_⟩
  rw [advance, hc]
  exact Nat.lt_succ_self _

theorem exists_of_second? {f : Token → Bool} (h : c.second?.any f = true) :
    ∃ t u ts, c.rest = t :: u :: ts ∧ f u = true := by
  obtain ⟨line, rest⟩ := c
  match rest with
  | [] => cases h
  | [t] => cases h
  | t :: u :: ts => exact ⟨t, u, ts, rfl, h⟩

theorem ne_nil_of_name (h : ∃ w, c.name? = some w) : c.rest ≠ [] := by
  obtain ⟨w, hw⟩ := h
  obtain ⟨t, ts, hc, -⟩ := exists_of_name? hw
  exact hc ▸ List.cons_ne_nil t ts

theorem ne_nil_of_second? {f : Token → Bool} (h : c.second?.any f = true) :
    c.advance.rest ≠ [] := by
  obtain ⟨t, u, ts, hc, -⟩ := exists_of_second? h
  rw [advance, hc]
  exact List.cons_ne_nil u ts

/-- From a name over what stands behind it. -/
theorem passes_second (h : ∃ w, c.name? = some w) {f : Token → Bool}
    (hsecond : c.second?.any f = true) (k : Nat)
    (plain : ∀ t, f t = true → t.depthWithin? k = some k) :
    Passes k k c c.advance.advance ∧ c.advance.advance.rest.length < c.rest.length := by
  obtain ⟨t, u, ts, hc, hu⟩ := exists_of_second? hsecond
  obtain ⟨hp, hlt⟩ := passes_name h k
  have hadvance : c.advance.rest = u :: ts := by rw [advance, hc]
  refine ⟨hp.trans (.advance hadvance (plain u hu)), ?_⟩
  rw [advance, hadvance, hc]
  exact Nat.lt_succ_of_lt (Nat.lt_succ_self _)

theorem depthWithin?_of_isSymbol {t : Token} {s : Symbol} (h : t.isSymbol s = true)
    (hs : turn s a = some a) : t.depthWithin? a = some a :=
  (depthWithin?_of_symbol (by simpa [Token.isSymbol] using h) a).trans hs

theorem depthWithin?_of_isName {t : Token} {w : String} (h : t.isName w = true) (a : Nat) :
    t.depthWithin? a = some a := depthWithin?_of_name (by simpa [Token.isName] using h) a

theorem suffix_advance (c : Cursor) : c.advance.rest <:+ c.rest := by
  obtain ⟨line, rest⟩ := c
  cases rest with
  | nil => exact List.suffix_rfl
  | cons t ts => exact List.suffix_cons t ts

theorem cross_advance_advance (h : j.Spans c c.advance.advance) (hne : c.advance.rest ≠ []) :
    (j.cross c).advance.advance = j.cross c.advance.advance := by
  have hne' : c.rest ≠ [] := fun hend =>
    hne (List.suffix_nil.mp (hend ▸ suffix_advance c))
  rw [cross_advance ⟨h.within, j.ahead_earlier h.ahead (suffix_advance c.advance)⟩ hne',
    cross_advance ⟨j.within_later h.within (suffix_advance c), h.ahead⟩ hne]

/-- A step that may be left out. -/
theorem Steps.getD {o o' : Option Cursor} (h : j.Steps a a c o o') :
    Passes a a c (o.getD c) ∧
      (j.Spans c (o.getD c) → o'.getD (j.cross c) = j.cross (o.getD c)) := by
  cases o with
  | none => exact ⟨.refl a c, fun hs => by rw [h.stay rfl hs]; rfl⟩
  | some d =>
      obtain ⟨hp, -, hd⟩ := h.taken d rfl
      exact ⟨hp, fun hs => by rw [hd hs]; rfl⟩

theorem passes_skip (s : Symbol) (h : turnWithin s a = some a) :
    Passes a a c (c.skip s) ∧ (j.Spans c (c.skip s) → (j.cross c).skip s = j.cross (c.skip s)) :=
  (steps_eat? s h).getD

theorem Steps.map {o o' : Option Cursor} (h : j.Steps a b c o o') {f g : Cursor → Cursor}
    (hf : ∀ d, Passes b b d (f d) ∧ (j.Spans d (f d) → g (j.cross d) = j.cross (f d))) :
    j.Steps a b c (o.map f) (o'.map g) := by
  constructor
  · intro e he
    obtain ⟨d, hd, rfl⟩ := Option.map_eq_some_iff.mp he
    obtain ⟨hp, hlt, ho⟩ := h.taken d hd
    obtain ⟨hq, hg⟩ := hf d
    refine ⟨hp.trans hq, Nat.lt_of_le_of_lt hq.length_le hlt, fun hs => ?_⟩
    rw [ho (hs.earlier hq), Option.map_some, hg (hs.later hp)]
  · intro hn hs
    rw [h.stay (Option.map_eq_none_iff.mp hn) hs]
    rfl

/-- Two words at once. -/
theorem steps_words (first second : String) : j.Steps a a c
    (if c.atName first && c.second?.any (·.isName second) then some c.advance.advance else none)
    (if (j.cross c).atName first && (j.cross c).second?.any (·.isName second) then
      some (j.cross c).advance.advance else none) := by
  have hsame (h : j.Spans c c) := and_second?_cross h (atName_cross h first)
    exists_name_of_atName (second?_isName second) nofun
  constructor
  · intro d hd
    split at hd
    · next hwords =>
        obtain rfl := Option.some.inj hd
        obtain ⟨hfirst, hsecond⟩ := Bool.and_eq_true_iff.mp hwords
        obtain ⟨hp, hlt⟩ := passes_second (exists_name_of_atName hfirst) hsecond a
          fun t ht => depthWithin?_of_isName ht a
        refine ⟨hp, hlt, fun hs => ?_⟩
        rw [if_pos ((hsame (hs.earlier hp)).trans hwords),
          cross_advance_advance hs (ne_nil_of_second? hsecond)]
    · cases hd
  · intro hn hs
    split at hn
    · cases hn
    · next hwords => rw [if_neg (by rw [hsame hs]; exact hwords)]

theorem carries_identifier {l : Nat} :
    j.Carries l a a c c.identifier (j.cross c).identifier := by
  refine .ite atIdentifier_cross (fun h => ?_) fun _ => .error _
  exact .after (passes_name (exists_name_of_atIdentifier h) a).1 .here
    fun hs => congrArg Except.ok (cross_advance hs (ne_nil_of_name (exists_name_of_atIdentifier h)))

theorem carries_expect (s : Symbol) (h : turnWithin s a = some b) {l : Nat} :
    j.Carries l a b c (c.expect s) ((j.cross c).expect s) :=
  .step (steps_eat? s h) (fun _ _ _ => .here) (.error _)

theorem carries_expectName (word : String) {l : Nat} :
    j.Carries l a a c (c.expectName word) ((j.cross c).expectName word) :=
  .step (steps_eatName? word) (fun _ _ _ => .here) (.error _)

end Crossing

end DeclaredSchema.Source
