import DeclaredSchema.Proofs.Source.Ahead
import DeclaredSchema.Proofs.Source.Brackets
import DeclaredSchema.Proofs.Source.TokenStreams

/-! # Parts and the separators between them

Cutting tokens at the separators outside of brackets loses nothing but the separators: with these
between them the parts are the tokens again. Tokens whose brackets match have one part more than
separators outside of brackets, and parts whose brackets match are what a cut gives back
(`splitTopLevel_joins`).
-/

namespace DeclaredSchema.Source

/-- The brackets of some tokens match, by their number alone or by their kinds as well. -/
inductive Matching where
  | byNumber
  | byKind
  deriving DecidableEq

def Matching.Holds : Matching → List Token → Prop
  | byNumber, ts => depthBehind? 0 ts = some 0
  | byKind, ts => openBehind? ts = some []

instance : (m : Matching) → (ts : List Token) → Decidable (m.Holds ts)
  | .byNumber, ts => inferInstanceAs (Decidable (depthBehind? 0 ts = some 0))
  | .byKind, ts => inferInstanceAs (Decidable (openBehind? ts = some []))

/-- The token at a place is a separator, and no bracket is open in front of it. -/
def outerSeparator (separator : Symbol) (ts : List Token) (place : Nat) : Bool :=
  ts[place]?.any (·.isSymbol separator) && depthBehind? 0 (ts.take place) = some 0

/-- The number of separators outside of brackets. -/
def outerSeparators (separator : Symbol) (ts : List Token) : Nat :=
  (List.range ts.length).countP (outerSeparator separator ts)

/-- Parts with single tokens between them. -/
def interleaved : List (List Token) → List Token → List Token
  | part :: parts, t :: ts => part ++ t :: interleaved parts ts
  | parts, _ => parts.flatten

/-- The tokens are the parts with one separator between each two of them. -/
structure Interleaves (separator : Symbol) (parts : List (List Token))
    (separators ts : List Token) : Prop where
  between : separators.length + 1 = parts.length
  separates : ∀ t ∈ separators, t.kind = .symbol separator
  joined : interleaved parts separators = ts

section Joined

variable {separator : Symbol} {parts : List (List Token)} {separators ts : List Token} {t : Token}

theorem Interleaves.consToFirst (h : Interleaves separator parts separators ts) (t : Token) :
    Interleaves separator (consToFirst t parts) separators (t :: ts) := by
  obtain ⟨hbetween, hseparates, rfl⟩ := h
  cases parts with
  | nil => cases hbetween
  | cons part parts =>
      refine ⟨hbetween, hseparates, ?_⟩
      cases separators <;> rfl

/-- A cut loses nothing, wherever the brackets stand. -/
theorem exists_interleaves_splitFrom (separator : Symbol) (depth : Nat) (ts : List Token) :
    ∃ separators, Interleaves separator (splitFrom separator depth ts) separators ts := by
  fun_induction splitFrom separator depth ts with
  | case1 => exact ⟨[], rfl, List.forall_mem_nil _, rfl⟩
  | case4 depth t ts hopens hcloses hseparator ih =>
      rw [Bool.and_eq_true] at hseparator
      have ht : t.kind = .symbol separator := by simpa [Token.isSymbol] using hseparator.2
      obtain ⟨separators, hbetween, hseparates, hjoined⟩ := ih
      refine ⟨t :: separators, congrArg (· + 1) hbetween, ?_, ?_⟩
      · exact List.forall_mem_cons.mpr ⟨ht, hseparates⟩
      · rw [interleaved, hjoined, List.nil_append]
  | case2 _ t _ _ ih | case3 _ t _ _ _ ih | case5 _ t _ _ _ _ ih =>
      obtain ⟨separators, h⟩ := ih
      exact ⟨separators, h.consToFirst t⟩

theorem kindsOf_intercalate (t : Token) (parts : List (List Token)) :
    kindsOf ([t].intercalate parts) = [t.kind].intercalate (parts.map kindsOf) := by
  induction parts with
  | nil => rfl
  | cons part parts ih =>
      cases parts with
      | nil => simp [List.intercalate]
      | cons next parts =>
          have hne : (next :: parts).map kindsOf ≠ [] := List.cons_ne_nil _ _
          rw [List.intercalate_cons_of_ne_nil (List.cons_ne_nil _ _), kindsOf_append,
            kindsOf_append, ih]
          exact (List.intercalate_cons_of_ne_nil hne).symm

/-- The kinds of the tokens are those of the parts with the separator between them. -/
theorem Interleaves.intercalate_kindsOf (h : Interleaves separator parts separators ts) :
    [.symbol separator].intercalate (parts.map kindsOf) = kindsOf ts := by
  obtain ⟨hbetween, hseparates, rfl⟩ := h
  induction separators generalizing parts with
  | nil =>
      obtain ⟨part, rfl⟩ := List.length_eq_one_iff.mp hbetween.symm
      simp [interleaved, List.intercalate]
  | cons u separators ih =>
      obtain ⟨hu, hseparates⟩ := List.forall_mem_cons.mp hseparates
      cases parts with
      | nil => cases hbetween
      | cons part parts =>
          have hrest : separators.length + 1 = parts.length := Nat.succ.inj hbetween
          have hne : parts.map kindsOf ≠ [] := by
            rw [ne_eq, List.map_eq_nil_iff]
            exact List.ne_nil_of_length_pos (by omega)
          rw [List.map_cons, List.intercalate_cons_of_ne_nil hne, ih hrest hseparates, interleaved,
            kindsOf_append, List.append_assoc, ← hu]
          rfl

end Joined

/-! ## Separators outside of brackets -/

section Outer

variable {separator : Symbol} {ts us : List Token} {t : Token} {a b : Nat}

theorem Token.plain_of_kind (hopens : separator.opens? = none) (hcloses : separator.closes? = none)
    (ht : t.kind = .symbol separator) : t.opens = false ∧ t.closes = false := by
  rw [Token.opens_of_symbol ht, Token.closes_of_symbol ht, hopens, hcloses]
  exact ⟨rfl, rfl⟩

theorem depthBehind?_separator (hopens : separator.opens? = none)
    (hcloses : separator.closes? = none) (ht : t.kind = .symbol separator) (depth : Nat)
    (ts : List Token) : depthBehind? depth (t :: ts) = depthBehind? depth ts := by
  obtain ⟨htopens, htcloses⟩ := Token.plain_of_kind hopens hcloses ht
  rw [depthBehind?_cons, Token.depthBehind?_of_not (by simp [htopens]) (by simp [htcloses])]
  rfl

/-- Tokens are searched up to the first one that is found outside of brackets. -/
theorem exists_first_of_anyFrom {p : Token → Bool} (h : depthBehind? a ts = some b)
    (hsome : anyFrom p a ts = true) :
    ∃ front t rest, ts = front ++ t :: rest ∧ depthBehind? a front = some 0 ∧
      anyFrom p a front = false ∧ t.opens = false ∧ t.closes = false ∧ p t = true := by
  induction ts generalizing a with
  | nil => cases hsome
  | cons t ts ih =>
      rw [depthBehind?_cons, Option.bind_eq_some_iff] at h
      obtain ⟨next, ht, hts⟩ := h
      rw [anyFrom] at hsome
      have further (hmore : anyFrom p next ts = true)
          (hcons : ∀ us, anyFrom p a (t :: us) = anyFrom p next us) :
          ∃ front u rest, t :: ts = front ++ u :: rest ∧ depthBehind? a front = some 0 ∧
            anyFrom p a front = false ∧ u.opens = false ∧ u.closes = false ∧ p u = true := by
        obtain ⟨front, u, rest, rfl, hdepth, hfront, hu⟩ := ih hts hmore
        refine ⟨t :: front, u, rest, rfl, ?_, ?_, hu⟩
        · rw [depthBehind?_cons, ht, Option.bind_some, hdepth]
        · rw [hcons, hfront]
      obtain ⟨hopens, rfl⟩ | ⟨hopens, hcloses, rfl⟩ | ⟨hopens, hcloses, rfl⟩ :=
        Token.depthBehind?_cases ht
      · rw [if_pos hopens] at hsome
        exact further hsome fun us => by rw [anyFrom, if_pos hopens]
      · rw [hopens, hcloses, Nat.add_sub_cancel] at hsome
        exact further hsome fun us => by rw [anyFrom, hopens, hcloses, Nat.add_sub_cancel]; rfl
      · rw [hopens, hcloses] at hsome
        by_cases hfound : (decide (next = 0) && p t) = true
        · obtain ⟨hzero, hp⟩ := Bool.and_eq_true_iff.mp hfound
          rw [of_decide_eq_true hzero]
          exact ⟨[], t, ts, rfl, rfl, rfl, hopens, hcloses, hp⟩
        · rw [Bool.not_eq_true] at hfound
          rw [hfound] at hsome
          exact further hsome fun us => by rw [anyFrom, hopens, hcloses, hfound]; rfl

/-- Behind tokens whose brackets match the count goes on. -/
theorem outerSeparators_append (h : depthBehind? 0 ts = some 0) (us : List Token) :
    outerSeparators separator (ts ++ us) =
      outerSeparators separator ts + outerSeparators separator us := by
  have hfront (place : Nat) (hplace : place ∈ List.range ts.length) :
      outerSeparator separator (ts ++ us) place = true ↔
        outerSeparator separator ts place = true := by
    have hlt := List.mem_range.mp hplace
    rw [outerSeparator, outerSeparator, List.getElem?_append_left hlt,
      List.take_append_of_le_length (Nat.le_of_lt hlt)]
  have hbehind (place : Nat) :
      outerSeparator separator (ts ++ us) (ts.length + place) =
        outerSeparator separator us place := by
    rw [outerSeparator, outerSeparator, List.getElem?_append_right (Nat.le_add_right _ _),
      Nat.add_sub_cancel_left, List.take_length_add_append, depthBehind?_append, h,
      Option.bind_some]
  rw [outerSeparators, List.length_append, List.range_add, List.countP_append,
    List.countP_congr hfront, List.countP_map]
  congr 2
  exact funext hbehind

theorem outerSeparators_singleton (ht : t.isSymbol separator = true) :
    outerSeparators separator [t] = 1 := by
  simp [outerSeparators, outerSeparator, ht, depthBehind?]

/-- The two ways to say that no separator stands outside of brackets. -/
theorem outerSeparators_eq_zero_iff (hopens : separator.opens? = none)
    (hcloses : separator.closes? = none) (h : depthBehind? 0 ts = some 0) :
    outerSeparators separator ts = 0 ↔ anyTopLevel (·.isSymbol separator) ts = false := by
  constructor
  · intro hzero
    by_contra hsome
    obtain ⟨front, t, rest, rfl, hfront, -, -, -, ht⟩ :=
      exists_first_of_anyFrom h (Bool.not_eq_false _ ▸ hsome)
    rw [outerSeparators_append hfront, ← List.singleton_append, outerSeparators_append,
      outerSeparators_singleton ht] at hzero
    · omega
    · have hkind : t.kind = .symbol separator := by simpa [Token.isSymbol] using ht
      exact depthBehind?_separator hopens hcloses hkind 0 []
  · intro hnone
    rw [outerSeparators, List.countP_eq_zero]
    intro place _ hplace
    rw [outerSeparator, Bool.and_eq_true, decide_eq_true_eq] at hplace
    obtain ⟨hsymbol, hfront⟩ := hplace
    obtain ⟨t, hplace, ht⟩ := (Option.any_eq_true _ _).mp hsymbol
    have hkind : t.kind = .symbol separator := by simpa [Token.isSymbol] using ht
    obtain ⟨htopens, htcloses⟩ := Token.plain_of_kind hopens hcloses hkind
    obtain ⟨hlt, rfl⟩ := List.getElem?_eq_some_iff.mp hplace
    rw [anyTopLevel, ← List.take_append_drop place ts, anyFrom_append hfront,
      List.drop_eq_getElem_cons hlt, anyFrom, htopens, htcloses, ht] at hnone
    simp at hnone

end Outer

/-! ## Brackets of one kind -/

/-- The open brackets behind some tokens, in front of which the given ones are open. -/
def openedBehind? (opened : List Bracket) (ts : List Token) : Option (List Bracket) :=
  ts.foldlM (fun opened t => t.openBehind? opened) opened

section Kinds

variable {t : Token} {ts : List Token} {opened next : List Bracket}

theorem openedBehind?_cons (opened : List Bracket) (t : Token) (ts : List Token) :
    openedBehind? opened (t :: ts) = (t.openBehind? opened).bind (openedBehind? · ts) := rfl

theorem openBehind?_append (ts us : List Token) :
    openBehind? (ts ++ us) = (openBehind? ts).bind (openedBehind? · us) :=
  List.foldlM_append

theorem Token.depthBehind?_of_opened (h : t.openBehind? opened = some next) :
    t.depthBehind? opened.length = some next.length := by
  unfold Token.openBehind? at h
  unfold Token.depthBehind? Token.opens Token.closes
  cases hopens : t.opens? with
  | some b =>
      rw [hopens] at h
      cases h
      rfl
  | none =>
      rw [hopens] at h
      cases hcloses : t.closes? with
      | none =>
          rw [hcloses] at h
          cases h
          rfl
      | some b =>
          rw [hcloses] at h
          cases opened with
          | nil => cases h
          | cons inner outer =>
              dsimp only at h
              split at h
              · cases h
                rfl
              · cases h

/-- Brackets that match by kind match by number. -/
theorem depthBehind?_of_opened (h : openedBehind? opened ts = some next) :
    depthBehind? opened.length ts = some next.length := by
  induction ts generalizing opened with
  | nil =>
      obtain rfl := Option.some.inj h
      rfl
  | cons t ts ih =>
      rw [openedBehind?_cons, Option.bind_eq_some_iff] at h
      obtain ⟨further, ht, hts⟩ := h
      rw [depthBehind?_cons, Token.depthBehind?_of_opened ht]
      exact ih hts

theorem Token.openBehind?_of_plain {s : Symbol} (hopens : s.opens? = none)
    (hcloses : s.closes? = none) (ht : t.kind = .symbol s) (opened : List Bracket) :
    t.openBehind? opened = some opened := by
  simp [Token.openBehind?, Token.opens?, Token.closes?, ht, hopens, hcloses]

theorem Matching.Holds.depthBehind?_eq {m : Matching} (h : m.Holds ts) :
    depthBehind? 0 ts = some 0 := by
  cases m with
  | byNumber => exact h
  | byKind => exact depthBehind?_of_opened h

end Kinds

/-! ## Parts of tokens whose brackets match -/

/-- Parts told by themselves: the brackets of each match, and none has a separator outside of
them. -/
inductive Parts (separator : Symbol) : List (List Token) → List Token → Prop
  | last {ts : List Token} (hdepth : depthBehind? 0 ts = some 0)
      (hnone : anyTopLevel (·.isSymbol separator) ts = false) : Parts separator [ts] ts
  | more {part rest : List Token} {parts : List (List Token)} {t : Token}
      (hdepth : depthBehind? 0 part = some 0)
      (hnone : anyTopLevel (·.isSymbol separator) part = false)
      (ht : t.kind = .symbol separator) (h : Parts separator parts rest) :
      Parts separator (part :: parts) (part ++ t :: rest)

section Plain

variable {separator : Symbol} (hopens : separator.opens? = none)
  (hcloses : separator.closes? = none) {t : Token} {ts us : List Token}
  {parts others : List (List Token)}
include hopens hcloses

theorem Parts.splitTopLevel_eq (h : Parts separator parts ts) :
    splitTopLevel separator ts = parts := by
  induction h with
  | last hdepth hnone => exact splitTopLevel_whole hdepth hnone
  | more hdepth hnone ht _ ih =>
      obtain ⟨htopens, htcloses⟩ := Token.plain_of_kind hopens hcloses ht
      rw [splitTopLevel_first hdepth hnone htopens htcloses (by simp [Token.isSymbol, ht]), ih]

/-- By induction on the number of tokens: behind the first separator there are fewer. -/
theorem exists_parts (h : depthBehind? 0 ts = some 0) : ∃ parts, Parts separator parts ts := by
  induction hlength : ts.length using Nat.strongRecOn generalizing ts with
  | ind n ih =>
      by_cases hnone : anyTopLevel (·.isSymbol separator) ts = false
      · exact ⟨[ts], .last h hnone⟩
      · obtain ⟨front, t, rest, rfl, hfront, hplain, -, -, ht⟩ :=
          exists_first_of_anyFrom h (Bool.not_eq_false _ ▸ hnone)
        have ht : t.kind = .symbol separator := by simpa [Token.isSymbol] using ht
        have hrest : depthBehind? 0 rest = some 0 := by
          rwa [depthBehind?_append, hfront, Option.bind_some,
            depthBehind?_separator hopens hcloses ht] at h
        have hless : rest.length < n := by
          simp only [List.length_append, List.length_cons] at hlength
          omega
        obtain ⟨parts, hparts⟩ := ih rest.length hless hrest rfl
        exact ⟨front :: parts, .more hfront hplain ht hparts⟩

theorem parts_splitTopLevel (h : depthBehind? 0 ts = some 0) :
    Parts separator (splitTopLevel separator ts) ts := by
  obtain ⟨parts, hparts⟩ := exists_parts hopens hcloses h
  rwa [hparts.splitTopLevel_eq hopens hcloses]

theorem Parts.length_eq (h : Parts separator parts ts) :
    parts.length = outerSeparators separator ts + 1 := by
  induction h with
  | last hdepth hnone =>
      rw [(outerSeparators_eq_zero_iff hopens hcloses hdepth).mpr hnone]
      rfl
  | @more part rest parts t hdepth hnone ht _ ih =>
      have hsingle : depthBehind? 0 [t] = some 0 := depthBehind?_separator hopens hcloses ht 0 []
      have hbehind : outerSeparators separator ([t] ++ rest) =
          outerSeparators separator [t] + outerSeparators separator rest :=
        outerSeparators_append hsingle rest
      have htsymbol : t.isSymbol separator = true := by simp [Token.isSymbol, ht]
      rw [List.singleton_append, outerSeparators_singleton htsymbol] at hbehind
      rw [outerSeparators_append hdepth, hbehind, List.length_cons, ih,
        (outerSeparators_eq_zero_iff hopens hcloses hdepth).mpr hnone]
      omega

/-- Of tokens whose brackets match by kind every part is such. -/
theorem Parts.openBehind?_eq (h : Parts separator parts ts) (hts : openBehind? ts = some []) :
    ∀ part ∈ parts, openBehind? part = some [] := by
  induction h with
  | last => simpa using hts
  | @more part rest parts t hdepth hnone ht _ ih =>
      rw [openBehind?_append, Option.bind_eq_some_iff] at hts
      obtain ⟨opened, hpart, hrest⟩ := hts
      have hnone : opened = [] := by
        have hlength := depthBehind?_of_opened hpart
        rw [List.length_nil, hdepth] at hlength
        exact List.eq_nil_of_length_eq_zero (Option.some.inj hlength).symm
      rw [hnone, openedBehind?_cons, Token.openBehind?_of_plain hopens hcloses ht] at hrest
      rw [hnone] at hpart
      exact List.forall_mem_cons.mpr ⟨hpart, ih hrest⟩

end Plain

section

variable {separator : Symbol} {t : Token} {ts us part : List Token}
  {parts others : List (List Token)}

theorem Parts.of_mem (h : Parts separator parts ts) (hpart : part ∈ parts) :
    depthBehind? 0 part = some 0 ∧ anyTopLevel (·.isSymbol separator) part = false := by
  induction h with
  | last hdepth hnone =>
      obtain rfl := List.mem_singleton.mp hpart
      exact ⟨hdepth, hnone⟩
  | more hdepth hnone _ _ ih =>
      rcases List.mem_cons.mp hpart with rfl | hpart
      · exact ⟨hdepth, hnone⟩
      · exact ih hpart

theorem Parts.append (h : Parts separator parts ts) (hus : Parts separator others us)
    (ht : t.kind = .symbol separator) : Parts separator (parts ++ others) (ts ++ t :: us) := by
  induction h with
  | last hdepth hnone => exact .more hdepth hnone ht hus
  | more hdepth hnone hu _ ih =>
      rw [List.append_assoc]
      exact .more hdepth hnone hu ih

end

/-! ## Cutting and joining -/

section Inverse

variable {separator : Symbol} (hopens : separator.opens? = none)
  (hcloses : separator.closes? = none) {m : Matching} {ts us separators : List Token}
  {parts : List (List Token)}
include hopens hcloses

/-- Parts without a separator outside of brackets, with separators between them. -/
theorem parts_of_interleaves (h : Interleaves separator parts separators ts)
    (hparts : ∀ part ∈ parts, m.Holds part ∧ outerSeparators separator part = 0) :
    Parts separator parts ts := by
  obtain ⟨hbetween, hseparates, rfl⟩ := h
  have hplain {part : List Token} (hpart : m.Holds part ∧ outerSeparators separator part = 0) :
      depthBehind? 0 part = some 0 ∧ anyTopLevel (·.isSymbol separator) part = false :=
    ⟨hpart.1.depthBehind?_eq,
      (outerSeparators_eq_zero_iff hopens hcloses hpart.1.depthBehind?_eq).mp hpart.2⟩
  induction separators generalizing parts with
  | nil =>
      obtain ⟨part, rfl⟩ := List.length_eq_one_iff.mp hbetween.symm
      obtain ⟨hdepth, hnone⟩ := hplain (hparts part List.mem_cons_self)
      simpa [interleaved] using Parts.last hdepth hnone
  | cons t separators ih =>
      obtain ⟨ht, hseparates⟩ := List.forall_mem_cons.mp hseparates
      cases parts with
      | nil => cases hbetween
      | cons part parts =>
          obtain ⟨hpart, hparts⟩ := List.forall_mem_cons.mp hparts
          obtain ⟨hdepth, hnone⟩ := hplain hpart
          exact .more hdepth hnone ht (ih hparts (Nat.succ.inj hbetween) hseparates)

theorem Matching.Holds.part (hts : m.Holds ts) :
    ∀ part ∈ splitTopLevel separator ts, m.Holds part := by
  have hparts := parts_splitTopLevel hopens hcloses hts.depthBehind?_eq
  cases m with
  | byNumber => exact fun part hpart => (hparts.of_mem hpart).1
  | byKind => exact hparts.openBehind?_eq hopens hcloses hts

/-- Cutting at a separator and joining by it are inverse. With separators between them the parts of
any tokens are these tokens. Tokens whose brackets match have one part more than separators outside
of brackets; the brackets of every part match, with no separator outside of them; and two such
tokens with a separator between them have the parts of both. Such parts are what is cut from them
when they are joined. -/
theorem splitTopLevel_joins :
    (∀ ts, (∃ separators, Interleaves separator (splitTopLevel separator ts) separators ts) ∧
      ∀ t : Token, t.kind = .symbol separator →
        kindsOf ([t].intercalate (splitTopLevel separator ts)) = kindsOf ts) ∧
    (∀ (m : Matching) (ts : List Token), m.Holds ts →
      (splitTopLevel separator ts).length = 1 + outerSeparators separator ts ∧
      (∀ part ∈ splitTopLevel separator ts,
        m.Holds part ∧ outerSeparators separator part = 0) ∧
      ∀ (t : Token) (us : List Token), t.kind = .symbol separator → m.Holds us →
        splitTopLevel separator (ts ++ t :: us) =
          splitTopLevel separator ts ++ splitTopLevel separator us) ∧
    ∀ (m : Matching) (parts : List (List Token)) (separators ts : List Token),
      (∀ part ∈ parts, m.Holds part ∧ outerSeparators separator part = 0) →
      Interleaves separator parts separators ts → splitTopLevel separator ts = parts := by
  refine ⟨fun ts => ?_, fun m ts hts => ?_, fun m parts separators ts hparts h => ?_⟩
  · obtain ⟨separators, h⟩ := exists_interleaves_splitFrom separator 0 ts
    refine ⟨⟨separators, h⟩, fun t ht => ?_⟩
    rw [kindsOf_intercalate, ht]
    exact h.intercalate_kindsOf
  · have hparts := parts_splitTopLevel hopens hcloses hts.depthBehind?_eq
    refine ⟨(hparts.length_eq hopens hcloses).trans (Nat.add_comm _ _), fun part hpart => ?_,
      fun t us ht hus => ?_⟩
    · obtain ⟨hdepth, hnone⟩ := hparts.of_mem hpart
      exact ⟨hts.part hopens hcloses part hpart,
        (outerSeparators_eq_zero_iff hopens hcloses hdepth).mpr hnone⟩
    · have hothers := parts_splitTopLevel hopens hcloses hus.depthBehind?_eq
      exact (hparts.append hothers ht).splitTopLevel_eq hopens hcloses
  · exact (parts_of_interleaves hopens hcloses h hparts).splitTopLevel_eq hopens hcloses

end Inverse

/-- A call with two arguments and a name behind a comma. The comma between the arguments separates
nothing. -/
theorem splitTopLevel_joins_comma :
    let call : List Token := [⟨.name "f", 1⟩, ⟨.symbol .openParen, 1⟩, ⟨.name "a", 1⟩,
      ⟨.symbol .comma, 1⟩, ⟨.name "b", 2⟩, ⟨.symbol .closeParen, 2⟩]
    let comma : Token := ⟨.symbol .comma, 2⟩
    let name : List Token := [⟨.name "c", 3⟩]
    Symbol.comma.opens? = none ∧ Symbol.comma.closes? = none ∧
      Matching.byKind.Holds call ∧ Matching.byKind.Holds name ∧
      (splitTopLevel .comma call).length = 1 + outerSeparators .comma call ∧
      splitTopLevel .comma (call ++ comma :: name) =
        splitTopLevel .comma call ++ splitTopLevel .comma name ∧
      ∃ separators, Interleaves .comma (splitTopLevel .comma (call ++ comma :: name)) separators
        (call ++ comma :: name) := by
  intro call comma name
  have hopens : Symbol.comma.opens? = none := rfl
  have hcloses : Symbol.comma.closes? = none := rfl
  have hcall : Matching.byKind.Holds call := by decide
  have hname : Matching.byKind.Holds name := by decide
  obtain ⟨hjoins, hcuts, -⟩ := splitTopLevel_joins hopens hcloses
  obtain ⟨hlength, -, happend⟩ := hcuts .byKind call hcall
  exact ⟨hopens, hcloses, hcall, hname, hlength, happend comma name rfl hname, (hjoins _).1⟩

end DeclaredSchema.Source
