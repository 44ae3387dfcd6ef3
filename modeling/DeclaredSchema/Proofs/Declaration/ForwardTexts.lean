import DeclaredSchema.Declaration.Optional
import DeclaredSchema.Proofs.Source.ExprReadings
import DeclaredSchema.Proofs.Source.StringSizes

/-! # Annotations written as strings

What is read from a text holds no string that is as long as the text. So annotations written as
strings end within each other, and whether an annotation is optional can be told by what its parts
are and what the strings in it stand for, without a bound on their depth (`isOptional_eq`).
-/

namespace DeclaredSchema

open Source

/-! ## The strings of an expression -/

/-- No string literal among the tokens is longer. -/
def TextsWithin (b : Nat) (ts : List Token) : Prop :=
  ∀ t ∈ ts, ∀ value plain, t.kind = .str value plain → value.length ≤ b

theorem TextsWithin.of_subset {b : Nat} {ts us : List Token} (h : TextsWithin b ts)
    (hus : us ⊆ ts) : TextsWithin b us := fun t ht => h t (hus ht)

/-- A reading that finds no longer string than there is. -/
def ReadsWithin (b : Nat) (sub : List Token → Expr) : Prop :=
  ∀ ts, TextsWithin b ts → (sub ts).longestText ≤ b

theorem subset_of_mem_splitFrom {separator : Symbol} {depth : Nat} {ts part : List Token}
    (h : part ∈ splitFrom separator depth ts) : part ⊆ ts := by
  have hcons {t : Token} {ts : List Token} {parts : List (List Token)}
      (ih : ∀ part ∈ parts, part ⊆ ts) : ∀ part ∈ consToFirst t parts, part ⊆ t :: ts := by
    cases parts with
    | nil => simp [consToFirst]
    | cons first others =>
        intro part hpart
        rcases List.mem_cons.mp hpart with rfl | hpart
        · exact List.cons_subset_cons t (ih first List.mem_cons_self)
        · exact List.subset_cons_of_subset t (ih part (List.mem_cons_of_mem first hpart))
  induction ts generalizing depth part with
  | nil =>
      rw [splitFrom, List.mem_singleton] at h
      exact h ▸ List.Subset.refl []
  | cons t ts ih =>
      rw [splitFrom] at h
      split at h
      · exact hcons (fun _ => ih) part h
      split at h
      · exact hcons (fun _ => ih) part h
      split at h
      · rcases List.mem_cons.mp h with rfl | h
        · exact List.nil_subset _
        · exact List.subset_cons_of_subset t (ih h)
      · exact hcons (fun _ => ih) part h

theorem subset_of_bracketed? {ts inside rest : List Token}
    (h : bracketed? ts = some (inside, rest)) : inside ⊆ ts ∧ rest ⊆ ts := by
  obtain ⟨close, rfl, -⟩ := exists_of_bracketedFrom? h
  exact ⟨List.subset_append_left _ _,
    List.subset_append_of_subset_right _ (List.subset_cons_self _ _)⟩

theorem longestTextOf_le {b : Nat} {es : List Expr} (h : ∀ e ∈ es, e.longestText ≤ b) :
    longestTextOf es ≤ b := by
  induction es with
  | nil => exact Nat.zero_le b
  | cons e es ih =>
      obtain ⟨he, hes⟩ := List.forall_mem_cons.mp h
      exact Nat.max_le.mpr ⟨he, ih hes⟩

theorem longestTextOfArgs_le {b : Nat} {args : List (Option String × Expr)}
    (h : ∀ arg ∈ args, arg.2.longestText ≤ b) : longestTextOfArgs args ≤ b := by
  induction args with
  | nil => exact Nat.zero_le b
  | cons arg args ih =>
      obtain ⟨harg, hargs⟩ := List.forall_mem_cons.mp h
      exact Nat.max_le.mpr ⟨harg, ih hargs⟩

theorem longestText_number {text : String} {l : Literal} (h : numberLiteral? text = some l) :
    (Expr.literal l).longestText = 0 := by
  have hint {n? : Option Nat} (h : (n?.bind fun n =>
      (int64? n).bind fun i => some (Literal.int i)) = some l) :
      (Expr.literal l).longestText = 0 := by
    obtain ⟨n, -, h⟩ := Option.bind_eq_some_iff.mp h
    obtain ⟨i, -, h⟩ := Option.bind_eq_some_iff.mp h
    cases h
    rfl
  unfold numberLiteral? at h
  dsimp only at h
  split at h
  · cases h
  split at h
  · exact hint h
  split at h
  · obtain ⟨x, -, rfl⟩ := Option.map_eq_some_iff.mp h
    rfl
  · exact hint h

namespace ReadsWithin

variable {b : Nat} {sub : List Token → Expr} {ts : List Token}

theorem parts (h : ReadsWithin b sub) (hts : TextsWithin b ts) {parts : List (List Token)}
    (hparts : ∀ part ∈ parts, part ⊆ ts) : longestTextOf (parts.map sub) ≤ b := by
  refine longestTextOf_le fun e he => ?_
  obtain ⟨part, hpart, rfl⟩ := List.mem_map.mp he
  exact h part (hts.of_subset (hparts part hpart))

theorem arguments (h : ReadsWithin b sub) (hts : TextsWithin b ts) :
    longestTextOfArgs (Expr.argsWith sub ts) ≤ b := by
  refine longestTextOfArgs_le fun arg harg => ?_
  obtain ⟨part, hpart, rfl⟩ := List.mem_map.mp harg
  have hsubset : part ⊆ ts := subset_of_mem_splitFrom (List.mem_of_mem_filter hpart)
  split
  · next n l l' v value =>
      refine h _ (hts.of_subset fun t ht => hsubset ?_)
      exact List.mem_cons_of_mem _ (List.mem_cons_of_mem _ ht)
  · exact h part (hts.of_subset hsubset)

theorem list (h : ReadsWithin b sub) (hts : TextsWithin b ts) :
    (Expr.listWith sub ts).longestText ≤ b := by
  rw [Expr.listWith]
  split
  · exact Nat.zero_le b
  · exact h.parts hts fun part hpart => subset_of_mem_splitFrom (List.mem_of_mem_filter hpart)

theorem group (hts : TextsWithin b ts) {f : List Token × List Token → Expr × List Token}
    (hf : ∀ group, (f group).2 = group.2)
    (hread : ∀ group, TextsWithin b group.1 → (f group).1.longestText ≤ b) {e : Expr}
    {rest : List Token} (h : (bracketed? ts).map f = some (e, rest)) :
    e.longestText ≤ b ∧ rest ⊆ ts := by
  obtain ⟨inside, hbracketed, rfl⟩ := Expr.bracketed?_of_map hf h
  obtain ⟨hinside, hrest⟩ := subset_of_bracketed? hbracketed
  exact ⟨hread _ (hts.of_subset hinside), hrest⟩

theorem atom (h : ReadsWithin b sub) (hts : TextsWithin b ts) {e : Expr} {rest : List Token}
    (hatom : Expr.atomWith sub ts = some (e, rest)) : e.longestText ≤ b ∧ rest ⊆ ts := by
  cases ts with
  | nil => cases hatom
  | cons t ts =>
      have hbehind : ts ⊆ t :: ts := List.subset_cons_self t ts
      have hlater {e : Expr} (hread : e.longestText ≤ b ∧ rest ⊆ ts) :
          e.longestText ≤ b ∧ rest ⊆ t :: ts := ⟨hread.1, List.Subset.trans hread.2 hbehind⟩
      rw [Expr.atomWith] at hatom
      split at hatom
      case h_5 =>
        split at hatom
        · next l hl =>
            cases hatom
            exact ⟨Nat.le_trans (Nat.le_of_eq (longestText_number hl)) (Nat.zero_le b), hbehind⟩
        · cases hatom
          exact ⟨Nat.zero_le b, hbehind⟩
      case h_6 value plain hkind =>
        cases hatom
        refine ⟨?_, hbehind⟩
        cases plain with
        | true => exact hts t List.mem_cons_self value true hkind
        | false => exact Nat.zero_le b
      case h_7 =>
        refine hlater (group (hts.of_subset hbehind) (fun _ => rfl) (fun found hinside => ?_) hatom)
        dsimp only
        split
        · exact Nat.zero_le b
        · exact h found.1 hinside
      case h_8 =>
        refine hlater (group (hts.of_subset hbehind) (fun _ => rfl) (fun found hinside => ?_) hatom)
        dsimp only
        split
        · exact Nat.zero_le b
        · exact h.list hinside
      case h_9 =>
        exact hlater (group (hts.of_subset hbehind) (f := fun group => (.unmodelled, group.2))
          (fun _ => rfl) (fun _ _ => Nat.zero_le b) hatom)
      case h_10 => cases hatom
      all_goals
        cases hatom
        exact ⟨Nat.zero_le b, hbehind⟩

theorem behind (h : ReadsWithin b sub) (hts : TextsWithin b ts) {e f : Expr}
    (he : e.longestText ≤ b) (hread : Expr.postfixWith sub e ts = some f) :
    f.longestText ≤ b := by
  induction hn : ts.length using Nat.strong_induction_on generalizing ts e with
  | _ n ih =>
      subst hn
      cases ts with
      | nil =>
          rw [Expr.postfixWith] at hread
          cases hread
          exact he
      | cons t ts =>
          have hmore : TextsWithin b ts := hts.of_subset (List.subset_cons_self t ts)
          have hrest {rest : List Token} {e : Expr} (hsubset : rest ⊆ ts)
              (hlength : rest.length < (t :: ts).length) (he : e.longestText ≤ b)
              (hread : Expr.postfixWith sub e rest = some f) : f.longestText ≤ b :=
            ih rest.length hlength (hmore.of_subset hsubset) he hread rfl
          have hgroup {g : List Token → Expr}
              (hg : ∀ inside, TextsWithin b inside → (g inside).longestText ≤ b)
              (hread : ((bracketed? ts).bind fun group =>
                Expr.postfixWith sub (g group.1) group.2) = some f) : f.longestText ≤ b := by
            obtain ⟨group, hbracketed, hread⟩ := Option.bind_eq_some_iff.mp hread
            obtain ⟨hinside, hbehind⟩ := subset_of_bracketed? hbracketed
            exact hrest hbehind (Nat.lt_succ_of_lt (length_lt_of_bracketed? hbracketed).2)
              (hg group.1 (hmore.of_subset hinside)) hread
          rw [Expr.postfixWith_cons] at hread
          split at hread
          · exact hgroup (g := fun inside => .call e (Expr.argsWith sub inside))
              (fun inside hinside => Nat.max_le.mpr ⟨he, h.arguments hinside⟩) hread
          · exact hgroup (g := fun inside => .subscript e (sub inside))
              (fun inside hinside => Nat.max_le.mpr ⟨he, h inside hinside⟩) hread
          · split at hread
            · next n l rest =>
                exact hrest (e := .member e n) (List.subset_cons_self _ rest)
                  (Nat.lt_succ_of_lt (Nat.lt_succ_self rest.length)) he hread
            · cases hread
          · cases hread

theorem readWith (h : ReadsWithin b sub) : ReadsWithin b (Expr.readWith sub) := by
  intro ts hts
  have hpart {separator : Symbol} : ∀ part ∈ splitTopLevel separator ts, part ⊆ ts :=
    fun part => subset_of_mem_splitFrom
  unfold Expr.readWith
  dsimp only
  split
  · exact Nat.zero_le b
  split
  · exact h.parts hts fun part hmem => hpart part (Expr.mem_of_mem_tupleParts hmem)
  split
  · exact h.parts hts hpart
  split
  · next l rest _ _ _ =>
      have hrest := h rest (hts.of_subset (List.subset_cons_self _ rest))
      split
      · exact Nat.zero_le b
      · exact hrest
  · next l rest _ _ _ => exact h rest (hts.of_subset (List.subset_cons_self _ rest))
  · rw [Expr.operandWith]
    split
    · next e rest hatom =>
        obtain ⟨he, hrest⟩ := h.atom hts hatom
        cases hread : Expr.postfixWith sub e rest with
        | none => exact Nat.zero_le b
        | some f => exact h.behind (hts.of_subset hrest) he hread
    · exact Nat.zero_le b

end ReadsWithin

/-- No string in what tokens stand for is longer than those among the tokens. -/
theorem longestText_ofTokens_le {b : Nat} {ts : List Token} (h : TextsWithin b ts) :
    (Expr.ofTokens ts).longestText ≤ b := by
  have hreads (n : Nat) : ReadsWithin b (Expr.readFuel n) := by
    induction n with
    | zero => exact fun _ _ => Nat.zero_le b
    | succ n ih => exact ih.readWith
  exact hreads ts.length ts h

theorem forwardTokens?_empty : forwardTokens? "" = some [] := by
  rw [forwardTokens?, tokenize_eq_steps]
  rfl

/-- What a text is written for has no string in it that is as long as the text, or there is nothing
in the text. -/
theorem longestText_forward {text : String} {ts : List Token} (h : forwardTokens? text = some ts) :
    (Expr.ofTokens ts).longestText < text.length ∨ Expr.ofTokens ts = .unmodelled := by
  by_cases hempty : text.length = 0
  · obtain rfl := String.length_eq_zero_iff.mp hempty
    rw [forwardTokens?_empty] at h
    cases h
    exact .inr rfl
  · refine .inl (Nat.lt_of_le_of_lt (m := text.length - 1) ?_ (by omega))
    refine longestText_ofTokens_le fun t ht value plain hkind => ?_
    unfold forwardTokens? at h
    split at h
    · next all hall =>
        cases h
        have hsize := stringSize_le_of_mem (List.mem_of_mem_filter ht)
        have htext := stringSizes_tokenize hall
        rw [Token.stringSize, hkind] at hsize
        dsimp only at hsize
        omega
    · cases h

/-! ## One look at an annotation -/

/-- An annotation with one argument, which is no tuple. -/
theorem isOptionalWith_subscript (forward : String → Bool) (value : Expr) {index : Expr}
    (h : ∀ items, index ≠ .tuple items) :
    isOptionalWith forward (.subscript value index) = match value.tailName? with
      | some "Optional" => true
      | some "Union" => index.isNone
      | some "Annotated" => isOptionalWith forward index
      | _ => false := by
  cases index with
  | tuple items => exact absurd rfl (h items)
  | _ => rfl

section Congruence

variable {f g : String → Bool}

mutual

/-- Only the strings of an annotation count. -/
theorem isOptionalWith_congr {e : Expr} (h : ∀ s : String, s.length ≤ e.longestText → f s = g s) :
    isOptionalWith f e = isOptionalWith g e := by
  cases e with
  | literal l =>
      cases l with
      | str s => exact h s (Nat.le_refl _)
      | _ => rfl
  | union members => exact anyOptionalWith_congr h
  | subscript value index =>
      have hindex : ∀ s : String, s.length ≤ index.longestText → f s = g s :=
        fun s hs => h s (Nat.le_trans hs (Nat.le_max_right _ _))
      by_cases htuple : ∃ items, index = .tuple items
      · obtain ⟨items, rfl⟩ := htuple
        rw [isOptionalWith, isOptionalWith, anyOptionalWith_congr hindex,
          firstOptionalWith_congr hindex]
      · rw [isOptionalWith_subscript f value (not_exists.mp htuple),
          isOptionalWith_subscript g value (not_exists.mp htuple), isOptionalWith_congr hindex]
  | _ => rfl

theorem anyOptionalWith_congr {es : List Expr}
    (h : ∀ s : String, s.length ≤ longestTextOf es → f s = g s) :
    anyOptionalWith f es = anyOptionalWith g es := by
  cases es with
  | nil => rfl
  | cons e es =>
      rw [anyOptionalWith, anyOptionalWith,
        isOptionalWith_congr fun s hs => h s (Nat.le_trans hs (Nat.le_max_left _ _)),
        anyOptionalWith_congr fun s hs => h s (Nat.le_trans hs (Nat.le_max_right _ _))]

theorem firstOptionalWith_congr {es : List Expr}
    (h : ∀ s : String, s.length ≤ longestTextOf es → f s = g s) :
    firstOptionalWith f es = firstOptionalWith g es := by
  cases es with
  | nil => rfl
  | cons e es =>
      exact isOptionalWith_congr fun s hs => h s (Nat.le_trans hs (Nat.le_max_left _ _))

end

end Congruence

/-! ## Any number of looks -/

/-- Whether the annotation that a text is written for is optional. -/
def isOptionalText (text : String) : Bool :=
  match forwardTokens? text with
  | some tokens => isOptional (.ofTokens tokens)
  | none => false

theorem isOptionalWithin_unmodelled (n : Nat) : isOptionalWithin n .unmodelled = false := by
  cases n <;> rfl

/-- A look into more strings within each other than there can be changes nothing. -/
theorem isOptionalWithin_eq {n m : Nat} {e : Expr} (hn : e.longestText < n)
    (hm : e.longestText < m) : isOptionalWithin n e = isOptionalWithin m e := by
  induction n generalizing m e with
  | zero => exact absurd hn (Nat.not_lt_zero _)
  | succ n ih =>
      obtain ⟨m, rfl⟩ : ∃ k, m = k + 1 := ⟨m - 1, by omega⟩
      refine isOptionalWith_congr fun s hs => ?_
      cases hforward : forwardTokens? s with
      | none => rfl
      | some ts =>
          rcases longestText_forward hforward with hshorter | hnothing
          · exact ih (by omega) (by omega)
          · simp only [hnothing, isOptionalWithin_unmodelled]

/-- Whether an annotation is optional, by its parts and by what the strings in it stand for. -/
theorem isOptional_eq (e : Expr) : isOptional e = isOptionalWith isOptionalText e := by
  rw [isOptional, isOptionalWithin]
  refine isOptionalWith_congr fun s hs => ?_
  rw [isOptionalText]
  cases hforward : forwardTokens? s with
  | none => rfl
  | some ts =>
      rcases longestText_forward hforward with hshorter | hnothing
      · exact isOptionalWithin_eq (by omega) (Nat.lt_succ_self _)
      · simp only [hnothing, isOptionalWithin_unmodelled]
        rfl

end DeclaredSchema
