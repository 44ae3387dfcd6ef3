import DeclaredSchema.Proofs.Declaration.ForwardTexts
import DeclaredSchema.Proofs.Declaration.PrintedFields

/-! # Spellings of optional annotations

A type can be made optional in several ways, and it can stand in parentheses, in `Annotated`, in a
`Union` of its own or in quotes. `TypeForm` says which tokens are a type. Which spellings of it
admit `None` is told by `NoneForm` and by whether it does itself (`spellings_of_type`).
-/

namespace DeclaredSchema

open Source Printed

/-! ## Types -/

/-- What may stand behind the name of a type: further names, and arguments in brackets. -/
inductive Trailers : List Token.Kind → Prop where
  | nil : Trailers []
  | member {name : String} {more : List Token.Kind} (free : isKeyword name = false)
      (behind : Trailers more) : Trailers (.symbol .dot :: .name name :: more)
  | arguments {inside more : List Token.Kind}
      (matched : ∀ line, Balanced (fun _ => True) (onLine line inside)) (behind : Trailers more) :
      Trailers (.symbol .openSquare :: (inside ++ .symbol .closeSquare :: more))

/-- Tokens of a type. Whatever is written in quotes is one, and no comma stands outside brackets. -/
inductive TypeForm : List Token.Kind → Prop where
  | name {name : String} {more : List Token.Kind} (free : isKeyword name = false)
      (behind : Trailers more) : TypeForm (.name name :: more)
  | none : TypeForm [.name "None"]
  | text (value : String) : TypeForm [.str value true]
  | group {ks : List Token.Kind} (inside : TypeForm ks) :
      TypeForm (.symbol .openParen :: (ks ++ [.symbol .closeParen]))
  | union {ks more : List Token.Kind} (first : TypeForm ks) (rest : TypeForm more) :
      TypeForm (ks ++ .symbol .bar :: more)

/-- The type of `None`, in parentheses or not. -/
inductive NoneForm : List Token.Kind → Prop where
  | none : NoneForm [.name "None"]
  | noneType : NoneForm [.name "NoneType"]
  | group {ks : List Token.Kind} (inside : NoneForm ks) :
      NoneForm (.symbol .openParen :: (ks ++ [.symbol .closeParen]))

theorem Trailers.matched {ks : List Token.Kind} (h : Trailers ks) : Matched [.dot] ks := by
  induction h with
  | nil => exact .nil
  | member free _ ih =>
      exact .symbol List.mem_cons_self rfl rfl (.word (not_operatorKeyword free) ih)
  | arguments matched _ ih =>
      intro line
      rw [onLine_bracketed]
      exact .group rfl rfl (matched line) (ih line)

namespace TypeForm

variable {ks : List Token.Kind}

theorem matched (h : TypeForm ks) : Matched [.bar, .dot] ks := by
  induction h with
  | name free behind =>
      exact .word (not_operatorKeyword free) (behind.matched.mono (List.subset_cons_self _ _))
  | none => exact .word (by decide) .nil
  | text value => exact fun line => .plain rfl rfl rfl trivial .nil
  | group _ ih => exact .group rfl rfl ih .nil
  | union _ _ ihfirst ihrest => exact ihfirst.append (.symbol List.mem_cons_self rfl rfl ihrest)

theorem ne_nil (h : TypeForm ks) : ks ≠ [] := by
  cases h with
  | union => exact List.append_ne_nil_of_right_ne_nil _ (List.cons_ne_nil _ _)
  | _ => exact List.cons_ne_nil _ _

end TypeForm

/-- An annotation with arguments. -/
def withArguments (base : String) (inside : List Token.Kind) : List Token.Kind :=
  .name base :: .symbol .openSquare :: (inside ++ [.symbol .closeSquare])

theorem TypeForm.withArguments {base : String} {ks : List Token.Kind}
    (free : isKeyword base = false) (h : TypeForm ks) : TypeForm (withArguments base ks) :=
  .name free (.arguments (fun line => (h.matched line).mono fun _ _ => trivial) .nil)

theorem NoneForm.typeForm {ks : List Token.Kind} (h : NoneForm ks) : TypeForm ks := by
  induction h with
  | none => exact .none
  | noneType => exact .name (by decide) .nil
  | group _ ih => exact .group ih

theorem not_noneForm_withArguments (base : String) (ks : List Token.Kind) :
    ¬ NoneForm (withArguments base ks) := by
  rw [withArguments]
  nofun

/-! ## Readings -/

/-- What tokens of these kinds stand for. -/
def hintOf (ks : List Token.Kind) : Expr := .ofTokens (onLine 1 ks)

/-- Whether an annotation of tokens of these kinds is optional. -/
def admitsNone (ks : List Token.Kind) : Bool := isOptional (hintOf ks)

theorem ofTokens_eq_hintOf (ts : List Token) : Expr.ofTokens ts = hintOf (kindsOf ts) := by
  refine Expr.ofTokens_of_kinds ?_
  rw [kindsOf, kindsOf, onLine, List.map_map, List.map_map]
  rfl

theorem hintOf_eq (ks : List Token.Kind) :
    hintOf ks = Expr.readWith Expr.ofTokens (onLine 1 ks) :=
  Expr.ofTokens_eq _

section Readings

variable {ks more : List Token.Kind} {symbols : List Symbol}

/-- Tokens in front of which no sign stands are an operand. -/
theorem hintOf_operand {k : Token.Kind} (h : Matched [.dot] (k :: ks)) :
    hintOf (k :: ks) = Expr.operandWith Expr.ofTokens (onLine 1 (k :: ks)) := by
  have hsign {s : Symbol} (hs : s.opens? = Option.none) (hdot : s ∉ [Symbol.dot]) {line : Nat}
      {rest : List Token} (heq : onLine 1 (k :: ks) = ⟨.symbol s, line⟩ :: rest) : False := by
    have hbalanced := h 1
    rw [heq] at hbalanced
    cases hbalanced with
    | plain _ _ _ hplain _ => exact hdot hplain
    | group hopens => simp [Token.opens, Token.opens?, hs] at hopens
  have hne : onLine 1 (k :: ks) ≠ [] := List.cons_ne_nil _ _
  rw [hintOf_eq, readWith_undivided hne (h 1) (by decide) (by decide)]
  split
  · next heq => exact (hsign rfl (by decide) heq).elim
  · next heq => exact (hsign rfl (by decide) heq).elim
  · rfl

theorem hintOf_name {name : String} (free : isKeyword name = false) :
    hintOf [.name name] = .name name := by
  rw [hintOf_operand (.word (not_operatorKeyword free) .nil)]
  exact operandWith_atom (atomWith_name free _ 1 [])

theorem hintOf_none : hintOf [.name "None"] = .literal .null := by
  rw [hintOf_operand (.word (by decide) .nil)]
  exact operandWith_atom rfl

theorem hintOf_text (value : String) : hintOf [.str value true] = .literal (.str value) := by
  have hmatched : Matched [.dot] [.str value true] := fun line =>
    .plain rfl rfl rfl (show Plain _ ⟨.str value true, line⟩ from trivial) .nil
  rw [hintOf_operand hmatched]
  exact operandWith_atom rfl

theorem hintOf_group (h : Matched symbols ks) (hne : ks ≠ []) :
    hintOf (.symbol .openParen :: (ks ++ [.symbol .closeParen])) = hintOf ks := by
  have hclose := h.bracketed?_close (show Symbol.closeParen.closes?.isSome from rfl) 1
  rw [hintOf_operand (.group rfl rfl h .nil)]
  refine operandWith_atom ((atomWith_paren _ 1 _ _ hclose).trans ?_)
  rw [if_neg (by simpa [onLine] using hne), hintOf]

theorem hintOf_subscript {name : String} (free : isKeyword name = false)
    (h : Matched symbols ks) :
    hintOf (.name name :: .symbol .openSquare :: (ks ++ [.symbol .closeSquare])) =
      .subscript (.name name) (hintOf ks) := by
  rw [hintOf_operand (.word (not_operatorKeyword free) (.group rfl rfl h .nil))]
  exact operandWith_subscript free h 1

/-- Two types with a comma between them. -/
theorem hintOf_pair (first : TypeForm ks) (second : TypeForm more) :
    hintOf (ks ++ .symbol .comma :: more) = .tuple [hintOf ks, hintOf more] := by
  have hkinds : ks ++ .symbol .comma :: more = commaJoined [ks, more] := by
    simp [commaJoined_cons_cons, commaJoined_singleton]
  have hparts : ∀ part ∈ [ks, more], Matched [.bar, .dot] part := by
    rw [List.forall_mem_cons, List.forall_mem_singleton]
    exact ⟨first.matched, second.matched⟩
  have hsplit := splitTopLevel_commaJoined (by decide) (List.cons_ne_nil _ _) hparts 1
  have hkeyword := (Matched.commaJoined hparts 1).anyTopLevel_eq_false
    fun t ht => ht.isOperatorKeyword
  have hne : (onLine 1 (commaJoined [ks, more])).isEmpty = false := by
    rw [← hkinds]
    simp [onLine]
  have hlast : (onLine 1 more).isEmpty = false := by simpa [onLine] using second.ne_nil
  rw [hkinds, hintOf_eq]
  unfold Expr.readWith
  simp [hne, hkeyword, hsplit, Expr.tupleParts, hlast, hintOf]

/-- The members of a union, or the only one. -/
def members (ks : List Token.Kind) : List (List Token) := splitTopLevel .bar (onLine 1 ks)

theorem members_append (h : TypeForm ks) (more : List Token.Kind) :
    members (ks ++ .symbol .bar :: more) = members ks ++ members more := by
  rw [members, onLine_append]
  exact (h.matched 1).splitTopLevel_append rfl rfl rfl _

theorem hintOf_members (h : TypeForm ks) (hseveral : (members ks).length > 1) :
    hintOf ks = .union ((members ks).map Expr.ofTokens) := by
  have hne : (onLine 1 ks).isEmpty = false := by simpa [onLine] using h.ne_nil
  have hkeyword := (h.matched 1).anyTopLevel_eq_false fun t ht => ht.isOperatorKeyword
  have hitems := (h.matched 1).splitTopLevel_eq fun t ht => ht.isSymbol (s := .comma) (by decide)
  rw [members] at hseveral ⊢
  rw [hintOf_eq]
  unfold Expr.readWith
  simp [hne, hkeyword, hitems, hseveral]

theorem hintOf_union (first : TypeForm ks) (rest : TypeForm more) :
    ∃ es, hintOf (ks ++ .symbol .bar :: more) = .union es := by
  have hparts := members_append first more
  have hfirst : 0 < (members ks).length := List.length_pos_iff.mpr splitFrom_ne_nil
  have hrest : 0 < (members more).length := List.length_pos_iff.mpr splitFrom_ne_nil
  refine ⟨_, hintOf_members (.union first rest) ?_⟩
  rw [hparts, List.length_append]
  omega

/-- What follows a name makes neither `None` nor a tuple of it. -/
theorem postfixWith_cases {sub : List Token → Expr} {e f : Expr} {ts : List Token}
    (h : Expr.postfixWith sub e ts = some f) :
    (ts = [] ∧ f = e) ∨ (f.isNone = false ∧ ∀ items, f ≠ .tuple items) := by
  fun_induction Expr.postfixWith sub e ts with
  | case1 e => exact .inl ⟨rfl, (Option.some.inj h).symm⟩
  | case2 _ _ _ _ _ _ _ ih | case4 _ _ _ _ _ _ _ ih | case6 _ _ _ _ _ _ ih =>
      rcases ih h with ⟨-, rfl⟩ | hf
      · exact .inr ⟨rfl, fun items heq => by cases heq⟩
      · exact .inr hf
  | _ => cases h

theorem hintOf_named {name : String} (free : isKeyword name = false) (behind : Trailers more) :
    (more = [] ∧ hintOf (.name name :: more) = .name name) ∨
      ((hintOf (.name name :: more)).isNone = false ∧
        ∀ items, hintOf (.name name :: more) ≠ .tuple items) := by
  rw [hintOf_operand (.word (not_operatorKeyword free) behind.matched), Expr.operandWith]
  have hatom : Expr.atomWith Expr.ofTokens (onLine 1 (.name name :: more)) =
      some (.name name, onLine 1 more) := atomWith_name free _ 1 _
  rw [hatom]
  dsimp only
  cases hread : Expr.postfixWith Expr.ofTokens (.name name) (onLine 1 more) with
  | none => exact .inr ⟨rfl, fun items heq => by cases heq⟩
  | some f =>
      rcases postfixWith_cases hread with ⟨hnil, rfl⟩ | hf
      · exact .inl ⟨List.map_eq_nil_iff.mp hnil, rfl⟩
      · exact .inr hf

end Readings

section Types

variable {ks : List Token.Kind}

theorem TypeForm.ne_tuple (h : TypeForm ks) : ∀ items, hintOf ks ≠ .tuple items := by
  induction h with
  | name free behind =>
      rcases hintOf_named free behind with ⟨-, hname⟩ | ⟨-, hne⟩
      · rw [hname]
        nofun
      · exact hne
  | none =>
      rw [hintOf_none]
      nofun
  | text value =>
      rw [hintOf_text]
      nofun
  | group inside ih =>
      rw [hintOf_group inside.matched inside.ne_nil]
      exact ih
  | union first rest =>
      obtain ⟨es, hunion⟩ := hintOf_union first rest
      rw [hunion]
      nofun

theorem NoneForm.isNone (h : NoneForm ks) : (hintOf ks).isNone = true := by
  induction h with
  | none =>
      rw [hintOf_none]
      rfl
  | noneType =>
      rw [hintOf_name (by decide)]
      rfl
  | group inside ih =>
      rw [hintOf_group inside.typeForm.matched inside.typeForm.ne_nil]
      exact ih

/-- A type stands for `None` only if it is written so. -/
theorem TypeForm.isNone_iff (h : TypeForm ks) : (hintOf ks).isNone = true ↔ NoneForm ks := by
  refine ⟨fun hnone => ?_, NoneForm.isNone⟩
  induction h with
  | @name name more free behind =>
      rcases hintOf_named free behind with ⟨rfl, hname⟩ | ⟨hne, -⟩
      · rw [hname, Expr.isNone, decide_eq_true_eq] at hnone
        exact hnone ▸ .noneType
      · rw [hne] at hnone
        cases hnone
  | none => exact .none
  | text value =>
      rw [hintOf_text] at hnone
      cases hnone
  | group inside ih =>
      rw [hintOf_group inside.matched inside.ne_nil] at hnone
      exact .group (ih hnone)
  | union first rest =>
      obtain ⟨es, hunion⟩ := hintOf_union first rest
      rw [hunion] at hnone
      cases hnone

/-- `None` is no optional annotation of its own. -/
theorem isOptional_of_isNone {e : Expr} (h : e.isNone = true) : isOptional e = false := by
  rw [isOptional_eq]
  cases e with
  | literal l =>
      cases l with
      | null => rfl
      | _ => cases h
  | name n => rfl
  | _ => cases h

theorem anyOptionalWith_append (forward : String → Bool) (es fs : List Expr) :
    anyOptionalWith forward (es ++ fs) =
      (anyOptionalWith forward es || anyOptionalWith forward fs) := by
  induction es with
  | nil => rfl
  | cons e es ih => simp only [List.cons_append, anyOptionalWith, ih, Bool.or_assoc]

/-- Whether a union with this member is optional. -/
def makesOptional (ks : List Token.Kind) : Bool := (hintOf ks).isNone || admitsNone ks

theorem makesOptional_eq (ks : List Token.Kind) : makesOptional ks =
    ((hintOf ks).isNone || isOptionalWith isOptionalText (hintOf ks)) := by
  rw [makesOptional, admitsNone, isOptional_eq]

/-- A type is as optional as its members are together. One that is no union is its own member. -/
theorem anyOptionalWith_members (h : TypeForm ks) :
    anyOptionalWith isOptionalText ((members ks).map Expr.ofTokens) = makesOptional ks := by
  rw [makesOptional_eq]
  by_cases hseveral : (members ks).length > 1
  · rw [hintOf_members h hseveral]
    rfl
  · rw [members, splitTopLevel_of_length hseveral]
    exact Bool.or_false _

end Types

/-! ## Spellings -/

/-- Ways to write an annotation with a type and the name of another one, or with the type alone. -/
inductive Spelling where
  | unionFirst
  | unionLast
  | barFirst
  | barLast
  | unionAlone
  | annotated
  | enclosed
  deriving DecidableEq

namespace Spelling

/-- The annotation of a type and the name of another one. -/
def kinds (other : String) (ks : List Token.Kind) : Spelling → List Token.Kind
  | unionFirst => withArguments "Union" (ks ++ [.symbol .comma, .name other])
  | unionLast => withArguments "Union" (.name other :: .symbol .comma :: ks)
  | barFirst => ks ++ [.symbol .bar, .name other]
  | barLast => .name other :: .symbol .bar :: ks
  | unionAlone => withArguments "Union" ks
  | annotated => withArguments "Annotated" (ks ++ [.symbol .comma, .name other])
  | enclosed => .symbol .openParen :: (ks ++ [.symbol .closeParen])

/-- The spellings that add the other type to a union. -/
def joining : List Spelling := [unionFirst, unionLast, barFirst, barLast]

end Spelling

section Spellings

variable {ks more : List Token.Kind} {other : String}

theorem hintOf_arguments {base : String} (free : isKeyword base = false) (first : TypeForm ks)
    (second : TypeForm more) : hintOf (withArguments base (ks ++ .symbol .comma :: more)) =
      .subscript (.name base) (.tuple [hintOf ks, hintOf more]) := by
  have hmatched : Matched [.comma, .bar, .dot] (ks ++ .symbol .comma :: more) :=
    (first.matched.mono (List.subset_cons_self _ _)).append
      (.symbol List.mem_cons_self rfl rfl (second.matched.mono (List.subset_cons_self _ _)))
  rw [withArguments, hintOf_subscript free hmatched, hintOf_pair first second]

theorem admitsNone_unionOf (first : TypeForm ks) (second : TypeForm more) :
    admitsNone (withArguments "Union" (ks ++ .symbol .comma :: more)) =
      (makesOptional ks || makesOptional more) := by
  rw [admitsNone, isOptional_eq, hintOf_arguments (by decide) first second, makesOptional_eq,
    makesOptional_eq]
  simp only [isOptionalWith, Expr.tailName?, anyOptionalWith, Bool.or_false]

theorem admitsNone_bar (first : TypeForm ks) (second : TypeForm more) :
    admitsNone (ks ++ .symbol .bar :: more) = (makesOptional ks || makesOptional more) := by
  have hboth := anyOptionalWith_members (.union first second)
  rw [members_append first, List.map_append, anyOptionalWith_append,
    anyOptionalWith_members first, anyOptionalWith_members second] at hboth
  obtain ⟨es, hunion⟩ := hintOf_union first second
  rw [hboth, makesOptional, hunion]
  rfl

theorem admitsNone_annotated (first : TypeForm ks) (second : TypeForm more) :
    admitsNone (withArguments "Annotated" (ks ++ .symbol .comma :: more)) = admitsNone ks := by
  rw [admitsNone, isOptional_eq, hintOf_arguments (by decide) first second, admitsNone,
    isOptional_eq]
  rfl

theorem admitsNone_enclosed (h : TypeForm ks) :
    admitsNone (.symbol .openParen :: (ks ++ [.symbol .closeParen])) = admitsNone ks := by
  rw [admitsNone, hintOf_group h.matched h.ne_nil, admitsNone]

/-- Of a union with one member only `None` itself is seen. -/
theorem admitsNone_unionAlone (h : TypeForm ks) :
    admitsNone (withArguments "Union" ks) = (hintOf ks).isNone := by
  rw [admitsNone, isOptional_eq, withArguments, hintOf_subscript (by decide) h.matched,
    isOptionalWith_subscript _ _ h.ne_tuple]
  rfl

theorem admitsNone_optional (h : TypeForm ks) :
    admitsNone (withArguments "Optional" ks) = true := by
  rw [admitsNone, isOptional_eq, withArguments, hintOf_subscript (by decide) h.matched,
    isOptionalWith_subscript _ _ h.ne_tuple]
  rfl

/-- The tokens of a text are of these kinds. -/
def Quotes (text : String) (ks : List Token.Kind) : Prop :=
  ∃ ts, forwardTokens? text = some ts ∧ kindsOf ts = ks

theorem admitsNone_text {text : String} (h : Quotes text ks) :
    admitsNone [.str text true] = admitsNone ks := by
  obtain ⟨ts, htext, hkinds⟩ := h
  rw [admitsNone, hintOf_text, isOptional_eq, isOptionalWith, isOptionalText, htext]
  dsimp only
  rw [ofTokens_eq_hintOf, hkinds, admitsNone]

theorem makesOptional_name (free : isKeyword other = false) (hne : other ≠ "NoneType") :
    makesOptional [.name other] = false := by
  rw [makesOptional_eq, hintOf_name free, Expr.isNone, decide_eq_false hne]
  rfl

/-- What each spelling tells of a type. -/
theorem admitsNone_kinds (h : TypeForm ks) (free : isKeyword other = false)
    (hne : other ≠ "NoneType") (s : Spelling) : admitsNone (s.kinds other ks) = match s with
      | .unionFirst | .unionLast | .barFirst | .barLast => makesOptional ks
      | .unionAlone => (hintOf ks).isNone
      | .annotated | .enclosed => admitsNone ks := by
  have hother : TypeForm [.name other] := .name free .nil
  have hnone := makesOptional_name free hne
  cases s with
  | unionFirst => exact (admitsNone_unionOf h hother).trans (by rw [hnone, Bool.or_false])
  | unionLast => exact (admitsNone_unionOf hother h).trans (by rw [hnone, Bool.false_or])
  | barFirst => exact (admitsNone_bar h hother).trans (by rw [hnone, Bool.or_false])
  | barLast => exact (admitsNone_bar hother h).trans (by rw [hnone, Bool.false_or])
  | unionAlone => exact admitsNone_unionAlone h
  | annotated => exact admitsNone_annotated h hother
  | enclosed => exact admitsNone_enclosed h

theorem makesOptional_iff (h : TypeForm ks) :
    makesOptional ks = true ↔ NoneForm ks ∨ admitsNone ks = true := by
  rw [makesOptional, Bool.or_eq_true, h.isNone_iff]

/-- Only `None` is told apart from what it is in quotes. -/
theorem quoted_in_spellings {text : String} (h : TypeForm ks) (htext : Quotes text ks)
    (free : isKeyword other = false) (hne : other ≠ "NoneType") :
    (∀ s : Spelling,
      admitsNone (s.kinds other [.str text true]) = admitsNone (s.kinds other ks)) ↔
      ¬ NoneForm ks := by
  have hquoted := admitsNone_kinds (.text text) free hne
  have hplain := admitsNone_kinds h free hne
  have hsame := admitsNone_text htext
  have hnever : (hintOf [.str text true]).isNone = false := by
    rw [hintOf_text]
    rfl
  constructor
  · intro hspellings hnone
    have hunion := hspellings .unionFirst
    rw [hquoted, hplain] at hunion
    dsimp only at hunion
    rw [makesOptional, makesOptional, hnever, hsame, hnone.isNone, admitsNone,
      isOptional_of_isNone hnone.isNone] at hunion
    cases hunion
  · intro hnone s
    have hisNone : (hintOf ks).isNone = false := Bool.eq_false_iff.mpr (mt h.isNone_iff.mp hnone)
    have hmakes : makesOptional [.str text true] = makesOptional ks := by
      rw [makesOptional, makesOptional, hnever, hisNone, hsame]
    rw [hquoted, hplain]
    cases s with
    | unionFirst | unionLast | barFirst | barLast => exact hmakes
    | unionAlone => exact hnever.trans hisNone.symm
    | annotated | enclosed => exact hsame

/-- How a type tells whether it is optional, however its tokens are spread over lines. The four
spellings that join it with another type agree: the type is `None` or optional. In `Annotated` and
in parentheses another type than `None` is what it is alone, but a union of it alone never is
optional. In quotes a type is what it is without, and only `None` is told apart from its quoted form
within a spelling. -/
theorem spellings_of_type (h : TypeForm ks) (free : isKeyword other = false)
    (hne : other ≠ "NoneType") :
    (∀ ts, isOptional (.ofTokens ts) = admitsNone (kindsOf ts)) ∧
    (∀ s ∈ Spelling.joining,
      (admitsNone (s.kinds other ks) = true ↔ NoneForm ks ∨ admitsNone ks = true)) ∧
    (¬ NoneForm ks →
      admitsNone (Spelling.annotated.kinds other ks) = admitsNone ks ∧
      admitsNone (Spelling.enclosed.kinds other ks) = admitsNone ks ∧
      (admitsNone (Spelling.unionAlone.kinds other ks) = admitsNone ks ↔ admitsNone ks = false)) ∧
    ∀ text, Quotes text ks →
      admitsNone [.str text true] = admitsNone ks ∧
      ((∀ s : Spelling,
          admitsNone (s.kinds other [.str text true]) = admitsNone (s.kinds other ks)) ↔
        ¬ NoneForm ks) := by
  have hkinds := admitsNone_kinds h free hne
  refine ⟨fun ts => ?_, fun s hs => ?_, fun hnone => ⟨?_, ?_, ?_⟩, fun text htext => ⟨?_, ?_⟩⟩
  · rw [ofTokens_eq_hintOf, admitsNone]
  · have hjoining : admitsNone (s.kinds other ks) = makesOptional ks := by
      simp only [Spelling.joining, List.mem_cons, List.not_mem_nil, or_false] at hs
      rcases hs with rfl | rfl | rfl | rfl
      all_goals exact hkinds _
    rw [hjoining, makesOptional_iff h]
  · exact hkinds .annotated
  · exact hkinds .enclosed
  · rw [hkinds .unionAlone, Bool.eq_false_iff.mpr (mt h.isNone_iff.mp hnone), eq_comm]
  · exact admitsNone_text htext
  · exact quoted_in_spellings h htext free hne

/-- `Optional[str]` with `int`, and in quotes. -/
theorem spellings_of_optional_str :
    (∀ s ∈ Spelling.joining,
      admitsNone (s.kinds "int" (withArguments "Optional" [.name "str"])) = true) ∧
    admitsNone (Spelling.annotated.kinds "int" (withArguments "Optional" [.name "str"])) = true ∧
    ∀ s : Spelling, admitsNone (s.kinds "int" [.str "Optional[str]" true]) =
      admitsNone (s.kinds "int" (withArguments "Optional" [.name "str"])) := by
  have hstr : TypeForm [.name "str"] := .name (by decide) .nil
  have hnone := not_noneForm_withArguments "Optional" [.name "str"]
  have hadmits := admitsNone_optional hstr
  have htext : Quotes "Optional[str]" (withArguments "Optional" [.name "str"]) := by
    refine ⟨onLine 1 (withArguments "Optional" [.name "str"]), ?_, rfl⟩
    rw [forwardTokens?, tokenize_eq_steps]
    rfl
  have hoptional : TypeForm (withArguments "Optional" [.name "str"]) :=
    hstr.withArguments (by decide)
  have hother : isKeyword "int" = false := by decide
  obtain ⟨-, hjoining, halone, hquoted⟩ := spellings_of_type hoptional hother (by decide)
  exact ⟨fun s hs => (hjoining s hs).mpr (.inr hadmits), (halone hnone).1.trans hadmits,
    (hquoted _ htext).2.mpr hnone⟩

/-- A union of an optional annotation alone is not optional, and a quoted `None` in a union is not
seen. -/
theorem unseen_in_union :
    admitsNone (withArguments "Optional" [.name "str"]) = true ∧
    admitsNone (Spelling.unionAlone.kinds "int" (withArguments "Optional" [.name "str"])) = false ∧
    Quotes "None" [.name "None"] ∧
    admitsNone (Spelling.unionFirst.kinds "str" [.name "None"]) = true ∧
    admitsNone (Spelling.unionFirst.kinds "str" [.str "None" true]) = false := by
  have hstr : TypeForm [.name "str"] := .name (by decide) .nil
  have hoptional : TypeForm (withArguments "Optional" [.name "str"]) :=
    hstr.withArguments (by decide)
  have hquotes : Quotes "None" [.name "None"] := by
    refine ⟨onLine 1 [.name "None"], ?_, rfl⟩
    rw [forwardTokens?, tokenize_eq_steps]
    rfl
  refine ⟨admitsNone_optional hstr, ?_, hquotes, ?_, ?_⟩
  · rw [admitsNone_kinds hoptional (by decide) (by decide)]
    exact Bool.eq_false_iff.mpr (mt hoptional.isNone_iff.mp (not_noneForm_withArguments _ _))
  · rw [admitsNone_kinds .none (by decide) (by decide)]
    exact (makesOptional_iff .none).mpr (.inl .none)
  · rw [admitsNone_kinds (.text "None") (by decide) (by decide)]
    dsimp only
    rw [makesOptional, hintOf_text, admitsNone_text hquotes, admitsNone, hintOf_none,
      isOptional_of_isNone rfl]
    rfl

end Spellings

end DeclaredSchema
