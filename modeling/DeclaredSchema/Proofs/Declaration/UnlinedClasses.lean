import DeclaredSchema.Proofs.Declaration.ClassStatements
import DeclaredSchema.Proofs.Source.ExchangedOutlines
import DeclaredSchema.Proofs.Source.ExprReadings

/-! # Classes apart from their lines

What is declared depends on the kinds of the tokens. So statements whose tokens are of the same
kinds declare the same, apart from the lines (`SameDeclarations.simpleLines`), and so do outlines
that are the same but for some that declare the same (`Alike.sameDeclarations`).
-/

namespace DeclaredSchema

open Source

def FieldDeclaration.unlined (f : FieldDeclaration) : FieldDeclaration := { f with line := 0 }

/-- A class without the lines that it and its fields stand on. -/
def ClassDeclaration.unlined (c : ClassDeclaration) : ClassDeclaration :=
  { c with line := 0, fields := c.fields.map FieldDeclaration.unlined }

namespace Source

section Readers

variable {separator : Symbol} {line depth : Nat} {ts us : List Token}

/-! ## Readers of tokens on another line -/

theorem kindsOf_on (line : Nat) (ts : List Token) :
    kindsOf (ts.map (Token.on line)) = kindsOf ts := by
  rw [kindsOf, List.map_map]
  rfl

theorem map_on_of_kinds (same : kindsOf us = kindsOf ts) (line : Nat) :
    us.map (Token.on line) = ts.map (Token.on line) := by
  have hon (ts : List Token) : ts.map (Token.on line) = (kindsOf ts).map (⟨·, line⟩) := by
    rw [List.map_map]
    rfl
  rw [hon, hon, same]

theorem cutFrom?_on (separator : Symbol) (line depth : Nat) (ts : List Token) :
    cutFrom? separator depth (ts.map (Token.on line)) = (cutFrom? separator depth ts).map
      fun (a, b) => (a.map (Token.on line), b.map (Token.on line)) := by
  induction ts generalizing depth with
  | nil => rfl
  | cons t ts ih =>
      have hopens : (t.on line).opens = t.opens := rfl
      have hcloses : (t.on line).closes = t.closes := rfl
      have hsymbol : (t.on line).isSymbol separator = t.isSymbol separator := rfl
      have hcons (o : Option (List Token × List Token)) :
          (o.map fun (a, b) => (a.map (Token.on line), b.map (Token.on line))).map
              (fun (a, b) => (t.on line :: a, b)) =
            (o.map fun (a, b) => (t :: a, b)).map
              fun (a, b) => (a.map (Token.on line), b.map (Token.on line)) := by
        cases o <;> rfl
      simp only [List.map_cons, cutFrom?, hopens, hcloses, hsymbol, ih, hcons]
      split
      · rfl
      split
      · rfl
      split <;> rfl

/-- Tokens that begin with given kinds on another line do so on their own. -/
theorem exists_of_map_on {k : Token.Kind} {n : Nat} {us : List Token}
    (h : ts.map (Token.on line) = ⟨k, n⟩ :: us) :
    ∃ m rest, ts = ⟨k, m⟩ :: rest ∧ rest.map (Token.on line) = us := by
  obtain ⟨⟨kind, m⟩, rest, rfl, ht, hrest⟩ := List.map_eq_cons_iff.mp h
  obtain rfl : kind = k := congrArg Token.kind ht
  exact ⟨m, rest, rfl, hrest⟩

theorem annotatedAssignment?_on (line : Nat) (ts : List Token) :
    annotatedAssignment? (ts.map (Token.on line)) = annotatedAssignment? ts := by
  rw [annotatedAssignment?.eq_def ts]
  split
  · next target m n rest =>
      rw [List.map_cons, List.map_cons]
      dsimp only [Token.on, annotatedAssignment?]
      rw [cutTopLevel?, cutFrom?_on, Option.map_map, ← cutTopLevel?]
      split
      · rfl
      · refine Option.map_congr fun parts _ => ?_
        simp only [Function.comp_apply, Expr.ofTokens_on]
  · next hother =>
      rw [annotatedAssignment?.eq_def]
      split
      · next heq =>
          obtain ⟨m, rest, rfl, hrest⟩ := exists_of_map_on heq
          obtain ⟨n, rest, rfl, -⟩ := exists_of_map_on hrest
          exact absurd rfl (hother _ m n rest)
      · rfl

theorem startsWith_on (s : Symbol) (line : Nat) (ts : List Token) :
    startsWith s (ts.map (Token.on line)) = startsWith s ts := by
  cases ts <;> rfl

theorem afterGroup?_on (line : Nat) (ts : List Token) :
    afterGroup? (ts.map (Token.on line)) = (afterGroup? ts).map (List.map (Token.on line)) := by
  cases ts with
  | nil => rfl
  | cons t ts =>
      have hopens : (t.on line).opens = t.opens := rfl
      rw [List.map_cons, afterGroup?, afterGroup?, hopens, bracketed?_on]
      split
      · rw [Option.map_map, Option.map_map]
        rfl
      · rfl

theorem behindGroups?_on (line : Nat) (ts : List Token) :
    behindGroups? (ts.map (Token.on line)) = (behindGroups? ts).map (List.map (Token.on line)) := by
  rw [behindGroups?, behindGroups?, startsWith_on, startsWith_on, afterGroup?_on]
  split
  · cases afterGroup? ts with
    | none => rfl
    | some rest =>
        dsimp only [Option.map_some, Option.bind_eq_bind, Option.bind_some]
        rw [startsWith_on, afterGroup?_on]
        split <;> rfl
  · rfl

/-- A header begins with `class` and a name. -/
theorem exists_of_classHeader? {h : ClassHeader} (hts : classHeader? ts = some h) :
    ∃ m n word rest, ts = ⟨.name "class", m⟩ :: ⟨.name word, n⟩ :: rest := by
  rw [classHeader?.eq_def] at hts
  split at hts
  · exact ⟨_, _, _, _, rfl⟩
  · cases hts

theorem classHeader?_on (line : Nat) (ts : List Token) :
    classHeader? (ts.map (Token.on line)) =
      (classHeader? ts).map fun h => ⟨h.name, h.inlineBody.map (Token.on line)⟩ := by
  by_cases h : ∃ m n word rest, ts = ⟨.name "class", m⟩ :: ⟨.name word, n⟩ :: rest
  · obtain ⟨m, n, word, rest, rfl⟩ := h
    rw [List.map_cons, List.map_cons]
    dsimp only [Token.on]
    rw [classHeader?_eq, classHeader?_eq, behindGroups?_on]
    cases behindGroups? rest with
    | none => rfl
    | some behind =>
        rcases behind with - | ⟨⟨kind, _⟩, body⟩
        · rfl
        · cases kind with
          | symbol s => cases s <;> rfl
          | _ => rfl
  · have hnone : classHeader? ts = none :=
      Option.eq_none_iff_forall_not_mem.mpr fun _ hts => h (exists_of_classHeader? hts)
    rw [hnone, Option.map_none, Option.eq_none_iff_forall_not_mem]
    intro _ hon
    obtain ⟨m, n, word, rest, hts⟩ := exists_of_classHeader? hon
    obtain ⟨m, behind, rfl, hrest⟩ := exists_of_map_on hts
    obtain ⟨n, rest, rfl, -⟩ := exists_of_map_on hrest
    exact h ⟨m, n, word, rest, rfl⟩

/-- Lines of the same kinds have the same header or none. -/
theorem classHeader?_of_kinds (same : kindsOf us = kindsOf ts) :
    (classHeader? ts = none ∧ classHeader? us = none) ∨
      ∃ name body body', classHeader? ts = some ⟨name, body⟩ ∧
        classHeader? us = some ⟨name, body'⟩ ∧ kindsOf body' = kindsOf body := by
  have hheader := congrArg classHeader? (map_on_of_kinds same 0)
  rw [classHeader?_on, classHeader?_on] at hheader
  cases hts : classHeader? ts with
  | none =>
      rw [hts, Option.map_none, Option.map_eq_none_iff] at hheader
      exact .inl ⟨rfl, hheader⟩
  | some h =>
      rw [hts, Option.map_some, Option.map_eq_some_iff] at hheader
      obtain ⟨h', hus, heq⟩ := hheader
      obtain ⟨hname, hbody⟩ := ClassHeader.mk.inj heq
      refine .inr ⟨h.name, h.inlineBody, h'.inlineBody, rfl, ?_, ?_⟩
      · rw [hus, ← hname]
      · rw [← kindsOf_on 0 h'.inlineBody, hbody, kindsOf_on]

theorem splitTopLevel_of_kinds (same : kindsOf us = kindsOf ts) (separator : Symbol) :
    (splitTopLevel separator us).map kindsOf = (splitTopLevel separator ts).map kindsOf := by
  have hparts (ts : List Token) : (splitTopLevel separator ts).map kindsOf =
      (splitTopLevel separator (ts.map (Token.on 0))).map kindsOf := by
    rw [splitTopLevel_on, List.map_map]
    exact List.map_congr_left fun part _ => (kindsOf_on 0 part).symm
  rw [hparts us, hparts ts, map_on_of_kinds same]

end Readers

end Source

/-! ## Declarations -/

theorem fieldDeclaration?_on (line : Nat) (ts : List Token) :
    (fieldDeclaration? (ts.map (Token.on line))).map FieldDeclaration.unlined =
      (fieldDeclaration? ts).map FieldDeclaration.unlined := by
  cases ts with
  | nil => rfl
  | cons t ts =>
      rw [fieldDeclaration?, fieldDeclaration?, annotatedAssignment?_on]
      cases annotatedAssignment? (t :: ts) with
      | none => rfl
      | some assigned =>
          obtain ⟨target, typeHint, value⟩ := assigned
          cases value with
          | call callee args =>
              cases callee with
              | name declarator =>
                  dsimp only [List.map_cons, List.head?_cons, Option.bind_eq_bind, Option.bind_some]
                  split <;> rfl
              | _ => rfl
          | _ => rfl

theorem fieldDeclaration?_of_kinds {ts us : List Token} (same : kindsOf us = kindsOf ts) :
    (fieldDeclaration? us).map FieldDeclaration.unlined =
      (fieldDeclaration? ts).map FieldDeclaration.unlined := by
  rw [← fieldDeclaration?_on 0 us, ← fieldDeclaration?_on 0 ts, map_on_of_kinds same]

/-- What the parts of a body declare, apart from the lines. -/
def unlinedFields (parts : List (List Token)) : List FieldDeclaration :=
  (parts.filterMap fieldDeclaration?).map FieldDeclaration.unlined

theorem unlinedFields_append (parts others : List (List Token)) :
    unlinedFields (parts ++ others) = unlinedFields parts ++ unlinedFields others := by
  rw [unlinedFields, List.filterMap_append, List.map_append]
  rfl

theorem unlinedFields_of_kinds {parts parts' : List (List Token)}
    (same : parts'.map kindsOf = parts.map kindsOf) :
    unlinedFields parts' = unlinedFields parts := by
  induction parts generalizing parts' with
  | nil =>
      obtain rfl := List.map_eq_nil_iff.mp same
      rfl
  | cons part parts ih =>
      obtain ⟨part', others, rfl, hpart, hothers⟩ := List.map_eq_cons_iff.mp same
      have hfirst : unlinedFields [part'] = unlinedFields [part] := by
        have hfield (part : List Token) : unlinedFields [part] =
            ((fieldDeclaration? part).map FieldDeclaration.unlined).toList := by
          cases hpart : fieldDeclaration? part <;> simp [unlinedFields, hpart]
        rw [hfield, hfield, fieldDeclaration?_of_kinds hpart]
      rw [← List.singleton_append, unlinedFields_append, hfirst, ih hothers,
        ← unlinedFields_append, List.singleton_append]

/-- Parts without tokens declare nothing. -/
theorem unlinedFields_filter (parts : List (List Token)) :
    unlinedFields (parts.filter (!·.isEmpty)) = unlinedFields parts := by
  rw [unlinedFields, unlinedFields, List.filterMap_filter]
  refine congrArg _ (List.filterMap_congr fun part _ => ?_)
  cases part <;> rfl

theorem classDeclaration?_unlined {path name : String} {line line' : Nat}
    {body body' : List (List Token)} (same : unlinedFields body' = unlinedFields body) :
    (classDeclaration? path name line' body').map ClassDeclaration.unlined =
      (classDeclaration? path name line body).map ClassDeclaration.unlined := by
  have hclass (line : Nat) (body : List (List Token)) :
      (classDeclaration? path name line body).map ClassDeclaration.unlined =
        if Kind.isMarkerClass name || (unlinedFields body).isEmpty then none
        else some ⟨name, path, 0, unlinedFields body⟩ := by
    rw [classDeclaration?, unlinedFields, List.isEmpty_map]
    split <;> rfl
  rw [hclass, hclass, same]

/-- The classes of lines of the same kinds. -/
theorem inlineClass?_of_kinds (path : String) {l l' : Line}
    (same : kindsOf l'.tokens = kindsOf l.tokens) :
    (inlineClass? path l').map ClassDeclaration.unlined =
      (inlineClass? path l).map ClassDeclaration.unlined := by
  rw [inlineClass?, inlineClass?]
  obtain ⟨hnone, hnone'⟩ | ⟨name, body, body', hbody, hbody', hkinds⟩ := classHeader?_of_kinds same
  · rw [hnone, hnone']
    rfl
  · rw [hbody, hbody']
    exact classDeclaration?_unlined (unlinedFields_of_kinds (splitTopLevel_of_kinds hkinds _))

/-- The classes that headers of the same kinds open. -/
theorem blockClass?_of_kinds (path : String) {header header' : Line} {ss ss' : List Statement}
    (same : kindsOf header'.tokens = kindsOf header.tokens)
    (fields : unlinedFields (ss'.filterMap simpleTokens?) =
      unlinedFields (ss.filterMap simpleTokens?)) :
    (blockClass? path header' ss').map ClassDeclaration.unlined =
      (blockClass? path header ss).map ClassDeclaration.unlined := by
  rw [blockClass?, blockClass?]
  obtain ⟨hnone, hnone'⟩ | ⟨name, body, body', hbody, hbody', -⟩ := classHeader?_of_kinds same
  · rw [hnone, hnone']
    rfl
  · rw [hbody, hbody']
    exact classDeclaration?_unlined fields

/-! ## Statements -/

/-- Statements that make the same classes and declare the same where they stand, apart from the
lines. -/
structure SameDeclarations (path : String) (ss ss' : List Statement) : Prop where
  classes : (classesInBlock path ss').map ClassDeclaration.unlined =
    (classesInBlock path ss).map ClassDeclaration.unlined
  fields : unlinedFields (ss'.filterMap simpleTokens?) = unlinedFields (ss.filterMap simpleTokens?)

theorem classesInBlock_append (path : String) (ss others : List Statement) :
    classesInBlock path (ss ++ others) = classesInBlock path ss ++ classesInBlock path others := by
  induction ss with
  | nil => rfl
  | cons s ss ih => rw [List.cons_append, classesInBlock, classesInBlock, ih, List.append_assoc]

namespace SameDeclarations

variable {path : String} {ss ss' others others' : List Statement}

theorem append (h : SameDeclarations path ss ss') (hothers : SameDeclarations path others others') :
    SameDeclarations path (ss ++ others) (ss' ++ others') where
  classes := by
    rw [classesInBlock_append, classesInBlock_append, List.map_append, List.map_append, h.classes,
      hothers.classes]
  fields := by
    rw [List.filterMap_append, List.filterMap_append, unlinedFields_append, unlinedFields_append,
      h.fields, hothers.fields]

theorem compound {header header' : Line} (same : kindsOf header'.tokens = kindsOf header.tokens)
    (h : SameDeclarations path ss ss') :
    SameDeclarations path [.compound header ss] [.compound header' ss'] where
  classes := by
    have hclass := blockClass?_of_kinds path same h.fields
    simp only [classesInBlock, classesIn, List.append_nil, List.map_append, h.classes,
      ← Option.toList_map, hclass]
  fields := rfl

/-- One line, of which nothing but the kinds of its tokens is given. -/
theorem simple {l l' : Line} (same : kindsOf l'.tokens = kindsOf l.tokens) :
    SameDeclarations path [.simple l] [.simple l'] where
  classes := by
    simp only [classesInBlock, classesIn, List.append_nil, ← Option.toList_map,
      inlineClass?_of_kinds path same]
  fields := unlinedFields_of_kinds (congrArg (fun ks => [ks]) same)

theorem nil : SameDeclarations path [] [] := ⟨rfl, rfl⟩

theorem simpleLines {ts us : List Token} (same : kindsOf us = kindsOf ts) (m n : Nat) :
    SameDeclarations path (simpleLines ts m) (simpleLines us n) := by
  have hlines {parts parts' : List (List Token)} (same : parts'.map kindsOf = parts.map kindsOf) :
      SameDeclarations path
        (parts.filterMap fun part => part.head?.map fun first => .simple ⟨part, first.line⟩)
        (parts'.filterMap fun part => part.head?.map fun first => .simple ⟨part, first.line⟩) := by
    induction parts generalizing parts' with
    | nil =>
        obtain rfl := List.map_eq_nil_iff.mp same
        exact .nil
    | cons part parts ih =>
        obtain ⟨part', others, rfl, hpart, hothers⟩ := List.map_eq_cons_iff.mp same
        cases part with
        | nil =>
            obtain rfl := List.map_eq_nil_iff.mp hpart
            have hrest := ih hothers
            exact hrest
        | cons t part =>
            obtain ⟨n, rest, rfl, hrest⟩ := exists_of_kindsOf_cons hpart
            exact (simple (l := ⟨t :: part, t.line⟩) hpart).append (ih hothers)
  rw [Source.simpleLines, Source.simpleLines, clauseOf?_of_kinds same]
  split
  · exact simple same
  · exact hlines (splitTopLevel_of_kinds same _)

end SameDeclarations

/-- With outlines that declare the same, a text declares what it did. -/
theorem Source.Alike.sameDeclarations {R : Outline → Outline → Prop} {path : String}
    (hR : ∀ o o', R o o' → SameDeclarations path o.statements o'.statements)
    {os os' : List Outline} (h : Alike R os os') :
    SameDeclarations path (Outline.statementsOf os) (Outline.statementsOf os') := by
  induction h with
  | nil => exact .nil
  | line same _ ih =>
      rw [Outline.statementsOf, Outline.statementsOf, Outline.statements, Outline.statements]
      exact (SameDeclarations.simpleLines same _ _).append ih
  | block same _ _ ihbody ih =>
      rw [Outline.statementsOf, Outline.statementsOf, Outline.statements, Outline.statements]
      exact (ihbody.compound same).append ih
  | here ho _ ih =>
      rw [Outline.statementsOf, Outline.statementsOf]
      exact (hR _ _ ho).append ih

end DeclaredSchema
