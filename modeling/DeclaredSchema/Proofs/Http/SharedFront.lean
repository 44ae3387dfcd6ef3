import DeclaredSchema.Http.Url
import Mathlib.Data.List.Basic
import Mathlib.Data.List.TakeDrop
import Mathlib.Data.List.TakeWhile

/-! # URLs that begin alike

What names a server stands in front of the first segment of a path. Two URLs of a scheme with
servers that agree up to the slash behind that segment are read alike: both are turned down for the
same reason, or they name the same server, and only path, query and fragment differ. A path of
segments in which nothing is special is written as it stands.
-/

namespace DeclaredSchema

namespace Url

/-! ## Stopping at a character -/

section Stop

variable {p : Char → Bool} {c : Char} (hc : p c = false) (xs ys : List Char)

include hc

theorem takeWhile_append_of_stop : (xs ++ c :: ys).takeWhile p = xs.takeWhile p := by
  induction xs with
  | nil => simp [hc]
  | cons x xs ih => cases hx : p x <;> simp [hx, ih]

theorem dropWhile_append_of_stop : (xs ++ c :: ys).dropWhile p = xs.dropWhile p ++ c :: ys := by
  induction xs with
  | nil => simp [hc]
  | cons x xs ih => cases hx : p x <;> simp [hx, ih]

theorem span_append_of_stop :
    (xs ++ c :: ys).span p = (xs.takeWhile p, xs.dropWhile p ++ c :: ys) := by
  rw [List.span_eq_takeWhile_dropWhile, takeWhile_append_of_stop hc, dropWhile_append_of_stop hc]

end Stop

/-! ## The parts of a URL -/

/-- A character that counts also within a text. -/
def isWritten (c : Char) : Bool := c ≠ '\t' && c ≠ '\n' && c ≠ '\r'

/-- What stands in front, without what does not count there. -/
def cleanedFront (cs : List Char) : List Char := (cs.dropWhile isTrimmed).filter isWritten

/-- What stands at the end, without what does not count there. -/
def cleanedBack (cs : List Char) : List Char :=
  ((cs.reverse.dropWhile isTrimmed).reverse).filter isWritten

/-- The first segment of every path that a store is asked for, with the slash before it. -/
def rootPath : List Char := ['/', 'd', 'a', 't', 'a', 'b', 'a', 's', 'e', 's']

theorem cleaned_append (front back : List Char) :
    cleaned (front ++ rootPath ++ '/' :: back) =
      cleanedFront front ++ rootPath ++ '/' :: cleanedBack back := by
  have hslash : isTrimmed '/' = false := by decide
  have hfront : (front ++ rootPath ++ '/' :: back).dropWhile isTrimmed =
      front.dropWhile isTrimmed ++ rootPath ++ '/' :: back := by
    have h := dropWhile_append_of_stop hslash front (rootPath.tail ++ '/' :: back)
    rw [List.append_assoc, List.append_assoc]
    exact h
  have hback : (front.dropWhile isTrimmed ++ rootPath ++ '/' :: back).reverse.dropWhile isTrimmed =
      back.reverse.dropWhile isTrimmed ++
        '/' :: (front.dropWhile isTrimmed ++ rootPath).reverse := by
    have h := dropWhile_append_of_stop hslash back.reverse
      (front.dropWhile isTrimmed ++ rootPath).reverse
    rw [List.reverse_append, List.reverse_cons, List.append_assoc, List.singleton_append, h]
  have hwritten : (fun c => decide (c ≠ '\t') && decide (c ≠ '\n') && decide (c ≠ '\r')) =
      isWritten := rfl
  have hroot : rootPath.filter isWritten = rootPath := by decide
  rw [cleaned, hfront, hback, hwritten, List.reverse_append, List.reverse_cons,
    List.reverse_reverse]
  simp only [List.filter_append, List.append_assoc, hroot, cleanedFront, cleanedBack]
  rfl

theorem cleanedBack_eq_self {cs : List Char}
    (h : ∀ c ∈ cs, isTrimmed c = false ∧ isWritten c = true) : cleanedBack cs = cs := by
  have htrimmed : cs.reverse.dropWhile isTrimmed = cs.reverse := by
    rw [List.dropWhile_eq_self_iff]
    intro hpos
    rw [(h _ (List.mem_reverse.mp (List.getElem_mem hpos))).1]
    exact Bool.false_ne_true
  rw [cleanedBack, htrimmed, List.reverse_reverse, List.filter_eq_self]
  exact fun c hc => (h c hc).2

theorem splitScheme?_append (front back : List Char) :
    splitScheme? (front ++ '/' :: back) =
      (splitScheme? front).map fun (scheme, rest) => (scheme, rest ++ '/' :: back) := by
  have hslash : isSchemeChar '/' = false := by decide
  rw [splitScheme?, splitScheme?, span_append_of_stop hslash, List.span_eq_takeWhile_dropWhile]
  dsimp only
  generalize hscheme : (front.takeWhile isSchemeChar).head? = first
  cases first with
  | none => rfl
  | some c =>
      cases front.dropWhile isSchemeChar with
      | nil => rfl
      | cons d rest =>
          by_cases hd : d = ':'
          · subst hd
            by_cases hc : Text.isAsciiLetter c = true <;> simp [hc]
          · simp [hd]

theorem readAuthority_append (scheme : String) (front back : List Char) :
    readAuthority scheme true (front ++ '/' :: back) =
      (readAuthority scheme true front).map fun (a, rest) => (a, rest ++ '/' :: back) := by
  have hslash : (!(UrlPath.isSlash true '/' || startsTail '/')) = false := by decide
  rw [readAuthority, readAuthority, span_append_of_stop hslash, List.span_eq_takeWhile_dropWhile]
  dsimp only
  generalize splitCredentials (front.takeWhile _) = parts
  generalize splitHost false parts.2 = host
  simp only [Bool.not_true, Bool.false_and]
  split
  · rfl
  · cases Host.ofText true host.1 with
    | error e => rfl
    | ok h =>
        cases readNumber host.2 <;> simp [Except.mapError, bind, Except.bind, Except.map]

/-! ## Whole URLs -/

/-- The scheme of a URL is what stands before the first colon. -/
theorem splitScheme?_of_ofText {text : String} {u : Url} (h : ofText text = .ok u) :
    ∃ rest, splitScheme? (cleaned text.toList) = some (u.scheme, rest) := by
  have hread {scheme : String} {read : Except UrlFault (UrlAuthority × List Char)}
      {pathOf : List Char → List Char}
      (h : (do let (a, rest) ← read; .ok (complete scheme (some a) pathOf rest)) = Except.ok u) :
      u.scheme = scheme := by
    cases read with
    | error e => cases h
    | ok p => exact (Except.ok.inj h) ▸ rfl
  rw [ofText] at h
  cases hs : splitScheme? (cleaned text.toList) with
  | none =>
      rw [hs] at h
      cases h
  | some p =>
      obtain ⟨scheme, rest⟩ := p
      rw [hs] at h
      dsimp only at h
      suffices hscheme : u.scheme = scheme from ⟨rest, by rw [hscheme]⟩
      split at h
      · exact hread h
      · exact hread h
      · exact hread h
      · exact (Except.ok.inj h) ▸ rfl
      · exact (Except.ok.inj h) ▸ rfl

/-- A URL of a scheme with servers, whose text has the root path in it. -/
theorem ofText_rootPath {text scheme : String} {front back rest : List Char}
    (htext : text.toList = front ++ rootPath ++ '/' :: back)
    (hscheme : splitScheme? (cleanedFront front) = some (scheme, rest))
    (server : formOf scheme = .server) :
    ofText text =
      (readAuthority scheme true ((rest ++ rootPath).dropWhile (UrlPath.isSlash true))).map
        fun (a, tail) => complete scheme (some a) (UrlPath.ofText true)
          (tail ++ '/' :: cleanedBack back) := by
  have hsplit : splitScheme? (cleaned text.toList) =
      some (scheme, rest ++ rootPath ++ '/' :: cleanedBack back) := by
    have h := splitScheme?_append (cleanedFront front) (rootPath.tail ++ '/' :: cleanedBack back)
    rw [hscheme] at h
    rw [htext, cleaned_append, List.append_assoc, List.append_assoc]
    exact h
  -- The slashes before an authority end at the root path's first letter at the latest.
  have hletter : UrlPath.isSlash true 'd' = false := by decide
  have hdrop (ys : List Char) : (rest ++ rootPath ++ ys).dropWhile (UrlPath.isSlash true) =
      (rest ++ ['/']).dropWhile (UrlPath.isSlash true) ++ (rootPath.tail ++ ys) := by
    have h := dropWhile_append_of_stop hletter (rest ++ ['/']) (rootPath.tail.tail ++ ys)
    rw [List.append_assoc, List.singleton_append] at h
    rw [List.append_assoc]
    exact h
  have hfront := hdrop []
  rw [List.append_nil, List.append_nil] at hfront
  rw [ofText, hsplit]
  simp only [server]
  rw [hdrop, ← List.append_assoc, ← hfront, readAuthority_append]
  cases readAuthority scheme true ((rest ++ rootPath).dropWhile (UrlPath.isSlash true)) <;> rfl

/-- Two texts that agree up to the root path name the same server. -/
theorem ofText_of_sameFront {text text' : String} {front back back' : List Char} {u : Url}
    (htext : text.toList = front ++ rootPath ++ '/' :: back)
    (htext' : text'.toList = front ++ rootPath ++ '/' :: back') (h : ofText text = .ok u)
    (server : formOf u.scheme = .server) :
    ∃ u', ofText text' = .ok u' ∧ u'.scheme = u.scheme ∧ u'.authority = u.authority := by
  obtain ⟨rest, hrest⟩ := splitScheme?_of_ofText h
  rw [htext, cleaned_append, List.append_assoc] at hrest
  have hsplit := splitScheme?_append (cleanedFront front) (rootPath.tail ++ '/' :: cleanedBack back)
  obtain ⟨⟨scheme, tail⟩, hscheme, hpair⟩ := Option.map_eq_some_iff.mp (hsplit.symm.trans hrest)
  obtain rfl : scheme = u.scheme := congrArg Prod.fst hpair
  rw [ofText_rootPath htext hscheme server] at h
  rw [ofText_rootPath htext' hscheme server]
  cases hread : readAuthority u.scheme true
      ((tail ++ rootPath).dropWhile (UrlPath.isSlash true)) with
  | error e =>
      rw [hread] at h
      cases h
  | ok p =>
      rw [hread] at h
      exact ⟨_, rfl, rfl, (Except.ok.inj h) ▸ rfl⟩

end Url

namespace UrlPath

/-! ## Plain paths -/

/-- A segment that stands in a path as it is. -/
structure Plain (s : List Char) : Prop where
  undotted : plainDots s ≠ ['.', '.'] ∧ plainDots s ≠ ['.']
  unsplit : ∀ c ∈ s, isSlash true c = false
  kept : ∀ c ∈ s, Percent.keptInPath c = true

theorem Plain.of_all {s : List Char}
    (h : (decide (plainDots s ≠ ['.', '.'] ∧ plainDots s ≠ ['.']) &&
      s.all fun c => !isSlash true c && Percent.keptInPath c) = true) : Plain s := by
  simp only [Bool.and_eq_true, decide_eq_true_eq, List.all_eq_true, Bool.not_eq_true'] at h
  exact ⟨h.1, fun c hc => (h.2 c hc).1, fun c hc => (h.2 c hc).2⟩

theorem resolveDots_of_plain {done segments : List (List Char)} (plain : ∀ s ∈ segments, Plain s) :
    resolveDots done segments = done.reverse ++ segments := by
  induction segments generalizing done with
  | nil => simp [resolveDots]
  | cons s rest ih =>
      obtain ⟨hs, hrest⟩ := List.forall_mem_cons.mp plain
      rw [resolveDots]
      simp only [hs.undotted, if_false]
      rw [ih hrest]
      simp

theorem splitOnP_segments {segments : List (List Char)} {last : List Char}
    (plain : ∀ s ∈ segments, Plain s) (hlast : Plain last) :
    (segments.flatMap (· ++ ['/']) ++ last).splitOnP (isSlash true) = segments ++ [last] := by
  induction segments with
  | nil => exact List.splitOnP_eq_singleton hlast.unsplit
  | cons s rest ih =>
      obtain ⟨hs, hrest⟩ := List.forall_mem_cons.mp plain
      rw [List.flatMap_cons, List.append_assoc, List.append_assoc, List.singleton_append,
        List.splitOnP_append_cons_of_forall_mem hs.unsplit '/' (by decide), ih hrest]
      rfl

theorem encode_of_kept {s : List Char} (kept : ∀ c ∈ s, Percent.keptInPath c = true) :
    Percent.encode Percent.keptInPath s = s := by
  induction s with
  | nil => rfl
  | cons c rest ih =>
      obtain ⟨hc, hrest⟩ := List.forall_mem_cons.mp kept
      rw [Percent.encode, List.flatMap_cons, Percent.encodeChar, if_pos hc]
      exact congrArg (c :: ·) (ih hrest)

/-- Plain segments are written one behind the other. -/
theorem ofText_segments {segments : List (List Char)} {last : List Char}
    (plain : ∀ s ∈ segments, Plain s) (hlast : Plain last) :
    ofText true ('/' :: (segments.flatMap (· ++ ['/']) ++ last)) =
      (segments ++ [last]).flatMap ('/' :: ·) := by
  have hall : ∀ s ∈ segments ++ [last], Plain s := by
    intro s hs
    rcases List.mem_append.mp hs with hs | hs
    · exact plain s hs
    · exact List.mem_singleton.mp hs ▸ hlast
  have hslash : isSlash true '/' = true := by decide
  rw [ofText]
  simp only [hslash, if_true]
  rw [splitOnP_segments plain hlast, resolveDots_of_plain hall, ofSegments]
  refine List.flatMap_congr fun s hs => ?_
  rw [encode_of_kept (hall s hs).kept]

end UrlPath

end DeclaredSchema
