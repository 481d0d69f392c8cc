import LinkRouting.Proofs.Path.Escapes
import LinkRouting.Url.Parse

/-! # Bare paths

A text is a *bare path* if a URL parser takes all of it for the path and drops nothing
(`IsBarePath`).  It is no URL by itself (`IsBarePath.parse_eq`); resolved under a base it
becomes the base's path, with some of its characters written as escapes
(`IsBarePath.resolve_eq`).
-/
namespace LinkRouting
namespace Url
open Text (cutAt)

/-- **A text that is read as a path and nothing else.** -/
structure IsBarePath (text : String) : Prop where
  /-- It starts with a slash. -/
  slash : text.toList.head? = some '/'
  /-- Two slashes would start an authority. -/
  single : text.toList[1]? ≠ some '/'
  /-- Nothing ends the path, turns into a slash or is dropped. -/
  plain : ∀ c ∈ text.toList, c ∉ ['?', '#', '\\', '\t', '\n', '\r']
  /-- The blanks and controls at the end of a text are dropped. -/
  last : ∀ c ∈ text.toList.getLast?, 0x20 < c.toNat
  /-- No segment is left out or takes another away. -/
  segments : ∀ segment ∈ cutAt (· == '/') text.toList,
    isDot segment = false ∧ isDotDot segment = false

/-! ### What is dropped from a text -/

theorem dropWhile_eq_self_of_head? {α : Type} {p : α → Bool} {l : List α}
    (h : ∀ a ∈ l.head?, p a = false) : l.dropWhile p = l := by
  cases l with
  | nil => rfl
  | cons a l => rw [List.dropWhile_cons, h a rfl]; rfl

theorem clean_eq_self {cs : List Char} (hfirst : ∀ c ∈ cs.head?, 0x20 < c.toNat)
    (hlast : ∀ c ∈ cs.getLast?, 0x20 < c.toNat)
    (hplain : ∀ c ∈ cs, c ∉ ['\t', '\n', '\r']) : clean cs = cs := by
  have hkept : ∀ c : Char, 0x20 < c.toNat → decide (c.toNat ≤ 0x20) = false := fun c hc => by
    simpa using hc
  have hend : ∀ c ∈ cs.reverse.head?, decide (c.toNat ≤ 0x20) = false := by
    rw [List.head?_reverse]
    exact fun c hc => hkept c (hlast c hc)
  dsimp only [clean]
  rw [dropWhile_eq_self_of_head? fun c hc => hkept c (hfirst c hc),
    dropWhile_eq_self_of_head? hend,
    List.reverse_reverse, List.filter_eq_self]
  intro c hc
  have hne := hplain c hc
  simp only [List.mem_cons, List.not_mem_nil, or_false, not_or] at hne
  obtain ⟨htab, hline, hreturn⟩ := hne
  simp [htab, hline, hreturn]

/-! ### The segments of a path -/

/-- Segments that are not dots are kept, with some characters escaped. -/
theorem readSegments_of_not_dot {pieces : List (List Char)}
    (h : ∀ piece ∈ pieces, isDot piece = false ∧ isDotDot piece = false)
    (done : List (List Char)) :
    readSegments false done pieces =
      done.reverse ++ pieces.map (Percent.encodeWith escapedInPath) := by
  induction pieces generalizing done with
  | nil => rw [readSegments, List.map_nil, List.append_nil]
  | cons piece pieces ih =>
    obtain ⟨hdot, hdotdot⟩ := h piece List.mem_cons_self
    have hkept : keptSegment false done piece = Percent.encodeWith escapedInPath piece := rfl
    have hrest := ih (fun p hp => h p (List.mem_cons_of_mem _ hp))
      (Percent.encodeWith escapedInPath piece :: done)
    cases pieces with
    | nil =>
      rw [readSegments, hdot, hdotdot, hkept]
      simp
    | cons next pieces =>
      rw [readSegments, hdot, hdotdot, hkept, if_neg Bool.false_ne_true,
        if_neg Bool.false_ne_true, hrest]
      · simp
      · simp

theorem segmentsText_cons (segment : List Char) (segments : List (List Char)) :
    segmentsText (segment :: segments) = '/' :: (segment ++ segmentsText segments) := rfl

/-- The pieces between slashes, each written with escapes, are the text written with
escapes. -/
theorem segmentsText_cutAt {set : Char → Bool} (hslash : set '/' = false) (cs : List Char) :
    segmentsText ((cutAt (· == '/') cs).map (Percent.encodeWith set)) =
      '/' :: Percent.encodeWith set cs := by
  induction cs with
  | nil => rfl
  | cons c cs ih =>
    rw [cutAt]
    by_cases hc : c = '/'
    · subst hc
      rw [if_pos (by decide), List.map_cons, segmentsText_cons, ih,
        Percent.encodeWith_cons_of_kept (by decide) hslash]
      rfl
    · rw [if_neg (by simpa using hc)]
      cases hcut : cutAt (· == '/') cs with
      | nil => exact absurd hcut (Text.cutAt_ne_nil _ _)
      | cons piece pieces =>
        rw [hcut, List.map_cons, segmentsText_cons] at ih
        obtain ⟨-, hrest⟩ := List.cons.inj ih
        rw [List.map_cons, segmentsText_cons, Percent.encodeWith_cons, List.append_assoc, hrest,
          ← Percent.encodeWith_cons]

namespace IsBarePath
variable {text : String} (h : IsBarePath text)
include h

theorem exists_cons : ∃ cs, text.toList = '/' :: cs := by
  obtain ⟨c, cs, hcs⟩ := List.exists_cons_of_ne_nil (l := text.toList) fun hnil => by
    have hslash := h.slash
    rw [hnil] at hslash
    cases hslash
  have hslash := h.slash
  rw [hcs] at hslash
  obtain rfl : c = '/' := Option.some.inj hslash
  exact ⟨cs, hcs⟩

/-- Nothing is dropped from a bare path. -/
theorem clean_eq : clean text.toList = text.toList := by
  refine clean_eq_self (fun c hc => ?_) h.last fun c hc hmem => h.plain c hc ?_
  · rw [h.slash] at hc
    obtain rfl : '/' = c := Option.some.inj hc
    decide
  · simp only [List.mem_cons, List.not_mem_nil, or_false] at hmem ⊢
    exact .inr (.inr (.inr hmem))

/-- **A bare path has no scheme.** -/
theorem parse_eq : Url.parse text = .error .relative := by
  obtain ⟨cs, hcs⟩ := h.exists_cons
  have hscheme : scheme? ('/' :: cs) = none := rfl
  rw [Url.parse, h.clean_eq, hcs, hscheme]

/-- The path of a bare path is all of it. -/
theorem withPath_eq {cs : List Char} (hcs : text.toList = '/' :: cs) {base : Url}
    (hbase : isSpecial base.scheme = false) :
    withPath base [] cs = { base with
      path := escaped escapedInPath text.toList, query := none, fragment := none } := by
  have hfile : (base.scheme == "file") = false := by
    by_contra htrue
    rw [Bool.not_eq_false, beq_iff_eq] at htrue
    rw [htrue] at hbase
    exact absurd hbase (by decide)
  have hends : ∀ c ∈ cs, (!endsPath c) = true := by
    intro c hc
    have hne := h.plain c (hcs ▸ List.mem_cons_of_mem _ hc)
    simp only [List.mem_cons, not_or] at hne
    simp [endsPath, hne.1, hne.2.1]
  have hseparates : separatesSegments (isSpecial base.scheme) = (· == '/') := by
    rw [hbase]
    ext c
    simp [separatesSegments]
  have hsegments : pathSegments base.scheme [] cs =
      (cutAt (· == '/') cs).map (Percent.encodeWith escapedInPath) := by
    rw [pathSegments, hfile, hseparates]
    refine readSegments_of_not_dot (fun piece hpiece => h.segments piece ?_) []
    rw [hcs]
    exact List.mem_cons_of_mem _ hpiece
  have hescaped : Percent.encodeWith escapedInPath text.toList =
      '/' :: Percent.encodeWith escapedInPath cs := by
    rw [hcs]
    exact Percent.encodeWith_cons_of_kept (by decide) (by decide) cs
  rw [withPath, List.takeWhile_eq_self_iff.mpr hends, List.dropWhile_eq_nil_iff.mpr hends,
    hsegments, pathOf, hfile, if_neg Bool.false_ne_true, segmentsText_cutAt (by decide),
    ← hescaped]
  rfl

/-- **A bare path is the path of the base under which it is resolved**, with some
characters written as escapes. -/
theorem resolve_eq {base : Url} (hbase : isSpecial base.scheme = false) :
    base.resolve text = .ok { base with
      path := escaped escapedInPath text.toList, query := none, fragment := none } := by
  obtain ⟨cs, hcs⟩ := h.exists_cons
  have hpath := h.withPath_eq hcs hbase
  rw [resolve, h.clean_eq, hcs]
  cases cs with
  | nil => exact congrArg Except.ok (hcs ▸ hpath)
  | cons d cs =>
    have hslash : isSlash d = false := by
      have hsingle := h.single
      have hne := h.plain d (by rw [hcs]; simp)
      rw [hcs] at hsingle
      simp only [List.mem_cons, not_or] at hne
      have hd : d ≠ '/' := fun heq => hsingle (by rw [heq]; rfl)
      simp [isSlash, hd, hne.2.2.1]
    dsimp only
    rw [if_neg (by decide), if_neg (by decide), if_pos (by decide), hslash,
      if_neg Bool.false_ne_true]
    exact congrArg Except.ok (hcs ▸ hpath)

end IsBarePath

end Url
end LinkRouting
