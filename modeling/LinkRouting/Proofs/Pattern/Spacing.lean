import LinkRouting.Proofs.Path.Scan
import LinkRouting.Proofs.Pattern.Grammar

/-! # Routes that a path can take

The grammar puts a separator before whatever may follow a literal or a symbol, in a
group too.  So no choice of a pattern has two places side by side that both take
text, and none asks for an empty literal (`Grammatical.spellable`).
-/
namespace LinkRouting

/-- Whether a label takes a separator. -/
def Label.isSeparator : Label → Bool
  | .exact token => token.isSeparator
  | .parameter => false

/-- **Labels under which a path can be written**: no two that take text stand side
by side, and no literal is empty. -/
structure Spellable (ls : List Label) : Prop where
  spaced : Path.Spaced (ls.map Label.isSeparator)
  literal_ne : ∀ text, .exact (.literal text) ∈ ls → text ≠ ""

/-- Such labels as may stand behind text. -/
structure Spellable.Behind (ls : List Label) : Prop extends Spellable ls where
  head : ∀ b ∈ (ls.map Label.isSeparator).head?, b = true

namespace Spellable
variable {ls ms : List Label}

theorem behind_nil : Behind [] :=
  ⟨⟨Path.spaced_nil, nofun⟩, by simp⟩

theorem separator (token : Path.Token) (htoken : token.isSeparator = true) (h : Spellable ls) :
    Behind (.exact token :: ls) := by
  refine ⟨⟨Path.spaced_cons_iff.mpr ⟨fun _ _ => .inl htoken, h.spaced⟩, ?_⟩, ?_⟩
  · intro text hmem
    rcases List.mem_cons.mp hmem with heq | hmem
    · obtain rfl := Label.exact.inj heq
      cases htoken
    · exact h.literal_ne text hmem
  · exact fun b hb => (Option.some.inj hb).symm.trans htoken

theorem append (h : Spellable ls) (h' : Behind ms) : Spellable (ls ++ ms) := by
  refine ⟨?_, fun text hmem => ?_⟩
  · rw [List.map_append]
    exact List.isChain_append.mpr ⟨h.spaced, h'.spaced, fun _ _ b hb => .inr (h'.head b hb)⟩
  · rcases List.mem_append.mp hmem with hmem | hmem
    · exact h.literal_ne text hmem
    · exact h'.literal_ne text hmem

theorem Behind.append (h : Behind ls) (h' : Behind ms) : Behind (ls ++ ms) := by
  refine ⟨h.toSpellable.append h', ?_⟩
  cases ls with
  | nil => exact h'.head
  | cons l ls => exact h.head

theorem parameter : Spellable [.parameter] :=
  ⟨List.IsChain.singleton _, by simp⟩

/-- The tokens of a text are such labels. -/
theorem scan (text : String) : Spellable ((Path.scan text).map Label.exact) := by
  obtain ⟨hspaced, htexts⟩ := Path.canonical_iff.mp (Path.canonical_scan text)
  refine ⟨?_, fun other hmem => ?_⟩
  · rw [List.map_map]
    exact hspaced
  · obtain ⟨token, htoken, heq⟩ := List.mem_map.mp hmem
    obtain rfl := Label.exact.inj heq
    rintro rfl
    exact (htexts _ htoken).1 rfl

theorem of_isPrefix (h : Spellable ms) (hp : ls <+: ms) : Spellable ls := by
  have hspaced := List.IsChain.prefix h.spaced (hp.map Label.isSeparator)
  exact ⟨hspaced, fun text hmem => h.literal_ne text (hp.subset hmem)⟩

end Spellable

namespace Pattern

/-- The labels of every choice have a property. -/
def EveryChoice (P : List Label → Prop) (ts : List Token) : Prop :=
  ∀ way ∈ choices ts, P ((steps way).map Step.label)

variable {P Q : List Label → Prop} {ts inner after : List Token}

theorem everyChoice_nil (h : P []) : EveryChoice P [] := by
  intro way hway
  rw [choices_nil, List.mem_singleton] at hway
  exact hway ▸ h

theorem EveryChoice.cons {t : Token} (hts : Balanced ts) (ho : t ≠ .openParen)
    (hc : t ≠ .closeParen) (h : EveryChoice P ts)
    (hcons : ∀ ls, P ls → Q (t.steps.map Step.label ++ ls)) : EveryChoice Q (t :: ts) := by
  intro way hway
  obtain ⟨rest, hrest, rfl⟩ := (mem_choices_cons hts ho hc).mp hway
  rw [steps_cons, List.map_append]
  exact hcons _ (h rest hrest)

theorem EveryChoice.group (hi : Balanced inner) (ha : Balanced after)
    (h : EveryChoice Spellable.Behind inner) (h' : EveryChoice Spellable.Behind after) :
    EveryChoice Spellable.Behind (.openParen :: inner ++ .closeParen :: after) := by
  intro way hway
  obtain ⟨first, hfirst, rest, hrest, rfl⟩ := (mem_choices_group hi ha).mp hway
  rw [steps_append, List.map_append]
  rcases hfirst with rfl | hfirst
  · exact h' rest hrest
  · exact (h first hfirst).append (h' rest hrest)

/-- A literal with what follows it. -/
theorem EveryChoice.literal (text : String) (hts : Balanced ts)
    (h : EveryChoice Spellable.Behind ts) : EveryChoice Spellable (.literal text :: ts) :=
  .cons hts (by simp) (by simp) h fun ls hls => by
    rw [Token.steps, List.map_map]
    exact (Spellable.scan text).append hls

/-- A symbol with what follows it. -/
theorem EveryChoice.symbol (name : String) (hts : Balanced ts)
    (h : EveryChoice Spellable.Behind ts) : EveryChoice Spellable (.symbol name :: ts) :=
  .cons hts (by simp) (by simp) h fun _ hls => Spellable.parameter.append hls

/-- A glob, which nothing follows. -/
theorem EveryChoice.star (name : String) : EveryChoice Spellable [.star name] :=
  .cons .nil (by simp) (by simp) (everyChoice_nil Spellable.behind_nil) fun _ hls =>
    Spellable.parameter.append hls

theorem EveryChoice.slash (hts : Balanced ts) (h : EveryChoice Spellable ts) :
    EveryChoice Spellable.Behind (.slash :: ts) :=
  .cons hts (by simp) (by simp) h fun _ hls => hls.separator .slash rfl

theorem EveryChoice.dot (hts : Balanced ts) (h : EveryChoice Spellable ts) :
    EveryChoice Spellable.Behind (.dot :: ts) :=
  .cons hts (by simp) (by simp) h fun _ hls => hls.separator .dot rfl

mutual

theorem Grammar.Tail.spellable {ts : List Token} : Grammar.Tail ts → EveryChoice Spellable ts
  | .nil => everyChoice_nil Spellable.behind_nil.toSpellable
  | .literal h => .literal _ h.balanced h.behind
  | .symbol h => .symbol _ h.balanced h.behind
  | .star => .star _
  | .groups h => fun way hway => (h.behind way hway).toSpellable

theorem Grammar.Rest.behind {ts : List Token} :
    Grammar.Rest ts → EveryChoice Spellable.Behind ts
  | .nil => everyChoice_nil Spellable.behind_nil
  | .slash h => .slash h.balanced h.spellable
  | .dot h => .dot h.balanced h.spellable
  | .groups h => h.behind

theorem Grammar.DotTail.spellable {ts : List Token} :
    Grammar.DotTail ts → EveryChoice Spellable ts
  | .literal h => .literal _ h.balanced h.behind
  | .symbol h => .symbol _ h.balanced h.behind

theorem Grammar.Groups.behind {ts : List Token} :
    Grammar.Groups ts → EveryChoice Spellable.Behind ts
  | .last h => .group h.balanced .nil h.behind (everyChoice_nil Spellable.behind_nil)
  | .cons h k => .group h.balanced k.balanced h.behind k.behind

theorem Grammar.Body.behind {ts : List Token} :
    Grammar.Body ts → EveryChoice Spellable.Behind ts
  | .nil => everyChoice_nil Spellable.behind_nil
  | .slash h => .slash h.balanced h.spellable
  | .dot h => .dot h.balanced h.spellable

end

/-- **Every route of a pattern can be written as a path.** -/
theorem Grammatical.spellable (h : Grammatical ts) {ls : List Label} (hls : ls ∈ routes ts) :
    Spellable ls := by
  obtain ⟨way, hway, rfl⟩ := List.mem_map.mp hls
  cases h with
  | slash h => exact (EveryChoice.slash h.balanced h.spellable way hway).toSpellable

end Pattern
end LinkRouting
