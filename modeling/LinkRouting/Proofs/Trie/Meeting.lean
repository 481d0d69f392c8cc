import LinkRouting.Proofs.Trie.Refusal

/-! # Patterns that meet themselves

Where nothing leads on from a vertex, a plan can still be refused there as ambiguous:
the groups inside a group may begin where a route of the same plan leads on that is
laid before.  This can only be a route of the groups before, or one of the same group
behind a shorter end (`LaidBefore`).  A plan *meets itself* if it has groups that begin
at such a place (`Plan.MeetsItself`).  Without a fault it is refused then and only then
(`lay_tellsMeeting`).
-/
namespace LinkRouting

/-- The one route leads along the other's labels, and on from there. -/
def Step.GoesFurther (way route : List Step) : Prop :=
  way.map label <+: route.map label ∧ way.map label ≠ route.map label

theorem properPrefix_iff {α : Type} {xs ys : List α} :
    xs <+: ys ∧ xs ≠ ys ↔ ∃ y, xs ++ [y] <+: ys := by
  constructor
  · rintro ⟨⟨rest, rfl⟩, hne⟩
    cases rest with
    | nil => simp at hne
    | cons y rest => exact ⟨y, rest, by simp⟩
  · rintro ⟨y, rest, rfl⟩
    exact ⟨⟨y :: rest, by simp⟩, by simp⟩

namespace Pattern

/-- The steps before the first groups of a plan, if it comes to groups. -/
def Plan.lead? : Plan → Option (List Step)
  | .stop => none
  | .exact token rest => rest.lead?.map (.exact token :: ·)
  | .capture name rest => rest.lead?.map (.capture name :: ·)
  | .groups _ => some []
  | .fault _ => none

/-- Whether a route is laid before the body of a group is laid behind a way: it is one
of the ends so far, or one of the body behind an end that the way goes further than. -/
def LaidBefore (body : Plan) (ends : List (List Step)) (way route : List Step) : Prop :=
  route ∈ ends ∨
    ∃ shorter ∈ ends, Step.GoesFurther shorter way ∧ ∃ own ∈ body.routes, route = shorter ++ own

/-- Behind one of the ends so far, groups in the body of a group begin where a route
leads on that is laid before. -/
def Plan.MeetsBehind (body : Plan) (ends : List (List Step)) (way : List Step) : Prop :=
  ∃ lead, body.lead? = some lead ∧
    ∃ route, LaidBefore body ends way route ∧ Step.GoesFurther (way ++ lead) route

mutual

/-- Groups in the plan begin where a route of the plan leads on that is laid before. -/
def Plan.MeetsItself : Plan → Prop
  | .stop => False
  | .exact _ rest => rest.MeetsItself
  | .capture _ rest => rest.MeetsItself
  | .groups gs => gs.MeetAfter [[]]
  | .fault _ => False

/-- The same for groups that follow the routes laid so far. -/
def Groups.MeetAfter : Groups → List (List Step) → Prop
  | .done, _ => False
  | .group body rest, ends =>
    body.MeetsItself ∨ (∃ way ∈ ends, body.MeetsBehind ends way) ∨
      rest.MeetAfter (ends ++ (shortestFirst ends).flatMap fun way => body.routes.map (way ++ ·))
  | .fault _, _ => False

end
end Pattern

namespace Trie
open Pattern (Plan Groups Offence LaidBefore shortestFirst mem_shortestFirst)

variable {ι : Type} {i : ι} {t u : Trie ι}

/-- Something leads on in the trie from where the first groups of a plan begin. -/
def Blocks (t : Trie ι) (ls : List Label) (plan : Plan) : Prop :=
  ∃ lead, plan.lead? = some lead ∧ t.GoesOn (ls ++ lead.map Step.label)

/-- Below some labels the trie has given routes, and nothing else. -/
structure HoldsBelow (t : Trie ι) (ls : List Label) (ends : List (List Step)) : Prop where
  endsBelow : t.EndsBelow ls ends
  hasVertex_iff : ∀ ms, t.HasVertex (ls ++ ms) ↔ ∃ way ∈ ends, ms <+: way.map Step.label

/-- What laying says about ambiguous groups: it tells of them only if they are there,
and does so if there is no fault. -/
structure TellsAmbiguous (x : Except Offence (Trie ι)) (faultless ambiguous : Prop) : Prop where
  sound : x = .error .ambiguousGroup → ambiguous
  complete : faultless → ambiguous → x = .error .ambiguousGroup

/-- Laying tells of ambiguous groups if the plan meets itself or is blocked. -/
def TellsMeeting (i : ι) (plan : Plan) : Prop :=
  ∀ ⦃t : Trie ι⦄ ⦃v : Nat⦄ ⦃ls : List Label⦄, t.WellFormed → t.follow? root ls = some v →
    TellsAmbiguous (lay i plan t v) plan.Faultless (plan.MeetsItself ∨ t.Blocks ls plan)

/-! ### One step -/

theorem blocks_advance_iff (ht : t.WellFormed) {v : Nat} {ls : List Label}
    (hv : t.follow? root ls = some v) {rest plan : Plan} {s : Step}
    (hlead : plan.lead? = rest.lead?.map (s :: ·)) :
    (t.advance v s).1.Blocks (ls ++ [s.label]) rest ↔ t.Blocks ls plan := by
  -- What the step adds has fewer labels than what leads on from the groups.
  have hgo : ∀ lead : List Step,
      (t.advance v s).1.GoesOn (ls ++ [s.label] ++ lead.map Step.label) ↔
        t.GoesOn (ls ++ (s :: lead).map Step.label) := by
    intro lead
    rw [goesOn_iff, goesOn_iff, List.map_cons, List.append_assoc, List.singleton_append]
    refine exists_congr fun l => (hasVertex_advance ht hv s _).trans ⟨?_, .inl⟩
    rintro (h | h)
    · exact h
    · have := congrArg List.length h
      simp at this
  rw [Blocks, Blocks, hlead]
  constructor
  · rintro ⟨lead, hl, h⟩
    exact ⟨s :: lead, by rw [hl]; rfl, (hgo lead).mp h⟩
  · rintro ⟨_, hl, h⟩
    obtain ⟨lead, hrest, rfl⟩ := Option.map_eq_some_iff.mp hl
    exact ⟨lead, hrest, (hgo lead).mpr h⟩

theorem tellsMeeting_step {rest plan : Plan} (hrest : TellsMeeting i rest) (s : Step)
    (hlay : ∀ (t : Trie ι) v, lay i plan t v = lay i rest (t.advance v s).1 (t.advance v s).2)
    (hlead : plan.lead? = rest.lead?.map (s :: ·)) (hf : plan.Faultless → rest.Faultless)
    (hmeets : plan.MeetsItself ↔ rest.MeetsItself) : TellsMeeting i plan := by
  intro t v ls ht hv
  have hw : (t.advance v s).1.follow? root (ls ++ [s.label]) = some (t.advance v s).2 := by
    rw [follow?_advance ht hv, if_pos rfl]
  have htells := hrest (wellFormed_advance ht (ht.lt_size hv) s) hw
  rw [blocks_advance_iff ht hv hlead, ← hmeets, ← hlay] at htells
  exact ⟨htells.sound, fun h => htells.complete (hf h)⟩

/-! ### One group -/

section Stage
variable {v w : Nat} {ls : List Label} {ends : List (List Step)} {below : Nat → List Label}
  {body : Plan} {before later : List Nat}

/-- An end that is collected before another does not extend it. -/
theorem not_prefix_of_terminalsUnder_eq (ht : t.WellFormed)
    (hb : ∀ w ∈ t.terminalsUnder v, t.follow? v (below w) = some w) {x y : Nat}
    (hsplit : t.terminalsUnder v = before ++ w :: later)
    (hxy : x ∈ before ∧ y = w ∨ x = w ∧ y ∈ later) : ¬ below y <+: below x := by
  have hpair := ht.terminalsUnder_pairwise v
  rw [hsplit, List.pairwise_append, List.pairwise_cons] at hpair
  rw [hsplit] at hb
  have hx : x ∈ before ++ w :: later := by rcases hxy with ⟨h, -⟩ | ⟨rfl, -⟩ <;> simp [*]
  have hy : y ∈ before ++ w :: later := by rcases hxy with ⟨-, rfl⟩ | ⟨-, h⟩ <;> simp [*]
  have hnot : ¬ ∃ ms, t.follow? y ms = some x := by
    rcases hxy with ⟨h, rfl⟩ | ⟨rfl, h⟩
    · exact hpair.2.2 x h y List.mem_cons_self
    · exact hpair.2.1.1 y h
  rintro ⟨ms, hms⟩
  refine hnot ⟨ms, ?_⟩
  have := hb x hx
  rwa [← hms, follow?_append, hb y hy, Option.bind_some] at this

/-- **What is there when the body is laid behind an end** is what is laid before. -/
theorem hasVertex_iff_laidBefore (ht : t.WellFormed) (hv : t.follow? root ls = some v)
    (hh : t.HoldsBelow ls ends) (hb : ∀ w ∈ t.terminalsUnder v, t.follow? v (below w) = some w)
    (hsplit : t.terminalsUnder v = before ++ w :: later)
    (hg : Gains t u i (before.flatMap fun x => body.routes.map (Branch.mk (ls ++ below x))))
    {way : List Step} (hway : way.map Step.label = below w) {ms : List Label}
    (hms : below w <+: ms) :
    u.HasVertex (ls ++ ms) ↔
      ∃ route, LaidBefore body ends way route ∧ ms <+: route.map Step.label := by
  have hmem := hh.endsBelow.mem_terminalsUnder ht hv hb
  rw [hg.hasVertex, hh.hasVertex_iff]
  constructor
  · rintro (⟨route, hroute, hp⟩ | ⟨b, hbranch, hp⟩)
    · exact ⟨route, .inl hroute, hp⟩
    · obtain ⟨x, hx, hbranch⟩ := List.mem_flatMap.mp hbranch
      obtain ⟨own, hown, rfl⟩ := List.mem_map.mp hbranch
      rw [Branch.labels, List.append_assoc, List.prefix_append_right_inj] at hp
      have hxmem : x ∈ t.terminalsUnder v := by rw [hsplit]; exact List.mem_append_left _ hx
      obtain ⟨shorter, hshorter, hxlabels⟩ :=
        List.mem_map.mp ((hmem (below x)).mp (List.mem_map_of_mem hxmem))
      -- The two ends are on one way, and the one collected first comes first on it.
      have hnot := not_prefix_of_terminalsUnder_eq ht hb hsplit (.inl ⟨hx, rfl⟩)
      have hle : below x <+: below w :=
        (List.prefix_or_prefix_of_prefix (hms.trans hp) (List.prefix_append _ _)).resolve_left hnot
      refine ⟨shorter ++ own, .inr ⟨shorter, hshorter, ⟨?_, ?_⟩, own, hown, rfl⟩, ?_⟩
      · rwa [hxlabels, hway]
      · rw [hxlabels, hway]
        exact fun heq => hnot (heq ▸ List.prefix_refl _)
      · rwa [List.map_append, hxlabels]
  · rintro ⟨route, hroute | ⟨shorter, hshorter, hfurther, own, hown, rfl⟩, hp⟩
    · exact .inl ⟨route, hroute, hp⟩
    · obtain ⟨x, hx, hxlabels⟩ :=
        List.mem_map.mp ((hmem (shorter.map Step.label)).mpr (List.mem_map_of_mem hshorter))
      obtain ⟨hle, hne⟩ := hfurther
      rw [← hxlabels, hway] at hle hne
      have hxbefore : x ∈ before := by
        rw [hsplit] at hx
        rcases List.mem_append.mp hx with hx | hx
        · exact hx
        · rcases List.mem_cons.mp hx with rfl | hx
          · exact absurd rfl hne
          · exact absurd hle (not_prefix_of_terminalsUnder_eq ht hb hsplit (.inr ⟨rfl, hx⟩))
      refine .inr ⟨⟨ls ++ below x, own⟩, ?_, ?_⟩
      · exact List.mem_flatMap.mpr ⟨x, hxbefore, List.mem_map_of_mem hown⟩
      · rw [Branch.labels, List.append_assoc, List.prefix_append_right_inj, hxlabels,
          ← List.map_append]
        exact hp

/-- The body is blocked behind an end if it meets what is laid before. -/
theorem blocks_iff_meetsBehind (ht : t.WellFormed) (hv : t.follow? root ls = some v)
    (hh : t.HoldsBelow ls ends) (hb : ∀ w ∈ t.terminalsUnder v, t.follow? v (below w) = some w)
    (hsplit : t.terminalsUnder v = before ++ w :: later)
    (hg : Gains t u i (before.flatMap fun x => body.routes.map (Branch.mk (ls ++ below x))))
    {way : List Step} (hway : way.map Step.label = below w) :
    u.Blocks (ls ++ below w) body ↔ body.MeetsBehind ends way := by
  refine exists_congr fun lead => and_congr_right fun _ => ?_
  have hfurther : ∀ route, Step.GoesFurther (way ++ lead) route ↔
      ∃ l, below w ++ (lead.map Step.label ++ [l]) <+: route.map Step.label := by
    intro route
    rw [Step.GoesFurther, properPrefix_iff, List.map_append, hway]
    simp only [List.append_assoc]
  rw [goesOn_iff]
  simp only [hfurther, List.append_assoc]
  constructor
  · rintro ⟨l, hl⟩
    obtain ⟨route, hroute, hp⟩ :=
      (hasVertex_iff_laidBefore ht hv hh hb hsplit hg hway (List.prefix_append _ _)).mp hl
    exact ⟨route, hroute, l, hp⟩
  · rintro ⟨route, hroute, l, hp⟩
    exact ⟨l, (hasVertex_iff_laidBefore ht hv hh hb hsplit hg hway
      (List.prefix_append _ _)).mpr ⟨route, hroute, hp⟩⟩

/-- **A body is laid behind all ends, unless it is blocked behind one of them.** -/
theorem TellsMeeting.stage (hbody : TellsMeeting i body) (ht : t.WellFormed)
    (hv : t.follow? root ls = some v) (hh : t.HoldsBelow ls ends) (hnil : [] ∈ ends) :
    TellsAmbiguous ((t.terminalsUnder v).foldlM (fun t w => lay i body t w) t) body.Faultless
      (body.MeetsItself ∨ ∃ way ∈ ends, body.MeetsBehind ends way) := by
  obtain ⟨below, hb⟩ := ht.exists_below v
  have hmem := hh.endsBelow.mem_terminalsUnder ht hv hb
  have hroot : ∀ w ∈ t.terminalsUnder v, t.follow? root (ls ++ below w) = some w := fun w hw => by
    rw [follow?_append, hv]
    exact hb w hw
  -- What laying says behind one end, when the body was laid behind those before.
  have htells : ∀ {before later : List Nat} {w : Nat} {t' : Trie ι} {way : List Step},
      t.terminalsUnder v = before ++ w :: later →
      before.foldlM (fun t w => lay i body t w) t = .ok t' → way.map Step.label = below w →
        TellsAmbiguous (lay i body t' w) body.Faultless
          (body.MeetsItself ∨ body.MeetsBehind ends way) := by
    intro before later w t' way hsplit hbefore hway
    have hsub : ∀ x ∈ before ++ w :: later, t.follow? root (ls ++ below x) = some x :=
      hsplit ▸ hroot
    obtain ⟨-, hwf, hg⟩ := foldlM_lay_gains (lay_gains i body) before (fun x => ls ++ below x) ht
      (fun x hx => hsub x (List.mem_append_left _ hx)) hbefore
    rw [← blocks_iff_meetsBehind ht hv hh hb hsplit hg hway]
    exact hbody hwf (hg.follow? (hsub w (by simp)))
  constructor
  · intro h
    obtain ⟨before, w, later, t', hsplit, hbefore, hlay⟩ := foldlM_eq_error_iff.mp h
    have hw : w ∈ t.terminalsUnder v := by rw [hsplit]; simp
    obtain ⟨way, hway, hlabels⟩ := List.mem_map.mp ((hmem _).mp (List.mem_map_of_mem hw))
    exact ((htells hsplit hbefore hlabels).sound hlay).imp id fun hmeets => ⟨way, hway, hmeets⟩
  · intro hf hmeets
    -- A plan that meets itself does so behind the vertex itself.
    obtain ⟨way, hway, hmeets⟩ :
        ∃ way ∈ ends, body.MeetsItself ∨ body.MeetsBehind ends way := by
      rcases hmeets with hself | ⟨way, hway, hmeets⟩
      · exact ⟨[], hnil, .inl hself⟩
      · exact ⟨way, hway, .inr hmeets⟩
    obtain ⟨w, hw, hlabels⟩ := List.mem_map.mp ((hmem _).mpr (List.mem_map_of_mem hway))
    obtain ⟨before, later, hsplit⟩ := List.append_of_mem hw
    cases hfold : (t.terminalsUnder v).foldlM (fun t w => lay i body t w) t with
    | error o =>
      obtain ⟨_, _, _, _, -, -, hlay⟩ := foldlM_eq_error_iff.mp hfold
      rw [eq_ambiguousGroup_of_lay_error hf hlay]
    | ok u =>
      rw [hsplit, List.foldlM_append] at hfold
      obtain ⟨t', hbefore, hfold⟩ := bind_eq_ok.mp hfold
      rw [List.foldlM_cons] at hfold
      obtain ⟨_, hlay, -⟩ := bind_eq_ok.mp hfold
      rw [(htells hsplit hbefore hlabels.symm).complete hf hmeets] at hlay
      cases hlay

theorem HoldsBelow.of_gains {stage : List (List Step)} (hh : t.HoldsBelow ls ends)
    (hg : Gains t u i (stage.map (Branch.mk ls))) : u.HoldsBelow ls (ends ++ stage) := by
  refine ⟨hh.endsBelow.of_gains hg, fun ms => ?_⟩
  rw [hg.hasVertex, hh.hasVertex_iff]
  simp only [List.mem_map, exists_exists_and_eq_and, Branch.labels, List.prefix_append_right_inj,
    List.mem_append, or_and_right, exists_or]

/-- Where nothing leads on, there is the one way that goes no further. -/
theorem holdsBelow_mark (ht : t.WellFormed) (hv : t.follow? root ls = some v)
    (hfinal : (t.vertex v).isFinal = true) (i : ι) : (t.mark v i).HoldsBelow ls [[]] := by
  refine ⟨endsBelow_mark ht hv hfinal i, fun ms => ?_⟩
  rw [HasVertex, follow?_mark (ht.lt_size hv), follow?_append, hv, Option.bind_some]
  cases ms with
  | nil => simp
  | cons m ms =>
    rw [follow?, (t.isFinal_iff v).mp hfinal m]
    simp

end Stage

/-! ### Plans and groups -/

theorem blocks_groups_iff {v : Nat} {ls : List Label} (hv : t.follow? root ls = some v)
    {gs : Groups} : t.Blocks ls (.groups gs) ↔ (t.vertex v).isFinal = false := by
  rw [← goesOn_iff_of_follow? hv]
  constructor
  · rintro ⟨lead, hlead, h⟩
    obtain rfl := Option.some.inj hlead
    rwa [List.map_nil, List.append_nil] at h
  · exact fun h => ⟨[], rfl, by rwa [List.map_nil, List.append_nil]⟩

mutual

/-- **What laying says about ambiguous groups.**  If the plan has no other fault, it is
refused as ambiguous exactly if it meets itself, or something leads on in the trie from
where its first groups begin. -/
theorem lay_tellsMeeting (i : ι) : ∀ plan : Plan,
    plan.EveryFault (· ≠ .ambiguousGroup) → TellsMeeting i plan
  | .stop, _ => fun _ _ _ _ _ =>
    ⟨nofun, fun _ h => h.elim False.elim fun ⟨_, hlead, _⟩ => nomatch hlead⟩
  | .exact token rest, h =>
    tellsMeeting_step (lay_tellsMeeting i rest h) (.exact token) (fun _ _ => rfl) rfl id Iff.rfl
  | .capture name rest, h =>
    tellsMeeting_step (lay_tellsMeeting i rest h) (.capture name) (fun _ _ => rfl) rfl id Iff.rfl
  | .groups gs, h => by
    intro t v ls ht hv
    rw [blocks_groups_iff hv, lay]
    split
    · next hfinal =>
      have htells := layGroups_tellsMeeting i gs h (wellFormed_mark ht (ht.lt_size hv) i)
        ((follow?_mark (ht.lt_size hv) i root ls).trans hv) (holdsBelow_mark ht hv hfinal i)
        (List.mem_singleton.mpr rfl)
      refine ⟨fun hlay => .inl (htells.sound hlay), fun hf hmeets => htells.complete hf ?_⟩
      exact hmeets.resolve_right (by simp [hfinal])
    · next hfinal => exact ⟨fun _ => .inr (by simpa using hfinal), fun _ _ => rfl⟩
  | .fault o, h => fun _ _ _ _ _ => ⟨fun hlay => absurd (Except.error.inj hlay) h, False.elim⟩

/-- The same for groups that follow the routes laid so far. -/
theorem layGroups_tellsMeeting (i : ι) : ∀ (gs : Groups) {t : Trie ι} {v : Nat} {ls : List Label}
    {ends : List (List Step)}, gs.EveryFault (· ≠ .ambiguousGroup) → t.WellFormed →
      t.follow? root ls = some v → t.HoldsBelow ls ends → [] ∈ ends →
        TellsAmbiguous (layGroups i gs t v) gs.Faultless (gs.MeetAfter ends)
  | .done, _, _, _, _, _, _, _, _, _ => ⟨nofun, fun _ => False.elim⟩
  | .group body rest, t, v, ls, ends, h, ht, hv, hh, hnil => by
    have hstage := (lay_tellsMeeting i body h.1).stage ht hv hh hnil
    rw [layGroups]
    cases hfold : (t.terminalsUnder v).foldlM (fun t w => lay i body t w) t with
    | error o =>
      rw [hfold] at hstage
      refine ⟨fun ho => ?_, fun hf _ => ?_⟩
      · exact or_assoc.mp (.inl (hstage.sound ho))
      · obtain ⟨_, _, _, _, -, -, hlay⟩ := foldlM_eq_error_iff.mp hfold
        rw [eq_ambiguousGroup_of_lay_error hf.1 hlay]
        rfl
    | ok t' =>
      rw [hfold] at hstage
      obtain ⟨-, hwf, hg⟩ := (lay_gains i body).stage_gains ht hv hh.endsBelow hnil hfold
      have hrest := layGroups_tellsMeeting i rest h.2 hwf (hg.follow? hv) (hh.of_gains hg)
        (List.mem_append_left _ hnil)
      refine ⟨fun hlay => .inr (.inr (hrest.sound hlay)), fun hf hmeets => ?_⟩
      refine hrest.complete hf.2 ((or_assoc.mpr hmeets).resolve_left fun hbody => ?_)
      cases hstage.complete hf.1 hbody
  | .fault o, _, _, _, _, h, _, _, _, _ =>
    ⟨fun hlay => absurd (Except.error.inj hlay) h, False.elim⟩

end

end Trie
end LinkRouting
