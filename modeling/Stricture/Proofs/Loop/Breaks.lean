import Stricture.Proofs.Place.Located
import Stricture.Proofs.Tree.Order

/-!
# Breaks and the loops they leave

A break leaves the innermost loop whose body it stands in (`Node.IsLeftBy`). The check for useless
ends of loops does not look for that loop. It walks over a loop level by level, remembers the inner
loop that it met last, and takes every break that does not stand in there for a way out of the loop
itself (`hasBreak_eq_false_iff`).

Both come to the same as long as every break stands in the body of its nearest loop, and breaks of
inner loops are not spread over several of them (`hasBreak_eq_false_iff_of_keepsBreaksApart`).
-/

namespace Stricture

open Rules

namespace Node

/-- The body of the loop `l` holds `b`. -/
def Runs (l b : Node) : Prop :=
  ∃ c ∈ l.body, b ∈ c.walk

/-- The break `b` leaves the loop `l`, which is innermost among the loops whose bodies hold it. -/
structure IsLeftBy (l b : Node) : Prop where
  loop : l.isLoop = true
  kind : b.kind = .broken
  runs : l.Runs b
  innermost : ∀ m, l.StandsAbove m → m.isLoop = true → ¬ m.Runs b

/-- A loop that stands below the node. -/
def IsInner (n l : Node) : Prop :=
  n.StandsAbove l ∧ l.isLoop = true

/-- Breaks below the node cannot be mistaken: each stands in the body of its nearest loop, and one
that stands in an inner loop stands in all of them. -/
structure KeepsBreaksApart (n : Node) : Prop where
  inBody : ∀ b ∈ n.walk, b.kind = .broken → ∀ l ∈ n.walk, l.IsNearest isLoop b → l.Runs b
  shared : ∀ b ∈ n.walk, b.kind = .broken →
    ∀ l m, n.IsInner l → n.IsInner m → l.StandsAbove b → m.StandsAbove b

variable {l b : Node}

theorem Runs.standsAbove (h : l.Runs b) : l.StandsAbove b := by
  obtain ⟨c, hc, hb⟩ := h
  exact .head' (mem_children_of_mem_body hc) (mem_walk_iff.mp hb)

theorem isLoop_eq_false_of_broken (h : b.kind = .broken) : b.isLoop = false := by
  simp [isLoop, isFor, isAny, h]

/-- The breaks in the body of a loop. -/
def bodyBreaks (l : Node) : List Node :=
  (l.body.flatMap walk).filter fun m => m.kind == .broken

/-- The loop and all loops below it. -/
def loops (l : Node) : List Node :=
  l.walk.filter isLoop

theorem mem_bodyBreaks_iff : b ∈ l.bodyBreaks ↔ l.Runs b ∧ b.kind = .broken := by
  rw [bodyBreaks, List.mem_filter, List.mem_flatMap, beq_iff_eq, Runs]

theorem mem_loops_of_isInner (h : b.IsInner l) : l ∈ b.loops :=
  List.mem_filter.mpr ⟨mem_walk_iff_eq_or_standsAbove.mpr (.inr h.1), h.2⟩

end Node

/-! ### The search -/

/-- The inner loop that was met last. -/
def lastInner? (loop : Node) (past : List Site) : Option Site :=
  (past.filter fun t => t.node.isLoop && !t.node.is loop).getLast?

/-- A break that does not stand in the inner loop that was met last before it. -/
def BreaksOut (loop : Node) (past : List Site) (b : Site) : Prop :=
  b.node.kind = .broken ∧ (lastInner? loop past).any (fun l => b.isInside l.node) = false

theorem lastInner?_concat (loop : Node) (past : List Site) (s : Site) :
    lastInner? loop (past ++ [s]) =
      if s.node.isLoop && !s.node.is loop then some s else lastInner? loop past := by
  rw [lastInner?, List.filter_append, List.filter_cons, List.filter_nil]
  split
  case isTrue => exact List.getLast?_concat
  case isFalse => rw [List.append_nil, lastInner?]

theorem lastInner?_eq_some {loop : Node} {past : List Site} {l : Site}
    (h : lastInner? loop past = some l) :
    l ∈ past ∧ l.node.isLoop = true ∧ l.node.is loop = false := by
  have hmem := List.mem_of_getLast? h
  simpa using hmem

/-- An inner loop was met if there was one. -/
theorem exists_lastInner? {loop : Node} {past : List Site} {m : Site} (hm : m ∈ past)
    (hloop : m.node.isLoop = true) (hne : m.node.is loop = false) :
    ∃ l, lastInner? loop past = some l := by
  have hmem : m ∈ past.filter fun t => t.node.isLoop && !t.node.is loop := by
    rw [List.mem_filter, hloop, hne]
    exact ⟨hm, rfl⟩
  exact ⟨_, List.getLast?_eq_some_getLast (List.ne_nil_of_mem hmem)⟩

/-- What the search knows after the sites that are behind. Once it has found a break, it is not
interested in inner loops any more. -/
structure SearchRecord (loop : Node) (past : List Site) (search : BreakSearch) : Prop where
  inner : search.found = false → search.inner = (lastInner? loop past).map Site.node
  found : search.found = true ↔ ∃ before b, before ++ [b] <+: past ∧ BreaksOut loop before b

theorem exists_breaksOut_concat_iff {loop : Node} {past : List Site} {s : Site} :
    (∃ before b, before ++ [b] <+: past ++ [s] ∧ BreaksOut loop before b) ↔
      (∃ before b, before ++ [b] <+: past ∧ BreaksOut loop before b) ∨ BreaksOut loop past s := by
  constructor
  · rintro ⟨before, b, hsplit, hout⟩
    rcases List.prefix_concat_iff.mp hsplit with heq | hpast
    · obtain ⟨rfl, hb⟩ := List.append_inj' heq rfl
      obtain rfl := List.singleton_inj.mp hb
      exact .inr hout
    · exact .inl ⟨before, b, hpast, hout⟩
  · rintro (⟨before, b, hpast, hout⟩ | hout)
    · exact ⟨before, b, hpast.trans (List.prefix_append _ _), hout⟩
    · exact ⟨past, s, List.prefix_rfl, hout⟩

namespace SearchRecord

variable {loop : Node} {past : List Site} {search : BreakSearch}

/-- One more site keeps the record. -/
theorem step (h : SearchRecord loop past search) (s : Site) :
    SearchRecord loop (past ++ [s]) (search.step loop s) := by
  unfold BreakSearch.step
  split
  case isTrue hfound =>
    -- a break was found already, and it stays found
    refine ⟨fun hnot => ?_, ?_⟩
    · rw [hfound] at hnot
      cases hnot
    · rw [exists_breaksOut_concat_iff, ← h.found]
      exact ⟨Or.inl, fun _ => hfound⟩
  case isFalse hfound =>
    have hinner := h.inner (Bool.eq_false_iff.mpr hfound)
    have hearlier : ¬ ∃ before b, before ++ [b] <+: past ∧ BreaksOut loop before b :=
      mt h.found.mpr hfound
    split
    case isTrue hloop =>
      -- an inner loop is remembered; it is no break itself
      have hnot : ¬ BreaksOut loop past s := fun hout => by
        rw [Node.isLoop_eq_false_of_broken hout.1] at hloop
        cases hloop
      refine ⟨fun _ => ?_, ?_⟩
      · rw [lastInner?_concat, if_pos hloop]
        rfl
      · rw [exists_breaksOut_concat_iff, or_iff_right hearlier]
        exact iff_of_false hfound hnot
    case isFalse hloop =>
      have hlast : lastInner? loop (past ++ [s]) = lastInner? loop past := by
        rw [lastInner?_concat, if_neg hloop]
      rw [← hlast] at hinner
      split
      case isTrue hkind =>
        -- whether a break is found depends on the inner loop that is remembered
        refine ⟨fun _ => hinner, ?_⟩
        rw [exists_breaksOut_concat_iff, or_iff_right hearlier, BreaksOut, and_iff_right hkind,
          ← hlast, hinner, Option.any_map, Bool.not_eq_true']
      case isFalse hkind =>
        refine ⟨fun _ => hinner, ?_⟩
        rw [exists_breaksOut_concat_iff, or_iff_right hearlier]
        exact iff_of_false hfound fun hout => hkind hout.1

/-- So does a walk over more sites. -/
theorem run (h : SearchRecord loop past search) (rest : List Site) :
    SearchRecord loop (past ++ rest) (rest.foldl (BreakSearch.step loop) search) := by
  induction rest generalizing past search with
  | nil =>
    rw [List.append_nil]
    exact h
  | cons s rest ih =>
    have hnext := ih (h.step s)
    rwa [List.append_assoc] at hnext

end SearchRecord

theorem hasBreak_iff (s : Site) :
    hasBreak s = true ↔ ∃ before b, before ++ [b] <+: s.walk ∧ BreaksOut s.node before b := by
  have hnone : SearchRecord s.node [] {} := by
    refine ⟨fun _ => rfl, iff_of_false Bool.false_ne_true ?_⟩
    rintro ⟨before, b, hsplit, -⟩
    exact absurd (List.prefix_nil.mp hsplit) (List.append_ne_nil_of_right_ne_nil _ (by simp))
  exact (hnone.run s.walk).found

/-! ### Breaks that are held back -/

/-- The break `b` stands in the inner loop that a walk over the loop `s` meets last before it. -/
def Site.HoldsBack (s b : Site) : Prop :=
  ∃ past l, past ++ [b] <+: s.walk ∧ lastInner? s.node past = some l ∧ l.node.StandsAbove b.node

namespace Program

variable {q : Program} {s t b : Site}

/-- When a walk comes to a site, all that it meets before the site is behind. -/
theorem exists_concat_prefix_walk (hs : s ∈ q.walk) (hb : b ∈ s.walk) :
    ∃ past, past ++ [b] <+: s.walk ∧ ∀ t, [t, b].Sublist s.walk → t ∈ past := by
  obtain ⟨past, rest, hsplit⟩ := List.append_of_mem hb
  refine ⟨past, ⟨rest, by rw [hsplit, List.append_assoc]; rfl⟩, fun t hpair => ?_⟩
  rw [hsplit] at hpair
  exact (pair_sublist_append_cons_iff (hsplit ▸ nodup_walk hs)).mp hpair

/-- A walk comes to a site once, so what is behind at that time is determined. -/
theorem eq_of_concat_prefix_walk (hs : s ∈ q.walk) {before past : List Site}
    (hbefore : before ++ [b] <+: s.walk) (hpast : past ++ [b] <+: s.walk) : before = past := by
  have hnodup {xs : List Site} (h : xs ++ [b] <+: s.walk) : b ∉ xs := by
    have hsub := h.sublist.nodup (nodup_walk hs)
    exact fun hmem => (List.nodup_append.mp hsub).2.2 b hmem b List.mem_cons_self rfl
  have hself {xs ys : List Site} (h : xs ++ [b] <+: ys) : b ∈ ys :=
    h.subset (List.mem_append_right _ List.mem_cons_self)
  -- of two such beginnings of the walk, the shorter one ends where the longer one goes on to `b`
  rcases List.prefix_or_prefix_of_prefix hbefore hpast with hle | hle
  · rcases List.prefix_concat_iff.mp hle with heq | hlt
    · exact (List.append_inj' heq rfl).1
    · exact absurd (hself hlt) (hnodup hpast)
  · rcases List.prefix_concat_iff.mp hle with heq | hlt
    · exact (List.append_inj' heq rfl).1.symm
    · exact absurd (hself hlt) (hnodup hbefore)

/-- The inner loop met last is a loop below. -/
theorem isInner_of_lastInner? {past : List Site} {l : Site} (hpast : past ++ [b] <+: s.walk)
    (hl : lastInner? s.node past = some l) : l ∈ s.walk ∧ s.node.IsInner l.node := by
  obtain ⟨hmem, hloop, hne⟩ := lastInner?_eq_some hl
  have hwalk : l ∈ s.walk := hpast.subset (List.mem_append_left _ hmem)
  refine ⟨hwalk, ?_, hloop⟩
  rcases Node.mem_walk_iff_eq_or_standsAbove.mp (node_mem_walk_of_mem_walk hwalk) with heq | habove
  · exact absurd (congrArg Node.id heq) (Node.is_eq_false_iff.mp hne)
  · exact habove

/-- **No way out is found** exactly if every break is held back. -/
theorem hasBreak_eq_false_iff (hs : s ∈ q.walk) :
    hasBreak s = false ↔ ∀ b ∈ s.walk, b.node.kind = .broken → s.HoldsBack b := by
  rw [← Bool.not_eq_true, hasBreak_iff]
  constructor
  · intro hnone b hb hkind
    obtain ⟨past, hpast, -⟩ := exists_concat_prefix_walk hs hb
    have hany : (lastInner? s.node past).any (fun l => b.isInside l.node) = true := by
      rw [← Bool.not_eq_false]
      exact fun hfalse => hnone ⟨past, b, hpast, hkind, hfalse⟩
    cases hl : lastInner? s.node past with
    | none =>
      rw [hl] at hany
      cases hany
    | some l =>
      obtain ⟨hlwalk, -⟩ := isInner_of_lastInner? hpast hl
      rw [hl, Option.any_some, isInside_iff_standsAbove (mem_walk_of_mem_site_walk hs hb)
        (mem_walk_of_mem_site_walk hs hlwalk)] at hany
      exact ⟨past, l, hpast, hl, hany⟩
  · rintro hall ⟨before, b, hbefore, hkind, hout⟩
    have hb : b ∈ s.walk := hbefore.subset (List.mem_append_right _ List.mem_cons_self)
    obtain ⟨past, l, hpast, hl, habove⟩ := hall b hb hkind
    obtain rfl := eq_of_concat_prefix_walk hs hbefore hpast
    obtain ⟨hlwalk, -⟩ := isInner_of_lastInner? hpast hl
    have hinside := (isInside_iff_standsAbove (mem_walk_of_mem_site_walk hs hb)
      (mem_walk_of_mem_site_walk hs hlwalk)).mpr habove
    rw [hl, Option.any_some, hinside] at hout
    cases hout

/-! ### Breaks that are kept apart -/

/-- A break that leaves the loop is not held back. -/
theorem not_holdsBack_of_isLeftBy (hs : s ∈ q.walk) (h : s.node.KeepsBreaksApart) (hb : b ∈ s.walk)
    (hleft : s.node.IsLeftBy b.node) : ¬ s.HoldsBack b := by
  rintro ⟨past, l, hpast, hl, habove⟩
  obtain ⟨hlwalk, hinner, hloop⟩ := isInner_of_lastInner? hpast hl
  -- the nearest loop is an inner one, and its body holds the break
  obtain ⟨m, hm, hnear, hml⟩ := exists_isNearest (mem_walk_of_mem_site_walk hs hb)
    (node_mem_walk (mem_walk_of_mem_site_walk hs hlwalk)) hloop habove
  have hbelow : s.node.StandsAbove m := by
    rcases hml with rfl | hlm
    · exact hinner
    · exact hinner.trans hlm
  refine hleft.innermost m hbelow hnear.2.1 (h.inBody b.node (node_mem_walk_of_mem_walk hb)
    hleft.kind m ?_ hnear)
  exact Node.mem_walk_iff_eq_or_standsAbove.mpr (.inr hbelow)

/-- A break that does not leave the loop is held back. -/
theorem isLeftBy_or_holdsBack (hs : s ∈ q.walk) (hloop : s.node.isLoop = true)
    (h : s.node.KeepsBreaksApart) (hb : b ∈ s.walk) (hkind : b.node.kind = .broken) :
    s.node.IsLeftBy b.node ∨ s.HoldsBack b := by
  have hbwalk := mem_walk_of_mem_site_walk hs hb
  have hbnode := node_mem_walk_of_mem_walk hb
  have habove : s.node.StandsAbove b.node := by
    rcases Node.mem_walk_iff_eq_or_standsAbove.mp hbnode with heq | habove
    · rw [← heq, Node.isLoop_eq_false_of_broken hkind] at hloop
      cases hloop
    · exact habove
  obtain ⟨m, hm, hnear, hms⟩ := exists_isNearest hbwalk (node_mem_walk hs) hloop habove
  have hmwalk : m ∈ s.node.walk := Node.mem_walk_iff_eq_or_standsAbove.mpr hms
  have hruns := h.inBody b.node hbnode hkind m hmwalk hnear
  rcases hms with rfl | hsm
  · refine .inl ⟨hloop, hkind, hruns, fun k hk hkloop hkruns => ?_⟩
    exact absurd hkloop (Bool.eq_false_iff.mp (hnear.2.2 k hk hkruns.standsAbove))
  · right
    -- the nearest loop is met before the break, so an inner loop is remembered
    obtain ⟨t, ht, rfl⟩ := exists_site hm
    have htwalk := mem_walk_of_standsAbove hs ht hsm
    have hpair := Site.pair_sublist_walk htwalk (transGen_of_standsAbove ht hbwalk hnear.1)
    obtain ⟨past, hpast, hbehind⟩ := exists_concat_prefix_walk hs hb
    have hother : t.node.is s.node = false := by
      rw [Node.is_eq_false_iff]
      intro hid
      rw [node_eq_of_id_eq hm (node_mem_walk hs) hid] at hsm
      exact Node.not_standsAbove_self _ hsm
    obtain ⟨l, hl⟩ := exists_lastInner? (hbehind t hpair) hnear.2.1 hother
    obtain ⟨-, hinner⟩ := isInner_of_lastInner? hpast hl
    exact ⟨past, l, hpast, hl,
      h.shared b.node hbnode hkind t.node l.node ⟨hsm, hnear.2.1⟩ hinner hnear.1⟩

theorem hasBreak_eq_false_iff_of_keepsBreaksApart (hs : s ∈ q.walk) (hloop : s.node.isLoop = true)
    (h : s.node.KeepsBreaksApart) : hasBreak s = false ↔ ∀ b, ¬ s.node.IsLeftBy b := by
  rw [hasBreak_eq_false_iff hs]
  constructor
  · intro hall b hleft
    obtain ⟨t, ht, rfl⟩ := exists_site (mem_walk_of_mem_walk (node_mem_walk hs)
      (Node.mem_walk_iff_eq_or_standsAbove.mpr (.inr hleft.runs.standsAbove)))
    have htwalk := mem_walk_of_standsAbove hs ht hleft.runs.standsAbove
    exact not_holdsBack_of_isLeftBy hs h htwalk hleft (hall t htwalk hleft.kind)
  · intro hnone b hb hkind
    exact (isLeftBy_or_holdsBack hs hloop h hb hkind).resolve_left (hnone b.node)

end Program

/-! ### Useless ends -/

/-- A loop with a position has a last line. -/
theorem fault_loopBodies {s : Site} (h : s.node.isLoop = true → s.node.position.isSome = true) :
    (loopBodies s).fault = none := by
  unfold loopBodies
  dsimp only
  split
  case isTrue hloop =>
    obtain ⟨p, hp⟩ := Option.isSome_iff_exists.mp (h hloop)
    have hline : p.line ∈ s.node.walk.filterMap Node.line? := by
      refine List.mem_filterMap.mpr ⟨s.node, Node.mem_walk_iff.mpr .refl, ?_⟩
      rw [Node.line?, hp]
      rfl
    have hsome : ¬ (lastLine? s.node).isNone = true := by
      rw [Option.isNone_iff_eq_none, lastLine?, List.max?_eq_none_iff]
      exact List.ne_nil_of_mem hline
    exact if_neg hsome
  case isFalse => rfl

/-- A loop with a useless end, as far as the search can tell. -/
def hasUselessElse (s : Site) : Bool :=
  s.node.isLoop && (!s.node.orelse.isEmpty && !hasBreak s)

theorem filter_loopBodies (s : Site) :
    (loopBodies s).findings.filter (fun f => f.violation = .uselessLoopElse) =
      reportIf (hasUselessElse s) (Violation.uselessLoopElse.atNode s.node) := by
  unfold loopBodies hasUselessElse
  dsimp only
  split
  case isTrue hloop =>
    -- lambdas and continuing at the end are other violations
    have hlambdas : ((s.node.body.filter fun m => m.containsKind [.lambda]).map fun _ =>
        Violation.lambdaInsideLoop.atNode s.node).filter
          (fun f => f.violation = .uselessLoopElse) = [] := by
      rw [List.filter_map, List.map_eq_nil_iff, List.filter_eq_nil_iff]
      exact fun _ _ => by simp [Violation.atNode]
    rw [List.filter_append, List.filter_append, filter_reportIf, filter_reportIf, hlambdas,
      if_pos rfl, if_neg (by decide), List.append_nil, List.append_nil, hloop, Bool.true_and]
  case isFalse hloop =>
    rw [Bool.eq_false_iff.mpr hloop, Bool.false_and]
    rfl

theorem Program.hasUselessElse_iff {q : Program} {s : Site} (hs : s ∈ q.walk) :
    hasUselessElse s = true ↔ s.node.isLoop = true ∧ s.node.orelse ≠ [] ∧
      ∀ b ∈ s.walk, b.node.kind = .broken → s.HoldsBack b := by
  rw [hasUselessElse, Bool.and_eq_true, Bool.and_eq_true, Bool.not_eq_true', Bool.not_eq_true',
    hasBreak_eq_false_iff hs, List.isEmpty_eq_false_iff]

/-- **Useless ends of loops.** If all loops have positions, the check comes to its end. It reports,
once each and in the order in which they are visited, the loops with something to do otherwise in
which every break is held back, and nothing else as a useless end. Where breaks are kept apart,
these are the loops with something to do otherwise that no break leaves. -/
theorem loopBodies_reports_uselessElse (subject : Subject) (memory : Memory)
    (hplaced : ∀ n ∈ subject.program.root.walk, n.isLoop = true → n.position.isSome = true) :
    ∃ useless : List Site, useless.Sublist subject.program.sites ∧ useless.Nodup ∧
      (∀ s ∈ subject.program.sites, s ∈ useless ↔ s.node.isLoop = true ∧ s.node.orelse ≠ [] ∧
        ∀ b ∈ s.walk, b.node.kind = .broken → s.HoldsBack b) ∧
      (∀ s ∈ subject.program.sites, s.node.isLoop = true → s.node.KeepsBreaksApart →
        (s ∈ useless ↔ s.node.orelse ≠ [] ∧ ∀ b, ¬ s.node.IsLeftBy b)) ∧
      (Check.loopBodies.judge subject memory).1.fault = none ∧
      (Check.loopBodies.judge subject memory).1.findings.filter
          (fun f => f.violation = .uselessLoopElse) =
        useless.map fun s => Violation.uselessLoopElse.atNode s.node := by
  have hreport : (Check.loopBodies.judge subject memory).1 =
      .ofFindings ((subject.program.sites.map loopBodies).flatMap Report.findings) := by
    refine Report.sequence_eq_ofFindings fun r hr => ?_
    obtain ⟨s, hs, rfl⟩ := List.mem_map.mp hr
    exact fault_loopBodies
      (hplaced s.node (Program.node_mem_walk (Program.mem_walk_iff_mem_sites.mpr hs)))
  have hmem (s : Site) (hs : s ∈ subject.program.sites) :
      s ∈ subject.program.sites.filter hasUselessElse ↔ s.node.isLoop = true ∧
        s.node.orelse ≠ [] ∧ ∀ b ∈ s.walk, b.node.kind = .broken → s.HoldsBack b := by
    rw [List.mem_filter, and_iff_right hs,
      Program.hasUselessElse_iff (Program.mem_walk_iff_mem_sites.mpr hs)]
  refine ⟨subject.program.sites.filter hasUselessElse, List.filter_sublist,
    subject.program.sites_nodup.filter _, hmem, fun s hs hloop hapart => ?_, ?_, ?_⟩
  · have hwalk := Program.mem_walk_iff_mem_sites.mpr hs
    rw [hmem s hs, and_iff_right hloop, ← Program.hasBreak_eq_false_iff hwalk,
      Program.hasBreak_eq_false_iff_of_keepsBreaksApart hwalk hloop hapart]
  · rw [hreport]
    rfl
  · rw [hreport, Report.findings_ofFindings, List.flatMap_map, List.filter_flatMap,
      ← flatMap_reportIf]
    exact List.flatMap_congr fun s _ => filter_loopBodies s

/-- A break behind a condition. -/
def cellBreak : Node :=
  .mk 9 (some ⟨4, 12⟩) .broken

/-- A loop that is left by its break. -/
def cellLoop : Node :=
  .mk 4 (some ⟨2, 4⟩) (.forLoop .plain (.mk 5 (some ⟨2, 8⟩) (.name "cell" (some .store)))
    (.mk 6 (some ⟨2, 16⟩) (.name "row" (some .load)))
    [.mk 7 (some ⟨3, 8⟩) (.branch (.mk 8 (some ⟨3, 11⟩) (.name "cell" (some .load)))
      [cellBreak] [])] [])

/-- A loop around it, with a useless end. -/
def rowLoop : Node :=
  .mk 1 (some ⟨1, 0⟩) (.forLoop .plain (.mk 2 (some ⟨1, 4⟩) (.name "row" (some .store)))
    (.mk 3 (some ⟨1, 11⟩) (.name "rows" (some .load))) [cellLoop]
    [.mk 10 (some ⟨6, 4⟩) (.expression (.mk 11 (some ⟨6, 4⟩) (.name "rows" (some .load))))])

/-- Both loops as a subject. -/
def rowSearch : Subject :=
  ⟨{ root := .mk 0 none (.file [rowLoop]), distinct := by decide }, [], "rows.py", .initial⟩

theorem rowLoop_keepsBreaksApart : rowLoop.KeepsBreaksApart := by
  have hbreak (b : Node) (hb : b ∈ rowLoop.walk) (hkind : b.kind = .broken) : b = cellBreak := by
    have hbreaks : (rowLoop.walk.filter fun m => m.kind == .broken) = [cellBreak] := rfl
    rw [← List.mem_singleton, ← hbreaks, List.mem_filter, beq_iff_eq]
    exact ⟨hb, hkind⟩
  have hloops : rowLoop.loops = [rowLoop, cellLoop] := rfl
  have hinner : rowLoop.StandsAbove cellLoop :=
    .single (Node.mem_children_of_mem_body List.mem_cons_self)
  have hruns : cellLoop.Runs cellBreak := (Node.mem_bodyBreaks_iff.mp List.mem_cons_self).1
  have honly (l : Node) (hl : rowLoop.IsInner l) : l = cellLoop := by
    have hmem := Node.mem_loops_of_isInner hl
    rw [hloops, List.mem_cons, List.mem_singleton] at hmem
    rcases hmem with rfl | rfl
    · exact absurd hl.1 (Node.not_standsAbove_self _)
    · rfl
  constructor
  · intro b hb hkind l hl hnear
    obtain rfl := hbreak b hb hkind
    rcases Node.mem_walk_iff_eq_or_standsAbove.mp hl with rfl | habove
    · have hfalse := hnear.2.2 cellLoop hinner hruns.standsAbove
      cases hfalse
    · rwa [honly l ⟨habove, hnear.2.1⟩]
  · intro b _ _ l m hl hm habove
    rwa [honly m hm, ← honly l hl]

theorem loopBodies_reports_uselessElse_rowSearch :
    (∀ n ∈ rowSearch.program.root.walk, n.isLoop = true → n.position.isSome = true) ∧
    rowLoop.KeepsBreaksApart ∧
    ∃ useless : List Site, useless.Sublist rowSearch.program.sites ∧ useless.Nodup ∧
      (∀ s ∈ rowSearch.program.sites, s ∈ useless ↔ s.node.isLoop = true ∧ s.node.orelse ≠ [] ∧
        ∀ b ∈ s.walk, b.node.kind = .broken → s.HoldsBack b) ∧
      (∀ s ∈ rowSearch.program.sites, s.node.isLoop = true → s.node.KeepsBreaksApart →
        (s ∈ useless ↔ s.node.orelse ≠ [] ∧ ∀ b, ¬ s.node.IsLeftBy b)) ∧
      (Check.loopBodies.judge rowSearch {}).1.fault = none ∧
      (Check.loopBodies.judge rowSearch {}).1.findings.filter
          (fun f => f.violation = .uselessLoopElse) =
        useless.map fun s => Violation.uselessLoopElse.atNode s.node := by
  have hplaced : ∀ n ∈ rowSearch.program.root.walk,
      n.isLoop = true → n.position.isSome = true := by decide
  exact ⟨hplaced, rowLoop_keepsBreaksApart, loopBodies_reports_uselessElse rowSearch {} hplaced⟩

/-- A break that leaves the loop around the one at whose end it stands. -/
def endBreak : Node :=
  .mk 8 (some ⟨5, 8⟩) .broken

/-- A loop with nothing but a break at its end. -/
def quietLoop : Node :=
  .mk 3 (some ⟨2, 4⟩) (.forLoop .plain (.mk 4 (some ⟨2, 8⟩) (.name "cell" (some .store)))
    (.mk 5 (some ⟨2, 16⟩) (.name "row" (some .load)))
    [.mk 6 (some ⟨3, 8⟩) (.expression (.mk 7 (some ⟨3, 8⟩) (.name "cell" (some .load))))]
    [endBreak])

/-- The loop around it. -/
def guardedLoop : Node :=
  .mk 1 (some ⟨1, 0⟩) (.whileLoop (.mk 2 (some ⟨1, 6⟩) (.name "row" (some .load))) [quietLoop]
    [.mk 9 (some ⟨7, 4⟩) (.expression (.mk 10 (some ⟨7, 4⟩) (.name "row" (some .load))))])

/-- Both loops as a subject. -/
def quietSearch : Subject :=
  ⟨{ root := .mk 0 none (.file [guardedLoop]), distinct := by decide }, [], "rows.py", .initial⟩

/-- An inner loop that is left at once, with the given identities and on the given line. -/
def shortLoop (first : Nat) (line : Int) : Node :=
  .mk first (some ⟨line, 4⟩) (.forLoop .plain
    (.mk (first + 1) (some ⟨line, 8⟩) (.name "cell" (some .store)))
    (.mk (first + 2) (some ⟨line, 16⟩) (.name "row" (some .load)))
    [.mk (first + 3) (some ⟨line + 1, 8⟩) .broken] [])

/-- A loop with two of them. -/
def pairedLoop : Node :=
  .mk 1 (some ⟨1, 0⟩) (.whileLoop (.mk 2 (some ⟨1, 6⟩) (.name "row" (some .load)))
    [shortLoop 3 2, shortLoop 7 4]
    [.mk 11 (some ⟨7, 4⟩) (.expression (.mk 12 (some ⟨7, 4⟩) (.name "row" (some .load))))])

/-- The three loops as a subject. -/
def pairedSearch : Subject :=
  ⟨{ root := .mk 0 none (.file [pairedLoop]), distinct := by decide }, [], "rows.py", .initial⟩

theorem quietLoop_not_isLeftBy (b : Node) : ¬ quietLoop.IsLeftBy b := by
  intro h
  have hmem := Node.mem_bodyBreaks_iff.mpr ⟨h.runs, h.kind⟩
  cases hmem

theorem guardedLoop_isLeftBy : guardedLoop.IsLeftBy endBreak where
  loop := rfl
  kind := rfl
  runs := (Node.mem_bodyBreaks_iff.mp List.mem_cons_self).1
  innermost m hm hloop hruns := by
    have hmem := Node.mem_loops_of_isInner ⟨hm, hloop⟩
    have hloops : guardedLoop.loops = [guardedLoop, quietLoop] := rfl
    rw [hloops, List.mem_cons, List.mem_singleton] at hmem
    rcases hmem with rfl | rfl
    · exact Node.not_standsAbove_self _ hm
    · cases Node.mem_bodyBreaks_iff.mpr ⟨hruns, rfl⟩

theorem pairedLoop_not_isLeftBy (b : Node) : ¬ pairedLoop.IsLeftBy b := by
  intro h
  have hmem := Node.mem_bodyBreaks_iff.mpr ⟨h.runs, h.kind⟩
  have hbreaks : pairedLoop.bodyBreaks = (shortLoop 3 2).bodyBreaks ++ (shortLoop 7 4).bodyBreaks :=
    rfl
  rw [hbreaks, List.mem_append, Node.mem_bodyBreaks_iff, Node.mem_bodyBreaks_iff] at hmem
  rcases hmem with ⟨hruns, -⟩ | ⟨hruns, -⟩
  · exact h.innermost _ (.single (Node.mem_children_of_mem_body List.mem_cons_self)) rfl hruns
  · exact h.innermost _ (.single (Node.mem_children_of_mem_body
      (List.mem_cons_of_mem _ List.mem_cons_self))) rfl hruns

/-- **Breaks are taken for those of other loops.** No break leaves the inner loop of `quietSearch`,
whose end is useless, but the break at its end counts as one that does. It leaves the outer loop,
where it does not count. And no break leaves the outer loop of `pairedSearch`, but a break of the
first inner loop does not stand in the second one, so it counts. -/
theorem loopBodies_confuses_breaks :
    (quietLoop.orelse ≠ [] ∧ (∀ b, ¬ quietLoop.IsLeftBy b) ∧ guardedLoop.IsLeftBy endBreak ∧
      (Check.loopBodies.judge quietSearch {}).1 =
        .ofFindings [Violation.uselessLoopElse.atNode guardedLoop]) ∧
    (pairedLoop.orelse ≠ [] ∧ (∀ b, ¬ pairedLoop.IsLeftBy b) ∧
      (Check.loopBodies.judge pairedSearch {}).1 = .ofFindings []) :=
  ⟨⟨List.cons_ne_nil _ _, quietLoop_not_isLeftBy, guardedLoop_isLeftBy, rfl⟩,
    List.cons_ne_nil _ _, pairedLoop_not_isLeftBy, rfl⟩

end Stricture
