import Stricture.Proofs.Scope.Binders

/-!
# Names that clash

A binding is compared with everything that was bound before it. What was bound before is kept in
three stores, which change from one binding to the next. Here clashes are described without stores,
by what stands where in the program: a name overlaps (`Program.Overlaps`) or hides another
(`Program.Shadows`) because of a site that is visited earlier.

At every point the stores hold what the sites before it have bound (`Scopes.Records`). One event
keeps this true (`Records.step`), so each of them finds the names that clash according to the
program, and a whole run reports these names (`judgeEvents_eq_clashFindings`).
-/

namespace Stricture

open Rules

/-- The name, bound at `s`, is bound in the same context before, and one of the two bindings is
made by a block. -/
def Program.Overlaps (q : Program) (s : Site) (x : String) : Prop :=
  ∃ mode, s.Binds mode x ∧ ¬ Name.IsUnderscores x ∧
    ∃ t mode', q.Precedes t s ∧ t.Binds mode' x ∧ t.binder.context? = s.binder.context? ∧
      (mode = .block ∨ mode' = .block)

/-- The name, bound at `s`, is bound before in a context that stands around the context of `s` and
is not a class. -/
def Program.Shadows (q : Program) (s : Site) (x : String) : Prop :=
  ∃ mode, s.Binds mode x ∧ ¬ Name.IsUnderscores x ∧
    ∃ t mode', q.Precedes t s ∧ t.Binds mode' x ∧
      ∃ outer inner, t.binder.context? = some outer ∧ s.binder.context? = some inner ∧
        outer.kind ≠ .classDef ∧ outer.StandsAbove inner

/-! ### What the stores hold -/

/-- The log holds the names that the given sites bind in some way, under the keys of their
contexts. -/
def BindingLog.Holds (log : BindingLog) (past : List Site) (binds : Site → String → Prop) : Prop :=
  ∀ k x, (k, x) ∈ log ↔
    ¬ Name.IsUnderscores x ∧ ∃ t ∈ past, binds t x ∧ Scopes.key t.binder = k

namespace BindingLog.Holds

variable {log : BindingLog} {past : List Site} {binds : Site → String → Prop} {s : Site}

theorem nil : Holds [] [] binds := by
  simp [Holds]

/-- A site that binds nothing in this way leaves no trace. -/
theorem skip (h : log.Holds past binds) (hs : ∀ x, ¬ binds s x) :
    log.Holds (past ++ [s]) binds := by
  intro k x
  rw [h k x]
  simp [hs]

theorem bind (h : log.Holds past binds) {names : List String} (hs : ∀ x, binds s x ↔ x ∈ names) :
    (log.bind (Scopes.key s.binder) names).Holds (past ++ [s]) binds := by
  intro k x
  rw [mem_bind, h k x, Name.isUnused_eq_false_iff]
  constructor
  · rintro (⟨hx, t, ht, hbinds⟩ | ⟨rfl, hname, hx⟩)
    · exact ⟨hx, t, List.mem_append_left _ ht, hbinds⟩
    · exact ⟨hx, s, by simp, (hs x).mpr hname, rfl⟩
  · rintro ⟨hx, t, ht, hbinds, hk⟩
    rcases List.mem_append.mp ht with ht | ht
    · exact Or.inl ⟨hx, t, ht, hbinds, hk⟩
    · obtain rfl := List.mem_singleton.mp ht
      exact Or.inr ⟨hk.symm, (hs x).mp hbinds, hx⟩

end BindingLog.Holds

/-- The site binds the name where inner contexts can see it. Names in a class cannot be seen. -/
def Site.BindsVisibly (s : Site) (x : String) : Prop :=
  (∃ mode, s.Binds mode x) ∧ s.binder.contextIsAny [.classDef] = false

namespace Scopes

/-- The stores hold what the given sites bind. -/
structure Records (scopes : Scopes) (past : List Site) : Prop where
  blocks : scopes.blocks.Holds past fun t x => t.Binds .block x
  locals : scopes.locals.Holds past fun t x => t.Binds .plain x
  outer : scopes.outer.Holds past Site.BindsVisibly

theorem addOuter_blocks (scopes : Scopes) (s : Site) (names : List String) :
    (scopes.addOuter s names).blocks = scopes.blocks := by
  unfold addOuter
  split <;> rfl

theorem addOuter_locals (scopes : Scopes) (s : Site) (names : List String) :
    (scopes.addOuter s names).locals = scopes.locals := by
  unfold addOuter
  split <;> rfl

theorem addInner_outer (scopes : Scopes) (mode : BindingMode) (s : Site) (names : List String) :
    (scopes.addInner mode s names).outer = scopes.outer := by
  cases mode <;> rfl

namespace Records

variable {scopes : Scopes} {past : List Site} {s : Site} {e : BindingEvent}

theorem empty : Records {} [] :=
  ⟨.nil, .nil, .nil⟩

theorem skip (h : scopes.Records past) (hs : ∀ mode x, ¬ s.Binds mode x) :
    scopes.Records (past ++ [s]) where
  blocks := h.blocks.skip fun x => hs .block x
  locals := h.locals.skip fun x => hs .plain x
  outer := h.outer.skip fun x hx => hx.1.elim fun mode hbinds => hs mode x hbinds

theorem holds_addInner (h : scopes.Records past) (hs : e.Describes s) :
    ((scopes.addInner e.mode s.binder e.names).blocks.Holds (past ++ [s])
        fun t x => t.Binds .block x) ∧
      (scopes.addInner e.mode s.binder e.names).locals.Holds (past ++ [s])
        fun t x => t.Binds .plain x := by
  have hbinds := hs.binds_iff
  cases hmode : e.mode with
  | plain =>
    exact ⟨h.blocks.skip (by simp [hbinds, hmode]), h.locals.bind (by simp [hbinds, hmode])⟩
  | block =>
    exact ⟨h.blocks.bind (by simp [hbinds, hmode]), h.locals.skip (by simp [hbinds, hmode])⟩

theorem holds_addOuter (h : scopes.outer.Holds past Site.BindsVisibly) (hs : e.Describes s) :
    (scopes.addOuter s.binder e.names).outer.Holds (past ++ [s]) Site.BindsVisibly := by
  unfold addOuter
  split
  case isTrue hclass =>
    -- what is bound in a class is not entered, and cannot be seen either
    exact h.skip fun x hx => by simp [hx.2] at hclass
  case isFalse hclass => exact h.bind fun x => by simp [Site.BindsVisibly, hs.binds_iff, hclass]

/-- One event: afterwards the stores hold what its site binds too. -/
theorem step (h : scopes.Records past) (hs : e.Describes s) (order : NameOrder) :
    (e.judge order scopes).2.Records (past ++ [s]) := by
  obtain ⟨hblocks, hlocals⟩ := h.holds_addInner hs
  rw [BindingEvent.judge, hs.site_eq]
  refine ⟨?_, ?_, holds_addOuter ?_ hs⟩
  · rw [addOuter_blocks]
    exact hblocks
  · rw [addOuter_locals]
    exact hlocals
  · rw [addInner_outer]
    exact h.outer

end Records

end Scopes

/-! ### Contexts of binders -/

namespace Program

variable {q : Program} {s t : Site}

theorem binder_mem_walk (hs : s ∈ q.walk) : s.binder ∈ q.walk := by
  have hparent : s.parent?.getD s ∈ q.walk := by
    obtain ⟨n, above⟩ := s
    cases above with
    | nil => exact hs
    | cons m rest => exact (parent_mem_walk hs).1
  unfold Site.binder
  split
  · exact hparent
  · exact hparent
  · exact hs

/-- In a module, every name is bound in a context. -/
theorem exists_context_of_binds (hm : q.root.IsModule) (hs : s ∈ q.walk) {mode : BindingMode}
    {x : String} (h : s.Binds mode x) : ∃ c, s.binder.context? = some c := by
  obtain ⟨e, he, -, -⟩ := (binds_iff_exists hm.1 hs).mp h
  have hmem : e ∈ bindingEvents q :=
    List.mem_filterMap.mpr ⟨s, mem_walk_iff_mem_sites.mp hs, he⟩
  obtain ⟨hsite, hne⟩ := event_site hm hmem
  obtain ⟨i, -, hkey⟩ := exists_key_eq_some hm.1 hsite hne
  obtain ⟨c, hc, -⟩ := Option.map_eq_some_iff.mp hkey
  exact ⟨c, site_eq_binder he ▸ hc⟩

/-- The outer keys of a site belong to the contexts that stand around its own. -/
theorem some_mem_outerKeys_iff (hs : s ∈ q.walk) {inner : Node} (hc : s.context? = some inner)
    {i : Nat} : some i ∈ Scopes.outerKeys s ↔
      ∃ outer ∈ q.root.walk, outer.isContext = true ∧ outer.StandsAbove inner ∧ outer.id = i := by
  obtain ⟨hinner, near, far, habove, hnear⟩ := List.find?_eq_some_iff_append.mp hc
  have hfar : s.contexts.drop 1 = far.filter Node.isContext := by
    have hnone : near.filter Node.isContext = [] :=
      List.filter_eq_nil_iff.mpr fun m hm => by simpa using hnear m hm
    rw [Site.contexts, habove, List.filter_append, hnone, List.nil_append,
      List.filter_cons_of_pos hinner, List.drop_one, List.tail_cons]
  have hsuffix : ⟨inner, far⟩ ∈ q.walk := suffix_mem_walk hs habove
  simp only [Scopes.outerKeys, hfar, List.mem_append, List.mem_map, List.mem_filter,
    mem_above_iff hsuffix, Option.some.injEq, List.mem_singleton, reduceCtorEq, or_false]
  constructor
  · rintro ⟨d, ⟨⟨hd, habove⟩, hcontext⟩, hid⟩
    exact ⟨d, hd, hcontext, habove, hid⟩
  · rintro ⟨d, hd, hcontext, habove, hid⟩
    exact ⟨d, ⟨⟨hd, habove⟩, hcontext⟩, hid⟩

/-- The key of a site is among the outer keys of another if its context stands around that of the
other. -/
theorem key_mem_outerKeys_iff (hs : s ∈ q.walk) (ht : t ∈ q.walk) {inner outer : Node}
    (hinner : s.context? = some inner) (houter : t.context? = some outer) :
    Scopes.key t ∈ Scopes.outerKeys s ↔ outer.StandsAbove inner := by
  have hwalk := context_mem_walk ht houter
  rw [Scopes.key, houter, Option.map_some, some_mem_outerKeys_iff hs hinner]
  constructor
  · rintro ⟨d, hd, -, habove, hid⟩
    rwa [← node_eq_of_id_eq hd hwalk hid]
  · intro habove
    exact ⟨outer, hwalk, List.find?_some houter, habove, rfl⟩

end Program

theorem Site.contextIsAny_eq_false_iff {s : Site} {c : Node} (hc : s.context? = some c) :
    s.contextIsAny [.classDef] = false ↔ c.kind ≠ .classDef := by
  simp [contextIsAny, hc, Node.isAny]

/-! ### Clashes at one site -/

section Clashes

variable {q : Program} {s : Site} {past rest : List Site} {scopes : Scopes} {e : BindingEvent}

theorem mem_innerClash_iff (h : q.sites = past ++ s :: rest) (hr : scopes.Records past)
    (hs : e.Describes s) {x : String} :
    x ∈ scopes.innerClash e.mode s.binder e.names ↔ q.Overlaps s x := by
  have hwalk {t : Site} (ht : t ∈ q.sites) : t.binder ∈ q.walk :=
    Program.binder_mem_walk (Program.mem_walk_iff_mem_sites.mpr ht)
  have hkey {t : Site} (ht : q.Precedes t s) :
      Scopes.key t.binder = Scopes.key s.binder ↔ t.binder.context? = s.binder.context? :=
    Program.key_eq_key_iff (hwalk ht.mem_left) (hwalk ht.mem_right)
  simp only [Scopes.innerClash, List.mem_filter, Bool.or_eq_true, Bool.and_eq_true,
    BindingLog.knows_iff, decide_eq_true_eq, hr.blocks _ x, hr.locals _ x,
    ← Program.precedes_iff_mem h]
  constructor
  · rintro ⟨hx, hclash⟩
    have hbind : s.Binds e.mode x := (hs.binds_iff _ x).mpr ⟨rfl, hx⟩
    rcases hclash with ⟨hu, t, ht, hbinds, hk⟩ | ⟨hmode, hu, t, ht, hbinds, hk⟩
    · exact ⟨e.mode, hbind, hu, t, .block, ht, hbinds, (hkey ht).mp hk, Or.inr rfl⟩
    · exact ⟨e.mode, hbind, hu, t, .plain, ht, hbinds, (hkey ht).mp hk, Or.inl hmode⟩
  · rintro ⟨mode, hbind, hu, t, mode', ht, hbinds, hcontext, hblock⟩
    obtain ⟨rfl, hx⟩ := (hs.binds_iff mode x).mp hbind
    have hk := (hkey ht).mpr hcontext
    refine ⟨hx, ?_⟩
    -- what was bound by a block clashes with everything, the rest with blocks only
    cases mode' with
    | block => exact Or.inl ⟨hu, t, ht, hbinds, hk⟩
    | plain => exact Or.inr ⟨hblock.resolve_right (by simp), hu, t, ht, hbinds, hk⟩

theorem mem_outerClash_iff (hm : q.root.IsModule) (h : q.sites = past ++ s :: rest)
    (hr : scopes.outer.Holds past Site.BindsVisibly) (hs : e.Describes s)
    (hclass : s.binder.contextIsAny [.classDef] = false) {x : String} :
    x ∈ scopes.outerClash s.binder e.names ↔ q.Shadows s x := by
  have hsites : s ∈ q.walk := Program.mem_walk_iff_mem_sites.mpr (h ▸ by simp)
  have hwalk {t : Site} (ht : q.Precedes t s) : t ∈ q.walk :=
    Program.mem_walk_iff_mem_sites.mpr ht.mem_left
  have hkeys {t : Site} (ht : q.Precedes t s) {inner outer : Node}
      (hinner : s.binder.context? = some inner) (houter : t.binder.context? = some outer) :
      Scopes.key t.binder ∈ Scopes.outerKeys s.binder ↔ outer.StandsAbove inner :=
    Program.key_mem_outerKeys_iff (Program.binder_mem_walk hsites)
      (Program.binder_mem_walk (hwalk ht)) hinner houter
  simp only [Scopes.outerClash, hclass, Bool.false_eq_true, if_false, List.mem_filter,
    List.any_eq_true, BindingLog.knows_iff, hr _ x, ← Program.precedes_iff_mem h]
  constructor
  · rintro ⟨hx, k, hk, hu, t, ht, ⟨⟨mode', hbinds⟩, hvisible⟩, rfl⟩
    have hbind : s.Binds e.mode x := (hs.binds_iff _ x).mpr ⟨rfl, hx⟩
    -- in a module both names are bound in a context, so the key is that of a context
    obtain ⟨inner, hinner⟩ := Program.exists_context_of_binds hm hsites hbind
    obtain ⟨outer, houter⟩ := Program.exists_context_of_binds hm (hwalk ht) hbinds
    have hkind := (Site.contextIsAny_eq_false_iff houter).mp hvisible
    exact ⟨e.mode, hbind, hu, t, mode', ht, hbinds, outer, inner, houter, hinner, hkind,
      (hkeys ht hinner houter).mp hk⟩
  · rintro ⟨mode, hbind, hu, t, mode', ht, hbinds, outer, inner, houter, hinner, hkind, habove⟩
    obtain ⟨rfl, hx⟩ := (hs.binds_iff mode x).mp hbind
    have hvisible := (Site.contextIsAny_eq_false_iff houter).mpr hkind
    exact ⟨hx, _, (hkeys ht hinner houter).mpr habove, hu, t, ht, ⟨⟨mode', hbinds⟩, hvisible⟩, rfl⟩

end Clashes

/-! ### Runs -/

/-- What is reported at a site, given the names that overlap there and the names that hide others.
In a class no name hides another. -/
def clashFindings (overlapping shadowing : Site → List String) (s : Site) : List Finding :=
  Violation.blockAndLocalOverlap.onNames s.binder.node (overlapping s) ++
    if s.binder.contextIsAny [.classDef] then []
    else Violation.outerScopeShadowing.onNames s.binder.node (shadowing s)

/-- The names that the event at a site binds. -/
def eventNames (s : Site) : List String :=
  ((bindingEvent? s).map BindingEvent.names).getD []

open Classical in
/-- The names at a site that have a property, as they are listed. -/
noncomputable def NameOrder.listAt (order : NameOrder) (S : Site → String → Prop) (s : Site) :
    List String :=
  order.list ((eventNames s).filter fun x => S s x)

/-- If only names that are bound at a site have the property, they are all listed. -/
theorem Program.lists_listAt {q : Program} {s : Site} (hm : q.root.IsModule) (hs : s ∈ q.sites)
    {S : Site → String → Prop} (h : ∀ x, S s x → ∃ mode, s.Binds mode x) (order : NameOrder) :
    order.Lists (order.listAt S s) (S s) := by
  classical
  refine order.lists_list fun x => ?_
  rw [List.mem_filter, decide_eq_true_iff]
  refine ⟨And.right, fun hx => ⟨?_, hx⟩⟩
  obtain ⟨mode, hbinds⟩ := h x hx
  obtain ⟨e, he, -, hname⟩ := (Program.binds_iff_exists hm.1
    (Program.mem_walk_iff_mem_sites.mpr hs)).mp hbinds
  rw [eventNames, he]
  exact hname

section Runs

variable {q : Program} {order : NameOrder}

/-- One site with an event: it is found what clashes there. -/
theorem judge_eq_clashFindings (order : NameOrder) (hm : q.root.IsModule) {s : Site}
    {past rest : List Site} (h : q.sites = past ++ s :: rest) {scopes : Scopes}
    (hr : scopes.Records past)
    {e : BindingEvent} (he : bindingEvent? s = some e) (hs : e.Describes s) :
    (e.judge order scopes).1 =
      clashFindings (order.listAt q.Overlaps) (order.listAt q.Shadows) s := by
  classical
  have hnames : eventNames s = e.names := by
    rw [eventNames, he]
    rfl
  have hinner : scopes.innerClash e.mode s.binder e.names =
      (eventNames s).filter fun x => q.Overlaps s x := by
    rw [hnames]
    refine List.filter_congr fun x hx => ?_
    have hclash := mem_innerClash_iff h hr hs (x := x)
    rw [Scopes.innerClash, List.mem_filter, and_iff_right hx] at hclash
    rw [Bool.eq_iff_iff, hclash, decide_eq_true_iff]
  have houter : namesFinding order .outerScopeShadowing s.binder.node
      ((scopes.addInner e.mode s.binder e.names).outerClash s.binder e.names) =
        if s.binder.contextIsAny [.classDef] then []
        else Violation.outerScopeShadowing.onNames s.binder.node (order.listAt q.Shadows s) := by
    have hholds := hr.outer
    rw [← Scopes.addInner_outer scopes e.mode s.binder e.names] at hholds
    cases hclass : s.binder.contextIsAny [.classDef] with
    | true => simp [Scopes.outerClash, hclass, namesFinding, reportIf]
    | false =>
      have hfilter : (scopes.addInner e.mode s.binder e.names).outerClash s.binder e.names =
          (eventNames s).filter fun x => q.Shadows s x := by
        rw [hnames, Scopes.outerClash, hclass, if_neg Bool.false_ne_true]
        refine List.filter_congr fun x hx => ?_
        have hclash := mem_outerClash_iff hm h hholds hs hclass (x := x)
        rw [Scopes.outerClash, hclass, if_neg Bool.false_ne_true, List.mem_filter,
          and_iff_right hx] at hclash
        rw [Bool.eq_iff_iff, hclash, decide_eq_true_iff]
      rw [namesFinding_eq_onNames, hfilter]
      rfl
  simp only [BindingEvent.judge, hs.site_eq, hinner, houter, clashFindings,
    namesFinding_eq_onNames]
  rfl

/-- One site without an event: there is nothing that could clash. -/
theorem clashFindings_eq_nil {s : Site} (hnone : bindingEvent? s = none) :
    clashFindings (order.listAt q.Overlaps) (order.listAt q.Shadows) s = [] := by
  have hlist (S : Site → String → Prop) : order.listAt S s = [] := by
    simp [NameOrder.listAt, eventNames, hnone, List.eq_nil_iff_forall_not_mem, order.mem_iff]
  simp [clashFindings, Violation.onNames, hlist]

/-- A whole run: every site reports what clashes there. -/
theorem judgeEvents_eq_clashFindings (hm : q.root.IsModule) {past rest : List Site}
    (h : q.sites = past ++ rest) {scopes : Scopes} (hr : scopes.Records past) :
    (judgeEvents order scopes (rest.filterMap bindingEvent?)).1 =
      rest.flatMap (clashFindings (order.listAt q.Overlaps) (order.listAt q.Shadows)) := by
  -- the stores hold what was bound at the sites that are behind
  induction rest generalizing past scopes with
  | nil => rfl
  | cons s rest ih =>
    have hmem : s ∈ q.sites := h ▸ by simp
    have hwalk : s ∈ q.walk := Program.mem_walk_iff_mem_sites.mpr hmem
    have hnext : q.sites = (past ++ [s]) ++ rest := by rw [h, List.append_assoc]; rfl
    rw [List.flatMap_cons]
    cases he : bindingEvent? s with
    | none =>
      have hnone (mode : BindingMode) (x : String) : ¬ s.Binds mode x := by
        simp [Program.binds_iff_exists hm.1 hwalk, he]
      rw [List.filterMap_cons_none he, ih hnext (hr.skip hnone), clashFindings_eq_nil he,
        List.nil_append]
    | some e =>
      have hs := Program.describes_of_event hm.1 hwalk he
      have hfirst := judge_eq_clashFindings order hm h hr he hs
      have hothers := ih hnext (hr.step hs order)
      rw [List.filterMap_cons_some he]
      simp only [judgeEvents, hfirst, hothers]

/-- The check of a module with nothing bound before comes to its end, and finds what clashes. -/
theorem boundNames_eq (subject : Subject) (hm : subject.program.root.IsModule)
    (order : NameOrder) :
    (Check.boundNames.judge subject { order }).1 =
      .ofFindings (subject.program.sites.flatMap (clashFindings
        (order.listAt subject.program.Overlaps) (order.listAt subject.program.Shadows))) :=
  congrArg Report.ofFindings
    (judgeEvents_eq_clashFindings hm (List.nil_append _).symm Scopes.Records.empty)

end Runs

/-! ### Reports on clashes -/

theorem filter_onNames (v w : Violation) (n : Node) (names : List String) :
    (v.onNames n names).filter (fun f => f.violation = w) =
      if v = w then v.onNames n names else [] := by
  unfold Violation.onNames
  split <;> simp [Violation.atNode, List.filter_cons]

/-- **Names that hide others.** The check of a module reports at every site, unless it is in a
class, the names that hide a name of an outer context, and nothing else as hiding. So it is whatever
the order in which names are listed. -/
theorem boundNames_reports_shadowing (subject : Subject) (hm : subject.program.root.IsModule)
    (order : NameOrder) :
    ∃ shadowing : Site → List String,
      (∀ s ∈ subject.program.sites, order.Lists (shadowing s) (subject.program.Shadows s)) ∧
      (Check.boundNames.judge subject { order }).1.fault = none ∧
      (Check.boundNames.judge subject { order }).1.findings.filter
          (fun f => f.violation = .outerScopeShadowing) =
        subject.program.sites.flatMap fun s =>
          if s.binder.contextIsAny [.classDef] then []
          else Violation.outerScopeShadowing.onNames s.binder.node (shadowing s) := by
  refine ⟨order.listAt subject.program.Shadows, fun s hs => ?_, rfl, ?_⟩
  · exact Program.lists_listAt hm hs (fun x hx => hx.imp fun mode hmode => hmode.1) order
  rw [boundNames_eq subject hm, Report.ofFindings, List.filter_flatMap]
  congr 1
  funext s
  rw [clashFindings, List.filter_append, filter_onNames, if_neg (by decide), List.nil_append]
  split
  · rfl
  · rw [filter_onNames, if_pos rfl]

/-- A class with a method that has a parameter with the name of a variable of the module. Between
the two stands the class, which binds the name as well. -/
def hidingMethod : Program where
  root :=
    .mk 0 none (.file [
      .mk 1 (some ⟨1, 0⟩) (.assign [.mk 2 (some ⟨1, 0⟩) (.name "total" (some .store))]
        (.mk 3 (some ⟨1, 8⟩) (.constant (.int 1) none))),
      .mk 4 (some ⟨2, 0⟩) (.classDef "Cart" [] [] [
        .mk 5 (some ⟨3, 4⟩) (.assign [.mk 6 (some ⟨3, 4⟩) (.name "total" (some .store))]
          (.mk 7 (some ⟨3, 12⟩) (.constant (.int 2) none))),
        .mk 8 (some ⟨4, 4⟩) (.functionDef .plain "add"
          (.mk 9 none (.params []
            [.mk 10 (some ⟨4, 12⟩) (.param "self" none),
              .mk 11 (some ⟨4, 18⟩) (.param "total" none)]
            none [] [] none []))
          [.mk 12 (some ⟨5, 8⟩) .passed] [] none)] [])])
  distinct := by decide

/-- The class as a subject. -/
def hidingSubject : Subject :=
  ⟨hidingMethod, [], "cart.py", .initial⟩

theorem boundNames_reports_shadowing_hidingSubject : hidingSubject.program.root.IsModule ∧
    ∃ shadowing : Site → List String,
      (∀ s ∈ hidingSubject.program.sites,
        NameOrder.sorted.Lists (shadowing s) (hidingSubject.program.Shadows s)) ∧
      (Check.boundNames.judge hidingSubject {}).1.fault = none ∧
      (Check.boundNames.judge hidingSubject {}).1.findings.filter
          (fun f => f.violation = .outerScopeShadowing) =
        hidingSubject.program.sites.flatMap fun s =>
          if s.binder.contextIsAny [.classDef] then []
          else Violation.outerScopeShadowing.onNames s.binder.node (shadowing s) := by
  have hm : hidingSubject.program.root.IsModule := of_decide_eq_true rfl
  exact ⟨hm, boundNames_reports_shadowing hidingSubject hm .sorted⟩

/-- **Names that overlap.** The check of a module reports at every site the names that overlap with
others of their context, and nothing else as overlapping, whatever the order in which names are
listed. So plain bindings overlap with blocks only, and a block overlaps with every binding of its
names before it. -/
theorem boundNames_reports_overlapping (subject : Subject) (hm : subject.program.root.IsModule)
    (order : NameOrder) :
    ∃ overlapping : Site → List String,
      (∀ s ∈ subject.program.sites, order.Lists (overlapping s) (subject.program.Overlaps s)) ∧
      (Check.boundNames.judge subject { order }).1.fault = none ∧
      (Check.boundNames.judge subject { order }).1.findings.filter
          (fun f => f.violation = .blockAndLocalOverlap) =
        (subject.program.sites.flatMap fun s =>
          Violation.blockAndLocalOverlap.onNames s.binder.node (overlapping s)) ∧
      (∀ s ∈ subject.program.sites, ∀ x ∈ overlapping s, s.Binds .plain x →
        ∃ t, subject.program.Precedes t s ∧ t.Binds .block x ∧
          t.binder.context? = s.binder.context?) ∧
      ∀ s t mode x, subject.program.Precedes t s → s.Binds .block x → t.Binds mode x →
        t.binder.context? = s.binder.context? → ¬ Name.IsUnderscores x → x ∈ overlapping s := by
  have hlists (s : Site) (hs : s ∈ subject.program.sites) :
      order.Lists (order.listAt subject.program.Overlaps s) (subject.program.Overlaps s) :=
    Program.lists_listAt hm hs (fun x hx => hx.imp fun mode hmode => hmode.1) order
  refine ⟨order.listAt subject.program.Overlaps, hlists, rfl, ?_, ?_, ?_⟩
  · rw [boundNames_eq subject hm, Report.ofFindings, List.filter_flatMap]
    congr 1
    funext s
    rw [clashFindings, List.filter_append, filter_onNames, if_pos rfl]
    split
    · rw [List.filter_nil, List.append_nil]
    · rw [filter_onNames, if_neg (by decide), List.append_nil]
  · intro s hs x hx hplain
    obtain ⟨mode, hbinds, -, t, mode', ht, hbinds', hcontext, hblock⟩ :=
      ((hlists s hs).mem_iff x).mp hx
    have hwalk := Program.mem_walk_iff_mem_sites.mpr hs
    obtain rfl := Program.binds_mode_eq hm.1 hwalk hbinds hplain
    obtain rfl := hblock.resolve_left (by decide)
    exact ⟨t, ht, hbinds', hcontext⟩
  · intro s t mode x ht hblock hbinds hcontext hu
    rw [(hlists s ht.mem_right).mem_iff x]
    exact ⟨.block, hblock, hu, t, mode, ht, hbinds, hcontext, Or.inl rfl⟩

/-- A module that imports a name and then assigns to it twice. -/
def reusedImport : Program where
  root :=
    .mk 0 none (.file [
      .mk 1 (some ⟨1, 0⟩) (.imported [.mk 2 none (.importedName "totals" (some "total"))]),
      .mk 3 (some ⟨2, 0⟩) (.assign [.mk 4 (some ⟨2, 0⟩) (.name "total" (some .store))]
        (.mk 5 (some ⟨2, 8⟩) (.constant (.int 1) none))),
      .mk 6 (some ⟨3, 0⟩) (.assign [.mk 7 (some ⟨3, 0⟩) (.name "total" (some .store))]
        (.mk 8 (some ⟨3, 8⟩) (.constant (.int 2) none)))])
  distinct := by decide

/-- The module as a subject. -/
def reusingSubject : Subject :=
  ⟨reusedImport, [], "totals.py", .initial⟩

theorem boundNames_reports_overlapping_reusingSubject : reusingSubject.program.root.IsModule ∧
    ∃ overlapping : Site → List String,
      (∀ s ∈ reusingSubject.program.sites,
        NameOrder.sorted.Lists (overlapping s) (reusingSubject.program.Overlaps s)) ∧
      (Check.boundNames.judge reusingSubject {}).1.fault = none ∧
      (Check.boundNames.judge reusingSubject {}).1.findings.filter
          (fun f => f.violation = .blockAndLocalOverlap) =
        (reusingSubject.program.sites.flatMap fun s =>
          Violation.blockAndLocalOverlap.onNames s.binder.node (overlapping s)) ∧
      (∀ s ∈ reusingSubject.program.sites, ∀ x ∈ overlapping s, s.Binds .plain x →
        ∃ t, reusingSubject.program.Precedes t s ∧ t.Binds .block x ∧
          t.binder.context? = s.binder.context?) ∧
      ∀ s t mode x, reusingSubject.program.Precedes t s → s.Binds .block x → t.Binds mode x →
        t.binder.context? = s.binder.context? → ¬ Name.IsUnderscores x → x ∈ overlapping s := by
  have hm : reusingSubject.program.root.IsModule := of_decide_eq_true rfl
  exact ⟨hm, boundNames_reports_overlapping reusingSubject hm .sorted⟩

end Stricture
