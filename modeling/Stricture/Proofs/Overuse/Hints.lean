import Mathlib.Data.List.TakeWhile
import Stricture.Proofs.Function.Mentions

/-!
# Expressions in type hints

Expressions that are used too often are found by recording every use, for the module and for the
function around it. Type hints are written often without being uses, so the check leaves out what
belongs to the hint of a variable or a parameter. It climbs to the nearest declaration or parameter
and asks whether the expression stands in the hint of that one. Hints are expressions
(`Program.HintsAreExpressions`), so nothing comes between an expression and the hint in which it
stands but parameters of lambdas, which hold nothing but hints. Hence no such expression is recorded
(`Program.isInHint_iff`).

The hint for what a function returns belongs to the function and not to a declaration. Nobody asks
for it, and the expressions in it are recorded, for the module and for the function
(`Program.records_iff_of_inReturnHint`).
-/

namespace Stricture

open Rules

/-! ### What stands in a branch -/

namespace Program

variable {q : Program} {s : Site} {p c n : Node}

/-- A node is the nearest of its sort for everything in a branch that holds none of that sort. -/
theorem isNearest_of_mem_walk {test : Node → Bool} (hp : p ∈ q.root.walk) (hc : c ∈ p.children)
    (hn : n ∈ c.walk) (htest : test p = true) (hbranch : ∀ m ∈ c.walk, test m = false) :
    p.IsNearest test n :=
  ⟨Node.standsAbove_of_mem_walk hc hn, htest,
    fun m hpm hmn => hbranch m (mem_walk_of_between hp hc hn hpm hmn)⟩

theorem isWithin_iff (hs : s ∈ q.walk) (hn : n ∈ q.root.walk) :
    isWithin s n = true ↔ s.node ∈ n.walk := by
  obtain ⟨t, ht, rfl⟩ := exists_site hn
  rw [isWithin, Bool.or_eq_true, isInside_iff_standsAbove hs ht, Node.is_iff,
    Node.mem_walk_iff_eq_or_standsAbove]
  refine or_congr_left ⟨fun hid => ?_, fun heq => by rw [heq]⟩
  exact node_eq_of_id_eq (node_mem_walk hs) (node_mem_walk ht) hid

end Program

/-! ### Hints -/

namespace Node

variable {p h n : Node}

theorem isAny_of_hint? (hhint : p.hint? = some h) : p.isAny [.annAssign, .param] = true := by
  unfold hint? at hhint
  split at hhint
  case h_1 hshape => simp [isAny, kind, hshape, Shape.kind]
  case h_2 hshape => simp [isAny, kind, hshape, Shape.kind]
  case h_3 => cases hhint

/-- A parameter has nothing below it but its hint. -/
theorem exists_hint?_of_standsAbove (hkind : p.kind = .param) (habove : p.StandsAbove n) :
    ∃ h, p.hint? = some h ∧ n ∈ h.walk := by
  obtain ⟨c, hc, hcn⟩ := Relation.TransGen.head'_iff.mp habove
  refine ⟨c, ?_, mem_walk_iff.mpr hcn⟩
  obtain ⟨id, position, shape⟩ := p
  cases shape with
  | param name hint => exact Option.mem_toList.mp hc
  | functionDef mode | forLoop mode | withBlock mode => cases mode <;> cases hkind
  | _ => cases hkind

theorem exists_functionDef_of_returnHint? (hhint : p.returnHint? = some h) :
    ∃ mode name params body decorators,
      p.shape = .functionDef mode name params body decorators (some h) := by
  unfold returnHint? at hhint
  split at hhint
  case h_1 mode name params body decorators returns hshape =>
    exact ⟨mode, name, params, body, decorators, by rw [hshape, hhint]⟩
  case h_2 => cases hhint

theorem mem_children_of_returnHint? (hhint : p.returnHint? = some h) : h ∈ p.children := by
  obtain ⟨mode, name, params, body, decorators, hshape⟩ := exists_functionDef_of_returnHint? hhint
  exact mem_children_of_shape hshape (by simp [Shape.children])

theorem isFunction_of_returnHint? (hhint : p.returnHint? = some h) : p.isFunction = true := by
  obtain ⟨mode, name, params, body, decorators, hshape⟩ := exists_functionDef_of_returnHint? hhint
  cases mode <;> simp [isFunction, isAny, kind, hshape, Shape.kind]

end Node

namespace Program

/-- The node is the type hint of a variable or a parameter, or stands inside of one. -/
def InHint (q : Program) (n : Node) : Prop :=
  ∃ p ∈ q.root.walk, ∃ h : Node, p.hint? = some h ∧ n ∈ h.walk

/-- The node is the type hint for what `f` returns, or stands inside of it. -/
def InReturnHint (q : Program) (f n : Node) : Prop :=
  f ∈ q.root.walk ∧ ∃ h : Node, f.returnHint? = some h ∧ n ∈ h.walk

/-- Type hints are expressions: they declare no variables and open no contexts. -/
def HintsAreExpressions (q : Program) : Prop :=
  ∀ p ∈ q.root.walk, ∀ h : Node, p.hint? = some h ∨ p.returnHint? = some h →
    ∀ n ∈ h.walk, n.kind ≠ .annAssign ∧ n.isContext = false

/-- The use of the expression at a node is recorded. -/
structure Records (q : Program) (n : Node) : Prop where
  /-- Its use counts at all. -/
  counted : n.kind ∈ countedKinds
  /-- It is no call of a method of the object itself. -/
  foreign : isOwnMethodCall n = false
  /-- It belongs to no decorator of the function around it. -/
  undecorated : ∀ f ∈ q.root.walk, f.IsNearest Node.isFunction n → ∀ d ∈ f.decorators, n ∉ d.walk
  /-- It belongs to no type hint of a variable or a parameter. -/
  unhinted : ¬ q.InHint n
  /-- It does not belong to a class. -/
  outside : ∀ c ∈ q.root.walk, c.IsNearest Node.isContext n → c.kind ≠ .classDef

variable {q : Program} {s : Site} {f n : Node}

/-- **What belongs to a hint is found by climbing** to the nearest declaration or parameter. -/
theorem isInHint_iff (hints : q.HintsAreExpressions) (hs : s ∈ q.walk) :
    isInHint s = true ↔ q.InHint s.node := by
  rw [isInHint, Option.any_eq_true]
  constructor
  · rintro ⟨p, hclosest, hwithin⟩
    obtain ⟨hp, -⟩ := (closest?_eq_some_iff hs).mp hclosest
    obtain ⟨h, hhint, hin⟩ := (Option.any_eq_true _ _).mp hwithin
    have hh := child_mem_walk hp (Node.mem_children_of_hint? hhint)
    exact ⟨p, hp, h, hhint, (isWithin_iff hs hh).mp hin⟩
  · rintro ⟨p, hp, h, hhint, hn⟩
    have hchild := Node.mem_children_of_hint? hhint
    have habove := Node.standsAbove_of_mem_walk hchild hn
    obtain ⟨m, hm, hnear, hplace⟩ : ∃ m ∈ q.root.walk,
        m.IsNearest (fun n => n.isAny [.annAssign, .param]) s.node ∧ (m = p ∨ p.StandsAbove m) :=
      exists_isNearest hs hp (Node.isAny_of_hint? hhint) habove
    have hown : ∃ k, m.hint? = some k ∧ s.node ∈ k.walk := by
      rcases hplace with rfl | hpm
      · exact ⟨h, hhint, hn⟩
      · -- further down, inside of the hint, only a parameter can be the nearest
        have hmh := mem_walk_of_between hp hchild hn hpm hnear.1
        have hkind : m.kind = .param := by
          have hkinds := List.contains_iff_mem.mp hnear.2.1
          simpa [(hints p hp h (.inl hhint) m hmh).1] using hkinds
        exact Node.exists_hint?_of_standsAbove hkind hnear.1
    obtain ⟨k, hk, hnk⟩ := hown
    have hkwalk := child_mem_walk hm (Node.mem_children_of_hint? hk)
    exact ⟨m, (closest?_eq_some_iff hs).mpr ⟨hm, hnear⟩,
      (Option.any_eq_true _ _).mpr ⟨k, hk, (isWithin_iff hs hkwalk).mpr hnk⟩⟩

theorem isInDecorator_iff (hs : s ∈ q.walk) :
    isInDecorator s = true ↔ ∃ f ∈ q.root.walk, f.IsNearest Node.isFunction s.node ∧
      ∃ d ∈ f.decorators, s.node ∈ d.walk := by
  have hwithin {f d : Node} (hf : f ∈ q.root.walk) (hd : d ∈ f.decorators) :
      isWithin s d = true ↔ s.node ∈ d.walk :=
    isWithin_iff hs (child_mem_walk hf (Node.mem_children_of_mem_decorators hd))
  rw [isInDecorator, Option.any_eq_true]
  constructor
  · rintro ⟨f, hclosest, hany⟩
    obtain ⟨hf, hnear⟩ := (closest?_eq_some_iff hs).mp hclosest
    obtain ⟨d, hd, hin⟩ := List.any_eq_true.mp hany
    exact ⟨f, hf, hnear, d, hd, (hwithin hf hd).mp hin⟩
  · rintro ⟨f, hf, hnear, d, hd, hin⟩
    exact ⟨f, (closest?_eq_some_iff hs).mpr ⟨hf, hnear⟩,
      List.any_eq_true.mpr ⟨d, hd, (hwithin hf hd).mpr hin⟩⟩

theorem contextIsAny_iff {kinds : List Kind} (hs : s ∈ q.walk) :
    s.contextIsAny kinds = true ↔
      ∃ c ∈ q.root.walk, c.IsNearest Node.isContext s.node ∧ c.kind ∈ kinds := by
  rw [Site.contextIsAny, Option.any_eq_true]
  constructor
  · rintro ⟨c, hclosest, hkind⟩
    obtain ⟨hc, hnear⟩ := (closest?_eq_some_iff hs).mp hclosest
    exact ⟨c, hc, hnear, List.contains_iff_mem.mp hkind⟩
  · rintro ⟨c, hc, hnear, hkind⟩
    exact ⟨c, (closest?_eq_some_iff hs).mpr ⟨hc, hnear⟩, List.contains_iff_mem.mpr hkind⟩

theorem isCounted_iff (hints : q.HintsAreExpressions) (hs : s ∈ q.walk) :
    isCounted s = true ↔ q.Records s.node := by
  have hkind : s.node.isAny countedKinds = true ↔ s.node.kind ∈ countedKinds :=
    List.contains_iff_mem
  have hdecorator : isInDecorator s = false ↔ ∀ f ∈ q.root.walk,
      f.IsNearest Node.isFunction s.node → ∀ d ∈ f.decorators, s.node ∉ d.walk := by
    rw [← Bool.not_eq_true, isInDecorator_iff hs]
    push Not
    rfl
  have hhint : isInHint s = false ↔ ¬ q.InHint s.node := by
    rw [← Bool.not_eq_true, isInHint_iff hints hs]
  have hclass : s.contextIsAny [.classDef] = false ↔ ∀ c ∈ q.root.walk,
      c.IsNearest Node.isContext s.node → c.kind ≠ .classDef := by
    rw [← Bool.not_eq_true, contextIsAny_iff hs]
    simp only [List.mem_singleton, not_exists, not_and]
  rw [isCounted]
  simp only [Bool.and_eq_true, Bool.not_eq_true', hkind, hdecorator, hhint, hclass]
  constructor
  · rintro ⟨⟨⟨⟨hcounted, hundecorated⟩, hforeign⟩, hunhinted⟩, houtside⟩
    exact ⟨hcounted, hforeign, hundecorated, hunhinted, houtside⟩
  · rintro ⟨hcounted, hforeign, hundecorated, hunhinted, houtside⟩
    exact ⟨⟨⟨⟨hcounted, hundecorated⟩, hforeign⟩, hunhinted⟩, houtside⟩

/-- The function to whose return hint a node belongs is the context of the node. -/
theorem InReturnHint.isNearest (hints : q.HintsAreExpressions) (h : q.InReturnHint f n) :
    f.IsNearest Node.isContext n ∧ f.IsNearest Node.isFunction n := by
  obtain ⟨hf, hint, hhint, hn⟩ := h
  have hchild := Node.mem_children_of_returnHint? hhint
  have hfunction := Node.isFunction_of_returnHint? hhint
  have hcontext (m : Node) (hm : m ∈ hint.walk) : m.isContext = false :=
    (hints f hf hint (.inr hhint) m hm).2
  constructor
  · exact isNearest_of_mem_walk hf hchild hn (Node.isContext_of_isFunction hfunction) hcontext
  · refine isNearest_of_mem_walk hf hchild hn hfunction fun m hm => ?_
    rw [← Bool.not_eq_true]
    intro hm'
    exact Bool.false_ne_true ((hcontext m hm).symm.trans (Node.isContext_of_isFunction hm'))

/-- The hint for what a function returns is none of its decorators. -/
theorem InReturnHint.not_mem_walk (h : q.InReturnHint f n) {d : Node} (hd : d ∈ f.decorators) :
    n ∉ d.walk := by
  obtain ⟨hf, hint, hhint, hn⟩ := h
  intro hnd
  obtain rfl := eq_of_mem_walk hf (Node.mem_children_of_mem_decorators hd)
    (Node.mem_children_of_returnHint? hhint) hnd hn
  -- then a child of the function would stand at two places
  obtain ⟨s, hs, rfl⟩ := exists_site hf
  obtain ⟨mode, name, params, body, decorators, hshape⟩ :=
    Node.exists_functionDef_of_returnHint? hhint
  have hnodup := nodup_children hs
  rw [Node.decorators, hshape] at hd
  rw [Node.children, hshape] at hnodup
  simp only [Shape.children, Option.toList_some] at hnodup
  exact (List.nodup_append.mp hnodup.of_cons).2.2 d (List.mem_append_right body hd) d
    List.mem_cons_self rfl

/-- **Return hints are recorded**, as if they were not hints. -/
theorem records_iff_of_inReturnHint (hints : q.HintsAreExpressions) (h : q.InReturnHint f n)
    (hn : n ∈ q.root.walk) :
    q.Records n ↔ n.kind ∈ countedKinds ∧ isOwnMethodCall n = false ∧ ¬ q.InHint n := by
  obtain ⟨hcontext, hfunction⟩ := h.isNearest hints
  obtain ⟨t, ht, rfl⟩ := exists_site hn
  constructor
  · intro hrecords
    exact ⟨hrecords.counted, hrecords.foreign, hrecords.unhinted⟩
  · rintro ⟨hcounted, hforeign, hunhinted⟩
    refine ⟨hcounted, hforeign, fun g hg hnear d hd => ?_, hunhinted, fun c hc hnear => ?_⟩
    · obtain rfl := eq_of_isNearest ht hg h.1 hnear hfunction
      exact h.not_mem_walk hd
    · obtain rfl := eq_of_isNearest ht hc h.1 hnear hcontext
      obtain ⟨-, hint, hhint, -⟩ := h
      obtain ⟨mode, name, params, body, decorators, hshape⟩ :=
        Node.exists_functionDef_of_returnHint? hhint
      rw [Node.kind, hshape]
      cases mode <;> simp [Shape.kind]

end Program

/-! ### What is recorded -/

theorem map_site_renderUses (seen : Rendered) (sites : List Site) :
    (renderUses seen sites).1.map RenderedUse.site = sites := by
  induction sites generalizing seen with
  | nil => rfl
  | cons s rest ih => exact congrArg (s :: ·) (ih (seen.mark s))

/-- If every expression has a text, all of them are recorded; otherwise nothing is said. -/
theorem overusedExpressions_eq (subject : Subject) (memory : Memory) :
    ∃ uses : List RenderedUse,
      uses.map RenderedUse.site = subject.program.sites.filter isCounted ∧
      ((memory.rendered.firstError? (subject.program.sites.filter isCounted) = none ∧
          (overusedExpressions subject memory).1 = .ofFindings (overusedIn subject.options uses)) ∨
        ∃ e, (overusedExpressions subject memory).1 = .stopped (.rendering e)) := by
  refine ⟨_, map_site_renderUses memory.rendered (subject.program.sites.filter isCounted), ?_⟩
  cases hfault : memory.rendered.firstError? (subject.program.sites.filter isCounted) with
  | some e => exact .inr ⟨e, by simp only [overusedExpressions, hfault]⟩
  | none =>
    refine .inl ⟨rfl, ?_⟩
    have hwritten : (subject.program.sites.filter isCounted).takeWhile
        (fun s => (memory.rendered.error? s).isNone) = subject.program.sites.filter isCounted :=
      List.takeWhile_eq_self_iff.mpr fun s hs =>
        Option.isNone_iff_eq_none.mpr (List.findSome?_eq_none_iff.mp hfault s hs)
    simp only [overusedExpressions, hfault, hwritten]

/-- **Hints of variables and parameters are not recorded, return hints are.** The findings are about
the uses at the sites that count, and these are exactly the ones that `Program.Records` describes. A
site in the hint of a variable or a parameter is not among them. A site in the hint for what a
function returns is recorded for this function as it would be without a hint. -/
theorem overusedExpressions_records (subject : Subject) (memory : Memory)
    (hints : subject.program.HintsAreExpressions) :
    (∃ uses : List RenderedUse,
      uses.map RenderedUse.site = subject.program.sites.filter isCounted ∧
      ((memory.rendered.firstError? (subject.program.sites.filter isCounted) = none ∧
          (Check.overusedExpressions.judge subject memory).1 =
            .ofFindings (overusedIn subject.options uses)) ∨
        ∃ e, (Check.overusedExpressions.judge subject memory).1 = .stopped (.rendering e))) ∧
    ∀ s ∈ subject.program.sites,
      (isCounted s = true ↔ subject.program.Records s.node) ∧
      (subject.program.InHint s.node → isCounted s = false) ∧
      ∀ f : Node, subject.program.InReturnHint f s.node →
        functionAround? s = some f ∧
        (isCounted s = true ↔ s.node.kind ∈ countedKinds ∧ isOwnMethodCall s.node = false ∧
          ¬ subject.program.InHint s.node) := by
  refine ⟨overusedExpressions_eq subject memory, fun s hs => ?_⟩
  have hwalk := Program.mem_walk_iff_mem_sites.mpr hs
  have hcounted := Program.isCounted_iff hints hwalk
  refine ⟨hcounted, fun hin => ?_, fun f hreturn => ⟨?_, ?_⟩⟩
  · rw [← Bool.not_eq_true, hcounted]
    exact fun hrecords => hrecords.unhinted hin
  · exact (Program.closest?_eq_some_iff hwalk).mpr ⟨hreturn.1, (hreturn.isNearest hints).2⟩
  · exact hcounted.trans
      (Program.records_iff_of_inReturnHint hints hreturn (Program.node_mem_walk hwalk))

/-- The hint `List[int]`. -/
def listHint (id : Nat) (line column : Int) : Node :=
  .mk id (some ⟨line, column⟩) (.subscript (variableAt (id + 1) line column "List" .load)
    (variableAt (id + 2) line (column + 5) "int" .load) (some .load))

/-- The parameter `items: List[int]`. -/
def itemsParam : Node :=
  .mk 3 (some ⟨1, 10⟩) (.param "items" (some (listHint 4 1 17)))

/-- The function `first(items: List[int]) -> List[int]`. -/
def firstFunction : Node :=
  .mk 1 (some ⟨1, 0⟩) (.functionDef .plain "first"
    (.mk 2 none (.params [] [itemsParam] none [] [] none [])) [.mk 7 (some ⟨2, 4⟩) .passed] []
    (some (listHint 8 1 31)))

/-- The function `second() -> List[int]`. -/
def secondFunction : Node :=
  .mk 11 (some ⟨5, 0⟩) (.functionDef .plain "second" (noParams 12)
    [.mk 13 (some ⟨6, 4⟩) .passed] [] (some (listHint 14 5 16)))

/-- A module with both functions, in which no expression may be used twice. -/
def hintedSubject : Subject :=
  ⟨{ root := .mk 0 none (.file [firstFunction, secondFunction]), distinct := by decide }, [],
    "hinted.py",
    { Options.initial with maxModuleExpressions := ⟨.whole 1, .ofInt 1, rfl, by decide⟩ }⟩

theorem hintedSubject_hintsAreExpressions : hintedSubject.program.HintsAreExpressions := by
  intro p hp h hhint n hn
  have hall : hintedSubject.program.root.walk.all (fun p =>
      (p.hint?.toList ++ p.returnHint?.toList).all fun h =>
        h.walk.all fun n => n.kind != .annAssign && !n.isContext) = true := by decide
  have hmem : h ∈ p.hint?.toList ++ p.returnHint?.toList := by
    rw [List.mem_append, Option.mem_toList, Option.mem_toList]
    exact hhint
  have hbelow := List.all_eq_true.mp (List.all_eq_true.mp hall p hp) h hmem
  simpa using List.all_eq_true.mp hbelow n hn

theorem firstFunction_inReturnHint :
    hintedSubject.program.InReturnHint firstFunction (listHint 8 1 31) :=
  ⟨List.mem_of_getElem? (i := 1) rfl, listHint 8 1 31, rfl, Node.mem_walk_self _⟩

theorem overusedExpressions_records_hintedSubject :
    hintedSubject.program.HintsAreExpressions ∧
    (∃ s ∈ hintedSubject.program.sites, s.node = listHint 4 1 17 ∧ isCounted s = false) ∧
    ∃ s ∈ hintedSubject.program.sites, s.node = listHint 8 1 31 ∧
      functionAround? s = some firstFunction ∧ hintedSubject.program.Records s.node := by
  have hints := hintedSubject_hintsAreExpressions
  have hrecords := (overusedExpressions_records hintedSubject {} hints).2
  refine ⟨hints, ?_, ?_⟩
  · have hparam : itemsParam ∈ hintedSubject.program.root.walk :=
      List.mem_of_getElem? (i := 9) rfl
    have hwalk : listHint 4 1 17 ∈ hintedSubject.program.root.walk :=
      Program.child_mem_walk hparam List.mem_cons_self
    obtain ⟨s, hs, hnode⟩ := Program.exists_site hwalk
    have hsite := Program.mem_walk_iff_mem_sites.mp hs
    refine ⟨s, hsite, hnode, (hrecords s hsite).2.1 ?_⟩
    exact ⟨itemsParam, hparam, listHint 4 1 17, rfl, hnode ▸ Node.mem_walk_self _⟩
  · have hsite : (hintedSubject.program.root.top.under firstFunction).under (listHint 8 1 31) ∈
        hintedSubject.program.sites := List.mem_of_getElem? (i := 8) rfl
    obtain ⟨hcounted, -, hreturn⟩ := hrecords _ hsite
    exact ⟨_, hsite, rfl, (hreturn firstFunction firstFunction_inReturnHint).1, hcounted.mp rfl⟩

/-- **Return hints are found to be overused.** Nothing but the return hints of the two functions is
recorded, and they are reported. -/
theorem overusedExpressions_reports_returnHints :
    (hintedSubject.program.sites.filter isCounted).map Site.node =
      [listHint 8 1 31, listHint 14 5 16] ∧
    hintedSubject.program.InReturnHint firstFunction (listHint 8 1 31) ∧
    hintedSubject.program.InReturnHint secondFunction (listHint 14 5 16) ∧
    (Check.overusedExpressions.judge hintedSubject {}).1.findings =
      [Violation.overusedExpression.atNode (listHint 8 1 31) "List[int]; used 2 times"] := by
  refine ⟨rfl, ?_, ?_, ?_⟩
  · exact firstFunction_inReturnHint
  · exact ⟨List.mem_of_getElem? (i := 2) rfl, listHint 14 5 16, rfl, Node.mem_walk_self _⟩
  · rfl

end Stricture
