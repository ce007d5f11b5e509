import Stricture.Proofs.Condition.Repetition

/-!
# Exceptions that are handled twice

A handler catches the elements of a tuple, or the one exception that is its type (`Site.caught`).
The check reports every text that two of the exceptions of a statement have, once each.

How exceptions are written is left to a printer, so that nothing depends on what the texts are. The
check does not look at all of the exceptions. A type that stands for itself counts only if it is a
name, while the elements of a tuple count whatever they are (`Site.allHandledTypes_eq_filter`). So
an exception that is handled twice is missed if it is written as an attribute of a module, without a
tuple around it. What is reported are the repeated texts, whatever the texts are, exactly if there
is no such type, or nothing else beside it (`forall_repeats_iff`).
-/

namespace Stricture

open Rules

/-! ### What handlers catch -/

namespace Site

/-- What the type of a handler names: the elements of a tuple, or itself. -/
def namedTypes (t : Site) : List Site :=
  match t.node.shape with
  | .tuple elements _ => elements.map t.under
  | _ => [t]

/-- The exceptions that a handler catches. -/
def caught (s : Site) : List Site :=
  match s.node.shape with
  | .handler (some type) _ _ => (s.under type).namedTypes
  | _ => []

/-- The exceptions that all handlers of a statement catch, in order. -/
def allCaught (s : Site) : List Site :=
  s.node.handlers.flatMap fun h => (s.under h).caught

/-- The type of a handler, other than a name. -/
def isOtherType (t : Site) : Bool :=
  t.parentIsAny [.handler] && t.node.kind != .name

variable {s t : Site}

theorem namedTypes_of_kind_ne (h : t.node.kind ≠ .tuple) : t.namedTypes = [t] := by
  unfold namedTypes
  split
  case h_1 htuple => simp [Node.kind, htuple, Shape.kind] at h
  case h_2 => rfl

theorem isOtherType_under_iff {c : Node} :
    (s.under c).isOtherType = true ↔ s.node.kind = .handler ∧ c.kind ≠ .name := by
  simp [isOtherType, parentIsAny, parent?, under, Node.isAny]

/-- A handler names what it catches, other types apart. -/
theorem handledTypes_eq_filter (s : Site) :
    handledTypes s = s.caught.filter fun t => !t.isOtherType := by
  obtain ⟨⟨id, position, shape⟩, above⟩ := s
  cases shape with
  | handler type name body =>
    cases type with
    | none => rfl
    | some type =>
      obtain ⟨typeId, typePosition, shape⟩ := type
      cases shape with
      | tuple elements usage =>
        refine (List.filter_eq_self.mpr fun t ht => ?_).symm
        obtain ⟨e, -, rfl⟩ := List.mem_map.mp ht
        rfl
      | functionDef mode | forLoop mode | withBlock mode => cases mode <;> rfl
      | _ => rfl
  | _ => rfl

theorem allHandledTypes_eq_filter (s : Site) :
    allHandledTypes s = s.allCaught.filter fun t => !t.isOtherType := by
  rw [allHandledTypes, allCaught, List.filter_flatMap]
  simp only [handledTypes_eq_filter]

/-- What a handler catches is its type, or stands in a tuple that is. -/
theorem cases_of_mem_caught (h : t ∈ s.caught) :
    ∃ type name body, s.node.shape = .handler (some type) name body ∧
      (t = s.under type ∨ ∃ elements usage, type.shape = .tuple elements usage ∧
        ∃ e ∈ elements, t = (s.under type).under e) := by
  unfold caught at h
  split at h
  case h_1 type name body hshape =>
    refine ⟨type, name, body, hshape, ?_⟩
    unfold namedTypes at h
    split at h
    case h_1 elements usage htype =>
      obtain ⟨e, he, rfl⟩ := List.mem_map.mp h
      exact .inr ⟨elements, usage, htype, e, he, rfl⟩
    case h_2 => exact .inl (List.mem_singleton.mp h)
  case h_2 => cases h

theorem node_mem_walk_of_mem_caught (h : t ∈ s.caught) : t.node ∈ s.node.walk := by
  obtain ⟨type, name, body, hshape, hcases⟩ := cases_of_mem_caught h
  refine Node.mem_walk_of_mem_children (Node.mem_children_of_shape hshape List.mem_cons_self) ?_
  rcases hcases with rfl | ⟨elements, usage, htuple, e, he, rfl⟩
  · exact Node.mem_walk_self type
  · exact Node.mem_walk_of_mem_children (Node.mem_children_of_shape htuple he)
      (Node.mem_walk_self e)

end Site

/-! ### Repeated texts -/

section Repeats

variable {α : Type} {things : List α}

theorem exists_ne_of_length (hnodup : things.Nodup) (hlength : 2 ≤ things.length) (a : α) :
    ∃ b ∈ things, b ≠ a := by
  by_contra hnone
  push Not at hnone
  have hsubset : things ⊆ [a] := fun b hb => List.mem_singleton.mpr (hnone b hb)
  have hle := (List.subperm_of_subset hnodup hsubset).length_le
  rw [List.length_singleton] at hle
  omega

/-- What is left of a list without repetitions has the repeated texts of the list, whatever the
texts are, exactly if nothing is left out, or the list has no two members. -/
theorem forall_repeats_iff (hnodup : things.Nodup) {test : α → Bool} :
    (∀ (text : α → String) (t : String),
      2 ≤ ((things.filter test).map text).count t ↔ 2 ≤ (things.map text).count t) ↔
        (∀ a ∈ things, test a = true) ∨ things.length ≤ 1 := by
  classical
  constructor
  · intro hall
    by_contra hneither
    push Not at hneither
    obtain ⟨⟨a, ha, hout⟩, hlength⟩ := hneither
    obtain ⟨b, hb, hne⟩ := exists_ne_of_length hnodup hlength a
    -- `a` and `b` have one text, which nothing else has, and `a` is left out
    let text : α → String := fun c => if c = a ∨ c = b then "" else "other"
    have hcount (cs : List α) :
        (cs.map text).count "" = (cs.filter ((· == "") ∘ text)).length := by
      rw [List.count, List.countP_map, List.countP_eq_length_filter]
    have hboth : 2 ≤ (things.map text).count "" := by
      rw [hcount]
      have hpair : [a, b] ⊆ things.filter ((· == "") ∘ text) := by simp [text, ha, hb]
      exact (List.subperm_of_subset (by simpa using hne.symm) hpair).length_le
    have hleft : ((things.filter test).map text).count "" ≤ 1 := by
      rw [hcount]
      have hsubset : (things.filter test).filter ((· == "") ∘ text) ⊆ [b] := by
        intro c hc
        obtain ⟨hc, htext⟩ := List.mem_filter.mp hc
        have hca : c ≠ a := fun h => hout (h ▸ List.of_mem_filter hc)
        rw [List.mem_singleton]
        by_contra hcb
        simp [text, hca, hcb] at htext
      exact (List.subperm_of_subset ((hnodup.filter _).filter _) hsubset).length_le
    exact absurd ((hall text "").mpr hboth) (by omega)
  · rintro (hall | hlength) text t
    · rw [List.filter_eq_self.mpr hall]
    · have hthings : (things.map text).count t ≤ 1 :=
        List.count_le_length.trans (by rwa [List.length_map])
      have hfiltered : ((things.filter test).map text).count t ≤ (things.map text).count t :=
        (List.filter_sublist.map text).count_le t
      omega

end Repeats

/-! ### One statement -/

theorem Node.handlers_sublist_children (n : Node) : n.handlers.Sublist n.children := by
  obtain ⟨id, position, shape⟩ := n
  cases shape with
  | tryBlock body clauses orelse final | tryGroup body clauses orelse final =>
    simp [handlers, children, Node.shape, Shape.children]
  | _ => exact List.nil_sublist _

theorem Node.exists_tryBlock {n : Node} (h : n.kind = .tryBlock) :
    ∃ body handlers orelse final, n.shape = .tryBlock body handlers orelse final := by
  obtain ⟨id, position, shape⟩ := n
  cases shape with
  | tryBlock => exact ⟨_, _, _, _, rfl⟩
  | functionDef mode | forLoop mode | withBlock mode => cases mode <;> cases h
  | _ => cases h

/-- If the node is a handler, the exceptions that count have texts: a name that is its type, and the
elements of a tuple. -/
def Node.HasExceptionTexts (n : Node) (printer : Printer) : Prop :=
  ∀ type name body, n.shape = .handler (some type) name body →
    (type.kind = .name → printer.Writes type) ∧
      ∀ elements usage, type.shape = .tuple elements usage → ∀ e ∈ elements, printer.Writes e

namespace Program

variable {q : Program} {s t : Site} {seen : Rendered}

theorem nodup_caught (hs : s ∈ q.walk) : s.caught.Nodup := by
  unfold Site.caught
  split
  case h_1 type name body hshape =>
    have htype : type ∈ s.node.children := Node.mem_children_of_shape hshape List.mem_cons_self
    unfold Site.namedTypes
    split
    case h_1 elements usage htuple =>
      have hnodup := nodup_children (under_mem_walk hs htype)
      rw [Node.children, htuple] at hnodup
      exact hnodup.map fun c d h => congrArg Site.node h
    case h_2 => exact List.nodup_singleton _
  case h_2 => exact List.nodup_nil

theorem nodup_allCaught (hs : s ∈ q.walk) : s.allCaught.Nodup := by
  have hsublist := s.node.handlers_sublist_children
  have hunder {h : Node} (hh : h ∈ s.node.handlers) : s.under h ∈ q.walk :=
    under_mem_walk hs (hsublist.subset hh)
  refine List.nodup_flatMap.mpr ⟨fun h hh => nodup_caught (hunder hh), ?_⟩
  -- handlers are branches of the statement
  refine (hsublist.nodup (nodup_children hs)).imp_of_mem fun {h k} hh hk hne t hth htk => hne ?_
  exact eq_of_mem_walk (node_mem_walk hs) (hsublist.subset hh) (hsublist.subset hk)
    (Site.node_mem_walk_of_mem_caught hth) (Site.node_mem_walk_of_mem_caught htk)

theorem firstError?_allHandledTypes (hs : s ∈ q.walk)
    (htexts : ∀ n ∈ q.root.walk, n.HasExceptionTexts seen.printer) :
    seen.firstError? (allHandledTypes s) = none := by
  rw [Rendered.firstError?, List.findSome?_eq_none_iff]
  intro t ht
  have hline : ∃ line, seen.line t = .ok line := by
    obtain ⟨h, hh, hth⟩ := List.mem_flatMap.mp ht
    rw [Site.handledTypes_eq_filter, List.mem_filter] at hth
    obtain ⟨type, name, body, hshape, hcases⟩ := Site.cases_of_mem_caught hth.1
    have hwalk := child_mem_walk (node_mem_walk hs) (s.node.handlers_sublist_children.subset hh)
    obtain ⟨hname, helements⟩ := htexts h hwalk type name body hshape
    rcases hcases with rfl | ⟨elements, usage, htuple, e, he, rfl⟩
    · refine hname ?_ _
      by_contra hkind
      have hhandler : (s.under h).node.kind = .handler := by
        rw [Node.kind, hshape]
        rfl
      have hother : ((s.under h).under type).isOtherType = true :=
        Site.isOtherType_under_iff.mpr ⟨hhandler, hkind⟩
      rw [hother] at hth
      exact Bool.false_ne_true hth.2
    · exact helements elements usage htuple e he _
  obtain ⟨line, hline⟩ := hline
  rw [Rendered.error?, hline]

/-- **One site**: nothing stops the check, and it reports the repeated texts of a statement. -/
theorem tryBlocks_spec (hs : s ∈ q.walk)
    (htexts : ∀ n ∈ q.root.walk, n.HasExceptionTexts seen.printer) :
    (tryBlocks seen s).1.fault = none ∧
      (tryBlocks seen s).1.findings.filter (fun f => f.violation = .duplicateException) =
        (if s.node.kind = .tryBlock then duplicateExceptions seen.text s else []).map
          fun (t : String) => Violation.duplicateException.atNode s.node t := by
  unfold tryBlocks
  dsimp only
  split
  case h_1 body handlers orelse final hshape =>
    have hkind : s.node.kind = .tryBlock := by
      rw [Node.kind, hshape]
      rfl
    rw [RenderingRule.requiring, firstError?_allHandledTypes hs htexts, if_pos hkind]
    refine ⟨rfl, ?_⟩
    have hall (texts : List String) : (texts.map fun (t : String) =>
        Violation.duplicateException.atNode s.node t).filter
          (fun f => f.violation = .duplicateException) =
        texts.map fun (t : String) => Violation.duplicateException.atNode s.node t := by
      rw [List.filter_eq_self]
      intro f hf
      obtain ⟨t, -, rfl⟩ := List.mem_map.mp hf
      rfl
    dsimp only [Report.ofFindings]
    rw [List.filter_append, List.filter_append, filter_reportIf, filter_reportIf, if_neg (by simp),
      if_neg (by simp), hall, List.nil_append, List.append_nil]
  case h_2 type name body hshape =>
    have hkind : s.node.kind ≠ .tryBlock := by
      rw [Node.kind, hshape]
      simp [Shape.kind]
    rw [if_neg hkind]
    refine ⟨rfl, ?_⟩
    dsimp only [Report.ofFindings]
    rw [List.filter_append, filter_reportIf, filter_reportIf, if_neg (by simp), if_neg (by simp)]
    rfl
  case h_3 htry hhandler =>
    have hkind : s.node.kind ≠ .tryBlock := by
      intro hkind
      obtain ⟨body, handlers, orelse, final, hshape⟩ := Node.exists_tryBlock hkind
      exact htry body handlers orelse final hshape
    rw [if_neg hkind]
    exact ⟨rfl, rfl⟩

end Program

/-! ### The whole check -/

/-- The handler is for one exception, without a tuple around it. -/
def Node.HandlesBare (n e : Node) : Prop :=
  ∃ name body, n.shape = .handler (some e) name body

/-- The handler is for a tuple of one exception. -/
def Node.HandlesTuple (n e : Node) : Prop :=
  ∃ type name body usage, n.shape = .handler (some type) name body ∧ type.shape = .tuple [e] usage

/-- A tuple around one exception makes no difference for names, and for nothing else. -/
theorem Site.map_node_handledTypes_eq_iff {s t : Site} {e : Node} (hs : s.node.HandlesBare e)
    (ht : t.node.HandlesTuple e) (htuple : e.kind ≠ .tuple) :
    (handledTypes s).map Site.node = (handledTypes t).map Site.node ↔ e.kind = .name := by
  obtain ⟨name, body, hbare⟩ := hs
  obtain ⟨type, name', body', usage, hhandler, htype⟩ := ht
  have hin : (handledTypes t).map Site.node = [e] := by
    rw [handledTypes, hhandler]
    dsimp only
    rw [htype]
    rfl
  have hout : s.caught = [s.under e] := by
    rw [caught, hbare]
    exact namedTypes_of_kind_ne htuple
  have hkind : s.node.kind = .handler := by
    rw [Node.kind, hbare]
    rfl
  rw [hin, handledTypes_eq_filter, hout]
  by_cases hname : e.kind = .name
  · have hcounts : (s.under e).isOtherType = false := by
      rw [← Bool.not_eq_true, isOtherType_under_iff]
      exact fun h => h.2 hname
    have hkept : [s.under e].filter (fun t => !t.isOtherType) = [s.under e] := by simp [hcounts]
    rw [hkept]
    exact iff_of_true rfl hname
  · have hother : (s.under e).isOtherType = true := isOtherType_under_iff.mpr ⟨hkind, hname⟩
    have hnone : [s.under e].filter (fun t => !t.isOtherType) = [] := by simp [hother]
    rw [hnone]
    exact iff_of_false (List.cons_ne_nil e []).symm hname

theorem tryBlocks_keepsPrinter : tryBlocks.KeepsPrinter := by
  intro seen s
  unfold tryBlocks
  dsimp only
  split
  case h_1 =>
    unfold RenderingRule.requiring
    split
    case h_1 => rfl
    case h_2 => simp
  case h_2 => rfl
  case h_3 => rfl

/-- A text is repeated, once, if two of the exceptions that count have it. -/
theorem mem_duplicateExceptions_iff {text : Site → String} {s : Site} {t : String} :
    t ∈ duplicateExceptions text s ↔ 2 ≤
      ((s.allCaught.filter fun c => !c.isOtherType).map fun c => Text.strip (text c)).count t := by
  rw [duplicateExceptions, Site.allHandledTypes_eq_filter, mem_repeated_iff]
  rfl

/-- **Exceptions that are handled twice.** Whatever the printer: if it has texts for the exceptions
that count, the check comes to its end. About each statement it reports the exceptions that are
duplicates by the texts that they have when it is visited.

Whatever the texts are, these are, once each, the texts that two of the exceptions have that the
handlers catch, where a type other than a name does not count. They are the texts that two of all
the exceptions have exactly if all of them count, or there is only one. So an exception with a tuple
around it and one without are treated alike exactly if it is a name. -/
theorem tryBlocks_reports_duplicates (subject : Subject) (memory : Memory)
    (htexts : ∀ n ∈ subject.program.root.walk, n.HasExceptionTexts memory.rendered.printer) :
    (Check.tryBlocks.judge subject memory).1.fault = none ∧
    (∃ reported : Site → List String,
      (∀ past s rest, subject.program.sites = past ++ s :: rest →
        reported s = if s.node.kind = .tryBlock then
          duplicateExceptions (tryBlocks.visit memory.rendered past).2.text s else []) ∧
      (Check.tryBlocks.judge subject memory).1.findings.filter
        (fun f => f.violation = .duplicateException) =
          subject.program.sites.flatMap fun s =>
            (reported s).map fun (t : String) => Violation.duplicateException.atNode s.node t) ∧
    (∀ (text : Site → String) (s : Site), (duplicateExceptions text s).Nodup ∧
      ∀ t, t ∈ duplicateExceptions text s ↔ 2 ≤
        ((s.allCaught.filter fun c => !c.isOtherType).map fun c => Text.strip (text c)).count t) ∧
    (∀ s ∈ subject.program.sites,
      (∀ (text : Site → String) (t : String),
        2 ≤ ((s.allCaught.filter fun c => !c.isOtherType).map text).count t ↔
          2 ≤ (s.allCaught.map text).count t) ↔
        (∀ c ∈ s.allCaught, c.isOtherType = false) ∨ s.allCaught.length ≤ 1) ∧
    ∀ (s t : Site) (e : Node), s.node.HandlesBare e → t.node.HandlesTuple e → e.kind ≠ .tuple →
      ((handledTypes s).map Site.node = (handledTypes t).map Site.node ↔ e.kind = .name) := by
  have hreport : (Check.tryBlocks.judge subject memory).1 =
      (tryBlocks.visit memory.rendered subject.program.sites).1 := rfl
  have hspec (past : List Site) (s : Site) (rest : List Site)
      (hsplit : subject.program.sites = past ++ s :: rest) := by
    have hprinter := tryBlocks_keepsPrinter.visit memory.rendered past
    exact Program.tryBlocks_spec (Program.mem_walk_of_sites_eq hsplit) (hprinter ▸ htexts)
  have hends : (Check.tryBlocks.judge subject memory).1.fault = none := by
    rw [hreport, RenderingRule.fault_visit_eq_none_iff]
    exact fun past s rest hsplit => (hspec past s rest hsplit).1
  refine ⟨hends, ?_, fun text s => ⟨(nodup_eraseDups _).filter _, fun t => ?_⟩, fun s hs => ?_,
    fun s t e => Site.map_node_handledTypes_eq_iff⟩
  · exact RenderingRule.exists_said
      (fun seen s => if s.node.kind = .tryBlock then duplicateExceptions seen.text s else [])
      subject.program.sites_nodup hends fun past s rest hsplit => (hspec past s rest hsplit).2
  · exact mem_duplicateExceptions_iff
  · have hwalk := Program.mem_walk_iff_mem_sites.mpr hs
    rw [forall_repeats_iff (Program.nodup_allCaught hwalk)]
    simp only [Bool.not_eq_true']

/-- A statement with two handlers, for the given types. -/
def handledBlock (first second : Node) : Node :=
  .mk 1 (some ⟨1, 0⟩) (.tryBlock [.mk 2 (some ⟨2, 4⟩) .passed]
    [.mk 3 (some ⟨3, 0⟩) (.handler (some first) none [.mk 4 (some ⟨4, 4⟩) .passed]),
      .mk 5 (some ⟨5, 0⟩) (.handler (some second) none [.mk 6 (some ⟨6, 4⟩) .passed])] [] [])

/-- Handlers for `(ValueError, KeyError)` and for `ValueError`. -/
def namedBlock : Node :=
  handledBlock (.mk 7 (some ⟨3, 7⟩) (.tuple [.mk 8 (some ⟨3, 8⟩) (.name "ValueError" (some .load)),
      .mk 9 (some ⟨3, 20⟩) (.name "KeyError" (some .load))] (some .load)))
    (.mk 10 (some ⟨5, 7⟩) (.name "ValueError" (some .load)))

/-- The statement as a subject. -/
def namedSubject : Subject :=
  ⟨{ root := .mk 0 none (.file [namedBlock]), distinct := by decide }, [], "named.py", .initial⟩

theorem namedSubject_hasExceptionTexts {n : Node} (hn : n ∈ namedSubject.program.root.walk) :
    n.HasExceptionTexts {} := by
  have hnames : ∀ n ∈ namedSubject.program.root.walk, n.kind = .handler →
      ∀ type ∈ n.children, type.kind = .tuple → ∀ e ∈ type.children, e.kind = .name := by decide
  intro type name body hhandler
  refine ⟨Printer.writesNames_default.writes, fun elements usage htuple e he => ?_⟩
  refine Printer.writesNames_default.writes (hnames n hn ?_ type ?_ ?_ e ?_)
  · rw [Node.kind, hhandler]
    rfl
  · exact Node.mem_children_of_shape hhandler List.mem_cons_self
  · rw [Node.kind, htuple]
    rfl
  · exact Node.mem_children_of_shape htuple he

theorem tryBlocks_reports_duplicates_namedSubject :
    (∀ n ∈ namedSubject.program.root.walk, n.HasExceptionTexts {}) ∧
    (Check.tryBlocks.judge namedSubject {}).1.fault = none ∧
    ∃ reported : Site → List String,
      (∀ past s rest, namedSubject.program.sites = past ++ s :: rest →
        reported s = if s.node.kind = .tryBlock then
          duplicateExceptions (tryBlocks.visit {} past).2.text s else []) ∧
      [Violation.duplicateException.atNode namedBlock "ValueError"] =
        namedSubject.program.sites.flatMap fun s =>
          (reported s).map fun (t : String) => Violation.duplicateException.atNode s.node t := by
  have htexts (n : Node) (hn : n ∈ namedSubject.program.root.walk) : n.HasExceptionTexts {} :=
    namedSubject_hasExceptionTexts hn
  obtain ⟨hends, hreported, -⟩ := tryBlocks_reports_duplicates namedSubject {} htexts
  exact ⟨htexts, hends, hreported⟩

/-- The exception `socket.timeout`. -/
def socketTimeout (id : Nat) (line : Int) : Node :=
  .mk id (some ⟨line, 7⟩) (.attr (.mk (id + 1) (some ⟨line, 7⟩) (.name "socket" (some .load)))
    "timeout" (some .load))

/-- Two handlers for `socket.timeout`. -/
def timeoutBlock : Node :=
  handledBlock (socketTimeout 7 3) (socketTimeout 9 5)

/-- The statement as a subject. -/
def timeoutSubject : Subject :=
  ⟨{ root := .mk 0 none (.file [timeoutBlock]), distinct := by decide }, [], "timeout.py", .initial⟩

/-- **The exception of a module is handled twice** without being reported. -/
theorem tryBlocks_misses_attributes :
    (timeoutSubject.program.root.top.under timeoutBlock).allCaught.map
      (fun c => Text.strip (({} : Rendered).text c)) = ["socket.timeout", "socket.timeout"] ∧
    (Check.tryBlocks.judge timeoutSubject {}).1.findings = [] := by
  refine ⟨rfl, rfl⟩

end Stricture
