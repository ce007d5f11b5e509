import Stricture.Check
import Stricture.Proofs.Scope.Store
import Stricture.Proofs.Tree.Ancestry
import Stricture.Proofs.Tree.Settle

/-!
# Programs that are checked in one session

What is remembered about bound names is never cleared: it is carried over from one program to the
next. Still no program can tell what was checked before it (`session_boundNames_eq_alone`).

The reason lies in the keys. A binding belongs to the nearest module, class or function around it,
and in a module everything but the module itself has one (`exists_key_eq_some`). So a program writes
under identities of its own nodes, and never under the key for names outside of all contexts, which
every program reads. Programs share no nodes, so what one of them wrote is foreign to the next.
-/

namespace Stricture

open Rules

/-! ### Sessions -/

/-- What is remembered after checks that are made one after the other. -/
def Subject.remember (subject : Subject) : Memory → List Check → Memory
  | memory, [] => memory
  | memory, check :: rest => subject.remember (check.judge subject memory).2 rest

/-- The subject with its positions corrected. -/
def Subject.settled (subject : Subject) : Subject :=
  .prepare subject.program subject.tokens subject.filename subject.options

/-- All checks on one subject after the other. What is remembered is carried over from each subject
to the next. -/
def session : Memory → List Subject → List (List Report) × Memory
  | memory, [] => ([], memory)
  | memory, subject :: rest =>
    let reports := subject.settled.examine memory Check.all
    let (others, last) := session (subject.settled.remember memory Check.all) rest
    (reports :: others, last)

/-- The report of one check among the reports of all checks. -/
def Check.reportIn (check : Check) (reports : List Report) : Option Report :=
  (Check.all.zip reports).lookup check

/-! ### Keys of events -/

theorem Shape.exists_eq_file {α : Type} {s : Shape α} (h : s.kind = .file) :
    ∃ body, s = .file body := by
  cases s with
  | file body => exact ⟨body, rfl⟩
  | functionDef mode | forLoop mode | withBlock mode => cases mode <;> cases h
  | _ => cases h

theorem bindingEvent?_eq_none_of_file {s : Site} (h : s.node.kind = .file) :
    bindingEvent? s = none := by
  obtain ⟨body, hshape⟩ := Shape.exists_eq_file h
  simp only [bindingEvent?, hshape]

/-- An event belongs to the site at which it is seen, or to the parent of a part of a statement. -/
theorem bindingEvent?_cases {s : Site} {e : BindingEvent} (h : bindingEvent? s = some e) :
    e.site = s ∨ s.parent? = some e.site ∧ s.node.kind.family ≠ .statement := by
  unfold bindingEvent? at h
  split at h
  case h_5 hshape | h_6 hshape =>
    obtain ⟨p, hp, rfl⟩ := Option.map_eq_some_iff.mp h
    refine Or.inr ⟨hp, ?_⟩
    rw [Node.kind, hshape]
    simp [Shape.kind, Kind.family]
  case h_10 => cases h
  all_goals
    obtain rfl := Option.some.inj h
    exact Or.inl rfl

namespace Program

variable {q : Program} {s : Site} {e : BindingEvent}

/-- Below a module everything belongs to a context of that module. -/
theorem exists_key_eq_some (hroot : q.root.kind = .file) (hs : s ∈ q.walk) (hne : s.above ≠ []) :
    ∃ i ∈ q.root.ids, Scopes.key s = some i := by
  have hcontext : q.root.isContext = true := by rw [Node.isContext, Node.isAny, hroot]; rfl
  cases hc : s.context? with
  | none =>
    -- the module itself stands above
    have hparent : s.parent? ≠ none := by
      obtain ⟨n, above⟩ := s
      cases above with
      | nil => exact absurd rfl hne
      | cons m rest => exact Option.some_ne_none _
    have habove : q.root.StandsAbove s.node := by
      have hmem := Node.mem_walk_iff_eq_or_standsAbove.mp (node_mem_walk hs)
      exact hmem.resolve_left fun h => hparent ((parent?_eq_none_iff hs).mpr h)
    have hnone := (closest?_eq_none_iff hs).mp hc q.root (Node.mem_walk_iff.mpr .refl) habove
    rw [hcontext] at hnone
    cases hnone
  | some c =>
    have hc' := ((closest?_eq_some_iff hs).mp hc).1
    exact ⟨c.id, id_mem_ids hc', by rw [Scopes.key, hc]; rfl⟩

/-- An event of a module is seen somewhere below the module. -/
theorem event_site (hm : q.root.IsModule) (he : e ∈ bindingEvents q) :
    e.site ∈ q.walk ∧ e.site.above ≠ [] := by
  obtain ⟨s, hs, h⟩ := List.mem_filterMap.mp he
  rw [← mem_walk_iff_mem_sites] at hs
  rcases bindingEvent?_cases h with heq | ⟨hparent, hpart⟩
  · rw [heq]
    refine ⟨hs, fun hnil => ?_⟩
    obtain ⟨n, above⟩ := s
    obtain rfl : above = [] := hnil
    have hroot : n = q.root := eq_root_of_above_nil hs
    rw [bindingEvent?_eq_none_of_file (hroot ▸ hm.1)] at h
    cases h
  · obtain ⟨n, above⟩ := s
    cases above with
    | nil => cases hparent
    | cons m rest =>
      obtain ⟨hmw, hn⟩ := parent_mem_walk hs
      have hsite : e.site = ⟨m, rest⟩ := (Option.some.inj hparent).symm
      rw [hsite]
      refine ⟨hmw, fun hnil => ?_⟩
      -- a part right below the module would be a statement
      obtain rfl : rest = [] := hnil
      rw [eq_root_of_above_nil hmw] at hn
      exact hpart (hm.2 _ (List.mem_map_of_mem hn))

/-- The keys that a site reads are its own contexts, and the key outside of all contexts. -/
theorem mem_readKeys (hs : s ∈ q.walk) {k : Option Nat} (hk : k ∈ Scopes.readKeys s) :
    k = none ∨ ∃ i ∈ q.root.ids, k = some i := by
  have hid {c : Node} (hc : c ∈ s.above) : c.id ∈ q.root.ids :=
    id_mem_ids ((mem_above_iff hs).mp hc).1
  rcases List.mem_cons.mp hk with rfl | hk
  · cases hc : s.context? with
    | none => exact Or.inl (by rw [Scopes.key, hc]; rfl)
    | some c =>
      refine Or.inr ⟨c.id, hid (List.mem_of_find?_eq_some hc), ?_⟩
      rw [Scopes.key, hc]; rfl
  · rcases List.mem_append.mp hk with hk | hk
    · obtain ⟨c, hc, rfl⟩ := List.mem_map.mp hk
      exact Or.inr ⟨c.id, hid (List.mem_of_mem_filter (List.mem_of_mem_drop hc)), rfl⟩
    · exact Or.inl (List.mem_singleton.mp hk)

end Program

/-! ### Checks and what they remember -/

theorem Check.order_judge (check : Check) (subject : Subject) (memory : Memory) :
    (check.judge subject memory).2.order = memory.order := by
  cases check <;> rfl

/-- Only one check looks at the bound names that are remembered, and no other check changes them. -/
theorem Check.scopes_judge_of_ne {check : Check} (h : check ≠ .boundNames) (subject : Subject)
    (memory : Memory) : (check.judge subject memory).2.scopes = memory.scopes := by
  cases check
  case boundNames => exact absurd rfl h
  all_goals rfl

namespace Subject

variable (subject : Subject)

theorem remember_append (memory : Memory) (before after : List Check) :
    subject.remember memory (before ++ after) =
      subject.remember (subject.remember memory before) after := by
  induction before generalizing memory with
  | nil => rfl
  | cons check rest ih => exact ih _

theorem order_remember (memory : Memory) (checks : List Check) :
    (subject.remember memory checks).order = memory.order := by
  induction checks generalizing memory with
  | nil => rfl
  | cons check rest ih => rw [remember, ih, Check.order_judge]

theorem scopes_remember_of_not_mem {checks : List Check} (h : .boundNames ∉ checks)
    (memory : Memory) : (subject.remember memory checks).scopes = memory.scopes := by
  induction checks generalizing memory with
  | nil => rfl
  | cons check rest ih =>
    rw [List.mem_cons, not_or] at h
    rw [remember, ih h.2, Check.scopes_judge_of_ne (Ne.symm h.1)]

/-- All checks together enter the events of the program once. -/
theorem scopes_remember_all (memory : Memory) :
    (subject.remember memory Check.all).scopes =
      (judgeEvents memory.order memory.scopes (bindingEvents subject.program)).2 := by
  have hsplit : Check.all = Check.all.takeWhile (· ≠ .boundNames) ++
      .boundNames :: (Check.all.dropWhile (· ≠ .boundNames)).tail := by decide
  rw [hsplit, remember_append, remember, scopes_remember_of_not_mem _ (by decide)]
  show (judgeEvents (subject.remember memory _).order (subject.remember memory _).scopes _).2 = _
  rw [scopes_remember_of_not_mem _ (by decide), order_remember]

/-- Whatever is checked before, the report on bound names is made from the names remembered at the
start. -/
theorem lookup_examine {checks : List Check} (h : .boundNames ∈ checks) (memory : Memory) :
    (checks.zip (subject.examine memory checks)).lookup .boundNames =
      some (.ofFindings
        (judgeEvents memory.order memory.scopes (bindingEvents subject.program)).1) := by
  induction checks generalizing memory with
  | nil => exact absurd h List.not_mem_nil
  | cons check rest ih =>
    rw [examine, List.zip_cons_cons]
    by_cases hc : check = .boundNames
    · subst hc
      rw [List.lookup_cons_self]
      rfl
    · have hrest := (List.mem_cons.mp h).resolve_left (Ne.symm hc)
      rw [List.lookup_cons, beq_false_of_ne (Ne.symm hc), ih hrest,
        Check.scopes_judge_of_ne hc, Check.order_judge]

theorem reportIn_examine (memory : Memory) :
    Check.boundNames.reportIn (subject.examine memory Check.all) =
      some (.ofFindings
        (judgeEvents memory.order memory.scopes (bindingEvents subject.program)).1) :=
  subject.lookup_examine (by decide) memory

end Subject

/-! ### Isolation -/

/-- Everything that is remembered belongs to nodes, and to none of the given subjects. -/
def Scopes.ForeignTo (scopes : Scopes) (subjects : List Subject) : Prop :=
  ∀ entry ∈ scopes.entries,
    ∃ i, entry.1 = some i ∧ ∀ subject ∈ subjects, i ∉ subject.program.root.ids

/-- No two of the subjects share a node. -/
def NoSharing (subjects : List Subject) : Prop :=
  subjects.Pairwise fun s t => s.program.root.ids.Disjoint t.program.root.ids

section Step

variable {scopes : Scopes} {subject : Subject} {rest : List Subject}

theorem Subject.settled_ids (subject : Subject) :
    subject.settled.program.root.ids = subject.program.root.ids :=
  subject.program.root.settle_ids

theorem Subject.settled_isModule (hm : subject.program.root.IsModule) :
    subject.settled.program.root.IsModule :=
  hm.settle

/-- What is foreign to a module stands under none of the keys that its events read. -/
theorem Scopes.ForeignTo.avoids (h : scopes.ForeignTo (subject :: rest))
    (hm : subject.program.root.IsModule) :
    ∀ e ∈ bindingEvents subject.settled.program, scopes.Avoids (Scopes.readKeys e.site) := by
  intro e he entry hentry hkey
  obtain ⟨i, hi, hforeign⟩ := h entry hentry
  have hsite := (Program.event_site (subject.settled_isModule hm) he).1
  rcases Program.mem_readKeys hsite hkey with hnone | ⟨j, hj, hsome⟩
  · rw [hi] at hnone
    cases hnone
  · rw [hi] at hsome
    obtain rfl := Option.some.inj hsome
    rw [subject.settled_ids] at hj
    exact hforeign subject List.mem_cons_self hj

/-- One subject: the events of a module find the same as if nothing was remembered. -/
theorem Scopes.ForeignTo.judgeEvents_eq (h : scopes.ForeignTo (subject :: rest))
    (hm : subject.program.root.IsModule) (order : NameOrder) :
    judgeEvents order scopes (bindingEvents subject.settled.program) =
      ((judgeEvents order {} (bindingEvents subject.settled.program)).1,
        scopes.append (judgeEvents order {} (bindingEvents subject.settled.program)).2) := by
  have hrun := judgeEvents_append order (h.avoids hm) {}
  rwa [Scopes.append_empty] at hrun

/-- One subject: what is remembered afterwards is foreign to the subjects that follow. -/
theorem Scopes.ForeignTo.step (h : scopes.ForeignTo (subject :: rest))
    (hm : subject.program.root.IsModule)
    (hdisjoint : ∀ t ∈ rest, subject.program.root.ids.Disjoint t.program.root.ids)
    (order : NameOrder) :
    (judgeEvents order scopes (bindingEvents subject.settled.program)).2.ForeignTo rest := by
  intro entry hentry
  rcases mem_entries_judgeEvents hentry with hold | ⟨e, he, hkey⟩
  · obtain ⟨i, hi, hforeign⟩ := h entry hold
    exact ⟨i, hi, fun t ht => hforeign t (List.mem_cons_of_mem _ ht)⟩
  · have hmodule := subject.settled_isModule hm
    obtain ⟨hsite, hne⟩ := Program.event_site hmodule he
    obtain ⟨i, hi, hsome⟩ := Program.exists_key_eq_some hmodule.1 hsite hne
    rw [subject.settled_ids] at hi
    exact ⟨i, hkey.trans hsome, fun t ht => hdisjoint t ht hi⟩

end Step

/-- A whole session, from any memory that is foreign to its subjects. -/
theorem session_of_foreignTo {memory : Memory} {subjects : List Subject}
    (h : memory.scopes.ForeignTo subjects)
    (hmodule : ∀ subject ∈ subjects, subject.program.root.IsModule) (hshare : NoSharing subjects) :
    (session memory subjects).1.map Check.boundNames.reportIn =
        subjects.map (fun subject =>
          some (Check.boundNames.judge subject.settled { order := memory.order }).1) ∧
      (session memory subjects).2.scopes.ForeignTo [] := by
  induction subjects generalizing memory with
  | nil => exact ⟨rfl, h⟩
  | cons subject rest ih =>
    have hm := hmodule subject List.mem_cons_self
    obtain ⟨hdisjoint, hrest⟩ := List.pairwise_cons.mp hshare
    have hscopes := subject.settled.scopes_remember_all memory
    have hstep := h.step hm hdisjoint memory.order
    rw [← hscopes] at hstep
    obtain ⟨hreports, hlast⟩ := ih hstep (fun t ht => hmodule t (List.mem_cons_of_mem _ ht)) hrest
    have hreport := subject.settled.reportIn_examine memory
    rw [h.judgeEvents_eq hm] at hreport
    rw [Subject.order_remember] at hreports
    refine ⟨?_, hlast⟩
    simp only [session, List.map_cons, hreport, hreports]
    rfl

/-- **Programs do not see each other.** In a session over any number of modules that share no nodes,
the report on the bound names of each is the report that it gets alone, from an empty memory; and
nothing is ever remembered under the key that stands for no context. -/
theorem session_boundNames_eq_alone (subjects : List Subject) (order : NameOrder)
    (hmodule : ∀ subject ∈ subjects, subject.program.root.IsModule) (hshare : NoSharing subjects) :
    (session { order } subjects).1.map Check.boundNames.reportIn =
        subjects.map (fun subject => some (Check.boundNames.judge subject.settled { order }).1) ∧
      ∀ entry ∈ (session { order } subjects).2.scopes.entries, entry.1 ≠ none := by
  have hempty : Scopes.ForeignTo ({ order } : Memory).scopes subjects := by
    intro entry hentry
    exact absurd hentry List.not_mem_nil
  obtain ⟨hreports, hlast⟩ := session_of_foreignTo hempty hmodule hshare
  refine ⟨hreports, fun entry hentry hnone => ?_⟩
  obtain ⟨i, hi, _⟩ := hlast entry hentry
  rw [hnone] at hi
  cases hi

/-- A module that binds a name. -/
def bindingModule : Program where
  root :=
    .mk 0 none (.file [
      .mk 1 (some ⟨1, 0⟩) (.assign [.mk 2 (some ⟨1, 0⟩) (.name "count" (some .store))]
        (.mk 3 (some ⟨1, 8⟩) (.constant (.int 1) none)))])
  distinct := by decide

/-- A module with a function whose parameters are that name and a name of the module itself. Only
the latter hides a name. -/
def hidingModule : Program where
  root :=
    .mk 10 none (.file [
      .mk 11 (some ⟨1, 0⟩) (.assign [.mk 12 (some ⟨1, 0⟩) (.name "total" (some .store))]
        (.mk 13 (some ⟨1, 8⟩) (.constant (.int 1) none))),
      .mk 14 (some ⟨2, 0⟩) (.functionDef .plain "add"
        (.mk 15 none (.params []
          [.mk 16 (some ⟨2, 8⟩) (.param "count" none), .mk 17 (some ⟨2, 15⟩) (.param "total" none)]
          none [] [] none []))
        [.mk 18 (some ⟨3, 4⟩) .passed] [] none)])
  distinct := by decide

/-- The two modules, one after the other. -/
def hidingSession : List Subject :=
  [⟨bindingModule, [], "counts.py", .initial⟩, ⟨hidingModule, [], "totals.py", .initial⟩]

theorem session_boundNames_hidingSession :
    ((∀ subject ∈ hidingSession, subject.program.root.IsModule) ∧ NoSharing hidingSession) ∧
      (session {} hidingSession).1.map Check.boundNames.reportIn =
        hidingSession.map (fun subject => some (Check.boundNames.judge subject.settled {}).1) ∧
      ∀ entry ∈ (session {} hidingSession).2.scopes.entries, entry.1 ≠ none := by
  have hmodule : ∀ subject ∈ hidingSession, subject.program.root.IsModule := by
    intro subject hs
    rcases List.mem_pair.mp hs with rfl | rfl
    · exact of_decide_eq_true rfl
    · exact of_decide_eq_true rfl
  have hshare : NoSharing hidingSession := by
    have hids : ∀ i ∈ bindingModule.root.ids, i ∉ hidingModule.root.ids := by decide
    exact List.pairwise_pair.mpr fun i hi hj => hids i hi hj
  exact ⟨⟨hmodule, hshare⟩, session_boundNames_eq_alone hidingSession .sorted hmodule hshare⟩

end Stricture
