import Stricture.Proofs.Evaluation.Agreement

/-!
# Outcomes of evaluations

To evaluate a container is to try one thing after the other: to read a part, or to take a value that
was read as a member or as a key. `Node.trials` lists what is tried, in order. The first trial that
fails decides, for both evaluators alike (`IsReader.failure?_eq`).

So it is a matter of the syntax whether an expression has a value (`HasValue`), what stops its
evaluation (`Fails`), and whether the value can be a member of a set (`Node.Changes`). The evaluator
is only asked about what is no container. The three are settled at once, by induction over the tree
(`IsReader.outcomes`).
-/

namespace Stricture

open Evaluation

/-! ### Trials -/

/-- A container that is written out. -/
def Node.isContainer (n : Node) : Bool :=
  n.isAny [.tuple, .list, .setOf, .dict]

/-- One step in the evaluation of a container. -/
inductive Trial where
  /-- A part is read. -/
  | reads (part : Node)
  /-- The value of a part becomes a member of a set, or a key. -/
  | keeps (part : Node)
  /-- A key is missing. -/
  | misses

/-- What is tried for one entry of a dictionary. -/
def Trial.ofEntry : Option Node × Node → List Trial
  | (none, _) => [misses]
  | (some key, value) => [reads key, reads value, keeps key]

/-- What is tried in order to evaluate a container. -/
def Node.trials (n : Node) : List Trial :=
  match n.shape with
  | .tuple elements _ | .list elements _ => elements.map .reads
  | .setOf elements => elements.flatMap fun c => [.reads c, .keeps c]
  | .dict keys values => (keys.zip values).flatMap Trial.ofEntry
  | _ => []

/-- An expression whose value may change, if it has one: a list, a set, a dictionary, the call that
makes an empty set, or a tuple that holds one of them at some depth. -/
inductive Node.Changes : Node → Prop
  | container {n : Node} (h : n.isAny [.list, .setOf, .dict, .call] = true) : n.Changes
  | tuple {n c : Node} {elements : List Node} {usage : Option Usage}
      (h : n.shape = .tuple elements usage) (hc : c ∈ elements) (hchanges : c.Changes) : n.Changes

/-- The expression has a value: everything that is tried goes well. `value` is only asked about what
is no container. -/
inductive HasValue (value : Node → Evaluation.Result) : Node → Prop
  | plain {n : Node} {v : Value} (h : n.isContainer = false) (hv : value n = .ok v) :
      HasValue value n
  | container {n : Node} (h : n.isContainer = true)
      (hreads : ∀ c, .reads c ∈ n.trials → HasValue value c)
      (hkeeps : ∀ c, .keeps c ∈ n.trials → ¬ c.Changes) (hmisses : .misses ∉ n.trials) :
      HasValue value n

/-- The trial goes well. -/
def Trial.Passes (value : Node → Evaluation.Result) : Trial → Prop
  | reads c => HasValue value c
  | keeps c => ¬ (HasValue value c ∧ c.Changes)
  | misses => False

/-- The evaluation of the expression fails, with the failure of the first trial that does not go
well. -/
inductive Fails (value : Node → Evaluation.Result) : Node → EvaluationError → Prop
  | plain {n : Node} {e : EvaluationError} (h : n.isContainer = false) (he : value n = .error e) :
      Fails value n e
  | reads {n c : Node} {e : EvaluationError} {before after : List Trial}
      (h : n.trials = before ++ .reads c :: after) (hbefore : ∀ t ∈ before, t.Passes value)
      (hc : Fails value c e) : Fails value n e
  | keeps {n c : Node} {before after : List Trial}
      (h : n.trials = before ++ .keeps c :: after) (hbefore : ∀ t ∈ before, t.Passes value)
      (hc : HasValue value c) (hchanges : c.Changes) : Fails value n .notKey
  | misses {n : Node} {before after : List Trial}
      (h : n.trials = before ++ .misses :: after) (hbefore : ∀ t ∈ before, t.Passes value) :
      Fails value n .notConstant

/-- The trial does not go well, with the given failure. -/
def Trial.Breaks (value : Node → Evaluation.Result) (e : EvaluationError) : Trial → Prop
  | reads c => Fails value c e
  | keeps c => e = .notKey ∧ HasValue value c ∧ c.Changes
  | misses => e = .notConstant

/-! ### The first failure -/

/-- How a computation failed. -/
def failure? {α : Type} : Except EvaluationError α → Option EvaluationError
  | .ok _ => none
  | .error e => some e

@[simp]
theorem failure?_ok {α : Type} (a : α) : failure? (.ok a) = none := rfl

@[simp]
theorem failure?_error {α : Type} (e : EvaluationError) :
    failure? (.error e : Except EvaluationError α) = some e := rfl

@[simp]
theorem failure?_map {α β : Type} (f : α → β) (r : Except EvaluationError α) :
    failure? (r.map f) = failure? r := by
  cases r <;> rfl

theorem failure?_eq_some_iff {α : Type} {r : Except EvaluationError α} {e : EvaluationError} :
    failure? r = some e ↔ r = .error e := by
  cases r <;> simp

theorem failure?_eq_none_iff {α : Type} {r : Except EvaluationError α} :
    failure? r = none ↔ ∃ a, r = .ok a := by
  cases r <;> simp

namespace Trial

variable {value : Node → Evaluation.Result}

/-- How a trial fails for an evaluator. -/
def failure? (value : Node → Evaluation.Result) : Trial → Option EvaluationError
  | reads c => Stricture.failure? (value c)
  | keeps c =>
    match value c with
    | .ok v => if v.isKey then none else some .notKey
    | .error _ => none
  | misses => some .notConstant

@[simp]
theorem failure?_misses : misses.failure? value = some .notConstant := rfl

@[simp]
theorem failure?_reads (c : Node) : (reads c).failure? value = Stricture.failure? (value c) := rfl

theorem failure?_keeps {c : Node} {v : Value} (h : value c = .ok v) :
    (keeps c).failure? value = if v.isKey then none else some .notKey := by
  simp only [failure?, h]

end Trial

section Collecting

variable {value : Node → Evaluation.Result}

theorem failure?_collect (elements : List Node) :
    failure? (collect (elements.map value)) =
      (elements.map Trial.reads).findSome? (Trial.failure? value) := by
  induction elements with
  | nil => rfl
  | cons c rest ih =>
    cases hc : value c with
    | error e => simp [collect, hc]
    | ok v => simp [collect, hc, ih]

theorem failure?_collectSet (members : List Value) (elements : List Node) :
    failure? (collectSet members (elements.map value)) =
      (elements.flatMap fun c => [.reads c, .keeps c]).findSome? (Trial.failure? value) := by
  induction elements generalizing members with
  | nil => rfl
  | cons c rest ih =>
    cases hc : value c with
    | error e => simp [collectSet, hc]
    | ok v =>
      have hkeeps := Trial.failure?_keeps hc
      by_cases hkey : v.isKey = true
      · simp [collectSet, hc, hkeeps, hkey, ih]
      · simp [collectSet, hc, hkeeps, hkey]

theorem failure?_collectDict (entries : List (Value × Value)) {keys : List (Option Node)}
    {values : List Node} (h : keys.length = values.length) :
    failure? (collectDict entries (keys.map (keyResult value)) (values.map value)) =
      ((keys.zip values).flatMap Trial.ofEntry).findSome? (Trial.failure? value) := by
  induction keys generalizing entries values with
  | nil => simp [collectDict]
  | cons key keys ih =>
    obtain ⟨item, values, rfl⟩ := List.exists_cons_of_length_eq_add_one h.symm
    have hlength : keys.length = values.length := Nat.succ.inj h
    cases key with
    | none => simp [collectDict, keyResult, Trial.ofEntry, List.findSome?_cons]
    | some k =>
      cases hk : value k with
      | error e => simp [collectDict, keyResult, hk, Trial.ofEntry]
      | ok v =>
        have hkeeps := Trial.failure?_keeps hk
        cases hitem : value item with
        | error e => simp [collectDict, keyResult, hk, hitem, Trial.ofEntry]
        | ok w =>
          by_cases hkey : v.isKey = true
          · simp [collectDict, keyResult, hk, hitem, hkeeps, hkey, Trial.ofEntry, ih _ hlength]
          · simp [collectDict, keyResult, hk, hitem, hkeeps, hkey, Trial.ofEntry]

theorem collect_eq_ok_iff {results : List Evaluation.Result} {vs : List Value} :
    collect results = .ok vs ↔ results = vs.map .ok := by
  fun_induction collect results generalizing vs with
  | case1 => cases vs <;> simp
  | case2 e rest => cases vs <;> simp
  | case3 v rest ih =>
    cases hrest : collect rest with
    | error e =>
      have hnone (ws : List Value) : rest ≠ ws.map .ok := by
        intro hws
        rw [ih.mpr hws] at hrest
        cases hrest
      cases vs with
      | nil => simp [Except.map]
      | cons w ws => simp [Except.map, hnone]
    | ok ws =>
      have hws := ih.mp hrest
      cases vs with
      | nil => simp [Except.map]
      | cons w us => simp [Except.map, hws, List.map_inj_right fun _ _ h => Except.ok.inj h]

end Collecting

/-- An evaluator that reads containers part by part. What else has a value can be a key, except for
the call that makes an empty set. -/
structure IsReader (value : Node → Evaluation.Result) : Prop where
  tuple {n : Node} {elements : List Node} {usage : Option Usage}
    (h : n.shape = .tuple elements usage) : value n = (collect (elements.map value)).map .tuple
  list {n : Node} {elements : List Node} {usage : Option Usage}
    (h : n.shape = .list elements usage) : value n = (collect (elements.map value)).map .list
  setOf {n : Node} {elements : List Node} (h : n.shape = .setOf elements) :
    value n = (collectSet [] (elements.map value)).map .setOf
  dict {n : Node} {keys : List (Option Node)} {values : List Node} (h : n.shape = .dict keys values)
    (hlength : keys.length = values.length) :
    value n = (collectDict [] (keys.map (keyResult value)) (values.map value)).map .dict
  plain {n : Node} {v : Value} (h : n.isContainer = false) (hv : value n = .ok v) :
    v.isKey = false ↔ n.kind = .call

/-! ### Containers and their trials -/

namespace Node

variable {n c : Node}

/-- The four shapes of containers. -/
theorem isContainer_cases (h : n.isContainer = true) :
    (∃ elements usage, n.shape = .tuple elements usage) ∨
      (∃ elements usage, n.shape = .list elements usage) ∨
      (∃ elements, n.shape = .setOf elements) ∨ ∃ keys values, n.shape = .dict keys values := by
  obtain ⟨id, position, shape⟩ := n
  cases shape with
  | tuple elements usage => exact .inl ⟨elements, usage, rfl⟩
  | list elements usage => exact .inr (.inl ⟨elements, usage, rfl⟩)
  | setOf elements => exact .inr (.inr (.inl ⟨elements, rfl⟩))
  | dict keys values => exact .inr (.inr (.inr ⟨keys, values, rfl⟩))
  | functionDef mode | forLoop mode | withBlock mode => cases mode <;> cases h
  | _ => cases h

theorem trials_eq_nil (h : n.isContainer = false) : n.trials = [] := by
  obtain ⟨id, position, shape⟩ := n
  cases shape with
  | tuple | list | setOf | dict => cases h
  | _ => rfl

theorem mem_children_of_ofEntry {keys : List (Option Node)} {values : List Node}
    (h : n.shape = .dict keys values) {entry : Option Node × Node}
    (hentry : entry ∈ keys.zip values)
    (hc : .reads c ∈ Trial.ofEntry entry ∨ .keeps c ∈ Trial.ofEntry entry) : c ∈ n.children := by
  obtain ⟨key, item⟩ := entry
  obtain ⟨hkey, hitem⟩ := List.of_mem_zip hentry
  rw [children, h]
  cases key with
  | none => simp [Trial.ofEntry] at hc
  | some k =>
    have hc' : c = k ∨ c = item := by
      simp [Trial.ofEntry] at hc
      tauto
    rcases hc' with rfl | rfl
    · exact List.mem_append_left _ (List.mem_filterMap.mpr ⟨some c, hkey, rfl⟩)
    · exact List.mem_append_right _ hitem

/-- What is tried concerns the children. -/
theorem mem_children_of_mem_trials (h : .reads c ∈ n.trials ∨ .keeps c ∈ n.trials) :
    c ∈ n.children := by
  by_cases hcontainer : n.isContainer = true
  · rcases isContainer_cases hcontainer with ⟨elements, usage, hshape⟩ | ⟨elements, usage, hshape⟩ |
      ⟨elements, hshape⟩ | ⟨keys, values, hshape⟩
    · simp only [trials, hshape, List.mem_map, reduceCtorEq, and_false, exists_false, or_false,
        Trial.reads.injEq, exists_eq_right] at h
      rwa [children, hshape]
    · simp only [trials, hshape, List.mem_map, reduceCtorEq, and_false, exists_false, or_false,
        Trial.reads.injEq, exists_eq_right] at h
      rwa [children, hshape]
    · simp [trials, hshape] at h
      rwa [children, hshape]
    · simp only [trials, hshape, List.mem_flatMap] at h
      rcases h with ⟨entry, hentry, hc⟩ | ⟨entry, hentry, hc⟩
      · exact mem_children_of_ofEntry hshape hentry (.inl hc)
      · exact mem_children_of_ofEntry hshape hentry (.inr hc)
  · rw [trials_eq_nil (Bool.eq_false_iff.mpr hcontainer)] at h
    rcases h with h | h <;> cases h

/-- Only what was read is kept. -/
theorem reads_mem_of_keeps_mem (h : .keeps c ∈ n.trials) : .reads c ∈ n.trials := by
  unfold trials at h ⊢
  split at h
  case h_1 | h_2 => simp at h
  case h_3 => simpa using h
  case h_4 =>
    obtain ⟨⟨key, item⟩, hentry, hc⟩ := List.mem_flatMap.mp h
    refine List.mem_flatMap.mpr ⟨⟨key, item⟩, hentry, ?_⟩
    cases key with
    | none => simp [Trial.ofEntry] at hc
    | some k =>
      simp only [Trial.ofEntry, List.mem_cons, reduceCtorEq, Trial.keeps.injEq, List.not_mem_nil,
        or_false, false_or] at hc
      simp [Trial.ofEntry, hc]
  case h_5 => cases h

end Node

section Trials

variable {value : Node → Evaluation.Result} {n : Node}

/-- A container has a value if everything that is tried goes well. -/
theorem hasValue_iff (h : n.isContainer = true) :
    HasValue value n ↔ ∀ t ∈ n.trials, t.Passes value := by
  constructor
  · rintro (⟨hplain, -⟩ | ⟨-, hreads, hkeeps, hmisses⟩) t ht
    · rw [h] at hplain
      cases hplain
    · cases t with
      | reads c => exact hreads c ht
      | keeps c => exact fun hc => hkeeps c ht hc.2
      | misses => exact hmisses ht
  · intro hall
    have hreads (c : Node) (hc : .reads c ∈ n.trials) : HasValue value c := hall (.reads c) hc
    refine .container h hreads (fun c hc hchanges => ?_) fun hmisses => hall .misses hmisses
    exact hall (.keeps c) hc ⟨hreads c (Node.reads_mem_of_keeps_mem hc), hchanges⟩

/-- The evaluation of a container fails with the first trial that does not go well. -/
theorem fails_iff (h : n.isContainer = true) {e : EvaluationError} :
    Fails value n e ↔ ∃ before t after, n.trials = before ++ t :: after ∧
      (∀ u ∈ before, u.Passes value) ∧ t.Breaks value e := by
  constructor
  · rintro (⟨hplain, -⟩ | ⟨hsplit, hbefore, hc⟩ | ⟨hsplit, hbefore, hc, hchanges⟩ |
      ⟨hsplit, hbefore⟩)
    · rw [h] at hplain
      cases hplain
    · exact ⟨_, _, _, hsplit, hbefore, hc⟩
    · exact ⟨_, _, _, hsplit, hbefore, rfl, hc, hchanges⟩
    · exact ⟨_, _, _, hsplit, hbefore, rfl⟩
  · rintro ⟨before, t, after, hsplit, hbefore, ht⟩
    cases t with
    | reads c => exact .reads hsplit hbefore ht
    | keeps c =>
      obtain ⟨rfl, hc, hchanges⟩ := ht
      exact .keeps hsplit hbefore hc hchanges
    | misses =>
      obtain rfl := ht
      exact .misses hsplit hbefore

end Trials

/-! ### Outcomes -/

theorem Value.allKeys_eq_false_iff {vs : List Value} :
    Value.allKeys vs = false ↔ ∃ v ∈ vs, v.isKey = false := by
  induction vs with
  | nil => simp [Value.allKeys]
  | cons v rest ih =>
    simp only [Value.allKeys, Bool.and_eq_false_iff, ih, List.mem_cons, exists_eq_or_imp]

/-- What an evaluation comes to is what the syntax says. -/
structure Outcomes (value : Node → Evaluation.Result) (n : Node) : Prop where
  hasValue : (∃ v, value n = .ok v) ↔ HasValue value n
  fails (e : EvaluationError) : value n = .error e ↔ Fails value n e
  changes {v : Value} (hv : value n = .ok v) : v.isKey = false ↔ n.Changes

namespace Outcomes

variable {value : Node → Evaluation.Result} {n c : Node}

/-- A part that was read is kept unless it changes. -/
theorem failure?_keeps_iff (h : Outcomes value c) {e : EvaluationError} :
    (Trial.keeps c).failure? value = some e ↔ (Trial.keeps c).Breaks value e := by
  rw [Trial.Breaks]
  cases hc : value c with
  | ok v =>
    have hvalue : HasValue value c := h.hasValue.mp ⟨v, hc⟩
    rw [Trial.failure?_keeps hc, and_iff_right hvalue, ← h.changes hc]
    cases v.isKey <;> simp [eq_comm]
  | error e' =>
    have hnone : ¬ HasValue value c := by
      rw [← h.hasValue, hc]
      simp
    simp [Trial.failure?, hc, hnone]

theorem failure?_eq_some_iff {t : Trial}
    (h : ∀ c, t = .reads c ∨ t = .keeps c → Outcomes value c) {e : EvaluationError} :
    t.failure? value = some e ↔ t.Breaks value e := by
  cases t with
  | reads c =>
    rw [Trial.failure?_reads, Stricture.failure?_eq_some_iff, (h c (.inl rfl)).fails]
    rfl
  | keeps c => exact (h c (.inr rfl)).failure?_keeps_iff
  | misses =>
    rw [Trial.failure?_misses, Option.some.injEq, eq_comm]
    rfl

theorem failure?_eq_none_iff {t : Trial}
    (h : ∀ c, t = .reads c ∨ t = .keeps c → Outcomes value c) :
    t.failure? value = none ↔ t.Passes value := by
  cases t with
  | reads c =>
    rw [Trial.failure?_reads, Stricture.failure?_eq_none_iff, (h c (.inl rfl)).hasValue]
    rfl
  | keeps c =>
    have hkeeps := @failure?_keeps_iff _ _ (h c (.inr rfl))
    rw [Trial.Passes, Option.eq_none_iff_forall_ne_some]
    constructor
    · intro hnone hc
      exact hnone _ (hkeeps.mpr ⟨rfl, hc⟩)
    · intro hc e he
      exact hc (hkeeps.mp he).2
  | misses => simp [Trial.Passes]

/-- What is no container has the outcome that the evaluator says. -/
theorem of_plain (hreader : IsReader value) (h : n.isContainer = false) : Outcomes value n where
  hasValue := by
    constructor
    · rintro ⟨v, hv⟩
      exact .plain h hv
    · rintro (⟨-, hv⟩ | ⟨hcontainer, -, -, -⟩)
      · exact ⟨_, hv⟩
      · rw [h] at hcontainer
        cases hcontainer
  fails e := by
    constructor
    · exact .plain h
    · intro hfails
      have hnil := Node.trials_eq_nil h
      cases hfails with
      | plain _ he => exact he
      | reads htrials | keeps htrials | misses htrials => simp [hnil] at htrials
  changes hv := by
    rw [hreader.plain h hv]
    constructor
    · intro hcall
      exact .container (by rw [Node.isAny, hcall]; rfl)
    · rintro (hkind | ⟨hshape, -, -⟩)
      · rw [Node.isContainer, Node.isAny] at h
        rw [Node.isAny] at hkind
        generalize n.kind = kind at h hkind ⊢
        revert h hkind
        cases kind <;> decide
      · rw [Node.isContainer, Node.isAny, Node.kind, hshape] at h
        cases h

end Outcomes

namespace IsReader

variable {value : Node → Evaluation.Result} {n : Node}

/-- **The first trial that fails decides** what the evaluation of a container comes to. -/
theorem failure?_eq (hreader : IsReader value) (h : n.isContainer = true)
    (hpaired : n.isPaired = true) :
    failure? (value n) = n.trials.findSome? (Trial.failure? value) := by
  rcases Node.isContainer_cases h with ⟨elements, usage, hshape⟩ | ⟨elements, usage, hshape⟩ |
    ⟨elements, hshape⟩ | ⟨keys, values, hshape⟩
  · rw [hreader.tuple hshape, failure?_map, failure?_collect, Node.trials, hshape]
  · rw [hreader.list hshape, failure?_map, failure?_collect, Node.trials, hshape]
  · rw [hreader.setOf hshape, failure?_map, failure?_collectSet, Node.trials, hshape]
  · have hlength : keys.length = values.length := by
      simpa [Node.isPaired, hshape] using hpaired
    rw [hreader.dict hshape hlength, failure?_map, failure?_collectDict [] hlength, Node.trials,
      hshape]

/-- The value of a tuple can be a key unless one of its parts cannot. -/
theorem changes_tuple (hreader : IsReader value) (hparts : ∀ c ∈ n.children, Outcomes value c)
    {elements : List Node} {usage : Option Usage} (h : n.shape = .tuple elements usage) {v : Value}
    (hv : value n = .ok v) : v.isKey = false ↔ n.Changes := by
  rw [hreader.tuple h] at hv
  cases hcollect : collect (elements.map value) with
  | error e =>
    rw [hcollect] at hv
    cases hv
  | ok vs =>
    rw [hcollect] at hv
    obtain rfl : Value.tuple vs = v := Except.ok.inj hv
    have hvalues : elements.map value = vs.map .ok := collect_eq_ok_iff.mp hcollect
    have hchildren : n.children = elements := by rw [Node.children, h]; rfl
    rw [Value.isKey, Value.allKeys_eq_false_iff]
    constructor
    · rintro ⟨w, hw, hkey⟩
      have hmem : .ok w ∈ elements.map value := hvalues ▸ List.mem_map_of_mem hw
      obtain ⟨c, hc, hcw⟩ := List.mem_map.mp hmem
      exact .tuple h hc (((hparts c (hchildren ▸ hc)).changes hcw).mp hkey)
    · rintro (hkind | ⟨hshape, hc, hchanges⟩)
      · rw [Node.isAny, Node.kind, h] at hkind
        cases hkind
      · obtain ⟨rfl, -⟩ := Shape.tuple.inj (h.symm.trans hshape)
        have hmem : value _ ∈ vs.map .ok := hvalues ▸ List.mem_map_of_mem hc
        obtain ⟨w, hw, hcw⟩ := List.mem_map.mp hmem
        exact ⟨w, hw, ((hparts _ (hchildren ▸ hc)).changes hcw.symm).mpr hchanges⟩

/-- The value of any other container cannot be a key. -/
theorem isKey_eq_false (hreader : IsReader value) (h : n.isAny [.list, .setOf, .dict] = true)
    (hpaired : n.isPaired = true) {v : Value} (hv : value n = .ok v) : v.isKey = false := by
  have hmade {α : Type} {r : Except EvaluationError α} {make : α → Value}
      (hmake : ∀ a, (make a).isKey = false) (hr : value n = r.map make) : v.isKey = false := by
    rw [hr] at hv
    cases r with
    | error e => cases hv
    | ok a => exact Except.ok.inj hv ▸ hmake a
  have hcontainer : n.isContainer = true := by
    rw [Node.isAny, List.contains_iff_mem] at h
    rw [Node.isContainer, Node.isAny, List.contains_iff_mem]
    exact List.mem_cons_of_mem _ h
  rcases Node.isContainer_cases hcontainer with ⟨elements, usage, hshape⟩ |
    ⟨elements, usage, hshape⟩ | ⟨elements, hshape⟩ | ⟨keys, values, hshape⟩
  · rw [Node.isAny, Node.kind, hshape] at h
    cases h
  · exact hmade (fun _ => rfl) (hreader.list hshape)
  · exact hmade (fun _ => rfl) (hreader.setOf hshape)
  · have hlength : keys.length = values.length := by
      simpa [Node.isPaired, hshape] using hpaired
    exact hmade (fun _ => rfl) (hreader.dict hshape hlength)

theorem changes_container (hreader : IsReader value) (hparts : ∀ c ∈ n.children, Outcomes value c)
    (h : n.isContainer = true) (hpaired : n.isPaired = true) {v : Value} (hv : value n = .ok v) :
    v.isKey = false ↔ n.Changes := by
  by_cases hmutable : n.isAny [.list, .setOf, .dict] = true
  · refine iff_of_true (hreader.isKey_eq_false hmutable hpaired hv) (.container ?_)
    simp only [Node.isAny, List.contains_iff_mem, List.mem_cons] at hmutable ⊢
    tauto
  · rcases Node.isContainer_cases h with ⟨elements, usage, hshape⟩ | ⟨elements, usage, hshape⟩ |
      ⟨elements, hshape⟩ | ⟨keys, values, hshape⟩
    · exact hreader.changes_tuple hparts hshape hv
    all_goals
      rw [Node.isAny, Node.kind, hshape] at hmutable
      exact absurd rfl hmutable

/-- **Outcomes.** If the dictionaries of an expression have as many values as keys, then its syntax
says whether it has a value, how its evaluation fails, and whether the value can be a key. -/
theorem outcomes (hreader : IsReader value) (hpaired : ∀ m ∈ n.walk, m.isPaired = true) :
    Outcomes value n := by
  induction n using Node.childInduction with
  | step n ih =>
    have hparts (c : Node) (hc : c ∈ n.children) : Outcomes value c :=
      ih c hc fun m hm => hpaired m (Node.mem_walk_of_mem_children hc hm)
    have hself : n.isPaired = true := hpaired n n.mem_walk_self
    by_cases hcontainer : n.isContainer = true
    case neg => exact .of_plain hreader (Bool.eq_false_iff.mpr hcontainer)
    case pos =>
      have hfirst := hreader.failure?_eq hcontainer hself
      have hpart (t : Trial) (ht : t ∈ n.trials) (c : Node) (hc : t = .reads c ∨ t = .keeps c) :
          Outcomes value c := by
        refine hparts c (Node.mem_children_of_mem_trials ?_)
        rcases hc with rfl | rfl
        · exact .inl ht
        · exact .inr ht
      have hpasses (t : Trial) (ht : t ∈ n.trials) :
          t.failure? value = none ↔ t.Passes value := Outcomes.failure?_eq_none_iff (hpart t ht)
      refine ⟨?_, fun e => ?_, hreader.changes_container hparts hcontainer hself⟩
      · rw [← failure?_eq_none_iff, hfirst, List.findSome?_eq_none_iff, hasValue_iff hcontainer]
        exact forall₂_congr hpasses
      · rw [← failure?_eq_some_iff, hfirst, List.findSome?_eq_some_iff, fails_iff hcontainer]
        refine exists₃_congr fun before t after => and_congr_right fun hsplit => ?_
        have ht : t ∈ n.trials := by rw [hsplit]; simp
        have hbefore (u : Trial) (hu : u ∈ before) : u ∈ n.trials := by
          rw [hsplit]
          exact List.mem_append_left _ hu
        rw [Outcomes.failure?_eq_some_iff (hpart t ht), and_comm]
        exact and_congr_left fun _ => forall₂_congr fun u hu => hpasses u (hbefore u hu)

end IsReader

/-! ### Both evaluators -/

theorem isKey_ofLiteral (literal : Literal) : (Value.ofLiteral literal).isKey = true := by
  cases literal <;> rfl

theorem isKey_of_applySign {op : UnaryOp} {v w : Value} (h : applySign op v = .ok w) :
    w.isKey = true := by
  cases v with
  | bool | int | float => exact Except.ok.inj h ▸ rfl
  | complex x y =>
    obtain rfl := Except.ok.inj h
    split <;> rfl
  | _ => cases h

theorem isKey_of_addImaginary {op : BinaryOp} {v w u : Value} (h : addImaginary op v w = .ok u) :
    u.isKey = true := by
  unfold addImaginary at h
  split at h
  case h_1 => cases h
  case h_2 => split at h <;> exact Except.ok.inj h ▸ rfl
  case h_3 => cases h

theorem isKey_of_plainNumber {n : Node} {v : Value} (h : plainNumber n = .ok v) :
    v.isKey = true := by
  rcases plainNumber_cases n with hn | ⟨literal, -, -, hn⟩
  · rw [hn] at h
    cases h
  · rw [hn] at h
    exact Except.ok.inj h ▸ isKey_ofLiteral literal

theorem eq_ok_of_bind {α β : Type} {r : Except EvaluationError α}
    {next : α → Except EvaluationError β} {b : β} (h : r.bind next = .ok b) :
    ∃ a, r = .ok a ∧ next a = .ok b := by
  cases r with
  | error e => cases h
  | ok a => exact ⟨a, rfl, h⟩

/-- What a sign gives is a key, whatever stands after it. -/
theorem isKey_of_signed {r : Evaluation.Result} {op : UnaryOp} {v : Value}
    (h : (if isSign op then r.bind (applySign op) else .error .notConstant) = .ok v) :
    v.isKey = true := by
  split at h
  case isTrue =>
    obtain ⟨w, -, hw⟩ := eq_ok_of_bind h
    exact isKey_of_applySign hw
  case isFalse => cases h

/-- What a sum gives is a key, whatever its parts are. -/
theorem isKey_of_sum {a b : Evaluation.Result} {op : BinaryOp} {v : Value}
    (h : (if op = .add ∨ op = .sub then a.bind fun x => b.bind fun y => addImaginary op x y
      else .error .notConstant) = .ok v) : v.isKey = true := by
  split at h
  case isTrue =>
    obtain ⟨x, -, hx⟩ := eq_ok_of_bind h
    obtain ⟨y, -, hy⟩ := eq_ok_of_bind hx
    exact isKey_of_addImaginary hy
  case isFalse => cases h

theorem isKey_of_signedNumber {n : Node} {v : Value} (h : signedNumber n = .ok v) :
    v.isKey = true := by
  unfold signedNumber at h
  split at h
  case h_1 => exact isKey_of_signed h
  case h_2 => exact isKey_of_plainNumber h

theorem literalValue_isReader : IsReader Node.literalValue where
  tuple {n elements usage} h := by
    obtain ⟨id, position, shape⟩ := n
    obtain rfl : shape = .tuple elements usage := h
    rw [Node.literalValue, literalValues_eq_map]
  list {n elements usage} h := by
    obtain ⟨id, position, shape⟩ := n
    obtain rfl : shape = .list elements usage := h
    rw [Node.literalValue, literalValues_eq_map]
  setOf {n elements} h := by
    obtain ⟨id, position, shape⟩ := n
    obtain rfl : shape = .setOf elements := h
    rw [Node.literalValue, literalValues_eq_map]
  dict {n keys values} h hlength := by
    obtain ⟨id, position, shape⟩ := n
    obtain rfl : shape = .dict keys values := h
    rw [Node.literalValue, if_pos hlength, literalValues_eq_map, literalKeys_eq_map]
  plain {n v} h hv := by
    have hother (hkey : v.isKey = true) (hkind : n.kind ≠ .call) :
        v.isKey = false ↔ n.kind = .call := iff_of_false (by simp [hkey]) hkind
    have hsigned (hv : signedNumber n = .ok v) : v.isKey = true := isKey_of_signedNumber hv
    obtain ⟨id, position, shape⟩ := n
    cases shape with
    | tuple | list | setOf | dict => cases h
    | constant literal kind =>
      obtain rfl : Value.ofLiteral literal = v := Except.ok.inj hv
      exact hother (isKey_ofLiteral literal) fun hcall => by cases hcall
    | call func args keywords =>
      rw [Node.literalValue] at hv
      split at hv
      case isTrue => exact iff_of_true (Except.ok.inj hv ▸ rfl) rfl
      case isFalse => cases hv
    | binary left op right =>
      rw [Node.literalValue] at hv
      exact hother (isKey_of_sum hv) fun hcall => by cases hcall
    | functionDef mode | forLoop mode | withBlock mode => cases mode <;> cases hv
    | _ => exact hother (hsigned hv) fun hcall => by cases hcall

theorem isKey_of_plainOperand {n : Node} {v : Value} (h : plainOperand n = .ok v) :
    v.isKey = true := by
  unfold plainOperand at h
  split at h
  case h_1 => exact Except.ok.inj h ▸ rfl
  case h_2 =>
    split at h
    case isTrue => exact Except.ok.inj h ▸ isKey_ofLiteral _
    case isFalse => cases h
  case h_3 => exact Except.ok.inj h ▸ rfl
  case h_4 => cases h

theorem isKey_of_signedOperand {n : Node} {v : Value} (h : signedOperand n = .ok v) :
    v.isKey = true := by
  unfold signedOperand at h
  split at h
  case h_1 => exact isKey_of_signed h
  case h_2 => exact isKey_of_plainOperand h

theorem namedValue_isReader : IsReader Node.namedValue where
  tuple {n elements usage} h := by
    obtain ⟨id, position, shape⟩ := n
    obtain rfl : shape = .tuple elements usage := h
    rw [Node.namedValue, namedValues_eq_map]
  list {n elements usage} h := by
    obtain ⟨id, position, shape⟩ := n
    obtain rfl : shape = .list elements usage := h
    rw [Node.namedValue, namedValues_eq_map]
  setOf {n elements} h := by
    obtain ⟨id, position, shape⟩ := n
    obtain rfl : shape = .setOf elements := h
    rw [Node.namedValue, namedValues_eq_map]
  dict {n keys values} h _ := by
    obtain ⟨id, position, shape⟩ := n
    obtain rfl : shape = .dict keys values := h
    rw [Node.namedValue, namedValues_eq_map, namedKeys_eq_map]
  plain {n v} h hv := by
    have hother (hkey : v.isKey = true) (hkind : n.kind ≠ .call) :
        v.isKey = false ↔ n.kind = .call := iff_of_false (by simp [hkey]) hkind
    have hsigned (hv : signedOperand n = .ok v) : v.isKey = true := isKey_of_signedOperand hv
    obtain ⟨id, position, shape⟩ := n
    cases shape with
    | tuple | list | setOf | dict => cases h
    | constant literal kind =>
      obtain rfl : Value.ofLiteral literal = v := Except.ok.inj hv
      exact hother (isKey_ofLiteral literal) fun hcall => by cases hcall
    | call func args keywords => cases hv
    | binary left op right =>
      rw [Node.namedValue] at hv
      exact hother (isKey_of_sum hv) fun hcall => by cases hcall
    | functionDef mode | forLoop mode | withBlock mode => cases mode <;> cases hv
    | _ => exact hother (hsigned hv) fun hcall => by cases hcall

end Stricture
