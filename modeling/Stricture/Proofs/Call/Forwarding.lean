import Mathlib.Data.List.Perm.Subperm
import Stricture.Tree.Signature

/-!
# Calls that forward a signature

A function whose only work is a call with all of its parameters could be that call. What such a call
looks like is said here argument by argument (`CallParts.IsProxyFor`). The test for it has four
parts that look at starred, spread, positional and keyword arguments, each on its own
(`forwards_iff`, `matchPositional_iff`, `sameKeywords_iff`).

Two things keep the test from being exact. It does not look at parameters that are only given by
position, and of several starred or spread arguments only the last one is compared with the
parameter that collects the rest. Apart from these it is sound and complete.
-/

namespace Stricture

/-! ### What a call passes on -/

/-- A variable that a call passes on. -/
inductive Passing where
  /-- By position: `x`. -/
  | plain (name : String)
  /-- With a star: `*x`. -/
  | starred (name : String)
  /-- Under its own name: `x=x`. -/
  | keyword (name : String)
  /-- With two stars: `**x`. -/
  | spread (name : String)
  deriving DecidableEq

/-- What an argument without a keyword passes on, if it is no other expression. -/
def Node.passing? (a : Node) : Option Passing :=
  match a.shape with
  | .name name _ => some (.plain name)
  | .starred value _ => value.name?.map .starred
  | _ => none

/-- What a keyword argument passes on, if it is nothing but a variable under its name. -/
def keywordPassing? : Option String × Node → Option Passing
  | (some name, value) => if value.name? = some name then some (.keyword name) else none
  | (none, value) => value.name?.map .spread

/-- The arguments of a call pass on variables and nothing else: some by position, then some with a
star; some under their names and some with two stars, in any order. -/
structure CallParts.PassesOn (c : CallParts) (plain starred keyword spread : List String) :
    Prop where
  args : c.args.map Node.passing? =
    (plain.map Passing.plain ++ starred.map Passing.starred).map some
  keywords : (c.named.map keywordPassing?).Perm
    ((keyword.map Passing.keyword ++ spread.map Passing.spread).map some)

instance (c : CallParts) (plain starred keyword spread : List String) :
    Decidable (c.PassesOn plain starred keyword spread) :=
  decidable_of_iff (_ ∧ _) ⟨fun h => ⟨h.1, h.2⟩, fun h => ⟨h.args, h.keywords⟩⟩

/-- The names under which parameters are given by position. The object or class of a method, which
comes first, is not given at all. -/
def Signature.givenNames (g : Signature) (parameters : List Node) : List String :=
  match parameters.map Node.paramName with
  | first :: rest =>
    if g.isLambda = false ∧ (first = "self" ∨ first = "cls" ∨ first = "mcs") then rest
    else first :: rest
  | [] => []

/-- The call passes on all parameters of a signature, each of them once, and nothing else. -/
def CallParts.IsProxyFor (c : CallParts) (g : Signature) : Prop :=
  c.PassesOn (g.givenNames (g.positionalOnly ++ g.positional))
    (g.variadic.toList.map Node.paramName) (g.keywordOnly.map Node.paramName)
    (g.variadicKeyword.toList.map Node.paramName)

instance (c : CallParts) (g : Signature) : Decidable (c.IsProxyFor g) :=
  inferInstanceAs (Decidable (c.PassesOn _ _ _ _))

/-! ### Lists of options -/

/-- Two ways to read the members of a list agree if they agree on every member. -/
theorem map_eq_map_some_iff {α β γ : Type} {f : α → Option β} {g : α → Option γ} {k : γ → β}
    {l : List α} (h : ∀ a ∈ l, ∀ x, f a = some (k x) ↔ g a = some x) {xs : List γ} :
    l.map f = (xs.map k).map some ↔ l.map g = xs.map some := by
  induction l generalizing xs with
  | nil => simp
  | cons a l ih =>
    obtain ⟨ha, hl⟩ := List.forall_mem_cons.mp h
    cases xs with
    | nil => simp
    | cons x xs => simp only [List.map_cons, List.cons.injEq, ha, ih hl]

/-- If no member is left out, reading a list keeps its length. -/
theorem map_eq_map_filterMap {α β : Type} {f : α → Option β} {l : List α}
    (h : ∀ a ∈ l, (f a).isSome = true) : l.map f = (l.filterMap f).map some := by
  induction l with
  | nil => rfl
  | cons a l ih =>
    obtain ⟨ha, hl⟩ := List.forall_mem_cons.mp h
    obtain ⟨x, hx⟩ := Option.isSome_iff_exists.mp ha
    rw [List.map_cons, ih hl, List.filterMap_cons_some hx, List.map_cons, hx]

theorem isSome_of_map_eq {α β : Type} {f : α → Option β} {l : List α} {xs : List β}
    (h : l.map f = xs.map some) : ∀ a ∈ l, (f a).isSome = true := by
  intro a ha
  have hmem : f a ∈ xs.map some := h ▸ List.mem_map_of_mem ha
  obtain ⟨x, -, hx⟩ := List.mem_map.mp hmem
  rw [← hx]
  rfl

/-! ### Starred and spread arguments -/

/-- Spread values forward a parameter: they are variables, and the last one is the parameter, which
has a name. Without a parameter there is no value. -/
theorem forwards_iff {parameter : Option Node} {values : List Node} :
    CallParts.forwards parameter values = true ↔
      ∃ names : List String, values.map Node.name? = names.map some ∧
        names.getLast? = parameter.map Node.paramName ∧ parameter.map Node.paramName ≠ some "" := by
  have hlast {names : List String} (h : values.map Node.name? = names.map some) :
      values.getLast?.bind Node.name? = names.getLast? := by
    have hboth := congrArg List.getLast? h
    rw [List.getLast?_map, List.getLast?_map] at hboth
    cases hv : values.getLast? <;> cases hn : names.getLast? <;> simp_all
  unfold CallParts.forwards
  rw [Bool.and_eq_true, List.all_eq_true]
  constructor
  · rintro ⟨hnames, hmatch⟩
    have hmap := map_eq_map_filterMap hnames
    refine ⟨values.filterMap Node.name?, hmap, ?_⟩
    rw [hlast hmap] at hmatch
    split at hmatch <;> simp_all
  · rintro ⟨names, hmap, heq, hne⟩
    refine ⟨isSome_of_map_eq hmap, ?_⟩
    rw [hlast hmap, heq]
    cases parameter <;> simp_all

/-! ### Positional arguments -/

section Positional

variable {a : Node} {args parameters : List Node}

theorem Node.passing?_eq_plain_iff {name : String} :
    a.passing? = some (.plain name) ↔ a.name? = some name := by
  unfold passing? name?
  split <;> simp_all

theorem Node.passing?_eq_starred_iff {name : String} :
    a.passing? = some (.starred name) ↔ a.starredValue?.bind Node.name? = some name := by
  unfold passing? starredValue?
  split <;> simp_all

theorem Node.starredValue?_eq_none {name : String} (h : a.name? = some name) :
    a.starredValue? = none := by
  unfold name? at h
  unfold starredValue?
  split at h <;> simp_all

theorem Signature.map_paramName_withoutSpecial (g : Signature) :
    g.withoutSpecial.map Node.paramName = g.givenNames g.positional := by
  unfold withoutSpecial givenNames
  cases g.positional with
  | nil => rfl
  | cons first rest =>
    simp only [List.map_cons]
    by_cases hlambda : g.isLambda = true
    · simp [hlambda]
    · by_cases hspecial : first.paramName ∈ specialParameters
      · simp_all [specialParameters]
      · simp_all [specialParameters]

/-- Positional arguments are the parameters, and behind them stand starred arguments only. -/
theorem matchPositional_iff :
    CallParts.matchPositional args parameters = true ↔
      ∃ plain starred, args = plain ++ starred ∧
        plain.map Node.name? = (parameters.map Node.paramName).map some ∧
        ∀ a ∈ starred, a.starredValue?.isSome = true := by
  induction args generalizing parameters with
  | nil =>
    cases parameters with
    | nil => exact iff_of_true rfl ⟨[], [], rfl, rfl, by simp⟩
    | cons p rest => simp [CallParts.matchPositional]
  | cons a args ih =>
    cases parameters with
    | nil =>
      rw [CallParts.matchPositional, Bool.and_eq_true, ih]
      constructor
      · rintro ⟨ha, plain, starred, rfl, hplain, hstarred⟩
        obtain rfl : plain = [] := by simpa using hplain
        exact ⟨[], a :: starred, rfl, rfl, by simpa [ha] using hstarred⟩
      · rintro ⟨plain, starred, heq, hplain, hstarred⟩
        obtain rfl : plain = [] := by simpa using hplain
        obtain rfl : a :: args = starred := heq
        obtain ⟨ha, hrest⟩ := List.forall_mem_cons.mp hstarred
        exact ⟨ha, [], args, rfl, rfl, hrest⟩
    | cons p rest =>
      rw [CallParts.matchPositional, Bool.and_eq_true, beq_iff_eq, ih]
      constructor
      · rintro ⟨ha, plain, starred, rfl, hplain, hstarred⟩
        exact ⟨a :: plain, starred, rfl, by simp [ha, hplain], hstarred⟩
      · rintro ⟨plain, starred, heq, hplain, hstarred⟩
        cases plain with
        | nil => simp at hplain
        | cons b plain =>
          obtain ⟨rfl, rfl⟩ := List.cons.inj heq
          rw [List.map_cons, List.map_cons, List.map_cons, List.cons.injEq] at hplain
          exact ⟨hplain.1, plain, starred, rfl, hplain.2, hstarred⟩

/-- Starred arguments pass on variables. -/
theorem map_passing?_eq_starred_iff {starred : List Node} {names : List String} :
    starred.map Node.passing? = (names.map Passing.starred).map some ↔
      (∀ a ∈ starred, a.starredValue?.isSome = true) ∧
        (starred.filterMap Node.starredValue?).map Node.name? = names.map some := by
  have hvalues (h : ∀ a ∈ starred, a.starredValue?.isSome = true) :
      (starred.filterMap Node.starredValue?).map Node.name? =
        starred.map fun a => a.starredValue?.bind Node.name? := by
    have hall := congrArg (List.map fun v : Option Node => v.bind Node.name?)
      (map_eq_map_filterMap h)
    simpa [List.map_map, Function.comp_def] using hall.symm
  rw [map_eq_map_some_iff fun a _ x => Node.passing?_eq_starred_iff]
  constructor
  · intro h
    have hsome : ∀ a ∈ starred, a.starredValue?.isSome = true := fun a ha =>
      Option.isSome_of_isSome_bind (isSome_of_map_eq h a ha)
    exact ⟨hsome, (hvalues hsome).trans h⟩
  · rintro ⟨hsome, h⟩
    exact (hvalues hsome).symm.trans h

/-- The two tests of arguments without a keyword: these pass on the positional parameters, and then
variables with a star, the last of which is the parameter that collects the rest. -/
theorem samePositional_and_sameVariadic_iff {c : CallParts} {g : Signature} :
    c.samePositional g = true ∧ c.sameVariadic g = true ↔
      ∃ starred : List String,
        c.args.map Node.passing? =
          ((g.givenNames g.positional).map Passing.plain ++ starred.map Passing.starred).map some ∧
        starred.getLast? = g.variadic.map Node.paramName ∧
        g.variadic.map Node.paramName ≠ some "" := by
  -- variables without a star have no value behind one
  have hplain {plain : List Node} {names : List String}
      (h : plain.map Node.name? = names.map some) : plain.filterMap Node.starredValue? = [] := by
    refine List.filterMap_eq_nil_iff.mpr fun a ha => ?_
    obtain ⟨name, hname⟩ := Option.isSome_iff_exists.mp (isSome_of_map_eq h a ha)
    exact Node.starredValue?_eq_none hname
  rw [CallParts.samePositional, CallParts.sameVariadic, matchPositional_iff, forwards_iff,
    g.map_paramName_withoutSpecial]
  constructor
  · rintro ⟨⟨plain, starred, hargs, hgiven, hstarred⟩, names, hnames, hlast⟩
    rw [hargs, List.filterMap_append, hplain hgiven, List.nil_append] at hnames
    refine ⟨names, ?_, hlast⟩
    rw [hargs, List.map_append, List.map_append,
      (map_eq_map_some_iff fun a _ x => Node.passing?_eq_plain_iff).mpr hgiven,
      map_passing?_eq_starred_iff.mpr ⟨hstarred, hnames⟩]
  · rintro ⟨names, hargs, hlast⟩
    rw [List.map_append] at hargs
    obtain ⟨plain, starred, hsplit, hgiven, hnames⟩ := List.map_eq_append_iff.mp hargs
    rw [map_eq_map_some_iff fun a _ x => Node.passing?_eq_plain_iff] at hgiven
    obtain ⟨hstarred, hvalues⟩ := map_passing?_eq_starred_iff.mp hnames
    refine ⟨⟨plain, starred, hsplit, hgiven, hstarred⟩, names, ?_, hlast⟩
    rw [hsplit, List.filterMap_append, hplain hgiven, List.nil_append, hvalues]

end Positional

/-! ### Keyword arguments -/

/-- The name that is passed on under itself. -/
def Passing.keywordName? : Passing → Option String
  | keyword name => some name
  | _ => none

/-- The name that is passed on with two stars. -/
def Passing.spreadName? : Passing → Option String
  | spread name => some name
  | _ => none

theorem keywordPassing?_eq_keyword_iff {e : Option String × Node} {name : String} :
    keywordPassing? e = some (.keyword name) ↔
      (if e.1 = e.2.name? then e.1 else none) = some name := by
  obtain ⟨given, value⟩ := e
  cases given with
  | none => simp [keywordPassing?]
  | some x =>
    by_cases h : value.name? = some x
    · simp [keywordPassing?, h]
    · simp [keywordPassing?, h, Ne.symm h]

namespace CallParts

variable {c : CallParts} {names keyword spread : List String}

/-- The values of the keyword arguments with two stars. -/
def spreadValues (c : CallParts) : List Node :=
  c.named.filterMap fun (name, value) => if name.isNone then some value else none

theorem spreadValues_eq (c : CallParts) :
    c.spreadValues = (c.named.filter fun e => !e.1.isSome).map Prod.snd := by
  unfold spreadValues
  induction c.named with
  | nil => rfl
  | cons e rest ih =>
    obtain ⟨_ | _, value⟩ := e <;> simpa using ih

/-- Keyword arguments with two stars pass on variables. -/
theorem map_keywordPassing?_eq_spread_iff :
    (c.named.filter fun e => !e.1.isSome).map keywordPassing? =
        (names.map Passing.spread).map some ↔
      c.spreadValues.map Node.name? = names.map some := by
  rw [spreadValues_eq, List.map_map (f := Prod.snd)]
  apply map_eq_map_some_iff
  rintro ⟨_ | given, value⟩ he x
  · simp [keywordPassing?]
  · simp at he

/-- If all values with two stars are variables, what is left are the arguments with a name. -/
theorem ownKeywords_eq (h : c.spreadValues.map Node.name? = names.map some) :
    c.ownKeywords = c.named.filter fun e => e.1.isSome := by
  apply List.filter_congr
  rintro ⟨_ | given, value⟩ he
  · have hvalue : value ∈ c.spreadValues := by
      rw [spreadValues_eq]
      exact List.mem_map.mpr ⟨(none, value), List.mem_filter.mpr ⟨he, rfl⟩, rfl⟩
    simp [isSome_of_map_eq h value hvalue]
  · simp

/-- A variable that is passed on under its own name has a name in the call. -/
theorem passedOn_eq (c : CallParts) :
    c.passedOn = (c.named.filter fun e => e.1.isSome).filterMap
      fun e => if e.1 = e.2.name? then e.1 else none := by
  rw [List.filterMap_filter]
  apply List.filterMap_congr
  rintro ⟨_ | given, value⟩ -
  · simp
  · simp

/-- Arguments with a name pass on variables under their own names. -/
theorem map_keywordPassing?_perm_iff :
    ((c.named.filter fun e => e.1.isSome).map keywordPassing?).Perm
        ((keyword.map Passing.keyword).map some) ↔
      c.passedOn.Perm keyword ∧ (c.named.filter fun e => e.1.isSome).length = keyword.length := by
  have hread : c.passedOn = ((c.named.filter fun e => e.1.isSome).map keywordPassing?).filterMap
      fun passing => passing.bind Passing.keywordName? := by
    rw [passedOn_eq, List.filterMap_map]
    apply List.filterMap_congr
    rintro ⟨_ | given, value⟩ he
    · simp at he
    · by_cases h : value.name? = some given
      · simp [keywordPassing?, h, Passing.keywordName?]
      · simp [keywordPassing?, h, Ne.symm h]
  constructor
  · intro h
    refine ⟨?_, by simpa using h.length_eq⟩
    have hnames := h.filterMap fun passing => passing.bind Passing.keywordName?
    rw [← hread] at hnames
    simpa [List.filterMap_map, Function.comp_def, Passing.keywordName?] using hnames
  · rintro ⟨hperm, hlength⟩
    rw [← hperm.length_eq, passedOn_eq] at hlength
    -- nothing is left out, so every argument with a name passes on a variable
    have hall := map_eq_map_filterMap (List.filterMap_length_eq_length.mp hlength.symm)
    rw [← passedOn_eq] at hall
    rw [(map_eq_map_some_iff fun e _ x => keywordPassing?_eq_keyword_iff).mpr hall]
    exact (hperm.map _).map _

/-- Keyword arguments of both sorts together. -/
theorem keywords_perm_iff (h : c.spreadValues.map Node.name? = names.map some) :
    (c.named.map keywordPassing?).Perm
        ((keyword.map Passing.keyword ++ names.map Passing.spread).map some) ↔
      c.passedOn.Perm keyword ∧ c.ownKeywords.length = keyword.length := by
  have hsplit : (c.named.map keywordPassing?).Perm
      ((c.named.filter fun e => e.1.isSome).map keywordPassing? ++
        (names.map Passing.spread).map some) := by
    rw [← map_keywordPassing?_eq_spread_iff.mpr h, ← List.map_append]
    exact (List.filter_append_perm _ _).symm.map _
  rw [ownKeywords_eq h, ← map_keywordPassing?_perm_iff, List.map_append, hsplit.congr_left]
  exact List.perm_append_right_iff _

/-- If the keyword arguments pass on variables, those with two stars do. -/
theorem exists_spread_of_perm
    (h : (c.named.map keywordPassing?).Perm
      ((keyword.map Passing.keyword ++ spread.map Passing.spread).map some)) :
    ∃ names : List String,
      c.spreadValues.map Node.name? = names.map some ∧ names.Perm spread := by
  have hsome : ∀ e ∈ c.named, (keywordPassing? e).isSome = true := by
    intro e he
    have hmem := h.subset (List.mem_map_of_mem he)
    obtain ⟨passing, -, heq⟩ := List.mem_map.mp hmem
    rw [← heq]
    rfl
  have hvalues : ∀ v ∈ c.spreadValues, v.name?.isSome = true := by
    intro v hv
    rw [spreadValues_eq] at hv
    obtain ⟨⟨_ | given, value⟩, he, rfl⟩ := List.mem_map.mp hv
    · simpa [keywordPassing?] using hsome _ (List.mem_of_mem_filter he)
    · simp at he
  refine ⟨_, map_eq_map_filterMap hvalues, ?_⟩
  have hread : c.spreadValues.filterMap Node.name? =
      (c.named.map keywordPassing?).filterMap fun passing => passing.bind Passing.spreadName? := by
    rw [spreadValues, List.filterMap_filterMap, List.filterMap_map]
    apply List.filterMap_congr
    rintro ⟨_ | given, value⟩ -
    · cases hname : value.name? <;> simp [keywordPassing?, hname, Passing.spreadName?]
    · by_cases hname : value.name? = some given <;>
        simp [keywordPassing?, hname, Passing.spreadName?]
  have hnames := h.filterMap fun passing => passing.bind Passing.spreadName?
  rw [← hread] at hnames
  simpa [List.filterMap_map, List.filterMap_append, Function.comp_def, Passing.spreadName?]
    using hnames

/-- The test of keyword arguments: no parameter is missing, and the numbers are right. -/
theorem sameKeywords_iff {g : Signature} :
    c.sameKeywords g = true ↔ (g.keywordOnly.map Node.paramName) ⊆ c.passedOn ∧
      c.ownKeywords.length = (g.keywordOnly.map Node.paramName).length := by
  simp [sameKeywords, List.subset_def]

/-- If parameters have different names and none of them is missing, there is no room for another
argument. -/
theorem passedOn_perm (hkeyword : keyword.Nodup) (hsub : keyword ⊆ c.passedOn)
    (hlength : c.ownKeywords.length = keyword.length)
    (h : c.spreadValues.map Node.name? = names.map some) : c.passedOn.Perm keyword := by
  have hle : c.passedOn.length ≤ keyword.length := by
    rw [← hlength, ownKeywords_eq h, passedOn_eq]
    exact List.length_filterMap_le _ _
  exact ((hkeyword.subperm hsub).perm_of_length_le hle).symm

end CallParts

/-! ### The test as a whole -/

/-- Names that are passed on with stars stand for a parameter that collects arguments: there is such
a name exactly if there is such a parameter, and if there is only one name, it is that of the
parameter. -/
structure StandFor (names : List String) (parameter : Option Node) : Prop where
  nil_iff : names = [] ↔ parameter = none
  eq_of_length_le : names.length ≤ 1 → names = parameter.toList.map Node.paramName

theorem standFor_of_getLast? {names : List String} {parameter : Option Node}
    (h : names.getLast? = parameter.map Node.paramName) : StandFor names parameter where
  nil_iff := by
    rw [← List.getLast?_eq_none_iff, h, Option.map_eq_none_iff]
  eq_of_length_le := by
    intro hlength
    match names, parameter with
    | [], none => rfl
    | [], some p => simp at h
    | [x], none => simp at h
    | [x], some p => simpa using h
    | x :: y :: rest, _ => simp at hlength

namespace CallParts

variable {c : CallParts} {g : Signature}

theorem matchesSignature_iff :
    c.matchesSignature g = true ↔
      (c.samePositional g = true ∧ c.sameVariadic g = true) ∧
        c.sameVariadicKeyword g = true ∧ c.sameKeywords g = true := by
  simp only [matchesSignature, Bool.and_eq_true]
  tauto

end CallParts

theorem getLast?_toList_map {parameter : Option Node} :
    (parameter.toList.map Node.paramName).getLast? = parameter.map Node.paramName := by
  cases parameter <;> rfl

theorem map_paramName_ne {parameter : Option Node}
    (h : ∀ p ∈ parameter.toList, p.paramName ≠ "") : parameter.map Node.paramName ≠ some "" := by
  cases parameter with
  | none => simp
  | some p => simpa using h

/-- There is only one order of at most one name. -/
theorem eq_of_perm_toList_map {names : List String} {parameter : Option Node}
    (h : names.Perm (parameter.toList.map Node.paramName)) :
    names = parameter.toList.map Node.paramName := by
  cases parameter with
  | none => exact List.perm_nil.mp h
  | some p => exact List.perm_singleton.mp h

/-- **Soundness of the test for forwarding calls.** A call that passes the test passes on the
positional parameters in order and then variables with a star only; its keyword arguments are the
keyword-only parameters, each of them once, and variables with two stars. One star and two stars
stand for the parameters that collect arguments. -/
theorem passesOn_of_matchesSignature (c : CallParts) (g : Signature)
    (hg : (g.keywordOnly.map Node.paramName).Nodup) (h : c.matchesSignature g = true) :
    ∃ starred spread : List String,
      c.PassesOn (g.givenNames g.positional) starred (g.keywordOnly.map Node.paramName) spread ∧
        StandFor starred g.variadic ∧ StandFor spread g.variadicKeyword := by
  obtain ⟨hplaces, hspread, hkeywords⟩ := CallParts.matchesSignature_iff.mp h
  obtain ⟨starred, hargs, hstarred, -⟩ := samePositional_and_sameVariadic_iff.mp hplaces
  obtain ⟨spread, hvalues, hlast, -⟩ := forwards_iff.mp hspread
  obtain ⟨hsub, hlength⟩ := CallParts.sameKeywords_iff.mp hkeywords
  have hperm := CallParts.passedOn_perm hg hsub hlength hvalues
  have hall := (CallParts.keywords_perm_iff hvalues).mpr ⟨hperm, hlength⟩
  exact ⟨starred, spread, ⟨hargs, hall⟩, standFor_of_getLast? hstarred, standFor_of_getLast? hlast⟩

/-- A parameter without a hint. -/
def bareParam (name : String) : Node :=
  .mk 0 none (.param name none)

/-- A variable that is read. -/
def bareName (name : String) : Node :=
  .mk 0 none (.name name (some .load))

/-- A variable that is read with a star. -/
def bareStarred (name : String) : Node :=
  .mk 0 none (.starred (bareName name) (some .load))

/-- A variable as a keyword argument, under the given name or with two stars. -/
def bareKeyword (key : Option String) (name : String) : Node :=
  .mk 0 none (.keyword key (bareName name))

/-- A method with parameters of all sorts: `def draw(self, shape, *rest, low, high, **options)`. -/
def drawSignature : Signature where
  isLambda := false
  positionalOnly := []
  positional := [bareParam "self", bareParam "shape"]
  variadic := some (bareParam "rest")
  keywordOnly := [bareParam "low", bareParam "high"]
  keywordDefaults := [none, none]
  variadicKeyword := some (bareParam "options")
  defaults := []

/-- A call that forwards them: `paint(shape, *rest, high=high, **options, low=low)`. -/
def paintCall : CallParts where
  func := bareName "paint"
  args := [bareName "shape", bareStarred "rest"]
  keywords := [bareKeyword (some "high") "high", bareKeyword none "options",
    bareKeyword (some "low") "low"]

theorem passesOn_of_matchesSignature_paintCall :
    (drawSignature.keywordOnly.map Node.paramName).Nodup ∧
      paintCall.matchesSignature drawSignature = true ∧
      ∃ starred spread : List String,
        paintCall.PassesOn (drawSignature.givenNames drawSignature.positional) starred
            (drawSignature.keywordOnly.map Node.paramName) spread ∧
          StandFor starred drawSignature.variadic ∧
          StandFor spread drawSignature.variadicKeyword := by
  have hg : (drawSignature.keywordOnly.map Node.paramName).Nodup := by decide
  have h : paintCall.matchesSignature drawSignature = true := by decide
  exact ⟨hg, h, passesOn_of_matchesSignature paintCall drawSignature hg h⟩

/-- A lambda whose parameter is only given by position: `lambda item, /: ...`. -/
def placedLambda : Signature where
  isLambda := true
  positionalOnly := [bareParam "item"]
  positional := []
  variadic := none
  keywordOnly := []
  keywordDefaults := []
  variadicKeyword := none
  defaults := []

/-- A lambda that collects its arguments: `lambda *rest: ...`. -/
def collectingLambda : Signature :=
  { placedLambda with positionalOnly := [], variadic := some (bareParam "rest") }

/-- A call without arguments: `paint()`. -/
def emptyCall : CallParts :=
  ⟨bareName "paint", [], []⟩

/-- A call with two starred arguments: `paint(*first, *rest)`. -/
def twoStarsCall : CallParts :=
  ⟨bareName "paint", [bareStarred "first", bareStarred "rest"], []⟩

/-- The test passes calls that do not forward their signature. A parameter that is only given by
position is not looked for, and a starred argument before the last one is not compared. -/
theorem matchesSignature_overlooks :
    (emptyCall.matchesSignature placedLambda = true ∧ ¬ emptyCall.IsProxyFor placedLambda) ∧
      twoStarsCall.matchesSignature collectingLambda = true ∧
        ¬ twoStarsCall.IsProxyFor collectingLambda := by
  decide

/-- **Completeness of the test for forwarding calls.** A call that passes on all parameters passes
the test, in whatever order its keyword arguments come. The parameters that collect arguments have
names, as all parameters do; a nameless one would never be found in a call. -/
theorem matchesSignature_of_isProxyFor (c : CallParts) (g : Signature)
    (hplaces : g.positionalOnly = [])
    (hnames : ∀ p ∈ g.variadic.toList ++ g.variadicKeyword.toList, p.paramName ≠ "")
    (h : c.IsProxyFor g) : c.matchesSignature g = true := by
  obtain ⟨hargs, hkeywords⟩ := h
  rw [hplaces, List.nil_append] at hargs
  have hstarred := map_paramName_ne fun p hp => hnames p (List.mem_append_left _ hp)
  have hspread := map_paramName_ne fun p hp => hnames p (List.mem_append_right _ hp)
  obtain ⟨spread, hvalues, hperm⟩ := CallParts.exists_spread_of_perm hkeywords
  obtain rfl := eq_of_perm_toList_map hperm
  obtain ⟨hpassed, hlength⟩ := (CallParts.keywords_perm_iff hvalues).mp hkeywords
  rw [CallParts.matchesSignature_iff, samePositional_and_sameVariadic_iff]
  refine ⟨⟨_, hargs, getLast?_toList_map, hstarred⟩, ?_, ?_⟩
  · exact forwards_iff.mpr ⟨_, hvalues, getLast?_toList_map, hspread⟩
  · exact CallParts.sameKeywords_iff.mpr ⟨hpassed.symm.subset, hlength⟩

theorem matchesSignature_of_isProxyFor_paintCall :
    drawSignature.positionalOnly = [] ∧
      (∀ p ∈ drawSignature.variadic.toList ++ drawSignature.variadicKeyword.toList,
        p.paramName ≠ "") ∧
      paintCall.IsProxyFor drawSignature ∧ paintCall.matchesSignature drawSignature = true := by
  have hnames : ∀ p ∈ drawSignature.variadic.toList ++ drawSignature.variadicKeyword.toList,
      p.paramName ≠ "" := by decide
  have h : paintCall.IsProxyFor drawSignature := by decide
  exact ⟨rfl, hnames, h, matchesSignature_of_isProxyFor paintCall drawSignature rfl hnames h⟩

end Stricture
