import Mathlib.Data.List.Nodup
import Stricture.Alias
import Stricture.Grouping

/-!
# Names of handlers

A handler is entered under further names one after the other, and each name is tested in the table
that has the names before it already. The names differ, so that what was entered for one of them
does not change the test of another (`isTaken_put_of_mem`): the first name that is taken in the
table as it was at the start is the one that is refused (`putAll_eq_error`).

What a table has under a name after one more entry is said once (`entry?_put`), and then for all
names (`exists_putAll`).
-/

namespace Stricture

namespace HandlerTable

variable {table : HandlerTable} {name other handler : String} {names : List String}

/-- Something stands under the name, and it is not empty. -/
def Holds (table : HandlerTable) (name : String) : Prop :=
  ∃ text, table.handler? name = some text ∧ text ≠ ""

theorem isTaken_iff : table.isTaken name = true ↔ table.Holds name := by
  rw [isTaken, Option.any_eq_true]
  simp only [bne_iff_ne]
  rfl

/-! ### One name -/

/-- The entry that is made is found under its name, and every other one as before. -/
theorem entry?_put (table : HandlerTable) (name handler other : String) :
    entry? (table.put name handler) other =
      if other = name then some (name, some handler) else table.entry? other := by
  unfold entry?
  unfold put
  split
  case isTrue hany =>
    -- an entry is replaced where it stands
    have hkey : ∀ entry : String × Option String,
        (if entry.1 == name then (name, some handler) else entry).1 = entry.1 := by
      intro entry
      split
      case isTrue h => exact (eq_of_beq h).symm
      case isFalse => rfl
    simp only [List.find?_append, List.find?_map, Function.comp_def, hkey]
    cases hfound : table.own.find? fun entry => entry.1 == other with
    | none =>
      have hne : other ≠ name := by
        rintro rfl
        obtain ⟨entry, hentry, heq⟩ := List.any_eq_true.mp hany
        exact List.find?_eq_none.mp hfound entry hentry heq
      rw [if_neg hne]
      rfl
    | some entry =>
      have hsame : (entry.1 == other) = true :=
        List.find?_some (p := fun entry : String × Option String => entry.1 == other) hfound
      obtain rfl := eq_of_beq hsame
      by_cases hname : entry.1 = name <;> simp [hname]
  case isFalse hany =>
    -- there is no entry with this name before the new one
    have hnone : table.own.find? (fun entry => entry.1 == name) = none := by
      rw [List.find?_eq_none]
      exact fun entry hentry heq => hany (List.any_eq_true.mpr ⟨entry, hentry, heq⟩)
    simp only [List.find?_append]
    by_cases hother : other = name
    · subst hother
      simp [hnone]
    · have hskip : List.find? (fun entry => entry.1 == other) [(name, some handler)] = none := by
        simp [Ne.symm hother]
      rw [if_neg hother, hskip, Option.or_none]

/-- Entering a handler does not change what is answered elsewhere. -/
theorem answers_put (table : HandlerTable) (name handler : String) :
    (table.put name handler).answers = table.answers := by
  unfold put
  split <;> rfl

/-- Other names are taken if they were. -/
theorem isTaken_put_of_mem (hnames : (name :: names).Nodup) (hother : other ∈ names) :
    (table.put name handler).isTaken other = table.isTaken other := by
  have hne : other ≠ name := by
    rintro rfl
    exact (List.nodup_cons.mp hnames).1 hother
  rw [isTaken, isTaken, handler?, handler?, entry?_put, if_neg hne, answers_put]

/-! ### All names -/

/-- The first name that is taken at the start is refused. -/
theorem putAll_eq_error (hnames : names.Nodup) {a : String}
    (h : names.find? table.isTaken = some a) :
    putAll handler table names = .error (.taken a) := by
  induction names generalizing table with
  | nil => cases h
  | cons name rest ih =>
    rw [putAll]
    split
    case isTrue htaken =>
      rw [List.find?_cons_of_pos htaken] at h
      rw [Option.some.inj h]
    case isFalse hfree =>
      rw [List.find?_cons_of_neg hfree] at h
      refine ih hnames.of_cons ?_
      rw [← h, ← List.head?_filter, ← List.head?_filter,
        List.filter_congr fun b hb => isTaken_put_of_mem hnames hb]

/-- If no name is taken at the start, the handler is entered under all of them. -/
theorem exists_putAll (hnames : names.Nodup) (h : ∀ a ∈ names, ¬ table.isTaken a = true) :
    ∃ after, putAll handler table names = .ok after ∧ ∀ other, after.entry? other =
      if other ∈ names then some (other, some handler) else table.entry? other := by
  induction names generalizing table with
  | nil => exact ⟨table, rfl, fun other => rfl⟩
  | cons name rest ih =>
    obtain ⟨hname, hothers⟩ := List.forall_mem_cons.mp h
    have hstill : ∀ b ∈ rest, ¬ (table.put name handler).isTaken b = true := by
      intro b hb
      rw [isTaken_put_of_mem hnames hb]
      exact hothers b hb
    obtain ⟨after, hafter, hentries⟩ := ih hnames.of_cons hstill
    refine ⟨after, by rw [putAll, if_neg hname]; exact hafter, fun other => ?_⟩
    rw [hentries, entry?_put]
    by_cases hother : other = name <;> simp [hother]

/-- What comes of further names: they are not different, there is no handler to name, one of them is
taken, or the handler is entered under all of them. -/
theorem addNames_cases (table : HandlerTable) (name : String) (names : List String) :
    (¬ (name :: names).Nodup ∧ table.addNames name names = .error .duplicate) ∨
    ((name :: names).Nodup ∧ table.handler? name = none ∧
      table.addNames name names = .error (.missing name)) ∨
    ((name :: names).Nodup ∧ ∃ handler, table.handler? name = some handler ∧
      ((∃ a ∈ names, table.Holds a ∧ table.addNames name names = .error (.taken a)) ∨
      ((∀ a ∈ names, ¬ table.Holds a) ∧ ∃ after, table.addNames name names = .ok after ∧
        ∀ other, after.entry? other =
          if other ∈ names then some (other, some handler) else table.entry? other))) := by
  have hrepeated : (names ++ [name]).eraseDups.length ≠ (names ++ [name]).length ↔
      ¬ (name :: names).Nodup := by
    rw [← bne_iff_ne, ← List.perm_append_singleton name names |>.nodup_iff]
    exact hasRepetition_iff
  unfold addNames
  by_cases hnodup : (name :: names).Nodup
  · rw [if_neg fun h => hrepeated.mp h hnodup]
    right
    cases hhandler : table.handler? name with
    | none => exact .inl ⟨hnodup, rfl, rfl⟩
    | some handler =>
      refine .inr ⟨hnodup, handler, rfl, ?_⟩
      simp only [← isTaken_iff]
      cases hfirst : names.find? table.isTaken with
      | some a =>
        exact .inl ⟨a, List.mem_of_find?_eq_some hfirst, List.find?_some hfirst,
          putAll_eq_error hnodup.of_cons hfirst⟩
      | none =>
        have hfree := List.find?_eq_none.mp hfirst
        exact .inr ⟨hfree, exists_putAll hnodup.of_cons hfree⟩
  · rw [if_pos (hrepeated.mpr hnodup)]
    exact .inl ⟨hnodup, rfl⟩

end HandlerTable

/-- **Further names.** Names are refused as such exactly if they and the name of the handler do not
all differ. Otherwise they are refused for the table exactly if it has no handler to name, or
something under one of the further names. If nothing is refused, the handler stands under each of
the further names, and under every other name stands what stood there before. -/
theorem addNames_enters_handler (table : HandlerTable) (name : String) (names : List String) :
    (table.addNames name names = .error .duplicate ↔ ¬ (name :: names).Nodup) ∧
    ((∃ error, table.addNames name names = .error error ∧ error ≠ .duplicate) ↔
      (name :: names).Nodup ∧ (table.handler? name = none ∨ ∃ a ∈ names, table.Holds a)) ∧
    ((∃ after, table.addNames name names = .ok after) ↔
      (name :: names).Nodup ∧ table.handler? name ≠ none ∧ ∀ a ∈ names, ¬ table.Holds a) ∧
    ∀ after, table.addNames name names = .ok after →
      (∀ a ∈ names, after.handler? a = table.handler? name) ∧
      ∀ other ∉ names, after.entry? other = table.entry? other := by
  rcases HandlerTable.addNames_cases table name names with
    ⟨hrepeated, hresult⟩ | ⟨hnodup, hnone, hresult⟩ |
      ⟨hnodup, handler, hhandler, ⟨a, ha, htaken, hresult⟩ | ⟨hfree, after, hresult, hentries⟩⟩
  · rw [hresult]
    refine ⟨iff_of_true rfl hrepeated, iff_of_false ?_ fun h => hrepeated h.1,
      iff_of_false (by simp) fun h => hrepeated h.1, by simp⟩
    rintro ⟨error, herror, hne⟩
    exact hne (Except.error.inj herror).symm
  · rw [hresult]
    exact ⟨iff_of_false (by simp) fun h => h hnodup,
      iff_of_true ⟨_, rfl, by simp⟩ ⟨hnodup, .inl hnone⟩,
      iff_of_false (by simp) fun h => h.2.1 hnone, by simp⟩
  · rw [hresult]
    exact ⟨iff_of_false (by simp) fun h => h hnodup,
      iff_of_true ⟨_, rfl, by simp⟩ ⟨hnodup, .inr ⟨a, ha, htaken⟩⟩,
      iff_of_false (by simp) fun h => h.2.2 a ha htaken, by simp⟩
  · rw [hresult, hhandler]
    refine ⟨iff_of_false (by simp) fun h => h hnodup, iff_of_false (by simp) ?_,
      iff_of_true ⟨after, rfl⟩ ⟨hnodup, by simp, hfree⟩, ?_⟩
    · rintro ⟨-, hnone | ⟨a, ha, htaken⟩⟩
      · cases hnone
      · exact hfree a ha htaken
    · intro after' heq
      obtain rfl := Except.ok.inj heq
      refine ⟨fun a ha => ?_, fun other hother => ?_⟩
      · rw [HandlerTable.handler?, hentries, if_pos ha]
        rfl
      · rw [hentries, if_neg hother]

/-- A table with a handler for one kind of import and an empty entry for the other, which hides an
inherited one. -/
def importHandlers : HandlerTable where
  own := [("visit_Import", some "check imports"), ("visit_ImportFrom", some ""), ("visit", none)]
  inherited := [("visit_ImportFrom", some "nothing"), ("run", some "visit all")]

theorem addNames_enters_handler_importHandlers :
    ["visit_Import", "visit_ImportFrom", "visit"].Nodup ∧
    (∀ a ∈ ["visit_ImportFrom", "visit"], ¬ importHandlers.Holds a) ∧
    ∃ after, importHandlers.addNames "visit_Import" ["visit_ImportFrom", "visit"] = .ok after ∧
      after.handler? "visit_ImportFrom" = some "check imports" ∧
      after.handler? "visit" = some "check imports" ∧
      after.entry? "run" = some ("run", some "visit all") := by
  have hnodup : ["visit_Import", "visit_ImportFrom", "visit"].Nodup := by decide
  have hfree : ∀ a ∈ ["visit_ImportFrom", "visit"], ¬ importHandlers.Holds a := by
    simp only [← HandlerTable.isTaken_iff]
    decide
  have hhandler : importHandlers.handler? "visit_Import" = some "check imports" := by decide
  obtain ⟨-, -, hok, hafter⟩ :=
    addNames_enters_handler importHandlers "visit_Import" ["visit_ImportFrom", "visit"]
  obtain ⟨after, hresult⟩ := hok.mpr ⟨hnodup, by simp [hhandler], hfree⟩
  obtain ⟨hnamed, hothers⟩ := hafter after hresult
  rw [hhandler] at hnamed
  exact ⟨hnodup, hfree, after, hresult, hnamed _ (by decide), hnamed _ (by decide),
    hothers "run" (by decide)⟩

end Stricture
