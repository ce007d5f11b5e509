import Stricture.Rules.Binding

/-!
# What binding events read and write

An event reads the entries of its own context and of the contexts around it, and writes entries of
its own context only. So entries of other contexts have no influence on it, and stay as they are
(`judge_append`, and `judgeEvents_append` for whole runs).
-/

namespace Stricture

/-! ### Logs -/

namespace BindingLog

theorem knows_iff {log : BindingLog} {k : Option Nat} {name : String} :
    log.knows k name = true ↔ (k, name) ∈ log := by
  rw [knows, List.contains_iff_mem]

theorem mem_bind {log : BindingLog} {k : Option Nat} {names : List String}
    {entry : Option Nat × String} :
    entry ∈ log.bind k names ↔
      entry ∈ log ∨ entry.1 = k ∧ entry.2 ∈ names ∧ Name.isUnused entry.2 = false := by
  obtain ⟨context, name⟩ := entry
  simp only [bind, List.mem_append, List.mem_map, List.mem_filter, Prod.mk.injEq,
    Bool.not_eq_true']
  constructor
  · rintro (h | ⟨x, ⟨hx, hu⟩, rfl, rfl⟩)
    · exact Or.inl h
    · exact Or.inr ⟨rfl, hx, hu⟩
  · rintro (h | ⟨rfl, hx, hu⟩)
    · exact Or.inl h
    · exact Or.inr ⟨name, ⟨hx, hu⟩, rfl, rfl⟩

/-- Entries under other keys do not count. -/
theorem knows_append_of_forall_ne {old : BindingLog} {k : Option Nat}
    (h : ∀ entry ∈ old, entry.1 ≠ k) (new : BindingLog) (name : String) :
    knows (old ++ new) k name = knows new k name := by
  rw [Bool.eq_iff_iff, knows_iff, knows_iff, List.mem_append, or_iff_right]
  exact fun hmem => h _ hmem rfl

theorem bind_append (old new : BindingLog) (k : Option Nat) (names : List String) :
    bind (old ++ new) k names = old ++ bind new k names :=
  List.append_assoc ..

end BindingLog

/-! ### Stores -/

namespace Scopes

/-- All entries of the three stores. -/
def entries (scopes : Scopes) : List (Option Nat × String) :=
  scopes.blocks ++ scopes.locals ++ scopes.outer

/-- The stores of `old` with those of `new` behind them. -/
def append (old new : Scopes) : Scopes :=
  ⟨old.blocks ++ new.blocks, old.locals ++ new.locals, old.outer ++ new.outer⟩

/-- The keys under which an event at a site looks for names. -/
def readKeys (s : Site) : List (Option Nat) :=
  key s :: outerKeys s

/-- No entry stands under one of the keys. -/
def Avoids (scopes : Scopes) (keys : List (Option Nat)) : Prop :=
  ∀ entry ∈ scopes.entries, entry.1 ∉ keys

theorem append_empty (scopes : Scopes) : scopes.append {} = scopes := by
  simp [append]

theorem mem_entries {scopes : Scopes} {entry : Option Nat × String} :
    entry ∈ scopes.entries ↔
      entry ∈ scopes.blocks ∨ entry ∈ scopes.locals ∨ entry ∈ scopes.outer := by
  simp only [entries, List.mem_append, or_assoc]

variable {old : Scopes} {s : Site}

theorem Avoids.key_ne (h : old.Avoids (readKeys s)) {entry : Option Nat × String}
    (hentry : entry ∈ old.entries) : entry.1 ≠ key s :=
  fun heq => h entry hentry (heq ▸ List.mem_cons_self)

theorem addInner_append (old new : Scopes) (mode : BindingMode) (s : Site) (names : List String) :
    (old.append new).addInner mode s names = old.append (new.addInner mode s names) := by
  cases mode <;> simp only [addInner, append, BindingLog.bind_append]

theorem addOuter_append (old new : Scopes) (s : Site) (names : List String) :
    (old.append new).addOuter s names = old.append (new.addOuter s names) := by
  unfold addOuter
  split
  · rfl
  · simp only [append, BindingLog.bind_append]

theorem innerClash_append (h : old.Avoids (readKeys s)) (new : Scopes) (mode : BindingMode)
    (names : List String) :
    (old.append new).innerClash mode s names = new.innerClash mode s names := by
  have hblocks : ∀ entry ∈ old.blocks, entry.1 ≠ key s :=
    fun entry he => h.key_ne (mem_entries.mpr (Or.inl he))
  have hlocals : ∀ entry ∈ old.locals, entry.1 ≠ key s :=
    fun entry he => h.key_ne (mem_entries.mpr (Or.inr (Or.inl he)))
  simp only [innerClash, append, BindingLog.knows_append_of_forall_ne hblocks,
    BindingLog.knows_append_of_forall_ne hlocals]

theorem outerClash_append (h : old.Avoids (readKeys s)) (new : Scopes) (names : List String) :
    (old.append new).outerClash s names = new.outerClash s names := by
  unfold outerClash
  split
  · rfl
  · refine List.filter_congr fun name _ => ?_
    rw [Bool.eq_iff_iff, List.any_eq_true, List.any_eq_true]
    refine exists_congr fun k => and_congr_right fun hk => ?_
    have houter : ∀ entry ∈ old.outer, entry.1 ≠ k := fun entry he heq =>
      h entry (mem_entries.mpr (Or.inr (Or.inr he))) (heq ▸ List.mem_cons_of_mem _ hk)
    rw [append, BindingLog.knows_append_of_forall_ne houter]

theorem mem_entries_addInner {scopes : Scopes} {mode : BindingMode} {names : List String}
    {entry : Option Nat × String} (h : entry ∈ (scopes.addInner mode s names).entries) :
    entry ∈ scopes.entries ∨ entry.1 = key s := by
  cases mode <;> simp only [addInner, mem_entries, BindingLog.mem_bind] at h ⊢ <;> grind

theorem mem_entries_addOuter {scopes : Scopes} {names : List String}
    {entry : Option Nat × String} (h : entry ∈ (scopes.addOuter s names).entries) :
    entry ∈ scopes.entries ∨ entry.1 = key s := by
  unfold addOuter at h
  split at h
  · exact Or.inl h
  · simp only [mem_entries, BindingLog.mem_bind] at h ⊢
    grind

end Scopes

/-! ### Events -/

namespace Rules

open Scopes

/-- One event: foreign entries change nothing that is found, and nothing happens to them. -/
theorem BindingEvent.judge_append (order : NameOrder) {old : Scopes} {e : BindingEvent}
    (h : old.Avoids (readKeys e.site)) (new : Scopes) :
    e.judge order (old.append new) =
      ((e.judge order new).1, old.append (e.judge order new).2) := by
  simp only [judge, innerClash_append h, addInner_append, outerClash_append h, addOuter_append]

/-- One event writes under the key of its context only. -/
theorem BindingEvent.mem_entries_judge (order : NameOrder) {scopes : Scopes} {e : BindingEvent}
    {entry : Option Nat × String} (h : entry ∈ (e.judge order scopes).2.entries) :
    entry ∈ scopes.entries ∨ entry.1 = key e.site := by
  rcases mem_entries_addOuter h with h | h
  · exact mem_entries_addInner h
  · exact Or.inr h

/-- A whole run is not influenced by foreign entries either. -/
theorem judgeEvents_append (order : NameOrder) {old : Scopes} {events : List BindingEvent}
    (h : ∀ e ∈ events, old.Avoids (readKeys e.site)) (new : Scopes) :
    judgeEvents order (old.append new) events =
      ((judgeEvents order new events).1, old.append (judgeEvents order new events).2) := by
  induction events generalizing new with
  | nil => rfl
  | cons e rest ih =>
    have he := BindingEvent.judge_append order (h e List.mem_cons_self) new
    have hrest := ih (fun f hf => h f (List.mem_cons_of_mem e hf)) (e.judge order new).2
    simp only [judgeEvents, he, hrest]

/-- A whole run writes under the keys of its events only. -/
theorem mem_entries_judgeEvents {order : NameOrder} {scopes : Scopes} {events : List BindingEvent}
    {entry : Option Nat × String} (h : entry ∈ (judgeEvents order scopes events).2.entries) :
    entry ∈ scopes.entries ∨ ∃ e ∈ events, entry.1 = key e.site := by
  induction events generalizing scopes with
  | nil => exact Or.inl h
  | cons e rest ih =>
    rcases ih h with h | ⟨f, hf, hkey⟩
    · rcases BindingEvent.mem_entries_judge order h with h | hkey
      · exact Or.inl h
      · exact Or.inr ⟨e, List.mem_cons_self, hkey⟩
    · exact Or.inr ⟨f, List.mem_cons_of_mem e hf, hkey⟩

end Rules

end Stricture
