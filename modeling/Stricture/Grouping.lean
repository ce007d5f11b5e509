/-!
# Grouping

Things grouped by a key, and sums over things. Groups come in the order of their first members, and
members keep their order inside of a group.
-/

namespace Stricture

/-- The groups of things with equal keys. -/
def grouped {α κ : Type} [BEq κ] (key : α → κ) (things : List α) : List (κ × List α) :=
  ((things.map key).eraseDups).map fun k => (k, things.filter fun t => key t == k)

/-- Adds a thing to the group of its key. A group with a new key comes last. -/
def enterGroup {α κ : Type} [BEq κ] (k : κ) (a : α) : List (κ × List α) → List (κ × List α)
  | [] => [(k, [a])]
  | (key, things) :: rest =>
    if key == k then (key, things ++ [a]) :: rest else (key, things) :: enterGroup k a rest

/-- The things that occur more than once, each of them once. -/
def repeated {α : Type} [BEq α] (things : List α) : List α :=
  things.eraseDups.filter fun t => 1 < things.count t

/-- Some thing occurs more than once. -/
def hasRepetition {α : Type} [BEq α] (things : List α) : Bool :=
  things.eraseDups.length != things.length

/-- The sum of what things count for. -/
def totalOf {α : Type} (count : α → Nat) (things : List α) : Nat :=
  things.foldr (fun t n => count t + n) 0

/-! ### Things that occur once -/

section Repetition

variable {α : Type} [BEq α] [LawfulBEq α]

/-- The first occurrences of things differ, and keep their order. -/
theorem eraseDups_spec (things : List α) :
    things.eraseDups.Nodup ∧ things.eraseDups.Sublist things := by
  induction hlength : things.length using Nat.strongRecOn generalizing things with
  | ind size ih =>
    cases things with
    | nil => exact ⟨List.nodup_nil, .slnil⟩
    | cons a rest =>
      have hlt : (rest.filter fun b => !b == a).length < size := by
        have hle := List.length_filter_le (fun b => !b == a) rest
        rw [List.length_cons] at hlength
        omega
      obtain ⟨hnodup, hsublist⟩ := ih _ hlt _ rfl
      rw [List.eraseDups_cons, List.nodup_cons]
      refine ⟨⟨by simp, hnodup⟩, ?_⟩
      exact (hsublist.trans List.filter_sublist).cons_cons a

theorem nodup_eraseDups (things : List α) : things.eraseDups.Nodup :=
  (eraseDups_spec things).1

theorem eraseDups_of_nodup {things : List α} (h : things.Nodup) : things.eraseDups = things := by
  induction things with
  | nil => rfl
  | cons a rest ih =>
    obtain ⟨ha, hrest⟩ := List.nodup_cons.mp h
    have hkept : rest.filter (fun b => !b == a) = rest := by
      rw [List.filter_eq_self]
      intro b hb
      have hne : b ≠ a := fun heq => ha (heq ▸ hb)
      simpa using hne
    rw [List.eraseDups_cons, hkept, ih hrest]

theorem hasRepetition_iff {things : List α} : hasRepetition things = true ↔ ¬ things.Nodup := by
  rw [hasRepetition, bne_iff_ne]
  refine not_congr ⟨fun hlength => ?_, fun h => by rw [eraseDups_of_nodup h]⟩
  obtain ⟨hnodup, hsublist⟩ := eraseDups_spec things
  rwa [hsublist.eq_of_length hlength] at hnodup

theorem mem_repeated_iff {things : List α} {a : α} : a ∈ repeated things ↔ 1 < things.count a := by
  rw [repeated, List.mem_filter, List.mem_eraseDups, decide_eq_true_iff]
  refine and_iff_right_of_imp fun h => ?_
  exact List.count_pos_iff.mp (Nat.zero_lt_of_lt h)

end Repetition

/-! ### Groups that grow -/

section Groups

variable {α κ : Type} [BEq κ] {k : κ} {a : α}

/-- Only things that were there before, or that are added, are in a group. -/
theorem mem_of_mem_enterGroup {groups : List (κ × List α)} {group : κ × List α} {b : α}
    (h : group ∈ enterGroup k a groups) (hb : b ∈ group.2) :
    b = a ∨ ∃ old ∈ groups, b ∈ old.2 := by
  induction groups with
  | nil =>
    obtain rfl := List.mem_singleton.mp h
    exact .inl (List.mem_singleton.mp hb)
  | cons first rest ih =>
    rw [enterGroup] at h
    split at h
    case isTrue =>
      rcases List.mem_cons.mp h with rfl | hrest
      · rcases List.mem_append.mp hb with hold | hnew
        · exact .inr ⟨first, List.mem_cons_self, hold⟩
        · exact .inl (List.mem_singleton.mp hnew)
      · exact .inr ⟨group, List.mem_cons_of_mem first hrest, hb⟩
    case isFalse =>
      rcases List.mem_cons.mp h with rfl | hrest
      · exact .inr ⟨first, List.mem_cons_self, hb⟩
      · refine (ih hrest).imp id ?_
        rintro ⟨old, hold, hmem⟩
        exact ⟨old, List.mem_cons_of_mem first hold, hmem⟩

variable [LawfulBEq κ]

/-- Where there is a group for each key, the thing joins the group of its key. -/
theorem enterGroup_map {keys : List κ} (hnodup : keys.Nodup) (members : κ → List α) :
    enterGroup k a (keys.map fun key => (key, members key)) =
      (keys.map fun key => (key, if key == k then members key ++ [a] else members key)) ++
        if k ∈ keys then [] else [(k, [a])] := by
  induction keys with
  | nil => simp [enterGroup]
  | cons key rest ih =>
    obtain ⟨hkey, hrest⟩ := List.nodup_cons.mp hnodup
    rw [List.map_cons, enterGroup]
    by_cases heq : key = k
    · subst heq
      -- no other group has the key
      have hsame : (rest.map fun other => (other, members other)) = rest.map fun other =>
          (other, if other == key then members other ++ [a] else members other) := by
        refine List.map_congr_left fun other hother => ?_
        have hne : other ≠ key := fun h => hkey (h ▸ hother)
        rw [if_neg (by simpa using hne)]
      simp [hsame]
    · have hfalse : (key == k) = false := by simpa using heq
      rw [hfalse, ih hrest]
      simp [hfalse, Ne.symm heq]

theorem eraseDups_concat (keys : List κ) (k : κ) :
    (keys ++ [k]).eraseDups = keys.eraseDups ++ if k ∈ keys then [] else [k] := by
  rw [List.eraseDups_append]
  by_cases h : k ∈ keys <;> simp [List.removeAll, List.eraseDups_cons, h]

end Groups

end Stricture
