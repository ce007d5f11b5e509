import Mathlib.Data.List.Basic
import Mathlib.Data.List.Induction
import Stricture.Listing

/-!
# Headings of a listing

Violations come one after the other, and each one is listed under the heading of its file if that is
not there yet. A listing remembers the files that have a heading, which are the files of all past
violations (`mem_files_after`); so what a violation adds depends on the past ones only
(`written_concat`). From this one equation it follows, by induction on the violations from the last
one on, where the headings stand.

A violation stands under the heading of its own file, for each violation, exactly if those of a file
are not separated by others (`isContiguous_iff`). What the parts look like on the terminal is said
for each kind of them (`text_entry_of_none`, `text_entry_of_some`).
-/

namespace Stricture

open ListingEntry (filename)

namespace ListingPart

/-- The file of a heading. -/
def heading? : ListingPart → Option String
  | heading filename => some filename
  | entry _ => none

/-- The violation of an entry. -/
def listed? : ListingPart → Option ListingEntry
  | heading _ => none
  | entry e => some e

end ListingPart

/-- No file comes again after another one. -/
def IsContiguous (files : List String) : Prop :=
  ∀ f g, [f, g, f].Sublist files → g = f

theorem IsContiguous.of_sublist {files part : List String} (h : IsContiguous files)
    (hpart : part.Sublist files) : IsContiguous part :=
  fun f g hsublist => h f g (hsublist.trans hpart)

namespace Listing

/-- Lists violations one after the other. -/
def handleAll (showSource : Bool) : Listing → List ListingEntry → String × Listing
  | l, [] => ("", l)
  | l, e :: rest =>
    let (text, l) := l.handle showSource e
    let (others, l) := handleAll showSource l rest
    (text ++ others, l)

/-- What is written meanwhile, part by part. -/
def writtenFrom : Listing → List ListingEntry → List ListingPart
  | _, [] => []
  | l, e :: rest => l.added e ++ writtenFrom (l.next e) rest

/-- What is written for violations from the start. -/
def written (es : List ListingEntry) : List ListingPart :=
  writtenFrom {} es

/-- The listing after violations from the start. -/
def after (es : List ListingEntry) : Listing :=
  es.foldl next {}

/-- What a violation adds after past ones. -/
def addedAfter (past : List ListingEntry) (e : ListingEntry) : List ListingPart :=
  if e.filename ∈ past.map filename then [.entry e] else [.heading e.filename, .entry e]

/-! ### One step, and all steps -/

section Steps

variable {past rest es : List ListingEntry} {e : ListingEntry} {f : String} {l : Listing}

theorem handleAll_eq (showSource : Bool) (l : Listing) (es : List ListingEntry) :
    handleAll showSource l es =
      (String.join ((writtenFrom l es).map (ListingPart.text l.highlight showSource)),
        es.foldl next l) := by
  induction es generalizing l with
  | nil => rfl
  | cons e rest ih =>
    rw [writtenFrom, List.map_append, String.join_append]
    simp only [handleAll, handle, ih, List.foldl_cons]
    rfl

/-- Which parts are written depends on the files that have a heading only. -/
theorem writtenFrom_congr {l m : Listing} (h : l.files = m.files) (es : List ListingEntry) :
    writtenFrom l es = writtenFrom m es := by
  induction es generalizing l m with
  | nil => rfl
  | cons e rest ih =>
    have hnext : (l.next e).files = (m.next e).files := by rw [next, next, h]
    rw [writtenFrom, writtenFrom, ih hnext, added, added, h]

theorem count_foldl_next (l : Listing) (es : List ListingEntry) :
    (es.foldl next l).count = l.count + es.length := by
  induction es generalizing l with
  | nil => rfl
  | cons e rest ih =>
    rw [List.foldl_cons, ih, List.length_cons, Nat.add_comm rest.length, ← Nat.add_assoc]
    rfl

theorem writtenFrom_append (l : Listing) (past rest : List ListingEntry) :
    writtenFrom l (past ++ rest) = writtenFrom l past ++ writtenFrom (past.foldl next l) rest := by
  induction past generalizing l with
  | nil => rfl
  | cons e past ih =>
    rw [List.cons_append, writtenFrom, writtenFrom, ih, List.append_assoc, List.foldl_cons]

theorem mem_files_next : f ∈ (l.next e).files ↔ f ∈ l.files ∨ f = e.filename := by
  by_cases hmem : e.filename ∈ l.files
  · have hsame : (l.next e).files = l.files := if_pos (List.contains_iff_mem.mpr hmem)
    rw [hsame]
    refine (or_iff_left_of_imp ?_).symm
    rintro rfl
    exact hmem
  · have hnew : (l.next e).files = l.files ++ [e.filename] :=
      if_neg fun hcontains => hmem (List.contains_iff_mem.mp hcontains)
    rw [hnew, List.mem_append, List.mem_singleton]

theorem after_concat : after (past ++ [e]) = (after past).next e :=
  List.foldl_concat next {} e past

/-- The files with a heading are those of the past violations. -/
theorem mem_files_after : f ∈ (after es).files ↔ f ∈ es.map filename := by
  induction es using List.reverseRecOn with
  | nil => rfl
  | append_singleton past e ih =>
    rw [after_concat, mem_files_next, ih, List.map_append, List.mem_append]
    simp

/-- One more violation adds its lines, and a heading if it is the first one of its file. -/
theorem written_concat : written (past ++ [e]) = written past ++ addedAfter past e := by
  have hadded : (after past).added e = addedAfter past e := by
    simp only [added, addedAfter, List.contains_iff_mem, mem_files_after]
  rw [written, writtenFrom_append, ← hadded]
  exact congrArg (written past ++ ·) (List.append_nil _)

end Steps

/-! ### Where the parts stand -/

section Parts

variable {past rest es : List ListingEntry} {e : ListingEntry} {f : String}
  {before tail : List ListingPart} {p : ListingPart}

theorem filterMap_listed?_addedAfter : (addedAfter past e).filterMap ListingPart.listed? = [e] := by
  unfold addedAfter
  split <;> rfl

/-- Every violation is listed, in order. -/
theorem filterMap_listed?_written : (written es).filterMap ListingPart.listed? = es := by
  induction es using List.reverseRecOn with
  | nil => rfl
  | append_singleton past e ih =>
    rw [written_concat, List.filterMap_append, ih, filterMap_listed?_addedAfter]

theorem count_heading_addedAfter : (addedAfter past e).count (.heading f) =
    if f = e.filename ∧ f ∉ past.map filename then 1 else 0 := by
  by_cases hpast : e.filename ∈ past.map filename
  · have hnot : ¬ (f = e.filename ∧ f ∉ past.map filename) := fun h => h.2 (h.1 ▸ hpast)
    rw [addedAfter, if_pos hpast, if_neg hnot]
    rfl
  · rw [addedAfter, if_neg hpast]
    by_cases hfile : f = e.filename
    · subst hfile
      rw [if_pos ⟨rfl, hpast⟩, List.count_cons_self]
      rfl
    · have hne : ListingPart.heading e.filename ≠ .heading f := by
        intro heq
        exact hfile (ListingPart.heading.inj heq).symm
      rw [if_neg (fun h => hfile h.1), List.count_cons_of_ne hne]
      rfl

/-- Every file has one heading. -/
theorem count_heading_written :
    (written es).count (.heading f) = if f ∈ es.map filename then 1 else 0 := by
  induction es using List.reverseRecOn with
  | nil => rfl
  | append_singleton past e ih =>
    rw [written_concat, List.count_append, ih, count_heading_addedAfter]
    by_cases hpast : f ∈ past.map filename
    · simp [hpast]
    · simp [hpast]

/-- A part that was written was added by some violation. -/
theorem exists_addedAfter (h : written es = before ++ p :: tail) :
    ∃ past e rest others next, es = past ++ e :: rest ∧ before = written past ++ others ∧
      addedAfter past e = others ++ p :: next ∧ next <+: tail := by
  induction es using List.reverseRecOn generalizing tail with
  | nil => cases before <;> cases h
  | append_singleton past e ih =>
    rw [written_concat] at h
    -- the part belongs to the last violation, or it was there before
    rcases List.append_eq_append_iff.mp h with
      ⟨others, hbefore, hadded⟩ | ⟨middle, hwritten, htail⟩
    · exact ⟨past, e, [], others, tail, rfl, hbefore, hadded, List.prefix_refl _⟩
    · cases middle with
      | nil =>
        rw [List.append_nil] at hwritten
        exact ⟨past, e, [], [], tail, rfl, by simp [hwritten], htail.symm, List.prefix_refl _⟩
      | cons q middle =>
        obtain ⟨rfl, rfl⟩ := List.cons.inj htail
        obtain ⟨past', e', rest, others, next, rfl, hbefore, hadded, hnext⟩ := ih hwritten
        refine ⟨past', e', rest ++ [e], others, next, by simp, hbefore, hadded, ?_⟩
        exact hnext.trans (List.prefix_append _ _)

theorem exists_addedAfter_eq_concat (past : List ListingEntry) (e : ListingEntry) :
    ∃ others, addedAfter past e = others ++ [.entry e] := by
  unfold addedAfter
  split
  · exact ⟨[], rfl⟩
  · exact ⟨[.heading e.filename], rfl⟩

theorem eq_of_singleton_eq_append {α : Type} {l m : List α} {a b : α} (h : [a] = l ++ b :: m) :
    l = [] ∧ b = a := by
  rcases List.append_eq_singleton_iff.mp h.symm with ⟨hl, hrest⟩ | ⟨-, hrest⟩
  · exact ⟨hl, (List.cons.inj hrest).1⟩
  · cases hrest

/-- A violation adds a heading in front of its lines, and only the first one of its file does. -/
theorem addedAfter_cases {others next : List ListingPart}
    (h : addedAfter past e = others ++ p :: next) :
    (p = .heading e.filename ∧ others = [] ∧ next = [.entry e] ∧
      e.filename ∉ past.map filename) ∨
    (p = .entry e ∧ addedAfter past e = others ++ [.entry e]) := by
  by_cases hpast : e.filename ∈ past.map filename
  · have hadded : addedAfter past e = [.entry e] := if_pos hpast
    rw [hadded] at h ⊢
    obtain ⟨rfl, rfl⟩ := eq_of_singleton_eq_append h
    exact .inr ⟨rfl, rfl⟩
  · have hadded : addedAfter past e = [.heading e.filename, .entry e] := if_neg hpast
    rw [hadded] at h ⊢
    cases others with
    | nil =>
      obtain ⟨rfl, rfl⟩ := List.cons.inj h
      exact .inl ⟨rfl, rfl, rfl, hpast⟩
    | cons q others =>
      obtain ⟨rfl, hrest⟩ := List.cons.inj h
      obtain ⟨rfl, rfl⟩ := eq_of_singleton_eq_append hrest
      exact .inr ⟨rfl, rfl⟩

/-- A heading comes right before the first violation of its file. -/
theorem first_of_heading (h : written es = before ++ .heading f :: tail) :
    ∃ e rest, tail = .entry e :: rest ∧ e.filename = f ∧
      ∀ d ∈ before.filterMap ListingPart.listed?, d.filename ≠ f := by
  obtain ⟨past, e, rest, others, next, -, rfl, hadded, hnext⟩ := exists_addedAfter h
  rcases addedAfter_cases hadded with ⟨hpart, rfl, rfl, hpast⟩ | ⟨hpart, -⟩
  · obtain rfl := ListingPart.heading.inj hpart
    obtain ⟨tail, rfl⟩ := hnext
    refine ⟨e, tail, rfl, rfl, fun d hd hfile => hpast ?_⟩
    rw [List.append_nil, filterMap_listed?_written] at hd
    exact List.mem_map.mpr ⟨d, hd, hfile⟩
  · cases hpart

/-- The lines of a violation come last in what is written up to it. -/
theorem written_eq_append_entry_iff : (∃ tail, written es = before ++ .entry e :: tail) ↔
    ∃ past rest, es = past ++ e :: rest ∧ written (past ++ [e]) = before ++ [.entry e] := by
  constructor
  · rintro ⟨tail, h⟩
    obtain ⟨past, d, rest, others, next, rfl, rfl, hadded, -⟩ := exists_addedAfter h
    rcases addedAfter_cases hadded with ⟨hpart, -⟩ | ⟨hpart, hlast⟩
    · cases hpart
    · obtain rfl := ListingPart.entry.inj hpart
      exact ⟨past, rest, rfl, by rw [written_concat, hlast, List.append_assoc]⟩
  · rintro ⟨past, rest, rfl, h⟩
    refine ⟨writtenFrom (after (past ++ [e])) rest, ?_⟩
    rw [List.append_cons past, written, writtenFrom_append]
    exact (congrArg (· ++ _) h).trans (List.append_assoc _ _ _)

end Parts

/-! ### Files in one piece -/

section Contiguous

variable {past rest es : List ListingEntry} {e d : ListingEntry} {f g : String}
  {before : List ListingPart}

/-- The last heading of some parts. -/
def lastHeading? (parts : List ListingPart) : Option String :=
  (parts.filterMap ListingPart.heading?).getLast?

theorem lastHeading?_concat_entry :
    lastHeading? (before ++ [.entry e]) = lastHeading? before := by
  simp [lastHeading?, ListingPart.heading?]

/-- The first violation of a file has its heading. -/
theorem lastHeading?_of_notMem (h : e.filename ∉ past.map filename) :
    lastHeading? (written (past ++ [e])) = some e.filename := by
  have hheadings : (addedAfter past e).filterMap ListingPart.heading? = [e.filename] := by
    rw [addedAfter, if_neg h]
    rfl
  rw [lastHeading?, written_concat, List.filterMap_append, hheadings, List.getLast?_concat]

/-- Other ones have the heading of the violation before them. -/
theorem lastHeading?_of_mem (h : e.filename ∈ past.map filename) :
    lastHeading? (written (past ++ [e])) = lastHeading? (written past) := by
  rw [written_concat, addedAfter, if_pos h, lastHeading?_concat_entry]

theorem concat_sublist_concat_iff {α : Type} {l m : List α} {a b : α} :
    (l ++ [a]).Sublist (m ++ [b]) ↔ (l ++ [a]).Sublist m ∨ (a = b ∧ l.Sublist m) := by
  rw [← List.reverse_sublist, List.reverse_concat', List.reverse_concat', List.cons_sublist_cons',
    ← List.reverse_concat', List.reverse_sublist, List.reverse_sublist]

/-- In one piece, a file that was seen is that of the violation before. -/
theorem lastHeading?_of_isContiguous (h : IsContiguous ((past ++ [e]).map filename)) :
    lastHeading? (written (past ++ [e])) = some e.filename := by
  induction past using List.reverseRecOn generalizing e with
  | nil => exact lastHeading?_of_notMem List.not_mem_nil
  | append_singleton past d ih =>
    by_cases hseen : e.filename ∈ (past ++ [d]).map filename
    · -- with another file in between, this one would come again
      have hd : d.filename = e.filename := by
        rw [List.map_append, List.mem_append] at hseen
        rcases hseen with hpast | hlast
        · refine h e.filename d.filename ?_
          simp only [List.map_append]
          exact ((List.singleton_sublist.mpr hpast).append (List.Sublist.refl [d.filename])).append
            (List.Sublist.refl [e.filename])
        · exact (List.mem_singleton.mp hlast).symm
      have hpast : IsContiguous ((past ++ [d]).map filename) :=
        h.of_sublist ((List.sublist_append_left _ _).map filename)
      rw [lastHeading?_of_mem hseen, ih hpast, hd]
    · exact lastHeading?_of_notMem hseen

/-- Files are in one piece exactly if every violation stands under the heading of its file. -/
theorem isContiguous_iff : IsContiguous (es.map filename) ↔
    ∀ past e rest, es = past ++ e :: rest →
      lastHeading? (written (past ++ [e])) = some e.filename := by
  constructor
  · rintro h past e rest rfl
    rw [List.append_cons] at h
    exact lastHeading?_of_isContiguous
      (h.of_sublist ((List.sublist_append_left _ rest).map filename))
  · intro h
    induction es using List.reverseRecOn with
    | nil => exact fun f g hsublist => by cases hsublist
    | append_singleton past e ih =>
      have hpast : IsContiguous (past.map filename) := by
        refine ih fun past' d rest hsplit => h past' d (rest ++ [e]) ?_
        rw [hsplit, List.append_assoc, List.cons_append]
      intro f g hsublist
      rw [List.map_append] at hsublist
      -- a file comes again in the past, or with the last violation
      rcases concat_sublist_concat_iff (l := [f, g]).mp hsublist with hinside | ⟨rfl, hpair⟩
      · exact hpast f g hinside
      · have hseen : e.filename ∈ past.map filename := hpair.subset List.mem_cons_self
        have hlast := h past e [] rfl
        rw [lastHeading?_of_mem hseen] at hlast
        -- the violation before the last one is under the same heading
        rcases List.eq_nil_or_concat' past with rfl | ⟨past, d, rfl⟩
        · cases hseen
        · have hbefore := h past d [e] (List.append_assoc _ _ _)
          have hd : d.filename = e.filename := Option.some.inj (hbefore.symm.trans hlast)
          rw [List.map_append, List.map_singleton, hd] at hpair
          rcases concat_sublist_concat_iff (l := [e.filename]).mp hpair with hinside | ⟨hg, -⟩
          · refine hpast e.filename g ?_
            rw [List.map_append, List.map_singleton, hd]
            exact hinside.append (List.Sublist.refl [e.filename])
          · exact hg

end Contiguous

/-! ### The texts of the parts -/

/-- A text that is filled up with blanks to a width. -/
def filledUp (width : Nat) (text : String) : String :=
  text ++ String.ofList (List.replicate (width - text.length) ' ')

/-- The line of a violation: its place, its code and its text. -/
def violationLine (e : ListingEntry) : String :=
  "  " ++ filledUp 8 (toString e.line ++ ":" ++ toString e.column) ++ " " ++ filledUp 5 e.code
    ++ " " ++ e.text ++ "\n"

section Texts

variable {highlight : String → String} {showSource : Bool} {e : ListingEntry}

theorem padded_eq (width : Nat) (text : String) : padded width text = filledUp width text := by
  rw [padded, blanks, Int.toNat_sub, filledUp]

theorem entryLine_eq (showSource : Bool) (e : ListingEntry) : entryLine showSource e =
    (if showSource && e.source.isSome then "\n" else "") ++ violationLine e := by
  simp only [entryLine, padded_eq, violationLine, String.append_assoc]

/-- Without a line of the program there is only the line of the violation. -/
theorem text_entry_of_none (h : showSource = false ∨ e.source = none) :
    ListingPart.text highlight showSource (.entry e) = violationLine e := by
  rw [ListingPart.text, entryLine_eq]
  rcases h with rfl | hnone
  · simp [sourceLines]
  · cases showSource <;> simp [sourceLines, hnone]

/-- With one, it follows without the blanks at its beginning, and a mark under it. -/
theorem text_entry_of_some {indent shown : List Char}
    (h : e.source = some (String.ofList (indent ++ shown)))
    (hindent : ∀ c ∈ indent, Text.isBlank c = true)
    (hshown : ∀ c, shown.head? = some c → Text.isBlank c = false) :
    ListingPart.text highlight true (.entry e) =
      "\n" ++ violationLine e ++ ("  " ++ highlight (String.ofList shown) ++ "  "
        ++ String.ofList (List.replicate (e.column - 1 - indent.length).toNat ' ') ++ "^\n") := by
  have hrest : (indent ++ shown).dropWhile Text.isBlank = shown := by
    rw [List.dropWhile_append_of_pos hindent]
    cases shown with
    | nil => rfl
    | cons c rest => rw [List.dropWhile_cons_of_neg (by simp [hshown c rfl])]
  rw [ListingPart.text, entryLine_eq]
  simp only [sourceLines, h, String.toList_ofList, hrest]
  simp [blanks]

end Texts

end Listing

open Listing in
/-- **Headings.** Whatever violations are listed from the start on, all of them are counted. Every
file of theirs gets one heading, and no other file gets one. A heading stands right before the lines
of the first violation of its file. The violations of every file come in one piece exactly if each
violation stands under the heading of its own file.

A heading is the name of the file, bold and underlined, after an empty line. A violation has its
line and, if it is asked for, the line of the program in whatever colours, with a mark under it. -/
theorem handleAll_writes_headings (highlight : String → String) (showSource : Bool)
    (es : List ListingEntry) :
    (handleAll showSource { highlight } es).1 =
      String.join ((written es).map (ListingPart.text highlight showSource)) ∧
    (∀ f, ListingPart.text highlight showSource (.heading f) =
      "\n" ++ "\x1b[4m" ++ "\x1b[1m" ++ f ++ "\x1b[0m" ++ "\x1b[0m" ++ "\n") ∧
    (∀ e, showSource = false ∨ e.source = none →
      ListingPart.text highlight showSource (.entry e) = violationLine e) ∧
    (∀ e indent shown, showSource = true → e.source = some (String.ofList (indent ++ shown)) →
      (∀ c ∈ indent, Text.isBlank c = true) →
      (∀ c, shown.head? = some c → Text.isBlank c = false) →
      ListingPart.text highlight showSource (.entry e) =
        "\n" ++ violationLine e ++ ("  " ++ highlight (String.ofList shown) ++ "  "
          ++ String.ofList (List.replicate (e.column - 1 - indent.length).toNat ' ') ++ "^\n")) ∧
    (handleAll showSource { highlight } es).2.count = es.length ∧
    (written es).filterMap ListingPart.listed? = es ∧
    (∀ f, (written es).count (.heading f) = if f ∈ es.map filename then 1 else 0) ∧
    (∀ before f tail, written es = before ++ .heading f :: tail →
      ∃ e rest, tail = .entry e :: rest ∧ e.filename = f ∧
        ∀ d ∈ before.filterMap ListingPart.listed?, d.filename ≠ f) ∧
    (IsContiguous (es.map filename) ↔
      ∀ before e tail, written es = before ++ .entry e :: tail →
        lastHeading? before = some e.filename) := by
  refine ⟨?_, fun f => ?_, fun e h => text_entry_of_none h, ?_, ?_, filterMap_listed?_written,
    fun f => count_heading_written, fun before f tail h => first_of_heading h, ?_⟩
  · have hwritten : writtenFrom { highlight } es = written es :=
      writtenFrom_congr (l := { highlight }) (m := {}) rfl es
    rw [handleAll_eq, hwritten]
  · simp only [ListingPart.text, heading, underline, bold, String.append_assoc]
  · rintro e indent shown rfl hsource hindent hshown
    exact text_entry_of_some hsource hindent hshown
  · rw [handleAll_eq]
    exact (count_foldl_next _ es).trans (Nat.zero_add _)
  · rw [isContiguous_iff]
    constructor
    · intro h before e tail hwritten
      obtain ⟨past, rest, hes, hbefore⟩ := written_eq_append_entry_iff.mp ⟨tail, hwritten⟩
      have hlast := h past e rest hes
      rwa [hbefore, lastHeading?_concat_entry] at hlast
    · intro h past e rest hes
      obtain ⟨others, hothers⟩ := exists_addedAfter_eq_concat past e
      have hbefore : written (past ++ [e]) = (written past ++ others) ++ [.entry e] := by
        rw [written_concat, hothers, List.append_assoc]
      obtain ⟨tail, hwritten⟩ := written_eq_append_entry_iff.mpr ⟨past, rest, hes, hbefore⟩
      rw [hbefore, lastHeading?_concat_entry]
      exact h _ e tail hwritten

/-- A violation with the line that it is about. -/
def firstEntry : ListingEntry :=
  ⟨"WPS100", "first.py", 1, 3, "Found wrong module name", some "  value"⟩

/-- Another one in the same file. -/
def secondEntry : ListingEntry :=
  ⟨"WPS110", "first.py", 4, 2, "Found wrong variable name", none⟩

/-- A violation in another file. -/
def thirdEntry : ListingEntry :=
  ⟨"WPS110", "second.py", 1, 1, "Found wrong variable name", none⟩

open Listing in
theorem handleAll_writes_headings_twoFiles :
    IsContiguous ([firstEntry, secondEntry, thirdEntry].map filename) ∧
    (handleAll true { highlight := fun line => line ++ "\n" }
      [firstEntry, secondEntry, thirdEntry]).1 =
      "\n\x1b[4m\x1b[1mfirst.py\x1b[0m\x1b[0m\n" ++
        "\n  1:3      WPS100 Found wrong module name\n  value\n  ^\n" ++
        "  4:2      WPS110 Found wrong variable name\n" ++
        "\n\x1b[4m\x1b[1msecond.py\x1b[0m\x1b[0m\n" ++
        "  1:1      WPS110 Found wrong variable name\n" ∧
    lastHeading? [.heading "first.py", .entry firstEntry] = some "first.py" ∧
    (handleAll true { highlight := fun line => line ++ "\n" }
      [firstEntry, secondEntry, thirdEntry]).2.count = 3 := by
  have hwritten : written [firstEntry, secondEntry, thirdEntry] =
      [.heading "first.py", .entry firstEntry, .entry secondEntry, .heading "second.py",
        .entry thirdEntry] := by
    decide
  have hfiles : IsContiguous ([firstEntry, secondEntry, thirdEntry].map filename) := by
    intro f g hsublist
    have heq : [f, g, f] = ["first.py", "first.py", "second.py"] := hsublist.eq_of_length rfl
    simp_all
  obtain ⟨htext, hheading, hline, hsource, hcount, -, -, -, hown⟩ :=
    handleAll_writes_headings (fun line => line ++ "\n") true
      [firstEntry, secondEntry, thirdEntry]
  refine ⟨hfiles, ?_, hown.mp hfiles _ secondEntry _ hwritten, hcount⟩
  have hindent (c : Char) (hc : c ∈ [' ', ' ']) : Text.isBlank c = true := by
    obtain rfl : c = ' ' := by simpa using hc
    decide
  have hshown (c : Char) (hc : "value".toList.head? = some c) : Text.isBlank c = false := by
    obtain rfl : 'v' = c := Option.some.inj hc
    decide
  have hfirst := hsource firstEntry [' ', ' '] "value".toList rfl rfl hindent hshown
  rw [htext, hwritten]
  simp only [List.map_cons, List.map_nil, hheading, hfirst, hline secondEntry (.inr rfl),
    hline thirdEntry (.inr rfl)]
  decide +kernel

end Stricture
