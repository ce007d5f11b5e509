import Mathlib.Algebra.BigOperators.Group.List.Basic
import Mathlib.Algebra.Order.Ring.Nat
import Mathlib.Data.List.Induction
import Mathlib.Data.List.Nodup
import Mathlib.Data.List.Perm.Basic
import Stricture.Proofs.Listing.Headings

/-!
# Statistics of a listing

For every code, the statistics name its files with their counts and then the total, and at the end
the sum of all totals. A code stands also for those that it is the beginning of. The records come
from a store, of which nothing is known but that it has the records (`Statistics.Serves`): every
code once, and for a code the records whose codes begin with it.

* `Tally.records_ofEntries`: there is one record for every file and code, and under any test on file
  and code the records count as much as there are violations that pass it.
* `Statistics.countsFiles_perFile`: the counts that are kept by file, record after record, are those
  of the records of each file.
* `sum_totalOf_filter`: counts by groups add up to the whole. Files are such groups for each
  section, and codes are for all violations, if no code is the beginning of another.
-/

namespace Stricture

/-! ### Sums -/

theorem totalOf_eq_sum {α : Type} (count : α → Nat) (things : List α) :
    totalOf count things = (things.map count).sum := by
  induction things with
  | nil => rfl
  | cons t things ih => rw [List.map_cons, List.sum_cons, ← ih]; rfl

/-- Things in groups with different keys count as much as all of them. -/
theorem sum_totalOf_filter {α κ : Type} [DecidableEq κ] (key : α → κ) (count : α → Nat)
    {keys : List κ} (hkeys : keys.Nodup) (things : List α) (hmem : ∀ t ∈ things, key t ∈ keys) :
    (keys.map fun k => totalOf count (things.filter fun t => key t == k)).sum =
      totalOf count things := by
  induction things with
  | nil => simp [totalOf]
  | cons t things ih =>
    obtain ⟨ht, hrest⟩ := List.forall_mem_cons.mp hmem
    have hstep : ∀ k, totalOf count ((t :: things).filter fun t => key t == k) =
        (if key t = k then count t else 0) + totalOf count (things.filter fun t => key t == k) := by
      intro k
      by_cases hk : key t = k
      · rw [List.filter_cons_of_pos (by simpa using hk), if_pos hk]
        rfl
      · rw [List.filter_cons_of_neg (by simpa using hk), if_neg hk, Nat.zero_add]
    -- only the group of this thing gets it
    have hone : (keys.map fun k => if key t = k then count t else 0).sum = count t := by
      rw [List.sum_map_eq_nsmul_single (key t) _ fun k hk _ => if_neg hk.symm, if_pos rfl,
        List.count_eq_one_of_mem hkeys ht, one_nsmul]
    simp only [hstep, List.sum_map_add, hone, ih hrest]
    rfl

/-! ### Records -/

/-- What a violation is counted for: its file and its code. -/
def ListingEntry.key (e : ListingEntry) : String × String :=
  (e.filename, e.code)

/-- What a record is for. -/
def TallyRecord.key (r : TallyRecord) : String × String :=
  (r.filename, r.code)

namespace Tally

/-- The statistics of some violations, counted one after the other. -/
def ofEntries (es : List ListingEntry) : Tally :=
  es.foldl record []

/-- There is one record for each file and code of some violations, and all of them are counted. -/
structure Records (tally : Tally) (es : List ListingEntry) : Prop where
  nodup : (tally.map TallyRecord.key).Nodup
  mem_iff : ∀ k, k ∈ tally.map TallyRecord.key ↔ k ∈ es.map ListingEntry.key
  total_eq : ∀ test : String × String → Bool,
    totalOf TallyRecord.count (tally.filter fun r => test r.key) = es.countP fun e => test e.key

section Record

variable {tally : Tally} {es : List ListingEntry} {e : ListingEntry}

/-- A violation is counted in the one record that there is for it, or in a new one. -/
theorem record_cases (h : (tally.map TallyRecord.key).Nodup) (e : ListingEntry) :
    (∃ before r after, tally = before ++ r :: after ∧ r.key = e.key ∧
      tally.record e = before ++ { r with count := r.count + 1 } :: after) ∨
    (e.key ∉ tally.map TallyRecord.key ∧
      tally.record e = tally ++ [⟨e.filename, e.code, e.text, 1⟩]) := by
  have hkey : ∀ r : TallyRecord,
      (r.filename == e.filename && r.code == e.code) = true ↔ r.key = e.key := by
    intro r
    simp [TallyRecord.key, ListingEntry.key]
  by_cases hmem : e.key ∈ tally.map TallyRecord.key
  · left
    obtain ⟨r, hr, hsame⟩ := List.mem_map.mp hmem
    obtain ⟨before, after, rfl⟩ := List.append_of_mem hr
    refine ⟨before, r, after, rfl, hsame, ?_⟩
    -- the other records have other keys, and stay as they are
    have hothers : ∀ d ∈ before ++ after, ¬ (d.filename == e.filename && d.code == e.code) := by
      rw [List.map_append, List.map_cons, List.nodup_middle, List.nodup_cons, hsame,
        ← List.map_append] at h
      exact fun d hd heq => h.1 (List.mem_map.mpr ⟨d, hd, (hkey d).mp heq⟩)
    have hany : (before ++ r :: after).any
        (fun d => d.filename == e.filename && d.code == e.code) = true :=
      List.any_eq_true.mpr ⟨r, hr, (hkey r).mpr hsame⟩
    have hkeep : ∀ part : List TallyRecord,
        (∀ d ∈ part, ¬ (d.filename == e.filename && d.code == e.code)) →
        (part.map fun d => if d.filename == e.filename && d.code == e.code then
          { d with count := d.count + 1 } else d) = part := by
      intro part hpart
      exact (List.map_congr_left fun d hd => if_neg (hpart d hd)).trans (List.map_id' part)
    obtain ⟨hbefore, hafter⟩ := List.forall_mem_append.mp hothers
    rw [record, if_pos hany, List.map_append, List.map_cons, if_pos ((hkey r).mpr hsame),
      hkeep before hbefore, hkeep after hafter]
  · right
    refine ⟨hmem, if_neg fun hany => hmem ?_⟩
    obtain ⟨r, hr, hsame⟩ := List.any_eq_true.mp hany
    exact List.mem_map.mpr ⟨r, hr, (hkey r).mp hsame⟩

theorem map_key_record (h : (tally.map TallyRecord.key).Nodup) (e : ListingEntry) :
    (tally.record e).map TallyRecord.key =
      if e.key ∈ tally.map TallyRecord.key then tally.map TallyRecord.key
      else tally.map TallyRecord.key ++ [e.key] := by
  rcases record_cases h e with ⟨before, r, after, rfl, hr, hrecord⟩ | ⟨hnew, hrecord⟩
  · have hold : e.key ∈ (before ++ r :: after).map TallyRecord.key := by
      rw [← hr]
      exact List.mem_map_of_mem (List.mem_append_right _ List.mem_cons_self)
    rw [if_pos hold, hrecord, List.map_append, List.map_append]
    rfl
  · rw [if_neg hnew, hrecord, List.map_append]
    rfl

/-- One more violation is counted once. -/
theorem totalOf_record (h : (tally.map TallyRecord.key).Nodup) (e : ListingEntry)
    (test : String × String → Bool) :
    totalOf TallyRecord.count ((tally.record e).filter fun r => test r.key) =
      totalOf TallyRecord.count (tally.filter fun r => test r.key) +
        if test e.key then 1 else 0 := by
  simp only [totalOf_eq_sum]
  rcases record_cases h e with ⟨before, r, after, rfl, hr, hrecord⟩ | ⟨-, hrecord⟩
  · have hsame : ({ r with count := r.count + 1 } : TallyRecord).key = r.key := rfl
    rw [hrecord, List.filter_append, List.filter_append, List.filter_cons, List.filter_cons, hsame,
      hr]
    split
    · simp only [List.map_append, List.map_cons, List.sum_append, List.sum_cons]
      omega
    · rfl
  · have hkey : (⟨e.filename, e.code, e.text, 1⟩ : TallyRecord).key = e.key := rfl
    rw [hrecord, List.filter_append, List.map_append, List.sum_append, List.filter_cons, hkey]
    split <;> rfl

theorem Records.record (h : Records tally es) (e : ListingEntry) :
    Records (tally.record e) (es ++ [e]) where
  nodup := by
    rw [map_key_record h.nodup]
    split
    case isTrue => exact h.nodup
    case isFalse hnew =>
      rw [← List.concat_eq_append]
      exact h.nodup.concat hnew
  mem_iff k := by
    rw [map_key_record h.nodup, List.map_append, List.mem_append, ← h.mem_iff]
    split
    case isTrue hold =>
      refine (or_iff_left_of_imp fun hk => ?_).symm
      rwa [List.mem_singleton.mp hk]
    case isFalse => exact List.mem_append
  total_eq test := by
    rw [totalOf_record h.nodup, h.total_eq, List.countP_append, List.countP_singleton]

theorem records_ofEntries (es : List ListingEntry) : Records (ofEntries es) es := by
  induction es using List.reverseRecOn with
  | nil => exact ⟨List.nodup_nil, fun k => Iff.rfl, fun test => rfl⟩
  | append_singleton past e ih =>
    rw [ofEntries, List.foldl_concat]
    exact ih.record e

end Record

/-- A test on file and code is passed by records as it is by violations. -/
theorem Records.exists_iff {tally : Tally} {es : List ListingEntry} (h : Records tally es)
    (test : String × String → Prop) :
    (∃ r ∈ tally, test r.key) ↔ ∃ e ∈ es, test e.key := by
  have hkeys : ∀ k, (∃ r ∈ tally, r.key = k) ↔ ∃ e ∈ es, e.key = k := by
    intro k
    rw [← List.mem_map, ← List.mem_map]
    exact h.mem_iff k
  constructor
  · rintro ⟨r, hr, htest⟩
    obtain ⟨e, he, hkey⟩ := (hkeys r.key).mp ⟨r, hr, rfl⟩
    exact ⟨e, he, hkey ▸ htest⟩
  · rintro ⟨e, he, htest⟩
    obtain ⟨r, hr, hkey⟩ := (hkeys e.key).mpr ⟨e, he, rfl⟩
    exact ⟨r, hr, hkey ▸ htest⟩

end Tally

namespace Statistics

/-! ### Files -/

section Files

variable {counts : List (String × Nat)} {records : List TallyRecord} {r : TallyRecord}
  {f : String} {n : Nat}

/-- Every file of some records is there once, with the count of its records. -/
structure CountsFiles (counts : List (String × Nat)) (records : List TallyRecord) : Prop where
  nodup : (counts.map Prod.fst).Nodup
  mem_iff : ∀ f n, (f, n) ∈ counts ↔ f ∈ records.map TallyRecord.filename ∧
    n = totalOf TallyRecord.count (records.filter fun r => r.filename == f)

theorem CountsFiles.mem_map_fst_iff (h : CountsFiles counts records) :
    f ∈ counts.map Prod.fst ↔ f ∈ records.map TallyRecord.filename := by
  rw [List.mem_map]
  constructor
  · rintro ⟨⟨g, n⟩, hmem, rfl⟩
    exact ((h.mem_iff g n).mp hmem).1
  · intro hf
    exact ⟨(f, _), (h.mem_iff f _).mpr ⟨hf, rfl⟩, rfl⟩

theorem any_fst_eq_iff :
    (counts.any fun c => c.1 == f) = true ↔ f ∈ counts.map Prod.fst := by
  rw [List.any_eq_true, List.mem_map]
  simp only [beq_iff_eq]

theorem map_fst_addCount (counts : List (String × Nat)) (r : TallyRecord) :
    (addCount counts r).map Prod.fst = if r.filename ∈ counts.map Prod.fst
      then counts.map Prod.fst else counts.map Prod.fst ++ [r.filename] := by
  simp only [addCount, any_fst_eq_iff]
  split
  case isTrue =>
    rw [List.map_map]
    refine List.map_congr_left fun c _ => ?_
    rw [Function.comp_apply]
    split <;> rfl
  case isFalse => rw [List.map_append, List.map_singleton]

/-- One more record is counted for its own file. -/
theorem mem_addCount : (f, n) ∈ addCount counts r ↔
    ((f, n) ∈ counts ∧ f ≠ r.filename) ∨
    (f = r.filename ∧ ((∃ m, (f, m) ∈ counts ∧ n = m + r.count) ∨
      (f ∉ counts.map Prod.fst ∧ n = r.count))) := by
  simp only [addCount, any_fst_eq_iff]
  split
  case isTrue hold =>
    rw [List.mem_map]
    constructor
    · rintro ⟨⟨g, m⟩, hmem, heq⟩
      split at heq
      case isTrue hg =>
        obtain ⟨rfl, rfl⟩ := Prod.mk.inj heq
        exact .inr ⟨eq_of_beq hg, .inl ⟨m, hmem, rfl⟩⟩
      case isFalse hg =>
        obtain ⟨rfl, rfl⟩ := Prod.mk.inj heq
        exact .inl ⟨hmem, fun hsame => hg (beq_iff_eq.mpr hsame)⟩
    · rintro (⟨hmem, hne⟩ | ⟨rfl, ⟨m, hmem, rfl⟩ | ⟨hnew, -⟩⟩)
      · exact ⟨(f, n), hmem, if_neg fun hsame => hne (eq_of_beq hsame)⟩
      · exact ⟨(r.filename, m), hmem, if_pos (beq_self_eq_true _)⟩
      · exact absurd hold hnew
  case isFalse hnew =>
    rw [List.mem_append, List.mem_singleton, Prod.mk.injEq]
    have hne : ∀ m, (f, m) ∈ counts → f ≠ r.filename := by
      rintro m hmem rfl
      exact hnew (List.mem_map_of_mem hmem)
    constructor
    · rintro (hmem | ⟨rfl, rfl⟩)
      · exact .inl ⟨hmem, hne n hmem⟩
      · exact .inr ⟨rfl, .inr ⟨hnew, rfl⟩⟩
    · rintro (⟨hmem, -⟩ | ⟨hf, ⟨m, hmem, -⟩ | ⟨-, hn⟩⟩)
      · exact .inl hmem
      · exact absurd hf (hne m hmem)
      · exact .inr ⟨hf, hn⟩

/-- The count of a file after one more record. -/
theorem totalOf_filter_concat (records : List TallyRecord) (r : TallyRecord) (f : String) :
    totalOf TallyRecord.count ((records ++ [r]).filter fun r => r.filename == f) =
      totalOf TallyRecord.count (records.filter fun r => r.filename == f) +
        if r.filename = f then r.count else 0 := by
  simp only [totalOf_eq_sum, List.filter_append, List.map_append, List.sum_append]
  by_cases hf : r.filename = f <;> simp [hf]

theorem CountsFiles.addCount (h : CountsFiles counts records) (r : TallyRecord) :
    CountsFiles (addCount counts r) (records ++ [r]) where
  nodup := by
    rw [map_fst_addCount]
    split
    case isTrue => exact h.nodup
    case isFalse hnew =>
      rw [← List.concat_eq_append]
      exact h.nodup.concat hnew
  mem_iff f n := by
    rw [mem_addCount, totalOf_filter_concat, List.map_append, List.mem_append,
      List.map_singleton, List.mem_singleton, h.mem_map_fst_iff]
    simp only [h.mem_iff]
    by_cases hf : f = r.filename
    · subst hf
      by_cases hold : r.filename ∈ records.map TallyRecord.filename
      · simp [hold]
      · have hnone : records.filter (fun d => d.filename == r.filename) = [] := by
          rw [List.filter_eq_nil_iff]
          intro d hd hsame
          exact hold (List.mem_map.mpr ⟨d, hd, eq_of_beq hsame⟩)
        simp [hold, hnone, totalOf]
    · simp [hf, Ne.symm hf]

theorem countsFiles_perFile (records : List TallyRecord) :
    CountsFiles (perFile records) records := by
  induction records using List.reverseRecOn with
  | nil => exact ⟨List.nodup_nil, by simp [perFile]⟩
  | append_singleton past r ih =>
    rw [perFile, List.foldl_concat]
    exact ih.addCount r

/-- The counts of the files add up. -/
theorem sum_perFile (records : List TallyRecord) :
    ((perFile records).map Prod.snd).sum = totalOf TallyRecord.count records := by
  have hfiles := countsFiles_perFile records
  have hcounts : (perFile records).map Prod.snd = ((perFile records).map Prod.fst).map fun f =>
      totalOf TallyRecord.count (records.filter fun r => r.filename == f) := by
    rw [List.map_map]
    exact List.map_congr_left fun c hc => ((hfiles.mem_iff c.1 c.2).mp hc).2
  rw [hcounts]
  exact sum_totalOf_filter TallyRecord.filename TallyRecord.count hfiles.nodup records
    fun r hr => hfiles.mem_map_fst_iff.mpr (List.mem_map_of_mem hr)

end Files

/-! ### Sections -/

/-- A store that has some records: it knows each of their codes once, and it gives for a code all
records whose codes begin with it, in whatever order. -/
structure Serves (store : Statistics) (records : List TallyRecord) : Prop where
  nodup : store.codes.Nodup
  mem_codes_iff : ∀ c, c ∈ store.codes ↔ c ∈ records.map TallyRecord.code
  perm : ∀ c, (store.recordsFor c).Perm
    (records.filter fun r => c.toList.isPrefixOf r.code.toList)

/-- The section of a code that has records. -/
def sectionOf (store : Statistics) (code : String) : CodeSection where
  code := code
  message := ((store.recordsFor code).head?.map TallyRecord.message).getD ""
  files := perFile (store.recordsFor code)
  total := totalOf TallyRecord.count (store.recordsFor code)

theorem mapM_eq_some_map {α β : Type} {g : α → Option β} {h : α → β} {l : List α}
    (heq : ∀ a ∈ l, g a = some (h a)) : l.mapM g = some (l.map h) := by
  induction l with
  | nil => rfl
  | cons a rest ih =>
    obtain ⟨ha, hrest⟩ := List.forall_mem_cons.mp heq
    rw [List.mapM_cons, ha, ih hrest]
    rfl

theorem totalOf_perm {α : Type} (count : α → Nat) {things others : List α}
    (h : things.Perm others) : totalOf count things = totalOf count others := by
  rw [totalOf_eq_sum, totalOf_eq_sum]
  exact (h.map count).sum_eq

section Sections

variable {store : Statistics} {tally : Tally} {es : List ListingEntry} {c f : String} {n : Nat}

/-- A code that was counted has a record, so that the first one can be asked for. -/
theorem Serves.exists_first (h : store.Serves tally) (hc : c ∈ store.codes) :
    ∃ first others, store.recordsFor c = first :: others := by
  obtain ⟨r, hr, rfl⟩ := List.mem_map.mp ((h.mem_codes_iff c).mp hc)
  have hmem : r ∈ store.recordsFor r.code := by
    rw [(h.perm r.code).mem_iff, List.mem_filter, List.isPrefixOf_iff_prefix]
    exact ⟨hr, List.prefix_refl _⟩
  exact List.exists_cons_of_ne_nil (List.ne_nil_of_mem hmem)

theorem Serves.codeSection?_eq (h : store.Serves tally) (hc : c ∈ store.codes) :
    store.codeSection? c = some (store.sectionOf c) := by
  obtain ⟨first, others, hrecords⟩ := h.exists_first hc
  simp only [codeSection?, sectionOf, hrecords]
  rfl

theorem Serves.sections?_eq (h : store.Serves tally) :
    store.sections? = some (store.codes.map store.sectionOf) :=
  mapM_eq_some_map fun _ hc => h.codeSection?_eq hc

theorem Serves.mem_codes_iff_exists (h : store.Serves tally) (hrecords : tally.Records es) :
    c ∈ store.codes ↔ ∃ e ∈ es, e.code = c := by
  rw [h.mem_codes_iff, List.mem_map]
  exact hrecords.exists_iff fun k => k.2 = c

/-- The records of a file for a code count its violations. -/
theorem Serves.totalOf_recordsFor (h : store.Serves tally) (hrecords : tally.Records es)
    (c f : String) :
    totalOf TallyRecord.count ((store.recordsFor c).filter fun r => r.filename == f) =
      es.countP fun e => e.filename = f ∧ c.toList <+: e.code.toList := by
  have hfilter : (tally.filter fun r => c.toList.isPrefixOf r.code.toList).filter
      (fun r => r.filename == f) =
      tally.filter fun r => decide (r.key.1 = f ∧ c.toList <+: r.key.2.toList) := by
    rw [List.filter_filter]
    refine List.filter_congr fun r _ => ?_
    rw [Bool.eq_iff_iff, Bool.and_eq_true, beq_iff_eq, List.isPrefixOf_iff_prefix,
      decide_eq_true_iff]
    rfl
  rw [totalOf_perm _ ((h.perm c).filter _), hfilter]
  exact hrecords.total_eq fun k => decide (k.1 = f ∧ c.toList <+: k.2.toList)

theorem Serves.mem_map_filename_iff (h : store.Serves tally) (hrecords : tally.Records es)
    (c f : String) : f ∈ (store.recordsFor c).map TallyRecord.filename ↔
      0 < es.countP fun e => e.filename = f ∧ c.toList <+: e.code.toList := by
  simp only [List.mem_map, (h.perm c).mem_iff, List.mem_filter, List.isPrefixOf_iff_prefix,
    List.countP_pos_iff, decide_eq_true_iff]
  refine Iff.trans ?_ (hrecords.exists_iff fun k => k.1 = f ∧ c.toList <+: k.2.toList)
  refine exists_congr fun r => ?_
  rw [and_assoc, and_comm (b := r.filename = f)]
  rfl

/-- The files of a section are those with violations for its code, each with their number. -/
theorem Serves.mem_files_iff (h : store.Serves tally) (hrecords : tally.Records es)
    (c f : String) (n : Nat) : (f, n) ∈ (store.sectionOf c).files ↔
      0 < n ∧ n = es.countP fun e => e.filename = f ∧ c.toList <+: e.code.toList := by
  rw [sectionOf, (countsFiles_perFile _).mem_iff, h.totalOf_recordsFor hrecords,
    h.mem_map_filename_iff hrecords]
  exact and_congr_left fun hn => by rw [hn]

/-- If no code is the beginning of another, every violation is in the total of one code. -/
theorem Serves.sum_total_eq (h : store.Serves tally) (hrecords : tally.Records es)
    (hcodes : ∀ d ∈ es, ∀ e ∈ es, d.code.toList <+: e.code.toList → d.code = e.code) :
    ((store.codes.map store.sectionOf).map CodeSection.total).sum = es.length := by
  have hmatching : ∀ c ∈ store.codes, totalOf TallyRecord.count (store.recordsFor c) =
      totalOf TallyRecord.count (tally.filter fun r => r.code == c) := by
    intro c hc
    rw [totalOf_perm _ (h.perm c)]
    refine congrArg _ (List.filter_congr fun r hr => ?_)
    -- both codes were seen, so that one begins with the other only if they are equal
    obtain ⟨d, hd, rfl⟩ := (h.mem_codes_iff_exists hrecords).mp hc
    obtain ⟨e, he, hcode⟩ := (hrecords.exists_iff fun k => k.2 = r.code).mp ⟨r, hr, rfl⟩
    have hcode : e.code = r.code := hcode
    rw [Bool.eq_iff_iff, List.isPrefixOf_iff_prefix, beq_iff_eq, ← hcode]
    exact ⟨fun hprefix => (hcodes d hd e he hprefix).symm, fun hsame => by simp [hsame]⟩
  calc ((store.codes.map store.sectionOf).map CodeSection.total).sum
      = (store.codes.map fun c => totalOf TallyRecord.count
          (tally.filter fun r => r.code == c)).sum := by
        rw [List.map_map]
        exact congrArg List.sum (List.map_congr_left hmatching)
    _ = totalOf TallyRecord.count tally :=
        sum_totalOf_filter TallyRecord.code TallyRecord.count h.nodup tally
          fun r hr => (h.mem_codes_iff _).mpr (List.mem_map_of_mem hr)
    _ = es.length := by
        have hall := hrecords.total_eq fun _ => true
        rwa [List.filter_true, List.countP_true] at hall

end Sections

end Statistics

/-- The records of a listing are such a store. -/
theorem Tally.serves_statistics (tally : Tally) : tally.statistics.Serves tally where
  nodup := nodup_eraseDups _
  mem_codes_iff c := by
    rw [statistics, codes, List.mem_eraseDups, List.mem_mergeSort]
  perm c := List.mergeSort_perm _ _

/-- The line of a file: its count and its name. -/
def fileLine (count : String × Nat) : String :=
  "  " ++ Listing.filledUp 5 (toString count.2) ++ " " ++ count.1 ++ "\n"

theorem CodeSection.text_eq (s : CodeSection) : s.text =
    "\n" ++ "\x1b[1m" ++ s.code ++ "\x1b[0m" ++ ": " ++ s.message ++ "\n"
      ++ String.join (s.files.map fileLine)
      ++ "\x1b[4m" ++ "Total: " ++ toString s.total ++ "\x1b[0m" ++ "\n" := by
  have hline : fileLine = fun c =>
      "  " ++ Listing.padded 5 (toString c.2) ++ " " ++ c.1 ++ "\n" := by
    simp only [funext fileLine.eq_1, Listing.padded_eq]
  rw [hline]
  simp only [text, Listing.bold, Listing.underline, String.append_assoc]

/-- **Statistics.** For whatever violations, and whatever store has their records, every code has a
section, and no other code has one. A section names every file with violations for its code once,
with their number, and the total is the sum of these. The figure at the end is the sum of all
totals, and it is the number of violations if no code is the beginning of another. -/
theorem summary_balances (es : List ListingEntry) (tally : Tally) (store : Statistics)
    (hrecords : tally.Records es) (hstore : store.Serves tally) :
    ∃ sections : List CodeSection,
      store.summary? = some (
        String.join (sections.map fun s =>
          "\n" ++ "\x1b[1m" ++ s.code ++ "\x1b[0m" ++ ": " ++ s.message ++ "\n"
            ++ String.join (s.files.map fileLine)
            ++ "\x1b[4m" ++ "Total: " ++ toString s.total ++ "\x1b[0m" ++ "\n")
          ++ "\n\n" ++ "\x1b[4m" ++ "\x1b[1m" ++ "All errors: "
          ++ toString (sections.map CodeSection.total).sum ++ "\x1b[0m" ++ "\x1b[0m" ++ "\n") ∧
      sections.map CodeSection.code = store.codes ∧ store.codes.Nodup ∧
      (∀ c, c ∈ store.codes ↔ ∃ e ∈ es, e.code = c) ∧
      (∀ s ∈ sections, (∃ first others, store.recordsFor s.code = first :: others ∧
          s.message = first.message) ∧
        s.total = (s.files.map Prod.snd).sum ∧ (s.files.map Prod.fst).Nodup ∧
        ∀ f n, (f, n) ∈ s.files ↔ 0 < n ∧
          n = es.countP fun e => e.filename = f ∧ s.code.toList <+: e.code.toList) ∧
      ((∀ d ∈ es, ∀ e ∈ es, d.code.toList <+: e.code.toList → d.code = e.code) →
        (sections.map CodeSection.total).sum = es.length) := by
  have hcodes : (store.codes.map store.sectionOf).map CodeSection.code = store.codes := by
    rw [List.map_map]
    exact List.map_id' _
  refine ⟨store.codes.map store.sectionOf, ?_, hcodes, hstore.nodup,
    fun c => hstore.mem_codes_iff_exists hrecords, fun s hs => ?_, hstore.sum_total_eq hrecords⟩
  · rw [Statistics.summary?, hstore.sections?_eq, Option.map_some, Statistics.allErrors,
      totalOf_eq_sum]
    simp only [funext CodeSection.text_eq, Listing.bold, Listing.underline, String.append_assoc]
  · obtain ⟨c, hc, rfl⟩ := List.mem_map.mp hs
    obtain ⟨first, others, hfirst⟩ := hstore.exists_first hc
    refine ⟨⟨first, others, hfirst, ?_⟩, (Statistics.sum_perFile _).symm,
      (Statistics.countsFiles_perFile _).nodup, hstore.mem_files_iff hrecords c⟩
    simp [Statistics.sectionOf, hfirst]

/-- A store with the records of three violations in two files, in the order in which they came. -/
def twoFilesStore : Statistics where
  codes := ["WPS110", "WPS100"]
  recordsFor c := (Tally.ofEntries [firstEntry, secondEntry, thirdEntry]).filter fun r =>
    c.toList.isPrefixOf r.code.toList

theorem summary_balances_twoFiles :
    (Tally.ofEntries [firstEntry, secondEntry, thirdEntry]).Records
      [firstEntry, secondEntry, thirdEntry] ∧
    twoFilesStore.Serves (Tally.ofEntries [firstEntry, secondEntry, thirdEntry]) ∧
    twoFilesStore.summary? = some (
      "\n\x1b[1mWPS110\x1b[0m: Found wrong variable name\n" ++
      "  1     first.py\n" ++ "  1     second.py\n" ++ "\x1b[4mTotal: 2\x1b[0m\n" ++
      "\n\x1b[1mWPS100\x1b[0m: Found wrong module name\n" ++
      "  1     first.py\n" ++ "\x1b[4mTotal: 1\x1b[0m\n" ++
      "\n\n\x1b[4m\x1b[1mAll errors: 3\x1b[0m\x1b[0m\n") ∧
    ∃ sections : List CodeSection, sections.map CodeSection.code = ["WPS110", "WPS100"] ∧
      (∀ s ∈ sections, s.total = (s.files.map Prod.snd).sum) ∧
      (sections.map CodeSection.total).sum = 3 := by
  have hrecords := Tally.records_ofEntries [firstEntry, secondEntry, thirdEntry]
  have hstore : twoFilesStore.Serves (Tally.ofEntries [firstEntry, secondEntry, thirdEntry]) := by
    refine ⟨by decide, fun c => ?_, fun c => .refl _⟩
    have hcodes : (Tally.ofEntries [firstEntry, secondEntry, thirdEntry]).map TallyRecord.code =
        ["WPS100", "WPS110", "WPS110"] := by
      decide
    rw [hcodes]
    simp [twoFilesStore, or_comm]
  obtain ⟨sections, -, hcodes, -, -, hsections, hall⟩ :=
    summary_balances [firstEntry, secondEntry, thirdEntry] _ twoFilesStore hrecords hstore
  exact ⟨hrecords, hstore, by decide +kernel, sections, hcodes, fun s hs => (hsections s hs).2.1,
    hall (by decide)⟩

end Stricture
