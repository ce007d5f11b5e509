import Stricture.Grouping
import Stricture.Text.Blank

/-!
# Listings

How violations are shown on a terminal: a heading for every file, a line for every violation, maybe
with the line of the program that it is about, and statistics at the end.
-/

namespace Stricture

/-- A violation to be listed. -/
structure ListingEntry where
  code : String
  filename : String
  line : Int
  column : Int
  text : String
  source : Option String
  deriving DecidableEq

/-- A part of what is written. -/
inductive ListingPart where
  /-- The heading of a file. -/
  | heading (filename : String)
  /-- The lines of a violation. -/
  | entry (e : ListingEntry)
  deriving DecidableEq

/-! ### Layout -/

namespace Listing

/-- Bold text. -/
def bold (text : String) : String :=
  "\x1b[1m" ++ text ++ "\x1b[0m"

/-- Underlined text. -/
def underline (text : String) : String :=
  "\x1b[4m" ++ text ++ "\x1b[0m"

/-- A number of blanks; none for a negative number. -/
def blanks (n : Int) : String :=
  String.ofList (List.replicate n.toNat ' ')

/-- The text at the left of a column of the given width. -/
def padded (width : Nat) (text : String) : String :=
  text ++ blanks (width - text.length)

/-- One way to show a line of a program in colour. -/
def coloured (line : String) : String :=
  String.ofList (line.toList.takeWhile (· != '\n')) ++ "\x1b[37m\x1b[39;49;00m\n"

/-- The heading of a file. -/
def heading (filename : String) : String :=
  "\n" ++ underline (bold filename) ++ "\n"

/-- The line of a violation. It is set off from the line before if the program is shown. -/
def entryLine (showSource : Bool) (e : ListingEntry) : String :=
  (if showSource && e.source.isSome then "\n" else "") ++ "  "
    ++ padded 8 (toString e.line ++ ":" ++ toString e.column) ++ " " ++ padded 5 e.code ++ " "
    ++ e.text ++ "\n"

/-- The line of the program in colour, and a mark under the column of the violation. -/
def sourceLines (highlight : String → String) (showSource : Bool) (e : ListingEntry) : String :=
  match showSource, e.source with
  | true, some source =>
    let shown := source.toList.dropWhile Text.isBlank
    let indent : Int := source.length - shown.length
    "  " ++ highlight (String.ofList shown) ++ "  " ++ blanks (e.column - 1 - indent) ++ "^\n"
  | _, _ => ""

end Listing

/-- The text of a part. -/
def ListingPart.text (highlight : String → String) (showSource : Bool) : ListingPart → String
  | heading filename => Listing.heading filename
  | entry e => Listing.entryLine showSource e ++ Listing.sourceLines highlight showSource e

/-! ### Statistics -/

/-- How often a code was seen in a file, with the text of the first one. -/
structure TallyRecord where
  filename : String
  code : String
  message : String
  count : Nat

/-- The statistics of one code: its first message, the count of every file, and the total. -/
structure CodeSection where
  code : String
  message : String
  files : List (String × Nat)
  total : Nat

/-- The lines of a section. -/
def CodeSection.text (s : CodeSection) : String :=
  let files := s.files.map fun (filename, count) =>
    "  " ++ Listing.padded 5 (toString count) ++ " " ++ filename ++ "\n"
  "\n" ++ Listing.bold s.code ++ ": " ++ s.message ++ "\n" ++ String.join files
    ++ Listing.underline ("Total: " ++ toString s.total) ++ "\n"

/-- What statistics are asked for: the codes, and the records of each code. -/
structure Statistics where
  codes : List String
  recordsFor : String → List TallyRecord

namespace Statistics

/-- The counts of files with those of one more record. -/
def addCount (counts : List (String × Nat)) (r : TallyRecord) : List (String × Nat) :=
  if counts.any fun c => c.1 == r.filename then
    counts.map fun c => if c.1 == r.filename then (c.1, c.2 + r.count) else c
  else counts ++ [(r.filename, r.count)]

/-- The files of some records as they come, each with its count. -/
def perFile (records : List TallyRecord) : List (String × Nat) :=
  records.foldl addCount []

/-- The section of a code. Its message is that of the first record, so that there is no section
without a record. -/
def codeSection? (statistics : Statistics) (code : String) : Option CodeSection :=
  match statistics.recordsFor code with
  | [] => none
  | first :: others => some {
      code := code
      message := first.message
      files := perFile (statistics.recordsFor code)
      total := first.count + totalOf TallyRecord.count others }

/-- The sections of all codes. -/
def sections? (statistics : Statistics) : Option (List CodeSection) :=
  statistics.codes.mapM statistics.codeSection?

/-- The figure at the end: the sum of all totals. -/
def allErrors (sections : List CodeSection) : Nat :=
  totalOf CodeSection.total sections

/-- All statistics, if there is a section for every code. -/
def summary? (statistics : Statistics) : Option String :=
  statistics.sections?.map fun sections =>
    String.join (sections.map CodeSection.text) ++ "\n\n"
      ++ Listing.underline (Listing.bold ("All errors: " ++ toString (allErrors sections))) ++ "\n"

end Statistics

/-- The records so far. -/
abbrev Tally := List TallyRecord

namespace Tally

/-- Counts a violation. -/
def record (tally : Tally) (e : ListingEntry) : Tally :=
  if tally.any fun r => r.filename == e.filename && r.code == e.code then
    tally.map fun r =>
      if r.filename == e.filename && r.code == e.code then { r with count := r.count + 1 } else r
  else tally ++ [⟨e.filename, e.code, e.text, 1⟩]

/-- Records by file, then by code. -/
def precedes (r s : TallyRecord) : Bool :=
  r.filename < s.filename || (r.filename == s.filename && !(s.code < r.code))

/-- The records whose code starts with the given one, in order. -/
def matching (tally : Tally) (code : String) : List TallyRecord :=
  (tally.filter fun r => code.toList.isPrefixOf r.code.toList).mergeSort precedes

/-- All codes in order, each one once. -/
def codes (tally : Tally) : List String :=
  ((tally.map TallyRecord.code).mergeSort fun a b => !(b < a)).eraseDups

/-- The records as they are asked for. -/
def statistics (tally : Tally) : Statistics where
  codes := tally.codes
  recordsFor := tally.matching

/-- The text of all statistics. -/
def summary (tally : Tally) : String :=
  tally.statistics.summary?.getD ""

end Tally

/-! ### A listing in progress -/

/-- The files that have a heading, how many violations were listed, and the statistics. Lines of
programs are shown in the given colours. -/
structure Listing where
  files : List String := []
  count : Nat := 0
  tally : Tally := []
  highlight : String → String := Listing.coloured

namespace Listing

/-- Where users find explanations. -/
def explanations : String :=
  "https://wemake-python-stylegui.de/en//pages/usage/violations/"

/-- What a violation adds: the heading of its file if that is not there yet, and its own lines. -/
def added (l : Listing) (e : ListingEntry) : List ListingPart :=
  if l.files.contains e.filename then [.entry e] else [.heading e.filename, .entry e]

/-- The listing with one more violation. -/
def next (l : Listing) (e : ListingEntry) : Listing where
  files := if l.files.contains e.filename then l.files else l.files ++ [e.filename]
  count := l.count + 1
  tally := l.tally.record e
  highlight := l.highlight

/-- Lists a violation. -/
def handle (showSource : Bool) (l : Listing) (e : ListingEntry) : String × Listing :=
  (String.join ((l.added e).map (ListingPart.text l.highlight showSource)), l.next e)

/-- What comes at the very end, if there was any violation. -/
def closing (l : Listing) : String :=
  if l.count = 0 then ""
  else "\nFull list of violations and explanations:\n" ++ explanations ++ "\n"

end Listing

end Stricture
