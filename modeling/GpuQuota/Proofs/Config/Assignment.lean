import GpuQuota.Config.JobFile
import GpuQuota.Proofs.Text.Layout

/-!
# What a job file says

A job file is read line by line, and the last line that assigns a value to a key decides. So a job
file can be written in many ways: in any order, with blanks around keys and values, with either line
end, and with comments, blank lines and lines without an equals sign in between. All of them are
read as the settings that were written down. Only the first equals sign of a line divides it, so
that values may hold more of them.

The module introduces:

* `JobFile.Assigns` — what a line assigns to a key; `JobFile.assignment?_eq_some_iff` says that this
  is what is read.
* `JobFile.Writes`, `JobFile.Skips` — the lines that write an assignment, and those that write none.
* `JobFile.Draft` — a text by its lines; `JobFile.Draft.Renders` — it writes down given settings.
* `JobFile.get?_exact` — the last assignment decides, and what is written down is read back.
-/

namespace GpuQuota.JobFile

/-! ## What a line assigns -/

/-- The line assigns the value to the key: it is no comment, and its first equals sign stands
between the two. -/
def Assigns (line : List Char) (key value : String) : Prop :=
  (Text.trim line).head? ≠ some '#' ∧
    ∃ left right, Text.trim line = left ++ '=' :: right ∧ '=' ∉ left ∧
      String.ofList (Text.trim left) = key ∧ String.ofList (Text.trim right) = value

variable {line : List Char} {key value : String}

theorem assignment?_eq_some_iff :
    assignment? line = some (key, value) ↔ Assigns line key value := by
  unfold assignment? Assigns
  split
  next h => simp [h]
  next h => simp [h]
  next cs hne hcomment =>
    -- The third case of the match is any line that neither is blank nor begins a comment.
    have hhead : (Text.trim line).head? ≠ some '#' := by
      intro h
      obtain ⟨ds, hds⟩ := List.head?_eq_some_iff.1 h
      exact hcomment ds hds
    simp [hhead, Option.map_eq_some_iff, Text.splitAtFirst_eq_some_iff, and_assoc]

/-- Reading a line depends on the line without the blanks around it. -/
theorem assignment?_congr {line line' : List Char} (h : Text.trim line = Text.trim line') :
    assignment? line = assignment? line' := by
  rw [assignment?, assignment?, h]

theorem eq_of_assigns {key' value' : String} (h : Assigns line key value)
    (h' : Assigns line key' value') : key = key' ∧ value = value' := by
  rw [← assignment?_eq_some_iff] at h h'
  simpa using h.symm.trans h'

/-- A line that assigns something is divided by its first equals sign, blanks or not. -/
theorem assigns_append {left : List Char} (hsep : '=' ∉ left)
    (hcomment : (Text.trim left).head? ≠ some '#') (right : List Char) :
    Assigns (left ++ '=' :: right) (String.ofList (Text.trim left))
      (String.ofList (Text.trim right)) := by
  have htrim := Text.trim_append_cons (show Text.isBlank '=' = false by decide) left right
  refine ⟨?_, Text.trimStart left, Text.trimEnd right, htrim, ?_, ?_, ?_⟩
  · -- The row starts as its left part does, or with the sign where that part is blank.
    rw [htrim, List.head?_append]
    rw [Text.head?_trim] at hcomment
    cases h : (Text.trimStart left).head? with
    | none => simp
    | some c => simpa [h] using hcomment
  · exact fun h => hsep (Text.mem_of_mem_trimStart h)
  · rw [Text.trim_trimStart]
  · rw [Text.trim_trimEnd]

/-! ## Which assignment decides -/

/-- The last assignment to a key decides. -/
theorem get?_eq_some_iff {job : JobFile} :
    job.get? key = some value ↔ ∃ before after,
      job.assignments = before ++ (key, value) :: after ∧ ∀ a ∈ after, a.1 ≠ key := by
  rw [get?, List.lookup_eq_some_iff]
  -- The list is searched from its end, so that before and after change places.
  constructor
  · rintro ⟨after, before, h, hafter⟩
    refine ⟨before.reverse, after.reverse, ?_, fun a ha => ?_⟩
    · simpa using congrArg List.reverse h
    · exact (bne_iff_ne.1 (hafter a (List.mem_reverse.1 ha))).symm
  · rintro ⟨before, after, h, hafter⟩
    refine ⟨after.reverse, before.reverse, by simp [h], fun a ha => ?_⟩
    exact bne_iff_ne.2 (hafter a (List.mem_reverse.1 ha)).symm

/-- A key to which something is assigned has a value. -/
theorem get?_isSome_of_mem {job : JobFile} (h : (key, value) ∈ job.assignments) :
    ∃ last, job.get? key = some last := by
  rw [← Option.ne_none_iff_exists', get?, Ne, List.lookup_eq_none_iff]
  exact fun hall => by simpa using hall (key, value) (List.mem_reverse.2 h)

/-- The last line that assigns something to a key decides. -/
theorem get?_ofText_eq_some_iff {path text : String} :
    (ofText path text).get? key = some value ↔ ∃ before line after,
      Text.lines text.toList = before ++ line :: after ∧ Assigns line key value ∧
        ∀ l ∈ after, ∀ value', ¬ Assigns l key value' := by
  simp only [get?_eq_some_iff, ofText, ← assignment?_eq_some_iff]
  constructor
  · rintro ⟨before, after, h, hafter⟩
    -- The lines that assign nothing before the one found belong to those before it.
    obtain ⟨lines, rest, hlines, -, hrest⟩ := List.filterMap_eq_append_iff.1 h
    obtain ⟨skipped, line, lines', rfl, -, hline, rfl⟩ := List.filterMap_eq_cons_iff.1 hrest
    refine ⟨lines ++ skipped, line, lines', by simp [hlines], hline, fun l hl value' hread => ?_⟩
    exact hafter _ (List.mem_filterMap.2 ⟨l, hl, hread⟩) rfl
  · rintro ⟨before, line, after, hlines, hline, hafter⟩
    refine ⟨before.filterMap assignment?, after.filterMap assignment?, ?_, ?_⟩
    · simp [hlines, hline]
    · rintro ⟨key', value'⟩ ha rfl
      obtain ⟨l, hl, hread⟩ := List.mem_filterMap.1 ha
      exact hafter l hl value' hread

/-! ## Writing a job file -/

/-- Blanks within a line. -/
def IsPadding (cs : List Char) : Prop := ∀ c ∈ cs, Text.isBlank c = true ∧ c ≠ '\n'

instance : DecidablePred IsPadding :=
  List.decidableBAll fun c => Text.isBlank c = true ∧ c ≠ '\n'

/-- The text can be the key of an assignment. -/
structure IsKey (key : String) : Prop where
  trimmed : Text.trim key.toList = key.toList
  one_line : '\n' ∉ key.toList
  no_equals : '=' ∉ key.toList
  no_comment : key.toList.head? ≠ some '#'

/-- The text can be the value of an assignment. -/
structure IsValue (value : String) : Prop where
  trimmed : Text.trim value.toList = value.toList
  one_line : '\n' ∉ value.toList

/-- The line writes an assignment, with any blanks around key and value. -/
inductive Writes : List Char → String → String → Prop
  | intro (key value : String) (a b c d : List Char) (ha : IsPadding a) (hb : IsPadding b)
      (hc : IsPadding c) (hd : IsPadding d) :
      Writes (a ++ key.toList ++ b ++ '=' :: (c ++ value.toList ++ d)) key value

/-- The line writes no assignment. -/
inductive Skips : List Char → Prop
  | blank {cs : List Char} (h : IsPadding cs) : Skips cs
  | comment {a cs : List Char} (ha : IsPadding a) (hcs : '\n' ∉ cs) : Skips (a ++ '#' :: cs)
  | plain {cs : List Char} (hsep : '=' ∉ cs) (hcs : '\n' ∉ cs) : Skips cs

/-- How a line ends. -/
inductive LineEnd
  | feed
  | returnFeed

/-- The characters at the end of a line. -/
def LineEnd.chars : LineEnd → List Char
  | .feed => ['\n']
  | .returnFeed => ['\r', '\n']

/-- A text by its lines. The last one needs no end. -/
structure Draft where
  lines : List (List Char × LineEnd) := []
  last : List Char := []

namespace Draft

/-- The lines without their ends. -/
def rows (d : Draft) : List (List Char) := d.lines.map Prod.fst ++ [d.last]

/-- The whole text. -/
def text (d : Draft) : String :=
  String.ofList (d.lines.flatMap (fun l => l.1 ++ l.2.chars) ++ d.last)

/-- The text writes the settings down: each of them on some line, and nothing else. -/
structure Renders (d : Draft) (settings : String → Option String) : Prop where
  isKey : ∀ key value, settings key = some value → IsKey key
  isValue : ∀ key value, settings key = some value → IsValue value
  row : ∀ row ∈ d.rows,
    Skips row ∨ ∃ key value, settings key = some value ∧ Writes row key value
  setting : ∀ key value, settings key = some value → ∃ row ∈ d.rows, Writes row key value

end Draft

variable {row : List Char}

theorem IsPadding.isBlank {cs : List Char} (h : IsPadding cs) : ∀ c ∈ cs, Text.isBlank c = true :=
  fun c hc => (h c hc).1

theorem IsPadding.one_line {cs : List Char} (h : IsPadding cs) : '\n' ∉ cs :=
  fun hc => (h _ hc).2 rfl

theorem IsPadding.not_mem {cs : List Char} (h : IsPadding cs) {c : Char}
    (hc : Text.isBlank c = false) : c ∉ cs := by
  intro hmem
  rw [h.isBlank c hmem] at hc
  cases hc

/-- What a line writes is what it assigns. -/
theorem Writes.assigns (h : Writes row key value) (hkey : IsKey key) (hvalue : IsValue value) :
    Assigns row key value := by
  obtain ⟨key, value, a, b, c, d, ha, hb, hc, hd⟩ := h
  -- The blanks around key and value are trimmed off, and nothing else is.
  have hleft : Text.trim (a ++ key.toList ++ b) = key.toList := by
    rw [Text.trim_append_right hb.isBlank, Text.trim_append_left ha.isBlank, hkey.trimmed]
  have hright : Text.trim (c ++ value.toList ++ d) = value.toList := by
    rw [Text.trim_append_right hd.isBlank, Text.trim_append_left hc.isBlank, hvalue.trimmed]
  have hsep : '=' ∉ a ++ key.toList ++ b := by
    have hequals : Text.isBlank '=' = false := by decide
    simp [ha.not_mem hequals, hb.not_mem hequals, hkey.no_equals]
  have hcomment : (Text.trim (a ++ key.toList ++ b)).head? ≠ some '#' := by
    rw [hleft]
    exact hkey.no_comment
  have hassigns := assigns_append hsep hcomment (c ++ value.toList ++ d)
  rwa [hleft, hright, String.ofList_toList, String.ofList_toList] at hassigns

/-- A line that writes no assignment assigns nothing. -/
theorem Skips.not_assigns (h : Skips row) : ¬ Assigns row key value := by
  rintro ⟨hcomment, left, right, htrim, -⟩
  have hequals : '=' ∈ row := Text.mem_of_mem_trim (by simp [htrim])
  cases h with
  | blank h => exact h.not_mem (by decide) hequals
  | comment ha hcs =>
    rw [Text.trim_append_cons (by decide), Text.trimStart_eq_nil_iff.2 ha.isBlank] at hcomment
    exact hcomment rfl
  | plain hsep hcs => exact hsep hequals

theorem Writes.one_line (h : Writes row key value) (hkey : IsKey key) (hvalue : IsValue value) :
    '\n' ∉ row := by
  obtain ⟨key, value, a, b, c, d, ha, hb, hc, hd⟩ := h
  simp [ha.one_line, hb.one_line, hc.one_line, hd.one_line, hkey.one_line, hvalue.one_line]

theorem Skips.one_line (h : Skips row) : '\n' ∉ row := by
  cases h with
  | blank h => exact h.one_line
  | comment ha hcs => simp [ha.one_line, hcs]
  | plain hsep hcs => exact hcs

/-- What ends a line is a line feed, with a blank in front of it or not. -/
theorem LineEnd.chars_eq (e : LineEnd) :
    ∃ blanks, IsPadding blanks ∧ e.chars = blanks ++ ['\n'] := by
  cases e with
  | feed => exact ⟨[], by simp [IsPadding], rfl⟩
  | returnFeed => exact ⟨['\r'], by simp [IsPadding]; decide, rfl⟩

namespace Draft

variable {d : Draft} {settings : String → Option String}

/-- The pieces of a text between line feeds are its lines, some with one more blank at the end. -/
theorem filterMap_pieces_text (h : ∀ row ∈ d.rows, '\n' ∉ row) :
    (Text.pieces '\n' d.text.toList).filterMap assignment? = d.rows.filterMap assignment? := by
  obtain ⟨lines, last⟩ := d
  induction lines with
  | nil =>
    have hlast : '\n' ∉ last := h last (by simp [rows])
    simp [text, rows, Text.pieces_of_not_mem hlast]
  | cons l lines ih =>
    -- The first piece is the first line with what precedes its line feed, which reads the same.
    obtain ⟨row, ending⟩ := l
    have hrows : rows ⟨(row, ending) :: lines, last⟩ = row :: rows ⟨lines, last⟩ := rfl
    rw [hrows] at h ⊢
    obtain ⟨blanks, hblanks, hending⟩ := ending.chars_eq
    have hline : '\n' ∉ row ++ blanks := by
      simpa using ⟨h row List.mem_cons_self, hblanks.one_line⟩
    have htext : (text ⟨(row, ending) :: lines, last⟩).toList =
        (row ++ blanks) ++ '\n' :: (text ⟨lines, last⟩).toList := by
      simp [text, hending]
    have hread : assignment? (row ++ blanks) = assignment? row :=
      assignment?_congr (Text.trim_append_right hblanks.isBlank row)
    rw [htext, Text.pieces_append_cons hline, List.filterMap_cons, List.filterMap_cons, hread,
      ih fun r hr => h r (List.mem_cons_of_mem _ hr)]

theorem assignments_text (path : String) (h : ∀ row ∈ d.rows, '\n' ∉ row) :
    (ofText path d.text).assignments = d.rows.filterMap assignment? := by
  have hread : ∀ cs ds, Text.trim cs = Text.trim ds → assignment? cs = assignment? ds :=
    fun _ _ => assignment?_congr
  rw [← filterMap_pieces_text h]
  exact Text.filterMap_lines _ hread rfl _

theorem Renders.one_line (h : d.Renders settings) : ∀ row ∈ d.rows, '\n' ∉ row := by
  intro row hrow
  rcases h.row row hrow with hskip | ⟨key, value, hsetting, hwrites⟩
  · exact hskip.one_line
  · exact hwrites.one_line (h.isKey _ _ hsetting) (h.isValue _ _ hsetting)

/-- A line that writes a setting assigns it. -/
theorem Renders.assigns (h : d.Renders settings) (hsetting : settings key = some value)
    (hwrites : Writes row key value) : Assigns row key value :=
  hwrites.assigns (h.isKey _ _ hsetting) (h.isValue _ _ hsetting)

/-- What is written down is what lines assign. -/
theorem Renders.mem_assignments_iff (h : d.Renders settings) (path : String) :
    (key, value) ∈ (ofText path d.text).assignments ↔ settings key = some value := by
  rw [assignments_text path h.one_line, List.mem_filterMap]
  constructor
  · rintro ⟨row, hrow, hread⟩
    have hassigns := assignment?_eq_some_iff.1 hread
    rcases h.row row hrow with hskip | ⟨key', value', hsetting, hwrites⟩
    · exact absurd hassigns hskip.not_assigns
    · -- A row assigns one value to one key at most, so it is the pair that was read.
      obtain ⟨rfl, rfl⟩ := eq_of_assigns hassigns (h.assigns hsetting hwrites)
      exact hsetting
  · intro hsetting
    obtain ⟨row, hrow, hwrites⟩ := h.setting key value hsetting
    exact ⟨row, hrow, assignment?_eq_some_iff.2 (h.assigns hsetting hwrites)⟩

/-- What is written down is read back. -/
theorem Renders.get?_eq (h : d.Renders settings) (path : String) :
    (ofText path d.text).get? = settings := by
  have hsound : ∀ key value, (ofText path d.text).get? key = some value →
      settings key = some value := by
    intro key value hget
    obtain ⟨before, after, hassignments, -⟩ := get?_eq_some_iff.1 hget
    exact (h.mem_assignments_iff path).1 (by simp [hassignments])
  ext key value
  refine ⟨hsound key value, fun hsetting => ?_⟩
  -- Which line comes last does not matter, since all that assign to the key write the same value.
  obtain ⟨last, hlast⟩ := get?_isSome_of_mem ((h.mem_assignments_iff path).2 hsetting)
  rw [hlast, ← hsound key last hlast, hsetting]

end Draft

/-- In every text the last line that assigns something to a key decides, so that settings that are
written down, in whatever order and layout, are read back. -/
theorem get?_exact (path : String) :
    (∀ text key value, (ofText path text).get? key = some value ↔ ∃ before line after,
      Text.lines text.toList = before ++ line :: after ∧ Assigns line key value ∧
        ∀ l ∈ after, ∀ value', ¬ Assigns l key value') ∧
    ∀ (d : Draft) (settings : String → Option String), d.Renders settings →
      (ofText path d.text).get? = settings :=
  ⟨fun _ _ _ => get?_ofText_eq_some_iff, fun _ _ h => h.get?_eq path⟩

/-- Two settings, laid out with blanks, a comment, an empty line and one that says nothing. -/
def sampleDraft : Draft where
  lines :=
    [("# CUDA_DEVICE_SM_LIMIT=10".toList, .feed),
      ("\tCUDA_DEVICE_MEMORY_LIMIT=16g ".toList, .returnFeed),
      ([], .feed),
      ("bogus".toList, .feed)]
  last := " note = a=b #c".toList

/-- The two settings. -/
def sampleSettings (key : String) : Option String :=
  if key = "CUDA_DEVICE_MEMORY_LIMIT" then some "16g"
  else if key = "note" then some "a=b #c"
  else none

/-- Settings with blanks, carriage returns and equals signs are read back. -/
theorem get?_exact_of_sample :
    sampleDraft.text = "# CUDA_DEVICE_SM_LIMIT=10\n\tCUDA_DEVICE_MEMORY_LIMIT=16g \r\n\nbogus\n" ++
        " note = a=b #c" ∧
      sampleDraft.Renders sampleSettings ∧
      (ofText "7.conf" sampleDraft.text).get? = sampleSettings := by
  have hmemory : Writes "\tCUDA_DEVICE_MEMORY_LIMIT=16g ".toList "CUDA_DEVICE_MEMORY_LIMIT" "16g" :=
    .intro "CUDA_DEVICE_MEMORY_LIMIT" "16g" ['\t'] [] [] [' '] (by decide) (by decide)
      (by decide) (by decide)
  have hnote : Writes " note = a=b #c".toList "note" "a=b #c" :=
    .intro "note" "a=b #c" [' '] [' '] [' '] [] (by decide) (by decide) (by decide) (by decide)
  -- The two keys that the sample sets are all that it sets.
  have hsettings : ∀ key value, sampleSettings key = some value →
      key = "CUDA_DEVICE_MEMORY_LIMIT" ∧ value = "16g" ∨ key = "note" ∧ value = "a=b #c" := by
    intro key value h
    unfold sampleSettings at h
    split at h
    next hkey => exact .inl ⟨hkey, (Option.some.inj h).symm⟩
    split at h
    next hkey => exact .inr ⟨hkey, (Option.some.inj h).symm⟩
    next => cases h
  have hrenders : sampleDraft.Renders sampleSettings := by
    constructor
    case isKey =>
      intro key value h
      rcases hsettings key value h with ⟨rfl, rfl⟩ | ⟨rfl, rfl⟩ <;> constructor <;> decide
    case isValue =>
      intro key value h
      rcases hsettings key value h with ⟨rfl, rfl⟩ | ⟨rfl, rfl⟩ <;> constructor <;> decide
    case row =>
      intro row hrow
      simp only [Draft.rows, sampleDraft, List.map_cons, List.map_nil, List.mem_append,
        List.mem_cons, List.not_mem_nil, or_false] at hrow
      rcases hrow with (rfl | rfl | rfl | rfl) | rfl
      · exact .inl (.comment (a := []) (by decide) (by decide))
      · exact .inr ⟨_, _, rfl, hmemory⟩
      · exact .inl (.blank (by decide))
      · exact .inl (.plain (by decide) (by decide))
      · exact .inr ⟨_, _, rfl, hnote⟩
    case setting =>
      intro key value h
      rcases hsettings key value h with ⟨rfl, rfl⟩ | ⟨rfl, rfl⟩
      · exact ⟨_, by simp [Draft.rows, sampleDraft], hmemory⟩
      · exact ⟨_, by simp [Draft.rows, sampleDraft], hnote⟩
  exact ⟨by decide +kernel, hrenders, (get?_exact "7.conf").2 _ _ hrenders⟩

end GpuQuota.JobFile
