import RtTaskTrace.Lib.Decimal
import RtTaskTrace.Lib.Separated
import RtTaskTrace.Supervisor.Refinement

namespace RtTaskTrace

open Decimal Separated Runs

/-!
# The text of the log file

`Log_prepareFileForLogging` and `Log_generateIfNeeded` write their lines with the same loop: the
fields with a comma and a blank between any two, and a newline.  A file whose first `fopen` failed
has no line of names, and begins with a row.  The text is what one monitor has printed; what an
older file at the path held is left to `LogFiles.lean`.

* `CsvFile.text` — the text written;
* `CsvFile.ofText` — what a reader of such a file takes it for;
* `ofText_text` — the reader finds what was written, with or without the names;
* `csv_reads_back` — so for what a monitor has printed, at any time.
-/

/-- The names `Log_prepareFileForLogging` prints. -/
def columnNames : List String := DataColumn.all.map Data.getColumnName

namespace CsvFile

/-- The loop over the columns, and the end of the line. -/
def line (fields : List String) : String := String.intercalate ", " fields ++ "\n"

/-- `fprintf(file, "%lld", (long long)value)`. -/
def valueText (value : Int64) : String := toString value.toInt

/-- The lines of a file: the names, if they were printed, and the rows. -/
def textLines (file : CsvFile) : List (List String) :=
  (if file.header = [] then [] else [file.header]) ++ file.rows.map (List.map valueText)

/-- All that has been printed. -/
def text (file : CsvFile) : String := String.join (file.textLines.map line)

/-! ### Reading -/

/-- The fields of each line. -/
def fieldsOfText (text : String) : List (List String) :=
  (lines '\n' text.toList).map fun line => (fields ',' 1 line).map String.ofList

/-- The number in a field. -/
def valueOfText (field : String) : Int64 := Int64.ofInt (intOfText field.toList)

/-- What a reader who knows the names of the columns takes a text for: the first line are the names
    if it says so, and all others are rows. -/
def ofText (names : List String) (text : String) : CsvFile :=
  match fieldsOfText text with
  | [] => ⟨[], []⟩
  | first :: rest =>
    if first = names then ⟨names, rest.map (List.map valueOfText)⟩
    else ⟨[], (first :: rest).map (List.map valueOfText)⟩

/-! ### What is written is read -/

/-- A field that does not disturb the lines. -/
def Plain (field : String) : Prop := ',' ∉ field.toList ∧ '\n' ∉ field.toList

instance (field : String) : Decidable (Plain field) := inferInstanceAs (Decidable (_ ∧ _))

/-- What is printed for a row, without its newline. -/
def symbols (row : List String) : List Char := [',', ' '].intercalate (row.map String.toList)

theorem line_toList (row : List String) : (line row).toList = symbols row ++ ['\n'] := by
  rw [line, String.toList_append, String.toList_intercalate]
  rfl

theorem newline_not_mem_symbols {row : List String} (h : ∀ field ∈ row, Plain field) :
    '\n' ∉ symbols row := by
  intro hmem
  rcases mem_intercalate hmem with hsep | ⟨f, hf, hmem⟩
  · exact absurd hsep (by decide)
  · obtain ⟨field, hfield, rfl⟩ := List.mem_map.mp hf
    exact (h field hfield).2 hmem

theorem fields_symbols {row : List String} (hne : row ≠ []) (h : ∀ field ∈ row, Plain field) :
    (fields ',' 1 (symbols row)).map String.ofList = row := by
  have hfields : fields ',' [' '].length ([',', ' '].intercalate (row.map String.toList))
      = row.map String.toList := by
    apply fields_intercalate
    · simpa using hne
    · decide
    · intro f hf
      obtain ⟨field, hfield, rfl⟩ := List.mem_map.mp hf
      exact (h field hfield).1
  have hread : fields ',' 1 (symbols row) = row.map String.toList := hfields
  rw [hread, List.map_map]
  simp [Function.comp_def]

/-- **Lines of plain fields are read back.** -/
theorem fieldsOfText_join {rows : List (List String)} (hne : ∀ row ∈ rows, row ≠ [])
    (h : ∀ row ∈ rows, ∀ field ∈ row, Plain field) :
    fieldsOfText (String.join (rows.map line)) = rows := by
  have htext : (String.join (rows.map line)).toList
      = (rows.map symbols).flatMap (· ++ ['\n']) := by
    rw [String.toList_join, List.flatMap_map, List.flatMap_map]
    congr 1
    ext1 row
    exact line_toList row
  have hlines : lines '\n' ((rows.map symbols).flatMap (· ++ ['\n'])) = rows.map symbols := by
    apply lines_flatMap
    intro l hl
    obtain ⟨row, hrow, rfl⟩ := List.mem_map.mp hl
    exact newline_not_mem_symbols (h row hrow)
  rw [fieldsOfText, htext, hlines, List.map_map]
  calc rows.map ((fun line => (fields ',' 1 line).map String.ofList) ∘ symbols)
      = rows.map id := List.map_congr_left fun row hrow => fields_symbols (hne row hrow) (h row hrow)
    _ = rows := List.map_id rows

/-- The text of a number is a plain field. -/
theorem plain_valueText (value : Int64) : Plain (valueText value) := by
  constructor
  all_goals
    intro hmem
    rcases mem_toString hmem with heq | hdigit
    · exact absurd heq (by decide)
    · exact absurd hdigit (by decide)

/-- A number printed is read back. -/
theorem valueOfText_valueText (value : Int64) : valueOfText (valueText value) = value := by
  rw [valueOfText, valueText, intOfText_toString, Int64.ofInt_toInt]

theorem map_valueOfText (row : CsvRow) : (row.map valueText).map valueOfText = row := by
  rw [List.map_map]
  calc row.map (valueOfText ∘ valueText)
      = row.map id := List.map_congr_left fun value _ => valueOfText_valueText value
    _ = row := List.map_id row

/-- The names are plain fields and shorter than the array they are copied into. -/
theorem columnNames_plain : ∀ name ∈ columnNames, Plain name ∧ name.length < 100 := by
  decide

/-- **No row looks like the names**: the first of these begins with no digit and no minus. -/
theorem valueText_ne_columnNames (row : CsvRow) : row.map valueText ≠ columnNames := by
  intro heq
  cases row with
  | nil => exact absurd heq (by decide)
  | cons value row =>
    have hfirst : valueText value = "pid" := (List.cons.inj heq).1
    have hp : 'p' ∈ (valueText value).toList := by
      rw [hfirst]
      decide
    rcases mem_toString hp with hminus | hdigit
    · exact absurd hminus (by decide)
    · exact absurd hdigit (by decide)

/-- **What is written is read**, whether the names were printed or not. -/
theorem ofText_text {file : CsvFile} (hheader : file.header = [] ∨ file.header = columnNames)
    (hrows : ∀ row ∈ file.rows, row ≠ []) : ofText columnNames file.text = file := by
  obtain ⟨header, rows⟩ := file
  have hvalues : (rows.map (List.map valueText)).map (List.map valueOfText) = rows := by
    rw [List.map_map]
    calc rows.map (List.map valueOfText ∘ List.map valueText)
        = rows.map id := List.map_congr_left fun row _ => map_valueOfText row
      _ = rows := List.map_id rows
  have hplain : ∀ row ∈ rows.map (List.map valueText), row ≠ [] ∧ ∀ field ∈ row, Plain field := by
    intro row hrow
    obtain ⟨values, hvalues, rfl⟩ := List.mem_map.mp hrow
    refine ⟨by simpa using hrows values hvalues, fun field hfield => ?_⟩
    obtain ⟨value, -, rfl⟩ := List.mem_map.mp hfield
    exact plain_valueText value
  rcases hheader with rfl | rfl
  · -- The names are missing: the text begins with the first row.
    have hread : fieldsOfText (text ⟨[], rows⟩) = rows.map (List.map valueText) :=
      fieldsOfText_join (fun row hrow => (hplain row hrow).1) fun row hrow => (hplain row hrow).2
    cases rows with
    | nil =>
      rw [ofText, hread]
      rfl
    | cons row rows =>
      rw [List.map_cons] at hread
      rw [ofText, hread]
      simp only [if_neg (valueText_ne_columnNames row)]
      rw [← List.map_cons, hvalues]
  · have hread : fieldsOfText (text ⟨columnNames, rows⟩)
        = columnNames :: rows.map (List.map valueText) := by
      apply fieldsOfText_join
      · intro row hrow
        rcases List.mem_cons.mp hrow with rfl | hrow
        · exact show columnNames ≠ [] by decide
        · exact (hplain row hrow).1
      · intro row hrow
        rcases List.mem_cons.mp hrow with rfl | hrow
        · exact fun name hname => (columnNames_plain name hname).1
        · exact (hplain row hrow).2
    rw [ofText, hread]
    simp only [if_pos]
    rw [hvalues]

end CsvFile

/-! ### The file of a monitor -/

/-- The rows `Log_generateIfNeeded` prints are those of points, and it keeps the file's name. -/
theorem Log.generateIfNeeded_rows {N : ℕ} (me : Log N) (fopen : Bool) :
    (∃ points : List Data, (me.generateIfNeeded fopen).2 = points.map Data.row) ∧
      (me.generateIfNeeded fopen).1.file = me.file := by
  unfold Log.generateIfNeeded
  split
  · exact ⟨⟨[], rfl⟩, rfl⟩
  · simp only
    split
    · exact ⟨⟨[], rfl⟩, rfl⟩
    · split
      · exact ⟨⟨[], rfl⟩, rfl⟩
      · exact ⟨⟨_, rfl⟩, rfl⟩

theorem MonitorThread.deadlineUpdate_rows {me me' : MonitorThread} {props : DeadlineProps}
    {fopen : Bool} {rows : List CsvRow} (h : me.deadlineUpdate props fopen = some (me', rows)) :
    (∃ points : List Data, rows = points.map Data.row) ∧ me'.log.file = me.log.file := by
  unfold deadlineUpdate at h
  obtain ⟨m, -, heq⟩ := Option.map_eq_some_iff.mp h
  unfold logAndAdjust at heq
  by_cases hlog : me.enableLogging = true
  · simp only [if_pos hlog] at heq
    cases heq
    exact Log.generateIfNeeded_rows _ fopen
  · simp only [if_neg hlog] at heq
    cases heq
    exact ⟨⟨[], rfl⟩, rfl⟩

theorem MonitorThread.handle_rows {me : MonitorThread} {reads : SchedReads} {fopen : Bool}
    {handled : Handled} (h : me.handle reads fopen = some handled) :
    (∃ points : List Data, handled.rows = points.map Data.row) ∧
      handled.me.log.file = me.log.file := by
  unfold handle at h
  split at h
  · by_cases hpolicy : me.policy = schedDeadline
    · cases hread : PID.getDeadlinePropeties reads.scheduler reads.attr with
      | error error =>
        rw [handleStartAndStop_failed hpolicy hread] at h
        cases h
        exact ⟨⟨[], rfl⟩, rfl⟩
      | ok props =>
        rw [handleStartAndStop_deadline hpolicy hread] at h
        obtain ⟨⟨me', rows⟩, hupdate, rfl⟩ := Option.map_eq_some_iff.mp h
        have hwritten := deadlineUpdate_rows hupdate
        exact hwritten
    · rw [handleStartAndStop_other hpolicy] at h
      cases h
      exact ⟨⟨[], rfl⟩, rfl⟩
  all_goals
    cases h
    exact ⟨⟨[], rfl⟩, rfl⟩

namespace MonitorTask

variable {task task' : MonitorTask} {input : MonitorInput}

/-- **A round appends the rows of some points** to the file, whose name it keeps. -/
theorem iterate_csv (h : task.iterate input = some task') :
    (∃ points : List Data, task'.csv = { task.csv with
      rows := task.csv.rows ++ points.map Data.row }) ∧
      task'.me.log.file = task.me.log.file := by
  rcases iterate_cases h with ⟨-, rfl⟩ | ⟨-, -, rfl⟩ | ⟨-, -, handled, hhandle, rfl⟩
  · exact ⟨⟨[], by simp⟩, rfl⟩
  · exact ⟨⟨[], by simp⟩, rfl⟩
  · obtain ⟨⟨points, hrows⟩, hfile⟩ := MonitorThread.handle_rows hhandle
    exact ⟨⟨points, by rw [hrows]⟩, hfile⟩

variable {me : MonitorThread} {scheduler : ℤ} {fopen : Bool} {es : List MonitorInput}

/-- The names stand in the file if they could be printed, and each row has a value for each. -/
theorem run_csv_shape (h : Run iterate (start me scheduler fopen) es task) :
    task.csv.header = (if fopen then columnNames else []) ∧
      ∀ row ∈ task.csv.rows, row.length = columnNames.length := by
  refine h.invariant (I := fun task => task.csv.header = (if fopen then columnNames else []) ∧
    ∀ row ∈ task.csv.rows, row.length = columnNames.length) ?_ ?_
  · exact ⟨rfl, fun row hrow => absurd hrow List.not_mem_nil⟩
  · rintro task input task' ⟨hheader, hrows⟩ hstep
    obtain ⟨⟨points, heq⟩, -⟩ := iterate_csv hstep
    rw [heq]
    refine ⟨hheader, fun row hrow => ?_⟩
    rcases List.mem_append.mp hrow with hold | hnew
    · exact hrows row hold
    · obtain ⟨data, -, rfl⟩ := List.mem_map.mp hnew
      rw [Data.row, List.length_map, columnNames, List.length_map]

theorem ofText_csv (h : Run iterate (start me scheduler fopen) es task) :
    CsvFile.ofText columnNames task.csv.text = task.csv := by
  obtain ⟨hheader, hrows⟩ := run_csv_shape h
  refine CsvFile.ofText_text ?_ fun row hrow hnil => ?_
  · rw [hheader]
    cases fopen
    · exact Or.inl rfl
    · exact Or.inr rfl
  · have hlength := hrows row hrow
    rw [hnil] at hlength
    exact absurd hlength (by decide)

/-- **What is logged can be read.**  At any time of any run of a monitor, the text it has printed to
    its file is read back as the names of the columns, if the first `fopen` let them be printed, and
    the rows logged so far, each with a value for every column. -/
theorem csv_reads_back (h : Run iterate (start me scheduler fopen) es task) :
    CsvFile.ofText columnNames task.csv.text = task.csv ∧
      task.csv.header = (if fopen then columnNames else []) ∧
      ∀ row ∈ task.csv.rows, row.length = columnNames.length :=
  ⟨ofText_csv h, run_csv_shape h⟩

/-- A monitor that logs, and five jobs a period apart of which the fourth is late: its file can be
    opened, and they are written. -/
def loggedRounds : List MonitorInput :=
  [(100, 105), (120, 125), (140, 145), (168, 173), (180, 185)].map fun (t1, t2) =>
    { jobInput ⟨5, 10, 20⟩ 7 t1 t2 with fopen := true }

def loggingThread : MonitorThread := { MonitorThread.zero with pid := 7, enableLogging := true }

def loggedTask : MonitorTask :=
  (loggedRounds.foldlM iterate (start loggingThread schedDeadline true)).get (by decide)

theorem csv_reads_back_sample :
    loggedTask.csv.rows.length = 5 ∧
      CsvFile.ofText columnNames loggedTask.csv.text = loggedTask.csv ∧
      loggedTask.csv.header = columnNames ∧
      ∀ row ∈ loggedTask.csv.rows, row.length = columnNames.length :=
  ⟨by decide, csv_reads_back (run_get (start loggingThread schedDeadline true) loggedRounds
    (by decide))⟩

end MonitorTask

end RtTaskTrace
