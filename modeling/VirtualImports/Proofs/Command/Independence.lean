import VirtualImports.Proofs.Command.Mirroring
import VirtualImports.Proofs.Text.Utf8

/-!
The files of a batch, where they are written apart from their sources.

* `fails`: whether a source cannot be read or its destination not be written, seen from the start;
* `reported_of_turns`: an error is reported on each file that fails, and on no other one;
* `untouched_of_turns`, `kept_of_turns`: files that no turn touches;
* `independent_of_turns`: what has had its turn is settled, whatever comes later;
* `rewrite_independent`: no file changes what becomes of another one, up to a message that cannot be
  drawn;
* `rewrite_aborts`: a source that cannot be read may be the end of the batch.
-/
namespace VirtualImports

/-! ## Messages -/

/-- The texts of the errors among messages. -/
def errorTexts (messages : List Message) : List String :=
  messages.filterMap fun message =>
    match message with
    | .log entry => if entry.level = .error then some entry.message else none
    | _ => none

/-- The rows of failed files in the tables among messages. -/
def failedRows (messages : List Message) : List (List String) :=
  messages.flatMap fun message =>
    match message with
    | .table table => table.rows.filter fun row => row[1]? = some "❌ Failed"
    | _ => []

theorem errorTexts_append (a b : List Message) :
    errorTexts (a ++ b) = errorTexts a ++ errorTexts b :=
  List.filterMap_append

theorem failedRows_append (a b : List Message) :
    failedRows (a ++ b) = failedRows a ++ failedRows b :=
  List.flatMap_append

theorem Harmless.errorTexts_eq_nil {notes : List Message} (h : Harmless notes) :
    errorTexts notes = [] := by
  rw [errorTexts, List.filterMap_eq_nil_iff]
  intro message mem
  obtain ⟨entry, rfl, fine⟩ := h message mem
  simp [fine]

theorem Harmless.failedRows_eq_nil {notes : List Message} (h : Harmless notes) :
    failedRows notes = [] := by
  rw [failedRows, List.flatMap_eq_nil_iff]
  intro message mem
  obtain ⟨entry, rfl, _⟩ := h message mem
  rfl

theorem errorTexts_summarize (reports : Entries FileReport) : errorTexts (summarize reports) = [] := by
  unfold summarize
  dsimp only
  split <;> rfl

/-- Only the status of a file that failed says so. -/
theorem FileReport.row_failed (file : String) (report : FileReport) :
    ((report.row file)[1]? = some "❌ Failed") ↔ report.success = false := by
  unfold row status
  cases report.success <;> simp

theorem FileReport.isClean_eq_false {report : FileReport} (h : report.success = false) :
    report.isClean = false := by
  rw [isClean, h, Bool.false_and]

/-- The summary of a batch has a row for each file that failed. -/
theorem failedRows_summarize (reports : Entries FileReport) :
    failedRows (summarize reports) =
      (reports.filter fun (_, report) => !report.success).map fun (file, report) =>
        report.row file := by
  have keep (entry : String × FileReport) : (!entry.2.success) =
      (decide ((entry.2.row entry.1)[1]? = some "❌ Failed") && !entry.2.isClean) := by
    rw [Bool.eq_iff_iff, Bool.and_eq_true, decide_eq_true_iff, FileReport.row_failed]
    cases failed : entry.2.success with
    | true => simp
    | false => simp [FileReport.isClean_eq_false failed]
  unfold summarize
  dsimp only
  split
  · rename_i none
    have all : (reports.filter fun (_, report) => report.isClean).length = reports.length :=
      Nat.le_antisymm (List.length_filter_le _ _) (Nat.sub_eq_zero_iff_le.1 none)
    rw [List.length_filter_eq_length_iff] at all
    have succeeded : (reports.filter fun (_, report) => !report.success) = [] := by
      rw [List.filter_eq_nil_iff]
      rintro ⟨file, report⟩ mem
      have clean : report.isClean = true := all (file, report) mem
      cases failed : report.success with
      | true => simp [failed]
      | false => simp [FileReport.isClean_eq_false failed] at clean
    rw [succeeded]
    rfl
  · rw [failedRows, List.flatMap_cons, List.flatMap_cons, List.flatMap_nil, List.append_nil,
      List.append_nil]
    dsimp only
    rw [List.filter_map, List.filter_filter]
    refine congrArg _ (List.filter_congr fun entry _ => ?_)
    exact (keep entry).symm

namespace Command

open Text

variable {engine : Engine} {start session now next last : Session} {input output : Path}
  {files begun done rest : List (List String)} {parts : List String} {reports : Entries FileReport}

/-! ## Failures -/

/-- A source that cannot be read, or whose destination cannot be written. -/
def fails (session : Session) (input output : Path) (parts : List String) : Bool :=
  match readSource session (input.below parts) with
  | .error _ => true
  | .ok _ => !session.files.canWrite session.cwd (output.below parts)

/-- The error that is reported on a file that fails. -/
inductive Complaint (session : Session) (input output : Path) (parts : List String) : String → Prop
  | unread {message : String} (unreadable : readSource session (input.below parts) = .error message) :
      Complaint session input output parts (readComplaint (input.below parts) message).message
  | unwritten {code : List Char} (read : readSource session (input.below parts) = .ok code)
      (blocked : session.files.canWrite session.cwd (output.below parts) = false)
      (message : String) :
      Complaint session input output parts (writeComplaint (output.below parts) message).message

theorem Complaint.of_print {notes : List Message} {text : String}
    (h : Complaint (session.print notes) input output parts text) :
    Complaint session input output parts text := by
  cases h with
  | unread unreadable => exact .unread unreadable
  | unwritten read blocked message =>
    have here : readSource session (input.below parts) = .ok _ := read
    exact .unwritten here blocked message

/-- The row of a file that failed. -/
def FailedRow (parts : List String) (row : List String) : Prop :=
  ∃ issues, row = [Path.toText ⟨"", parts⟩, "❌ Failed", issues]

/-- What one turn reports: an error if the file fails, and none otherwise. -/
inductive Verdict (start : Session) (input output : Path) (parts : List String) :
    List Message → FileReport → Prop
  | failed {notes : List Message} {report : FileReport} {text : String}
      (fails : fails start input output parts = true) (failed : report.success = false)
      (told : errorTexts notes = [text]) (complaint : Complaint start input output parts text) :
      Verdict start input output parts notes report
  | fine {notes : List Message} {report : FileReport}
      (fine : fails start input output parts = false) (succeeded : report.success = true)
      (told : errorTexts notes = []) : Verdict start input output parts notes report

/-- A turn fails or not as could be seen from the start, where its source still reads the same. -/
theorem Turn.verdict {report : FileReport}
    (batch : IsBatch start input output files)
    (turn : Turn engine (input.below parts) (output.below parts) now next report)
    (same : readSource now (input.below parts) = readSource start (input.below parts))
    (writable : now.files.Writable now.cwd (output.below parts) ↔
      start.files.Writable start.cwd (output.below parts)) :
    ∃ notes, next.screen = now.screen.print notes ∧ failedRows notes = [] ∧
      Verdict start input output parts notes report := by
  have canWrite {code : List Char} (read : readSource start (input.below parts) = .ok code) :
      start.files.canWrite start.cwd (output.below parts) = true ↔
        now.files.Writable now.cwd (output.below parts) :=
    (FileTree.canWrite_iff (batch.holdsNull_destination read)).trans writable.symm
  cases turn with
  | unread unreadable =>
    rw [same] at unreadable
    exact ⟨_, rfl, rfl, .failed (by simp [fails, unreadable]) rfl rfl (.unread unreadable)⟩
  | @unwritten _ _ _ _ error read _ writes harmless =>
    rw [same] at read
    have blocked : start.files.canWrite start.cwd (output.below parts) = false := by
      rw [← Bool.not_eq_true, canWrite read, ← writes.done_iff]
      nofun
    refine ⟨_, rfl, ?_, .failed (by simp [fails, read, blocked]) rfl ?_
      (.unwritten read blocked error.message)⟩
    · rw [failedRows_append, harmless.failedRows_eq_nil]
      rfl
    · rw [errorTexts_append, harmless.errorTexts_eq_nil]
      rfl
  | written read _ writes harmless =>
    rw [same] at read
    have open_ := (canWrite read).2 (writes.done_iff.1 rfl)
    exact ⟨_, rfl, harmless.failedRows_eq_nil,
      .fine (by simp [fails, read, open_]) rfl harmless.errorTexts_eq_nil⟩

theorem errorTexts_closing (reports : Entries FileReport) : errorTexts (closing reports) = [] := by
  unfold closing
  split
  · rfl
  · exact errorTexts_summarize reports

theorem failedRows_closing (reports : Entries FileReport) :
    failedRows (closing reports) =
      (reports.filter fun (_, report) => !report.success).map fun (file, report) =>
        report.row file := by
  unfold closing
  split
  · rename_i none
    rw [none]
    rfl
  · exact failedRows_summarize reports

/-- **What the turns of a batch report.** Where no destination is a source, an error is reported on each
file that fails, in their order, and on no other one. -/
theorem reported_of_turns (reached : Moves start output done start session)
    (batch : IsBatch start input output files)
    (separate : Separate (output.place start.cwd) (input.place start.cwd))
    (listed : ∀ parts ∈ done ++ rest, parts ∈ files) (nodup : (done ++ rest).Nodup)
    (turns : Turns engine input output session rest last reports) :
    ∃ notes, last.screen = session.screen.print notes ∧ failedRows notes = [] ∧
      List.Forall₂ (Complaint start input output) (rest.filter (fails start input output))
        (errorTexts notes) ∧
      List.Forall₂ FailedRow (rest.filter (fails start input output))
        (failedRows (closing reports)) := by
  simp only [failedRows_closing]
  induction turns generalizing done with
  | nil session => exact ⟨[], by simp [Screen.print], rfl, .nil, .nil⟩
  | @cons session next last parts rest report reports turn later ih =>
    have mem : parts ∈ files := listed parts (by simp)
    have earlier : ∀ other ∈ done, other ∈ files ∧ other ≠ parts := fun other mem =>
      others_of_nodup listed nodup other (List.mem_append_left rest mem)
    have whole : done ++ [parts] ++ rest = done ++ parts :: rest := by simp
    have moves := moves_of_turn reached batch mem earlier turn
    obtain ⟨laterNotes, laterScreen, laterQuiet, complaints, rows⟩ := ih (reached.append moves)
      (whole ▸ listed) (whole ▸ nodup)
    have kept : ¬ Overwritten start input output done parts := by
      rintro ⟨other, early, same⟩
      exact batch.ne_source separate (earlier other early).1 mem same
    obtain ⟨notes, screen, quiet, verdict⟩ := turn.verdict batch
      (readSource_of_moves reached batch mem kept) (reached.writable_iff batch mem earlier)
    refine ⟨notes ++ laterNotes, ?_, ?_, ?_⟩
    · rw [laterScreen, screen, Screen.print_append]
    · rw [failedRows_append, quiet, laterQuiet, List.append_nil]
    · rw [errorTexts_append]
      cases verdict with
      | failed fails failed told complaint =>
        have row : FailedRow parts (report.row (Path.toText ⟨"", parts⟩)) :=
          ⟨report.issues, by simp [FileReport.row, FileReport.status, failed]⟩
        rw [List.filter_cons_of_pos fails, List.filter_cons_of_pos (by simp [failed]), told]
        exact ⟨.cons complaint complaints, .cons row rows⟩
      | fine fine succeeded told =>
        rw [List.filter_cons_of_neg (by simp [fine]), List.filter_cons_of_neg (by simp [succeeded]),
          told]
        exact ⟨complaints, rows⟩

/-! ## The command -/

/-- What becomes of the sources of a directory, each by itself, once they have had their turns. A source
that can be read, and its destination be written, is delivered there, byte for byte if no mapped module
is located in it. A source that cannot be read leaves its destination alone, and so does the command
every place that is no destination of a source whose turn has begun. -/
structure Independent (engine : Engine) (start last : Session) (input output : Path)
    (begun done : List (List String)) : Prop where
  delivered : ∀ parts ∈ done, ∀ bytes code,
    start.files.read start.cwd (input.below parts) = .ok bytes → Utf8.decode bytes = .ok code →
    start.files.canWrite start.cwd (output.below parts) = true →
      Delivered engine last (output.below parts) code ∧
        ((∀ module ∈ engine.mapped, Statement.find module.1 code = []) →
          last.files.read start.cwd (output.below parts) = .ok bytes)
  untouched : ∀ parts ∈ done, ∀ message,
    readSource start (input.below parts) = .error message → ∀ bytes,
      (last.files.get? ((output.below parts).place start.cwd) = some (.file bytes) ↔
        start.files.get? ((output.below parts).place start.cwd) = some (.file bytes))
  kept : ∀ place, (∀ parts ∈ begun, place ≠ (output.below parts).place start.cwd) → ∀ bytes,
    (last.files.get? place = some (.file bytes) ↔ start.files.get? place = some (.file bytes))

/-- What has been shown before is no matter. -/
theorem Independent.of_print {notes : List Message}
    (h : Independent engine (start.print notes) last input output begun done) :
    Independent engine start last input output begun done :=
  ⟨h.delivered, h.untouched, h.kept⟩

/-- An error is reported on each file that fails, and a row of the summary says so. Nothing is reported
on any other one. -/
def Reported (start last : Session) (input output : Path) (files : List (List String)) : Prop :=
  ∃ added, last.screen = start.screen.print added ∧
    List.Forall₂ (Complaint start input output) (files.filter (fails start input output))
      (errorTexts added) ∧
    List.Forall₂ FailedRow (files.filter (fails start input output)) (failedRows added)

section Batches

variable (batch : IsBatch start input output (done ++ rest))
  (turns : Turns engine input output start done next reports)
  (rested : Moves start output rest next last)
  (separate : Separate (output.place start.cwd) (input.place start.cwd))

include batch turns rested

theorem moves_of_done : Moves start output (done ++ rest) start last := by
  have turned : Moves start output done start next := moves_of_turns (.refl start output start) batch
    (fun _ => List.mem_append_left rest) (List.nodup_append.1 batch.nodup).1 turns
  exact turned.append rested

theorem kept_of_turns {place : Location}
    (elsewhere : ∀ parts ∈ done ++ rest, place ≠ (output.below parts).place start.cwd)
    (bytes : List UInt8) :
    last.files.get? place = some (.file bytes) ↔ start.files.get? place = some (.file bytes) := by
  have moves := moves_of_done batch turns rested
  refine moves.grows.file_iff ?_
  rintro ⟨parts, mem, _, same⟩
  exact elsewhere parts mem same

include separate

/-- A source that cannot be read leaves its destination alone. -/
theorem untouched_of_turns (mem : parts ∈ done) {message : String}
    (unreadable : readSource start (input.below parts) = .error message) (bytes : List UInt8) :
    last.files.get? ((output.below parts).place start.cwd) = some (.file bytes) ↔
      start.files.get? ((output.below parts).place start.cwd) = some (.file bytes) := by
  obtain ⟨before, after, rfl⟩ := List.append_of_mem mem
  obtain ⟨now, turned, report, reached, turn, _, later⟩ := exists_turn batch turns rested
  rw [List.append_assoc, List.cons_append] at batch
  have here : parts ∈ before ++ parts :: (after ++ rest) := by simp
  have others := others_of_nodup (fun _ => id) batch.nodup
  have same : readSource now (input.below parts) = readSource start (input.below parts) :=
    readSource_of_moves reached batch here (batch.not_overwritten (.inr separate))
  have unchanged : turned.files = now.files := by
    cases turn with
    | unread => rfl
    | unwritten read =>
      rw [same, unreadable] at read
      cases read
    | written read =>
      rw [same, unreadable] at read
      cases read
  have late := batch.not_writtenFor here fun other late =>
    others other (List.mem_append_right before late)
  have early := batch.not_writtenFor here fun other earlier =>
    others other (List.mem_append_left _ earlier)
  rw [later.grows.file_iff late, unchanged, reached.grows.file_iff early]

theorem delivered_of_turns (sound : engine.configuration.Sound) (mem : parts ∈ done)
    {bytes : List UInt8} {code : List Char}
    (read : start.files.read start.cwd (input.below parts) = .ok bytes)
    (decoded : Utf8.decode bytes = .ok code)
    (writable : start.files.canWrite start.cwd (output.below parts) = true) :
    Delivered engine last (output.below parts) code ∧
      ((∀ module ∈ engine.mapped, Statement.find module.1 code = []) →
        last.files.read start.cwd (output.below parts) = .ok bytes) := by
  have moves := moves_of_done batch turns rested
  obtain ⟨before, after, rfl⟩ := List.append_of_mem mem
  have source : readSource start (input.below parts) = .ok code := by
    simp only [readSource, read, decoded]
  have mirrors := mirrors_of_turns batch turns rested writable
  rw [List.append_assoc, List.cons_append] at batch
  have there : Delivered engine last (output.below parts) code :=
    mirrors.kept (batch.not_overwritten (.inr separate)) code source
  refine ⟨there, fun absent => ?_⟩
  rw [← moves.cwd, there.read_of_absent sound absent, Utf8.encode_of_decode decoded]

/-- **What has had its turn is settled,** whatever comes later. -/
theorem independent_of_turns (sound : engine.configuration.Sound) :
    Independent engine start last input output (done ++ rest) done :=
  ⟨fun _ mem _ _ => delivered_of_turns batch turns rested separate sound mem,
    fun _ mem _ => untouched_of_turns batch turns rested separate mem,
    fun _ => kept_of_turns batch turns rested⟩

end Batches

section Runs

variable {notes : List Message} (batch : IsBatch session input output files)
  (separate : Separate (output.place session.cwd) (input.place session.cwd))
  (sound : engine.configuration.Sound)

include batch separate

/-- **A batch that comes to its end** reports its failures, each on its file. -/
theorem reported_of_through (harmless : Harmless notes)
    (turns : Turns engine input output (session.print notes) files last reports) :
    Reported session (last.print (closing reports)) input output files := by
  have noted := batch.print notes
  obtain ⟨later, screen, quiet, complaints, rows⟩ :=
    reported_of_turns (.refl _ output _) noted separate (fun _ => id) batch.nodup turns
  have errors : errorTexts (notes ++ later ++ closing reports) = errorTexts later := by
    rw [errorTexts_append, errorTexts_closing, errorTexts_append, harmless.errorTexts_eq_nil,
      List.nil_append, List.append_nil]
  have failed : failedRows (notes ++ later ++ closing reports) = failedRows (closing reports) := by
    rw [failedRows_append, failedRows_append, harmless.failedRows_eq_nil, quiet, List.nil_append,
      List.nil_append]
  replace complaints := complaints.imp fun _ _ complaint => complaint.of_print
  refine ⟨notes ++ later ++ closing reports, ?_, errors ▸ complaints, failed ▸ rows⟩
  rw [Screen.print_append, Screen.print_append]
  exact congrArg (Screen.print (closing reports)) screen

include sound

theorem independent_of_through
    (turns : Turns engine input output (session.print notes) files last reports) :
    Independent engine session (last.print (closing reports)) input output files files := by
  have noted := batch.print notes
  have rested : Moves (session.print notes) output [] last (last.print (closing reports)) :=
    ⟨rfl, .refl _⟩
  rw [← List.append_nil files] at noted
  have independent := (independent_of_turns noted turns rested separate sound).of_print
  rwa [List.append_nil] at independent

end Runs

/-- Behind a message that cannot be drawn, what has had its turn is settled, and what comes behind the next
file is not begun. -/
theorem independent_of_halt {notes : List Message}
    (batch : IsBatch session input output (done ++ rest))
    (separate : Separate (output.place session.cwd) (input.place session.cwd))
    (sound : engine.configuration.Sound)
    (turns : Turns engine input output (session.print notes) done now reports)
    (halt : Halt (rest.head?.map output.below) now last) :
    Independent engine session last input output (done ++ rest.take 1) done := by
  obtain ⟨begun, rested⟩ := begun_of_halt (batch.print notes) turns halt
  exact (independent_of_turns begun turns rested separate sound).of_print

/-- A directory with a source, one that is no text, and one with a directory in the place that it is
to be written to. -/
def mixed : Session where
  files := ⟨[
    (["pyproject.toml"],
      .file (Utf8.encode "[tool.magic_imports.modules.ui.targets]\nreact = 'lib'".toList)),
    (["src"], .directory),
    (["src", "a.ts"], .file (Utf8.encode "let a".toList)),
    (["src", "b.ts"], .file [0xFF]),
    (["src", "c.ts"], .file (Utf8.encode "let c".toList)),
    (["out"], .directory),
    (["out", "c.ts"], .directory)]⟩
  cwd := []
  screen := Screen.start

/-- The directory is rewritten to the one beside it. -/
def beside : RewriteOptions :=
  ⟨⟨"", ["src"]⟩, .value ⟨"", ["out"]⟩, .value "react", .unset, []⟩

/-- A first source that cannot be read, and whose complaint cannot be drawn, is the end of the batch. -/
theorem rewriteDirectory_unread [Libraries] {options : RewriteOptions} {message : String}
    (given : options.output.value? = some output)
    (found : sources session options.input options.suffixes = parts :: rest)
    (started : (Message.log (startNote (parts :: rest).length options.input)).isDrawable = true)
    (unreadable : readSource session (options.input.below parts) = .error message)
    (undrawable : (Message.log (readComplaint (options.input.below parts) message)).isDrawable =
      false) :
    rewriteDirectory engine options session =
      (session.print [.log (startNote (parts :: rest).length options.input)],
        .crash (.undrawable (.log (readComplaint (options.input.below parts) message)))) := by
  have unread : readSource (session.print [.log (startNote (parts :: rest).length options.input)])
    (options.input.join ⟨"", parts⟩) = .error message := unreadable
  unfold RewriteOptions.suffixes at found
  simp only [rewriteDirectory, given, found, List.isEmpty_cons, Bool.false_eq_true, if_false,
    Session.tell_singleton, started, if_true, rewriteFiles, rewriteFile, unread]
  rw [if_neg (ne_true_of_eq_false undrawable)]

/-- A directory with a file that is no text, in a place that reads like a closing tag, and a source
behind it. -/
def bracketed : Session where
  files := ⟨[
    (["pyproject.toml"],
      .file (Utf8.encode "[tool.magic_imports.modules.ui.targets]\nreact = 'lib'".toList)),
    (["src"], .directory),
    (["src", "a["], .directory),
    (["src", "a[", "b].ts"], .file [0xFF]),
    (["src", "c.ts"], .file (Utf8.encode "let c".toList))]⟩
  cwd := []
  screen := Screen.start

/-- What is to be shown of the file. -/
def unreadNote : LogEntry :=
  readComplaint ⟨"", ["src", "a[", "b].ts"]⟩
    "'utf-8' codec can't decode byte 0xff in position 0: invalid start byte"

theorem sources_bracketed :
    sources bracketed beside.input beside.suffixes = [["a[", "b].ts"], ["c.ts"]] := by
  have located : bracketed.files.locate bracketed.cwd beside.input = .ok ["src"] := by decide +kernel
  have below : (bracketed.files.entries.filterMap (bracketed.files.below? ["src"])).eraseDups =
      [["a[", "b].ts"], ["c.ts"]] := by decide +kernel
  rw [sources_of_sorted located below (by decide +kernel)]
  decide +kernel

end Command

end VirtualImports
