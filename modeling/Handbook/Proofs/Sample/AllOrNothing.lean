import Handbook.Command.Run
import Handbook.Proofs.Disk.Writing

/-!
# A program is written whole or not at all

Generating a program is work of several steps in one workspace, of which any may fail and only the
last one changes anything. So a failure leaves the workspace as it was, and success means that the
output is rewritten with the program of the document as it was read before, also where the output is
the document itself or the file of the settings. A run of the program does the same work after it
has read the settings: the default ones, or those in the text of a file.
-/
namespace Handbook

/-- A workspace in which the program of a document is in the file at a path, made with sound
settings from the document as an earlier workspace has it, while everything else is as in that
one. -/
structure Workspace.Generated (before : Workspace) (input output : Path) (settings : Settings)
    (sample : Sample) (after : Workspace) : Prop where
  /-- The settings have no flaw. -/
  sound : settings.flaw? = none
  /-- The sample lines are those of the document as it was. -/
  taken : ∃ content, before.read input = .ok content ∧ sample = Sample.ofText settings content
  /-- The output holds the program around them, and nothing else has changed. -/
  written : before.Rewritten output (sample.program settings) after

/-- Why a program cannot be generated: the reasons are looked at in this order, and the first one
that holds is told. -/
inductive Workspace.Refuses (before : Workspace) (input output : Path) (settings : Settings) :
    Failure → Prop
  /-- The settings have a flaw. -/
  | flawed {flaw : Settings.Flaw} : settings.flaw? = some flaw →
    Refuses before input output settings (.flawed flaw)
  /-- The document cannot be read as text. -/
  | unreadable {error : FileError} : settings.flaw? = none → before.read input = .error error →
    Refuses before input output settings (.unreadable input error)
  /-- The output cannot be opened for the program. -/
  | unwritable {content : String} {error : FileError} : settings.flaw? = none →
    before.read input = .ok content →
    before.write output ((Sample.ofText settings content).program settings) = .error error →
    Refuses before input output settings (.unwritable output error)

/-- A draft is made of a document that can be read, with settings that have no flaw. -/
theorem draftProgram_eq_ok_iff (files : Files) (input : Path) (settings : Settings)
    (draft : ProgramDraft) :
    draftProgram files input settings = .ok draft ↔
      settings.flaw? = none ∧ ∃ content, files.read input = .ok content ∧
        draft = ⟨Block.ofText content, Sample.ofText settings content,
          (Sample.ofText settings content).program settings⟩ := by
  unfold draftProgram
  cases settings.flaw? with
  | some flaw => simp
  | none =>
    cases files.read input with
    | error error => simp
    | ok content => simp [Sample.ofText, eq_comm]

/-- The program is generated by drafting it and writing the draft. -/
theorem Workspace.generated_iff (before after : Workspace) (input output : Path)
    (settings : Settings) (sample : Sample) :
    before.Generated input output settings sample after ↔
      ∃ draft, draftProgram before.files input settings = .ok draft ∧ draft.sample = sample ∧
        before.write output draft.program = .ok after := by
  constructor
  · intro generated
    obtain ⟨content, read, rfl⟩ := generated.taken
    have drafted := (draftProgram_eq_ok_iff before.files input settings _).2
      ⟨generated.sound, content, read, rfl⟩
    exact ⟨_, drafted, rfl, (before.write_eq_ok_iff output _ after).2 generated.written⟩
  · rintro ⟨draft, drafted, rfl, wrote⟩
    obtain ⟨sound, content, read, rfl⟩ :=
      (draftProgram_eq_ok_iff before.files input settings draft).1 drafted
    have written := (before.write_eq_ok_iff output _ after).1 wrote
    exact { sound, taken := ⟨content, read, rfl⟩, written }

/-- Generating a program is refused when no draft can be made, or the draft cannot be written. -/
theorem Workspace.refuses_iff (before : Workspace) (input output : Path) (settings : Settings)
    (failure : Failure) :
    before.Refuses input output settings failure ↔
      draftProgram before.files input settings = .error failure ∨
        ∃ draft error, draftProgram before.files input settings = .ok draft ∧
          before.write output draft.program = .error error ∧
            failure = .unwritable output error := by
  constructor
  · intro refuses
    cases refuses with
    | flawed flaw =>
      left
      simp [draftProgram, flaw]
    | unreadable sound unread =>
      left
      simp [draftProgram, sound, files, unread]
    | unwritable sound read unwritten =>
      right
      have drafted := (draftProgram_eq_ok_iff before.files input settings _).2
        ⟨sound, _, read, rfl⟩
      exact ⟨_, _, drafted, unwritten, rfl⟩
  · rintro (undrafted | ⟨draft, error, drafted, unwritten, rfl⟩)
    · unfold draftProgram at undrafted
      split at undrafted
      · rename_i flaw found
        rw [← Except.error.inj undrafted]
        exact .flawed found
      · rename_i sound
        split at undrafted
        · rename_i error unread
          rw [← Except.error.inj undrafted]
          exact .unreadable sound unread
        · simp at undrafted
    · obtain ⟨sound, content, read, rfl⟩ :=
        (draftProgram_eq_ok_iff before.files input settings draft).1 drafted
      exact .unwritable sound read unwritten

namespace Work

variable {α β : Type}

/-- Work after work that gave a value starts from what that work has left, and work after work that
failed is not done, with what the failed work has changed. -/
theorem outcome_bind (before : Workspace) (work : Work α) (next : α → Work β) :
    (work >>= next).outcome before =
      match work.outcome before with
      | (.ok value, after) => (next value).outcome after
      | (.error failure, after) => (.error failure, after) := by
  simp only [outcome, ExceptT.run_bind, StateT.run_bind]
  cases (ExceptT.run work).run before with
  | mk result after => cases result <;> rfl

/-- A result that is known changes nothing. -/
theorem outcome_ofExcept (before : Workspace) (result : Except Failure α) :
    (MonadExcept.ofExcept result : Work α).outcome before = (result, before) := by
  cases result <;> rfl

/-- Making a draft changes nothing. -/
theorem outcome_draft (before : Workspace) (input : Path) (settings : Settings) :
    (draft input settings).outcome before =
      (draftProgram before.files input settings, before) :=
  outcome_ofExcept before _

/-- Writing a program either fails and changes nothing, or leaves the workspace with the program. -/
theorem outcome_write (before : Workspace) (output : Path) (program : String) :
    (write output program).outcome before =
      match before.write output program with
      | .ok after => (.ok (), after)
      | .error error => (.error (.unwritable output error), before) := by
  show (MonadExcept.ofExcept (before.writeProgram output program) >>= _ : Work Unit).outcome _ = _
  rw [outcome_bind, outcome_ofExcept, Workspace.writeProgram]
  cases before.write output program <;> rfl

/-- Generating a program makes a draft and writes it. -/
theorem outcome_generate (before : Workspace) (input output : Path) (settings : Settings) :
    (generate input output settings).outcome before =
      match draftProgram before.files input settings with
      | .error failure => (.error failure, before)
      | .ok draft =>
        match before.write output draft.program with
        | .ok after => (.ok draft.sample, after)
        | .error error => (.error (.unwritable output error), before) := by
  rw [generate, outcome_bind, outcome_draft]
  cases draftProgram before.files input settings with
  | error failure => rfl
  | ok draft =>
    simp only
    rw [outcome_bind, outcome_write]
    cases before.write output draft.program <;> rfl

/-- Work fails to generate a program for the first reason there is, and then changes nothing. -/
theorem outcome_generate_eq_error_iff (before after : Workspace) (input output : Path)
    (settings : Settings) (failure : Failure) :
    (generate input output settings).outcome before = (.error failure, after) ↔
      after = before ∧ before.Refuses input output settings failure := by
  rw [outcome_generate, Workspace.refuses_iff]
  cases draftProgram before.files input settings with
  | error undrafted => simp [eq_comm, and_comm]
  | ok draft => cases wrote : before.write output draft.program <;> simp [wrote, eq_comm, and_comm]

/-- Work gives sample lines exactly when it leaves the program generated from them. -/
theorem outcome_generate_eq_ok_iff (before after : Workspace) (input output : Path)
    (settings : Settings) (sample : Sample) :
    (generate input output settings).outcome before = (.ok sample, after) ↔
      before.Generated input output settings sample after := by
  rw [outcome_generate, Workspace.generated_iff]
  cases draftProgram before.files input settings with
  | error failure => simp
  | ok draft => cases wrote : before.write output draft.program <;> simp [wrote]

end Work

/-- The settings that a run starts from. -/
inductive Settings.Loads (files : Files) : Option Path → Settings → Prop
  /-- Without a file they are the default ones. -/
  | standard : Loads files none {}
  /-- With a file they are those in its text. -/
  | file {path : Path} {content : String} {settings : Settings} :
    files.read path = .ok content → ofText content = .ok settings →
    Loads files (some path) settings

/-- Settings are loaded by reading the file, if there is one, and then its text. -/
theorem Settings.load_eq_ok_iff (files : Files) (file : Option Path) (settings : Settings) :
    load files file = .ok settings ↔ Loads files file settings := by
  constructor
  · intro loaded
    cases file with
    | none =>
      obtain rfl : ({} : Settings) = settings := Except.ok.inj loaded
      exact .standard
    | some path =>
      cases read : files.read path with
      | error error => simp [load, read] at loaded
      | ok content =>
        simp only [load, read] at loaded
        cases found : ofText content with
        | error error => simp [found, Except.mapError] at loaded
        | ok others =>
          obtain rfl : others = settings := by simpa [found, Except.mapError] using loaded
          exact .file read found
  · intro loads
    cases loads with
    | standard => rfl
    | file read found => simp only [load, read, found, Except.mapError]

namespace Command

/-- The settings of a run are those of the file, with the given marker as the only one. -/
theorem chooseSettings_eq_ok_iff (files : Files) (file : Option Path) (marker : Option String)
    (settings : Settings) :
    chooseSettings files file marker = .ok settings ↔
      ∃ loaded, Settings.Loads files file loaded ∧
        settings = { loaded with markers := marker.elim loaded.markers ([·]) } := by
  simp only [← Settings.load_eq_ok_iff]
  unfold chooseSettings
  cases Settings.load files file with
  | error failure => simp [bind, Except.bind]
  | ok loaded => cases marker <;> simp [bind, Except.bind, eq_comm]

/-- What a run is to do that generates a program: end with status one where the files allow no
draft, and otherwise write the draft, with status zero when that succeeds and one when it does not.
It is decided by the files alone, and nothing is written before the draft is complete. -/
inductive Prepares (files : Files) (file : Option Path) (marker : Option String)
    (input output : Path) : Plan → Prop
  /-- There are no settings, or no draft can be made with them. -/
  | stop {outcome : Outcome} : outcome.status = 1 →
    (∀ settings, chooseSettings files file marker = .ok settings →
      ∀ draft, draftProgram files input settings ≠ .ok draft) →
    Prepares files file marker input output (.finish outcome)
  /-- The draft is to be written. -/
  | go {settings : Settings} {draft : ProgramDraft} {outcome : Except FileError Unit → Outcome} :
    chooseSettings files file marker = .ok settings →
    draftProgram files input settings = .ok draft →
    (outcome (.ok ())).status = 0 → (∀ error, (outcome (.error error)).status = 1) →
    Prepares files file marker input output (.write output draft.program outcome)

/-- A run that generates a program does so as its files allow. -/
theorem prepares_generate (files : Files) (filter : LogFilter) (file : Option Path)
    (marker : Option String) (input output : Path) :
    Prepares files file marker input output
      (Command.generate files filter file marker input output) := by
  unfold Command.generate
  cases chosen : chooseSettings files file marker with
  | error failure =>
    apply Prepares.stop
    · rfl
    · simp [chosen]
  | ok settings =>
    simp only
    cases drafted : draftProgram files input settings with
    | error failure =>
      apply Prepares.stop
      · rfl
      · simp [chosen, drafted]
    | ok draft =>
      apply Prepares.go chosen drafted
      · rfl
      · exact fun _ => rfl

end Command

namespace Workspace

/-- A workspace gives sample lines exactly when the program is generated from them. -/
theorem generate_eq_ok_iff (before after : Workspace) (input output : Path) (settings : Settings)
    (sample : Sample) :
    before.generate input output settings = .ok (sample, after) ↔
      before.Generated input output settings sample after := by
  rw [← Work.outcome_generate_eq_ok_iff]
  unfold generate
  cases (Work.generate input output settings).outcome before with
  | mk result left => cases result <;> simp [Except.map]

/-- What a run that is asked for a program leaves when it does it: the program is generated with the
settings of the file as it was before, or with the default ones if no file is given, and with the
given marker as the only one if there is one. -/
def GeneratedAsAsked (before : Workspace) (file : Option Path) (marker : Option String)
    (input output : Path) (after : Workspace) : Prop :=
  ∃ loaded sample, Settings.Loads before.files file loaded ∧
    before.Generated input output { loaded with markers := marker.elim loaded.markers ([·]) } sample
      after

/-- A program is generated as asked when its draft with the chosen settings is written. -/
theorem generatedAsAsked_iff (before after : Workspace) (file : Option Path)
    (marker : Option String) (input output : Path) :
    before.GeneratedAsAsked file marker input output after ↔
      ∃ settings draft, Command.chooseSettings before.files file marker = .ok settings ∧
        draftProgram before.files input settings = .ok draft ∧
          before.write output draft.program = .ok after := by
  unfold GeneratedAsAsked
  constructor
  · rintro ⟨loaded, sample, loads, generated⟩
    obtain ⟨draft, drafted, -, wrote⟩ := (generated_iff _ _ _ _ _ _).1 generated
    have chosen := (Command.chooseSettings_eq_ok_iff before.files file marker _).2
      ⟨loaded, loads, rfl⟩
    exact ⟨_, draft, chosen, drafted, wrote⟩
  · rintro ⟨settings, draft, chosen, drafted, wrote⟩
    obtain ⟨loaded, loads, rfl⟩ := (Command.chooseSettings_eq_ok_iff _ _ _ _).1 chosen
    have generated := (generated_iff before after input output _ draft.sample).2
      ⟨draft, drafted, rfl, wrote⟩
    exact ⟨loaded, draft.sample, loads, generated⟩

/-- A run that is asked for a program ends with status one and changes nothing, which happens only
if the program cannot be generated, or it ends with status zero and leaves the program generated. -/
theorem run_generate {before : Workspace} {arguments : List String} {verbose : Bool}
    {file : Option Path} {marker : Option String} {input output : Path} (filter : Option String)
    (asked : Command.Request.ofArguments arguments =
      some (.generate verbose file marker input output)) :
    ((before.run filter arguments).1.status = 1 ∧ (before.run filter arguments).2 = before ∧
        ∀ after, ¬before.GeneratedAsAsked file marker input output after) ∨
      ((before.run filter arguments).1.status = 0 ∧
        before.GeneratedAsAsked file marker input output (before.run filter arguments).2) := by
  have planned : Command.plan before.files filter arguments =
      Command.generate before.files (Command.chooseFilter filter verbose) file marker input
        output := by
    simp [Command.plan, asked, Command.Request.plan]
  have prepares := Command.prepares_generate before.files (Command.chooseFilter filter verbose) file
    marker input output
  simp only [generatedAsAsked_iff]
  unfold run
  rw [planned]
  generalize Command.generate before.files (Command.chooseFilter filter verbose) file marker input
    output = plan at prepares
  cases prepares with
  | stop failed none =>
    left
    refine ⟨failed, rfl, ?_⟩
    rintro after ⟨settings, draft, chosen, drafted, -⟩
    exact none settings chosen draft drafted
  | @go settings draft outcome chosen drafted succeeds fails =>
    simp only
    cases wrote : before.write output draft.program with
    | ok after =>
      right
      exact ⟨succeeds, settings, draft, chosen, drafted, wrote⟩
    | error error =>
      left
      refine ⟨fails error, rfl, ?_⟩
      -- The files determine the settings and the draft, and this draft cannot be written.
      rintro after ⟨others, again, chosenAgain, draftedAgain, done⟩
      obtain rfl : settings = others := Except.ok.inj (chosen.symm.trans chosenAgain)
      obtain rfl : draft = again := Except.ok.inj (drafted.symm.trans draftedAgain)
      rw [wrote] at done
      cases done

/-- Generating a program is all or nothing. Work fails exactly when there is a reason for it, and
then leaves the workspace as it was; it gives sample lines exactly when it leaves the program
generated from them, whatever file the output is, and only then does a workspace give them. A run
that is asked for a program ends with status one and changes nothing, which happens only if the
program cannot be generated as asked, or it ends with status zero and leaves the program
generated. -/
theorem generate_all_or_nothing (before : Workspace) (input output : Path) :
    (∀ settings failure after,
      (Work.generate input output settings).outcome before = (.error failure, after) ↔
        after = before ∧ before.Refuses input output settings failure) ∧
    (∀ settings sample after,
      (Work.generate input output settings).outcome before = (.ok sample, after) ↔
        before.Generated input output settings sample after) ∧
    (∀ settings sample after, before.generate input output settings = .ok (sample, after) ↔
      before.Generated input output settings sample after) ∧
    ∀ filter arguments verbose file marker,
      Command.Request.ofArguments arguments =
        some (.generate verbose file marker input output) →
      ((before.run filter arguments).1.status = 1 ∧ (before.run filter arguments).2 = before ∧
          ∀ after, ¬before.GeneratedAsAsked file marker input output after) ∨
        ((before.run filter arguments).1.status = 0 ∧
          before.GeneratedAsAsked file marker input output (before.run filter arguments).2) := by
  refine ⟨fun settings failure after => ?_, fun settings sample after => ?_,
    fun settings sample after => ?_, fun filter arguments verbose file marker asked => ?_⟩
  · exact Work.outcome_generate_eq_error_iff before after input output settings failure
  · exact Work.outcome_generate_eq_ok_iff before after input output settings sample
  · exact generate_eq_ok_iff before after input output settings sample
  · exact run_generate filter asked

/-- A working folder with the folder `code`, the document `guide.md` with two blocks and the
settings `settings.toml`. -/
def shortManual : Workspace where
  disk := ((Disk.empty.addFolder "code" [] Disk.empty.root_folder).store
    ⟨"guide.md", [], Disk.root_folder _, show (none : Option Entry) ≠ some .folder from nofun⟩
    "```cc\nint a;\n```\n```rs\nlet b;\n```\n".toUTF8).store
    ⟨"settings.toml", [], Disk.root_folder _, show (none : Option Entry) ≠ some .folder from nofun⟩
    "[example]\nfence_markers = [\"rs\"]\nindent = \"\\t\"\nincludes = [\"a.h\"]\n".toUTF8
  current := []

/-- Arguments that ask for the program of the document in place of the settings, which the output
names through a folder. -/
def manualArguments (file : String) : List String :=
  ["example", "guide.md", "code/../settings.toml", "--language=cc", "--config=" ++ file]

/-- The program that takes the place of the settings is made with them and with the given marker. A
document is no file of settings, so nothing is written when it is given as one. -/
theorem generate_all_or_nothing_in_place :
    (∀ file ∈ ["settings.toml", "guide.md"],
      Command.Request.ofArguments (manualArguments file) =
        some (.generate false (some ⟨file⟩) (some "cc") ⟨"guide.md"⟩ ⟨"code/../settings.toml"⟩)) ∧
    (shortManual.GeneratedAsAsked (some ⟨"settings.toml"⟩) (some "cc") ⟨"guide.md"⟩
        ⟨"code/../settings.toml"⟩ (shortManual.run none (manualArguments "settings.toml")).2 ∧
      ((shortManual.run none (manualArguments "settings.toml")).2.read
          ⟨"settings.toml"⟩).toOption =
        some ("#include <cstdio>\n#include \"a.h\"\n" ++
          "int main() \x7b\n\tint a;\n\treturn 0;\n\x7d\n")) ∧
    (shortManual.run none (manualArguments "guide.md")).1.status = 1 ∧
      (shortManual.run none (manualArguments "guide.md")).2 = shortManual ∧
      ∀ after, ¬shortManual.GeneratedAsAsked (some ⟨"guide.md"⟩) (some "cc") ⟨"guide.md"⟩
        ⟨"code/../settings.toml"⟩ after := by
  have asked : ∀ file ∈ ["settings.toml", "guide.md"],
      Command.Request.ofArguments (manualArguments file) =
        some (.generate false (some ⟨file⟩) (some "cc") ⟨"guide.md"⟩
          ⟨"code/../settings.toml"⟩) := by
    decide +kernel
  have succeeds : (shortManual.run none (manualArguments "settings.toml")).1.status = 0 := by
    decide +kernel
  have fails : (shortManual.run none (manualArguments "guide.md")).1.status = 1 := by
    decide +kernel
  obtain ⟨-, -, -, outcomes⟩ :=
    generate_all_or_nothing shortManual ⟨"guide.md"⟩ ⟨"code/../settings.toml"⟩
  refine ⟨asked, ⟨?_, by decide +kernel⟩, fails, ?_⟩
  · rcases outcomes none _ false _ _ (asked "settings.toml" (by simp)) with failed | done
    · have impossible := succeeds.symm.trans failed.1
      cases impossible
    · exact done.2
  · rcases outcomes none _ false _ _ (asked "guide.md" (by simp)) with failed | done
    · exact failed.2
    · have impossible := fails.symm.trans done.1
      cases impossible

end Workspace

end Handbook
