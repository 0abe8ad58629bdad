import Mathlib
import TextChunking.Cli.Perform
import TextChunking.Proofs.Files.Emptying
import TextChunking.Proofs.Files.Shapes
import TextChunking.Proofs.Ingest.Delivery
/-!
# What a failing command does to its output file

A command that splits files fails for its settings, an option or a pattern, before it has touched anything; or
because its output file may not be opened; or for an input that does not exist, or more permits than there can be,
which is found out when the output file was opened already. **Theorem** (`output_kept_iff`): a file that was at the
place of the output is kept in the first two cases, and holds nothing any more in the third.

Up to the output file the command only reads (`IsReady`). A file that is there opens unless the system refuses that
(`Tree.create_of_holds`), and is empty then (`Tree.holds_of_create`). So all is decided by the first input that is
missing (`Tree.firstMissing?`), for which it makes no difference that the file was emptied
(`Tree.SameShape.isInput_eq`).
-/

namespace TextChunking

/-- The same inputs exist in trees of one shape. -/
theorem Tree.SameShape.isInput_eq {tree other : Tree} (h : tree.SameShape other) (path : Path) :
    other.isInput path = tree.isInput path := by
  rw [isInput, isInput, h.isFile_eq, h.isSome_entries?_eq]

/-- Opening a file that is there moves nothing. -/
theorem Tree.sameShape_of_create {tree : Tree} {path : Path} {old : ByteArray} {opened : Tree × Nat}
    (h : tree.Holds path old) (hallowed : tree.refusal? .create path = none)
    (hopen : tree.create path = .ok opened) : tree.SameShape opened.1 := by
  obtain ⟨id, hfile, -⟩ := h
  rw [create_of_isFileAt hallowed hfile] at hopen
  cases hopen
  exact ⟨rfl, rfl, .refl _, .refl _⟩

namespace Cli

/-- Why a line of words is not carried out. -/
inductive LineFault where
  | misuse (cause : Misuse)
  | command (cause : CommandFault)

/-- Reads a line of words and performs its command, and gives the files as they are then. -/
def performLine (tree : Tree) (environment : Environment) (words : List String) :
    Tree × Except LineFault Report :=
  match Invocation.read words with
  | .error cause => (tree, .error (.misuse cause))
  | .ok invocation =>
    let (tree, result) := perform tree environment invocation.command
    (tree, result.mapError .command)

/-- Settings can be loaded, and a pipeline is opened that is as the arguments ask: their sizes are valid and
their patterns can be read. -/
def IsReady (tree : Tree) (environment : Environment) (arguments : SplitArguments) (pipeline : Pipeline) : Prop :=
  ∃ service, loadService tree environment = .ok service ∧
    (service.openPipeline arguments.request).result = .ok pipeline

variable {tree : Tree} {environment : Environment} {arguments : SplitArguments} {pipeline : Pipeline}
  {path : Path} {old : ByteArray}

/-- A line is performed as its command is. -/
theorem performLine_eq {words : List String} {invocation : Invocation} {final : Tree}
    {result : Except CommandFault Report} (hread : Invocation.read words = .ok invocation)
    (hperform : perform tree environment invocation.command = (final, result)) :
    performLine tree environment words = (final, result.mapError .command) := by
  rw [performLine, hread]
  simp only [hperform]

/-- A command that is not ready touches nothing. -/
theorem perform_of_not_isReady (h : ¬∃ pipeline, IsReady tree environment arguments pipeline) :
    ∃ cause, perform tree environment (.split arguments) = (tree, .error (.fault cause)) := by
  rw [perform]
  cases hservice : loadService tree environment with
  | error cause => exact ⟨cause, rfl⟩
  | ok service =>
    cases hpipeline : (service.openPipeline arguments.request).result with
    | error cause => exact ⟨cause, by simp only [split, hpipeline, Except.map]⟩
    | ok pipeline => exact absurd ⟨pipeline, service, hservice, hpipeline⟩ h

/-- A command that may not open its output file touches nothing. -/
theorem perform_of_refusal? {fault : FileFault} (h : IsReady tree environment arguments pipeline)
    (houtput : arguments.output = some path) (hrefused : tree.refusal? .create path = some fault) :
    perform tree environment (.split arguments) = (tree, .error (.noOutputFile path (.file fault))) := by
  obtain ⟨service, hservice, hpipeline⟩ := h
  rw [perform, hservice]
  simp only [split, hpipeline, openOutput, houtput, OpenFile.create, Tree.create_of_refusal? hrefused, Except.map]

/-- What becomes of a command that is ready and has opened its output file. -/
def commandResult (arguments : SplitArguments) (run : Pipeline.Run Delivery) : Except CommandFault Report :=
  (resultOf arguments run).map fun summary => .summary summary arguments.verbose

/-- A command that is ready has its output file open, and nothing in it, when it looks for its inputs. -/
theorem perform_of_isReady (h : IsReady tree environment arguments pipeline)
    (houtput : arguments.output = some path) (hallowed : tree.refusal? .create path = none)
    (hold : tree.Holds path old) : ∃ opened file, opened.Holds path ByteArray.empty ∧
      opened.firstMissing? arguments.paths = tree.firstMissing? arguments.paths ∧
      let run := pipeline.run Sink.deliver opened { tree := opened, lines := some file } arguments.paths
      perform tree environment (.split arguments) = (run.state.tree, commandResult arguments run) := by
  obtain ⟨service, hservice, hpipeline⟩ := h
  obtain ⟨⟨opened, id⟩, hopened⟩ := Tree.create_of_holds hallowed hold
  have hshape : tree.SameShape opened := Tree.sameShape_of_create hold hallowed hopened
  refine ⟨opened, { id, offset := 0, writes := 0 }, Tree.holds_of_create hold hopened, ?_, ?_⟩
  · simp only [Tree.firstMissing?, hshape.isInput_eq]
  · rw [perform, hservice]
    simp only [split, hpipeline, openOutput, houtput, OpenFile.create, hopened, commandResult]

section Ready

variable (h : IsReady tree environment arguments pipeline) (houtput : arguments.output = some path)
  (hallowed : tree.refusal? .create path = none) (hold : tree.Holds path old)

include h houtput hallowed hold

/-- A command for which an input is missing has emptied its output file. -/
theorem perform_of_missing {missing : Path} (hmissing : tree.firstMissing? arguments.paths = some missing) :
    ∃ final, perform tree environment (.split arguments) = (final, .error (.fault (.inputNotFound missing))) ∧
      final.Holds path ByteArray.empty := by
  obtain ⟨opened, file, hempty, hsame, hperform⟩ := perform_of_isReady h houtput hallowed hold
  have hfiles := pipeline.discovery.files_of_firstMissing? (hsame.trans hmissing)
  rw [Pipeline.run, Pipeline.runScheduled_of_error id _ _ hfiles] at hperform
  exact ⟨opened, hperform, hempty⟩

/-- A command for which there cannot be enough permits has emptied its output file. -/
theorem perform_of_lt (hmissing : tree.firstMissing? arguments.paths = none)
    (hpermits : Pipeline.maxPermits < pipeline.maxConcurrentFiles) :
    ∃ final, perform tree environment (.split arguments) = (final, .error .aborted) ∧
      final.Holds path ByteArray.empty := by
  obtain ⟨opened, file, hempty, hsame, hperform⟩ := perform_of_isReady h houtput hallowed hold
  obtain ⟨found, hfound⟩ := pipeline.discovery.exists_files_of_firstMissing? (hsame.trans hmissing)
  rw [Pipeline.run, Pipeline.runScheduled_of_lt id _ _ hfound hpermits] at hperform
  exact ⟨opened, hperform, hempty⟩

/-- A command that has all that it asks for succeeds. -/
theorem perform_of_le (hmissing : tree.firstMissing? arguments.paths = none)
    (hpermits : pipeline.maxConcurrentFiles ≤ Pipeline.maxPermits) :
    ∃ final report, perform tree environment (.split arguments) = (final, .ok report) := by
  obtain ⟨opened, file, -, hsame, hperform⟩ := perform_of_isReady h houtput hallowed hold
  obtain ⟨found, hfound⟩ := pipeline.discovery.exists_files_of_firstMissing? (hsame.trans hmissing)
  rw [Pipeline.run, Pipeline.runScheduled_of_le id _ _ hfound hpermits] at hperform
  exact ⟨_, _, hperform⟩

/-- A command that fails with its output file open has emptied it. -/
theorem holds_of_perform_eq_error {final : Tree} {fault : CommandFault}
    (hfail : perform tree environment (.split arguments) = (final, .error fault)) :
    final.Holds path ByteArray.empty := by
  cases hmissing : tree.firstMissing? arguments.paths with
  | some missing =>
    obtain ⟨last, hlast, hempty⟩ := perform_of_missing h houtput hallowed hold hmissing
    cases hlast.symm.trans hfail
    exact hempty
  | none =>
    by_cases hpermits : pipeline.maxConcurrentFiles ≤ Pipeline.maxPermits
    · obtain ⟨last, report, hlast⟩ := perform_of_le h houtput hallowed hold hmissing hpermits
      cases hlast.symm.trans hfail
    · obtain ⟨last, hlast, hempty⟩ :=
        perform_of_lt h houtput hallowed hold hmissing (Nat.lt_of_not_le hpermits)
      cases hlast.symm.trans hfail
      exact hempty

end Ready

/-- A command that fails keeps a file at the place of its output exactly if it has not opened that file, or nothing was
in it. -/
theorem holds_iff_of_perform_eq_error (houtput : arguments.output = some path) (hold : tree.Holds path old)
    {final : Tree} {fault : CommandFault}
    (hfail : perform tree environment (.split arguments) = (final, .error fault)) :
    final.Holds path old ↔ (¬∃ pipeline, IsReady tree environment arguments pipeline) ∨
      (tree.refusal? .create path).isSome ∨ old = ByteArray.empty := by
  by_cases hready : ∃ pipeline, IsReady tree environment arguments pipeline
  · obtain ⟨pipeline, h⟩ := id hready
    cases hrefused : tree.refusal? .create path with
    | some refused =>
      cases (perform_of_refusal? h houtput hrefused).symm.trans hfail
      simp [hold]
    | none =>
      have hempty := holds_of_perform_eq_error h houtput hrefused hold hfail
      have hiff : final.Holds path old ↔ old = ByteArray.empty :=
        ⟨fun hkept => hkept.unique hempty, fun hnothing => hnothing ▸ hempty⟩
      simp [hready, hiff]
  · obtain ⟨cause, hcause⟩ := perform_of_not_isReady hready
    cases hcause.symm.trans hfail
    simp [hready, hold]

/-- **What becomes of a file at the place of the output.** Words that are no command line touch nothing. With
words that ask for a splitting into a file that is there, a command that is not ready fails and touches nothing
either, and neither does one that may not open the file. Any other command has emptied the file by the time at which
it looks for its inputs, and fails exactly if one is missing, or if there cannot be enough permits. So a command that
fails keeps the file if it is not ready or may not open it, and else only what was empty before. -/
theorem output_kept_iff (tree : Tree) (environment : Environment) (words : List String) :
    let ran := performLine tree environment words
    (∀ misuse, Invocation.read words = .error misuse → ran = (tree, .error (.misuse misuse))) ∧
    ∀ format arguments path old,
      Invocation.read words = .ok { format, command := .split arguments } →
      arguments.output = some path → tree.Holds path old →
      ((¬∃ pipeline, IsReady tree environment arguments pipeline) →
        ∃ cause, ran = (tree, .error (.command (.fault cause)))) ∧
      (∀ pipeline, IsReady tree environment arguments pipeline →
        (∀ fault, tree.refusal? .create path = some fault →
          ran = (tree, .error (.command (.noOutputFile path (.file fault))))) ∧
        (tree.refusal? .create path = none →
          (∀ missing, tree.firstMissing? arguments.paths = some missing →
            ran.2 = .error (.command (.fault (.inputNotFound missing))) ∧ ran.1.Holds path ByteArray.empty) ∧
          (tree.firstMissing? arguments.paths = none →
            (pipeline.maxConcurrentFiles ≤ Pipeline.maxPermits → ∃ report, ran.2 = .ok report) ∧
            (Pipeline.maxPermits < pipeline.maxConcurrentFiles →
              ran.2 = .error (.command .aborted) ∧ ran.1.Holds path ByteArray.empty)))) ∧
      ∀ fault, ran.2 = .error fault →
        (ran.1.Holds path old ↔ (¬∃ pipeline, IsReady tree environment arguments pipeline) ∨
          (tree.refusal? .create path).isSome ∨ old = ByteArray.empty) := by
  intro ran
  constructor
  · intro misuse hread
    simp only [ran, performLine, hread]
  intro format arguments path old hread houtput hold
  obtain ⟨final, result, hperform⟩ : ∃ final result, perform tree environment (.split arguments) = (final, result) :=
    ⟨_, _, rfl⟩
  have hran : ran = (final, result.mapError .command) := performLine_eq hread hperform
  rw [hran]
  refine ⟨?_, ?_, ?_⟩
  · intro hnot
    obtain ⟨cause, hcause⟩ := perform_of_not_isReady hnot
    cases hperform.symm.trans hcause
    exact ⟨cause, rfl⟩
  · intro pipeline h
    refine ⟨?_, fun hallowed => ⟨?_, fun hnone => ⟨?_, ?_⟩⟩⟩
    · intro fault hrefused
      cases hperform.symm.trans (perform_of_refusal? h houtput hrefused)
      rfl
    · intro missing hmissing
      obtain ⟨last, hlast, hempty⟩ := perform_of_missing h houtput hallowed hold hmissing
      cases hperform.symm.trans hlast
      exact ⟨rfl, hempty⟩
    · intro hpermits
      obtain ⟨last, report, hlast⟩ := perform_of_le h houtput hallowed hold hnone hpermits
      cases hperform.symm.trans hlast
      exact ⟨report, rfl⟩
    · intro hpermits
      obtain ⟨last, hlast, hempty⟩ := perform_of_lt h houtput hallowed hold hnone hpermits
      cases hperform.symm.trans hlast
      exact ⟨rfl, hempty⟩
  · intro fault hfault
    obtain ⟨cause, rfl⟩ : ∃ cause, result = .error cause := by
      cases result with
      | ok report => cases hfault
      | error cause => exact ⟨cause, rfl⟩
    exact holds_iff_of_perform_eq_error houtput hold hperform

/-- The same files, and two commands that fail: one for its input, and one for a pattern that is none. -/
theorem output_kept_iff_two_failures :
    let tree : Tree :=
      { root := [("out", .file 0), ("c", .file 1)], contents := #["old".toUTF8, ByteArray.empty] }
    let environment : Environment := .ofTexts [("SEMSPLIT_CONFIG", "c"), ("SEMSPLIT_CONFIG_DIR", "d")] none
    let missing := performLine tree environment ["split", "gone", "-o", "out"]
    let unreadable := performLine tree environment ["split", "gone", "-o", "out", "-e", "["]
    tree.Holds "out" "old".toUTF8 ∧
    missing.2 = .error (.command (.fault (.inputNotFound "gone"))) ∧
    missing.1.Holds "out" ByteArray.empty ∧
    ∃ cause, unreadable = (tree, .error (.command (.fault cause))) ∧
      unreadable.1.Holds "out" "old".toUTF8 := by
  intro tree environment missing unreadable
  have hold : tree.Holds "out" "old".toUTF8 := (Tree.readBytes_eq_ok_iff.mp (by cbv)).2
  have hload : loadService tree environment = .ok ⟨{}, ⟨1000, 100, by decide⟩⟩ := by cbv
  refine ⟨hold, ?_⟩
  let arguments : SplitArguments := { paths := ["gone"], output := some "out" }
  obtain ⟨-, hany⟩ := output_kept_iff tree environment ["split", "gone", "-o", "out"]
  obtain ⟨-, hready, -⟩ := hany .human arguments "out" _ (by cbv) rfl hold
  obtain ⟨-, hopened⟩ := hready _ ⟨_, hload, rfl⟩
  obtain ⟨hmissing, -⟩ := hopened rfl
  obtain ⟨hfault, hempty⟩ := hmissing "gone" (by cbv)
  refine ⟨hfault, hempty, ?_⟩
  let invalid : SplitArguments := { arguments with excludePatterns := ["["] }
  have hinvalid : ¬∃ pipeline, IsReady tree environment invalid pipeline := by
    have hopen : (Service.openPipeline ⟨{}, ⟨1000, 100, by decide⟩⟩ invalid.request).result.isOk = false := by cbv
    rintro ⟨pipeline, service, hservice, hpipeline⟩
    cases hload.symm.trans hservice
    rw [hpipeline] at hopen
    cases hopen
  obtain ⟨-, hany⟩ := output_kept_iff tree environment ["split", "gone", "-o", "out", "-e", "["]
  obtain ⟨hnot, -, hkept⟩ := hany .human invalid "out" _ (by cbv) rfl hold
  obtain ⟨cause, hcause⟩ := hnot hinvalid
  exact ⟨cause, hcause, (hkept _ (by rw [hcause])).mpr (.inl hinvalid)⟩

/-- A file with something in it is at the place of the output, and the only input does not exist. The command
asks for nothing that it cannot have, fails for its input, and leaves the file empty. -/
theorem output_emptied_missing_input :
    let tree : Tree :=
      { root := [("out", .file 0), ("c", .file 1)], contents := #["old".toUTF8, ByteArray.empty] }
    let environment : Environment := .ofTexts [("SEMSPLIT_CONFIG", "c"), ("SEMSPLIT_CONFIG_DIR", "d")] none
    let words := ["split", "gone", "-o", "out"]
    Invocation.read words =
      .ok { format := .human, command := .split { paths := ["gone"], output := some "out" } } ∧
    tree.readBytes "out" = .ok "old".toUTF8 ∧
    ∃ final, performLine tree environment words =
        (final, .error (.command (.fault (.inputNotFound "gone")))) ∧
      final.Holds "out" ByteArray.empty ∧ ¬final.Holds "out" "old".toUTF8 := by
  intro tree environment words
  have hread : Invocation.read words =
      .ok { format := .human, command := .split { paths := ["gone"], output := some "out" } } := by cbv
  have hbytes : tree.readBytes "out" = .ok "old".toUTF8 := by cbv
  obtain ⟨-, hold⟩ := Tree.readBytes_eq_ok_iff.mp hbytes
  have hload : loadService tree environment = .ok ⟨{}, ⟨1000, 100, by decide⟩⟩ := by cbv
  obtain ⟨pipeline, hready⟩ :
      ∃ pipeline, IsReady tree environment { paths := ["gone"], output := some "out" } pipeline :=
    ⟨_, _, hload, rfl⟩
  have hmissing : tree.firstMissing? ["gone"] = some "gone" := by cbv
  obtain ⟨final, hfinal, hempty⟩ := perform_of_missing hready rfl rfl hold hmissing
  refine ⟨hread, hbytes, final, performLine_eq hread hfinal, hempty, fun hkept => ?_⟩
  have hsame : "old".toUTF8 = ByteArray.empty := hkept.unique hempty
  exact absurd hsame (by decide)

end Cli

end TextChunking
