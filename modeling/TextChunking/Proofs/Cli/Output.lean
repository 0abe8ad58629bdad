import Mathlib
import TextChunking.Cli.Perform
import TextChunking.Proofs.Ingest.Lines
/-!
# The output file and the summary

With an output file, the documents of a run go two ways: into the file, a line for each, and into the summary.
**Theorem** (`summary_agrees`): both tell the same, for every command and whichever of its writes fail. A batch
whose lines cannot be written is in neither, because it is collected only once it is written (`Sink.deliver`).

What a run hands on is accounted for already (`Pipeline.Delivered`), and what the file holds is an invariant
of the delivery (`Delivery.Records`); here the two are put together (`agrees_of_delivered`).
-/

namespace TextChunking.Cli

open Json Pipeline

/-- A summary of a run over a number of files says what the file of lines at a path says: the file has a
line for each document of the batches in the summary, and nothing but these batches is counted, save that
the files without such a batch are counted as skipped. -/
structure Summary.Agrees (summary : Summary) (tree : Tree) (path : Path) (files : Nat) : Prop where
  chunks : ∃ lines, tree.HasLines path (summary.batches.flatMap Batch.documents) lines ∧
    summary.statistics.chunksCreated = lines.length
  processed : summary.statistics.filesProcessed = summary.batches.length
  settled : summary.statistics.filesProcessed + summary.statistics.filesSkipped = files
  diagnostics : summary.statistics.diagnostics =
    (summary.batches.map fun batch => batch.diagnostics.length).sum

variable {tree opened : Tree} {service : Service} {pipeline : Pipeline} {arguments : SplitArguments}
  {path : Path} {file : OpenFile}

/-- A command that can begin runs its pipeline with its output file open. -/
theorem split_of_opened (hpipeline : (service.openPipeline arguments.request).result = .ok pipeline)
    (houtput : arguments.output = some path) (hcreate : OpenFile.create tree path = .ok (opened, file)) :
    let run := pipeline.run Sink.deliver opened { tree := opened, lines := some file } arguments.paths
    split tree service arguments = (run.state.tree, resultOf arguments run) := by
  simp only [split, hpipeline, openOutput, houtput, hcreate]

/-- A command that has a summary has begun. -/
theorem opened_of_split {final : Tree} {summary : Summary} (houtput : arguments.output = some path)
    (h : split tree service arguments = (final, .ok summary)) :
    ∃ pipeline opened file, (service.openPipeline arguments.request).result = .ok pipeline ∧
      OpenFile.create tree path = .ok (opened, file) := by
  rw [split] at h
  cases hpipeline : (service.openPipeline arguments.request).result with
  | error cause =>
    rw [hpipeline] at h
    cases h
  | ok pipeline =>
    simp only [hpipeline, openOutput, houtput] at h
    cases hcreate : OpenFile.create tree path with
    | error cause =>
      rw [hcreate] at h
      cases h
    | ok made =>
      obtain ⟨opened, file⟩ := made
      exact ⟨pipeline, opened, file, rfl, rfl⟩

/-- The result of a run is a summary exactly if the run gives statistics. -/
theorem resultOf_eq_ok_iff {run : Run Delivery} {summary : Summary} :
    resultOf arguments run = .ok summary ↔
      ∃ statistics, run.result = .ok statistics ∧ summary = summaryOf arguments statistics run.state := by
  rw [resultOf]
  split
  · rename_i statistics hresult
    simp [hresult, eq_comm]
  all_goals
    rename_i hresult
    simp [hresult]

/-- Whatever was handed on to the output, the summary and the file say the same of it. -/
theorem agrees_of_delivered (arguments : SplitArguments) {files : Nat} {batches : List Batch}
    {progress : Progress Delivery} (hwhole : tree.IsWhole)
    (hcreate : OpenFile.create tree path = .ok (opened, file))
    (h : Delivered Sink.deliver { tree := opened, lines := some file } files batches progress) :
    let summary := summaryOf arguments progress.statistics progress.state
    summary.batches = file.written opened batches ∧ summary.Agrees progress.state.tree path files ∧
      progress.state.tree.IsWhole := by
  intro summary
  obtain ⟨⟨last, hlast⟩, hcollected, haccepted⟩ := (Delivery.records_create hwhole hcreate).after batches
  rw [← h.state_eq] at hlast hcollected
  have hbatches : summary.batches = file.written opened batches := hcollected
  obtain ⟨lines, hlines, hlength⟩ := hlast.hasLines
  refine ⟨hbatches, ⟨⟨lines, hlines, ?_⟩, ?_, h.settled_eq, ?_⟩, hlast.isWhole⟩
  · rw [hlength, hcollected, ← haccepted]
    exact h.chunks_eq
  · rw [hbatches, ← haccepted]
    exact h.processed_eq
  · rw [hbatches, ← haccepted]
    exact h.diagnostics_eq

/-- **The output file and the summary say the same.** Whenever a command with an output file has a summary, its
batches are those of the files of which the lines could be written, whichever of the writes failed; each of their
documents has its own line in the output file, in their order, and nothing else is in the file. A line is not
empty, ends at the only line feed in it, and gives a plain document back. The same holds whatever the files give and
whatever the order in which they are worked on. A command that can begin, since its settings are usable and its
output file can be made, has a summary exactly if its inputs exist and there can be enough permits. -/
theorem summary_agrees (service : Service) (hwhole : tree.IsWhole) (houtput : arguments.output = some path) :
    (∀ final summary, split tree service arguments = (final, .ok summary) → ∃ pipeline opened file files,
      (service.openPipeline arguments.request).result = .ok pipeline ∧
      OpenFile.create tree path = .ok (opened, file) ∧
      (pipeline.discovery.files opened arguments.paths).result = .ok files ∧
      summary.batches = file.written opened (pipeline.batches opened files) ∧
      summary.Agrees final path files.length ∧ final.IsWhole) ∧
    ∀ pipeline opened file, (service.openPipeline arguments.request).result = .ok pipeline →
      OpenFile.create tree path = .ok (opened, file) →
      (∀ (results : List (Path × Except Fault Batch)) (completed : List FileOutcome),
        Tasks.Completes pipeline.maxConcurrentFiles (numbered results) completed →
          let progress := deliver Sink.deliver { tree := opened, lines := some file } completed
          let summary := summaryOf arguments progress.statistics progress.state
          summary.batches = file.written opened (resultBatches results) ∧
            summary.Agrees progress.state.tree path results.length ∧ progress.state.tree.IsWhole) ∧
      ((∃ summary, (split tree service arguments).2 = .ok summary) ↔
        (∀ input ∈ arguments.paths, opened.isInput input = true) ∧ pipeline.maxConcurrentFiles ≤ maxPermits) := by
  constructor
  · intro final summary h
    obtain ⟨pipeline, opened, file, hpipeline, hcreate⟩ := opened_of_split houtput h
    rw [split_of_opened hpipeline houtput hcreate] at h
    obtain ⟨rfl, hsummary⟩ := Prod.mk.inj h
    obtain ⟨statistics, hresult, rfl⟩ := resultOf_eq_ok_iff.mp hsummary
    obtain ⟨-, files, progress, hfiles, hdelivered, rfl, hstate⟩ := delivered_run hresult
    obtain ⟨hbatches, hagrees, hend⟩ := agrees_of_delivered arguments hwhole hcreate hdelivered
    rw [← hstate] at hbatches hagrees hend
    exact ⟨pipeline, opened, file, files, hpipeline, hcreate, hfiles, hbatches, hagrees, hend⟩
  · intro pipeline opened file hpipeline hcreate
    refine ⟨fun results completed hcompletes => ?_, ?_⟩
    · have hperm := (Tasks.completes_iff_perm pipeline.maxConcurrentFiles_pos).mp hcompletes
      exact agrees_of_delivered arguments hwhole hcreate (delivered_deliver _ _ hperm)
    · rw [split_of_opened hpipeline houtput hcreate]
      simp only [resultOf_eq_ok_iff, ← exists_result_run_iff Sink.deliver { tree := opened, lines := some file }]
      exact ⟨fun ⟨_, statistics, hresult, _⟩ => ⟨statistics, hresult⟩,
        fun ⟨statistics, hresult⟩ => ⟨_, statistics, hresult, rfl⟩⟩

/-- An output file that was there before, into which the second write fails. Of four files one cannot be read, and
the lines of another one are those that cannot be written; a body and metadata have control characters in them. The
command itself splits one file. -/
theorem summary_agrees_control_characters :
    let before : Tree :=
      { root := [("out", .file 0), ("a.txt", .file 1)], contents := #["old".toUTF8, "x\ny".toUTF8] }
    let tree : Tree :=
      { before with writeFault? := fun _ count => if count = 1 then some (.refused "full") else none }
    let opened : Tree := { tree with contents := #[ByteArray.empty, "x\ny".toUTF8] }
    let file : OpenFile := { id := 0, offset := 0, writes := 0 }
    let arguments : SplitArguments := { paths := ["a.txt"], output := some "out" }
    let service : Service := { settings := {}, splitter := ⟨1000, 100, by decide⟩ }
    let first : Document :=
      { body := "x\ny\x00"
        metadata := [("depth", .array [.array [.number (.int (-1))]]), ("k\n", .string "\"\x1f")] }
    let results : List (Path × Except Fault Batch) :=
      [("a", .ok { source := "a", documents := [first, ⟨"", []⟩], diagnostics := [] }),
        ("b", .error .malformedJson),
        ("c", .ok { source := "c", documents := [⟨"lost", []⟩], diagnostics := [.emptyElement 0] }),
        ("d", .ok { source := "d", documents := [⟨"z", []⟩], diagnostics := [] })]
    let progress := deliver Sink.deliver { tree := opened, lines := some file } (numbered results).reverse
    OpenFile.create tree "out" = .ok (opened, file) ∧
    (summaryOf arguments progress.statistics progress.state).batches.map Batch.source = ["a", "d"] ∧
    progress.statistics.filesProcessed = 2 ∧ progress.statistics.filesSkipped = 2 ∧
    (∃ line second third, progress.state.tree.HasLines "out" [first, ⟨"", []⟩, ⟨"z", []⟩]
        [line, second, third] ∧ progress.statistics.chunksCreated = 3 ∧
      Document.read.run? (String.ofList line) = some first) ∧
    ∃ final summary, split tree service arguments = (final, .ok summary) ∧
      summary.Agrees final "out" 1 := by
  intro before tree opened file arguments service first results progress
  have hout : ({} : Tree).writeFile "out" "old".toUTF8 =
      .ok { root := [("out", .file 0)], contents := #["old".toUTF8] } := by cbv
  have hinputs : Tree.writeFile { root := [("out", .file 0)], contents := #["old".toUTF8] } "a.txt"
      "x\ny".toUTF8 = .ok before := by cbv
  have hbefore : before.IsWhole := (Tree.isWhole_empty.writeFile hout).writeFile hinputs
  have hwhole : tree.IsWhole := ⟨hbefore.working, hbefore.contents⟩
  have hcreate : OpenFile.create tree "out" = .ok (opened, file) := by cbv
  have hfirst : first.IsPlain := by
    have hkeys : ("depth" : String) < "k\n" := by decide
    have hnumber : (Value.number (.int (-1))).IsPlain 123 := .int (by decide) (by decide)
    refine ⟨by simpa only [first, Members.IsOrdered, List.pairwise_pair] using hkeys, ?_⟩
    simp only [first, List.forall_mem_cons]
    refine ⟨.array ?_, .string _, by simp⟩
    simpa using .array (by simpa using hnumber)
  have hfile : opened.isFile "a.txt" = true := by cbv
  obtain ⟨pipeline, hpipeline, hpermits⟩ : ∃ pipeline,
      (service.openPipeline arguments.request).result = .ok pipeline ∧
        pipeline.maxConcurrentFiles ≤ maxPermits := ⟨_, rfl, by decide⟩
  obtain ⟨hends, hbegun⟩ := @summary_agrees tree arguments "out" service hwhole rfl
  obtain ⟨hany, hiff⟩ := hbegun pipeline opened file hpipeline hcreate
  have hreverse : Tasks.Completes pipeline.maxConcurrentFiles (numbered results) (numbered results).reverse :=
    (Tasks.completes_iff_perm pipeline.maxConcurrentFiles_pos).mpr (List.reverse_perm _)
  obtain ⟨hbatches, ⟨⟨lines, hlines, hchunks⟩, hprocessed, hsettled, -⟩, -⟩ := hany results _ hreverse
  have hwritten : (file.written opened (resultBatches results)).map Batch.source = ["a", "d"] := by cbv
  rw [hbatches] at hlines hprocessed
  have htwo : progress.statistics.filesProcessed = 2 := hprocessed
  have hfour : progress.statistics.filesProcessed + progress.statistics.filesSkipped = 4 := hsettled
  refine ⟨hcreate, hbatches ▸ hwritten, htwo, by omega, ?_, ?_⟩
  · obtain ⟨text, htext, hcut, hall⟩ := hlines
    have hthree : List.Forall₂ Document.IsLine [first, ⟨"", []⟩, ⟨"z", []⟩] lines := hall
    rcases hthree with _ | ⟨hline, _ | ⟨hsecond, _ | ⟨hthird, ⟨⟩⟩⟩⟩
    exact ⟨_, _, _, ⟨text, htext, hcut, hall⟩, hchunks, hline.read hfirst⟩
  · obtain ⟨summary, hsummary⟩ := hiff.mpr ⟨by simpa [arguments, Tree.isInput] using .inl hfile, hpermits⟩
    obtain ⟨other, made, written, files, hother, hmade, hfiles, -, hagrees, -⟩ :=
      hends _ summary (Prod.ext rfl hsummary)
    cases hcreate.symm.trans hmade
    have hfound : (other.discovery.files opened ["a.txt"]).result = .ok ["a.txt"] := by
      simp [Discovery.files, Discovery.filesOf, hfile, Except.map]
    cases hfound.symm.trans hfiles
    exact ⟨_, summary, Prod.ext rfl hsummary, hagrees⟩

end TextChunking.Cli
