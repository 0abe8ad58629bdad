import Mathlib
import TextChunking.Proofs.Ingest.Schedules
/-!
# What a run hands on

The outcomes for the files of a run come in the order in which their tasks are finished, and are put back
into the order of the files before anything is handed on. **Theorem** (`run_delivers`): so it does not
matter in which order the tasks are finished, nor how many of them run at a time. The sink is given each
batch once and in the order of the files, no fault keeps it from the batches behind, and the statistics
add up what it accepts; and if an input does not exist it is given nothing. The same holds if there would have
to be more permits than there can be: then a run breaks off before its first file (`run_aborted_by_permits`).

The account is an invariant of the run (`Delivered`). One outcome keeps it, whether the file failed or the
batch was accepted or refused (`Delivered.deliverOne`), and from there it is an induction over outcomes.
-/

namespace TextChunking

open scoped List

variable {σ : Type}

/-! ### Sinks that are given batches in turn -/

namespace Sink

/-- The state in which batches leave a sink that is given them one after another. -/
def after (sink : Sink σ) : σ → List Batch → σ
  | state, [] => state
  | state, batch :: rest => after sink (sink state batch).2 rest

/-- The batches that a sink accepts of those that it is given one after another. -/
def accepted (sink : Sink σ) : σ → List Batch → List Batch
  | _, [] => []
  | state, batch :: rest =>
    match sink state batch with
    | (.ok (), state) => batch :: accepted sink state rest
    | (.error _, state) => accepted sink state rest

/-- A sink that also writes down what it is given. -/
def logged (sink : Sink σ) : Sink (List Batch × σ) := fun (given, state) batch =>
  ((sink state batch).1, (given ++ [batch], (sink state batch).2))

variable {sink : Sink σ}

/-- The batches behind others find the sink in the state that those have left. -/
theorem after_append (state : σ) (front back : List Batch) :
    sink.after state (front ++ back) = sink.after (sink.after state front) back := by
  induction front generalizing state with
  | nil => rfl
  | cons batch rest ih => exact ih _

/-- What a sink accepts of some batches, and then of others, it accepts of all of them in a row. -/
theorem accepted_append (state : σ) (front back : List Batch) :
    sink.accepted state (front ++ back) =
      sink.accepted state front ++ sink.accepted (sink.after state front) back := by
  induction front generalizing state with
  | nil => rfl
  | cons batch rest ih =>
    rw [List.cons_append, accepted, accepted, after]
    rcases sink state batch with ⟨_ | ⟨⟩, next⟩
    · exact ih next
    · exact congrArg (batch :: ·) (ih next)

/-- A batch that the sink answers with success is accepted. -/
theorem accepted_singleton_of_ok {state next : σ} {batch : Batch}
    (h : sink state batch = (.ok (), next)) : sink.accepted state [batch] = [batch] := by
  simp only [accepted, h]

/-- A batch that the sink answers with a fault is not. -/
theorem accepted_singleton_of_error {state next : σ} {batch : Batch} {fault : Fault}
    (h : sink state batch = (.error fault, next)) : sink.accepted state [batch] = [] := by
  simp only [accepted, h]

/-- Batches are written down in the order in which they are given. -/
theorem after_logged (given : List Batch) (state : σ) (batches : List Batch) :
    sink.logged.after (given, state) batches = (given ++ batches, sink.after state batches) := by
  induction batches generalizing given state with
  | nil => simp [after]
  | cons batch rest ih => simp [after, logged, ih]

end Sink

namespace Pipeline

/-! ### One outcome after another -/

/-- The batches among outcomes, in their order. -/
def batchesOf (outcomes : List FileOutcome) : List Batch :=
  outcomes.filterMap fun outcome => outcome.batch.toOption

/-- A number of files were dealt with, and a sink was given batches, from a state on. -/
structure Delivered (sink : Sink σ) (state : σ) (files : Nat) (batches : List Batch)
    (progress : Progress σ) : Prop where
  /-- The sink was given all the batches, whatever it made of the ones before. -/
  state_eq : progress.state = sink.after state batches
  /-- Files whose batches were accepted are counted as processed, all others as skipped. -/
  processed_eq : progress.statistics.filesProcessed = (sink.accepted state batches).length
  settled_eq : progress.statistics.filesProcessed + progress.statistics.filesSkipped = files
  /-- The totals are those of the batches that were accepted. -/
  chunks_eq : progress.statistics.chunksCreated =
    ((sink.accepted state batches).map fun batch => batch.documents.length).sum
  diagnostics_eq : progress.statistics.diagnostics =
    ((sink.accepted state batches).map fun batch => batch.diagnostics.length).sum

variable {sink : Sink σ} {state : σ} {files : Nat} {batches : List Batch} {progress : Progress σ}

/-- Nothing was handed on yet. -/
theorem Delivered.nil (sink : Sink σ) (state : σ) : Delivered sink state 0 [] { state } where
  state_eq := rfl
  processed_eq := rfl
  settled_eq := rfl
  chunks_eq := rfl
  diagnostics_eq := rfl

/-- One more file was skipped, and the sink was given nothing. -/
theorem Delivered.skip (h : Delivered sink state files batches progress) (warning : Warning) :
    Delivered sink state (files + 1) batches (progress.skip warning) where
  state_eq := h.state_eq
  processed_eq := h.processed_eq
  settled_eq := congrArg (· + 1) h.settled_eq
  chunks_eq := h.chunks_eq
  diagnostics_eq := h.diagnostics_eq

/-- One more batch was handed on and refused. -/
theorem Delivered.refuse (h : Delivered sink state files batches progress) {batch : Batch}
    {fault : Fault} {next : σ} (hsink : sink progress.state batch = (.error fault, next))
    (warning : Warning) :
    Delivered sink state (files + 1) (batches ++ [batch])
      ({ progress with state := next }.skip warning) := by
  rw [h.state_eq] at hsink
  have haccepted : sink.accepted state (batches ++ [batch]) = sink.accepted state batches := by
    rw [Sink.accepted_append, Sink.accepted_singleton_of_error hsink, List.append_nil]
  constructor
  · rw [Sink.after_append, Sink.after, hsink]
    rfl
  · exact haccepted ▸ h.processed_eq
  · exact congrArg (· + 1) h.settled_eq
  · exact haccepted ▸ h.chunks_eq
  · exact haccepted ▸ h.diagnostics_eq

/-- One more batch was handed on and accepted. -/
theorem Delivered.accept (h : Delivered sink state files batches progress) {batch : Batch} {next : σ}
    (hsink : sink progress.state batch = (.ok (), next)) :
    Delivered sink state (files + 1) (batches ++ [batch])
      ({ progress with state := next }.count batch) := by
  rw [h.state_eq] at hsink
  have haccepted : sink.accepted state (batches ++ [batch]) =
      sink.accepted state batches ++ [batch] := by
    rw [Sink.accepted_append, Sink.accepted_singleton_of_ok hsink]
  constructor
  · rw [Sink.after_append, Sink.after, hsink]
    rfl
  · simp [Progress.count, haccepted, h.processed_eq]
  · simp only [Progress.count, ← h.settled_eq]
    omega
  · simp [Progress.count, haccepted, h.chunks_eq]
  · simp [Progress.count, haccepted, h.diagnostics_eq]

/-- One outcome keeps the account right, whatever has become of the file. -/
theorem Delivered.deliverOne (h : Delivered sink state files batches progress)
    (outcome : FileOutcome) :
    Delivered sink state (files + 1) (batches ++ outcome.batch.toOption.toList)
      (Pipeline.deliverOne sink progress outcome) := by
  obtain ⟨index, path, failed | batch⟩ := outcome
  · simpa [Pipeline.deliverOne, Except.toOption] using h.skip (.fileFailed path failed)
  · cases hsink : sink progress.state batch with
    | mk answer next =>
      cases answer with
      | error fault =>
        simpa [Pipeline.deliverOne, hsink, Except.toOption] using
          h.refuse hsink (.batchRejected path fault)
      | ok answer =>
        simpa [Pipeline.deliverOne, hsink, Except.toOption] using h.accept hsink

/-- Any number of outcomes keeps the account right. -/
theorem Delivered.foldl (h : Delivered sink state files batches progress)
    (outcomes : List FileOutcome) :
    Delivered sink state (files + outcomes.length) (batches ++ batchesOf outcomes)
      (outcomes.foldl (Pipeline.deliverOne sink) progress) := by
  induction outcomes generalizing files batches progress with
  | nil => simpa [batchesOf] using h
  | cons outcome rest ih =>
    have hrest := ih (h.deliverOne outcome)
    have hbatches : batchesOf (outcome :: rest) = outcome.batch.toOption.toList ++ batchesOf rest := by
      simp only [batchesOf, List.filterMap_cons]
      cases outcome.batch.toOption <;> rfl
    rw [hbatches, List.length_cons, ← List.append_assoc, Nat.add_comm rest.length, ← Nat.add_assoc]
    exact hrest

/-! ### The order of the files -/

/-- Results of files, each with the place of its file. -/
def numbered (results : List (Path × Except Fault Batch)) : List FileOutcome :=
  results.zipIdx.map fun ((path, batch), index) => { index, path, batch }

/-- The batches among the results of files, in the order of the files. -/
def resultBatches (results : List (Path × Except Fault Batch)) : List Batch :=
  results.filterMap fun result => result.2.toOption

/-- Each result gets one place. -/
theorem length_numbered (results : List (Path × Except Fault Batch)) :
    (numbered results).length = results.length := by
  simp [numbered]

/-- Numbering does not change what batches there are, nor their order. -/
theorem batchesOf_numbered (results : List (Path × Except Fault Batch)) :
    batchesOf (numbered results) = resultBatches results := by
  have hfst : results = results.zipIdx.map Prod.fst := (List.zipIdx_map_fst 0 results).symm
  conv_rhs => rw [hfst]
  rw [batchesOf, numbered, resultBatches, List.filterMap_map, List.filterMap_map]
  rfl

/-- The places of numbered results grow from each one to the next. -/
theorem pairwise_index_numbered (results : List (Path × Except Fault Batch)) :
    (numbered results).Pairwise fun a b => a.index < b.index := by
  have hplaces : (results.zipIdx.map Prod.snd).Pairwise (· < ·) := by
    rw [List.zipIdx_map_snd]
    exact List.pairwise_lt_range' 1
  rw [numbered, List.pairwise_map]
  exact List.pairwise_map.mp hplaces

/-- Putting outcomes back into the order of their files undoes any other order. -/
theorem mergeSort_eq_of_perm {outcomes completed : List FileOutcome}
    (hsorted : outcomes.Pairwise fun a b => a.index < b.index) (h : completed ~ outcomes) :
    (completed.mergeSort fun a b => a.index ≤ b.index) = outcomes := by
  have hperm := (List.mergeSort_perm completed fun a b => a.index ≤ b.index).trans h
  have hle : (completed.mergeSort fun a b => a.index ≤ b.index).Pairwise
      fun a b => a.index ≤ b.index := by
    have hsort := @List.pairwise_mergeSort FileOutcome (fun a b => a.index ≤ b.index)
      (by simp only [decide_eq_true_eq]; omega) (by simp; omega) completed
    simpa using hsort
  have hinj : ∀ a ∈ outcomes, ∀ b ∈ outcomes, a.index = b.index → a = b := by
    have hnodup : (outcomes.map FileOutcome.index).Nodup :=
      List.pairwise_map.mpr (hsorted.imp Nat.ne_of_lt)
    exact fun a ha b hb heq => List.inj_on_of_nodup_map hnodup ha hb heq
  refine hperm.eq_of_pairwise ?_ hle (hsorted.imp Nat.le_of_lt)
  intro a b ha hb hab hba
  exact hinj a (hperm.subset ha) b hb (Nat.le_antisymm hab hba)

/-- Outcomes that come in any order are handed on in the order of their files. -/
theorem deliver_eq_foldl {outcomes completed : List FileOutcome}
    (hsorted : outcomes.Pairwise fun a b => a.index < b.index) (h : completed ~ outcomes) :
    deliver sink state completed = outcomes.foldl (deliverOne sink) { state } := by
  rw [deliver, mergeSort_eq_of_perm hsorted h]

/-- The tasks of a run are the results of its files, in the order in which these were found. -/
theorem outcomes_eq_numbered (pipeline : Pipeline) (tree : Tree) (paths : List Path) :
    pipeline.outcomes tree paths =
      numbered (paths.map fun path => (path, pipeline.process tree path)) := by
  rw [outcomes, numbered, List.zipIdx_map, List.map_map]
  rfl

/-- Results that come in any order are all handed on. -/
theorem delivered_deliver (sink : Sink σ) (state : σ) {results : List (Path × Except Fault Batch)}
    {completed : List FileOutcome} (h : completed ~ numbered results) :
    Delivered sink state results.length (resultBatches results) (deliver sink state completed) := by
  rw [deliver_eq_foldl (pairwise_index_numbered results) h]
  have hall := (Delivered.nil sink state).foldl (numbered results)
  rwa [Nat.zero_add, List.nil_append, length_numbered, batchesOf_numbered] at hall

end Pipeline

/-! ### Inputs -/

/-- Whether a path leads to a file or a directory. -/
def Tree.isInput (tree : Tree) (path : Path) : Bool := tree.isFile path || (tree.entries? path).isSome

/-- The first of some inputs that does not exist. -/
def Tree.firstMissing? (tree : Tree) (paths : List Path) : Option Path :=
  paths.find? fun path => !tree.isInput path

namespace Discovery

variable {discovery : Discovery} {tree : Tree}

/-- An input that exists is searched, whatever is found in it. -/
theorem exists_filesOf_eq_ok (discovery : Discovery) {path : Path} (h : tree.isInput path = true) :
    ∃ found, discovery.filesOf tree path = .ok found := by
  unfold filesOf
  split
  · exact ⟨_, rfl⟩
  · rename_i hfile
    have hentries : (tree.entries? path).isSome = true := by
      simpa [Tree.isInput, hfile] using h
    obtain ⟨entries, hentries⟩ := Option.isSome_iff_exists.mp hentries
    rw [hentries]
    exact ⟨_, rfl⟩

/-- An input that does not exist is an error, which names it. -/
theorem filesOf_eq_error {path : Path} (h : tree.isInput path = false) :
    discovery.filesOf tree path = .error (.inputNotFound path) := by
  obtain ⟨hfile, hentries⟩ : tree.isFile path = false ∧ tree.entries? path = none := by
    simpa [Tree.isInput] using h
  simp [filesOf, hfile, hentries]

/-- What is found at the first input comes in front of what is found at the others. -/
theorem files_cons_of_ok {path : Path} {rest : List Path} {found : Reported (List Path)}
    (h : discovery.filesOf tree path = .ok found) :
    discovery.files tree (path :: rest) =
      ⟨(discovery.files tree rest).result.map (found.result ++ ·),
        found.warnings ++ (discovery.files tree rest).warnings⟩ := by
  rw [files, h]

/-- If all inputs exist then their files are found. -/
theorem exists_files_eq_ok (discovery : Discovery) {paths : List Path}
    (h : ∀ path ∈ paths, tree.isInput path = true) :
    ∃ found, (discovery.files tree paths).result = .ok found := by
  induction paths with
  | nil => exact ⟨[], rfl⟩
  | cons path rest ih =>
    obtain ⟨found, hfound⟩ := exists_filesOf_eq_ok discovery (h path List.mem_cons_self)
    obtain ⟨more, hmore⟩ := ih fun other hother => h other (List.mem_cons_of_mem _ hother)
    refine ⟨found.result ++ more, ?_⟩
    rw [files_cons_of_ok hfound, hmore, Except.map]

/-- The first input that does not exist ends the search. -/
theorem files_eq_error (discovery : Discovery) {before after : List Path} {missing : Path}
    (hbefore : ∀ path ∈ before, tree.isInput path = true) (hmissing : tree.isInput missing = false) :
    discovery.files tree (before ++ missing :: after) =
      ⟨.error (.inputNotFound missing), (discovery.files tree before).warnings⟩ := by
  induction before with
  | nil => simp only [List.nil_append, files, filesOf_eq_error hmissing]
  | cons path rest ih =>
    obtain ⟨found, hfound⟩ := exists_filesOf_eq_ok discovery (hbefore path List.mem_cons_self)
    have hrest := ih fun other hother => hbefore other (List.mem_cons_of_mem _ hother)
    rw [List.cons_append, files_cons_of_ok hfound, files_cons_of_ok hfound, hrest, Except.map]

/-- The search for files ends with the first input that does not exist. -/
theorem files_of_firstMissing? (discovery : Discovery) {paths : List Path} {missing : Path}
    (h : tree.firstMissing? paths = some missing) :
    (discovery.files tree paths).result = .error (.inputNotFound missing) := by
  obtain ⟨hnone, before, after, rfl, hbefore⟩ := List.find?_eq_some_iff_append.mp h
  rw [discovery.files_eq_error (by simpa using hbefore) (by simpa using hnone)]

/-- If no input is missing then the files are found. -/
theorem exists_files_of_firstMissing? (discovery : Discovery) {paths : List Path}
    (h : tree.firstMissing? paths = none) : ∃ found, (discovery.files tree paths).result = .ok found :=
  discovery.exists_files_eq_ok (by simpa using List.find?_eq_none.mp h)

/-- Files are found exactly if all inputs exist. -/
theorem exists_files_eq_ok_iff {paths : List Path} :
    (∃ found, (discovery.files tree paths).result = .ok found) ↔ ∀ path ∈ paths, tree.isInput path = true := by
  refine ⟨fun ⟨found, hfound⟩ => ?_, discovery.exists_files_eq_ok⟩
  cases hmissing : tree.firstMissing? paths with
  | some missing => cases (discovery.files_of_firstMissing? hmissing).symm.trans hfound
  | none => simpa using List.find?_eq_none.mp hmissing

end Discovery

namespace Pipeline

/-! ### A whole run -/

variable {pipeline : Pipeline} {tree : Tree} {paths files : List Path}
  {schedule : List FileOutcome → List FileOutcome}

/-- The batches for files, in the order of the files. -/
def batches (pipeline : Pipeline) (tree : Tree) (files : List Path) : List Batch :=
  resultBatches (files.map fun path => (path, pipeline.process tree path))

/-- The batches that a sink is given by a run. -/
def given (pipeline : Pipeline) (schedule : List FileOutcome → List FileOutcome) (sink : Sink σ)
    (tree : Tree) (state : σ) (paths : List Path) : List Batch :=
  (pipeline.runScheduled schedule sink.logged tree ([], state) paths).state.1

/-- A run whose inputs do not all exist comes to nothing. -/
theorem runScheduled_of_error {cause : Fault} (schedule : List FileOutcome → List FileOutcome)
    (sink : Sink σ) (state : σ) (h : (pipeline.discovery.files tree paths).result = .error cause) :
    pipeline.runScheduled schedule sink tree state paths =
      { result := .error (.fault cause), warnings := (pipeline.discovery.files tree paths).warnings, state } := by
  simp only [runScheduled, h]

/-- A run with too many permits breaks off once its files are found. -/
theorem runScheduled_of_lt (schedule : List FileOutcome → List FileOutcome) (sink : Sink σ) (state : σ)
    (h : (pipeline.discovery.files tree paths).result = .ok files)
    (hpermits : maxPermits < pipeline.maxConcurrentFiles) :
    pipeline.runScheduled schedule sink tree state paths =
      { result := .error .aborted, warnings := (pipeline.discovery.files tree paths).warnings, state } := by
  simp only [runScheduled, h, hpermits, if_true]

/-- Once the files are found, a run hands the outcomes for them on. -/
theorem runScheduled_of_le (schedule : List FileOutcome → List FileOutcome) (sink : Sink σ) (state : σ)
    (h : (pipeline.discovery.files tree paths).result = .ok files)
    (hpermits : pipeline.maxConcurrentFiles ≤ maxPermits) :
    let progress := deliver sink state (schedule (pipeline.outcomes tree files))
    pipeline.runScheduled schedule sink tree state paths =
      { result := .ok progress.statistics
        warnings := (pipeline.discovery.files tree paths).warnings ++ progress.warnings
        state := progress.state } := by
  simp only [runScheduled, h, Nat.not_lt.mpr hpermits, if_false]

/-- What a run of files hands on, in whatever order their tasks are finished. -/
theorem delivered_outcomes (h : ∀ outcomes, schedule outcomes ~ outcomes) (sink : Sink σ) (state : σ) :
    Delivered sink state files.length (pipeline.batches tree files)
      (deliver sink state (schedule (pipeline.outcomes tree files))) := by
  have hperm := h (pipeline.outcomes tree files)
  rw [outcomes_eq_numbered] at hperm ⊢
  simpa [batches] using delivered_deliver sink state hperm

/-- A run whose inputs do not all exist gives the sink nothing. -/
theorem given_of_error {cause : Fault} (schedule : List FileOutcome → List FileOutcome) (sink : Sink σ)
    (state : σ) (h : (pipeline.discovery.files tree paths).result = .error cause) :
    pipeline.given schedule sink tree state paths = [] := by
  rw [given, runScheduled_of_error schedule _ _ h]

/-- Nor does a run that breaks off. -/
theorem given_of_lt (schedule : List FileOutcome → List FileOutcome) (sink : Sink σ) (state : σ)
    (h : (pipeline.discovery.files tree paths).result = .ok files)
    (hpermits : maxPermits < pipeline.maxConcurrentFiles) :
    pipeline.given schedule sink tree state paths = [] := by
  rw [given, runScheduled_of_lt schedule _ _ h hpermits]

/-- Any other run gives the sink the batches for its files, each once and in their order, whether they are accepted or
not. -/
theorem given_of_le (horder : ∀ outcomes, schedule outcomes ~ outcomes) (sink : Sink σ) (state : σ)
    (h : (pipeline.discovery.files tree paths).result = .ok files)
    (hpermits : pipeline.maxConcurrentFiles ≤ maxPermits) :
    pipeline.given schedule sink tree state paths = pipeline.batches tree files := by
  rw [given, runScheduled_of_le schedule _ _ h hpermits]
  show (deliver sink.logged ([], state) (schedule (pipeline.outcomes tree files))).state.1 = _
  rw [(delivered_outcomes horder sink.logged ([], state)).state_eq, Sink.after_logged]
  exact List.nil_append _

/-- A run does not depend on the order in which its tasks are finished. -/
theorem runScheduled_eq_run (h : ∀ outcomes, schedule outcomes ~ outcomes) (sink : Sink σ) (state : σ) :
    pipeline.runScheduled schedule sink tree state paths = pipeline.run sink tree state paths := by
  have hdeliver : ∀ files, deliver sink state (schedule (pipeline.outcomes tree files)) =
      deliver sink state (id (pipeline.outcomes tree files)) := by
    intro files
    rw [outcomes_eq_numbered]
    have hsorted := pairwise_index_numbered
      (files.map fun path => (path, pipeline.process tree path))
    rw [deliver_eq_foldl hsorted (h _), id, deliver_eq_foldl hsorted (.refl _)]
  simp only [run, runScheduled, hdeliver]

/-- A run that gives statistics has found its files, and has handed on what they give. -/
theorem delivered_run {sink : Sink σ} {state : σ} {statistics : Statistics}
    (h : (pipeline.run sink tree state paths).result = .ok statistics) :
    pipeline.maxConcurrentFiles ≤ maxPermits ∧ ∃ files progress,
      (pipeline.discovery.files tree paths).result = .ok files ∧
      Delivered sink state files.length (pipeline.batches tree files) progress ∧
      statistics = progress.statistics ∧ (pipeline.run sink tree state paths).state = progress.state := by
  rw [run] at h ⊢
  cases hfiles : (pipeline.discovery.files tree paths).result with
  | error cause =>
    rw [runScheduled_of_error id sink state hfiles] at h
    cases h
  | ok files =>
    by_cases hpermits : pipeline.maxConcurrentFiles ≤ maxPermits
    · rw [runScheduled_of_le id sink state hfiles hpermits] at h ⊢
      cases h
      exact ⟨hpermits, files, _, rfl, delivered_outcomes (fun _ => .refl _) sink state, rfl, rfl⟩
    · rw [runScheduled_of_lt id sink state hfiles (Nat.lt_of_not_le hpermits)] at h
      cases h

/-- A run gives statistics exactly if all inputs exist and there can be enough permits. -/
theorem exists_result_run_iff (sink : Sink σ) (state : σ) :
    (∃ statistics, (pipeline.run sink tree state paths).result = .ok statistics) ↔
      (∀ path ∈ paths, tree.isInput path = true) ∧ pipeline.maxConcurrentFiles ≤ maxPermits := by
  constructor
  · rintro ⟨statistics, h⟩
    obtain ⟨hpermits, files, -, hfiles, -⟩ := delivered_run h
    exact ⟨Discovery.exists_files_eq_ok_iff.mp ⟨files, hfiles⟩, hpermits⟩
  · rintro ⟨hinputs, hpermits⟩
    obtain ⟨files, hfiles⟩ := pipeline.discovery.exists_files_eq_ok hinputs
    rw [run, runScheduled_of_le id sink state hfiles hpermits]
    exact ⟨_, rfl⟩

/-- **A run delivers in the order of the files.** Whatever the files give, in whatever order their tasks
are finished and however many run at a time, the sink is given each batch once and in the order of the
files, and everything is accounted for. So a run does not depend on how its tasks are scheduled. If all inputs
exist it succeeds, provided that there can be as many permits as files are worked on at a time; with more it
breaks off, and the sink is given nothing. Otherwise it ends at the first input that does not exist, and again
the sink is given nothing. -/
theorem run_delivers (pipeline : Pipeline) (sink : Sink σ) (state : σ) :
    (∀ (results : List (Path × Except Fault Batch)) (completed : List FileOutcome),
      Tasks.Completes pipeline.maxConcurrentFiles (numbered results) completed →
        Delivered sink state results.length (resultBatches results)
          (deliver sink state completed) ∧
        (deliver sink.logged ([], state) completed).state.1 = resultBatches results) ∧
    ∀ schedule : List FileOutcome → List FileOutcome,
      (∀ tasks, Tasks.Completes pipeline.maxConcurrentFiles tasks (schedule tasks)) →
      ∀ (tree : Tree) (paths : List Path),
        let ran := pipeline.runScheduled schedule sink tree state paths
        let given := pipeline.given schedule sink tree state paths
        ran = pipeline.run sink tree state paths ∧
        ((∀ path ∈ paths, tree.isInput path = true) → ∃ files,
          (pipeline.discovery.files tree paths).result = .ok files ∧
          (pipeline.maxConcurrentFiles ≤ maxPermits → given = pipeline.batches tree files ∧
            ∃ progress, Delivered sink state files.length (pipeline.batches tree files) progress ∧
              ran.result = .ok progress.statistics ∧ ran.state = progress.state) ∧
          (maxPermits < pipeline.maxConcurrentFiles →
            given = [] ∧ ran.result = .error .aborted ∧ ran.state = state)) ∧
        ∀ (before : List Path) (missing : Path) (after : List Path),
          paths = before ++ missing :: after → (∀ path ∈ before, tree.isInput path = true) →
          tree.isInput missing = false → given = [] ∧
            ran = { result := .error (.fault (.inputNotFound missing))
                    warnings := (pipeline.discovery.files tree before).warnings, state } := by
  have hperm : ∀ {outcomes completed : List FileOutcome},
      Tasks.Completes pipeline.maxConcurrentFiles outcomes completed → completed ~ outcomes :=
    (Tasks.completes_iff_perm pipeline.maxConcurrentFiles_pos).mp
  refine ⟨?_, fun schedule hschedule tree paths => ?_⟩
  · intro results completed hcompletes
    refine ⟨delivered_deliver sink state (hperm hcompletes), ?_⟩
    rw [(delivered_deliver sink.logged ([], state) (hperm hcompletes)).state_eq, Sink.after_logged]
    exact List.nil_append _
  intro ran given
  have horder : ∀ outcomes, schedule outcomes ~ outcomes := fun outcomes => hperm (hschedule outcomes)
  refine ⟨runScheduled_eq_run horder sink state, ?_, ?_⟩
  · intro hinputs
    obtain ⟨files, hfiles⟩ := pipeline.discovery.exists_files_eq_ok hinputs
    refine ⟨files, hfiles, fun hpermits => ?_, fun hpermits => ?_⟩
    · have hran := runScheduled_of_le schedule sink state hfiles hpermits
      exact ⟨given_of_le horder sink state hfiles hpermits, _, delivered_outcomes horder sink state,
        congrArg Run.result hran, congrArg Run.state hran⟩
    · have hran := runScheduled_of_lt schedule sink state hfiles hpermits
      exact ⟨given_of_lt schedule sink state hfiles hpermits, congrArg Run.result hran, congrArg Run.state hran⟩
  · rintro before missing after rfl hbefore hmissing
    have hfiles : pipeline.discovery.files tree (before ++ missing :: after) = _ :=
      pipeline.discovery.files_eq_error hbefore hmissing
    have hresult := congrArg Reported.result hfiles
    refine ⟨given_of_error schedule sink state hresult, ?_⟩
    rw [← congrArg Reported.warnings hfiles]
    exact runScheduled_of_error schedule sink state hresult

/-- Three files, the tasks of which are finished from the last to the first. One file fails, and the sink
refuses the first batch that it is given. A second input that does not exist ends a run, and one permit more than
there can be breaks it off. -/
theorem run_delivers_reversed :
    let pipeline : Pipeline :=
      { discovery := { included := [], excluded := [], maxBytes := 0 }, mode := .text
        splitter := ⟨1, 0, by decide⟩, baseMetadata := [], maxLayoutElements := 0
        maxConcurrentFiles := 2, maxConcurrentFiles_pos := by decide }
    let crowded : Pipeline :=
      { pipeline with maxConcurrentFiles := 2305843009213693952, maxConcurrentFiles_pos := by decide }
    let tree : Tree := { root := [("c", .file 0)], contents := #[ByteArray.empty] }
    let results : List (Path × Except Fault Batch) :=
      [("a", .ok { source := "a", documents := [⟨"x", []⟩, ⟨"y", []⟩], diagnostics := [] }),
        ("b", .error .malformedJson),
        ("c", .ok { source := "c", documents := [⟨"z", []⟩], diagnostics := [.emptyElement 0] })]
    let sink := Sink.refusing [0] Sink.deliver
    let progress := deliver sink (0, { tree }) (numbered results).reverse
    (deliver sink.logged ([], 0, { tree }) (numbered results).reverse).state.1.map Batch.source =
      ["a", "c"] ∧
    progress.statistics.filesProcessed = 1 ∧ progress.statistics.filesSkipped = 2 ∧
    progress.statistics.chunksCreated = 1 ∧ progress.statistics.diagnostics = 1 ∧
    (∃ statistics, (pipeline.runScheduled List.reverse sink tree (0, { tree }) ["c"]).result =
      .ok statistics) ∧
    pipeline.given List.reverse sink tree (0, { tree }) ["c", "d"] = [] ∧
    pipeline.runScheduled List.reverse sink tree (0, { tree }) ["c", "d"] =
      { result := .error (.fault (.inputNotFound "d")), warnings := [], state := (0, { tree }) } ∧
    (crowded.runScheduled List.reverse sink tree (0, { tree }) ["c"]).result = .error .aborted := by
  intro pipeline crowded tree results sink progress
  have hreverse : ∀ (limit : Nat) (tasks : List FileOutcome), 0 < limit →
      Tasks.Completes limit tasks tasks.reverse :=
    fun limit tasks hlimit => (Tasks.completes_iff_perm hlimit).mpr tasks.reverse_perm
  have hfile : tree.isInput "c" = true := by cbv
  have hmissing : tree.isInput "d" = false := by cbv
  obtain ⟨hany, hrun⟩ := run_delivers pipeline sink (0, { tree })
  obtain ⟨hdelivered, hgiven⟩ := hany results _ (hreverse _ _ pipeline.maxConcurrentFiles_pos)
  have hscheduled := hrun List.reverse fun tasks => hreverse _ tasks pipeline.maxConcurrentFiles_pos
  obtain ⟨-, hok, -⟩ := hscheduled tree ["c"]
  obtain ⟨-, -, herror⟩ := hscheduled tree ["c", "d"]
  obtain ⟨-, hcrowded⟩ := run_delivers crowded sink (0, { tree })
  obtain ⟨-, hbroken, -⟩ := hcrowded List.reverse
    (fun tasks => hreverse _ tasks crowded.maxConcurrentFiles_pos) tree ["c"]
  have hprocessed : progress.statistics.filesProcessed = 1 := hdelivered.processed_eq
  obtain ⟨hnothing, hends⟩ := herror ["c"] "d" [] rfl (by simpa using hfile) hmissing
  refine ⟨congrArg (List.map Batch.source) hgiven, hprocessed, ?_, hdelivered.chunks_eq,
    hdelivered.diagnostics_eq, ?_, hnothing, ?_, ?_⟩
  · have hsettled : progress.statistics.filesProcessed + progress.statistics.filesSkipped = 3 :=
      hdelivered.settled_eq
    omega
  · obtain ⟨files, -, hdone, -⟩ := hok (by simpa using hfile)
    obtain ⟨-, progress, -, hresult, -⟩ := hdone (by decide)
    exact ⟨progress.statistics, hresult⟩
  · refine hends.trans ?_
    have hwarnings : (pipeline.discovery.files tree ["c"]).warnings = [] := by cbv
    rw [hwarnings]
  · obtain ⟨files, -, -, haborted⟩ := hbroken (by simpa using hfile)
    exact (haborted (by decide)).2.1

/-- A run over one small file that asks for one permit more than there can be. The file exists and can be split,
and yet the run gives no statistics, and the sink is given nothing. -/
theorem run_aborted_by_permits :
    let pipeline : Pipeline :=
      { discovery := { included := [], excluded := [], maxBytes := 10 }, mode := .text
        splitter := ⟨10, 0, by decide⟩, baseMetadata := [], maxLayoutElements := 0
        maxConcurrentFiles := 2305843009213693952, maxConcurrentFiles_pos := by decide }
    let tree : Tree := { root := [("a.txt", .file 0)], contents := #["hello".toUTF8] }
    tree.isInput "a.txt" = true ∧ (pipeline.process tree "a.txt").isOk ∧
    (pipeline.run Sink.deliver tree { tree } ["a.txt"]).result = .error .aborted ∧
    pipeline.given id Sink.deliver tree { tree } ["a.txt"] = [] := by
  intro pipeline tree
  have hfile : tree.isFile "a.txt" = true := by cbv
  have hfound : (pipeline.discovery.files tree ["a.txt"]).result = .ok ["a.txt"] := by
    simp [Discovery.files, Discovery.filesOf, hfile, Except.map]
  have htext : tree.readText "a.txt" = .ok "hello" := by cbv
  refine ⟨by simp [Tree.isInput, hfile], ?_, ?_, given_of_lt id _ _ hfound (by decide)⟩
  · rw [process, Source.read, htext]
    rfl
  · rw [run, runScheduled_of_lt id _ _ hfound (by decide)]

end Pipeline

end TextChunking
