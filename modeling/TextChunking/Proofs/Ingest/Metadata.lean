import Mathlib
import TextChunking.Ingest.Service
import TextChunking.Proofs.Ingest.Delivery
import TextChunking.Proofs.Json.Lookups
/-!
# The layers of metadata

The metadata of a document comes from four sides: its chunk, the request, the settings, and the file.
**Theorem** (`metadata_layered`): the chunk decides on the seven keys that are derived from it, whatever anyone
asks for; on all other keys the request goes before the settings, and these before the file. That is so of
every document that a run hands on, whatever it is handed on to.

The layers are laid over one another at three places. Each of them is said by a look-up: the request over the
settings (`get?_baseMetadata`), the file below both (`get?_fileMetadata`), and the chunk above all
(`Document.isLayered_ofChunk`).
-/

namespace TextChunking

open Json Members

/-! ### One document -/

namespace Document

/-- The keys of what is derived from a chunk. -/
def derivedKeys : List String :=
  ["page_number", "element_type", "element_subtype", "unique_id", "has_markdown", "has_title",
    "content_length"]

/-- A document that has the text of a chunk. Under the derived keys its metadata says what the chunk does, and
under all others it says what is shared with the other documents of the file. -/
structure IsLayered (document : Document) (chunk : Chunk) (shared : String → Option Value) : Prop where
  body : document.body = chunk.content
  page : get? "page_number" document.metadata = some (.ofInt chunk.page)
  kind : get? "element_type" document.metadata = some (.string chunk.kind)
  subkind : get? "element_subtype" document.metadata = some (.string chunk.subkind)
  id : get? "unique_id" document.metadata = some (.string chunk.id)
  hasMarkdown : get? "has_markdown" document.metadata = some (.bool chunk.hasMarkdown)
  hasTitle : get? "has_title" document.metadata = some (.bool (chunk.title != ""))
  length : get? "content_length" document.metadata = some (.ofNat document.body.length)
  other : ∀ key ∉ derivedKeys, get? key document.metadata = shared key

/-- Every chunk has the same keys of its own, in the same order. -/
theorem keys_derivedMetadata (chunk : Chunk) : (derivedMetadata chunk).map Prod.fst = derivedKeys := rfl

/-- None of these keys comes twice. -/
theorem nodup_derivedKeys : derivedKeys.Nodup := by decide

/-- What is derived from a chunk lies above everything else. -/
theorem get?_ofChunk (base : Metadata) (chunk : Chunk) (key : String) :
    get? key (ofChunk base chunk).metadata = (get? key (derivedMetadata chunk)).or (get? key base) :=
  get?_extend (keys_derivedMetadata chunk ▸ nodup_derivedKeys) base key

/-- A document that is made of a chunk has the metadata of the chunk on top of those that are shared. -/
theorem isLayered_ofChunk {base : Metadata} {shared : String → Option Value}
    (h : ∀ key, get? key base = shared key) (chunk : Chunk) : (ofChunk base chunk).IsLayered chunk shared where
  body := rfl
  page := get?_ofChunk base chunk _
  kind := get?_ofChunk base chunk _
  subkind := get?_ofChunk base chunk _
  id := get?_ofChunk base chunk _
  hasMarkdown := get?_ofChunk base chunk _
  hasTitle := get?_ofChunk base chunk _
  length := get?_ofChunk base chunk _
  other key hkey := by
    have hderived : get? key (derivedMetadata chunk) = none :=
      get?_eq_none (keys_derivedMetadata chunk ▸ hkey)
    rw [get?_ofChunk, hderived, Option.none_or, h]

end Document

/-! ### One file -/

/-- What the documents of a file share under a key: what the request says, else what the settings say, and
else the path or the content type of the file under the keys for these. -/
def sharedValue? (configured requested : Metadata) (path : Path) (contentType : String) (key : String) :
    Option Value :=
  match get? key requested, get? key configured with
  | some value, _ => some value
  | none, some value => some value
  | none, none =>
    if key = "source" then some (.string path)
    else if key = "Content-Type" then some (.string contentType)
    else none

/-- The documents of a batch are those of the chunks of its file, one for each and in their order, with their
metadata in layers. -/
def Batch.IsLayered (batch : Batch) (pipeline : Pipeline) (tree : Tree)
    (configured requested : Metadata) : Prop :=
  ∃ source, Source.read tree pipeline.mode batch.source = .ok source ∧
    List.Forall₂
      (fun chunk document => Document.IsLayered document chunk
        (sharedValue? configured requested batch.source
          (pipeline.mode.resolve batch.source).contentType))
      (pipeline.splitter.split source.input).chunks batch.documents

/-- The content type that is read with a file is that of what the mode takes the file for. -/
theorem Source.contentType_of_read {tree : Tree} {mode : InputMode} {path : Path} {source : Source}
    (h : Source.read tree mode path = .ok source) : source.contentType = (mode.resolve path).contentType := by
  rw [Source.read] at h
  split at h
  · rename_i text _
    generalize mode.resolve path = kind at h ⊢
    cases kind with
    | layout =>
      rw [Source.ofText] at h
      split at h <;> cases h
      rfl
    | markdown => cases h; rfl
    | text => cases h; rfl
  · cases h

namespace Pipeline

variable {service : Service} {request : Request} {pipeline : Pipeline} {tree : Tree} {path : Path}

/-- A pipeline lays the metadata of the request over those of the settings. -/
theorem baseMetadata_of_ofSettings {settings : Settings} {metadata : Metadata}
    (h : (ofSettings settings metadata).result = .ok pipeline) :
    pipeline.baseMetadata = settings.output.baseMetadata.extend metadata := by
  rw [ofSettings] at h
  split at h
  · cases h
  · split at h
    · cases h
    · cases h
      rfl

/-- A request lays its metadata over those of the settings. -/
theorem baseMetadata_of_openPipeline (h : (service.openPipeline request).result = .ok pipeline) :
    pipeline.baseMetadata = service.settings.output.baseMetadata.extend request.metadata := by
  simp only [Service.openPipeline] at h
  split at h
  · cases h
  · -- A request overrides no setting of the output.
    have hbase := baseMetadata_of_ofSettings h
    exact hbase

/-- Under each key the request goes before the settings, if it names no key twice. -/
theorem get?_baseMetadata (hkeys : (request.metadata.map Prod.fst).Nodup)
    (h : (service.openPipeline request).result = .ok pipeline) (key : String) :
    get? key pipeline.baseMetadata =
      (get? key request.metadata).or (get? key service.settings.output.baseMetadata) := by
  rw [baseMetadata_of_openPipeline h, get?_extend hkeys]

/-- The path and the content type of a file stand where nothing else was asked for. -/
theorem get?_fileMetadata (pipeline : Pipeline) (path : Path) (contentType key : String) :
    get? key (pipeline.fileMetadata path contentType) =
      (get? key pipeline.baseMetadata).or
        (if key = "source" then some (.string path)
        else if key = "Content-Type" then some (.string contentType) else none) := by
  rw [fileMetadata, get?_insertNew, get?_insertNew, Option.or_assoc]
  congr 1
  by_cases hsource : key = "source"
  · simp [hsource, sourceKey]
  · by_cases htype : key = "Content-Type"
    · simp [htype, sourceKey, contentTypeKey]
    · simp [hsource, htype, Ne.symm hsource, Ne.symm htype, sourceKey, contentTypeKey]

/-- The path and the content type of a file are given only where neither the request nor the settings give something
else. -/
theorem get?_fileMetadata_eq_sharedValue? (hkeys : (request.metadata.map Prod.fst).Nodup)
    (h : (service.openPipeline request).result = .ok pipeline) (path : Path) (contentType key : String) :
    get? key (pipeline.fileMetadata path contentType) =
      sharedValue? service.settings.output.baseMetadata request.metadata path contentType key := by
  rw [get?_fileMetadata, get?_baseMetadata hkeys h, sharedValue?]
  cases get? key request.metadata with
  | some value => rfl
  | none => cases get? key service.settings.output.baseMetadata <;> rfl

/-- A file gives a batch exactly if it can be read and its elements are not too many. -/
theorem process_eq_ok_iff {batch : Batch} : pipeline.process tree path = .ok batch ↔
    ∃ source, Source.read tree pipeline.mode path = .ok source ∧
      pipeline.limitFault? source.input = none ∧ batch = pipeline.batchOf path source := by
  rw [process]
  cases Source.read tree pipeline.mode path with
  | error fault => simp [bind, Except.bind]
  | ok source =>
    cases hlimit : pipeline.limitFault? source.input with
    | some fault => simp [bind, Except.bind, hlimit]
    | none => simp [bind, Except.bind, hlimit, eq_comm]

/-- All documents of a file are layered over what the file shares among them. -/
theorem isLayered_batchOf (hkeys : (request.metadata.map Prod.fst).Nodup)
    (h : (service.openPipeline request).result = .ok pipeline) {source : Source}
    (hread : Source.read tree pipeline.mode path = .ok source) :
    (pipeline.batchOf path source).IsLayered pipeline tree service.settings.output.baseMetadata
      request.metadata := by
  refine ⟨source, hread, ?_⟩
  rw [batchOf, Document.ofChunks, List.forall₂_map_right_iff, List.forall₂_same]
  rintro chunk -
  refine Document.isLayered_ofChunk (fun key => ?_) chunk
  rw [get?_fileMetadata_eq_sharedValue? hkeys h, Source.contentType_of_read hread]

/-! ### A whole run -/

variable {σ : Type}

/-- What a run hands on is what it makes of files. -/
theorem exists_process_of_mem {sink : Sink σ} {state : σ} {paths : List Path} {batch : Batch}
    (h : batch ∈ (pipeline.run sink.logged tree ([], state) paths).state.1) :
    ∃ path, pipeline.process tree path = .ok batch := by
  rw [run] at h
  cases hfiles : (pipeline.discovery.files tree paths).result with
  | error cause =>
    rw [runScheduled_of_error id _ _ hfiles] at h
    cases h
  | ok files =>
    by_cases hpermits : pipeline.maxConcurrentFiles ≤ maxPermits
    · have hdelivered : Delivered sink.logged ([], state) files.length (pipeline.batches tree files)
          (deliver sink.logged ([], state) (id (pipeline.outcomes tree files))) :=
        delivered_outcomes (fun _ => .refl _) sink.logged ([], state)
      rw [runScheduled_of_le id _ _ hfiles hpermits, hdelivered.state_eq, Sink.after_logged, List.nil_append,
        batches, resultBatches, List.mem_filterMap] at h
      obtain ⟨result, hresult, hbatch⟩ := h
      obtain ⟨path, -, rfl⟩ := List.mem_map.mp hresult
      refine ⟨path, ?_⟩
      cases hprocess : pipeline.process tree path with
      | error fault =>
        rw [hprocess] at hbatch
        cases hbatch
      | ok found =>
        rw [hprocess] at hbatch
        cases hbatch
        rfl
    · rw [runScheduled_of_lt id _ _ hfiles (Nat.lt_of_not_le hpermits)] at h
      cases h

/-- **The metadata of a document lies in layers.** Every file that can be read and has not too many elements
gives a batch with a document for each of its chunks, in their order: the body is the content of the chunk, its
length is counted in characters, and under each key the metadata says what the chunk, the request, the settings
or the file says, the first of these that has the key. All that a run hands on is of this kind. Requests are
maps: each key stands in them once. -/
theorem metadata_layered (hkeys : (request.metadata.map Prod.fst).Nodup)
    (hopen : (service.openPipeline request).result = .ok pipeline) :
    (∀ (tree : Tree) (path : Path) (source : Source), Source.read tree pipeline.mode path = .ok source →
      pipeline.limitFault? source.input = none →
        ∃ batch, pipeline.process tree path = .ok batch ∧ batch.source = path ∧
          batch.IsLayered pipeline tree service.settings.output.baseMetadata request.metadata) ∧
    ∀ (σ : Type) (sink : Sink σ) (state : σ) (tree : Tree) (paths : List Path),
      ∀ batch ∈ (pipeline.run sink.logged tree ([], state) paths).state.1,
        batch.IsLayered pipeline tree service.settings.output.baseMetadata request.metadata := by
  refine ⟨fun tree path source hread hlimit => ?_, fun σ sink state tree paths batch hbatch => ?_⟩
  · exact ⟨_, process_eq_ok_iff.mpr ⟨source, hread, hlimit, rfl⟩, rfl,
      isLayered_batchOf hkeys hopen hread⟩
  · obtain ⟨path, hprocess⟩ := exists_process_of_mem hbatch
    obtain ⟨source, hread, -, rfl⟩ := process_eq_ok_iff.mp hprocess
    exact isLayered_batchOf hkeys hopen hread

/-- Settings and a request that both ask for more than they can have: the settings for an identifier, and the
request for a length. The settings name another source, and the request another language than the settings. -/
theorem metadata_layered_collisions :
    let configured : Metadata := [("language", .string "en"), ("source", .string "s"), ("unique_id", .null)]
    let requested : Metadata := [("content_length", .bool true), ("language", .string "de")]
    let service : Service :=
      { settings := { output := { baseMetadata := configured } }, splitter := ⟨1000, 100, by decide⟩ }
    let tree : Tree := { root := [("a.txt", .file 0)], contents := #["xy".toUTF8] }
    ∃ pipeline batch document,
      (service.openPipeline { metadata := requested }).result = .ok pipeline ∧
      pipeline.process tree "a.txt" = .ok batch ∧ batch.documents = [document] ∧ document.body = "xy" ∧
      get? "language" document.metadata = some (.string "de") ∧
      get? "source" document.metadata = some (.string "s") ∧
      get? "Content-Type" document.metadata = some (.string "text/plain") ∧
      get? "unique_id" document.metadata = some (.string "text_chunk_0") ∧
      get? "content_length" document.metadata = some (.ofNat 2) ∧ get? "tenant" document.metadata = none := by
  intro configured requested service tree
  obtain ⟨pipeline, hopen⟩ :
      ∃ pipeline, (service.openPipeline { metadata := requested }).result = .ok pipeline := ⟨_, rfl⟩
  have hmode : pipeline.mode = .auto ∧ pipeline.splitter = ⟨1000, 100, by decide⟩ := by
    cases hopen
    exact ⟨rfl, rfl⟩
  have hread : Source.read tree pipeline.mode "a.txt" = .ok ⟨.text "xy", "text/plain"⟩ := by
    rw [hmode.1]
    cbv
  obtain ⟨hfiles, -⟩ := metadata_layered (by decide) hopen
  obtain ⟨batch, hprocess, hsource, source, hfound, hlayers⟩ := hfiles tree "a.txt" _ hread rfl
  rw [hsource] at hfound hlayers
  cases hread.symm.trans hfound
  have hchunks : (pipeline.splitter.split (.text "xy")).chunks = [Splitter.textChunk "xy" 0] := by
    rw [hmode.2]
    rfl
  rw [hchunks, hmode.1] at hlayers
  rcases hbatch : batch.documents with _ | ⟨document, rest⟩ <;> rw [hbatch] at hlayers
  · cases hlayers
  · obtain ⟨hdocument, hrest⟩ := List.forall₂_cons.mp hlayers
    rw [List.forall₂_nil_left_iff] at hrest
    have hbody : document.body = "xy" := hdocument.body
    refine ⟨pipeline, batch, document, hopen, hprocess, by rw [hbatch, hrest], hbody, ?_, ?_, ?_,
      hdocument.id.trans ?_, hdocument.length.trans (by rw [hbody]; rfl), ?_⟩
    · exact hdocument.other "language" (by decide)
    · exact hdocument.other "source" (by decide)
    · refine (hdocument.other "Content-Type" (by decide)).trans ?_
      cbv
    · cbv
    · exact hdocument.other "tenant" (by decide)

end Pipeline

end TextChunking
