import Mathlib
import TextChunking.Proofs.Files.Whole
import TextChunking.Proofs.Ingest.Delivery
import TextChunking.Proofs.Json.ControlFree
import TextChunking.Proofs.Json.RoundTrip
import TextChunking.Proofs.Text.Lines
/-!
# Lines of documents

The line of a document is not empty, has no line feed in it, and gives a plain document back
(`Document.isLine_compactText`). That a file holds the lines of everything that was collected, and nothing
else, is an invariant of a delivery (`Delivery.Records`). It holds once the file is opened, and a batch keeps it,
whether its lines can be written (`Delivery.Records.of_written`) or not (`Delivery.Records.of_fault`); from there
it is an induction over batches (`Delivery.Records.after`).
-/

namespace TextChunking

open Json

/-! ### One document -/

namespace Document

/-- A document that its line gives back. Its metadata is in the order of its keys, as metadata always is;
the value under a key is free of floating-point numbers and nested at most 125 deep. -/
structure IsPlain (document : Document) : Prop where
  ordered : Members.IsOrdered document.metadata
  plain : ∀ member ∈ document.metadata, member.2.IsPlain 125

/-- The line of a document, whatever the document holds. -/
structure IsLine (document : Document) (line : List Char) : Prop where
  eq_compactText : line = document.toValue.compactText
  ne_nil : line ≠ []
  lf_notMem : '\n' ∉ line
  read : document.IsPlain → Document.read.run? (String.ofList line) = some document

/-- The text of a document is not empty, for it begins with a brace. -/
theorem compactText_toValue_ne_nil (document : Document) : document.toValue.compactText ≠ [] := by
  rw [toValue, Value.compactText]
  exact List.cons_ne_nil _ _

/-- A plain document is read back from its line. -/
theorem read_compactText {document : Document} (h : document.IsPlain) :
    Document.read.run? (String.ofList document.toValue.compactText) = some document := by
  have hmetadata : Value.IsPlain 126 (.object document.metadata) := .object h.ordered h.plain
  obtain ⟨tree, hspells, hvalue⟩ := exists_spells_of_isPlain hmetadata
  have hdocument : Spells document.toValue.compactText
      (.object [(some "body", .string (some document.body)), (some "metadata", tree)]) :=
    spells_object (.cons ⟨rfl, spells_string document.body⟩ (.cons ⟨rfl, hspells⟩ .nil))
  rw [Reader.run?, hdocument.read?, Option.bind_some, maxDepth]
  have hmembers : Reader.members 126 tree = some document.metadata := by
    rw [Reader.members, hvalue]
  simp [Document.read, Fields.read?, Fields.known?, Fields.required, Fields.tree?, Reader.string, hmembers]

/-- The text of a document is a line of it: it has no line feed in it, and is read back. -/
theorem isLine_compactText (document : Document) : document.IsLine document.toValue.compactText where
  eq_compactText := rfl
  ne_nil := document.compactText_toValue_ne_nil
  lf_notMem := (isControlFree_compactText document.toValue).newline_not_mem
  read := read_compactText

end Document

/-! ### Many documents -/

/-- The lines of two rows of documents stand one behind the other. -/
theorem documentLines_append (front back : List Document) :
    documentLines (front ++ back) = documentLines front ++ documentLines back := List.flatMap_append

/-- The lines of documents are what is between the line feeds of their text, with nothing behind the
last. -/
theorem splitOn_documentLines (documents : List Document) :
    (documentLines documents).splitOn '\n' =
      (documents.map fun document => document.toValue.compactText) ++ [[]] := by
  induction documents with
  | nil => rfl
  | cons document rest ih =>
    rw [documentLines, List.flatMap_cons, List.append_assoc, List.singleton_append,
      splitOn_append_lf document.isLine_compactText.lf_notMem, ← documentLines, ih]
    rfl

/-- A file at a path that holds one line for each of some documents, in their order, and nothing else. -/
def Tree.HasLines (tree : Tree) (path : Path) (documents : List Document)
    (lines : List (List Char)) : Prop :=
  ∃ text : String, tree.Holds path text.toUTF8 ∧ text.toList.splitOn '\n' = lines ++ [[]] ∧
    List.Forall₂ Document.IsLine documents lines

/-! ### One batch -/

/-- The batches that get into an open file, of those that are given to it one after another. The system may let
any of the writes fail. -/
def OpenFile.written (file : OpenFile) (tree : Tree) (batches : List Batch) : List Batch :=
  (batches.zipIdx file.writes).filterMap fun (batch, count) =>
    if (tree.writeFault? file.id count).isNone then some batch else none

namespace Sink

variable {delivery : Delivery} {file : OpenFile} {fault : FileFault}

/-- A batch whose lines cannot be written is refused, and left out of what is collected. -/
theorem deliver_of_fault (hlines : delivery.lines = some file)
    (h : delivery.tree.writeFault? file.id file.writes = some fault) (batch : Batch) :
    deliver delivery batch = (.error (.file fault),
      { delivery with lines := some { file with writes := file.writes + 1 } }) := by
  simp only [deliver, hlines, writeLines, OpenFile.write, h, Except.mapError]

/-- A batch whose lines can be written is accepted, and collected behind the others. -/
theorem deliver_of_written (hlines : delivery.lines = some file)
    (h : delivery.tree.writeFault? file.id file.writes = none) (batch : Batch) :
    let bytes := (String.ofList (documentLines batch.documents)).toUTF8
    deliver delivery batch = (.ok (),
      { tree := delivery.tree.writeAt file.id file.offset bytes
        lines := some { file with offset := file.offset + bytes.size, writes := file.writes + 1 }
        collected := delivery.collected.push batch }) := by
  simp only [deliver, hlines, writeLines, OpenFile.write, h, Except.mapError, collect]

end Sink

/-! ### The file of a run -/

/-- The lines of all documents that were collected are in the file at a path, which is open at its end. -/
structure Delivery.Records (delivery : Delivery) (path : Path) (file : OpenFile) : Prop where
  isWhole : delivery.tree.IsWhole
  lines_eq : delivery.lines = some file
  id_lt : file.id < delivery.tree.contents.size
  isFileAt : delivery.tree.IsFileAt path file.id
  offset_eq : file.offset = (delivery.tree.bytesOf file.id).size
  bytes_eq : delivery.tree.bytesOf file.id =
    (String.ofList (documentLines (delivery.collected.toList.flatMap Batch.documents))).toUTF8

namespace Delivery

variable {delivery : Delivery} {path : Path} {file : OpenFile}

/-- A file that was just opened records that nothing was collected yet. -/
theorem records_create {tree made : Tree} (hwhole : tree.IsWhole)
    (h : OpenFile.create tree path = .ok (made, file)) :
    Records { tree := made, lines := some file } path file := by
  rw [OpenFile.create] at h
  cases hcreate : tree.create path with
  | error cause => rw [hcreate] at h; cases h
  | ok opened =>
    rw [hcreate] at h
    cases h
    obtain ⟨hid, hbytes, hfile⟩ := Tree.create_spec hwhole hcreate
    exact ⟨hwhole.create hcreate, rfl, hid, hfile, by rw [hbytes]; rfl, hbytes⟩

/-- A write that fails leaves the file and what was collected as they were. -/
theorem Records.of_fault (h : delivery.Records path file) :
    Records { delivery with lines := some { file with writes := file.writes + 1 } } path
      { file with writes := file.writes + 1 } :=
  ⟨h.isWhole, rfl, h.id_lt, h.isFileAt, h.offset_eq, h.bytes_eq⟩

/-- A batch that is written and collected is put behind the others in both places. -/
theorem Records.of_written (h : delivery.Records path file) (batch : Batch) :
    let bytes := (String.ofList (documentLines batch.documents)).toUTF8
    let next := { file with offset := file.offset + bytes.size, writes := file.writes + 1 }
    Records
      { tree := delivery.tree.writeAt file.id file.offset bytes
        lines := some next
        collected := delivery.collected.push batch } path next := by
  intro bytes next
  obtain ⟨hwhole, hlines, hid, hfile, hoffset, hbytes⟩ := h
  have hwritten : (delivery.tree.writeAt file.id file.offset bytes).bytesOf file.id =
      delivery.tree.bytesOf file.id ++ bytes := by
    rw [hoffset]
    exact Tree.bytesOf_writeAt_size hid bytes
  refine ⟨hwhole.writeAt _ _ _, rfl, ?_, hfile.writeAt _ _ _, ?_, ?_⟩
  · simpa [Tree.writeAt] using hid
  · rw [hwritten, ByteArray.size_append, ← hoffset]
  · rw [hwritten, hbytes]
    simp [bytes, documentLines_append, String.ofList_append]

/-- Batches keep the file and what is collected in step, whichever of the writes fail; and they are accepted if
they are written. -/
theorem Records.after (h : delivery.Records path file) (batches : List Batch) :
    (∃ last, (Sink.deliver.after delivery batches).Records path last) ∧
      (Sink.deliver.after delivery batches).collected.toList =
        delivery.collected.toList ++ file.written delivery.tree batches ∧
      Sink.deliver.accepted delivery batches = file.written delivery.tree batches := by
  induction batches generalizing delivery file with
  | nil => exact ⟨⟨file, h⟩, (List.append_nil _).symm, rfl⟩
  | cons batch rest ih =>
    rw [Sink.after, Sink.accepted]
    cases hfault : delivery.tree.writeFault? file.id file.writes with
    | some fault =>
      have hsame : file.written delivery.tree (batch :: rest) =
          OpenFile.written { file with writes := file.writes + 1 } delivery.tree rest := by
        simp [OpenFile.written, hfault]
      rw [Sink.deliver_of_fault h.lines_eq hfault]
      obtain ⟨hrecords, hcollected, haccepted⟩ := ih h.of_fault
      exact ⟨hrecords, hsame ▸ hcollected, hsame ▸ haccepted⟩
    | none =>
      have hmore : file.written delivery.tree (batch :: rest) = batch ::
          OpenFile.written { file with writes := file.writes + 1 } delivery.tree rest := by
        simp [OpenFile.written, hfault]
      rw [Sink.deliver_of_written h.lines_eq hfault]
      obtain ⟨hrecords, hcollected, haccepted⟩ := ih (h.of_written batch)
      refine ⟨hrecords, ?_, ?_⟩
      · rw [hcollected, Array.toList_push, hmore, List.append_assoc]
        rfl
      · rw [hmore]
        exact congrArg (batch :: ·) haccepted

/-- What is collected has its lines in the file. -/
theorem Records.hasLines (h : delivery.Records path file) :
    ∃ lines, delivery.tree.HasLines path (delivery.collected.toList.flatMap Batch.documents) lines ∧
      lines.length = (delivery.collected.toList.map fun batch => batch.documents.length).sum := by
  refine ⟨(delivery.collected.toList.flatMap Batch.documents).map fun document =>
    document.toValue.compactText, ⟨_, ⟨_, h.isFileAt, h.bytes_eq⟩, ?_, ?_⟩, ?_⟩
  · rw [String.toList_ofList, splitOn_documentLines]
  · rw [List.forall₂_map_right_iff, List.forall₂_same]
    exact fun document _ => document.isLine_compactText
  · rw [List.length_map, List.length_flatMap]

end Delivery

end TextChunking
