import TextChunking.Fault
import TextChunking.Files.Tree
import TextChunking.Json.Writer
/-!
# Where documents go

A sink takes batches of documents one at a time, and may refuse one. It is a function that threads a
state of any type, so that a run can be stated for every sink. There is one that collects the batches
(`Sink.collect`), one that writes their documents to an open file, a line for each (`Sink.writeLines`), and one
that does both, so that what cannot be written is not collected either (`Sink.deliver`).
-/

namespace TextChunking

open Json

/-- Takes a batch, or gives a fault. -/
abbrev Sink (σ : Type) : Type := σ → Batch → Except Fault Unit × σ

/-- An open file: the number of its contents, the place up to which it is written, and how often it was
written to. -/
structure OpenFile where
  id : Nat
  offset : Nat
  writes : Nat
  deriving Repr, DecidableEq

/-- The files, the batches that were collected, and the file that is written, if there is one. -/
structure Delivery where
  tree : Tree
  lines : Option OpenFile := none
  collected : Array Batch := #[]

/-- The lines of documents, each of them closed by a line feed. -/
def documentLines (documents : List Document) : List Char :=
  documents.flatMap fun document => document.toValue.compactText ++ ['\n']

/-- Opens a file for lines, empty. -/
def OpenFile.create (tree : Tree) (path : Path) : Except Fault (Tree × OpenFile) :=
  match tree.create path with
  | .ok (tree, id) => .ok (tree, { id, offset := 0, writes := 0 })
  | .error cause => .error (.file cause)

/-- Writes a text into an open file, behind what was written before. A write that fails changes nothing. -/
def OpenFile.write (file : OpenFile) (tree : Tree) (text : List Char) :
    Except FileFault Unit × Tree × OpenFile :=
  match tree.writeFault? file.id file.writes with
  | some fault => (.error fault, tree, { file with writes := file.writes + 1 })
  | none =>
    let bytes := (String.ofList text).toUTF8
    (.ok (), tree.writeAt file.id file.offset bytes,
      { file with offset := file.offset + bytes.size, writes := file.writes + 1 })

namespace Sink

/-- Collects every batch. -/
def collect : Sink Delivery := fun delivery batch =>
  (.ok (), { delivery with collected := delivery.collected.push batch })

/-- Writes the documents of a batch into an open file, a line for each. -/
def writeLines (file : OpenFile) : Sink Delivery := fun delivery batch =>
  let (written, tree, file) := file.write delivery.tree (documentLines batch.documents)
  (written.mapError .file, { delivery with tree, lines := some file })

/-- Writes the documents to the open file, if there is one, and then collects the batch. -/
def deliver : Sink Delivery := fun delivery batch =>
  match delivery.lines with
  | none => collect delivery batch
  | some file =>
    match writeLines file delivery batch with
    | (.error fault, delivery) => (.error fault, delivery)
    | (.ok (), delivery) => collect delivery batch

/-- Counts the batches, refuses those with the given numbers, and hands the others on. -/
def refusing {σ : Type} (refused : List Nat) (sink : Sink σ) : Sink (Nat × σ) :=
  fun (batchNumber, state) batch =>
    if refused.contains batchNumber then (.error (.batchRefused batchNumber), (batchNumber + 1, state))
    else
      let (result, state) := sink state batch
      (result, (batchNumber + 1, state))

end Sink

end TextChunking
