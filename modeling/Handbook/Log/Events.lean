import Handbook.Check.Report
import Handbook.Log.Record
import Handbook.Sample.Extract

/-!
# What a run tells

The records of the steps of a run. Steps of the reference check and of the sample extraction are
told by the part of the program that does them; the outcome of a run is told by the program itself.
-/
namespace Handbook

namespace Record

/-- The target of records of the program itself. -/
def programTarget : String := "doc_check"

/-- A document was indexed. -/
def indexed (path : Path) (index : Index) : Record :=
  ⟨.debug, "doc_check::reference", "Indexed " ++ path.spelling ++ ": " ++
    toString index.anchors.length ++ " heading(s), " ++
    toString index.references.length ++ " reference(s)"⟩

/-- All documents of a batch were indexed. -/
def batchIndexed (batch : Batch) : Record :=
  ⟨.info, "doc_check::commands", "Indexed " ++ toString batch.size ++ " document(s)"⟩

/-- A reference was found to be broken. -/
def foundBroken (broken : Broken) : Record :=
  ⟨.debug, "doc_check::validator", "Broken reference: " ++ broken.message⟩

/-- Settings were read from a file. -/
def settingsLoaded (path : Path) : Record :=
  ⟨.debug, "doc_check::config", "Loaded configuration from " ++ path.spelling⟩

/-- The samples of a document are looked for. -/
def extracting (path : Path) : Record :=
  ⟨.info, "doc_check::commands", "Extracting examples from " ++ path.spelling⟩

/-- A block is no sample. -/
def skipped (block : Block) : Record :=
  ⟨.debug, "doc_check::extractor", "Skipping " ++ block.tag ++ " block"⟩

/-- The lines of all samples were sorted. -/
def extracted (sample : Sample) : Record :=
  ⟨.debug, "doc_check::extractor", "Extracted " ++ toString sample.directives.length ++
    " directive line(s) and " ++ toString sample.statements.length ++ " statement line(s)"⟩

/-- A document has no sample lines. -/
def noSamples (settings : Settings) (path : Path) : Record :=
  ⟨.warn, "doc_check::commands", "No " ++ "/".intercalate settings.markers ++
    " code blocks found in " ++ path.spelling⟩

/-- A program was written. -/
def wrote (path : Path) (text : String) : Record :=
  ⟨.info, "doc_check::assembler", "Wrote " ++ path.spelling ++ " (" ++
    toString text.utf8ByteSize ++ " bytes)"⟩

/-- The run failed. -/
def failed (failure : Failure) : Record := ⟨.error, programTarget, failure.message⟩

/-- Something is wrong with the documents. -/
def complaint (message : String) : Record := ⟨.error, programTarget, message⟩

/-- All references are sound. -/
def allSound (total lookedUp documents : Nat) : Record :=
  ⟨.info, programTarget, "Validated " ++ toString total ++ " reference(s) (" ++ toString lookedUp ++
    " anchor(s) looked up) in " ++ toString documents ++ " document(s)"⟩

end Record

end Handbook
