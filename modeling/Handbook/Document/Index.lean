import Handbook.Document.Link

/-!
# The index of a document

What a check keeps of a document: the anchors of its headings, each once, and its references in the
order of their links.
-/
namespace Handbook

/-- The headings and references of one document. -/
structure Index where
  /-- The different anchors of the headings. -/
  anchors : List String
  /-- The references, with repetitions. -/
  references : List Reference
deriving DecidableEq

namespace Index

/-- Read the index off the text of the document at a path. -/
def ofText (path : Path) (content : String) : Index where
  anchors := ((headingAnchors content.toList).map String.ofList).eraseDups
  references := (Link.scan content.toList).filterMap (Link.resolve? path)

/-- Whether a heading has the anchor. -/
def hasAnchor (index : Index) (anchor : String) : Bool := index.anchors.contains anchor

end Index

end Handbook
