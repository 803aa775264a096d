import FencedDiff.Document.Format

/-!
# Histories

A document may grow and be formatted again and again, each time with other options. A history is the
list of such revisions; a revision that fails leaves the document with what was added to it.
-/

namespace FencedDiff

/-- Text to add around a document, and the options to format it with then. -/
structure Revision where
  options : Options := {}
  /-- Added at the start. -/
  front : Bytes := []
  /-- Added at the end. -/
  back : Bytes := []
  deriving DecidableEq, Repr

namespace Revision

/-- The document with the additions, before it is formatted. -/
def grow (r : Revision) (text : Bytes) : Bytes := r.front ++ text ++ r.back

def outcome (r : Revision) (text : Bytes) : Except FormatError Formatted :=
  format r.options (r.grow text)

def apply (r : Revision) (text : Bytes) : Bytes :=
  match r.outcome text with
  | .ok formatted => formatted.text
  | .error _ => r.grow text

end Revision

def revise (text : Bytes) (history : List Revision) : Bytes :=
  history.foldl (fun text r => r.apply text) text

def outcomes (text : Bytes) : List Revision → List (Except FormatError Formatted)
  | [] => []
  | r :: history => r.outcome text :: outcomes (r.apply text) history

end FencedDiff
