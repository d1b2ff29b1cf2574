import Lineage.Document

/-!
# Overlay — one document laid over another

Where both have a table, the tables are laid over each other key by key; in all other places what lies on top counts.
Lists are not merged. Keys keep the order of the lower document, and further keys follow.
-/

set_option autoImplicit false

namespace Lineage.Document

mutual

/-- The document with another one on top of it. -/
def overlay (low high : Document) : Document :=
  match high, low with
  | .table hs, .table ls => .table (overlayAll ls hs)
  | high, _ => high
termination_by structural high

/-- The entries with others on top of them. -/
def overlayAll (ls hs : List (String × Document)) : List (String × Document) :=
  match hs with
  | [] => ls
  | (k, d) :: r =>
    let on := match Fields.get? ls k with
      | some l => overlay l d
      | none => d
    overlayAll (Fields.set ls k on) r
termination_by structural hs

end

theorem overlay_table (ls hs : List (String × Document)) : (table ls).overlay (table hs) = table (overlayAll ls hs) := rfl

theorem overlayAll_nil (ls : List (String × Document)) : overlayAll ls [] = ls := rfl

end Lineage.Document
