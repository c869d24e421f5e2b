import ServerOperator.Api.Response
import ServerOperator.Metadata

/-!
# Listings

The objects of a kind as a list object, which says of which version the objects are, and how to go on where
there are more of them. Of its other members only that they can be read is asked.
-/

namespace ServerOperator

open Json

structure Listing (α : Type) where
  items : List α
  /-- The version to watch from. -/
  version : String := ""
  /-- Names the objects that are still to come. -/
  continuation : String := ""

namespace Listing

/-- The version and the continuation. -/
def metadataOf (v : Json) : Except Mismatch (String × String) := do
  let o ← asFields v
  let _ ← o.optional "remainingItemCount" asInt64
  let _ ← o.optional "selfLink" asText
  return (← o.filled "resourceVersion" asText "", ← o.filled "continue" asText "")

/-- All members but those of the given names have to be values as a whole. -/
def checkOthers (o : Fields) (names : List String) : Except Mismatch Unit :=
  o.forM fun (key, v) =>
    if names.contains key || (settle? (nestingLimit - 1) v).isSome then .ok ()
    else .error (.type .unreadable "a value")

def ofJson? {α : Type} (read : Json → Except Mismatch α) (v : Json) : Except Mismatch (Listing α) := do
  let o ← asFields v
  o.distinct ["metadata", "items"]
  checkOthers o ["metadata", "items"]
  let (version, continuation) ← o.defaulted "metadata" metadataOf ("", "")
  let items ← o.required "items" (asOption (asList read))
  return { items := items.getD [], version, continuation }

def toJson (l : Listing Json) : Json := .object [
  ("metadata", .object [("resourceVersion", .string l.version)]), ("items", .array l.items)]

end Listing

/-- The listing that a response brings. -/
def ApiResponse.readListing {α : Type} (r : ApiResponse) (read : Json → Except Mismatch α) :
    Except ApiFailure (Listing α) :=
  r.read (Listing.ofJson? read)

end ServerOperator
