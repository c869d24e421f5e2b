import ServerOperator.Text.Blank

/-!
# Container images

References of the form `registry/path:tag` or `registry/path@digest`, as plain text: nothing here asks
a registry.
-/

namespace ServerOperator.Image

/-- The text after the last slash. -/
def lastSegment (cs : List Char) : List Char :=
  (cs.reverse.takeWhile (· ≠ '/')).reverse

/-- A digest anywhere, or a tag in the last segment; a colon further left belongs to a registry. -/
def hasTag (image : String) : Bool :=
  image.toList.contains '@' || (lastSegment image.toList).contains ':'

/-- A first segment that names a registry and not a directory. -/
def isRegistryHost (segment : List Char) : Bool :=
  segment.contains '.' || segment.contains ':' || segment == ['l', 'o', 'c', 'a', 'l', 'h', 'o', 's', 't']

/-- The reference without its registry. -/
def path (image : List Char) : List Char :=
  match image.dropWhile (· ≠ '/') with
  | _ :: rest => if isRegistryHost (image.takeWhile (· ≠ '/')) then rest else image
  | [] => image

/-- The name of a registry, without white space around it and without slashes at its end. -/
def registryName (registry : String) : List Char :=
  ((Text.trim registry).toList.reverse.dropWhile (· = '/')).reverse

/-- The same image in another registry. A registry without a name changes nothing. -/
def inRegistry (image registry : String) : String :=
  match registryName registry with
  | [] => image
  | name => String.ofList (name ++ '/' :: path image.toList)

/-- The image under a tag, unless it has one. -/
def withTag (image tag : String) : String :=
  if hasTag image then image else image ++ ":" ++ tag

end ServerOperator.Image
