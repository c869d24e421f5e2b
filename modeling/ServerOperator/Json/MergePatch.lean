import ServerOperator.Json

/-!
# Merge patches

Changes to a value written as a value (RFC 7396): members of an object patch stand in place of those of
the target, `null` takes a member away, and a patch that is no object replaces the whole.
-/

namespace ServerOperator.Json

mutual

def mergePatch (target : Json) : Json → Json
  | object patch => object (mergeMembers (target.fields?.getD []) patch)
  | v => v

def mergeMembers (target : Fields) : List (String × Json) → Fields
  | [] => target
  | (key, null) :: rest => mergeMembers (target.remove key) rest
  | (key, v) :: rest => mergeMembers (target.set key (mergePatch ((target.find? key).getD null) v)) rest

end

end ServerOperator.Json
