import ServerOperator.Image
import ServerOperator.OperatorError
import ServerOperator.Server

/-!
# Validation

What a spec must have before anything is written for it, and the image that it names.
-/

namespace ServerOperator

open Text (isBlank given?)

def imageRequired : String := "spec.image is required"

/-- The image under its tag and in the registry that overrides its own. -/
def ServerSpec.resolveImage (s : ServerSpec) : Except OperatorError String :=
  match Text.nonBlank? s.image with
  | none => .error { kind := .missingImage, message := imageRequired }
  | some image =>
    let tagged :=
      match given? s.imageTag with
      | some tag => Image.withTag image tag
      | none => image
    match given? s.registryOverride with
    | some registry => .ok (Image.inRegistry tagged registry)
    | none => .ok tagged

/-- There has to be an image, and a path wherever there is a host. -/
def Server.validate (s : Server) : Except OperatorError Unit :=
  let context := OperatorError.serverContext s.name s.space
  if isBlank s.spec.image then
    .error { kind := .missingImage, message := imageRequired, context }
  else if (given? s.spec.ingressHost).isSome && (given? s.spec.ingressPath).isNone then
    .error {
      kind := .missingIngressPath
      message := "ingressPath is required when ingressHost is set"
      context := context.insert "resource" "ingress" }
  else .ok ()

end ServerOperator
