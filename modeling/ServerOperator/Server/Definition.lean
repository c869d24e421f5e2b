import ServerOperator.Server.Schema
import ServerOperator.Yaml

/-!
# The definition of the custom resource

The object that makes servers known to an API server, and the file it is installed from.
-/

namespace ServerOperator.Server.Definition

def group : String := "mcp-runtime.org"
def version : String := "v1alpha1"
def plural : String := "mcpservers"

/-- A column that listings show beside the name. -/
def column (name type path : String) : Json :=
  .object [("jsonPath", .string path), ("name", .string name), ("type", .string type)]

def columns : List Json := [
  column "Phase" "string" ".status.phase",
  column "DeploymentReady" "boolean" ".status.deploymentReady",
  column "Message" "string" ".status.message"]

def names : Json := .object [
  ("categories", .array []),
  ("kind", .string tag.kind),
  ("plural", .string plural),
  ("shortNames", .array [.string "mcps"]),
  ("singular", .string "mcpserver")]

/-- The one version there is; its status has an endpoint of its own. -/
def servedVersion : Json := .object [
  ("additionalPrinterColumns", .array columns),
  ("name", .string version),
  ("schema", .object [("openAPIV3Schema", Server.schema.toJson)]),
  ("served", .bool true),
  ("storage", .bool true),
  ("subresources", .object [("status", .object [])])]

def toJson : Json := .object [
  ("apiVersion", .string "apiextensions.k8s.io/v1"),
  ("kind", .string "CustomResourceDefinition"),
  ("metadata", .object [("name", .string (plural ++ "." ++ group))]),
  ("spec", .object [
    ("group", .string group),
    ("names", names),
    ("scope", .string "Namespaced"),
    ("versions", .array [servedVersion])])]

def header : String :=
  "# This file is auto-generated by crdgen\n# DO NOT EDIT THIS FILE MANUALLY\n" ++
  "# Change the types in src/crd/ and regenerate\n#\n---\n"

/-- The installation file. -/
def file : String := header ++ Yaml.render toJson

end ServerOperator.Server.Definition
