import ApiAnnotator.Annotated.Services

/-!
# Listings

What an API offers at a glance: its services, each with its feature, how many of its methods are
generated by default and its host, and its methods, each with the verb and path of its first
binding. Rows are in their own order.
-/

namespace ApiAnnotator

/-- Rows in order, compared cell by cell. -/
def sortRows (rows : List (List String)) : List (List String) :=
  rows.mergeSort fun a b => compare a b != .gt

/-- The name, the feature, the generated methods among all methods, and the host of each service. -/
def serviceRows [Speller] (api : Api) : List (List String) :=
  sortRows <| api.services.map fun s =>
    let generated := (generatedMethods {} s).length
    [s.name, Identifier.featureName s.name, s!"{generated}/{s.methods.length}", s.defaultHost]

/-- What stands for the verb of a method that cannot be called over HTTP. -/
def grpcOnly : String := "gRPC"

/-- The verb and the path of the first binding of a method. -/
def methodRoute (m : Method) : String × String :=
  match m.bindings with
  | b :: _ => if m.isStreaming then (grpcOnly, "") else (b.verb.toUpper, b.template.render)
  | [] => (grpcOnly, "")

/-- The ID without leading dots, the verb and the path of each method. -/
def methodRows (api : Api) : List (List String) :=
  sortRows <| (api.services.flatMap (·.methods)).map fun m =>
    let (verb, path) := methodRoute m
    [Text.trimStart '.' m.id, verb, path]

end ApiAnnotator
