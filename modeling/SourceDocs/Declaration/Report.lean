import SourceDocs.Declaration.Basic
import SourceDocs.Json

/-
  Declarations as JSON.

  Key definitions include:
    * `SourceDocs.TypeDeclaration.toJson`
    * `SourceDocs.SourceFile.fields`
    * `SourceDocs.SourceFile.toJson`
-/

------------------------------------------------------------
-- Members
------------------------------------------------------------

namespace SourceDocs

/- The name of a way to call. -/
def CallKind.label : CallKind → Text
| .chain => "chain".toList
| .creation => "constructor".toList
| .direct => "instance".toList

/- A call as JSON. -/
def CallEdge.toJson (edge : CallEdge) : Json :=
  .record
    [("chain_key", .ofText? edge.chainKey),
     ("kind", .text edge.kind.label),
     ("receiver", .ofText? edge.receiver),
     ("target", .text edge.target)]

/- A parameter as JSON. -/
def Parameter.toJson (p : Parameter) : Json :=
  .record [("name", .text p.name), ("type", .text p.type)]

/- A method as JSON. -/
def Method.toJson (m : Method) : Json :=
  .record
    [("access_level", .text m.access.keyword),
     ("body_text", .text m.body),
     ("call_edges", .ofList CallEdge.toJson m.calls),
     ("is_async", .bool m.isAsync),
     ("line_number", .number (keptLine m.line)),
     ("name", .text m.name),
     ("parameters", .ofList Parameter.toJson m.parameters),
     ("return_type", .text m.returnType),
     ("signature_text", .text m.signature)]

/- A property as JSON. -/
def Property.toJson (p : Property) : Json :=
  .record
    [("access_level", .text p.access.keyword),
     ("declared_type", .text p.type),
     ("line_number", .number (keptLine p.line)),
     ("name", .text p.name)]

/- The members of a type as JSON. -/
def Members.toJson (members : Members) : Json :=
  .record
    [("methods", .ofList Method.toJson members.methods),
     ("properties",
       .ofList Property.toJson members.properties)]

------------------------------------------------------------
-- Types And Files
------------------------------------------------------------

/- A type as JSON. -/
def TypeDeclaration.toJson (t : TypeDeclaration) : Json :=
  .record
    [("access_level", .text t.access.keyword),
     ("base_type", .ofText? t.baseType),
     ("implemented_interfaces", .texts t.interfaces),
     ("kind", .text t.kind.keyword),
     ("line_number", .number (keptLine t.line)),
     ("members", t.members.toJson),
     ("modifiers", .texts t.modifiers),
     ("name", .text t.name)]

/- The fields of a file. -/
def SourceFile.fields (file : SourceFile) :
    List (String × Json) :=
  [("namespace", .ofText? file.scope),
   ("path", .text file.path),
   ("types", .ofList TypeDeclaration.toJson file.types)]

/- A file as JSON. -/
def SourceFile.toJson (file : SourceFile) : Json :=
  .record file.fields

end SourceDocs
