import SourceDocs.Text.Occurrence

/-
  Templates of URLs that lead to source files.

  A template has a format with marks for the repository, the
  branch, the path of a file and a line in it.

  Key definitions include:
    * `SourceDocs.UrlTemplate`
    * `SourceDocs.UrlTemplate.build`
    * `SourceDocs.UrlTemplate.buildOn`
    * `SourceDocs.UrlTemplate.dropLineFragment`
-/

------------------------------------------------------------
-- Marks
------------------------------------------------------------

namespace SourceDocs

/- A repository's address, its branch, and the URL format. -/
structure UrlTemplate where
  repository : Text
  branch : Text
  format : Text
  deriving DecidableEq, Repr

namespace UrlTemplate

/- The mark for the address of the repository. -/
def repositoryMark : Text := "{repo_url}".toList

/- The mark for the branch. -/
def branchMark : Text := "{branch}".toList

/- The mark for the path of the file. -/
def pathMark : Text := "{file_path}".toList

/- The mark for the number of the line. -/
def lineMark : Text := "{line}".toList

/- The format of a template that names none. -/
def defaultFormat : Text :=
  "{repo_url}/blob/{branch}/{file_path}".toList

/- The template of an address, which loses final slashes. -/
def ofAddress
    (address branch format : Text) : UrlTemplate :=
  ⟨Text.dropEndWhile (· == '/') address, branch, format⟩

/- Whether the format has a place for a line. -/
def hasLine (template : UrlTemplate) : Bool :=
  Text.holds template.format lineMark

------------------------------------------------------------
-- Building
------------------------------------------------------------

/-
  A format without its first mark for a line, and without
  the fragment that the mark stands in, from the last number
  sign before it on.
-/
def dropLineFragment (format : Text) : Text :=
  match Text.cutAt? lineMark format with
  | none => format
  | some (before, after) =>
    match Text.cutAtLast? (· == '#') before with
    | none => before ++ after
    | some (start, _) => start ++ after

/- The format with a line filled in, or without a fragment. -/
def fillLine
    (format : Text) : Option Nat → Text
| some n => Text.replaceAll lineMark (Text.ofNat n) format
| none => dropLineFragment format

/- The URL of a file on a branch, or of a line in it. -/
def buildOn
    (template : UrlTemplate)
    (branch path : Text)
    (line : Option Nat) : Text :=
  Text.replaceAll pathMark (path.dropWhile (· == '/'))
    (Text.replaceAll branchMark branch
      (Text.replaceAll repositoryMark template.repository
        (fillLine template.format line)))

/- The URL of a file on the template's own branch. -/
def build
    (template : UrlTemplate)
    (path : Text)
    (line : Option Nat) : Text :=
  template.buildOn template.branch path line

end UrlTemplate

end SourceDocs
