/-
# Ranges

A range names a sheet by its title and cells in it. The title stands between single quotes, a single
quote in it twice; an exclamation mark separates it from the cells; without cells the range is the
whole sheet. In a URL a range is one segment, with all but the unreserved characters escaped.

Specification, section E7.
-/

import FormDispatch.Settings.Basic
import FormDispatch.Text.Percent

namespace FormDispatch
namespace Sheet

/-- A title between quotes. -/
def quotedTitleChars (title : List Char) : List Char :=
  '\'' :: (title.flatMap fun c => if c = '\'' then ['\'', '\''] else [c]) ++ ['\'']

/-- A title between quotes. -/
def quotedTitle (title : String) : String :=
  String.ofList (quotedTitleChars title.toList)

/-- The range of cells in a sheet, or the whole sheet. -/
def rangeOf (title : String) (cells : Option String) : String :=
  match cells with
  | some cells => if cells.isEmpty then quotedTitle title else quotedTitle title ++ "!" ++ cells
  | none => quotedTitle title

/-- A URL without slashes at its end. -/
def withoutSlashes (url : String) : String :=
  String.ofList (url.toList.reverse.dropWhile (· == '/')).reverse

/-- The URL of a spreadsheet. -/
def spreadsheetUrl (settings : Settings) (id : String) : String :=
  withoutSlashes settings.sheetsBaseUrl ++ "/" ++ Text.percentEncoded id

/-- The URL of the values in a range of a spreadsheet, with what is to be done with them. -/
def valuesUrl (settings : Settings) (id range suffix : String) : String :=
  spreadsheetUrl settings id ++ "/values/" ++ Text.percentEncoded range ++ suffix

/-- The URL of a file. -/
def fileUrl (settings : Settings) (id : String) : String :=
  withoutSlashes settings.driveBaseUrl ++ "/" ++ Text.percentEncoded id

example : rangeOf "Bob's" (some "A1") = "'Bob''s'!A1" := by decide

end Sheet
end FormDispatch
