/-!
Languages of the code macro. The macro highlights a fixed set of languages and writes all other code
plain.
-/

namespace WikiMarkup.Confluence

/-- The language of code that is not highlighted. -/
def noHighlight : String := "none"

/-- Common names of languages, with the language of the macro that each stands for. -/
def languageAliases : List (String × String) :=
  [("shell", "bash"), ("html", "html"), ("xml", "xml"), ("js", "javascript")]

/-- Languages that the macro knows under their own name. -/
def languages : List String :=
  ["actionscript3", "bash", "csharp", "coldfusion", "cpp", "css", "delphi", "diff", "erlang",
    "groovy", "java", "javafx", "javascript", "perl", "php", "none", "powershell", "python", "ruby",
    "scala", "sql", "vb", "html/xml"]

/-- The language of the macro for the language that a code block names, in letters of either case.
An alias goes before a language of the same name; an unknown, empty or absent name gives plain code.
Only ASCII letters are lowered: the one character beyond them with an ASCII letter for its lower
case is the Kelvin sign, and no name here has a `k`. -/
def resolveLanguage (tag : Option String) : String :=
  match tag with
  | none => noHighlight
  | some tag =>
      let name := tag.toLower
      match languageAliases.find? (·.1 = name) with
      | some (_, language) => language
      | none => (languages.find? (· = name)).getD noHighlight

end WikiMarkup.Confluence
