import WikiMarkup.Conversion
import WikiMarkup.Document.Draft
import WikiMarkup.Main
import WikiMarkup.Stored.Document
import WikiMarkup.Stored.Options
import WikiMarkup.Proofs.Rendering.Visited
import WikiMarkup.Proofs.Rendering.Outcome
import WikiMarkup.Proofs.Markdown.Vocabulary
import WikiMarkup.Proofs.Markdown.Nesting
import WikiMarkup.Proofs.Confluence.Lines
import WikiMarkup.Proofs.Confluence.Outline
import WikiMarkup.Proofs.Confluence.Shape
import WikiMarkup.Proofs.Confluence.Content
import WikiMarkup.Proofs.Confluence.Rows
import WikiMarkup.Proofs.Confluence.OneLine
import WikiMarkup.Proofs.Confluence.CodeBlock
import WikiMarkup.Proofs.Confluence.ListedCode
import WikiMarkup.Proofs.Rendering.Assembly
import WikiMarkup.Proofs.Rendering.Warnings
import WikiMarkup.Proofs.Markdown.Drafted
import WikiMarkup.Proofs.Markdown.Recut
import WikiMarkup.Proofs.Text.Sequence
import WikiMarkup.Proofs.Text.WellFormed
import WikiMarkup.Proofs.Text.Trimmed
import WikiMarkup.Proofs.Conversion
import WikiMarkup.Proofs.CommandLine.Delivery
import WikiMarkup.Proofs.CommandLine.Paths
import WikiMarkup.Proofs.Confluence.Substitution
import WikiMarkup.Proofs.Confluence.Levels
import WikiMarkup.Proofs.Confluence.ReadBack
import WikiMarkup.Proofs.Confluence.ItemBlocks
import WikiMarkup.Proofs.Confluence.LiteralItems
import WikiMarkup.Proofs.Markdown.Tables
import WikiMarkup.Proofs.Confluence.TableRows
import WikiMarkup.Proofs.Markdown.SpanErasure
import WikiMarkup.Proofs.Markdown.SpanNesting
import WikiMarkup.Proofs.Markdown.Unclosed
import WikiMarkup.Proofs.Markdown.Skipped
import WikiMarkup.Proofs.Markdown.AltText
import WikiMarkup.Proofs.Rendering.DraftLevels
import WikiMarkup.Proofs.Rendering.Groupings
import WikiMarkup.Proofs.Markdown.Balance
import WikiMarkup.Proofs.Markdown.Slices
import WikiMarkup.Proofs.Stored.ReadBack
import WikiMarkup.Proofs.Confluence.HeadSections
