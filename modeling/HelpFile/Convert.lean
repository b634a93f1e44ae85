import HelpFile.Document.Rendering
import HelpFile.Markdown

/-!
# Converting Markdown

A Markdown source becomes a help file, with notices of what was left out.
-/
namespace HelpFile

structure Conversion where
  text : Text
  notices : List Notice

def convert (options : Options) (source : Text) : Except ListError Conversion := do
  let (text, writer) ← Writer.document { options } (Markdown.read source)
  return { text, notices := writer.notices }

end HelpFile
