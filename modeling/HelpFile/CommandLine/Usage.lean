/-!
# Usage

What the program prints about itself.
-/
namespace HelpFile.CommandLine

def programName : String := "md2vim"

def versionText : String := "v0.1.0"

def usageLines : List String := [
  "usage: md2vim [-h] [-n NAME] [-c COLS] [-t TABS] [--notoc] [--norules]",
  "              [--pascal] [--desc DESC] [--version]",
  "              [input] [output]",
  "",
  "md2vim: Convert Markdown documents into Vim help files",
  "",
  "positional arguments:",
  "  input                 Markdown input file (use '-' for stdin)",
  "  output                Help file to write (use '-' for stdout, the default)",
  "",
  "options:",
  "  -h, --help            show this help message and exit",
  "  -n NAME, --name NAME  Help file name used for the title line and tags when",
  "                        writing to stdout (default: the input file stem with a",
  "                        .txt extension)",
  "  -c COLS, --cols COLS  Number of columns to use for layout (default: 80)",
  "  -t TABS, --tabs TABS  Tab width in spaces (default: 4)",
  "  --notoc               Do not generate a table of contents for headings",
  "  --norules             Do not generate horizontal rules above headings",
  "  --pascal              Use PascalCase for tags instead of lower_snake_case",
  "  --desc DESC           Short description of the help file, shown on the title",
  "                        line",
  "  --version             Show version information and exit",
  "",
  "Common usage:",
  "  md2vim README.md doc/plugin.txt",
  "  md2vim --desc \"Fuzzy finder\" README.md doc/finder.txt",
  "  md2vim --name plugin.txt - < README.md",
  "",
  "Headings become tagged sections with a table of contents, code and quote",
  "blocks become literal blocks, and lists are indented to the tab width."]

end HelpFile.CommandLine
