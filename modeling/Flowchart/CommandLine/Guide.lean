import Flowchart.Text.Basic

/-!
What the program says of itself: an introduction for those who start it without a text, and the list of its
options.
-/

namespace Flowchart.CommandLine

/-- Lines of text, each with its end. -/
def lines (ls : List String) : Text := ls.flatMap fun l => l.toList ++ ['\n']

def introduction : Text := lines
  ["flowdot - render a flowchart DSL with Graphviz",
   "",
   "USAGE:",
   "    flowdot [OPTIONS] [FILE]",
   "    echo '<dsl>' | flowdot",
   "",
   "OPTIONS:",
   "    -f, --format       png, svg, pdf or html (default png)",
   "    -o, --output       Output path (default generated_flowchart)",
   "    -c, --config       Graph and engine settings (TOML file)",
   "    --emit-dot         Print DOT source instead of rendering",
   "    --check            Report lines that will be ignored and dangling edges",
   "    --keep-source      Keep the intermediate .gv file",
   "    -v, --verbose      Log pipeline details",
   "    -h, --help         Print help",
   "",
   "DSL:",
   "    Node declarations, a blank line, then edge declarations.",
   "",
   "    st=>start: Begin",
   "    op=>operation: x = x + 1",
   "    c=>condition: x > 10",
   "    e=>end: Finish",
   "",
   "    st->op",
   "    op->c",
   "    c(yes)->e",
   "    c(no)->op",
   "",
   "Node kinds: start, end, operation, condition, inputoutput, subroutine.",
   "Requires the Graphviz `dot` executable on PATH for rendering."]

def help : Text := lines
  ["Render a flowchart DSL with Graphviz",
   "",
   "Usage: flowdot [OPTIONS] [INPUT]",
   "",
   "Arguments:",
   "  [INPUT]  Input file (reads from stdin if not provided)",
   "",
   "Options:",
   "  -f, --format <FORMAT>  Output format: png, svg, pdf or html [default: png]",
   "  -o, --output <OUTPUT>  Output path; its extension is replaced by the format's [default: generated_flowchart]",
   "  -c, --config <CONFIG>  Configuration file (TOML format)",
   "      --emit-dot         Print DOT source to stdout instead of rendering",
   "      --check            Report skipped lines and dangling edge references, then exit",
   "      --keep-source      Keep the intermediate DOT source next to the output",
   "  -v, --verbose          Log pipeline details to stderr",
   "  -h, --help             Print help"]

/-- What is said of a command line that cannot be used. -/
def misuse : Text := lines
  ["error: unexpected or invalid arguments",
   "",
   "Usage: flowdot [OPTIONS] [INPUT]",
   "",
   "For more information, try '--help'."]

end Flowchart.CommandLine
