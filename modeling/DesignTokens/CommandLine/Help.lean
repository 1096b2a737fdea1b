/-!
# Help

The program and each of its commands have a usage, which is shown with every complaint about a
command line, and details, which are shown on request.
-/

namespace DesignTokens

namespace CommandLine

/-- What is said about the program or a command. -/
structure Help where
  /-- The name, as it stands in front of complaints. -/
  program : String
  /-- The lines of the usage. -/
  usage : List String
  /-- The lines behind the usage, an empty line apart. -/
  details : List String

namespace Help

/-- Lines as they are printed. -/
def printed (lines : List String) : String :=
  String.join (lines.map fun l => l ++ "\n")

/-- The usage as it is printed. -/
def usageText (h : Help) : String :=
  printed h.usage

/-- The whole help as it is printed. -/
def text (h : Help) : String :=
  printed (h.usage ++ "" :: h.details)

/-- The help on the program. -/
def main : Help :=
  { program := "tokenlens"
    usage :=
      [ "usage: tokenlens [-h] [--version] [--no-color] [--root ROOT] [--config CONFIG]",
        "                 [-v]",
        "                 <command> ..." ]
    details :=
      [ "Design token explorer for Ant Design style CSS variables",
        "",
        "options:",
        "  -h, --help       show this help message and exit",
        "  --version        show program's version number and exit",
        "  --no-color       Disable colored output",
        "  --root ROOT      Project root (default: current directory)",
        "  --config CONFIG  Settings file (default: <root>/tokenlens.yaml)",
        "  -v, --verbose    Show library diagnostics",
        "",
        "commands:",
        "  <command>",
        "    list           List active tokens",
        "    search         Search tokens by name",
        "    get            Show one token in every theme and source",
        "    scan           Find var(--token) references in files",
        "    sources        Show configured and discovered token sources",
        "    watch          Keep sources loaded and report token changes",
        "",
        "Commands:",
        "  list        List active tokens",
        "  search      Search tokens by name",
        "  get         Show one token in every theme and source",
        "  scan        Find var(--token) references in files",
        "  sources     Show configured and discovered token sources",
        "  watch       Keep sources loaded and report token changes",
        "",
        "Examples:",
        "  tokenlens list --category color         # Active color tokens (light theme)",
        "  tokenlens search primary --theme dark   # Dark tokens containing 'primary'",
        "  tokenlens get --ant-color-primary       # Values and contributing sources",
        "  tokenlens scan src/app.css              # References with line:column",
        "  tokenlens --root ../web sources         # Sources of another project",
        "        " ] }

/-- The help on listing tokens. -/
def list : Help :=
  { program := "tokenlens list"
    usage :=
      [ "usage: tokenlens list [-h] [--theme \x7blight,dark\x7d]",
        "                      "
          ++ "[--category \x7bcolor,size,font,line,motion,shadow,zIndex,opacity,other\x7d]" ]
    details :=
      [ "List the active token for every name in one theme.",
        "",
        "options:",
        "  -h, --help            show this help message and exit",
        "  --theme \x7blight,dark\x7d  Theme to list (default: light)",
        "  --category \x7bcolor,size,font,line,motion,shadow,zIndex,opacity,other\x7d",
        "                        Only list tokens of this category" ] }

/-- The help on searching tokens. -/
def search : Help :=
  { program := "tokenlens search"
    usage :=
      [ "usage: tokenlens search [-h] [--theme \x7blight,dark\x7d] [--limit LIMIT] keyword" ]
    details :=
      [ "Case-insensitive name search; exact and prefix matches first.",
        "",
        "positional arguments:",
        "  keyword               Text to look for in token names",
        "",
        "options:",
        "  -h, --help            show this help message and exit",
        "  --theme \x7blight,dark\x7d  Only search active tokens of this theme",
        "  --limit LIMIT         Maximum number of results (default: 50)" ] }

/-- The help on showing one token. -/
def get : Help :=
  { program := "tokenlens get"
    usage :=
      [ "usage: tokenlens get [+h] name" ]
    details :=
      [ "positional arguments:",
        "  name        Token name (the '--' prefix is optional)",
        "",
        "options:",
        "  +h, ++help  show this help message and exit" ] }

/-- The help on scanning files. -/
def scan : Help :=
  { program := "tokenlens scan"
    usage :=
      [ "usage: tokenlens scan [-h] [--unknown] files [files ...]" ]
    details :=
      [ "positional arguments:",
        "  files       Files to scan",
        "",
        "options:",
        "  -h, --help  show this help message and exit",
        "  --unknown   Only report references to tokens no source defines" ] }

/-- The help on showing sources. -/
def sources : Help :=
  { program := "tokenlens sources"
    usage :=
      [ "usage: tokenlens sources [-h]" ]
    details :=
      [ "options:",
        "  -h, --help  show this help message and exit" ] }

/-- The help on watching. -/
def watch : Help :=
  { program := "tokenlens watch"
    usage :=
      [ "usage: tokenlens watch [-h]" ]
    details :=
      [ "Watch source files and report token changes until Ctrl+C.",
        "",
        "options:",
        "  -h, --help  show this help message and exit" ] }

end Help

end CommandLine

end DesignTokens
