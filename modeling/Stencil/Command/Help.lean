/-!
What the program says about itself.
-/

namespace Stencil

def versionText : String := "gelato 0.1.0\n"

def usageText : String := "Usage: gelato [OPTIONS] [SRC]...\n"

def helpText : String :=
  "Compile .gel templates into source files\n\n" ++ usageText ++
  "\nArguments:\n" ++
  "  [SRC]...  Glob patterns selecting the templates to compile\n" ++
  "\nOptions:\n" ++
  "  -c, --config <CONFIG>\n" ++
  "          JSON config file\n" ++
  "  -d, --dest <DEST>\n" ++
  "          Output directory\n" ++
  "  -C, --context <CONTEXT>\n" ++
  "          Context as a JSON object; replaces the config file's context\n" ++
  "      --expression-start-tag <EXPRESSION_START_TAG>\n" ++
  "          \n" ++
  "      --expression-end-tag <EXPRESSION_END_TAG>\n" ++
  "          \n" ++
  "      --control-start-tag <CONTROL_START_TAG>\n" ++
  "          \n" ++
  "      --control-end-tag <CONTROL_END_TAG>\n" ++
  "          \n" ++
  "      --include-start-tag <INCLUDE_START_TAG>\n" ++
  "          \n" ++
  "      --include-end-tag <INCLUDE_END_TAG>\n" ++
  "          \n" ++
  "  -h, --help\n" ++
  "          Print help\n" ++
  "  -V, --version\n" ++
  "          Print version\n"

end Stencil
