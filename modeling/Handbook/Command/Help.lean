import Handbook.Command.Arguments

/-!
# Help

The pages of help and the version, line by line.
-/
namespace Handbook

namespace Command

/-- The version line. -/
def versionLine : String := "doc-check 0.1.0"

/-- The lines of a page of help. -/
def Page.lines : Page → List String
  | program => [
    "Check markdown references and build programs from code samples",
    "",
    "Usage: doc-check [OPTIONS] <COMMAND>",
    "",
    "Commands:",
    "  refs     Check that every link in the given markdown files resolves",
    "  example  Extract code samples from a markdown file into a source file",
    "  help     Print this message or the help of the given subcommand(s)",
    "",
    "Options:",
    "  -v, --verbose  Log progress at info level (RUST_LOG overrides)",
    "  -h, --help     Print help",
    "  -V, --version  Print version"]
  | refs => [
    "Check that every link in the given markdown files resolves",
    "",
    "Usage: doc-check refs [OPTIONS] <FILES>...",
    "",
    "Arguments:",
    "  <FILES>...  Markdown files to check",
    "",
    "Options:",
    "      --fail-fast  Stop at the first broken reference",
    "  -v, --verbose    Log progress at info level (RUST_LOG overrides)",
    "  -h, --help       Print help"]
  | sample => [
    "Extract code samples from a markdown file into a source file",
    "",
    "Usage: doc-check example [OPTIONS] <INPUT> <OUTPUT>",
    "",
    "Arguments:",
    "  <INPUT>   Markdown file to process",
    "  <OUTPUT>  Generated source file",
    "",
    "Options:",
    "      --config <CONFIG>      TOML configuration file",
    "  -v, --verbose              Log progress at info level (RUST_LOG overrides)",
    "      --language <LANGUAGE>  Fence tag to extract, replacing the configured markers",
    "  -h, --help                 Print help"]
  | help => [
    "Print this message or the help of the given subcommand(s)",
    "",
    "Usage: doc-check help [COMMAND]...",
    "",
    "Arguments:",
    "  [COMMAND]...  Print help for the subcommand(s)"]

/-- Lines as a text in which every line ends with a line feed. -/
def textOfLines (lines : List String) : String := String.join (lines.map (· ++ "\n"))

/-- The words about arguments that are not understood. -/
def usageHint : String :=
  textOfLines
    ["error: the arguments are not understood", "", "Usage: doc-check [OPTIONS] <COMMAND>", "",
      "For more information, try '--help'."]

end Command

end Handbook
