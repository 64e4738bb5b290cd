import EvmBank.Document.Params
import EvmBank.Toml.Parser

namespace EvmBank.Params

/-- Reads parameters from a TOML text, and refuses those with a flaw. -/
def ofToml (s : String) : Except ConfigError Params := ofDocument Toml.dialect (Toml.parse? s)

end EvmBank.Params
